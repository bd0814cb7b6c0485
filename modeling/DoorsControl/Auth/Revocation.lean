import DoorsControl.Auth.Rotation

/-!
# Revoking a family

`revoke_family` revokes the rows that exist when it runs. A refresh that has read
its record before, or a login that has drawn the family, inserts afterwards.

* **finality** — `revoked_family_dead`: as long as no `revoke_family` runs while
  another call still has an insert into that family to make, no token of a revoked
  family is live in any later state;
* **the failing schedule** — `revoked_family_alive`: a logout between the lookup of
  a refresh and its inserts.
-/

namespace DoorsControl.Auth

open DoorsControl.Audit

def isRevocation (family : Uuid) : AuthEvent → Bool
  | ⟨.revokeFamily revoked _, _⟩ => revoked = family
  | _ => false

/-- A `revoke_family` statement for the family has committed. -/
def Revoked (p : AuthPool) (family : Uuid) : Prop :=
  ∃ c ∈ p.calls, c.hist.any (isRevocation family) = true

/-- A call that has the family and has not made both its inserts. -/
def pending (family : Uuid) (c : AuthCall) : Bool :=
  unfinished c && c.hist.any (givesFamily family) && insertCount c.hist < 2

/-- The guard: a family is not revoked while an insert into it is pending. -/
def revokedQuietly (p : AuthPool) : AuthAction → Bool
  | .start _ => true
  | .run i _ =>
      match p.calls[i]? with
      | some ⟨_, _, .op (.revokeFamily family _) _⟩ => p.calls.all fun c => !pending family c
      | _ => true

/-- The guarded runs: families that were read are known, and a revoked family has
no unrevoked row and no insert to come. -/
structure RevocationInv (p : AuthPool) : Prop where
  known : ∀ c ∈ p.calls, ∀ hash kind record, ⟨.lookup hash kind, some record⟩ ∈ c.hist →
    record.familyId ∈ p.store.families
  closed : ∀ family, Revoked p family → ∀ row ∈ p.store.tokens.rows, row.familyId = family →
    row.revokedAt ≠ none
  quiet : ∀ family, Revoked p family → ∀ c ∈ p.calls, pending family c = false

/-- A statement makes a call pending only by giving it the family. -/
theorem pending_of_step {req : AuthRequest} {hist : List AuthEvent} {o : AuthOp}
    {next : o.Res → Kit.Prog AuthOp AuthOp.Res AuthOutcome} {r : o.Res} {family : Uuid}
    (now : pending family ⟨req, ⟨o, r⟩ :: hist, next r⟩ = true) :
    pending family ⟨req, hist, .op o next⟩ = true ∨ givesFamily family ⟨o, r⟩ = true := by
  simp only [pending, List.any_cons, Bool.and_eq_true, Bool.or_eq_true, decide_eq_true_eq] at now
  obtain ⟨⟨-, here | before⟩, few⟩ := now
  · exact .inr here
  · refine .inl ?_
    have fewer : insertCount hist < 2 := by
      refine lt_of_le_of_lt ?_ few
      exact List.Sublist.countP_le (List.sublist_cons_self _ _)
    simp [pending, unfinished, before, fewer]

/-- An identifier that was drawn was no family before. -/
theorem exec_uuid4 {i : Nat} {choice : AuthChoice} {s s' : AuthStore} {drawn : Uuid}
    (h : authServer.exec i .uuid4 choice s = some (drawn, s')) : drawn ∉ s.families := by
  simp only [authServer] at h
  split at h
  · cases h
  · rename_i fresh
    obtain ⟨rfl, -⟩ := Prod.mk.inj (Option.some.inj h)
    simpa using fresh

section Guarded

variable {settings : AuthSettings} {ok : AuthPool → AuthAction → Bool} {init p : AuthPool}

/-- Only families that were read are revoked, so a revoked family is known. -/
theorem RevocationInv.revoked_known (inv : RevocationInv p) (noCalls : init.calls = [])
    (reach : Kit.Pool.Reach authServer (serve settings) ok init p) {family : Uuid}
    (revoked : Revoked p family) : family ∈ p.store.families := by
  obtain ⟨c, mem, any⟩ := revoked
  obtain ⟨⟨op, result⟩, happened, isIt⟩ := List.any_eq_true.mp any
  obtain ⟨before, sub, disciplined⟩ := discipline_of_past noCalls reach mem happened
  cases op <;> simp only [isRevocation, Bool.false_eq_true, decide_eq_true_eq] at isIt
  obtain ⟨hash, kind, record, read, rfl⟩ := disciplined
  rw [← isIt]
  exact inv.known c mem hash kind record (sub read)

/-- No statement gives a call a family that is revoked: a draw is fresh, and its
rows are read as revoked. -/
theorem RevocationInv.not_gives (inv : RevocationInv p) {family : Uuid}
    (known : family ∈ p.store.families) (revoked : Revoked p family) {i : Nat}
    {choice : AuthChoice} {o : AuthOp} {r : o.Res} {s' : AuthStore}
    (answer : authServer.exec i o choice p.store = some (r, s')) :
    givesFamily family ⟨o, r⟩ = false := by
  rw [Bool.eq_false_iff]
  intro gives
  unfold givesFamily at gives
  split at gives
  · rename_i drawn same
    cases same
    simp only [decide_eq_true_eq] at gives
    subst gives
    exact exec_uuid4 answer known
  · rename_i hash record same
    cases same
    simp only [Bool.and_eq_true, decide_eq_true_eq, Option.isNone_iff_eq_none] at gives
    obtain ⟨-, row, joined, found, rfl⟩ := exec_lookup answer
    exact inv.closed family revoked row (find?_spec found).1 gives.1.1 gives.2
  · cases gives

/-- What is revoked after a statement was before, or the statement revoked it. -/
theorem revoked_of_step {i : Nat} {req : AuthRequest} {hist : List AuthEvent} {o : AuthOp}
    {next : o.Res → Kit.Prog AuthOp AuthOp.Res AuthOutcome} {r : o.Res} {s' : AuthStore}
    (found : p.calls[i]? = some ⟨req, hist, .op o next⟩) {family : Uuid}
    (revoked : Revoked ⟨s', p.calls.set i ⟨req, ⟨o, r⟩ :: hist, next r⟩⟩ family) :
    Revoked p family ∨ isRevocation family ⟨o, r⟩ = true := by
  obtain ⟨c, mem, any⟩ := revoked
  rcases List.mem_or_eq_of_mem_set mem with old | rfl
  · exact .inl ⟨c, old, any⟩
  · rw [List.any_cons, Bool.or_eq_true] at any
    rcases any with here | before
    · exact .inr here
    · exact .inl ⟨_, List.mem_of_getElem? found, before⟩

/-- The rows of a family that was revoked before the statement. -/
theorem RevocationInv.closed_step (inv : RevocationInv p) {i : Nat} {choice : AuthChoice}
    {req : AuthRequest} {hist : List AuthEvent} {o : AuthOp}
    {next : o.Res → Kit.Prog AuthOp AuthOp.Res AuthOutcome} {r : o.Res} {s' : AuthStore}
    (disciplined : Discipline settings req hist o)
    (found : p.calls[i]? = some ⟨req, hist, .op o next⟩)
    (answer : authServer.exec i o choice p.store = some (r, s')) {family : Uuid}
    (revoked : Revoked p family) {row : TokenRow} (mem : row ∈ s'.tokens.rows)
    (ofFamily : row.familyId = family) : row.revokedAt ≠ none := by
  rcases (exec_advances answer).origin row mem with ⟨old, inside, step⟩ | ⟨token, isNew, same, -⟩
  · exact step.revoked (inv.closed family revoked old inside (step.family_eq.symm.trans ofFamily))
  · -- an insert into the family would have been pending
    cases o <;> simp only [added, reduceCtorEq, Option.some.injEq] at isNew
    subst isNew
    obtain ⟨gives, few⟩ := disciplined
    rw [← same, ofFamily] at gives
    have isPending := inv.quiet family revoked _ (List.mem_of_getElem? found)
    simp [pending, unfinished, gives, few] at isPending

/-- The step that revokes a family, under the guard. -/
theorem closed_of_revocation {i : Nat} {choice : AuthChoice} {o : AuthOp} {r : o.Res}
    {s' : AuthStore} (answer : authServer.exec i o choice p.store = some (r, s')) {family : Uuid}
    (revokes : isRevocation family ⟨o, r⟩ = true) {row : TokenRow} (mem : row ∈ s'.tokens.rows)
    (ofFamily : row.familyId = family) : row.revokedAt ≠ none := by
  cases o <;> simp only [isRevocation, Bool.false_eq_true, decide_eq_true_eq] at revokes
  obtain ⟨-, rfl⟩ := Prod.mk.inj (Option.some.inj answer)
  exact revoked_of_revokeWhere mem (by simp [ofFamily, revokes])

theorem not_pending_of_revocation {i : Nat} {choice : AuthChoice} {req : AuthRequest}
    {hist : List AuthEvent} {o : AuthOp}
    {next : o.Res → Kit.Prog AuthOp AuthOp.Res AuthOutcome} {r : o.Res}
    (guard : revokedQuietly p (.run i choice) = true)
    (found : p.calls[i]? = some ⟨req, hist, .op o next⟩) {family : Uuid}
    (revokes : isRevocation family ⟨o, r⟩ = true) :
    (∀ c ∈ p.calls, pending family c = false) ∧ givesFamily family ⟨o, r⟩ = false := by
  cases o <;> simp only [isRevocation, Bool.false_eq_true, decide_eq_true_eq] at revokes
  subst revokes
  exact ⟨by simpa [revokedQuietly, found] using guard, rfl⟩

/-- One step of a guarded run. -/
theorem RevocationInv.step {q : AuthPool} {a : AuthAction} (noCalls : init.calls = [])
    (reach : Kit.Pool.Reach authServer (serve settings) ok init p) (inv : RevocationInv p)
    (guard : revokedQuietly p a = true)
    (stepped : Kit.Pool.step authServer (serve settings) p a = some q) : RevocationInv q := by
  rcases Kit.Pool.step_cases stepped with
    ⟨req, rfl, rfl⟩ | ⟨i, choice, req, hist, o, next, r, s', rfl, found, answer, rfl⟩
  · have same : ∀ family, Revoked
        { p with calls := p.calls ++ [⟨req, [], serve settings req⟩] } family →
        Revoked p family := by
      rintro family ⟨c, mem, any⟩
      rcases List.mem_append.mp mem with old | isNew
      · exact ⟨c, old, any⟩
      · rw [List.mem_singleton.mp isNew] at any
        cases any
    refine ⟨?_, fun family revoked => inv.closed family (same family revoked), ?_⟩
    · intro c mem hash kind record read
      rcases List.mem_append.mp mem with old | isNew
      · exact inv.known c old hash kind record read
      · rw [List.mem_singleton.mp isNew] at read
        cases read
    · intro family revoked c mem
      rcases List.mem_append.mp mem with old | isNew
      · exact inv.quiet family (same family revoked) c old
      · rw [List.mem_singleton.mp isNew]
        simp [pending]
  · have disciplined := discipline_of_reach noCalls reach found
    have mine : ⟨req, hist, .op o next⟩ ∈ p.calls := List.mem_of_getElem? found
    have grow := exec_families answer
    refine ⟨?_, ?_, ?_⟩
    · intro c mem hash kind record read
      rcases List.mem_or_eq_of_mem_set mem with old | rfl
      · exact grow (inv.known c old hash kind record read)
      · rcases List.mem_cons.mp read with here | before
        · cases here
          obtain ⟨-, row, joined, isRow, rfl⟩ := exec_lookup answer
          exact grow (p.store.known row (find?_spec isRow).1)
        · exact grow (inv.known _ mine hash kind record before)
    · intro family revoked row mem ofFamily
      rcases revoked_of_step found revoked with before | here
      · exact inv.closed_step disciplined found answer before mem ofFamily
      · exact closed_of_revocation answer here mem ofFamily
    · intro family revoked c mem
      have quiet : (∀ c ∈ p.calls, pending family c = false) ∧
          givesFamily family ⟨o, r⟩ = false := by
        rcases revoked_of_step found revoked with before | here
        · exact ⟨inv.quiet family before,
            inv.not_gives (inv.revoked_known noCalls reach before) before answer⟩
        · exact not_pending_of_revocation guard found here
      rcases List.mem_or_eq_of_mem_set mem with old | rfl
      · exact quiet.1 c old
      · rw [Bool.eq_false_iff]
        intro now
        rcases pending_of_step now with before | gives
        · rw [quiet.1 _ mine] at before
          cases before
        · rw [quiet.2] at gives
          cases gives

end Guarded

/-- **Revocation of a family is final**: once a `revoke_family` for it has
committed, no token of it is live, whatever the clock, the user and the device. -/
theorem revoked_family_dead (settings : AuthSettings) (init p : AuthPool)
    (noCalls : init.calls = [])
    (reach : Kit.Pool.Reach authServer (serve settings) revokedQuietly init p)
    (family : Uuid) (revoked : Revoked p family) :
    ∀ row ∈ p.store.tokens.rows, row.familyId = family →
      ∀ joined now, isLive (row.record joined) now = false := by
  have inv : RevocationInv p := by
    refine reach.invariant RevocationInv ?_ ?_
    · refine ⟨?_, ?_, ?_⟩ <;> simp [noCalls, Revoked]
    · intro p a q reach inv guard stepped
      exact inv.step noCalls reach guard stepped
  intro row mem ofFamily joined now
  have gone := inv.closed family revoked row mem ofFamily
  have : row.revokedAt.isNone = false := by
    cases at_ : row.revokedAt with
    | none => exact absurd at_ gone
    | some _ => rfl
  simp [isLive, TokenRow.record, this]

/-! ## A logout and a refresh -/

/-- The statements of a logout with the bearer token `a0`, as call `i`. -/
def logoutActions (i : Nat) : List AuthAction :=
  [.run i { joined := some sampleJoined }, .run i {}, .run i {}, .run i {}]

/-- The refresh first, then the logout. -/
def logoutAfterRefresh : List AuthAction :=
  [.start (.refresh "r0" none), .start (.logout "a0" false none),
   .run 0 { joined := some sampleJoined }] ++ rotateActions 0 "a1" "r1" 10 ++ logoutActions 1

/-- The logout between the lookup of the refresh and the rest of it. -/
def logoutDuringRefresh : List AuthAction :=
  [.start (.refresh "r0" none), .start (.logout "a0" false none),
   .run 0 { joined := some sampleJoined }] ++ logoutActions 1 ++ rotateActions 0 "a1" "r1" 10

theorem revoked_family_dead_sample :
    ∃ p : AuthPool, Revoked p 7 ∧ ∀ row ∈ p.store.tokens.rows, row.familyId = 7 →
      ∀ joined now, isLive (row.record joined) now = false := by
  obtain ⟨p, reach, seen⟩ := Kit.Pool.reach_of_map_run (f := fun p : AuthPool =>
      p.calls.any fun c => c.hist.any (isRevocation 7)) logoutAfterRefresh
    (show (Kit.Pool.run authServer (serve sampleSettings) revokedQuietly samplePool
      logoutAfterRefresh).map _ = some true by decide +kernel)
  have revoked : Revoked p 7 := List.any_eq_true.mp seen
  exact ⟨p, revoked, revoked_family_dead sampleSettings samplePool p rfl reach 7 revoked⟩

/-- The family was revoked, and a token of it is live. -/
theorem revoked_family_alive :
    ∃ p : AuthPool,
      Kit.Pool.Reach authServer (serve sampleSettings) (fun _ _ => true) samplePool p ∧
        Revoked p 7 ∧ ∃ row ∈ p.store.tokens.rows, row.familyId = 7 ∧
          isLive (row.record sampleJoined) 0 = true := by
  obtain ⟨p, reach, seen⟩ := Kit.Pool.reach_of_map_run (f := fun p : AuthPool =>
      (p.calls.any (fun c => c.hist.any (isRevocation 7)),
       p.store.tokens.rows.any fun row =>
         row.familyId = 7 && isLive (row.record sampleJoined) 0)) logoutDuringRefresh
    (show (Kit.Pool.run authServer (serve sampleSettings) (fun _ _ => true) samplePool
      logoutDuringRefresh).map _ = some (true, true) by decide +kernel)
  obtain ⟨revoked, alive⟩ := Prod.mk.inj seen
  refine ⟨p, reach, List.any_eq_true.mp revoked, ?_⟩
  obtain ⟨row, mem, is⟩ := List.any_eq_true.mp alive
  simp only [Bool.and_eq_true, decide_eq_true_eq] at is
  exact ⟨row, mem, is⟩

end DoorsControl.Auth
