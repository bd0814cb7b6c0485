import DoorsControl.Auth.Statements

/-!
# Refresh rotation under concurrency

`refresh` reads the record, decides, and marks the token used in a later statement
that does not report whether it marked anything. Between the two, another call can
read the same record as unused.

* **single use** — `refresh_once`: as long as no refresh token is looked up while
  another call is between reading it unused and marking it, at most one call that
  presents it does not end in an `AuthenticationError`;
* **the failing schedule** — `refresh_twice`: two calls that both read the record
  before either marks it, and both return a pair.
-/

namespace DoorsControl.Auth

open DoorsControl.Audit

def unfinished (c : AuthCall) : Bool := c.result.isNone

def isMark (id : Uuid) : AuthEvent → Bool
  | ⟨.markUsed marked, _⟩ => marked = id
  | _ => false

/-- A call that has read the token unused and has not marked it yet. -/
def inWindow (c : AuthCall) (id : Uuid) : Bool :=
  unfinished c && c.hist.any (readUnused id) && !c.hist.any (isMark id)

/-- The guard: a refresh token is not looked up inside another call's window. -/
def refreshAlone (p : AuthPool) : AuthAction → Bool
  | .start _ => true
  | .run i _ =>
      match p.calls[i]? with
      | some ⟨_, _, .op (.lookup hash .refresh) _⟩ =>
          match p.store.tokens.find? hash .refresh with
          | some row => p.calls.all fun c => !inWindow c row.id
          | none => true
      | _ => true

/-- A call that marked the token or is about to. -/
def engaged (c : AuthCall) (id : Uuid) : Bool := c.hist.any (isMark id) || inWindow c id

/-- The guarded runs: what was read is in the table, what was marked is used, and
no two calls are engaged with one token. -/
structure RotationInv (p : AuthPool) : Prop where
  present : ∀ c ∈ p.calls, ∀ hash record, ⟨.lookup hash .refresh, some record⟩ ∈ c.hist →
    ∃ row ∈ p.store.tokens.rows, row.id = record.id ∧ row.tokenHash = hash
  marked : ∀ c ∈ p.calls, ∀ id, c.hist.any (isMark id) = true →
    ∃ row ∈ p.store.tokens.rows, row.id = id ∧ row.usedAt ≠ none
  apart : ∀ (i j : Nat) (c d : AuthCall), p.calls[i]? = some c → p.calls[j]? = some d → i ≠ j →
    ∀ id, engaged c id = true → engaged d id = true → False

/-- A statement engages a call with a token only by reading it unused. -/
theorem engaged_of_step {settings : AuthSettings} {req : AuthRequest} {hist : List AuthEvent}
    {o : AuthOp} {next : o.Res → Kit.Prog AuthOp AuthOp.Res AuthOutcome} {r : o.Res} {id : Uuid}
    (disciplined : Discipline settings req hist o)
    (now : engaged ⟨req, ⟨o, r⟩ :: hist, next r⟩ id = true) :
    engaged ⟨req, hist, .op o next⟩ id = true ∨ readUnused id ⟨o, r⟩ = true := by
  by_cases before : hist.any (isMark id) = true
  · exact .inl (by simp [engaged, before])
  by_cases read : hist.any (readUnused id) = true
  · exact .inl (by simp [engaged, inWindow, unfinished, before, read])
  · right
    simp only [engaged, inWindow, List.any_cons, before, read, Bool.or_false, Bool.or_eq_true,
      Bool.and_eq_true] at now
    rcases now with marks | window
    · -- marking needs an unused record in the history
      cases o <;> simp only [isMark, Bool.false_eq_true, decide_eq_true_eq] at marks
      subst marks
      exact absurd disciplined read
    · exact window.1.2

section Guarded

variable {settings : AuthSettings} {p : AuthPool}

/-- Rows never go away, so what was read or marked stays. -/
theorem RotationInv.kept (inv : RotationInv p) {s' : AuthStore} {token : Option NewToken}
    (advances : TableAdvances p.store.tokens s'.tokens token) {c : AuthCall} (mem : c ∈ p.calls) :
    (∀ hash record, ⟨.lookup hash .refresh, some record⟩ ∈ c.hist →
      ∃ row ∈ s'.tokens.rows, row.id = record.id ∧ row.tokenHash = hash) ∧
    (∀ id, c.hist.any (isMark id) = true →
      ∃ row ∈ s'.tokens.rows, row.id = id ∧ row.usedAt ≠ none) := by
  refine ⟨?_, ?_⟩
  · intro hash record read
    obtain ⟨row, inside, sameId, sameHash⟩ := inv.present c mem hash record read
    obtain ⟨row', inside', step⟩ := advances.kept row inside
    exact ⟨row', inside', step.id_eq.trans sameId, step.hash_eq.trans sameHash⟩
  · intro id mark
    obtain ⟨row, inside, sameId, used⟩ := inv.marked c mem id mark
    obtain ⟨row', inside', step⟩ := advances.kept row inside
    exact ⟨row', inside', step.id_eq.trans sameId, step.used used⟩

/-- What the statement just performed adds to the first part. -/
theorem present_step {i : Nat} {choice : AuthChoice} {hash : Bytes} {record : TokenRecord}
    {o : AuthOp} {r : o.Res} {s' : AuthStore}
    (answer : authServer.exec i o choice p.store = some (r, s'))
    (event : (⟨.lookup hash .refresh, some record⟩ : AuthEvent) = ⟨o, r⟩) :
    ∃ row ∈ s'.tokens.rows, row.id = record.id ∧ row.tokenHash = hash := by
  cases event
  obtain ⟨rfl, row, joined, found, rfl⟩ := exec_lookup answer
  obtain ⟨inside, sameHash⟩ := find?_spec found
  exact ⟨row, inside, rfl, sameHash⟩

/-- What it adds to the second. -/
theorem marked_step (inv : RotationInv p) {i : Nat} {choice : AuthChoice} {req : AuthRequest}
    {hist : List AuthEvent} {o : AuthOp}
    {next : o.Res → Kit.Prog AuthOp AuthOp.Res AuthOutcome} {r : o.Res} {s' : AuthStore} {id : Uuid}
    (disciplined : Discipline settings req hist o)
    (found : p.calls[i]? = some ⟨req, hist, .op o next⟩)
    (answer : authServer.exec i o choice p.store = some (r, s'))
    (mark : isMark id ⟨o, r⟩ = true) :
    ∃ row ∈ s'.tokens.rows, row.id = id ∧ row.usedAt ≠ none := by
  have advances := exec_advances answer
  cases o <;> simp only [isMark, Bool.false_eq_true, decide_eq_true_eq] at mark
  subst mark
  -- the record it read is a row, and this statement marks the row
  obtain ⟨e, happened, unused⟩ := List.any_eq_true.mp disciplined
  obtain ⟨op, result⟩ := e
  unfold readUnused at unused
  split at unused
  · rename_i hash record same
    cases same
    simp only [Bool.and_eq_true, decide_eq_true_eq] at unused
    obtain ⟨row, inside, sameId, -⟩ :=
      inv.present _ (List.mem_of_getElem? found) hash record happened
    obtain ⟨row', inside', step⟩ := advances.kept row inside
    obtain ⟨-, rfl⟩ := Prod.mk.inj (Option.some.inj answer)
    have isRow : row'.id = _ := (step.id_eq.trans sameId).trans unused.1
    exact ⟨row', inside', isRow, used_of_markUsed inside' isRow⟩
  · cases unused

/-- Reading a token unused, under the guard, finds no other call engaged with it. -/
theorem not_engaged_of_read (inv : RotationInv p) {i : Nat} {choice : AuthChoice}
    {req : AuthRequest} {hist : List AuthEvent} {o : AuthOp}
    {next : o.Res → Kit.Prog AuthOp AuthOp.Res AuthOutcome} {r : o.Res} {s' : AuthStore} {id : Uuid}
    (guard : refreshAlone p (.run i choice) = true)
    (found : p.calls[i]? = some ⟨req, hist, .op o next⟩)
    (answer : authServer.exec i o choice p.store = some (r, s'))
    (read : readUnused id ⟨o, r⟩ = true) {c : AuthCall} (mem : c ∈ p.calls) :
    engaged c id = false := by
  unfold readUnused at read
  split at read
  · rename_i hash record same
    cases same
    simp only [Bool.and_eq_true, decide_eq_true_eq, Option.isNone_iff_eq_none] at read
    obtain ⟨rfl, row, joined, isRow, rfl⟩ := exec_lookup answer
    obtain ⟨sameId, unused⟩ := read
    change row.id = id at sameId
    change row.usedAt = none at unused
    rw [Bool.eq_false_iff]
    intro isEngaged
    rcases Bool.or_eq_true _ _ ▸ isEngaged with mark | window
    · -- marked means used, and the row was read unused
      obtain ⟨row', inside', sameId', used⟩ := inv.marked c mem id mark
      have : row' = row := List.inj_on_of_nodup_map p.store.tokens.ids_unique inside'
        (find?_spec isRow).1 (sameId'.trans sameId.symm)
      exact used (this ▸ unused)
    · simp only [refreshAlone, found, isRow, List.all_eq_true, Bool.not_eq_eq_eq_not,
        Bool.not_true] at guard
      rw [← sameId, guard c mem] at window
      cases window
  · cases read

/-- One step of a guarded run. -/
theorem RotationInv.step {ok : AuthPool → AuthAction → Bool} {init q : AuthPool}
    {a : AuthAction} (noCalls : init.calls = [])
    (reach : Kit.Pool.Reach authServer (serve settings) ok init p) (inv : RotationInv p)
    (guard : refreshAlone p a = true)
    (stepped : Kit.Pool.step authServer (serve settings) p a = some q) : RotationInv q := by
  rcases Kit.Pool.step_cases stepped with
    ⟨req, rfl, rfl⟩ | ⟨i, choice, req, hist, o, next, r, s', rfl, found, answer, rfl⟩
  · have new : ∀ id, engaged ⟨req, [], serve settings req⟩ id = false := by
      simp [engaged, inWindow]
    refine ⟨?_, ?_, ?_⟩
    · intro c mem hash record read
      rcases List.mem_append.mp mem with old | isNew
      · exact inv.present c old hash record read
      · rw [List.mem_singleton.mp isNew] at read
        cases read
    · intro c mem id mark
      rcases List.mem_append.mp mem with old | isNew
      · exact inv.marked c old id mark
      · rw [List.mem_singleton.mp isNew] at mark
        cases mark
    · intro i j c d getC getD ne id engagedC engagedD
      rcases Kit.Pool.get_append_cases getC with oldC | rfl
      · rcases Kit.Pool.get_append_cases getD with oldD | rfl
        · exact inv.apart i j c d oldC oldD ne id engagedC engagedD
        · rw [new] at engagedD
          cases engagedD
      · rw [new] at engagedC
        cases engagedC
  · have disciplined := discipline_of_reach noCalls reach found
    have advances := exec_advances answer
    have mine : ⟨req, hist, .op o next⟩ ∈ p.calls := List.mem_of_getElem? found
    have clash : ∀ j d, j ≠ i → p.calls[j]? = some d → ∀ id,
        engaged ⟨req, ⟨o, r⟩ :: hist, next r⟩ id = true → engaged d id = true → False := by
      intro j d ne get id engagedNew engagedD
      rcases engaged_of_step disciplined engagedNew with before | read
      · exact inv.apart i j _ d found get ne.symm id before engagedD
      · rw [not_engaged_of_read inv guard found answer read (List.mem_of_getElem? get)] at engagedD
        cases engagedD
    refine ⟨?_, ?_, ?_⟩
    · intro c mem hash record read
      rcases List.mem_or_eq_of_mem_set mem with old | rfl
      · exact (inv.kept advances old).1 hash record read
      · rcases List.mem_cons.mp read with here | before
        · exact present_step answer here
        · exact (inv.kept advances mine).1 hash record before
    · intro c mem id mark
      rcases List.mem_or_eq_of_mem_set mem with old | rfl
      · exact (inv.kept advances old).2 id mark
      · rw [List.any_cons, Bool.or_eq_true] at mark
        rcases mark with here | before
        · exact marked_step inv disciplined found answer here
        · exact (inv.kept advances mine).2 id before
    · intro j k c d getC getD ne id engagedC engagedD
      rcases Kit.Pool.get_set_cases getC with ⟨rfl, rfl⟩ | ⟨other, oldC⟩
      · rcases Kit.Pool.get_set_cases getD with ⟨rfl, -⟩ | ⟨other, oldD⟩
        · exact ne rfl
        · exact clash k d other oldD id engagedC engagedD
      · rcases Kit.Pool.get_set_cases getD with ⟨rfl, rfl⟩ | ⟨other', oldD⟩
        · exact clash j c other oldC id engagedD engagedC
        · exact inv.apart j k c d oldC oldD ne id engagedC engagedD

theorem rotationInv_of_reach {init : AuthPool} (noCalls : init.calls = [])
    (reach : Kit.Pool.Reach authServer (serve settings) refreshAlone init p) : RotationInv p := by
  refine reach.invariant RotationInv ?_ ?_
  · refine ⟨?_, ?_, ?_⟩ <;> simp [noCalls]
  · intro p a q reach inv guard stepped
    exact inv.step noCalls reach guard stepped

/-- A token that a call marked: the call is engaged with the row under its hash. -/
theorem RotationInv.engaged_row (inv : RotationInv p) {c : AuthCall} (mem : c ∈ p.calls)
    {token : String} (marked : MarkedUnused settings token c.hist) :
    ∃ row ∈ p.store.tokens.rows, row.tokenHash = hashToken settings token ∧
      engaged c row.id = true := by
  obtain ⟨record, read, -, mark⟩ := marked
  obtain ⟨row, inside, sameId, sameHash⟩ := inv.present c mem _ record read
  refine ⟨row, inside, sameHash, ?_⟩
  have : c.hist.any (isMark row.id) = true :=
    List.any_eq_true.mpr ⟨_, mark, by simp [isMark, sameId]⟩
  simp [engaged, this]

end Guarded

/-- A finished call that presents the token was refused, or is engaged with the row
under its hash. -/
theorem refused_or_engaged {settings : AuthSettings} {init p : AuthPool}
    (noCalls : init.calls = [])
    (reach : Kit.Pool.Reach authServer (serve settings) refreshAlone init p) {i : Nat}
    {c : AuthCall} {token : String} {outcome : AuthOutcome} (get : p.calls[i]? = some c)
    (presents : c.req.presents token = true) (done : c.result = some outcome) :
    IsAuthenticationError outcome ∨
      ∃ row ∈ p.store.tokens.rows, row.tokenHash = hashToken settings token ∧
        engaged c row.id = true := by
  rw [Kit.Call.prog_of_result done] at get
  cases request : c.req with
  | refresh presented clientIp =>
      simp only [request, AuthRequest.presents, decide_eq_true_eq] at presents
      refine (earned_of_reach noCalls reach get token clientIp (by rw [request, presents])).imp
        id fun marked => ?_
      rw [← Kit.Call.prog_of_result done] at get
      exact (rotationInv_of_reach noCalls reach).engaged_row (List.mem_of_getElem? get) marked
  | login => simp [request, AuthRequest.presents] at presents
  | logout => simp [request, AuthRequest.presents] at presents

/-- **A refresh token is used once.** Of two calls that present it, one ends in an
`AuthenticationError`, in every run in which no refresh token is looked up inside
another call's window. -/
theorem refresh_once (settings : AuthSettings) (init p : AuthPool) (noCalls : init.calls = [])
    (reach : Kit.Pool.Reach authServer (serve settings) refreshAlone init p)
    (token : String) (i j : Nat) (other : i ≠ j) (c d : AuthCall)
    (getC : p.calls[i]? = some c) (getD : p.calls[j]? = some d)
    (presentsC : c.req.presents token = true) (presentsD : d.req.presents token = true)
    (outcome outcome' : AuthOutcome)
    (doneC : c.result = some outcome) (doneD : d.result = some outcome') :
    IsAuthenticationError outcome ∨ IsAuthenticationError outcome' := by
  have inv := rotationInv_of_reach noCalls reach
  rcases refused_or_engaged noCalls reach getC presentsC doneC with
    refused | ⟨row, inside, hash, engagedC⟩
  · exact .inl refused
  rcases refused_or_engaged noCalls reach getD presentsD doneD with
    refused | ⟨row', inside', hash', engagedD⟩
  · exact .inr refused
  obtain rfl := row_eq_of_hash_eq p.store.tokens inside inside' (hash.trans hash'.symm)
  exact absurd engagedD fun is => inv.apart i j c d getC getD other _ engagedC is

/-! ## Two calls with one token -/

def sampleSettings : AuthSettings where
  pepperBytes := [1, 2, 3]
  accessTokenTtl := 900
  refreshTokenTtl := 2592000
  attestationStrict := true
  verifyPassword := fun stored password => stored = password
  isoformat := fun _ => text "1970-01-01T00:00:00+00:00"

def sampleJoined : Joined := ⟨true, false, "Ann", "ann", false, .verified⟩

/-- A row of one session, family 7, that nobody has touched. -/
def sampleRow (id : Uuid) (kind : TokenKind) (token : String) : TokenRow where
  id := id
  familyId := 7
  userId := 2
  deviceId := 3
  kind := kind
  tokenHash := hashToken sampleSettings token
  parentId := none
  issuedAt := 0
  expiresAt := 900000000
  usedAt := none
  revokedAt := none
  revokedReason := none

/-- One session with its access token `a0` and its refresh token `r0`. -/
def sampleStore : AuthStore where
  tokens :=
    { rows := [sampleRow 1 .access "a0", sampleRow 4 .refresh "r0"]
      ids_unique := by decide
      hashes_unique := by decide +kernel }
  families := [7]
  known := by simp [sampleRow]

def samplePool : AuthPool := ⟨sampleStore, []⟩

/-- The statements of `refresh` after its lookup, with the draws of call `i`. -/
def rotateActions (i : Nat) (access refresh : String) (id : Uuid) : List AuthAction :=
  [.run i {}, .run i {}, .run i {}, .run i { token := access }, .run i { token := refresh },
   .run i { uuid := id }, .run i { uuid := id + 1 }, .run i {}]

/-- Call 1 comes when call 0 is done: it is refused, and revokes the family. -/
def oneAfterTheOther : List AuthAction :=
  [.start (.refresh "r0" none), .start (.refresh "r0" none),
   .run 0 { joined := some sampleJoined }] ++ rotateActions 0 "a1" "r1" 10 ++
  [.run 1 { joined := some sampleJoined }, .run 1 {}, .run 1 {}]

/-- Both calls look the token up before either marks it. -/
def bothAtOnce : List AuthAction :=
  [.start (.refresh "r0" none), .start (.refresh "r0" none),
   .run 0 { joined := some sampleJoined }, .run 1 { joined := some sampleJoined }] ++
  rotateActions 0 "a1" "r1" 10 ++ rotateActions 1 "a2" "r2" 20

/-- The call exchanged the token for a pair. -/
def exchanged (token : String) (c : AuthCall) : Bool :=
  c.req.presents token && match c.result with
    | some (.ok _) => true
    | _ => false

theorem refresh_once_sample :
    ∃ (p : AuthPool) (c d : AuthCall) (outcome outcome' : AuthOutcome), p.calls = [c, d] ∧
      c.result = some outcome ∧ d.result = some outcome' ∧
        (IsAuthenticationError outcome ∨ IsAuthenticationError outcome') := by
  obtain ⟨p, reach, seen⟩ := Kit.Pool.reach_of_map_run (f := fun p : AuthPool =>
      p.calls.map fun c => (c.req.presents "r0", c.result.isSome)) oneAfterTheOther
    (show (Kit.Pool.run authServer (serve sampleSettings) refreshAlone samplePool
      oneAfterTheOther).map _ = some [(true, true), (true, true)] by decide +kernel)
  obtain ⟨c, rest, calls, seenC, seenRest⟩ := List.map_eq_cons_iff.mp seen
  obtain ⟨d, rest', rfl, seenD, seenRest'⟩ := List.map_eq_cons_iff.mp seenRest
  obtain rfl := List.map_eq_nil_iff.mp seenRest'
  obtain ⟨presentsC, doneC⟩ := Prod.mk.inj seenC
  obtain ⟨presentsD, doneD⟩ := Prod.mk.inj seenD
  obtain ⟨outcome, doneC⟩ := Option.isSome_iff_exists.mp doneC
  obtain ⟨outcome', doneD⟩ := Option.isSome_iff_exists.mp doneD
  exact ⟨p, c, d, outcome, outcome', calls, doneC, doneD,
    refresh_once sampleSettings samplePool p rfl reach "r0" 0 1 (by decide) c d
      (by simp [calls]) (by simp [calls]) presentsC presentsD outcome outcome' doneC doneD⟩

/-- Two calls exchange one refresh token. -/
theorem refresh_twice :
    ∃ p : AuthPool,
      Kit.Pool.Reach authServer (serve sampleSettings) (fun _ _ => true) samplePool p ∧
        p.calls.map (exchanged "r0") = [true, true] := by
  apply Kit.Pool.reach_of_map_run bothAtOnce
  decide +kernel

end DoorsControl.Auth
