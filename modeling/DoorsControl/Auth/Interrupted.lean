import DoorsControl.Auth.Families
import DoorsControl.Kit.Failing

/-!
# A refresh that fails half way

Every statement of `AuthService.refresh` commits by itself, and nothing undoes the earlier ones
when a later one fails. `docs/01-architecture.md` on a token that comes again: "the honest user is
signed out and signs in again, which is an annoyance".

* `UsedUp` — what a refresh leaves behind once its first statement has run;
* `rotate_ends` — it is kept whichever statement fails afterwards;
* `retry_ends` — and the same token kills its family;
* `refresh_interrupted` — **which failure leaves the table as it was**: that of the first statement;
* `half_refreshed` — a token that was used up for nothing.
-/

namespace DoorsControl.Auth

open Kit.Prog

/-- The statements of `refresh` after the lookup, in their order. -/
inductive RefreshStatement where
  | markUsed
  | revoke
  | insertAccess
  | insertRefresh
  | audit
  deriving DecidableEq

/-- The operation is this statement. -/
def RefreshStatement.is : RefreshStatement → AuthOp → Bool
  | .markUsed, .markUsed _ => true
  | .revoke, .revoke _ _ => true
  | .insertAccess, .insert token => token.kind = .access
  | .insertRefresh, .insert token => token.kind = .refresh
  | .audit, .audit _ => true
  | _, _ => false

section Refresh

variable (settings : AuthSettings) (token : String) (clientIp : Option Text)

/-- A refresh, run alone from `s`. -/
def refreshRun (fails : AuthOp → Bool) (choices : Nat → AuthChoice) (s : AuthStore) :
    Option (Ran AuthStore AuthOp AuthOp.Res (Except AuthError IssuedTokens)) :=
  failing authServer fails choices [] s (refresh settings token clientIp).run

/-- The call finds its token live, and unused. -/
structure Presents (choices : Nat → AuthChoice) (s : AuthStore) (row : TokenRow)
    (joined : Joined) : Prop where
  found : s.tokens.find? (hashToken settings token) .refresh = some row
  unused : row.usedAt = none
  known : (choices 0).joined = some joined
  live : isLive (row.record joined) (choices 1).now = true

end Refresh

/-- The row of the token is used now; all else that is new are tokens of its family. -/
structure UsedUp (row : TokenRow) (before after : TokenTable) : Prop where
  used : ∃ r ∈ after.rows, r.tokenHash = row.tokenHash ∧ r.kind = row.kind ∧
    r.familyId = row.familyId ∧ r.usedAt ≠ none
  others : ∀ r ∈ before.rows, r.id ≠ row.id → r ∈ after.rows
  added : ∀ r ∈ after.rows, r ∈ before.rows ∨ r.id = row.id ∨
    (r.familyId = row.familyId ∧ r.parentId = some row.id)

/-! ## The tables along the way -/

section Tables

variable {row : TokenRow} {before after : TokenTable}

/-- An update of the row leaves the others alone. -/
theorem update_others (row : TokenRow) {t : TokenTable} {f : TokenRow → TokenRow}
    {keeps : ∀ r, (f r).id = r.id ∧ (f r).tokenHash = r.tokenHash}
    (same : ∀ r, r.id ≠ row.id → f r = r) :
    (∀ r ∈ t.rows, r.id ≠ row.id → r ∈ (t.update f keeps).rows) ∧
      ∀ r ∈ (t.update f keeps).rows, r ∈ t.rows ∨ r.id = row.id := by
  refine ⟨?_, ?_⟩
  · intro r mem other
    exact List.mem_map.mpr ⟨r, mem, same r other⟩
  · intro r' mem
    obtain ⟨r, inside, rfl⟩ := List.mem_map.mp mem
    by_cases other : r.id = row.id
    · exact .inr ((keeps r).1.trans other)
    · rw [same r other]
      exact .inl inside

theorem usedUp_markUsed (mem : row ∈ before.rows) (unused : row.usedAt = none)
    (now : Audit.Timestamp) : UsedUp row before (before.markUsed row.id now) := by
  have untouched : ∀ r : TokenRow, r.id ≠ row.id →
      (if r.id = row.id ∧ r.usedAt = none then { r with usedAt := some now } else r) = r :=
    fun r other => if_neg fun both => other both.1
  obtain ⟨others, added⟩ := update_others row (t := before) untouched
  refine ⟨⟨{ row with usedAt := some now }, ?_, rfl, rfl, rfl, Option.some_ne_none _⟩, others, ?_⟩
  · exact List.mem_map.mpr ⟨row, mem, if_pos ⟨rfl, unused⟩⟩
  · exact fun r inside => (added r inside).imp_right .inl

theorem UsedUp.revoke (usedUp : UsedUp row before after) (reason : String)
    (now : Audit.Timestamp) :
    UsedUp row before (after.revokeWhere (fun r => r.id = row.id) reason now) := by
  have untouched : ∀ r : TokenRow, r.id ≠ row.id →
      (if (decide (r.id = row.id) && r.revokedAt.isNone) = true then
        { r with revokedAt := some now, revokedReason := some reason } else r) = r :=
    fun r other => if_neg (by simp [other])
  obtain ⟨others, added⟩ := update_others row (t := after) untouched
  obtain ⟨r, mem, hash, kind, family, used⟩ := usedUp.used
  refine ⟨⟨_, List.mem_map_of_mem mem, ?_⟩, ?_, ?_⟩
  · split_ifs <;> exact ⟨hash, kind, family, used⟩
  · exact fun r mem other => others r (usedUp.others r mem other) other
  · intro r inside
    rcases added r inside with old | isRow
    · exact usedUp.added r old
    · exact .inr (.inl isRow)

theorem UsedUp.insert (usedUp : UsedUp row before after) {new : NewToken} {id : Uuid}
    {now : Audit.Timestamp} {tables : TokenTable} (inserted : after.insert new id now = .ok tables)
    (family : new.familyId = row.familyId) (parent : new.parentId = some row.id) :
    UsedUp row before tables := by
  have shape := (insert_rows_eq inserted).1
  obtain ⟨r, mem, is⟩ := usedUp.used
  refine ⟨⟨r, shape ▸ List.mem_append_left _ mem, is⟩, ?_, ?_⟩
  · exact fun r mem other => shape ▸ List.mem_append_left _ (usedUp.others r mem other)
  · intro r inside
    rw [shape] at inside
    rcases List.mem_append.mp inside with old | isNew
    · exact usedUp.added r old
    · rw [List.mem_singleton.mp isNew]
      exact .inr (.inr ⟨family, parent⟩)

end Tables

/-! ## The rotation -/

section Rotation

variable {row : TokenRow} {before : TokenTable} {s : AuthStore} {fails : AuthOp → Bool}
  {choices : Nat → AuthChoice} {hist : List AuthEvent} {α : Type}

/-- The token is used up, and what comes back takes `passed`. -/
structure Spoilt (row : TokenRow) (before : TokenTable) (passed : Prop)
    (ran : Ran AuthStore AuthOp AuthOp.Res (Except AuthError α)) : Prop where
  usedUp : UsedUp row before ran.store.tokens
  passed : ∀ value, ran.ended = .value (.ok value) → passed

/-- A statement other than a draw fails, or is answered and the rest is run. -/
theorem ends_answered {Q : Ran AuthStore AuthOp AuthOp.Res (Except AuthError α) → Prop}
    {o : AuthOp} {f : o.Res → Py α} (notDraw : o ≠ .uuid4)
    (failed : fails o = true → Q ⟨hist, s, .failed o⟩)
    (rest : fails o = false → ∀ r s', authServer.exec 0 o (choices hist.length) s = some (r, s') →
      Ends authServer fails choices Q (⟨o, r⟩ :: hist) s' (f r).run) :
    Ends authServer fails choices Q hist s (call o >>= f).run := by
  refine ends_call failed ?_
  intro answered
  obtain ⟨r, s', answer⟩ := exec_answers (i := 0) notDraw (choices hist.length) s
  exact ⟨r, s', answer, rest answered r s' answer⟩

/-- One that leaves the tokens alone, after the token is used up. -/
theorem spoilt_reads {passed : Prop} {o : AuthOp} {f : o.Res → Py α}
    (usedUp : UsedUp row before s.tokens) (reads : readsOnly o = true)
    (rest : fails o = false → ∀ r,
      Ends authServer fails choices (Spoilt row before passed) (⟨o, r⟩ :: hist) s (f r).run) :
    Ends authServer fails choices (Spoilt row before passed) hist s (call o >>= f).run := by
  refine ends_answered (by rintro rfl; cases reads) (fun _ => ⟨usedUp, nofun⟩) ?_
  intro answered r s' answer
  obtain rfl := exec_readsOnly reads answer
  exact rest answered r

/-- An insert into the family: it fails, is refused, or adds its row. -/
theorem spoilt_insert {passed : Prop} {token : NewToken} {f : Uuid → Py α}
    (usedUp : UsedUp row before s.tokens) (family : token.familyId = row.familyId)
    (parent : token.parentId = some row.id)
    (rest : fails (.insert token) = false → ∀ id hist s', UsedUp row before s'.tokens →
      Ends authServer fails choices (Spoilt row before passed) hist s' (f id).run) :
    Ends authServer fails choices (Spoilt row before passed) hist s (insert token >>= f).run := by
  refine ends_seq (ends_answered (by rintro ⟨⟩) (fun _ => ⟨usedUp, by rintro _ ⟨⟩⟩) ?_)
  intro answered result s' answer
  simp only [authServer] at answer
  split at answer
  · rename_i tables inserted
    obtain ⟨rfl, rfl⟩ := Prod.mk.inj (Option.some.inj answer)
    exact ends_pure (rest answered _ _ _ (usedUp.insert inserted family parent))
  · obtain ⟨rfl, rfl⟩ := Prod.mk.inj (Option.some.inj answer)
    exact ends_pure ⟨usedUp, by rintro _ ⟨⟩⟩

variable (settings : AuthSettings) {statement : RefreshStatement}

/-- A pair comes back if none of the two inserts fails. -/
theorem issuePair_ends {userId deviceId : Uuid} (usedUp : UsedUp row before s.tokens) :
    Ends authServer statement.is choices
      (Spoilt row before (statement ≠ .insertAccess ∧ statement ≠ .insertRefresh)) hist s
      (issuePair settings userId deviceId (some row.familyId) (some row.id)).run := by
  refine spoilt_reads usedUp rfl fun _ access => spoilt_reads usedUp rfl fun _ refresh => ?_
  refine spoilt_insert usedUp rfl rfl ?_
  intro notAccess _ _ _ usedUp
  refine spoilt_insert usedUp rfl rfl ?_
  intro notRefresh _ _ _ usedUp
  refine ends_pure ⟨usedUp, fun _ _ => ⟨?_, ?_⟩⟩
  · rintro rfl
    cases notAccess
  · rintro rfl
    cases notRefresh

/-- Whichever statement after the first fails, the token is used up and no pair comes back. -/
theorem rotate_ends (later : statement ≠ .markUsed) {record : TokenRecord}
    (mem : row ∈ s.tokens.rows) (unused : row.usedAt = none) (isRow : record.id = row.id)
    (ofFamily : record.familyId = row.familyId) (clientIp : Option Text) :
    Ends authServer statement.is choices (Spoilt row s.tokens False) hist s
      (refreshRotate settings record clientIp).run := by
  unfold refreshRotate
  rw [isRow, ofFamily]
  refine ends_answered nofun ?_ ?_
  · intro fails
    cases statement with
    | markUsed => exact absurd rfl later
    | revoke | insertAccess | insertRefresh | audit => cases fails
  intro _ _ s₁ marked
  obtain ⟨-, rfl⟩ := Prod.mk.inj (Option.some.inj marked)
  have usedUp := usedUp_markUsed mem unused (choices hist.length).now
  refine ends_answered nofun (fun _ => ⟨usedUp, nofun⟩) ?_
  intro notRevoke _ s₂ revoked
  obtain ⟨-, rfl⟩ := Prod.mk.inj (Option.some.inj revoked)
  have usedUp := usedUp.revoke "rotated" (choices (hist.length + 1)).now
  refine ends_seq ((issuePair_ends settings usedUp).mono ?_)
  rintro ⟨hist, s, ended⟩ ⟨usedUp, passed⟩
  rcases ended with (error | pair) | o
  · exact ⟨usedUp, nofun⟩
  · obtain ⟨notAccess, notRefresh⟩ := passed pair rfl
    refine spoilt_reads usedUp rfl fun notAudit _ => ends_pure ⟨usedUp, fun _ _ => ?_⟩
    -- the statement is one of the five
    cases statement with
    | markUsed => exact later rfl
    | revoke => cases notRevoke
    | insertAccess => exact notAccess rfl
    | insertRefresh => exact notRefresh rfl
    | audit => cases notAudit
  · exact ⟨usedUp, nofun⟩

/-- The token is presented again: the call raises, and its family is revoked. -/
theorem retry_ends {token : String} (clientIp : Option Text) (usedUp : UsedUp row before s.tokens)
    (hash : row.tokenHash = hashToken settings token) (kind : row.kind = .refresh)
    (linked : (choices 0).joined ≠ none) :
    Ends authServer (fun _ => false) choices (fun ran =>
      ran.ended = .value (.error (.authentication "refresh_reuse")) ∧
        ∀ r ∈ ran.store.tokens.rows, r.familyId = row.familyId → r.revokedAt ≠ none) [] s
      (refresh settings token clientIp).run := by
  obtain ⟨r, mem, sameHash, sameKind, family, used⟩ := usedUp.used
  have found := find?_of_mem mem
  rw [sameHash, sameKind, hash, kind] at found
  obtain ⟨joined, isJoined⟩ := Option.ne_none_iff_exists'.mp linked
  obtain ⟨usedAt, isUsed⟩ := Option.ne_none_iff_exists'.mp used
  have recordUsed : (r.record joined).usedAt = some usedAt := isUsed
  refine ends_answered nofun nofun ?_
  intro _ result s₁ answer
  obtain ⟨rfl, rfl⟩ := Prod.mk.inj (Option.some.inj answer)
  simp only [List.length_nil, found, isJoined, Option.bind_some, Option.map_some, recordUsed]
  refine ends_answered nofun nofun ?_
  intro _ count s₂ revoked
  obtain ⟨-, rfl⟩ := Prod.mk.inj (Option.some.inj revoked)
  refine ends_answered nofun nofun ?_
  intro _ _ s₃ answer
  obtain rfl := exec_readsOnly rfl answer
  refine ends_pure ⟨rfl, ?_⟩
  intro r' inside ofFamily
  exact revoked_of_revokeWhere inside (decide_eq_true (ofFamily.trans family.symm))

/-- The first statements of a refresh whose token is live and unused. -/
theorem refresh_ends (clientIp : Option Text) {fails : AuthOp → Bool} {token : String}
    {joined : Joined}
    {Q : Ran AuthStore AuthOp AuthOp.Res (Except AuthError IssuedTokens) → Prop}
    (presents : Presents settings token choices s row joined)
    (lookup : ∀ hash kind, fails (.lookup hash kind) = false) (clock : fails .utcNow = false)
    (rest : ∀ hist, Ends authServer fails choices Q hist s
      (refreshRotate settings (row.record joined) clientIp).run) :
    Ends authServer fails choices Q [] s (refresh settings token clientIp).run := by
  refine ends_answered nofun (fun failed => by rw [lookup] at failed; cases failed) ?_
  intro _ result s₁ answer
  obtain ⟨rfl, rfl⟩ := Prod.mk.inj (Option.some.inj answer)
  have recordUnused : (row.record joined).usedAt = none := presents.unused
  simp only [List.length_nil, presents.found, presents.known, Option.bind_some, Option.map_some,
    recordUnused]
  refine ends_answered nofun (fun failed => by rw [clock] at failed; cases failed) ?_
  intro _ now s₂ answer
  obtain ⟨rfl, rfl⟩ := Prod.mk.inj (Option.some.inj answer)
  simp only [List.length_cons, List.length_nil, Nat.zero_add, presents.live]
  exact rest _

end Rotation

/-- **A failed refresh.** When `mark_used` fails, nothing has happened. When a later statement
fails, no pair comes back and the token is used up: all other rows are as they were, and new are
only tokens of its family, issued for it. Presented again it raises, and every token of the family
is revoked, those among them. -/
theorem refresh_interrupted (settings : AuthSettings) (token : String) (clientIp : Option Text)
    (statement : RefreshStatement) (choices : Nat → AuthChoice) (s : AuthStore) (row : TokenRow)
    (joined : Joined) (presents : Presents settings token choices s row joined) :
    ∃ ran, refreshRun settings token clientIp statement.is choices s = some ran ∧
      (∀ pair, ran.ended ≠ .value (.ok pair)) ∧
      (statement = .markUsed → ran.store = s) ∧
      (statement ≠ .markUsed → UsedUp row s.tokens ran.store.tokens ∧
        ∀ clientIp' choices', (choices' 0).joined ≠ none →
          ∃ again, refreshRun settings token clientIp' (fun _ => false) choices' ran.store =
              some again ∧
            again.ended = .value (.error (.authentication "refresh_reuse")) ∧
            ∀ r ∈ again.store.tokens.rows, r.familyId = row.familyId → r.revokedAt ≠ none) := by
  obtain ⟨mem, hash⟩ := find?_spec presents.found
  by_cases first : statement = .markUsed
  · subst first
    have stopped : ∀ hist, Ends authServer (RefreshStatement.is .markUsed) choices
        (fun ran => ran.store = s ∧ ran.ended = .failed (.markUsed row.id)) hist s
        (refreshRotate settings (row.record joined) clientIp).run :=
      fun hist => ends_answered nofun (fun _ => ⟨rfl, rfl⟩) fun answered => nomatch answered
    obtain ⟨ran, isRun, same, ended⟩ :=
      refresh_ends settings clientIp presents (fun _ _ => rfl) rfl stopped
    refine ⟨ran, isRun, ?_, fun _ => same, fun other => absurd rfl other⟩
    rw [ended]
    exact nofun
  · have others : ∀ hash kind, statement.is (.lookup hash kind) = false := by
      intro hash kind
      cases statement <;> rfl
    have clock : statement.is .utcNow = false := by cases statement <;> rfl
    obtain ⟨ran, isRun, usedUp, nothing⟩ := refresh_ends settings clientIp presents others
      clock fun hist => rotate_ends settings first mem presents.unused rfl rfl clientIp
    refine ⟨ran, isRun, nothing, fun is => absurd is first, fun _ => ⟨usedUp, ?_⟩⟩
    intro clientIp' choices' linked
    exact retry_ends settings clientIp' usedUp hash (kind_of_find? presents.found) linked

/-! ### One session, and a statement that fails -/

/-- The draws of a refresh of `r0`. -/
def interruptedChoices (n : Nat) : AuthChoice :=
  { joined := some sampleJoined
    uuid := 20 + n
    token := if n = 4 then "a1" else "r1" }

theorem sample_presents : Presents sampleSettings "r0" interruptedChoices sampleStore
    (sampleRow 4 .refresh "r0") sampleJoined where
  found := by
    have inside : sampleRow 4 .refresh "r0" ∈ sampleStore.tokens.rows :=
      List.mem_cons_of_mem _ List.mem_cons_self
    exact find?_of_mem inside
  unused := rfl
  known := rfl
  live := by decide

theorem refresh_interrupted_sample :
    ∃ ran, refreshRun sampleSettings "r0" none RefreshStatement.audit.is interruptedChoices
        sampleStore = some ran ∧
      UsedUp (sampleRow 4 .refresh "r0") sampleStore.tokens ran.store.tokens := by
  obtain ⟨ran, isRun, -, -, later⟩ := refresh_interrupted sampleSettings "r0" none .audit
    interruptedChoices sampleStore (sampleRow 4 .refresh "r0") sampleJoined sample_presents
  exact ⟨ran, isRun, (later nofun).1⟩

/-- The second statement fails, and the token is used: the table is not what it was. -/
theorem half_refreshed :
    ¬∀ settings token clientIp statement choices s row joined,
      Presents settings token choices s row joined →
      ∀ ran, refreshRun settings token clientIp (RefreshStatement.is statement) choices s =
        some ran → ran.store.tokens = s.tokens := by
  intro atomic
  have rows : (refreshRun sampleSettings "r0" none RefreshStatement.revoke.is interruptedChoices
      sampleStore).map (fun ran => ran.store.tokens.rows.map TokenRow.usedAt) =
        some [none, some 0] := by
    decide +kernel
  obtain ⟨ran, isRun, used⟩ := Option.map_eq_some_iff.mp rows
  rw [atomic _ _ _ _ _ _ _ _ sample_presents ran isRun] at used
  exact absurd used (by decide)

end DoorsControl.Auth
