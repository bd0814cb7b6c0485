import DoorsControl.Auth.Service

/-!
# What one call does, and what one statement does

* `Discipline` — for every statement of a call, what the call has done before it:
  only a record read as unused is marked, only a family that was drawn or read
  live is inserted into, only a family that was read is revoked. `serve_disciplined`
  proves it of login, refresh and logout.
* `exec_advances`, `exec_families` — what a statement does to the store.
-/

namespace DoorsControl.Auth

open DoorsControl.Audit Kit.Prog

/-- A refresh token that the call read as unused. -/
def readUnused (id : Uuid) : AuthEvent → Bool
  | ⟨.lookup _ .refresh, some record⟩ => record.id = id && record.usedAt.isNone
  | _ => false

/-- Where a call has a family from that it inserts into: it drew the identifier, or
read it from a refresh token that was neither used nor revoked. -/
def givesFamily (family : Uuid) : AuthEvent → Bool
  | ⟨.uuid4, drawn⟩ => drawn = family
  | ⟨.lookup _ .refresh, some record⟩ =>
      record.familyId = family && record.usedAt.isNone && record.revokedAt.isNone
  | _ => false

def isInsert : AuthEvent → Bool
  | ⟨.insert _, _⟩ => true
  | _ => false

/-- The inserts a call has made. -/
def insertCount (hist : List AuthEvent) : Nat := hist.countP isInsert

/-- Each statement, with what went before it. -/
def Discipline (settings : AuthSettings) (req : AuthRequest) (hist : List AuthEvent) :
    AuthOp → Prop
  | .lookup hash kind => hist = [] ∧ (kind = .refresh →
      ∃ token clientIp, req = .refresh token clientIp ∧ hash = hashToken settings token)
  | .markUsed id => hist.any (readUnused id) = true
  | .insert token => hist.any (givesFamily token.familyId) = true ∧ insertCount hist < 2
  | .revokeFamily family _ => ∃ hash kind record,
      ⟨.lookup hash kind, some record⟩ ∈ hist ∧ record.familyId = family
  | _ => True

def IsAuthenticationError {α : Type} (outcome : Except AuthError α) : Prop :=
  ∃ reason, outcome = .error (.authentication reason)

/-- The call read the token's record as unused, and marked it. -/
def MarkedUnused (settings : AuthSettings) (token : String) (hist : List AuthEvent) : Prop :=
  ∃ record, ⟨.lookup (hashToken settings token) .refresh, some record⟩ ∈ hist ∧
    record.usedAt = none ∧ ⟨.markUsed record.id, ()⟩ ∈ hist

/-- How a refresh ends: with an `AuthenticationError`, or after it marked its
token. -/
def Earned (settings : AuthSettings) (req : AuthRequest) (hist : List AuthEvent)
    (outcome : AuthOutcome) : Prop :=
  ∀ token clientIp, req = .refresh token clientIp →
    IsAuthenticationError outcome ∨ MarkedUnused settings token hist

section Programs

variable (settings : AuthSettings) (req : AuthRequest)

/-- An insert, and what follows it when it succeeds. -/
theorem always_insertBind {ok : List AuthEvent → AuthOp → Prop} {hist : List AuthEvent}
    {α : Type} {post : List AuthEvent → Except AuthError α → Prop} (token : NewToken)
    (f : Uuid → Py α) :
    Always ok post hist (insert token >>= f).run ↔
      ok hist (.insert token) ∧
        (∀ id, Always ok post (⟨.insert token, .ok id⟩ :: hist) (f id).run) ∧
        ∀ error, post (⟨.insert token, .error error⟩ :: hist) (.error (.database error)) := by
  constructor
  · rintro ⟨allowed, more⟩
    exact ⟨allowed, fun id => more (.ok id), fun error => more (.error error)⟩
  · rintro ⟨allowed, succeeds, fails⟩
    refine ⟨allowed, ?_⟩
    rintro (error | id)
    · exact fails error
    · exact succeeds id

/-- What `issue_pair` leaves behind: everything that was in the history. -/
def Extends (hist : List AuthEvent) (hist' : List AuthEvent) (outcome : Except AuthError IssuedTokens) :
    Prop :=
  hist ⊆ hist' ∧ ((∃ pair, outcome = .ok pair) ∨ ∃ error, outcome = .error (.database error))

/-- `issue_pair` inserts twice, into a family that the call has. -/
theorem issuePair_into {userId deviceId family : Uuid} {parentId : Option Uuid}
    {hist : List AuthEvent} (has : hist.any (givesFamily family) = true)
    (noInsert : insertCount hist = 0) :
    Always (Discipline settings req) (Extends hist) hist
      (issuePair settings userId deviceId (some family) parentId).run := by
  have keep : ∀ e : AuthEvent, ∀ h : List AuthEvent, h.any (givesFamily family) = true →
      (e :: h).any (givesFamily family) = true := by
    intro e h any
    simp [any]
  -- two draws, then an insert after none and an insert after one
  refine ⟨trivial, fun access => ⟨trivial, fun refresh => ?_⟩⟩
  have before : insertCount (⟨.newToken, refresh⟩ :: ⟨.newToken, access⟩ :: hist) = 0 := by
    simpa [insertCount, isInsert] using noInsert
  have grows : hist ⊆ ⟨.newToken, refresh⟩ :: ⟨.newToken, access⟩ :: hist := by simp
  refine (always_insertBind _ _).mpr ⟨⟨keep _ _ (keep _ _ has), by rw [before]; decide⟩,
    fun id => ?_, fun error => ⟨List.subset_cons_of_subset _ grows, .inr ⟨error, rfl⟩⟩⟩
  refine (always_insertBind _ _).mpr ⟨⟨keep _ _ (keep _ _ (keep _ _ has)), ?_⟩,
    fun id' => ⟨?_, .inl ⟨_, rfl⟩⟩, fun error => ⟨?_, .inr ⟨error, rfl⟩⟩⟩
  · rw [insertCount, List.countP_cons_of_pos rfl, ← insertCount, before]
    decide
  · exact List.subset_cons_of_subset _ (List.subset_cons_of_subset _ grows)
  · exact List.subset_cons_of_subset _ (List.subset_cons_of_subset _ grows)

/-- Without a family given, `issue_pair` draws one. -/
theorem issuePair_drawn {userId deviceId : Uuid} {parentId : Option Uuid} {hist : List AuthEvent}
    (noInsert : insertCount hist = 0) :
    Always (Discipline settings req) (Extends hist) hist
      (issuePair settings userId deviceId none parentId).run := by
  refine ⟨trivial, fun family => ?_⟩
  have more := @issuePair_into settings req userId deviceId family parentId
    (⟨.uuid4, family⟩ :: hist) (by simp [givesFamily]) (by simpa [insertCount, isInsert] using noInsert)
  refine more.mono ?_
  rintro hist' outcome ⟨sub, ends⟩
  exact ⟨fun e mem => sub (List.mem_cons_of_mem _ mem), ends⟩

theorem loginAccepted_disciplined {userId deviceId : Uuid} {clientIp : Option Text}
    {hist : List AuthEvent} (noInsert : insertCount hist = 0) :
    Always (Discipline settings req) (fun _ _ => True) hist
      (loginAccepted settings userId deviceId clientIp).run := by
  refine (always_exceptBind _ _).mpr ((issuePair_drawn settings req noInsert).mono ?_)
  rintro hist' (error | pair) -
  · trivial
  · exact ⟨trivial, fun _ => ⟨trivial, fun _ => ⟨trivial, fun _ => trivial⟩⟩⟩

theorem login_disciplined (username password : String) (deviceId : Uuid)
    (clientIp : Option Text) :
    Always (Discipline settings req) (fun _ _ => True) []
      (login settings username password deviceId clientIp).run := by
  refine (always_callBind _ _).mpr ⟨trivial, ?_⟩
  rintro (_ | user)
  · trivial
  · dsimp only
    split
    · trivial
    · split
      · trivial
      · refine (always_callBind _ _).mpr ⟨trivial, ?_⟩
        rintro (_ | device)
        · trivial
        · dsimp only
          split_ifs
          · trivial
          · trivial
          · trivial
          · exact loginAccepted_disciplined settings req (by simp [insertCount, isInsert])

/-- The rotation of a record that was read unused and unrevoked. -/
theorem refreshRotate_disciplined (token : String) {record : TokenRecord}
    {clientIp : Option Text} {hist : List AuthEvent}
    (read : ⟨.lookup (hashToken settings token) .refresh, some record⟩ ∈ hist)
    (unused : record.usedAt = none) (unrevoked : record.revokedAt = none)
    (noInsert : insertCount hist = 0) :
    Always (Discipline settings req) (fun hist _ => MarkedUnused settings token hist) hist
      (refreshRotate settings record clientIp).run := by
  have mark : hist.any (readUnused record.id) = true :=
    List.any_eq_true.mpr ⟨_, read, by simp [readUnused, unused]⟩
  have gives : hist.any (givesFamily record.familyId) = true :=
    List.any_eq_true.mpr ⟨_, read, by simp [givesFamily, unused, unrevoked]⟩
  refine (always_callBind _ _).mpr ⟨mark, fun _ => ?_⟩
  refine (always_callBind _ _).mpr ⟨trivial, fun _ => ?_⟩
  refine (always_exceptBind _ _).mpr ((issuePair_into settings req (by simp [gives])
    (by simpa [insertCount, isInsert] using noInsert)).mono ?_)
  rintro hist' outcome ⟨sub, -⟩
  have marked : MarkedUnused settings token hist' :=
    ⟨record, sub (by simp [read]), unused, sub (by simp)⟩
  obtain ⟨again, isRead, isUnused, isMarked⟩ := marked
  cases outcome with
  | error error => exact ⟨again, isRead, isUnused, isMarked⟩
  | ok pair =>
      exact ⟨trivial, fun _ => ⟨again, List.mem_cons_of_mem _ isRead, isUnused,
        List.mem_cons_of_mem _ isMarked⟩⟩

theorem refresh_disciplined (token : String) (clientIp : Option Text) :
    Always (Discipline settings (.refresh token clientIp))
      (fun hist outcome => IsAuthenticationError outcome ∨ MarkedUnused settings token hist) []
      (refresh settings token clientIp).run := by
  refine (always_callBind _ _).mpr ⟨⟨rfl, fun _ => ⟨token, clientIp, rfl, rfl⟩⟩, ?_⟩
  rintro (_ | record)
  · exact .inl ⟨_, rfl⟩
  · dsimp only
    split
    · -- used before: the family it was read with is revoked
      refine (always_callBind _ _).mpr ⟨⟨_, _, record, List.mem_singleton.mpr rfl, rfl⟩,
        fun _ => ?_⟩
      exact ⟨trivial, fun _ => .inl ⟨_, rfl⟩⟩
    · rename_i unused
      refine (always_callBind _ _).mpr ⟨trivial, fun now => ?_⟩
      split
      · exact .inl ⟨_, rfl⟩
      · rename_i live
        have unrevoked : record.revokedAt = none := by
          simp only [isLive, Bool.not_eq_true', Bool.not_eq_false, Bool.and_eq_true,
            Option.isNone_iff_eq_none] at live
          exact live.1.1.1
        refine (refreshRotate_disciplined settings _ token (by simp) unused unrevoked
          (by simp [insertCount, isInsert])).mono ?_
        intro hist outcome marked
        exact .inr marked

theorem logout_disciplined (bearer : String) (allDevices : Bool) (clientIp : Option Text) :
    Always (Discipline settings req) (fun _ _ => True) []
      (do let session ← resolveAccessToken settings bearer
          AuthReply.revoked <$> logout session allDevices clientIp : Py AuthReply).run := by
  refine (always_exceptBind _ _).mpr ?_
  refine (always_callBind _ _).mpr ⟨⟨rfl, by simp⟩, ?_⟩
  rintro (_ | record)
  · trivial
  · refine (always_callBind _ _).mpr ⟨trivial, fun now => ?_⟩
    split_ifs
    · trivial
    · trivial
    · refine (always_exceptMap _ _).mpr ?_
      cases allDevices with
      | true => exact ⟨trivial, fun _ => ⟨trivial, fun _ => trivial⟩⟩
      | false =>
          exact ⟨⟨hashToken settings bearer, .access, record, by simp, rfl⟩,
            fun _ => ⟨trivial, fun _ => trivial⟩⟩

end Programs

/-- Every request keeps to the discipline, and every refresh ends as `Earned`
says. -/
theorem serve_disciplined (settings : AuthSettings) (req : AuthRequest) :
    Always (Discipline settings req) (Earned settings req) [] (serve settings req) := by
  cases req with
  | login username password deviceId clientIp =>
      refine (always_exceptMap _ _).mpr
        ((login_disciplined settings _ username password deviceId clientIp).mono ?_)
      intro hist outcome _ token clientIp impossible
      cases impossible
  | refresh token clientIp =>
      refine (always_exceptMap _ _).mpr ((refresh_disciplined settings token clientIp).mono ?_)
      rintro hist outcome ends token' clientIp' same
      obtain ⟨rfl, rfl⟩ := AuthRequest.refresh.inj same
      refine ends.imp ?_ id
      rintro ⟨reason, rfl⟩
      exact ⟨reason, rfl⟩
  | logout bearer allDevices clientIp =>
      refine (logout_disciplined settings _ bearer allDevices clientIp).mono ?_
      intro hist outcome _ token clientIp impossible
      cases impossible

/-! ## What a statement does to the store -/

/-- The row a statement may add. -/
def added : AuthOp → Option NewToken
  | .insert token => some token
  | _ => none

/-- Rows advance, and only an insert adds one. -/
theorem exec_advances {i : Nat} {o : AuthOp} {choice : AuthChoice} {s s' : AuthStore} {r : o.Res}
    (h : authServer.exec i o choice s = some (r, s')) :
    TableAdvances s.tokens s'.tokens (added o) := by
  cases o with
  | insert token =>
      simp only [authServer] at h
      split at h
      · rename_i inserted
        obtain ⟨-, rfl⟩ := Prod.mk.inj (Option.some.inj h)
        exact tableAdvances_insert inserted
      · obtain ⟨-, rfl⟩ := Prod.mk.inj (Option.some.inj h)
        exact .refl _ _
  | markUsed id =>
      obtain ⟨-, rfl⟩ := Prod.mk.inj (Option.some.inj h)
      exact tableAdvances_markUsed ..
  | revoke id reason =>
      obtain ⟨-, rfl⟩ := Prod.mk.inj (Option.some.inj h)
      exact tableAdvances_revokeWhere ..
  | revokeFamily family reason =>
      obtain ⟨-, rfl⟩ := Prod.mk.inj (Option.some.inj h)
      exact tableAdvances_revokeWhere ..
  | revokeDeviceSessions device reason =>
      obtain ⟨-, rfl⟩ := Prod.mk.inj (Option.some.inj h)
      exact tableAdvances_revokeWhere ..
  | uuid4 =>
      simp only [authServer] at h
      split at h
      · cases h
      · obtain ⟨-, rfl⟩ := Prod.mk.inj (Option.some.inj h)
        exact .refl _ _
  | byUsername | deviceById | touchLogin | touchSeen | lookup | utcNow | newToken | audit =>
      obtain ⟨-, rfl⟩ := Prod.mk.inj (Option.some.inj h)
      exact .refl _ _

/-- Families are only ever added. -/
theorem exec_families {i : Nat} {o : AuthOp} {choice : AuthChoice} {s s' : AuthStore} {r : o.Res}
    (h : authServer.exec i o choice s = some (r, s')) : s.families ⊆ s'.families := by
  cases o with
  | insert token =>
      simp only [authServer] at h
      split at h
      · obtain ⟨-, rfl⟩ := Prod.mk.inj (Option.some.inj h)
        exact List.subset_cons_self _ _
      · obtain ⟨-, rfl⟩ := Prod.mk.inj (Option.some.inj h)
        exact List.Subset.refl _
  | uuid4 =>
      simp only [authServer] at h
      split at h
      · cases h
      · obtain ⟨-, rfl⟩ := Prod.mk.inj (Option.some.inj h)
        exact List.subset_cons_self _ _
  | markUsed | revoke | revokeFamily | revokeDeviceSessions | byUsername | deviceById | touchLogin
  | touchSeen | lookup | utcNow | newToken | audit =>
      obtain ⟨-, rfl⟩ := Prod.mk.inj (Option.some.inj h)
      exact List.Subset.refl _

/-- A record that a lookup returns is that of a row under the hash. -/
theorem exec_lookup {i : Nat} {hash : Bytes} {kind : TokenKind} {choice : AuthChoice}
    {s s' : AuthStore} {record : TokenRecord}
    (h : authServer.exec i (.lookup hash kind) choice s = some (some record, s')) :
    s' = s ∧ ∃ row joined, s.tokens.find? hash kind = some row ∧ record = row.record joined := by
  obtain ⟨found, rfl⟩ := Prod.mk.inj (Option.some.inj h)
  obtain ⟨row, isRow, more⟩ := Option.bind_eq_some_iff.mp found
  obtain ⟨joined, -, rfl⟩ := Option.map_eq_some_iff.mp more
  exact ⟨rfl, row, joined, isRow, rfl⟩

section Runs

variable {settings : AuthSettings} {ok : AuthPool → AuthAction → Bool} {init p : AuthPool}

/-- The next statement of a call keeps to the discipline. -/
theorem discipline_of_reach (none : init.calls = [])
    (reach : Kit.Pool.Reach authServer (serve settings) ok init p) {i : Nat} {req : AuthRequest}
    {hist : List AuthEvent} {o : AuthOp} {next : o.Res → Kit.Prog AuthOp AuthOp.Res AuthOutcome}
    (found : p.calls[i]? = some ⟨req, hist, .op o next⟩) : Discipline settings req hist o := by
  have steps := reach.steps none _ (List.mem_of_getElem? found)
  exact ((serve_disciplined settings req).along steps).1

/-- A finished refresh has earned its outcome. -/
theorem earned_of_reach (none : init.calls = [])
    (reach : Kit.Pool.Reach authServer (serve settings) ok init p) {i : Nat} {req : AuthRequest}
    {hist : List AuthEvent} {outcome : AuthOutcome}
    (found : p.calls[i]? = some ⟨req, hist, .pure outcome⟩) : Earned settings req hist outcome := by
  have steps := reach.steps none _ (List.mem_of_getElem? found)
  exact (serve_disciplined settings req).along steps

/-- Every statement in a history kept to it too. -/
theorem discipline_of_past (none : init.calls = [])
    (reach : Kit.Pool.Reach authServer (serve settings) ok init p) {c : AuthCall}
    (mem : c ∈ p.calls) {e : AuthEvent} (happened : e ∈ c.hist) :
    ∃ before ⊆ c.hist, Discipline settings c.req before e.op := by
  obtain ⟨later, before, shape⟩ := List.append_of_mem happened
  refine ⟨before, ?_, (serve_disciplined settings c.req).past (reach.steps none c mem) shape⟩
  rw [shape]
  intro x inside
  simp [inside]

end Runs

end DoorsControl.Auth
