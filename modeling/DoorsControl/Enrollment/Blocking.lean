import DoorsControl.Enrollment.OneCode

/-!
# A device that is shut out

Nothing looks for the tokens of a device when it is blocked, or when its user is deactivated,
and a call that has passed its own checks goes on to insert more. It is the join of
`TokenRepository.lookup` that keeps them out.

* `serve_sourced` — a token is issued for a device and for the user that owns it;
* `OwnerInv` — **the invariant**: every token's user owns its device, and what a call was told
  about owners is still true;
* `blocked_device_refused` — **no token of a shut device is accepted** by a lookup that comes
  later.
-/

namespace DoorsControl.Enrollment

open DoorsControl.Audit (Timestamp)
open DoorsControl.Auth (AuthError AuthEvent AuthOp AuthOutcome AuthReply AuthRequest AuthSettings
  DeviceRecord Session TokenRecord TokenRow authServer hashToken isLive)
open Kit.Prog

/-- What a token that is not live is refused with. -/
def notLive : AuthError := .authentication "access_token_not_live"

/-! ## Whom tokens are for -/

section Tokens

variable (settings : AuthSettings)

/-- Tokens are issued for this device and this user. -/
def IssuesFor (userId deviceId : Uuid) (_ : List AuthEvent) : AuthOp → Prop
  | .insert token => token.userId = userId ∧ token.deviceId = deviceId
  | _ => True

variable {userId deviceId : Uuid} {past : List AuthEvent}

theorem insert_issuesFor {token : Auth.NewToken} (user : token.userId = userId)
    (device : token.deviceId = deviceId) :
    Always (IssuesFor userId deviceId) (OnOk fun _ _ => True) past (Auth.insert token).run := by
  refine ⟨⟨user, device⟩, fun answer => ?_⟩
  cases answer <;> trivial

theorem issuePair_issuesFor (familyId parentId : Option Uuid) :
    Always (IssuesFor userId deviceId) (OnOk fun _ _ => True) past
      (Auth.issuePair settings userId deviceId familyId parentId).run := by
  have drawn : ∀ family past, Always (IssuesFor userId deviceId) (OnOk fun _ _ => True) past
      (Auth.issuePair settings userId deviceId (some family) parentId).run := by
    intro family past
    refine ⟨trivial, fun access => ⟨trivial, fun refresh => ?_⟩⟩
    refine always_seq (insert_issuesFor rfl rfl) fun _ _ _ => ?_
    refine always_seq (insert_issuesFor rfl rfl) fun _ _ _ => ?_
    trivial
  cases familyId with
  | some family => exact drawn family past
  | none => exact ⟨trivial, fun family => drawn family _⟩

/-- The device was read, and is the user's, or a token for it was. -/
def Looked (past : List AuthEvent) (userId deviceId : Uuid) : Prop :=
  (∃ device, ⟨.deviceById deviceId, some device⟩ ∈ past ∧ device.userId = userId) ∨
    ∃ hash kind record, ⟨.lookup hash kind, some record⟩ ∈ past ∧ record.userId = userId ∧
      record.deviceId = deviceId

theorem Looked.cons (e : AuthEvent) (looked : Looked past userId deviceId) :
    Looked (e :: past) userId deviceId := by
  rcases looked with ⟨device, mem, same⟩ | ⟨hash, kind, record, mem, same⟩
  · exact .inl ⟨device, List.mem_cons_of_mem _ mem, same⟩
  · exact .inr ⟨hash, kind, record, List.mem_cons_of_mem _ mem, same⟩

/-- `AuthService` issues tokens for what it has read. -/
def IssuesLooked (past : List AuthEvent) : AuthOp → Prop
  | .insert token => Looked past token.userId token.deviceId
  | _ => True

theorem issuesLooked_of_issuesFor {α : Type} {post : List AuthEvent → α → Prop}
    {p : Kit.Prog AuthOp AuthOp.Res α} (h : Always (IssuesFor userId deviceId) post past p)
    (looked : Looked past userId deviceId) : Always IssuesLooked post past p := by
  induction p generalizing past with
  | pure value => exact h
  | op o next ih =>
      refine ⟨?_, fun r => ih r (h.2 r) (looked.cons _)⟩
      cases o with
      | insert token =>
          obtain ⟨rfl, rfl⟩ := h.1
          exact looked
      | _ => trivial

theorem login_issuesLooked (username password : String) (deviceId : Uuid)
    (clientIp : Option Text) :
    Always IssuesLooked (OnOk fun _ _ => True) []
      (Auth.login settings username password deviceId clientIp).run := by
  simp only [Auth.login, always_callBind]
  refine ⟨trivial, fun user => ?_⟩
  cases user with
  | none => trivial
  | some user =>
      dsimp only
      split_ifs
      · trivial
      · trivial
      · simp only [always_callBind]
        refine ⟨trivial, fun device => ?_⟩
        cases device with
        | none => trivial
        | some device =>
            dsimp only
            split_ifs with owner
            · trivial
            · trivial
            · trivial
            · -- the device is the user's
              refine always_seq (issuesLooked_of_issuesFor (issuePair_issuesFor settings none none)
                (.inl ⟨device, List.mem_cons_self, not_not.mp owner⟩)) fun _ _ _ => ?_
              exact ⟨trivial, fun _ => ⟨trivial, fun _ => ⟨trivial, fun _ => trivial⟩⟩⟩

theorem refresh_issuesLooked (token : String) (clientIp : Option Text) :
    Always IssuesLooked (OnOk fun _ _ => True) []
      (Auth.refresh settings token clientIp).run := by
  simp only [Auth.refresh, always_callBind]
  refine ⟨trivial, fun found => ?_⟩
  cases found with
  | none => trivial
  | some record =>
      have looked : Looked [⟨.lookup (hashToken settings token) .refresh, some record⟩]
          record.userId record.deviceId :=
        .inr ⟨_, _, record, List.mem_cons_self, rfl, rfl⟩
      dsimp only
      cases record.usedAt with
      | some usedAt => exact ⟨trivial, fun _ => ⟨trivial, fun _ => trivial⟩⟩
      | none =>
          refine ⟨trivial, fun now => ?_⟩
          show Always _ _ _ (ExceptT.run (if !isLive record now then _ else _))
          split_ifs
          · trivial
          · refine ⟨trivial, fun _ => ⟨trivial, fun _ => ?_⟩⟩
            refine always_seq (issuesLooked_of_issuesFor (issuePair_issuesFor settings _ _)
              (((looked.cons _).cons _).cons _)) fun _ _ _ => ?_
            exact ⟨trivial, fun _ => trivial⟩

/-- The lookup of this token gave a row of a device that is not blocked, and of an active
user. -/
def Opened (past : List AuthEvent) (bearer : String) : Prop :=
  ∃ record, ⟨.lookup (hashToken settings bearer) .access, some record⟩ ∈ past ∧
    record.deviceBlocked = false ∧ record.userActive = true

theorem Opened.cons {bearer : String} (e : AuthEvent) (opened : Opened settings past bearer) :
    Opened settings (e :: past) bearer := by
  obtain ⟨record, mem, isOpen⟩ := opened
  exact ⟨record, List.mem_cons_of_mem _ mem, isOpen⟩

/-- A token that is accepted was looked up, and found live. -/
theorem resolveAccessToken_opened (bearer : String) :
    Always IssuesLooked (fun past result => result = .error notLive ∨ Opened settings past bearer) []
      (Auth.resolveAccessToken settings bearer).run := by
  simp only [Auth.resolveAccessToken, always_callBind]
  refine ⟨trivial, fun found => ?_⟩
  cases found with
  | none => exact .inl rfl
  | some record =>
      refine ⟨trivial, fun now => ?_⟩
      show Always _ _ _ (ExceptT.run (if !isLive record now then _ else _))
      split_ifs with dead unattested
      · exact .inl rfl
      all_goals
        -- it was live
        rw [Bool.not_eq_true', Bool.not_eq_false, isLive] at dead
        simp only [Bool.and_eq_true, Bool.not_eq_true'] at dead
        exact .inr ⟨record, List.mem_cons_of_mem _ List.mem_cons_self, dead.2, dead.1.2⟩

/-- The token a request presents as its bearer. -/
def authBearer? : AuthRequest → Option String
  | .logout bearer _ _ => some bearer
  | _ => none

/-- What a request of `AuthService` leaves. -/
def Answered (req : AuthRequest) (past : List AuthEvent) (outcome : AuthOutcome) : Prop :=
  ∀ bearer, authBearer? req = some bearer → outcome = .error notLive ∨ Opened settings past bearer

theorem answered_of_opened {bearer : String} (allDevices : Bool) (clientIp : Option Text)
    (opened : Opened settings past bearer) (outcome : AuthOutcome) :
    Answered settings (.logout bearer allDevices clientIp) past outcome := by
  rintro bearer' ⟨⟩
  exact .inr opened

theorem serve_issuesLooked (req : AuthRequest) :
    Always IssuesLooked (Answered settings req) [] (Auth.serve settings req) := by
  cases req with
  | login username password deviceId clientIp =>
      refine (always_exceptMap _ _).mpr ((login_issuesLooked settings _ _ _ _).mono ?_)
      rintro past result - bearer ⟨⟩
  | refresh token clientIp =>
      refine (always_exceptMap _ _).mpr ((refresh_issuesLooked settings _ _).mono ?_)
      rintro past result - bearer ⟨⟩
  | logout bearer allDevices clientIp =>
      refine (always_exceptBind _ _).mpr ((resolveAccessToken_opened settings bearer).mono ?_)
      rintro past result answered
      cases result with
      | error e =>
          rintro bearer' ⟨⟩
          exact answered.imp_left fun same => congrArg Except.error (Except.error.inj same)
      | ok session =>
          have opened := answered.resolve_left fun same => by cases same
          cases allDevices <;>
            exact ⟨trivial, fun _ => ⟨trivial, fun _ =>
              answered_of_opened settings _ _ ((opened.cons _ _).cons _ _) _⟩⟩

end Tokens

/-! ## One call -/

section Calls

variable {Cert Key Hash : Type} (lib : X509 Cert Key Hash) (py : Python)
  (settings : EnrollSettings Cert)

/-- The device was created for this user. -/
def Made (hist : List EnrollEvent) (userId deviceId : Uuid) : Prop :=
  ∃ device, ⟨.createDevice device, .ok deviceId⟩ ∈ hist ∧ device.userId = userId

/-- `enroll` issues tokens for the device it has created. -/
def IssuesMade (hist : List EnrollEvent) : EnrollOp → Prop
  | .auth (.insert token) => Made hist token.userId token.deviceId
  | _ => True

variable {args : EnrollArgs} {hist : List EnrollEvent}

theorem fromAuth_issuesMade {α : Type} {userId deviceId : Uuid} {past : List AuthEvent}
    {p : Kit.Prog AuthOp AuthOp.Res (Except AuthError α)}
    (h : Always (IssuesFor userId deviceId) (OnOk fun _ _ => True) past p)
    (made : Made hist userId deviceId) :
    Always IssuesMade (OnOk fun _ _ => True) hist (fromAuth p) := by
  induction p generalizing past hist with
  | pure result => cases result <;> trivial
  | op o next ih =>
      obtain ⟨device, mem, owner⟩ := made
      refine ⟨?_, fun r => ih r (h.2 r) ⟨device, List.mem_cons_of_mem _ mem, owner⟩⟩
      cases o with
      | insert token =>
          obtain ⟨rfl, rfl⟩ := h.1
          exact ⟨device, mem, owner⟩
      | _ => trivial

theorem tryCreate_issuesMade (claimed : Claimed) (assessment : Assessment)
    (status : Auth.AttestationStatus) :
    Always IssuesMade
      (OnOk fun hist answer => ∀ id, answer = .ok id → Made hist claimed.userId id) hist
      (tryCreate settings args claimed assessment status).run := by
  unfold tryCreate
  cases b64decodeStrict args.devicePublicKey with
  | none => exact fun id same => by cases same
  | some publicKey =>
      refine (always_callBind _ _).mpr ⟨trivial, fun now => ⟨trivial, fun answer id same => ?_⟩⟩
      subst same
      exact ⟨_, List.mem_cons_self, rfl⟩

theorem enroll_issuesMade :
    Always IssuesMade (OnOk fun _ _ => True) [] (enroll lib py settings args).run := by
  refine always_seq (checkCode_performs (fun _ _ => trivial) (fun _ _ => trivial)
    fun _ _ => trivial) ?_
  rintro hist ⟨presented, claimed⟩ -
  refine always_seq (always_ofExcept _) ?_
  intro hist assessment _
  have status : Always IssuesMade (OnOk fun _ _ => True) hist
      (decideStatus settings args claimed assessment).run :=
    always_ifThenBind ⟨trivial, fun _ => ⟨trivial, fun _ => trivial⟩⟩ fun _ => trivial
  refine always_seq status ?_
  intro hist status _
  refine always_seq (tryCreate_issuesMade settings claimed assessment status) ?_
  rintro hist (name | deviceId) made
  · exact ⟨trivial, fun _ => trivial⟩
  · obtain ⟨device, mem, owner⟩ := made deviceId rfl
    refine (always_callBind _ _).mpr ⟨trivial, fun _ => ?_⟩
    have issues : Always (IssuesFor claimed.userId deviceId) (OnOk fun _ _ => True) []
        (Auth.issuePair settings.toAuthSettings claimed.userId deviceId none none).run :=
      issuePair_issuesFor _ none none
    refine always_seq (fromAuth_issuesMade issues
      ⟨device, List.mem_cons_of_mem _ mem, owner⟩) ?_
    intro hist pair _
    exact ⟨trivial, fun _ => trivial⟩

/-- What `AuthService` sees of the history of its call. -/
def sessionEvents (hist : List AccountEvent) : List AuthEvent :=
  hist.filterMap fun
    | ⟨.inner (.auth o), r⟩ => some ⟨o, r⟩
    | _ => none

theorem sessionEvents_auth (hist : List AccountEvent) (o : AuthOp) (r : o.Res) :
    sessionEvents (⟨.inner (.auth o), r⟩ :: hist) = ⟨o, r⟩ :: sessionEvents hist := rfl

theorem mem_sessionEvents {hist : List AccountEvent} {o : AuthOp} {r : o.Res} :
    ⟨o, r⟩ ∈ sessionEvents hist ↔ ⟨.inner (.auth o), r⟩ ∈ hist := by
  unfold sessionEvents
  rw [List.mem_filterMap]
  constructor
  · rintro ⟨⟨op, answer⟩, mem, same⟩
    cases op with
    | inner inner =>
        cases inner <;> cases same
        exact mem
    | _ => cases same
  · exact fun mem => ⟨_, mem, rfl⟩

/-- A token is issued for a device that was read or created, and for its user. -/
def Sourced (hist : List AccountEvent) : AccountOp → Prop
  | .inner (.auth (.insert token)) =>
      Looked (sessionEvents hist) token.userId token.deviceId ∨
        Made (ownEvents hist) token.userId token.deviceId
  | _ => True

/-- The bearer token of a request. -/
def AccountRequest.bearer? : AccountRequest → Option String
  | .auth request => authBearer? request
  | .resolve bearer => some bearer
  | _ => none

/-- What `AuthService` raised. -/
def AccountReply.error? : AccountReply → Option AuthError
  | .auth (.error error) => some error
  | .resolved (.error error) => some error
  | _ => none

/-- A bearer token is refused, or was looked up and found live. -/
def Resolved (req : AccountRequest) (hist : List AccountEvent) (reply : AccountReply) : Prop :=
  ∀ bearer, req.bearer? = some bearer →
    reply.error? = some notLive ∨ Opened settings.toAuthSettings (sessionEvents hist) bearer

/-- A request without a bearer token. -/
theorem resolved_of_none {req : AccountRequest} (none : req.bearer? = none)
    (hist : List AccountEvent) (reply : AccountReply) : Resolved settings req hist reply := by
  intro bearer some
  rw [none] at some
  cases some

/-- What one call has done when it inserts a token, and when it returns. -/
theorem serve_sourced (req : AccountRequest) :
    Always Sourced (Resolved settings req) [] (serve lib py settings req) := by
  cases req with
  | challenge code =>
      refine (always_bind _ _).mpr ?_
      unfold issueChallenge
      cases hashCode code with
      | error e => exact resolved_of_none settings rfl _ _
      | ok codeHash => exact ⟨trivial, fun _ => resolved_of_none settings rfl _ _⟩
  | enroll args =>
      refine (always_bind _ _).mpr (Always.embed ownEvents_inner ?_ ?_
        (enroll_issuesMade lib py settings))
      · intro hist o issues
        cases o with
        | auth o =>
            cases o with
            | insert token => exact .inr issues
            | _ => trivial
        | _ => trivial
      · exact fun hist outcome _ => resolved_of_none settings rfl hist _
  | auth request =>
      refine (always_bind _ _).mpr (Always.embed sessionEvents_auth ?_ ?_
        (serve_issuesLooked settings.toAuthSettings request))
      · intro hist o issues
        cases o with
        | insert token => exact .inl issues
        | _ => trivial
      · intro hist outcome answered bearer some
        refine (answered bearer some).imp_left ?_
        rintro rfl
        rfl
  | resolve bearer =>
      refine (always_bind _ _).mpr (Always.embed sessionEvents_auth ?_ ?_
        (resolveAccessToken_opened settings.toAuthSettings bearer))
      · intro hist o issues
        cases o with
        | insert token => exact .inl issues
        | _ => trivial
      · intro hist outcome answered bearer' some
        obtain rfl := Option.some.inj some
        refine answered.imp_left ?_
        rintro rfl
        rfl
  | createCode code => exact ⟨trivial, fun _ => resolved_of_none settings rfl _ _⟩
  | block device reason => exact ⟨trivial, fun _ => resolved_of_none settings rfl _ _⟩
  | setActive user active => exact ⟨trivial, fun _ => resolved_of_none settings rfl _ _⟩

end Calls

/-! ## What statements leave alone -/

/-- A row of the same token. -/
structure SameToken (row row' : TokenRow) : Prop where
  hash : row'.tokenHash = row.tokenHash
  user : row'.userId = row.userId
  device : row'.deviceId = row.deviceId

/-- The tokens are the old ones, but for one that was inserted. -/
structure KeepsTokens (t t' : Auth.TokenTable) (o : AuthOp) : Prop where
  kept : ∀ row ∈ t.rows, ∃ row' ∈ t'.rows, SameToken row row'
  origin : ∀ row' ∈ t'.rows, (∃ row ∈ t.rows, SameToken row row') ∨
    ∃ token, o = .insert token ∧ row'.userId = token.userId ∧ row'.deviceId = token.deviceId

theorem KeepsTokens.refl (t : Auth.TokenTable) (o : AuthOp) : KeepsTokens t t o :=
  ⟨fun row mem => ⟨row, mem, rfl, rfl, rfl⟩, fun row mem => .inl ⟨row, mem, rfl, rfl, rfl⟩⟩

theorem keepsTokens_update {t : Auth.TokenTable} {f : TokenRow → TokenRow} {o : AuthOp}
    (keeps : ∀ r, (f r).id = r.id ∧ (f r).tokenHash = r.tokenHash)
    (same : ∀ r, SameToken r (f r)) : KeepsTokens t (t.update f keeps) o := by
  refine ⟨fun row mem => ⟨f row, List.mem_map_of_mem mem, same row⟩, ?_⟩
  intro row' mem
  obtain ⟨row, inside, rfl⟩ := List.mem_map.mp mem
  exact .inl ⟨row, inside, same row⟩

theorem keepsTokens_revokeWhere (t : Auth.TokenTable) (which : TokenRow → Bool) (reason : String)
    (now : Timestamp) (o : AuthOp) : KeepsTokens t (t.revokeWhere which reason now) o := by
  apply keepsTokens_update
  intro row
  split_ifs <;> exact ⟨rfl, rfl, rfl⟩

theorem keepsTokens_markUsed (t : Auth.TokenTable) (id : Uuid) (now : Timestamp) (o : AuthOp) :
    KeepsTokens t (t.markUsed id now) o := by
  apply keepsTokens_update
  intro row
  split_ifs <;> exact ⟨rfl, rfl, rfl⟩

theorem keepsTokens_insert {t t' : Auth.TokenTable} {token : Auth.NewToken} {id : Uuid}
    {now : Timestamp} (h : t.insert token id now = .ok t') : KeepsTokens t t' (.insert token) := by
  obtain ⟨shape, -⟩ := Auth.insert_rows_eq h
  constructor
  · intro row mem
    refine ⟨row, ?_, rfl, rfl, rfl⟩
    rw [shape]
    exact List.mem_append_left _ mem
  · intro row mem
    rw [shape] at mem
    rcases List.mem_append.mp mem with old | new
    · exact .inl ⟨row, old, rfl, rfl, rfl⟩
    · rw [List.mem_singleton.mp new]
      exact .inr ⟨token, rfl, rfl, rfl⟩

theorem keepsTokens_of_exec {i : Nat} {o : AuthOp} {choice : Auth.AuthChoice}
    {s s' : Auth.AuthStore} {r : o.Res} (h : authServer.exec i o choice s = some (r, s')) :
    KeepsTokens s.tokens s'.tokens o := by
  cases o with
  | insert token =>
      simp only [authServer] at h
      split at h
      · rename_i inserted
        obtain ⟨-, rfl⟩ := Prod.mk.inj (Option.some.inj h)
        exact keepsTokens_insert inserted
      · obtain ⟨-, rfl⟩ := Prod.mk.inj (Option.some.inj h)
        exact .refl _ _
  | markUsed id =>
      obtain ⟨-, rfl⟩ := Prod.mk.inj (Option.some.inj h)
      exact keepsTokens_markUsed _ _ _ _
  | revoke id reason =>
      obtain ⟨-, rfl⟩ := Prod.mk.inj (Option.some.inj h)
      exact keepsTokens_revokeWhere _ _ _ _ _
  | revokeFamily family reason =>
      obtain ⟨-, rfl⟩ := Prod.mk.inj (Option.some.inj h)
      exact keepsTokens_revokeWhere _ _ _ _ _
  | revokeDeviceSessions device reason =>
      obtain ⟨-, rfl⟩ := Prod.mk.inj (Option.some.inj h)
      exact keepsTokens_revokeWhere _ _ _ _ _
  | uuid4 =>
      simp only [authServer] at h
      split_ifs at h
      obtain ⟨-, rfl⟩ := Prod.mk.inj (Option.some.inj h)
      exact .refl _ _
  | _ =>
      obtain ⟨-, rfl⟩ := Prod.mk.inj (Option.some.inj h)
      exact .refl _ _

/-- The devices that were there are there, and their owners are the same. -/
def KeepsDevices (devices devices' : DeviceTable) : Prop :=
  ∀ device ∈ devices.rows, ∃ device' ∈ devices'.rows, device'.id = device.id ∧
    device'.userId = device.userId ∧ (device.isBlocked = true → device'.isBlocked = true)

theorem KeepsDevices.refl (devices : DeviceTable) : KeepsDevices devices devices :=
  fun device mem => ⟨device, mem, rfl, rfl, id⟩

theorem keepsDevices_block (devices : DeviceTable) (id : Uuid) (reason : Text) :
    KeepsDevices devices (block devices id reason) := by
  intro device mem
  refine ⟨device.block id reason, List.mem_map_of_mem mem, DeviceRow.id_block _ _ _, ?_⟩
  unfold DeviceRow.block
  split_ifs
  · exact ⟨rfl, fun _ => rfl⟩
  · exact ⟨rfl, fun blocked => blocked⟩

/-- The row that an insert adds. -/
theorem mem_insertDevice {users : UserTable} {devices devices' : DeviceTable} {device : NewDevice}
    {id : Uuid} (h : insertDevice users devices device id = .ok devices') (row : DeviceRow) :
    row ∈ devices'.rows ↔ row ∈ devices.rows ∨
      row = { device with id, isBlocked := false, blockedReason := none } := by
  unfold insertDevice at h
  split_ifs at h
  split at h
  · cases h
  · rename_i table inserted
    obtain rfl := Except.ok.inj h
    exact Kit.Table.mem_insert? inserted

/-- What one operation does to tokens and devices. -/
structure Keeps (s s' : AccountStore) (o : AccountOp) : Prop where
  devices : KeepsDevices s.devices s'.devices
  kept : ∀ row ∈ s.auth.tokens.rows, ∃ row' ∈ s'.auth.tokens.rows, SameToken row row'
  origin : ∀ row' ∈ s'.auth.tokens.rows, (∃ row ∈ s.auth.tokens.rows, SameToken row row') ∨
    ∃ token, o = .inner (.auth (.insert token)) ∧ row'.userId = token.userId ∧
      row'.deviceId = token.deviceId

theorem Keeps.of_devices {s s' : AccountStore} {o : AccountOp} (same : s'.auth = s.auth)
    (devices : KeepsDevices s.devices s'.devices) : Keeps s s' o := by
  refine ⟨devices, ?_, ?_⟩
  · intro row mem
    exact ⟨row, same ▸ mem, rfl, rfl, rfl⟩
  · intro row mem
    exact .inl ⟨row, same ▸ mem, rfl, rfl, rfl⟩

section Step

variable {pgLower : String → String} {i : Nat} {choice : AccountChoice} {s s' : AccountStore}

/-- A statement of `AuthService`. -/
theorem exec_of_enrollStep {o : AuthOp} {r : o.Res}
    (h : enrollStep pgLower i (.auth o) choice s = some (r, s')) :
    ∃ auth, authServer.exec i o (s.answers pgLower choice.auth o) s.auth = some (r, auth) ∧
      s' = { s with auth } := by
  obtain ⟨⟨answer, auth⟩, ran, same⟩ := Option.map_eq_some_iff.mp h
  obtain ⟨rfl, rfl⟩ := Prod.mk.inj same
  exact ⟨auth, ran, rfl⟩

theorem keeps_of_enrollStep {o : EnrollOp} {r : o.Res}
    (h : enrollStep pgLower i o choice s = some (r, s')) : Keeps s s' (.inner o) := by
  cases o with
  | take codeHash =>
      simp only [enrollStep] at h
      split_ifs at h
      obtain ⟨-, rfl⟩ := Prod.mk.inj (Option.some.inj h)
      exact .of_devices rfl (.refl _)
  | createDevice device =>
      simp only [enrollStep] at h
      split at h
      · obtain ⟨-, rfl⟩ := Prod.mk.inj (Option.some.inj h)
        exact .of_devices rfl (.refl _)
      · split at h
        · obtain ⟨-, rfl⟩ := Prod.mk.inj (Option.some.inj h)
          exact .of_devices rfl (.refl _)
        · rename_i inserted
          obtain ⟨-, rfl⟩ := Prod.mk.inj (Option.some.inj h)
          refine .of_devices rfl fun row mem => ⟨row, ?_, rfl, rfl, id⟩
          exact (mem_insertDevice inserted row).mpr (.inl mem)
  | auth o =>
      obtain ⟨auth, ran, rfl⟩ := exec_of_enrollStep h
      have tokens := keepsTokens_of_exec ran
      refine ⟨.refl _, tokens.kept, fun row mem => (tokens.origin row mem).imp_right ?_⟩
      rintro ⟨token, rfl, owner⟩
      exact ⟨token, rfl, owner⟩
  | _ =>
      obtain ⟨-, rfl⟩ := Prod.mk.inj (Option.some.inj h)
      exact .of_devices rfl (.refl _)

theorem keeps_of_exec {o : AccountOp} {r : o.Res}
    (h : (accountServer pgLower).exec i o choice s = some (r, s')) : Keeps s s' o := by
  cases o with
  | issue codeHash =>
      simp only [accountServer] at h
      split_ifs at h
      obtain ⟨-, rfl⟩ := Prod.mk.inj (Option.some.inj h)
      exact .of_devices rfl (.refl _)
  | inner o => exact keeps_of_enrollStep h
  | createCode code =>
      simp only [accountServer] at h
      split at h
      all_goals
        obtain ⟨-, rfl⟩ := Prod.mk.inj (Option.some.inj h)
        exact .of_devices rfl (.refl _)
  | block device reason =>
      obtain ⟨-, rfl⟩ := Prod.mk.inj (Option.some.inj h)
      exact .of_devices rfl (keepsDevices_block _ _ _)
  | setActive user active =>
      obtain ⟨-, rfl⟩ := Prod.mk.inj (Option.some.inj h)
      exact .of_devices rfl (.refl _)

/-- What a lookup joins. -/
theorem lookup_of_exec {hash : Bytes} {kind : Auth.TokenKind} {record : TokenRecord}
    (h : enrollStep pgLower i (.auth (.lookup hash kind)) choice s = some (some record, s')) :
    ∃ row ∈ s.auth.tokens.rows, ∃ user ∈ s.users.rows, ∃ device ∈ s.devices.rows,
      row.tokenHash = hash ∧ user.id = row.userId ∧ device.id = row.deviceId ∧
      record.userId = row.userId ∧ record.deviceId = row.deviceId ∧
      record.userActive = user.isActive ∧ record.deviceBlocked = device.isBlocked := by
  obtain ⟨auth, ran, -⟩ := exec_of_enrollStep h
  have found := (Prod.mk.inj (Option.some.inj ran)).1
  obtain ⟨row, isRow, rest⟩ := Option.bind_eq_some_iff.mp found
  obtain ⟨joined, isJoined, rfl⟩ := Option.map_eq_some_iff.mp rest
  obtain ⟨row', isRow', joins⟩ := Option.bind_eq_some_iff.mp isJoined
  obtain rfl := Option.some.inj (isRow.symm.trans isRow')
  obtain ⟨user, isUser, more⟩ := Option.bind_eq_some_iff.mp joins
  obtain ⟨device, isDevice, made⟩ := Option.bind_eq_some_iff.mp more
  obtain rfl := Option.some.inj made
  obtain ⟨mem, hash⟩ := Auth.find?_spec isRow
  obtain ⟨memUser, userKey⟩ := Kit.Table.mem_of_get? isUser
  obtain ⟨memDevice, deviceKey⟩ := Kit.Table.mem_of_get? isDevice
  exact ⟨row, mem, user, memUser, device, memDevice, hash, userKey, deviceKey, rfl, rfl, rfl, rfl⟩

/-- What a call was told about the owner of a device or of a token is true. -/
def Truthful (s : AccountStore) : AccountEvent → Prop
  | ⟨.inner (.auth (.deviceById id)), some record⟩ =>
      ∃ device ∈ s.devices.rows, device.id = id ∧ device.userId = record.userId
  | ⟨.inner (.createDevice new), .ok id⟩ =>
      ∃ device ∈ s.devices.rows, device.id = id ∧ device.userId = new.userId
  | ⟨.inner (.auth (.lookup hash _)), some record⟩ =>
      ∃ row ∈ s.auth.tokens.rows, row.tokenHash = hash ∧ row.userId = record.userId ∧
        row.deviceId = record.deviceId
  | _ => True

theorem Truthful.mono {o : AccountOp} {e : AccountEvent} (keeps : Keeps s s' o)
    (h : Truthful s e) : Truthful s' e := by
  have device : ∀ id user, (∃ device ∈ s.devices.rows, device.id = id ∧ device.userId = user) →
      ∃ device ∈ s'.devices.rows, device.id = id ∧ device.userId = user := by
    rintro id user ⟨device, mem, rfl, rfl⟩
    obtain ⟨device', mem', sameId, sameUser, -⟩ := keeps.devices device mem
    exact ⟨device', mem', sameId, sameUser⟩
  obtain ⟨op, r⟩ := e
  cases op with
  | inner inner =>
      cases inner with
      | createDevice new =>
          cases r with
          | error name => trivial
          | ok id => exact device id new.userId h
      | auth o =>
          cases o with
          | deviceById id =>
              cases r with
              | none => trivial
              | some record => exact device id record.userId h
          | lookup hash kind =>
              cases r with
              | none => trivial
              | some record =>
                  obtain ⟨row, mem, isHash, user, isDevice⟩ := h
                  obtain ⟨row', mem', same⟩ := keeps.kept row mem
                  exact ⟨row', mem', same.hash.trans isHash, same.user.trans user,
                    same.device.trans isDevice⟩
          | _ => trivial
      | _ => trivial
  | _ => trivial

theorem truthful_of_exec {o : AccountOp} {r : o.Res}
    (h : (accountServer pgLower).exec i o choice s = some (r, s')) : Truthful s' ⟨o, r⟩ := by
  cases o with
  | inner inner =>
      replace h : enrollStep pgLower i inner choice s = some (r, s') := h
      cases inner with
      | createDevice new =>
          cases r with
          | error name => trivial
          | ok id =>
              simp only [enrollStep] at h
              split at h
              · cases h
              · split at h
                · cases h
                · rename_i inserted
                  obtain ⟨same, rfl⟩ := Prod.mk.inj (Option.some.inj h)
                  obtain rfl := Except.ok.inj same
                  exact ⟨_, (mem_insertDevice inserted _).mpr (.inr rfl), rfl, rfl⟩
      | auth o =>
          cases o with
          | deviceById id =>
              cases r with
              | none => trivial
              | some record =>
                  obtain ⟨auth, ran, rfl⟩ := exec_of_enrollStep h
                  have found := (Prod.mk.inj (Option.some.inj ran)).1
                  obtain ⟨device, isDevice, rfl⟩ := Option.map_eq_some_iff.mp found
                  obtain ⟨mem, key⟩ := Kit.Table.mem_of_get? isDevice
                  exact ⟨device, mem, key, rfl⟩
          | lookup hash kind =>
              cases r with
              | none => trivial
              | some record =>
                  obtain ⟨row, mem, -, -, -, -, isHash, -, -, user, device, -⟩ := lookup_of_exec h
                  have keeps := keeps_of_enrollStep h
                  obtain ⟨row', mem', same⟩ := keeps.kept row mem
                  exact ⟨row', mem', same.hash.trans isHash, same.user.trans user.symm,
                    same.device.trans device.symm⟩
          | _ => trivial
      | _ => trivial
  | _ => trivial

end Step

/-! ## Owners -/

/-- Every token's user owns its device. -/
def Owned (s : AccountStore) : Prop :=
  ∀ row ∈ s.auth.tokens.rows, ∃ device ∈ s.devices.rows, device.id = row.deviceId ∧
    device.userId = row.userId

section Owners

variable {Cert Key Hash : Type} {lib : X509 Cert Key Hash} {py : Python}
  {settings : EnrollSettings Cert} {pgLower : String → String}
  {ok : AccountPool → AccountAction → Bool} {store : AccountStore} {p q : AccountPool}

/-- What a call has done, and what is left of it. -/
structure OwnerCall (settings : EnrollSettings Cert) (s : AccountStore) (c : AccountCall) : Prop where
  prog : Always Sourced (Resolved settings c.req) c.hist c.prog
  told : ∀ e ∈ c.hist, Truthful s e

structure OwnerInv (settings : EnrollSettings Cert) (p : AccountPool) : Prop where
  owned : Owned p.store
  calls : ∀ c ∈ p.calls, OwnerCall settings p.store c

/-- A token is inserted for a device of its user. -/
theorem owner_of_sourced {s : AccountStore} {hist : List AccountEvent}
    (told : ∀ e ∈ hist, Truthful s e) {token : Auth.NewToken}
    (sourced : Sourced hist (.inner (.auth (.insert token)))) (owned : Owned s) :
    ∃ device ∈ s.devices.rows, device.id = token.deviceId ∧ device.userId = token.userId := by
  rcases sourced with (⟨record, mem, owner⟩ | ⟨hash, kind, record, mem, user, device⟩) |
    ⟨new, mem, owner⟩
  · obtain ⟨device, inside, id, same⟩ := told _ (mem_sessionEvents.mp mem)
    exact ⟨device, inside, id, same.trans owner⟩
  · obtain ⟨row, inside, -, sameUser, sameDevice⟩ := told _ (mem_sessionEvents.mp mem)
    obtain ⟨owner, isDevice, id, same⟩ := owned row inside
    exact ⟨owner, isDevice, (id.trans sameDevice).trans device, (same.trans sameUser).trans user⟩
  · obtain ⟨device, inside, id, same⟩ := told _ (mem_ownEvents.mp mem)
    exact ⟨device, inside, id, same.trans owner⟩

theorem OwnerInv.step {a : AccountAction} (inv : OwnerInv settings p)
    (stepped : Kit.Pool.step (accountServer pgLower) (serve lib py settings) p a = some q) :
    OwnerInv settings q := by
  rcases Kit.Pool.step_cases stepped with
    ⟨req, rfl, rfl⟩ | ⟨i, choice, req, hist, o, next, r, store, rfl, found, answer, rfl⟩
  · -- a new call
    refine ⟨inv.owned, ?_⟩
    intro c mem
    rcases List.mem_append.mp mem with before | new
    · exact inv.calls c before
    · rw [List.mem_singleton.mp new]
      exact ⟨serve_sourced lib py settings req, fun e mem => by cases mem⟩
  · -- an operation
    have keeps := keeps_of_exec answer
    have own := inv.calls _ (List.mem_of_getElem? found)
    refine ⟨?_, ?_⟩
    · intro row' mem
      rcases keeps.origin row' mem with ⟨row, inside, same⟩ | ⟨token, rfl, user, device⟩
      · obtain ⟨device, isDevice, id, owner⟩ := inv.owned row inside
        obtain ⟨device', mem', id', owner', -⟩ := keeps.devices device isDevice
        exact ⟨device', mem', (id'.trans id).trans same.device.symm,
          (owner'.trans owner).trans same.user.symm⟩
      · obtain ⟨owner, isDevice, id, same⟩ := owner_of_sourced own.told own.prog.1 inv.owned
        obtain ⟨owner', mem', id', same', -⟩ := keeps.devices owner isDevice
        exact ⟨owner', mem', (id'.trans id).trans device.symm, (same'.trans same).trans user.symm⟩
    · intro c mem
      rcases List.mem_or_eq_of_mem_set mem with before | rfl
      · exact ⟨(inv.calls c before).prog, fun e told => ((inv.calls c before).told e told).mono keeps⟩
      · refine ⟨own.prog.2 r, ?_⟩
        intro e happened
        rcases List.mem_cons.mp happened with rfl | earlier
        · exact truthful_of_exec answer
        · exact (own.told e earlier).mono keeps

theorem ownerInv_of_reach (owned : Owned store)
    (h : AccountReach lib py settings pgLower ok store p) : OwnerInv settings p :=
  h.invariant (OwnerInv settings) ⟨owned, fun c mem => by cases mem⟩
    fun _ _ _ _ inv _ stepped => inv.step stepped

end Owners

/-! ## A device that is shut out -/

/-- The device is blocked, or its user is not active. -/
def AccountStore.isShut (s : AccountStore) (d : Uuid) : Bool :=
  s.devices.rows.any fun device => device.id = d &&
    (device.isBlocked || s.users.rows.any fun user => user.id = device.userId && !user.isActive)

theorem isShut_iff {s : AccountStore} {d : Uuid} : s.isShut d = true ↔
    ∃ device ∈ s.devices.rows, device.id = d ∧ (device.isBlocked = true ∨
      ∃ user ∈ s.users.rows, user.id = device.userId ∧ user.isActive = false) := by
  simp [AccountStore.isShut]

/-- `DeviceRepository.block` shuts the device out. -/
theorem isShut_block (s : AccountStore) {device : DeviceRow} (mem : device ∈ s.devices.rows)
    (reason : Text) :
    { s with devices := block s.devices device.id reason }.isShut device.id = true := by
  refine isShut_iff.mpr ⟨device.block device.id reason, List.mem_map_of_mem mem,
    DeviceRow.id_block _ _ _, .inl ?_⟩
  unfold DeviceRow.block
  rw [if_pos rfl]

/-- `UserRepository.set_active(false)` shuts the devices of the user out. -/
theorem isShut_setActive (s : AccountStore) {device : DeviceRow} {user : UserRow}
    (mem : device ∈ s.devices.rows) (isUser : user ∈ s.users.rows)
    (owner : user.id = device.userId) :
    { s with users := setActive s.users user.id false }.isShut device.id = true := by
  refine isShut_iff.mpr ⟨device, mem, rfl, .inr ⟨user.setActive user.id false,
    List.mem_map_of_mem isUser, (UserRow.id_setActive _ _ _).trans owner, ?_⟩⟩
  unfold UserRow.setActive
  rw [if_pos rfl]

/-- A lookup that finds a token of a device that is shut out says so. -/
theorem closed_of_isShut {s s' : AccountStore} {d : Uuid} (shut : s.isShut d = true)
    (owned : Owned s) {pgLower : String → String} (i : Nat) {choice : AccountChoice} {hash : Bytes}
    {kind : Auth.TokenKind} {record : TokenRecord}
    (h : enrollStep pgLower i (.auth (.lookup hash kind)) choice s = some (some record, s'))
    (device : record.deviceId = d) : record.deviceBlocked = true ∨ record.userActive = false := by
  obtain ⟨row, mem, user, isUser, joined, isJoined, -, userKey, deviceKey, -, sameDevice, active,
    blocked⟩ := lookup_of_exec h
  obtain ⟨shutDevice, isShut, id, why⟩ := isShut_iff.mp shut
  -- the device that is joined is the one that is shut out
  obtain rfl := s.devices.eq_of_key_eq isShut isJoined
    (id.trans (device.symm.trans (sameDevice.trans deviceKey.symm)))
  rcases why with isBlocked | ⟨owner, isOwner, ownerKey, inactive⟩
  · exact .inl (blocked.trans isBlocked)
  · -- the user that is joined is its owner
    obtain ⟨owns, isOwns, ownsId, ownsUser⟩ := owned row mem
    obtain rfl := s.devices.eq_of_key_eq isOwns isJoined (ownsId.trans deviceKey.symm)
    obtain rfl := s.users.eq_of_key_eq isOwner isUser
      (ownerKey.trans (ownsUser.trans userKey.symm))
    exact .inr (active.trans inactive)

section Blocking

variable {Cert Key Hash : Type} (lib : X509 Cert Key Hash) (py : Python)
  (settings : EnrollSettings Cert) (pgLower : String → String)

/-- The flag is not reset: the device is shut out after the step, too. -/
def whileShut (d : Uuid) (p : AccountPool) (a : AccountAction) : Bool :=
  (Kit.Pool.step (accountServer pgLower) (serve lib py settings) p a).all fun q => q.store.isShut d

/-- The states from `p` on, as long as the flag is not reset. -/
abbrev ReachShut (d : Uuid) : AccountPool → AccountPool → Prop :=
  Kit.Pool.Reach (accountServer pgLower) (serve lib py settings)
    (whileShut lib py settings pgLower d)

/-- The call has not looked a token up. -/
def Waiting (p : AccountPool) (i : Nat) : Prop :=
  ∀ c, p.calls[i]? = some c → ∀ hash kind found, ⟨.inner (.auth (.lookup hash kind)), found⟩ ∉ c.hist

/-- What holds from then on: the device is shut out, and whoever looks a token of it up is told. -/
structure ShutInv (d : Uuid) (p q : AccountPool) : Prop where
  owners : OwnerInv settings q
  shut : q.store.isShut d = true
  told : ∀ i c, q.calls[i]? = some c → Waiting p i → ∀ hash kind record,
    ⟨.inner (.auth (.lookup hash kind)), some record⟩ ∈ c.hist → record.deviceId = d →
      record.deviceBlocked = true ∨ record.userActive = false

variable {lib py settings pgLower} {ok : AccountPool → AccountAction → Bool}
  {store : AccountStore} {p q : AccountPool} {d : Uuid}

theorem shutInv_of_reach (owners : OwnerInv settings p) (shut : p.store.isShut d = true)
    (later : ReachShut lib py settings pgLower d p q) : ShutInv settings d p q := by
  refine later.invariant (ShutInv settings d p) ?_ ?_
  · refine ⟨owners, shut, ?_⟩
    intro i c found waiting hash kind record mem
    exact absurd mem (waiting c found hash kind (some record))
  · intro q a q' _ inv stays stepped
    refine ⟨inv.owners.step stepped, ?_, ?_⟩
    · rw [whileShut, stepped] at stays
      exact stays
    · rcases Kit.Pool.step_cases stepped with
        ⟨req, rfl, rfl⟩ | ⟨i, choice, req, hist, o, next, r, store, rfl, found, answer, rfl⟩
      · -- a new call
        intro j c foundC waiting hash kind record mem
        rcases Kit.Pool.get_append_index_cases foundC with before | ⟨-, rfl⟩
        · exact inv.told j c before waiting hash kind record mem
        · cases mem
      · -- an operation
        intro j c foundC waiting hash kind record mem device
        rcases Kit.Pool.get_set_cases foundC with ⟨rfl, rfl⟩ | ⟨-, before⟩
        · rcases List.mem_cons.mp mem with here | earlier
          · cases here
            exact closed_of_isShut inv.shut inv.owners.owned j answer device
          · exact inv.told j _ found waiting hash kind record earlier device
        · exact inv.told j c before waiting hash kind record mem device

/-- **No token of a device that is shut out is accepted** by a lookup that comes later, whenever
it was inserted. -/
theorem blocked_device_refused (owned : Owned store)
    (h : AccountReach lib py settings pgLower ok store p) (shut : p.store.isShut d = true)
    (later : ReachShut lib py settings pgLower d p q) {i : Nat} {c : AccountCall}
    (found : q.calls[i]? = some c) {bearer : String} (presents : c.req.bearer? = some bearer)
    (waiting : Waiting p i) {row : TokenRow} (mem : row ∈ q.store.auth.tokens.rows)
    (isToken : row.tokenHash = hashToken settings.toAuthSettings bearer)
    (ofDevice : row.deviceId = d) {reply : AccountReply} (returned : c.result = some reply) :
    reply.error? = some notLive := by
  have inv := shutInv_of_reach (ownerInv_of_reach owned h) shut later
  have call := inv.owners.calls c (List.mem_of_getElem? found)
  have resolved : Resolved settings c.req c.hist reply := by
    have along := call.prog
    rw [Kit.Call.prog_of_result returned] at along
    exact along
  rcases resolved bearer presents with refused | ⟨record, looked, isFree, isActive⟩
  · exact refused
  · -- it was told that the device is shut out
    have event := mem_sessionEvents.mp looked
    obtain ⟨row', inside, hash, -, device⟩ := call.told _ event
    obtain rfl := Auth.row_eq_of_hash_eq q.store.auth.tokens inside mem (hash.trans isToken.symm)
    rcases inv.told i c found waiting _ _ record event (device.symm.trans ofDevice) with
      blocked | inactive
    · rw [isFree] at blocked
      cases blocked
    · rw [isActive] at inactive
      cases inactive

/-- The device is blocked. -/
def IsBlocked (s : AccountStore) (d : Uuid) : Prop :=
  ∃ device ∈ s.devices.rows, device.id = d ∧ device.isBlocked = true

theorem IsBlocked.step {a : AccountAction} (blocked : IsBlocked p.store d)
    (stepped : Kit.Pool.step (accountServer pgLower) (serve lib py settings) p a = some q) :
    IsBlocked q.store d := by
  rcases Kit.Pool.step_cases stepped with
    ⟨req, rfl, rfl⟩ | ⟨i, choice, req, hist, o, next, r, store, rfl, found, answer, rfl⟩
  · exact blocked
  · obtain ⟨device, mem, id, isBlocked⟩ := blocked
    obtain ⟨device', mem', id', -, stays⟩ := (keeps_of_exec answer).devices device mem
    exact ⟨device', mem', id'.trans id, stays isBlocked⟩

/-- Nothing resets the flag of a device that is blocked. -/
theorem reachShut_of_isBlocked (blocked : IsBlocked p.store d)
    (later : Kit.Pool.Reach (accountServer pgLower) (serve lib py settings) ok p q) :
    ReachShut lib py settings pgLower d p q := by
  have both : IsBlocked q.store d ∧ ReachShut lib py settings pgLower d p q := by
    refine later.invariant
      (fun q => IsBlocked q.store d ∧ ReachShut lib py settings pgLower d p q)
      ⟨blocked, .init⟩ ?_
    rintro q a q' - ⟨still, reach⟩ - stepped
    have stays := still.step stepped
    refine ⟨stays, reach.step ?_ stepped⟩
    obtain ⟨device, mem, id, isBlocked⟩ := stays
    rw [whileShut, stepped]
    exact isShut_iff.mpr ⟨device, mem, id, .inl isBlocked⟩
  exact both.2

end Blocking

/-! ## A login in flight -/

/-- The phone of the user. -/
def onePhone : DeviceTable :=
  ⟨[{ userId := 2, label := text "phone", publicKey := otherKey, platform := text "android",
      appVersion := none, attestationStatus := .exempt, attestationDetail := [], id := 3,
      isBlocked := false, blockedReason := none }], List.nodup_singleton _⟩

def afterEnrolment : AccountStore := ⟨[], 0, oneUser, oneCode, onePhone, noTokens, []⟩

/-- A login has passed its checks and drawn its tokens when the device is blocked. -/
def blockedMeanwhile : List AccountAction :=
  [.start (.auth (.login "ann" "secret" 3 none)), .run 0 {}, .run 0 {},
   .run 0 { auth := { uuid := 20 } }, .run 0 { auth := { token := "a" } },
   .run 0 { auth := { token := "r" } }, .start (.block 3 (text "lost")), .run 1 {}]

/-- It inserts its access token, and someone presents it. -/
def insertedAfterwards : List AccountAction :=
  [.run 0 { auth := { uuid := 21 } }, .start (.resolve "a"), .run 2 {}, .run 2 {}]

/-- The state after the block, and the state at the end. -/
def loginInFlight : Option (AccountPool × AccountPool) :=
  (Kit.Pool.run (accountServer id) (serve loadsSelfMade loadsVerdict logOnlySettings)
    (fun _ _ => true) ⟨afterEnrolment, []⟩ blockedMeanwhile).bind fun p =>
      (Kit.Pool.run (accountServer id) (serve loadsSelfMade loadsVerdict logOnlySettings)
        (whileShut loadsSelfMade loadsVerdict logOnlySettings id 3) p insertedAfterwards).map
          fun q => (p, q)

/-- The phone is shut out, its token is there, and the last call has presented it. -/
def presented (states : AccountPool × AccountPool) : Bool × Option (Option String × Bool) :=
  (states.1.store.isShut 3 && states.1.calls.length = 2 &&
    states.2.store.auth.tokens.rows.any fun row =>
      row.tokenHash = hashToken logOnlySettings.toAuthSettings "a" && row.deviceId = 3,
    (states.2.calls[2]?).map fun c => (c.req.bearer?, c.result.isSome))

theorem blocked_device_refused_sample : ∃ p q c row reply,
    AccountReach loadsSelfMade loadsVerdict logOnlySettings id (fun _ _ => true) afterEnrolment p ∧
      p.store.isShut 3 = true ∧ ReachShut loadsSelfMade loadsVerdict logOnlySettings id 3 p q ∧
      q.calls[2]? = some c ∧ c.req.bearer? = some "a" ∧ row ∈ q.store.auth.tokens.rows ∧
      row.tokenHash = hashToken logOnlySettings.toAuthSettings "a" ∧ row.deviceId = 3 ∧
      c.result = some reply ∧ reply.error? = some notLive := by
  have ran : loginInFlight.map presented = some (true, some (some "a", true)) := by
    decide +kernel
  obtain ⟨⟨p, q⟩, both, seen⟩ := Option.map_eq_some_iff.mp ran
  obtain ⟨p', first, rest⟩ := Option.bind_eq_some_iff.mp both
  obtain ⟨q', second, same⟩ := Option.map_eq_some_iff.mp rest
  obtain ⟨rfl, rfl⟩ := Prod.mk.inj same
  obtain ⟨holds, resolves⟩ := Prod.mk.inj seen
  rw [Bool.and_eq_true, Bool.and_eq_true, decide_eq_true_eq] at holds
  obtain ⟨⟨shut, started⟩, inserted⟩ := holds
  obtain ⟨row, mem, isRow⟩ := List.any_eq_true.mp inserted
  rw [Bool.and_eq_true, decide_eq_true_eq, decide_eq_true_eq] at isRow
  obtain ⟨c, found, isCall⟩ := Option.map_eq_some_iff.mp resolves
  obtain ⟨presents, finished⟩ := Prod.mk.inj isCall
  obtain ⟨reply, returned⟩ := Option.isSome_iff_exists.mp finished
  have reach := Kit.Pool.reach_of_run first .init
  have later := Kit.Pool.reach_of_run second .init
  have waiting : Waiting p' 2 := by
    intro c' found'
    rw [List.getElem?_eq_none (le_of_eq started)] at found'
    cases found'
  have owned : Owned afterEnrolment := fun row mem => absurd mem List.not_mem_nil
  exact ⟨p', q', c, row, reply, reach, shut, later, found, presents, mem, isRow.1, isRow.2, returned,
    blocked_device_refused owned reach shut later found presents waiting mem isRow.1 isRow.2 returned⟩

end DoorsControl.Enrollment
