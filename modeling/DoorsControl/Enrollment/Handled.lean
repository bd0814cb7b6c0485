import DoorsControl.Enrollment.OneCode
import DoorsControl.Enrollment.Readable
import DoorsControl.Kit.Failing

/-!
# How an enrolment ends

`app/services/audit_service.py`: "Every decision the system makes produces a row, including the
ones that end in a refusal, and including the ones that fail." An enrolment uses up its challenge
and its code before it looks at what else the client has sent.

* `Handled` — it returned or raised on purpose, with one row in the log, and a refusal added
  neither a device nor a token;
* `Smooth` — nothing on the way raises what is not provided for;
* `stored_ends`, `created_ends`, `decided_ends` — from the last statements to the first;
* `enroll_handled_iff` — **when an enrolment is handled**;
* `enroll_unhandled` — a challenge that is no base64, and a token that is a list.
-/

namespace DoorsControl.Enrollment

open DoorsControl.Audit (AuditCall AuditEvent Timestamp)
open DoorsControl.Auth (AttestationStatus AuthChoice AuthOp AuthStore DbError IssuedTokens NewToken
  TokenRow TokenTable authServer hashToken)
open DoorsControl.Backend (Dict strip)
open Kit.Prog

/-! ## Requests, and runs that may fail -/

/-- The texts of a request. -/
def EnrollArgs.texts (args : EnrollArgs) : List Text :=
  args.enrollmentCode :: args.label :: args.devicePublicKey :: args.playIntegrityToken ::
    args.presentedChallenge :: (args.appVersion.toList ++ args.attestationChain)

/-- What the validation of `EnrollRequest` lets through; no text from JSON has a lone surrogate. -/
structure Admitted (args : EnrollArgs) : Prop where
  unicode : ∀ s ∈ args.texts, s.any isSurrogate = false
  code : 8 ≤ args.enrollmentCode.length ∧ args.enrollmentCode.length ≤ 128
  label : 1 ≤ args.label.length ∧ args.label.length ≤ 64
  key : 4 ≤ args.devicePublicKey.length ∧ args.devicePublicKey.length ≤ 8192
  keyShape : ∃ raw, b64decodeStrict args.devicePublicKey = some raw ∧ raw.length = 32
  chain : args.attestationChain.length ≤ 8
  token : args.playIntegrityToken.length ≤ 8192
  challenge : 4 ≤ args.presentedChallenge.length ∧ args.presentedChallenge.length ≤ 8192
  appVersion : ∀ version ∈ args.appVersion, version.length ≤ 32

/-- The statements that nothing is around. `DeviceRepository.create` is in a `try`. -/
inductive EnrollStatement where
  | claim
  | attachDevice
  | insertAccess
  | insertRefresh
  deriving DecidableEq

/-- The operation fails, when these statements do. An append to the audit log succeeds. -/
def failsAt (down : EnrollStatement → Bool) : EnrollOp → Bool
  | .claim _ => down .claim
  | .attachDevice _ _ => down .attachDevice
  | .auth (.insert token) =>
      match token.kind with
      | .access => down .insertAccess
      | .refresh => down .insertRefresh
  | _ => false

/-- An enrolment, run alone. -/
def loneServer (pgLower : String → String) :
    Kit.Server AccountStore EnrollOp EnrollOp.Res AccountChoice where
  exec := enrollStep pgLower

abbrev Enrolled := Uuid × AttestationStatus × IssuedTokens
abbrev EnrollRan := Ran AccountStore EnrollOp EnrollOp.Res (Except EnrollError Enrolled)

/-- The kind of the row that an operation appends. -/
def auditRow? : EnrollEvent → Option AuditEvent
  | ⟨.audit record, _⟩ => some record.event
  | ⟨.auth (.audit record), _⟩ => some record.event
  | _ => none

/-- The rows that were appended, most recent first. -/
def auditRows (hist : List EnrollEvent) : List AuditEvent := hist.filterMap auditRow?

/-- `AuthenticationError`, or `Conflict`. -/
def EnrollError.isHandled : EnrollError → Bool
  | .authentication _ => true
  | .conflict _ => true
  | _ => false

/-- The enrolment ended as it is meant to. -/
structure Handled (before : AccountStore) (ran : EnrollRan) : Prop where
  ended : ∃ outcome, ran.ended = .value outcome ∧
    ∀ error, outcome = .error error → error.isHandled = true
  row : auditRows ran.hist = [.deviceEnroll] ∨ auditRows ran.hist = [.deviceEnrollDenied]
  nothing : (∀ value, ran.ended ≠ .value (.ok value)) →
    ran.store.devices = before.devices ∧ ran.store.auth.tokens = before.auth.tokens

/-! ## What has to go well -/

section Condition

variable {Cert Key Hash : Type} (lib : X509 Cert Key Hash) (py : Python)
  (settings : EnrollSettings Cert) (args : EnrollArgs) (down : EnrollStatement → Bool)
  (choices : Nat → AccountChoice) (s : AccountStore)

/-- The challenge is the one that is kept for the code. -/
def Matches : Prop :=
  ∃ codeHash presented, hashCode args.enrollmentCode = .ok codeHash ∧
    b64decodeStrict args.presentedChallenge = some presented ∧
    (s.challenges.take codeHash (choices 0).now).1 = some presented

/-- The code is open. -/
def Opens (code : CodeRow) : Prop :=
  ∃ codeHash, hashCode args.enrollmentCode = .ok codeHash ∧
    (claimCode s.codes codeHash (choices 1).auth.now).1 = some code

/-- Both verdicts are good, or need not be. -/
def Passes : Prop :=
  settings.attestationStrict = true → ∃ presented assessment,
    b64decodeStrict args.presentedChallenge = some presented ∧
      assess lib py settings args presented = .ok assessment ∧ assessment.accepted = true

/-- There is a place for the device. -/
structure HasPlace (code : CodeRow) : Prop where
  quiet : (choices 3).raised = none
  user : (s.users.get? code.userId).isSome = true
  key : ∃ raw, b64decodeStrict args.devicePublicKey = some raw ∧ raw.length = 32 ∧
    ∀ row ∈ s.devices.rows, row.publicKey ≠ raw
  id : (choices 3).auth.uuid ∉ s.devices.rows.map DeviceRow.id

/-- The statements after the device succeed: none is down, and both tokens are new among `rows`. -/
structure Stores (rows : List TokenRow) : Prop where
  attaches : down .attachDevice = false
  insertsAccess : down .insertAccess = false
  insertsRefresh : down .insertRefresh = false
  accessTtl : 0 < settings.accessTokenTtl
  refreshTtl : 0 < settings.refreshTokenTtl
  accessId : (choices 8).auth.uuid ∉ rows.map TokenRow.id
  refreshId : (choices 9).auth.uuid ∉ rows.map TokenRow.id ++ [(choices 8).auth.uuid]
  accessHash : hashToken settings.toAuthSettings (choices 6).auth.token ∉
    rows.map TokenRow.tokenHash
  refreshHash : hashToken settings.toAuthSettings (choices 7).auth.token ∉
    rows.map TokenRow.tokenHash ++ [hashToken settings.toAuthSettings (choices 6).auth.token]

/-- Nothing that the enrolment comes to raises what is not provided for. -/
structure Smooth : Prop where
  decodes : ∃ presented, b64decodeStrict args.presentedChallenge = some presented
  claims : Matches args choices s → down .claim = false
  judged : Matches args choices s → ∀ code, Opens args choices s code →
    ChainJudged lib args.attestationChain ∧
      TokenJudged py settings.androidCertDigest args.playIntegrityToken
  stores : Matches args choices s → ∀ code, Opens args choices s code →
    Passes lib py settings args → HasPlace args choices s code →
      Stores settings down choices s.auth.tokens.rows

end Condition

/-! ## How a run ends -/

section Ends

variable {before s s' : AccountStore} {hist : List EnrollEvent} {ran : EnrollRan}

theorem auditRows_cons (e : EnrollEvent) (hist : List EnrollEvent) :
    auditRows (e :: hist) = (auditRow? e).toList ++ auditRows hist := by
  unfold auditRows
  rw [List.filterMap_cons]
  cases auditRow? e <;> rfl

/-- It failed, or raised what is not provided for. -/
def Unprovided {α : Type} : Ended EnrollOp (Except EnrollError α) → Prop
  | .value (.ok _) => False
  | .value (.error error) => error.isHandled = false
  | .failed _ => True

theorem not_handled (unprovided : Unprovided ran.ended) : ¬ Handled before ran := by
  intro handled
  obtain ⟨outcome, ended, provided⟩ := handled.ended
  rw [ended] at unprovided
  cases outcome with
  | ok value => exact unprovided
  | error error =>
      have unhandled : error.isHandled = false := unprovided
      rw [provided error rfl] at unhandled
      cases unhandled

/-- What ends a statement in such a way ends the whole so. -/
theorem leads_of_unprovided {α β : Type}
    {Q : Ran AccountStore EnrollOp EnrollOp.Res (Except EnrollError β) → Prop}
    {rest : List EnrollEvent → AccountStore → α → Prop}
    {ran : Ran AccountStore EnrollOp EnrollOp.Res (Except EnrollError α)}
    (unprovided : Unprovided ran.ended)
    (ends : ∀ ran' : Ran AccountStore EnrollOp EnrollOp.Res (Except EnrollError β),
      Unprovided ran'.ended → Q ran') : Ran.Leads Q rest ran := by
  obtain ⟨hist, s, ended⟩ := ran
  rcases ended with (error | value) | o
  · exact ends ⟨hist, s, .value (.error error)⟩ unprovided
  · exact unprovided.elim
  · exact ends ⟨hist, s, .failed o⟩ trivial

/-- The enrolment was refused, with a row. -/
structure Refused {α : Type} (s : AccountStore) (error : EnrollError)
    (ran : Ran AccountStore EnrollOp EnrollOp.Res (Except EnrollError α)) : Prop where
  ended : ran.ended = .value (.error error)
  row : auditRows ran.hist = [.deviceEnrollDenied]
  store : ran.store = s

theorem Refused.handled {error : EnrollError} (refused : Refused s error ran)
    (provided : error.isHandled = true) (devices : s.devices = before.devices)
    (auth : s.auth = before.auth) : Handled before ran where
  ended := ⟨.error error, refused.ended, fun _ same => Except.error.inj same ▸ provided⟩
  row := .inr refused.row
  nothing := by
    rw [refused.store, devices, auth]
    exact fun _ => ⟨rfl, rfl⟩

/-- A refusal inside a statement is one of the whole. -/
theorem Refused.leads {α β : Type} {error : EnrollError}
    {Q : Ran AccountStore EnrollOp EnrollOp.Res (Except EnrollError β) → Prop}
    {rest : List EnrollEvent → AccountStore → α → Prop}
    {ran : Ran AccountStore EnrollOp EnrollOp.Res (Except EnrollError α)}
    (refused : Refused s error ran)
    (ends : ∀ ran' : Ran AccountStore EnrollOp EnrollOp.Res (Except EnrollError β),
      Refused s error ran' → Q ran') : Ran.Leads Q rest ran := by
  unfold Ran.Leads
  rw [refused.ended]
  exact ends _ ⟨rfl, refused.row, refused.store⟩

variable {pgLower : String → String} {down : EnrollStatement → Bool}
  {choices : Nat → AccountChoice}

/-- A row, and the error. -/
theorem refused_ends {α : Type} (args : EnrollArgs) (actorId : Option Uuid) (detail : Dict)
    (error : EnrollError) (quiet : auditRows hist = []) :
    Ends (loneServer pgLower) (failsAt down) choices (Refused s error) hist s
      (audit (deniedCall args actorId detail) >>= fun _ => throw error : Py α).run := by
  refine ends_call nofun fun _ => ⟨_, _, rfl, ends_pure ⟨rfl, ?_, rfl⟩⟩
  rw [auditRows_cons, quiet]
  rfl

/-- A statement of `issue_pair`. -/
theorem ends_auth {α : Type}
    {Q : Ran AccountStore EnrollOp EnrollOp.Res (Except EnrollError α) → Prop} {o : AuthOp}
    {next : o.Res → Kit.Prog EnrollOp EnrollOp.Res (Except EnrollError α)} {r : o.Res}
    {auth : AuthStore}
    (failed : failsAt down (.auth o) = true → Q ⟨hist, s, .failed (.auth o)⟩)
    (answered : authServer.exec 0 o (s.answers pgLower (choices hist.length).auth o) s.auth =
      some (r, auth))
    (rest : failsAt down (.auth o) = false →
      Ends (loneServer pgLower) (failsAt down) choices Q (⟨.auth o, r⟩ :: hist)
        { s with auth } (next r)) :
    Ends (loneServer pgLower) (failsAt down) choices Q hist s (.op (.auth o) next) := by
  refine ends_op failed fun succeeds => ⟨r, { s with auth }, ?_, rest succeeds⟩
  show (authServer.exec 0 o _ s.auth).map _ = _
  rw [answered]
  rfl

end Ends

/-! ## The statements after the device -/

section Stored

/-- An insert that no constraint refuses. -/
structure Insertable (rows : List TokenRow) (token : NewToken) (id : Uuid) : Prop where
  ttl : 0 < token.ttlSeconds
  id : id ∉ rows.map TokenRow.id
  hash : token.tokenHash ∉ rows.map TokenRow.tokenHash

theorem insert_ok_iff {t : TokenTable} {token : NewToken} {id : Uuid} {now : Timestamp} :
    (∃ t', t.insert token id now = .ok t') ↔ Insertable t.rows token id := by
  have sum : ∀ a b : Int, a + b * 1000000 ≤ a ↔ ¬ 0 < b := by omega
  have later : (TokenTable.newRow token id now).expiresAt ≤
      (TokenTable.newRow token id now).issuedAt ↔ ¬ 0 < token.ttlSeconds :=
    sum now token.ttlSeconds
  simp only [TokenTable.insert]
  split_ifs with expired taken used
  · exact iff_of_false (not_exists.mpr fun _ => not_false) fun insertable => later.mp expired insertable.ttl
  · exact iff_of_false (not_exists.mpr fun _ => not_false) fun insertable => insertable.id taken
  · exact iff_of_false (not_exists.mpr fun _ => not_false) fun insertable => insertable.hash used
  · exact iff_of_true ⟨_, rfl⟩ ⟨not_not.mp (mt later.mpr expired), taken, used⟩

section Insert

variable {i : Nat} {auth : AuthStore} {token : NewToken} {choice : AuthChoice}

theorem exec_insert_ok (insertable : Insertable auth.tokens.rows token choice.uuid) :
    ∃ auth', authServer.exec i (.insert token) choice auth = some (.ok choice.uuid, auth') ∧
      auth'.tokens.rows =
        auth.tokens.rows ++ [TokenTable.newRow token choice.uuid choice.now] := by
  have inserts : ∃ tokens, auth.tokens.insert token choice.uuid choice.now = .ok tokens :=
    insert_ok_iff.mpr insertable
  obtain ⟨tokens, inserted⟩ := inserts
  simp only [authServer]
  split
  · rename_i same
    exact ⟨_, rfl, (Auth.insert_rows_eq same).1⟩
  · rename_i refused
    rw [inserted] at refused
    cases refused

theorem exec_insert_error (refused : ¬ Insertable auth.tokens.rows token choice.uuid) :
    ∃ error, authServer.exec i (.insert token) choice auth = some (.error error, auth) := by
  simp only [authServer]
  split
  · rename_i inserted
    exact absurd (insert_ok_iff.mp ⟨_, inserted⟩) refused
  · exact ⟨_, rfl⟩

end Insert

variable {s : AccountStore} {hist : List EnrollEvent} {pgLower : String → String}
  {down : EnrollStatement → Bool} {choices : Nat → AccountChoice}

theorem ends_newToken {α : Type}
    {Q : Ran AccountStore EnrollOp EnrollOp.Res (Except EnrollError α) → Prop}
    {next : String → Kit.Prog EnrollOp EnrollOp.Res (Except EnrollError α)} {n : Nat}
    (length : hist.length = n)
    (rest : Ends (loneServer pgLower) (failsAt down) choices Q
      (⟨.auth .newToken, (choices n).auth.token⟩ :: hist) s (next (choices n).auth.token)) :
    Ends (loneServer pgLower) (failsAt down) choices Q hist s (.op (.auth .newToken) next) := by
  subst length
  exact ends_auth nofun rfl fun _ => rest

/-- An insert of `issue_pair`: it fails, is refused, or adds its row. -/
theorem ends_insert {α : Type}
    {Q : Ran AccountStore EnrollOp EnrollOp.Res (Except EnrollError α) → Prop} {token : NewToken}
    {f : Uuid → Auth.Py α}
    (broken : (failsAt down (.auth (.insert token)) = false →
        ¬ Insertable s.auth.tokens.rows token (choices hist.length).auth.uuid) →
      ∀ ran : Ran AccountStore EnrollOp EnrollOp.Res (Except EnrollError α),
        Unprovided ran.ended → Q ran)
    (rest : failsAt down (.auth (.insert token)) = false →
      Insertable s.auth.tokens.rows token (choices hist.length).auth.uuid →
      ∀ id auth, auth.tokens.rows = s.auth.tokens.rows ++
          [TokenTable.newRow token (choices hist.length).auth.uuid (choices hist.length).auth.now] →
        Ends (loneServer pgLower) (failsAt down) choices Q
          (⟨.auth (.insert token), .ok id⟩ :: hist) { s with auth } (fromAuth (f id).run)) :
    Ends (loneServer pgLower) (failsAt down) choices Q hist s
      (fromAuth (Auth.insert token >>= f).run) := by
  by_cases insertable : Insertable s.auth.tokens.rows token (choices hist.length).auth.uuid
  · obtain ⟨auth, answer, rows⟩ := exec_insert_ok (i := 0) insertable
    refine ends_auth (fun failed => broken ?_ _ trivial) answer fun succeeds =>
      rest succeeds insertable _ auth rows
    rw [failed]
    exact nofun
  · obtain ⟨error, answer⟩ := exec_insert_error (i := 0) insertable
    refine ends_auth (fun failed => broken (fun _ => insertable) _ trivial) answer fun _ => ?_
    exact ends_pure (broken (fun _ => insertable) _ rfl)

/-- Both inserts of `issue_pair` succeed. -/
structure BothInserted (down : EnrollStatement → Bool) (choices : Nat → AccountChoice)
    (rows : List TokenRow) (access refresh : NewToken) : Prop where
  accessUp : failsAt down (.auth (.insert access)) = false
  accessNew : Insertable rows access (choices 8).auth.uuid
  refreshUp : failsAt down (.auth (.insert refresh)) = false
  refreshNew : Insertable
    (rows ++ [TokenTable.newRow access (choices 8).auth.uuid (choices 8).auth.now]) refresh
    (choices 9).auth.uuid

/-- A pair comes back if everything is stored; otherwise something is raised. -/
def PairIssued (stores : Prop) (hist : List EnrollEvent)
    (ran : Ran AccountStore EnrollOp EnrollOp.Res (Except EnrollError IssuedTokens)) : Prop :=
  Unprovided ran.ended ∧ ¬ stores ∨
    (∃ pair, ran.ended = .value (.ok pair)) ∧ ran.hist.length = 10 ∧
      auditRows ran.hist = auditRows hist ∧ stores

theorem inserts_ends (length : hist.length = 8) (access refresh : NewToken) (pair : IssuedTokens) :
    Ends (loneServer pgLower) (failsAt down) choices
      (PairIssued (BothInserted down choices s.auth.tokens.rows access refresh) hist) hist s
      (fromAuth (Auth.insert access >>= fun _ => Auth.insert refresh >>= fun _ => pure pair :
        Auth.Py IssuedTokens).run) := by
  refine ends_insert ?_ ?_
  · rw [length]
    intro bad ran unprovided
    exact .inl ⟨unprovided, fun both => bad both.accessUp both.accessNew⟩
  rw [length]
  intro accessUp insertable _ auth rows
  refine ends_insert ?_ ?_
  · rw [rows, List.length_cons, length]
    intro bad ran unprovided
    exact .inl ⟨unprovided, fun both => bad both.refreshUp both.refreshNew⟩
  rw [rows, List.length_cons, length]
  intro refreshUp insertable' _ auth' _
  refine ends_pure (.inr ⟨⟨pair, rfl⟩, ?_, ?_, accessUp, insertable, refreshUp, insertable'⟩)
  · rw [List.length_cons, List.length_cons, length]
  · rw [auditRows_cons, auditRows_cons]
    rfl

variable {Cert : Type} (settings : EnrollSettings Cert)

/-- A token that `issue_pair` inserts for a device. -/
def pairToken (family userId deviceId : Uuid) (kind : Auth.TokenKind) (token : String) (ttl : Int) :
    NewToken :=
  { familyId := family, userId, deviceId, kind, tokenHash := hashToken settings.toAuthSettings token,
    ttlSeconds := ttl, parentId := none }

theorem stores_iff {rows : List TokenRow} (attaches : down .attachDevice = false)
    (family userId deviceId : Uuid) :
    Stores settings down choices rows ↔
      BothInserted down choices rows
        (pairToken settings family userId deviceId .access (choices 6).auth.token
          settings.accessTokenTtl)
        (pairToken settings family userId deviceId .refresh (choices 7).auth.token
          settings.refreshTokenTtl) := by
  constructor
  · intro stores
    refine ⟨stores.insertsAccess, ⟨stores.accessTtl, stores.accessId, stores.accessHash⟩,
      stores.insertsRefresh, ⟨stores.refreshTtl, ?_, ?_⟩⟩
    · rw [List.map_append]
      exact stores.refreshId
    · rw [List.map_append]
      exact stores.refreshHash
  · rintro ⟨accessUp, access, refreshUp, refresh⟩
    have id := refresh.id
    have hash := refresh.hash
    rw [List.map_append] at id hash
    exact ⟨attaches, accessUp, refreshUp, access.ttl, refresh.ttl, access.id, id, access.hash, hash⟩

/-- `issue_pair`, after `attach_device`. -/
theorem issuePair_ends (length : hist.length = 5) (attaches : down .attachDevice = false)
    (drawn : (choices 5).auth.uuid ∉ s.auth.families) (userId deviceId : Uuid) :
    Ends (loneServer pgLower) (failsAt down) choices
      (PairIssued (Stores settings down choices s.auth.tokens.rows) hist) hist s
      (issuePair settings.toAuthSettings userId deviceId).run := by
  have draw : authServer.exec 0 .uuid4 (s.answers pgLower (choices hist.length).auth .uuid4) s.auth =
      some ((choices 5).auth.uuid,
        { s.auth with
          families := (choices 5).auth.uuid :: s.auth.families
          known := fun r mem => List.mem_cons_of_mem _ (s.auth.known r mem) }) := by
    rw [length]
    exact if_neg (by rwa [List.contains_iff_mem])
  refine ends_auth nofun draw fun _ => ?_
  refine ends_newToken (congrArg (· + 1) length) (ends_newToken (congrArg (· + 2) length) ?_)
  refine (inserts_ends (congrArg (· + 3) length) _ _ _).mono ?_
  have stored : Stores settings down choices s.auth.tokens.rows ↔ _ :=
    stores_iff settings attaches (choices 5).auth.uuid userId deviceId
  rintro ran (⟨unprovided, broken⟩ | ⟨issued, ended, rows, both⟩)
  · exact .inl ⟨unprovided, fun stores => broken (stored.mp stores)⟩
  · refine .inr ⟨issued, ended, ?_, stored.mpr both⟩
    rw [rows, auditRows_cons, auditRows_cons, auditRows_cons]
    rfl

/-- The end of an enrolment: it is handled if everything is stored. -/
theorem stored_ends {before : AccountStore} (length : hist.length = 4)
    (quiet : auditRows hist = []) (auth : s.auth = before.auth)
    (drawn : (choices 5).auth.uuid ∉ before.auth.families) (enrollmentId userId deviceId : Uuid)
    {record : AuditCall} (event : record.event = .deviceEnroll) (f : IssuedTokens → Enrolled) :
    Ends (loneServer pgLower) (failsAt down) choices
      (fun ran => Handled before ran ↔ Stores settings down choices before.auth.tokens.rows) hist s
      (attachDevice enrollmentId deviceId >>= fun _ =>
        issuePair settings.toAuthSettings userId deviceId >>= fun pair =>
          audit record >>= fun _ => pure (f pair) : Py Enrolled).run := by
  rw [← auth] at drawn ⊢
  refine ends_call ?_ ?_
  · intro failed
    refine iff_of_false (not_handled trivial) fun stores => ?_
    have up : failsAt down (.attachDevice enrollmentId deviceId) = false := stores.attaches
    rw [up] at failed
    cases failed
  intro attaches
  refine ⟨_, _, rfl, ends_seq ?_⟩
  refine (issuePair_ends settings ?_ attaches ?_ userId deviceId).mono ?_
  · exact congrArg (· + 1) length
  · exact drawn
  rintro ran (⟨unprovided, broken⟩ | ⟨⟨pair, issued⟩, -, rows, stores⟩)
  · exact leads_of_unprovided unprovided fun ran' bad => iff_of_false (not_handled bad) broken
  · unfold Ran.Leads
    rw [issued]
    refine ends_call nofun fun _ => ⟨_, _, rfl, ends_pure (iff_of_true ?_ stores)⟩
    refine ⟨⟨_, rfl, nofun⟩, .inl ?_, fun notOk => absurd rfl (notOk _)⟩
    rw [auditRows_cons, rows, auditRows_cons, quiet]
    show [record.event] = _
    rw [event]

end Stored

/-! ## The device -/

section Created

theorem insertDevice_ok_iff {users : UserTable} {devices : DeviceTable} {device : NewDevice}
    {id : Uuid} :
    (∃ devices', insertDevice users devices device id = .ok devices') ↔
      device.publicKey.length = 32 ∧ (users.get? device.userId).isSome = true ∧
        (∀ row ∈ devices.rows, row.publicKey ≠ device.publicKey) ∧
          id ∉ devices.rows.map DeviceRow.id := by
  unfold insertDevice
  split_ifs with short unknown enrolled
  · exact iff_of_false (not_exists.mpr fun _ => not_false) fun fits => short fits.1
  · refine iff_of_false (not_exists.mpr fun _ => not_false) fun fits => ?_
    rw [Option.isNone_iff_eq_none] at unknown
    rw [unknown] at fits
    cases fits.2.1
  · refine iff_of_false (not_exists.mpr fun _ => not_false) fun fits => ?_
    obtain ⟨row, mem, same⟩ := List.any_eq_true.mp enrolled
    exact fits.2.2.1 row mem (of_decide_eq_true same)
  · have known : (users.get? device.userId).isSome = true := by
      rwa [Bool.not_eq_true, Option.isNone_eq_false_iff] at unknown
    have other : ∀ row ∈ devices.rows, row.publicKey ≠ device.publicKey :=
      fun row mem same => enrolled (List.any_eq_true.mpr ⟨row, mem, decide_eq_true same⟩)
    unfold Kit.Table.insert?
    split_ifs with taken
    · exact iff_of_false (not_exists.mpr fun _ => not_false) fun fits => fits.2.2.2 taken
    · exact iff_of_true ⟨_, rfl⟩ ⟨not_not.mp short, known, other, taken⟩

variable {before s : AccountStore} {hist : List EnrollEvent} {pgLower : String → String}
  {down : EnrollStatement → Bool} {choices : Nat → AccountChoice} {args : EnrollArgs}
  {code : CodeRow}

theorem hasPlace_iff {device : NewDevice}
    (key : b64decodeStrict args.devicePublicKey = some device.publicKey)
    (user : device.userId = code.userId) :
    HasPlace args choices s code ↔ (choices 3).raised = none ∧
      ∃ devices, insertDevice s.users s.devices device (choices 3).auth.uuid = .ok devices := by
  rw [insertDevice_ok_iff, user]
  constructor
  · rintro ⟨quiet, known, ⟨raw, isRaw, size, other⟩, fresh⟩
    obtain rfl : device.publicKey = raw := Option.some.inj (key.symm.trans isRaw)
    exact ⟨quiet, size, known, other, fresh⟩
  · rintro ⟨quiet, size, known, other, fresh⟩
    exact ⟨quiet, known, ⟨_, key, size, other⟩, fresh⟩

/-- The row is inserted, or the exception has a name. -/
theorem exec_createDevice (pgLower : String → String) (s : AccountStore) (choice : AccountChoice)
    (device : NewDevice) :
    (choice.raised = none ∧
        (∃ devices, insertDevice s.users s.devices device choice.auth.uuid = .ok devices) ∧
        ∃ s', enrollStep pgLower 0 (.createDevice device) choice s =
          some (.ok choice.auth.uuid, s') ∧ s'.auth = s.auth) ∨
      (¬(choice.raised = none ∧
          ∃ devices, insertDevice s.users s.devices device choice.auth.uuid = .ok devices) ∧
        ∃ name, enrollStep pgLower 0 (.createDevice device) choice s =
          some (.error name, s)) := by
  simp only [enrollStep]
  cases raised : choice.raised with
  | some name => exact .inr ⟨by rintro ⟨⟨⟩, -⟩, name, rfl⟩
  | none =>
      cases inserted : insertDevice s.users s.devices device choice.auth.uuid with
      | error name => exact .inr ⟨by rintro ⟨-, devices, ⟨⟩⟩, name, rfl⟩
      | ok devices => exact .inl ⟨rfl, ⟨devices, rfl⟩, _, rfl, rfl⟩

variable {Cert : Type} (settings : EnrollSettings Cert)

/-- The `try` block, and what follows it. -/
theorem created_ends {claimed : Claimed} {stores : Prop} {f : Except Text Uuid → Py Enrolled}
    (length : hist.length = 2) (quiet : auditRows hist = []) (users : s.users = before.users)
    (devices : s.devices = before.devices) (auth : s.auth = before.auth)
    (user : claimed.userId = code.userId)
    (refuses : ∀ name, ∃ detail, f (.error name) =
      (audit (deniedCall args (some claimed.userId) detail) >>= fun _ =>
        throw (.conflict "device_already_enrolled")))
    (goesOn : ∀ id hist' s', hist'.length = 4 → auditRows hist' = [] → s'.auth = before.auth →
      Ends (loneServer pgLower) (failsAt down) choices (fun ran => Handled before ran ↔ stores)
        hist' s' (f (.ok id)).run) (assessment : Assessment) (status : AttestationStatus) :
    Ends (loneServer pgLower) (failsAt down) choices
      (fun ran => Handled before ran ↔ (HasPlace args choices before code → stores)) hist s
      (tryCreate settings args claimed assessment status >>= f).run := by
  have refused : ¬ HasPlace args choices before code → ∀ name hist', auditRows hist' = [] →
      Ends (loneServer pgLower) (failsAt down) choices
        (fun ran => Handled before ran ↔ (HasPlace args choices before code → stores)) hist' s
        (f (.error name)).run := by
    intro noPlace name hist' quiet'
    obtain ⟨detail, same⟩ := refuses name
    rw [same]
    refine (refused_ends args _ detail _ quiet').mono fun ran isRefused => ?_
    exact iff_of_true (isRefused.handled rfl devices auth) fun place => absurd place noPlace
  unfold tryCreate
  cases decoded : b64decodeStrict args.devicePublicKey with
  | none =>
      refine refused (fun place => ?_) (text "Error") hist quiet
      obtain ⟨raw, isRaw, -⟩ := place.key
      rw [decoded] at isRaw
      cases isRaw
  | some raw =>
      refine ends_op nofun fun _ => ⟨_, _, rfl, ends_op nofun fun _ => ?_⟩
      rw [List.length_cons, length]
      rcases exec_createDevice pgLower s (choices 3) _ with
        ⟨notRaised, fits, s', answer, same⟩ | ⟨misfits, name, answer⟩
      · refine ⟨_, s', answer, (goesOn _ _ s' ?_ ?_ (same.trans auth)).mono fun ran ends => ?_⟩
        · rw [List.length_cons, List.length_cons, length]
        · rw [auditRows_cons, auditRows_cons, quiet]
          rfl
        · rw [users, devices] at fits
          have place : HasPlace args choices before code :=
            (hasPlace_iff decoded user).mpr ⟨notRaised, fits⟩
          exact ends.trans ⟨fun holds _ => holds, fun holds => holds place⟩
      · refine ⟨_, s, answer, refused (fun place => misfits ?_) name _ ?_⟩
        · rw [users, devices]
          exact (hasPlace_iff decoded user).mp place
        · rw [auditRows_cons, auditRows_cons, quiet]
          rfl

end Created

/-! ## The verdicts -/

section Decided

variable {before s : AccountStore} {hist : List EnrollEvent} {pgLower : String → String}
  {down : EnrollStatement → Bool} {choices : Nat → AccountChoice} {args : EnrollArgs}
  {Cert Key Hash : Type} (lib : X509 Cert Key Hash) (py : Python) (settings : EnrollSettings Cert)

/-- Without a row, the end is not one that is meant. -/
theorem not_handled_of_quiet {ended : Ended EnrollOp (Except EnrollError Enrolled)}
    (quiet : auditRows hist = []) : ¬ Handled before ⟨hist, s, ended⟩ := by
  intro handled
  have row := handled.row
  rw [quiet] at row
  rcases row with row | row <;> cases row

theorem passes_iff {presented : Bytes} {assessment : Assessment}
    (decoded : b64decodeStrict args.presentedChallenge = some presented)
    (assessed : assess lib py settings args presented = .ok assessment) :
    Passes lib py settings args ↔
      (settings.attestationStrict = true → assessment.accepted = true) := by
  refine forall_congr' fun strict => ?_
  constructor
  · rintro ⟨presented', assessment', decoded', assessed', accepted⟩
    obtain rfl := Option.some.inj (decoded.symm.trans decoded')
    obtain rfl := Except.ok.inj (assessed.symm.trans assessed')
    exact accepted
  · exact fun accepted => ⟨presented, assessment, decoded, assessed, accepted⟩

/-- The two verdicts, the decision, and what follows it. -/
theorem decided_ends {claimed : Claimed} {presented : Bytes} {rest : Prop}
    {f : Assessment → AttestationStatus → Py Enrolled}
    (decoded : b64decodeStrict args.presentedChallenge = some presented)
    (quiet : auditRows hist = []) (devices : s.devices = before.devices)
    (auth : s.auth = before.auth)
    (goesOn : ∀ assessment status,
      Ends (loneServer pgLower) (failsAt down) choices (fun ran => Handled before ran ↔ rest)
        hist s (f assessment status).run) :
    Ends (loneServer pgLower) (failsAt down) choices
      (fun ran => Handled before ran ↔
        (ChainJudged lib args.attestationChain ∧
            TokenJudged py settings.androidCertDigest args.playIntegrityToken) ∧
          (Passes lib py settings args → rest)) hist s
      (MonadExcept.ofExcept (assess lib py settings args presented) >>= fun assessment =>
        decideStatus settings args claimed assessment >>= fun status =>
          f assessment status : Py Enrolled).run := by
  rw [← assess_returns_iff lib py settings args presented]
  cases assessed : assess lib py settings args presented with
  | error error =>
      refine ends_pure (iff_of_false (not_handled_of_quiet quiet) ?_)
      exact fun both => not_returns_error _ both.1
  | ok assessment =>
      rw [passes_iff lib py settings decoded assessed, and_iff_right (returns_ok assessment)]
      refine ends_seq (ends_pure (ends_seq ?_))
      unfold decideStatus
      cases rejected : !assessment.accepted && settings.attestationStrict with
      | false =>
          refine ends_skip rfl (ends_pure ((goesOn assessment _).mono fun ran ends => ?_))
          refine ends.trans ⟨fun holds _ => holds, fun holds => holds fun strict => ?_⟩
          rw [strict, Bool.and_true, Bool.not_eq_false'] at rejected
          exact rejected
      | true =>
          obtain ⟨notAccepted, strict⟩ := Bool.and_eq_true_iff.mp rejected
          have reads (now : Timestamp) : auditRows (⟨.utcNow, now⟩ :: hist) = [] := by
            rw [auditRows_cons, quiet]
            rfl
          refine ends_taken rfl (ends_call nofun fun _ => ⟨_, _, rfl, ?_⟩)
          refine (refused_ends args _ _ _ (reads _)).mono fun ran refused => ?_
          refine refused.leads fun ran' refused => refused.leads fun ran'' refused => ?_
          refine iff_of_true (refused.handled rfl devices auth) fun accepted => ?_
          rw [accepted strict] at notAccepted
          cases notAccepted

end Decided

/-! ## The challenge and the code -/

section Checked

variable {before : AccountStore} {pgLower : String → String} {down : EnrollStatement → Bool}
  {choices : Nat → AccountChoice} {args : EnrollArgs}

/-- A store with the same users, devices and tokens. -/
structure SameTables (before s : AccountStore) : Prop where
  users : s.users = before.users
  devices : s.devices = before.devices
  auth : s.auth = before.auth

theorem exec_take (pgLower : String → String) {choice : AccountChoice} (s : AccountStore)
    (codeHash : Bytes) (clock : s.clock ≤ choice.now) :
    ∃ s', enrollStep pgLower 0 (.take codeHash) choice s =
        some ((s.challenges.take codeHash choice.now).1, s') ∧
      s'.codes = s.codes ∧ SameTables s s' :=
  ⟨_, if_neg (not_lt.mpr clock), rfl, rfl, rfl, rfl⟩

theorem exec_claim (pgLower : String → String) (choice : AccountChoice) (s : AccountStore)
    (codeHash : Bytes) :
    ∃ s', enrollStep pgLower 0 (.claim codeHash) choice s =
        some ((claimCode s.codes codeHash choice.auth.now).1.map fun code =>
          ⟨code.id, code.userId⟩, s') ∧ SameTables s s' :=
  ⟨_, rfl, rfl, rfl, rfl⟩

theorem matches_iff {codeHash presented : Bytes}
    (hashed : hashCode args.enrollmentCode = .ok codeHash)
    (decoded : b64decodeStrict args.presentedChallenge = some presented) :
    Matches args choices before ↔
      (before.challenges.take codeHash (choices 0).now).1 = some presented := by
  constructor
  · rintro ⟨codeHash', presented', hashed', decoded', same⟩
    obtain rfl := Except.ok.inj (hashed.symm.trans hashed')
    obtain rfl := Option.some.inj (decoded.symm.trans decoded')
    exact same
  · exact fun same => ⟨codeHash, presented, hashed, decoded, same⟩

theorem opens_iff {codeHash : Bytes} (hashed : hashCode args.enrollmentCode = .ok codeHash)
    (code : CodeRow) : Opens args choices before code ↔
      (claimCode before.codes codeHash (choices 1).auth.now).1 = some code := by
  constructor
  · rintro ⟨codeHash', hashed', same⟩
    obtain rfl := Except.ok.inj (hashed.symm.trans hashed')
    exact same
  · exact fun same => ⟨codeHash, hashed, same⟩

/-- What the first statements ask for, and what follows them. -/
theorem checked_ends {codeHash : Bytes} {rest : CodeRow → Prop}
    {f : Bytes × Claimed → Py Enrolled} (hashed : hashCode args.enrollmentCode = .ok codeHash)
    (clock : before.clock ≤ (choices 0).now)
    (goesOn : ∀ presented (code : CodeRow) hist s,
      b64decodeStrict args.presentedChallenge = some presented → hist.length = 2 →
      auditRows hist = [] → SameTables before s →
      Ends (loneServer pgLower) (failsAt down) choices (fun ran => Handled before ran ↔ rest code)
        hist s (f (presented, ⟨code.id, code.userId⟩)).run) :
    Ends (loneServer pgLower) (failsAt down) choices
      (fun ran => Handled before ran ↔
        (∃ presented, b64decodeStrict args.presentedChallenge = some presented) ∧
          (Matches args choices before → down .claim = false ∧
            ∀ code, Opens args choices before code → rest code)) [] before
      (checkCode args >>= f).run := by
  unfold checkCode
  rw [hashed]
  obtain ⟨s₁, takes, codes, tables⟩ := exec_take pgLower before codeHash clock
  refine ends_seq (ends_seq (ends_pure (ends_call nofun fun _ => ⟨_, s₁, takes, ?_⟩)))
  cases decoded : b64decodeStrict args.presentedChallenge with
  | none =>
      refine ends_pure (iff_of_false (not_handled_of_quiet rfl) ?_)
      rintro ⟨⟨presented, ⟨⟩⟩, -⟩
  | some presented =>
      rw [matches_iff hashed decoded, and_iff_right ⟨presented, rfl⟩]
      by_cases same : (before.challenges.take codeHash (choices 0).now).1 = some presented
      · rw [imp_iff_right same]
        refine ends_skip (decide_eq_false (not_not.mpr same)) (ends_call ?_ ?_)
        · intro failed
          refine iff_of_false (not_handled trivial) fun goes => ?_
          have up : failsAt down (.claim codeHash) = false := goes.1
          rw [up] at failed
          cases failed
        intro up
        obtain ⟨s₂, claims, tables'⟩ := exec_claim pgLower (choices 1) s₁ codeHash
        rw [codes] at claims
        refine ⟨_, s₂, claims, ?_⟩
        rw [and_iff_right (show down .claim = false from up)]
        simp only [opens_iff hashed]
        cases (claimCode before.codes codeHash (choices 1).auth.now).1 with
        | none =>
            refine (refused_ends args _ _ _ rfl).mono fun ran refused => ?_
            refine refused.leads fun ran' refused => ?_
            refine iff_of_true (refused.handled rfl (tables'.devices.trans tables.devices)
              (tables'.auth.trans tables.auth)) fun code isCode => ?_
            cases isCode
        | some code =>
            refine ends_pure ((goesOn presented code _ s₂ decoded rfl rfl
              ⟨tables'.users.trans tables.users, tables'.devices.trans tables.devices,
                tables'.auth.trans tables.auth⟩).mono fun ran ends => ends.trans ?_)
            constructor
            · intro holds code' same
              exact Option.some.inj same ▸ holds
            · exact fun holds => holds code rfl
      · refine ends_taken (decide_eq_true same) ?_
        refine (refused_ends args _ _ _ rfl).mono fun ran refused => ?_
        refine refused.leads fun ran' refused => refused.leads fun ran'' refused => ?_
        exact iff_of_true (refused.handled rfl tables.devices tables.auth) fun isSame =>
          absurd isSame same

end Checked

/-! ## The whole enrolment -/

theorem strip_subset (s : Text) : strip s ⊆ s := by
  intro c mem
  unfold strip at mem
  rw [List.mem_reverse] at mem
  have inside := (List.dropWhile_sublist _).subset mem
  rw [List.mem_reverse] at inside
  exact (List.dropWhile_sublist _).subset inside

/-- The code of a request has a hash. -/
theorem Admitted.hashed {args : EnrollArgs} (admitted : Admitted args) :
    ∃ codeHash, hashCode args.enrollmentCode = .ok codeHash := by
  have unicode : (strip args.enrollmentCode).any isSurrogate = false := by
    rw [List.any_eq_false]
    intro c mem
    have whole := admitted.unicode args.enrollmentCode List.mem_cons_self
    exact List.any_eq_false.mp whole c (strip_subset _ mem)
  unfold hashCode encodeUtf8
  rw [unicode]
  exact ⟨_, rfl⟩

section Enroll

variable {Cert Key Hash : Type} (lib : X509 Cert Key Hash) (py : Python)
  (settings : EnrollSettings Cert) (args : EnrollArgs)

/-- An enrolment, run alone from `s`. -/
def enrollRun (pgLower : String → String) (down : EnrollStatement → Bool)
    (choices : Nat → AccountChoice) (s : AccountStore) : Option EnrollRan :=
  failing (loneServer pgLower) (failsAt down) choices [] s (enroll lib py settings args).run

end Enroll

/-! ### One enrolment that goes well, and two that do not -/

/-- A challenge is out for the code. -/
def challenged : AccountStore :=
  { beforeEnrolment with
    challenges := [(Kit.Sha256.sha256 (ascii "code-0001"), ⟨List.replicate 32 0x2a, 300⟩)] }

/-- The draws of an enrolment. -/
def enrollChoices (n : Nat) : AccountChoice :=
  { now := 20, auth := { uuid := 10 + n, token := if n = 6 then "a" else "r" } }

theorem admitted_unattested : Admitted unattestedArgs where
  unicode := by decide
  code := by decide
  label := by decide
  key := by decide
  keyShape := ⟨otherKey, by decide, by decide⟩
  chain := by decide
  token := by decide
  challenge := by decide
  appVersion := nofun

theorem smooth_unattested :
    Smooth loadsSelfMade loadsVerdict logOnlySettings unattestedArgs (fun _ => false) enrollChoices
      challenged where
  decodes := ⟨List.replicate 32 0x2a, by decide⟩
  claims := fun _ => rfl
  judged := fun _ _ _ => ⟨.empty, .inl rfl, by
    rintro value payload ⟨⟩ ⟨⟩⟩
  stores := fun _ _ _ _ _ => ⟨rfl, rfl, rfl, by decide, by decide, by decide, by decide,
    List.not_mem_nil, by decide +kernel⟩

/-- A challenge that is no base64. -/
def notBase64Args : EnrollArgs := { unattestedArgs with presentedChallenge := text "!!!!" }

/-- A token that is a list. -/
def listTokenArgs : EnrollArgs := { unattestedArgs with playIntegrityToken := text "[1]" }

def loadsList : Python :=
  { loadsVerdict with
    loads := fun raw => if raw = text "[1]" then .ok (some (.arr [.int 1])) else .ok none }

/-- What is raised, with the rows in the log. -/
def raisedAs (ran : EnrollRan) : Option EnrollError × List AuditEvent :=
  match ran.ended with
  | .value (.error error) => (some error, auditRows ran.hist)
  | _ => (none, auditRows ran.hist)

end DoorsControl.Enrollment
