import DoorsControl.Auth.Tokens
import DoorsControl.Kit.Pool

/-!
# Login, refresh and logout

`AuthService` as programs over single statements: each `await` of a repository,
each random draw and each reading of the clock is one operation, and calls may be
interleaved between any two of them.

The token table is the store. The `users` and `devices` tables, the clock and the
random draws answer as they like (`AuthChoice`), so that what is proved holds
whatever happens to accounts and devices meanwhile. `uuid.uuid4()` never returns
an identifier that is a family already. Statements fail on constraints only.
-/

namespace DoorsControl.Auth

open DoorsControl.Audit

/-- `acs.attestation_status` -/
inductive AttestationStatus where
  | pending
  | verified
  | failed
  | exempt
  deriving DecidableEq, Repr

/-- What the service uses of its settings, with Argon2 verification and
`datetime.isoformat`. -/
structure AuthSettings where
  pepperBytes : Bytes
  accessTokenTtl : Int
  refreshTokenTtl : Int
  /-- `attestation_mode == "strict"` -/
  attestationStrict : Bool
  verifyPassword : (storedHash password : String) → Bool
  isoformat : Timestamp → Text

/-- `hash_token`: SHA-256 of pepper and token. -/
def hashToken (settings : AuthSettings) (token : String) : Bytes :=
  Kit.Sha256.sha256 (settings.pepperBytes ++ utf8 (text token))

/-- What `UserRepository.by_username` returns. -/
structure UserRecord where
  id : Uuid
  passwordHash : String
  isActive : Bool

/-- What `DeviceRepository.by_id` returns. -/
structure DeviceRecord where
  userId : Uuid
  isBlocked : Bool
  attestationStatus : AttestationStatus

/-- The columns `TokenRepository.lookup` joins from `users` and `devices`. -/
structure Joined where
  userActive : Bool
  userIsAdmin : Bool
  displayName : String
  username : String
  deviceBlocked : Bool
  attestationStatus : AttestationStatus

/-- What `TokenRepository.lookup` returns. -/
structure TokenRecord extends Joined where
  id : Uuid
  familyId : Uuid
  userId : Uuid
  deviceId : Uuid
  expiresAt : Timestamp
  usedAt : Option Timestamp
  revokedAt : Option Timestamp

def TokenRow.record (row : TokenRow) (joined : Joined) : TokenRecord :=
  { joined with
    id := row.id
    familyId := row.familyId
    userId := row.userId
    deviceId := row.deviceId
    expiresAt := row.expiresAt
    usedAt := row.usedAt
    revokedAt := row.revokedAt }

/-- `TokenRepository.is_live` -/
def isLive (record : TokenRecord) (now : Timestamp) : Bool :=
  record.revokedAt.isNone && record.expiresAt > now && record.userActive && !record.deviceBlocked

/-- What a call raises. -/
inductive AuthError where
  /-- `AuthenticationError(internal_reason)` -/
  | authentication (internalReason : String)
  | database (error : DbError)
  deriving DecidableEq, Repr

structure Session where
  userId : Uuid
  deviceId : Uuid
  username : String
  displayName : String
  isAdmin : Bool
  tokenId : Uuid
  familyId : Uuid

structure IssuedTokens where
  accessToken : String
  refreshToken : String
  expiresIn : Int
  familyId : Uuid

/-! ## Statements -/

inductive AuthOp where
  | byUsername (username : String)
  | deviceById (id : Uuid)
  | touchLogin (userId : Uuid)
  | touchSeen (deviceId : Uuid)
  | lookup (hash : Bytes) (kind : TokenKind)
  | insert (token : NewToken)
  | markUsed (id : Uuid)
  | revoke (id : Uuid) (reason : String)
  | revokeFamily (family : Uuid) (reason : String)
  | revokeDeviceSessions (device : Uuid) (reason : String)
  | utcNow
  | uuid4
  | newToken
  | audit (record : AuditCall)

abbrev AuthOp.Res : AuthOp → Type
  | .byUsername _ => Option UserRecord
  | .deviceById _ => Option DeviceRecord
  | .touchLogin _ => Unit
  | .touchSeen _ => Unit
  | .lookup _ _ => Option TokenRecord
  | .insert _ => Except DbError Uuid
  | .markUsed _ => Unit
  | .revoke _ _ => Unit
  | .revokeFamily _ _ => Nat
  | .revokeDeviceSessions _ _ => Nat
  | .utcNow => Timestamp
  | .uuid4 => Uuid
  | .newToken => String
  | .audit _ => Int

abbrev AuthEvent := Kit.Event AuthOp AuthOp.Res
abbrev Py := ExceptT AuthError (Kit.Prog AuthOp AuthOp.Res)

open Kit.Prog (call)

abbrev byUsername (username : String) : Py (Option UserRecord) := call (AuthOp.byUsername username)
abbrev deviceById (id : Uuid) : Py (Option DeviceRecord) := call (AuthOp.deviceById id)
abbrev touchLogin (userId : Uuid) : Py Unit := call (AuthOp.touchLogin userId)
abbrev touchSeen (deviceId : Uuid) : Py Unit := call (AuthOp.touchSeen deviceId)
abbrev lookup (hash : Bytes) (kind : TokenKind) : Py (Option TokenRecord) :=
  call (AuthOp.lookup hash kind)
abbrev markUsed (id : Uuid) : Py Unit := call (AuthOp.markUsed id)
abbrev revoke (id : Uuid) (reason : String) : Py Unit := call (AuthOp.revoke id reason)
abbrev revokeFamily (family : Uuid) (reason : String) : Py Nat := call (AuthOp.revokeFamily family reason)
abbrev revokeDeviceSessions (device : Uuid) (reason : String) : Py Nat :=
  call (AuthOp.revokeDeviceSessions device reason)
abbrev utcNow : Py Timestamp := call AuthOp.utcNow
abbrev uuid4 : Py Uuid := call AuthOp.uuid4
abbrev newToken : Py String := call AuthOp.newToken
abbrev audit (record : AuditCall) : Py Int := call (AuthOp.audit record)

/-- An insert that a constraint refuses raises. -/
def insert (token : NewToken) : Py Uuid := do
  let answer : Except DbError Uuid ← call (AuthOp.insert token)
  match answer with
  | .ok id => return id
  | .error error => throw (.database error)

/-! ## The service -/

/-- `AuthService.issue_pair` -/
def issuePair (settings : AuthSettings) (userId deviceId : Uuid) (familyId parentId : Option Uuid) :
    Py IssuedTokens := do
  let familyId ← match familyId with
    | some family => pure family
    | none => uuid4
  let access ← newToken
  let refresh ← newToken
  let _ ← insert
    { familyId, userId, deviceId, kind := .access, tokenHash := hashToken settings access,
      ttlSeconds := settings.accessTokenTtl, parentId }
  let _ ← insert
    { familyId, userId, deviceId, kind := .refresh, tokenHash := hashToken settings refresh,
      ttlSeconds := settings.refreshTokenTtl, parentId }
  return { accessToken := access, refreshToken := refresh,
           expiresIn := settings.accessTokenTtl, familyId }

/-- The end of `login`, once the credentials have been accepted. -/
def loginAccepted (settings : AuthSettings) (userId deviceId : Uuid) (clientIp : Option Text) :
    Py IssuedTokens := do
  let pair ← issuePair settings userId deviceId none none
  touchLogin userId
  touchSeen deviceId
  let _ ← audit
    { event := .authLogin, outcome := .success, actorType := .user, actorId := some userId,
      deviceId := some deviceId, clientIp,
      detail := [(text "family_id", .str (uuidText pair.familyId))] }
  return pair

/-- `AuthService.login`. Burning the time of a password check has no effect
here. -/
def login (settings : AuthSettings) (username password : String) (deviceId : Uuid)
    (clientIp : Option Text) : Py IssuedTokens := do
  match ← byUsername username with
  | none => throw (.authentication "unknown_user")
  | some user =>
      if !settings.verifyPassword user.passwordHash password then
        throw (.authentication "bad_password")
      else if !user.isActive then throw (.authentication "user_disabled")
      else
        match ← deviceById deviceId with
        | none => throw (.authentication "device_not_bound")
        | some device =>
            if device.userId ≠ user.id then throw (.authentication "device_not_bound")
            else if device.isBlocked then throw (.authentication "device_blocked")
            else if settings.attestationStrict && device.attestationStatus ≠ .verified then
              throw (.authentication "device_not_attested")
            else loginAccepted settings user.id deviceId clientIp

/-- The branch of `refresh` for a token that was used before. -/
def refreshReused (settings : AuthSettings) (record : TokenRecord) (usedAt : Timestamp)
    (clientIp : Option Text) : Py IssuedTokens := do
  let revoked ← revokeFamily record.familyId "refresh token reuse detected"
  let _ ← audit
    { event := .authRefreshReuse, outcome := .failure, actorType := .device,
      actorId := some record.userId, deviceId := some record.deviceId, clientIp,
      detail := [(text "family_id", .str (uuidText record.familyId)),
        (text "tokens_revoked", .int revoked),
        (text "first_used_at", .str (settings.isoformat usedAt))] }
  throw (.authentication "refresh_reuse")

/-- The end of `refresh`: the rotation. -/
def refreshRotate (settings : AuthSettings) (record : TokenRecord) (clientIp : Option Text) :
    Py IssuedTokens := do
  markUsed record.id
  revoke record.id "rotated"
  let pair ← issuePair settings record.userId record.deviceId (some record.familyId)
    (some record.id)
  let _ ← audit
    { event := .authRefresh, outcome := .success, actorType := .user,
      actorId := some record.userId, deviceId := some record.deviceId, clientIp,
      detail := [(text "family_id", .str (uuidText record.familyId))] }
  return pair

/-- `AuthService.refresh` -/
def refresh (settings : AuthSettings) (refreshToken : String) (clientIp : Option Text) :
    Py IssuedTokens := do
  match ← lookup (hashToken settings refreshToken) .refresh with
  | none => throw (.authentication "unknown_refresh_token")
  | some record =>
      match record.usedAt with
      | some usedAt => refreshReused settings record usedAt clientIp
      | none =>
          let now ← utcNow
          if !isLive record now then throw (.authentication "refresh_not_live")
          else refreshRotate settings record clientIp

/-- `AuthService.resolve_access_token` -/
def resolveAccessToken (settings : AuthSettings) (token : String) : Py Session := do
  match ← lookup (hashToken settings token) .access with
  | none => throw (.authentication "access_token_not_live")
  | some record =>
      let now ← utcNow
      if !isLive record now then throw (.authentication "access_token_not_live")
      else if settings.attestationStrict && record.attestationStatus ≠ .verified then
        throw (.authentication "device_not_attested")
      else return { userId := record.userId, deviceId := record.deviceId,
                    username := record.username, displayName := record.displayName,
                    isAdmin := record.userIsAdmin, tokenId := record.id,
                    familyId := record.familyId }

/-- `AuthService.logout` -/
def logout (session : Session) (allDevices : Bool) (clientIp : Option Text) : Py Nat := do
  let revoked ←
    if allDevices then revokeDeviceSessions session.deviceId "logout_all"
    else revokeFamily session.familyId "logout"
  let _ ← audit
    { event := .authLogout, outcome := .success, actorType := .user,
      actorId := some session.userId, deviceId := some session.deviceId, clientIp,
      detail := [(text "tokens_revoked", .int revoked), (text "all_devices", .bool allDevices)] }
  return revoked

/-! ## Requests -/

inductive AuthRequest where
  | login (username password : String) (deviceId : Uuid) (clientIp : Option Text)
  | refresh (refreshToken : String) (clientIp : Option Text)
  /-- `POST /auth/logout`, whose session is that of the bearer token. -/
  | logout (bearer : String) (allDevices : Bool) (clientIp : Option Text)

/-- The request presents this refresh token. -/
def AuthRequest.presents (token : String) : AuthRequest → Bool
  | .refresh presented _ => presented = token
  | _ => false

inductive AuthReply where
  | tokens (pair : IssuedTokens)
  | revoked (count : Nat)

abbrev AuthOutcome := Except AuthError AuthReply

/-- What a request runs. -/
def serve (settings : AuthSettings) : AuthRequest → Kit.Prog AuthOp AuthOp.Res AuthOutcome
  | .login username password deviceId clientIp =>
      (AuthReply.tokens <$> login settings username password deviceId clientIp).run
  | .refresh token clientIp => (AuthReply.tokens <$> refresh settings token clientIp).run
  | .logout bearer allDevices clientIp =>
      (do let session ← resolveAccessToken settings bearer
          AuthReply.revoked <$> logout session allDevices clientIp : Py AuthReply).run

/-! ## The database -/

/-- The token table, and the identifiers that are families. -/
structure AuthStore where
  tokens : TokenTable
  families : List Uuid
  known : ∀ r ∈ tokens.rows, r.familyId ∈ families

/-- What is decided outside: the clock, random draws and the other tables. -/
structure AuthChoice where
  now : Timestamp := 0
  uuid : Uuid := 0
  token : String := ""
  user : Option UserRecord := none
  device : Option DeviceRecord := none
  joined : Option Joined := none
  seq : Int := 0

/-- The store after a statement that changed rows and added none. -/
def AuthStore.withTokens (s : AuthStore) (tokens : TokenTable)
    (advances : TableAdvances s.tokens tokens none) : AuthStore where
  tokens := tokens
  families := s.families
  known := by
    intro r' mem
    rcases advances.origin r' mem with ⟨r, inside, step⟩ | ⟨_, added, -⟩
    · rw [step.family_eq]
      exact s.known r inside
    · cases added

/-- The store after an insert. -/
def AuthStore.withInsert (s : AuthStore) (tokens : TokenTable) (token : NewToken)
    (advances : TableAdvances s.tokens tokens (some token)) : AuthStore where
  tokens := tokens
  families := token.familyId :: s.families
  known := by
    intro r' mem
    rcases advances.origin r' mem with ⟨r, inside, step⟩ | ⟨_, added, family, -⟩
    · rw [step.family_eq]
      exact List.mem_cons_of_mem _ (s.known r inside)
    · obtain rfl := Option.some.inj added
      rw [family]
      exact List.mem_cons_self

/-- One statement, run by itself. -/
def authServer : Kit.Server AuthStore AuthOp AuthOp.Res AuthChoice where
  exec
    | _, .byUsername _, choice, s => some (choice.user, s)
    | _, .deviceById _, choice, s => some (choice.device, s)
    | _, .touchLogin _, _, s => some ((), s)
    | _, .touchSeen _, _, s => some ((), s)
    | _, .lookup hash kind, choice, s =>
        some ((s.tokens.find? hash kind).bind fun row => choice.joined.map row.record, s)
    | _, .insert token, choice, s =>
        match inserted : s.tokens.insert token choice.uuid choice.now with
        | .ok tokens =>
            some (.ok choice.uuid, s.withInsert tokens token (tableAdvances_insert inserted))
        | .error error => some (.error error, s)
    | _, .markUsed id, choice, s =>
        some ((), s.withTokens _ (tableAdvances_markUsed s.tokens id choice.now))
    | _, .revoke id reason, choice, s =>
        some ((), s.withTokens _ (tableAdvances_revokeWhere s.tokens (fun r => r.id = id) reason
          choice.now))
    | _, .revokeFamily family reason, choice, s =>
        some (s.tokens.countRevoked fun r => r.familyId = family,
          s.withTokens _ (tableAdvances_revokeWhere s.tokens (fun r => r.familyId = family) reason
            choice.now))
    | _, .revokeDeviceSessions device reason, choice, s =>
        some (s.tokens.countRevoked fun r => r.deviceId = device,
          s.withTokens _ (tableAdvances_revokeWhere s.tokens (fun r => r.deviceId = device) reason
            choice.now))
    | _, .utcNow, choice, s => some (choice.now, s)
    | _, .uuid4, choice, s =>
        if s.families.contains choice.uuid then none
        else some (choice.uuid,
          { s with
            families := choice.uuid :: s.families
            known := fun r mem => List.mem_cons_of_mem _ (s.known r mem) })
    | _, .newToken, choice, s => some (choice.token, s)
    | _, .audit _, choice, s => some (choice.seq, s)

abbrev AuthCall := Kit.Call AuthRequest AuthOp AuthOp.Res AuthOutcome
abbrev AuthPool := Kit.Pool AuthStore AuthRequest AuthOp AuthOp.Res AuthOutcome
abbrev AuthAction := Kit.Action AuthRequest AuthChoice

end DoorsControl.Auth
