import DoorsControl.Enrollment.Service
import DoorsControl.Kit.Table
import Mathlib.Algebra.Order.Ring.Rat

/-!
# Accounts, codes, devices and sessions

`issue_challenge` and `enroll`, `AuthService`, and what an administrator does to codes, devices
and users, interleaved operation by operation. The tables are those of migration 003, and
`TokenRepository.lookup` joins what they hold when it runs. A row of a user, a device or a
token is never deleted, so that no token is refused for a foreign key.

Times of the challenge store are `time.time()` of one process, in seconds, which does not go
back. `secrets.token_bytes` gives no challenge twice.
-/

namespace DoorsControl.Enrollment

open DoorsControl.Audit (Timestamp)
open DoorsControl.Auth (AttestationStatus AuthChoice AuthError AuthOp AuthOutcome AuthRequest
  AuthStore DeviceRecord IssuedTokens Joined Session TokenRow UserRecord authServer)
open Kit (Table)

/-! ## The challenge store -/

/-- `CHALLENGE_TTL_SECONDS` -/
def challengeTtlSeconds : Int := 300

/-- `_Challenge`; the hint is always empty. -/
structure Challenge where
  value : Bytes
  expiresAt : ℚ

/-- `ChallengeStore._items`, by the hash of the code; `hex` tells hashes apart. -/
abbrev ChallengeItems := List (Bytes × Challenge)

namespace ChallengeItems

/-- `_sweep` -/
def sweep (items : ChallengeItems) (now : ℚ) : ChallengeItems :=
  items.filter fun item => !(item.2.expiresAt < now)

/-- `issue`, with the clock read for the sweep and for the expiry. -/
def issue (items : ChallengeItems) (codeHash value : Bytes) (now issuedAt : ℚ) : ChallengeItems :=
  (codeHash, ⟨value, issuedAt + challengeTtlSeconds⟩) ::
    (items.sweep now).filter fun item => item.1 ≠ codeHash

/-- `take` -/
def take (items : ChallengeItems) (codeHash : Bytes) (now : ℚ) : Option Bytes × ChallengeItems :=
  (((items.sweep now).lookup codeHash).map Challenge.value,
    (items.sweep now).filter fun item => item.1 ≠ codeHash)

end ChallengeItems

/-! ## Tables -/

structure UserRow where
  id : Uuid
  username : String
  displayName : String
  passwordHash : String
  isAdmin : Bool
  isActive : Bool

/-- A row of `acs.enrollment_codes`. -/
structure CodeRow where
  id : Uuid
  userId : Uuid
  codeHash : Bytes
  expiresAt : Timestamp
  usedAt : Option Timestamp
  usedByDevice : Option Uuid
  deriving DecidableEq

/-- A row of `acs.devices`. -/
structure DeviceRow extends NewDevice where
  id : Uuid
  isBlocked : Bool
  blockedReason : Option Text

/-- The columns `EnrollmentRepository.create` gives. -/
structure NewCode where
  userId : Uuid
  codeHash : Bytes
  ttlSeconds : Int

abbrev UserTable := Table UserRow UserRow.id
abbrev CodeTable := Table CodeRow CodeRow.codeHash
abbrev DeviceTable := Table DeviceRow DeviceRow.id

/-- What `UserRepository.by_username` returns. -/
def UserRow.record (user : UserRow) : UserRecord := ⟨user.id, user.passwordHash, user.isActive⟩

/-- What `DeviceRepository.by_id` returns. -/
def DeviceRow.record (device : DeviceRow) : DeviceRecord :=
  ⟨device.userId, device.isBlocked, device.attestationStatus⟩

def UserRow.setActive (id : Uuid) (active : Bool) (user : UserRow) : UserRow :=
  if user.id = id then { user with isActive := active } else user

def DeviceRow.block (id : Uuid) (reason : Text) (device : DeviceRow) : DeviceRow :=
  if device.id = id then { device with isBlocked := true, blockedReason := some reason } else device

def CodeRow.use (codeHash : Bytes) (now : Timestamp) (code : CodeRow) : CodeRow :=
  if code.codeHash = codeHash then { code with usedAt := some now } else code

def CodeRow.attach (id device : Uuid) (code : CodeRow) : CodeRow :=
  if code.id = id then { code with usedByDevice := some device } else code

theorem UserRow.id_setActive (id : Uuid) (active : Bool) (user : UserRow) :
    (user.setActive id active).id = user.id := by
  unfold UserRow.setActive
  split_ifs <;> rfl

theorem DeviceRow.id_block (id : Uuid) (reason : Text) (device : DeviceRow) :
    (device.block id reason).id = device.id := by
  unfold DeviceRow.block
  split_ifs <;> rfl

theorem CodeRow.codeHash_use (codeHash : Bytes) (now : Timestamp) (code : CodeRow) :
    (code.use codeHash now).codeHash = code.codeHash := by
  unfold CodeRow.use
  split_ifs <;> rfl

theorem CodeRow.codeHash_attach (id device : Uuid) (code : CodeRow) :
    (code.attach id device).codeHash = code.codeHash := by
  unfold CodeRow.attach
  split_ifs <;> rfl

/-- `UserRepository.set_active` -/
def setActive (users : UserTable) (id : Uuid) (active : Bool) : UserTable :=
  users.update (UserRow.setActive id active) (UserRow.id_setActive id active)

/-- `DeviceRepository.block` -/
def block (devices : DeviceTable) (id : Uuid) (reason : Text) : DeviceTable :=
  devices.update (DeviceRow.block id reason) (DeviceRow.id_block id reason)

/-- A code that `claim` accepts. -/
def CodeRow.isOpen (code : CodeRow) (now : Timestamp) : Bool :=
  code.usedAt.isNone && now < code.expiresAt

/-- `EnrollmentRepository.claim`: the code as it was. -/
def claimCode (codes : CodeTable) (codeHash : Bytes) (now : Timestamp) :
    Option CodeRow × CodeTable :=
  match codes.get? codeHash with
  | none => (none, codes)
  | some code =>
      if code.isOpen now then
        (some code, codes.update (CodeRow.use codeHash now) (CodeRow.codeHash_use codeHash now))
      else (none, codes)

/-- `EnrollmentRepository.attach_device` -/
def attach (codes : CodeTable) (id device : Uuid) : CodeTable :=
  codes.update (CodeRow.attach id device) (CodeRow.codeHash_attach id device)

/-- What an insert raises. -/
def uniqueViolation : Text := text "UniqueViolationError"
def checkViolation : Text := text "CheckViolationError"
def foreignKeyViolation : Text := text "ForeignKeyViolationError"

/-- `EnrollmentRepository.create` -/
def insertCode (users : UserTable) (codes : CodeTable) (code : NewCode) (id : Uuid)
    (now : Timestamp) : Except Text CodeTable :=
  if code.codeHash.length ≠ 32 then .error checkViolation
  else if (users.get? code.userId).isNone then .error foreignKeyViolation
  else if codes.rows.any fun row => row.id = id then .error uniqueViolation
  else
    match codes.insert?
        ⟨id, code.userId, code.codeHash, now + code.ttlSeconds * 1000000, none, none⟩ with
    | none => .error uniqueViolation
    | some codes => .ok codes

/-- `DeviceRepository.create` -/
def insertDevice (users : UserTable) (devices : DeviceTable) (device : NewDevice) (id : Uuid) :
    Except Text DeviceTable :=
  if device.publicKey.length ≠ 32 then .error checkViolation
  else if (users.get? device.userId).isNone then .error foreignKeyViolation
  else if devices.rows.any fun row => row.publicKey = device.publicKey then .error uniqueViolation
  else
    match devices.insert? { device with id, isBlocked := false, blockedReason := none } with
    | none => .error uniqueViolation
    | some devices => .ok devices

/-! ## Operations -/

inductive AccountOp where
  /-- `ChallengeStore.issue` -/
  | issue (codeHash : Bytes)
  /-- an operation of `enroll`, or of `AuthService` -/
  | inner (o : EnrollOp)
  | createCode (code : NewCode)
  | block (deviceId : Uuid) (reason : Text)
  | setActive (userId : Uuid) (active : Bool)

abbrev AccountOp.Res : AccountOp → Type
  | .issue _ => Bytes
  | .inner o => o.Res
  | .createCode _ => Except Text Uuid
  | .block _ _ => Unit
  | .setActive _ _ => Unit

abbrev AccountEvent := Kit.Event AccountOp AccountOp.Res

/-! ## Requests -/

inductive AccountRequest where
  | challenge (enrollmentCode : Text)
  | enroll (args : EnrollArgs)
  | auth (request : AuthRequest)
  /-- A request with this bearer token. -/
  | resolve (bearer : String)
  | createCode (code : NewCode)
  | block (deviceId : Uuid) (reason : Text)
  | setActive (userId : Uuid) (active : Bool)

inductive AccountReply where
  | challenge (answer : Except EnrollError (Text × Int))
  | enrolled (answer : Except EnrollError (Uuid × AttestationStatus × IssuedTokens))
  | auth (outcome : AuthOutcome)
  | resolved (session : Except AuthError Session)
  | code (answer : Except Text Uuid)
  | done

/-- `EnrollmentService.issue_challenge` -/
def issueChallenge (enrollmentCode : Text) :
    ExceptT EnrollError (Kit.Prog AccountOp AccountOp.Res) (Text × Int) := do
  let codeHash ← MonadExcept.ofExcept (hashCode enrollmentCode)
  let challenge ← Kit.Prog.call (AccountOp.issue codeHash)
  return (chars (b64encode challenge), challengeTtlSeconds)

/-- A program of the enrolment service, run here. -/
def fromEnroll {α : Type} (p : Kit.Prog EnrollOp EnrollOp.Res α) :
    Kit.Prog AccountOp AccountOp.Res α := p.embed .inner fun _ r => r

/-- A program of the authentication service, run here. -/
def fromSession {α : Type} (p : Kit.Prog AuthOp AuthOp.Res α) :
    Kit.Prog AccountOp AccountOp.Res α := p.embed (fun o => .inner (.auth o)) fun _ r => r

section Serve

variable {Cert Key Hash : Type} (lib : X509 Cert Key Hash) (py : Python)
  (settings : EnrollSettings Cert)

/-- What a request runs. -/
def serve : AccountRequest → Kit.Prog AccountOp AccountOp.Res AccountReply
  | .challenge code => AccountReply.challenge <$> (issueChallenge code).run
  | .enroll args => AccountReply.enrolled <$> fromEnroll (enroll lib py settings args).run
  | .auth request => AccountReply.auth <$> fromSession (Auth.serve settings.toAuthSettings request)
  | .resolve bearer =>
      AccountReply.resolved <$>
        fromSession (Auth.resolveAccessToken settings.toAuthSettings bearer).run
  | .createCode code => AccountReply.code <$> Kit.Prog.perform (AccountOp.createCode code)
  | .block device reason =>
      (fun _ => .done) <$> Kit.Prog.perform (AccountOp.block device reason)
  | .setActive user active =>
      (fun _ => .done) <$> Kit.Prog.perform (AccountOp.setActive user active)

end Serve

/-! ## The store -/

/-- What has happened to challenges, codes and devices, and at which call. -/
inductive Deed where
  | issued (caller : Nat) (codeHash value : Bytes) (time : ℚ)
  /-- the value that `take` gave -/
  | took (caller : Nat) (codeHash value : Bytes) (time : ℚ)
  /-- the code as `claim` found it -/
  | claimed (caller : Nat) (code : CodeRow) (time : Timestamp)
  | created (caller : Nat) (deviceId : Uuid)
  deriving DecidableEq

structure AccountStore where
  challenges : ChallengeItems
  /-- `time.time()` as it was read last -/
  clock : ℚ
  users : UserTable
  codes : CodeTable
  devices : DeviceTable
  auth : AuthStore
  /-- most recent first -/
  deeds : List Deed

/-- What is decided outside: clocks and random draws. -/
structure AccountChoice where
  auth : AuthChoice := {}
  now : ℚ := 0
  issuedAt : ℚ := 0
  value : Bytes := []
  /-- what `DeviceRepository.create` raises for another reason -/
  raised : Option Text := none

def Deed.hasIssued (value : Bytes) : Deed → Bool
  | .issued _ _ other _ => other = value
  | _ => false

namespace AccountStore

/-- The columns `TokenRepository.lookup` joins to a row. -/
def joined (s : AccountStore) (row : TokenRow) : Option Joined := do
  let user ← s.users.get? row.userId
  let device ← s.devices.get? row.deviceId
  return { userActive := user.isActive, userIsAdmin := user.isAdmin,
           displayName := user.displayName, username := user.username,
           deviceBlocked := device.isBlocked, attestationStatus := device.attestationStatus }

/-- What the tables answer to a statement of `AuthService`. -/
def answers (pgLower : String → String) (s : AccountStore) (choice : AuthChoice) :
    AuthOp → AuthChoice
  | .byUsername username =>
      { choice with
        user := (s.users.rows.find? fun user => pgLower user.username = pgLower username).map
          UserRow.record }
  | .deviceById id => { choice with device := (s.devices.get? id).map DeviceRow.record }
  | .lookup hash kind => { choice with joined := (s.auth.tokens.find? hash kind).bind s.joined }
  | _ => choice

end AccountStore

/-- An operation of `enroll` or `AuthService`. -/
def enrollStep (pgLower : String → String) (i : Nat) : (o : EnrollOp) → AccountChoice →
    AccountStore → Option (o.Res × AccountStore)
  | .take codeHash, choice, s =>
      if choice.now < s.clock then none
      else
        let (value, challenges) := s.challenges.take codeHash choice.now
        some (value, { s with
          clock := choice.now, challenges
          deeds := (value.map fun value => .took i codeHash value choice.now).toList ++ s.deeds })
  | .claim codeHash, choice, s =>
      let (code, codes) := claimCode s.codes codeHash choice.auth.now
      some (code.map fun code => ⟨code.id, code.userId⟩, { s with
        codes
        deeds := (code.map fun code => .claimed i code choice.auth.now).toList ++ s.deeds })
  | .createDevice device, choice, s =>
      match choice.raised with
      | some name => some (.error name, s)
      | none =>
          match insertDevice s.users s.devices device choice.auth.uuid with
          | .error name => some (.error name, s)
          | .ok devices =>
              some (.ok choice.auth.uuid,
                { s with devices, deeds := .created i choice.auth.uuid :: s.deeds })
  | .attachDevice id device, _, s => some ((), { s with codes := attach s.codes id device })
  | .utcNow, choice, s => some (choice.auth.now, s)
  | .audit _, choice, s => some (choice.auth.seq, s)
  | .auth o, choice, s =>
      (authServer.exec i o (s.answers pgLower choice.auth o) s.auth).map fun (r, auth) =>
        (r, { s with auth })

/-- One operation, run by itself. -/
def accountServer (pgLower : String → String) :
    Kit.Server AccountStore AccountOp AccountOp.Res AccountChoice where
  exec
    | i, .issue codeHash, choice, s =>
        if choice.now < s.clock || choice.issuedAt < choice.now || choice.value.length ≠ 32 ||
            s.deeds.any (Deed.hasIssued choice.value) then none
        else some (choice.value, { s with
          clock := choice.issuedAt
          challenges := s.challenges.issue codeHash choice.value choice.now choice.issuedAt
          deeds := .issued i codeHash choice.value choice.issuedAt :: s.deeds })
    | i, .inner o, choice, s => enrollStep pgLower i o choice s
    | _, .createCode code, choice, s =>
        match insertCode s.users s.codes code choice.auth.uuid choice.auth.now with
        | .error name => some (.error name, s)
        | .ok codes => some (.ok choice.auth.uuid, { s with codes })
    | _, .block device reason, _, s =>
        some ((), { s with devices := block s.devices device reason })
    | _, .setActive user active, _, s =>
        some ((), { s with users := setActive s.users user active })

abbrev AccountCall := Kit.Call AccountRequest AccountOp AccountOp.Res AccountReply
abbrev AccountPool := Kit.Pool AccountStore AccountRequest AccountOp AccountOp.Res AccountReply
abbrev AccountAction := Kit.Action AccountRequest AccountChoice

/-- The states of a server that is started with `store`. -/
abbrev AccountReach {Cert Key Hash : Type} (lib : X509 Cert Key Hash) (py : Python)
    (settings : EnrollSettings Cert) (pgLower : String → String)
    (ok : AccountPool → AccountAction → Bool) (store : AccountStore) : AccountPool → Prop :=
  Kit.Pool.Reach (accountServer pgLower) (serve lib py settings) ok ⟨store, []⟩

end DoorsControl.Enrollment
