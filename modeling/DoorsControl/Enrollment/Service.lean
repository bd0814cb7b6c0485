import DoorsControl.Backend.Proximity
import DoorsControl.Enrollment.Attestation

/-!
# Enrolling a phone

`EnrollmentService.enroll` as a program over the challenge store, the repositories and
the statements of `AuthService.issue_pair`. Statements fail on constraints only; what
`DeviceRepository.create` raises goes to the handler in any case.
-/

namespace DoorsControl.Enrollment

open DoorsControl.Audit (AuditCall Timestamp)
open DoorsControl.Auth (AuthOp AttestationStatus IssuedTokens)
open DoorsControl.Backend (Dict strip)

/-- `attestation_status` as the column and the response print it. -/
def statusLabel : AttestationStatus → Text
  | .pending => text "pending"
  | .verified => text "verified"
  | .failed => text "failed"
  | .exempt => text "exempt"

/-- What the service uses of its settings. -/
structure EnrollSettings (Cert : Type) extends Auth.AuthSettings where
  playIntegrityPackageName : Text
  androidCertDigest : Text
  /-- the certificates in the file that `ACS_ATTESTATION_ROOTS_PEM` names; nothing
  reads them -/
  attestationRoots : List Cert

structure EnrollArgs where
  enrollmentCode : Text
  label : Text
  devicePublicKey : Text
  attestationChain : List Text
  playIntegrityToken : Text
  presentedChallenge : Text
  appVersion : Option Text
  clientIp : Option Text

/-- The columns `EnrollmentRepository.claim` returns. -/
structure Claimed where
  id : Uuid
  userId : Uuid

/-- The columns `DeviceRepository.create` gives. -/
structure NewDevice where
  userId : Uuid
  label : Text
  publicKey : Bytes
  platform : Text
  appVersion : Option Text
  attestationStatus : AttestationStatus
  attestationDetail : Dict

/-! ## Decoding -/

/-- The loop of `binascii.a2b_base64` with `strict_mode=True`: every character counts,
padding comes last and nothing after it. -/
def a2bStrict : (quad left pads : Nat) → (padded : Bool) → Text → Option Bytes
  | quad, _, _, _, [] => if quad = 0 then some [] else none
  | quad, left, pads, padded, c :: rest =>
      if c = codePoint '=' then
        if 2 ≤ quad ∧ 4 ≤ quad + (pads + 1) then if rest = [] then some [] else none
        else a2bStrict quad left (if 2 ≤ quad then pads + 1 else pads) true rest
      else
        match Backend.base64Value c with
        | none => none
        | some v =>
            if padded then none
            else
              match quad with
              | 0 => a2bStrict 1 v 0 false rest
              | 1 => (a2bStrict 2 (v % 16) 0 false rest).map
                  (UInt8.ofNat (left * 4 + v / 16) :: ·)
              | 2 => (a2bStrict 3 (v % 4) 0 false rest).map
                  (UInt8.ofNat (left * 16 + v / 4) :: ·)
              | _ => (a2bStrict 0 0 0 false rest).map (UInt8.ofNat (left * 64 + v) :: ·)

/-- `base64.b64decode(s, validate=True)`; `none` is a `ValueError`. -/
def b64decodeStrict (s : Text) : Option Bytes :=
  if s.head? = some (codePoint '=') then none else a2bStrict 0 0 0 false s

example : b64decodeStrict (text "Zm9vYmE=") = some (ascii "fooba") := by decide

/-- `EnrollmentService.hash_code` -/
def hashCode (code : Text) : Except EnrollError Bytes :=
  match encodeUtf8 (strip code) with
  | some bytes => .ok (Kit.Sha256.sha256 bytes)
  | none => .error (.valueError (text "surrogates not allowed"))

/-! ## What the service calls -/

inductive EnrollOp where
  /-- `ChallengeStore.take` -/
  | take (codeHash : Bytes)
  | claim (codeHash : Bytes)
  | createDevice (device : NewDevice)
  | attachDevice (enrollmentId deviceId : Uuid)
  /-- `datetime.now(UTC)` -/
  | utcNow
  | audit (record : AuditCall)
  /-- a statement of `issue_pair` -/
  | auth (op : AuthOp)

abbrev EnrollOp.Res : EnrollOp → Type
  | .take _ => Option Bytes
  | .claim _ => Option Claimed
  /- the identifier, or the name of the exception -/
  | .createDevice _ => Except Text Uuid
  | .attachDevice _ _ => Unit
  | .utcNow => Timestamp
  | .audit _ => Int
  | .auth op => op.Res

abbrev EnrollEvent := Kit.Event EnrollOp EnrollOp.Res
abbrev Py := ExceptT EnrollError (Kit.Prog EnrollOp EnrollOp.Res)

open Kit.Prog (call ifThen)

abbrev take (codeHash : Bytes) : Py (Option Bytes) := call (EnrollOp.take codeHash)
abbrev claim (codeHash : Bytes) : Py (Option Claimed) := call (EnrollOp.claim codeHash)
abbrev createDevice (device : NewDevice) : Py (Except Text Uuid) :=
  call (EnrollOp.createDevice device)
abbrev attachDevice (enrollmentId deviceId : Uuid) : Py Unit :=
  call (EnrollOp.attachDevice enrollmentId deviceId)
abbrev utcNow : Py Timestamp := call EnrollOp.utcNow
abbrev audit (record : AuditCall) : Py Int := call (EnrollOp.audit record)

/-- What `issue_pair` raises. -/
def EnrollError.ofAuth : Auth.AuthError → EnrollError
  | .authentication reason => .authentication reason
  | .database error => .database error

/-- A program of the authentication service, run here. -/
def fromAuth {α : Type} : Kit.Prog AuthOp AuthOp.Res (Except Auth.AuthError α) →
    Kit.Prog EnrollOp EnrollOp.Res (Except EnrollError α)
  | .pure (.ok value) => .pure (.ok value)
  | .pure (.error error) => .pure (.error (.ofAuth error))
  | .op o next => .op (.auth o) fun answer => fromAuth (next answer)

def issuePair (settings : Auth.AuthSettings) (userId deviceId : Uuid) : Py IssuedTokens :=
  ExceptT.mk (fromAuth (Auth.issuePair settings userId deviceId none none).run)

/-! ## The service -/

section Service

variable {Cert Key Hash : Type} (lib : X509 Cert Key Hash) (py : Python)
  (settings : EnrollSettings Cert) (args : EnrollArgs)

/-- The record of a refusal. -/
def deniedCall (actorId : Option Uuid) (detail : Dict) : AuditCall :=
  { event := .deviceEnrollDenied, outcome := .failure, actorType := .anonymous,
    actorId, clientIp := args.clientIp, detail }

/-- The challenge and the code: what was presented, and the claim it is for. -/
def checkCode : Py (Bytes × Claimed) := do
  let codeHash ← MonadExcept.ofExcept (hashCode args.enrollmentCode)
  let expected ← take codeHash
  match b64decodeStrict args.presentedChallenge with
  | none => throw (.valueError (text "invalid base64"))
  | some presented =>
      -- None, or another challenge
      ifThen (expected ≠ some presented) do
        let _ ← audit (deniedCall args none
          [(text "reason", .str (text "challenge_missing_or_stale"))])
        throw (.authentication "challenge_mismatch")
      match ← claim codeHash with
      | none =>
          let _ ← audit (deniedCall args none
            [(text "reason", .str (text "enrollment_code_invalid_or_used"))])
          throw (.authentication "enrollment_code_invalid")
      | some claimed => return (presented, claimed)

/-- What both verdicts say about the request. -/
structure Assessment where
  key : AttestationVerdict
  integrityOk : Bool
  integrityDetail : Dict

def Assessment.accepted (assessment : Assessment) : Bool :=
  assessment.key.ok && assessment.integrityOk

/-- The two calls. The roots are not passed on. -/
def assess (presented : Bytes) : Except EnrollError Assessment := do
  let key ← verifyKeyAttestation lib args.attestationChain presented
  let (integrityOk, integrityDetail) ← evaluatePlayIntegrity py
    (← decodeIntegrityPayload py args.playIntegrityToken) settings.playIntegrityPackageName
    settings.androidCertDigest
  return { key, integrityOk, integrityDetail }

/-- Both verdicts, as the audit row and the device row have them. -/
def Assessment.detail (assessment : Assessment) (evaluatedAt : Text) : Dict :=
  [(text "key_attestation", .obj (assessment.key.asDetail evaluatedAt)),
   (text "play_integrity", .obj assessment.integrityDetail)]

/-- The status of the device, or a refusal. -/
def decideStatus (claimed : Claimed) (assessment : Assessment) : Py AttestationStatus := do
  ifThen (!assessment.accepted && settings.attestationStrict) do
    let now ← utcNow
    let _ ← audit (deniedCall args (some claimed.userId)
      ((text "reason", .str (text "attestation_rejected")) ::
        assessment.detail (settings.isoformat now)))
    throw (.authentication "attestation_rejected")
  -- log_only
  return if assessment.accepted then .verified else .exempt

/-- The `try` block. -/
def tryCreate (claimed : Claimed) (assessment : Assessment) (status : AttestationStatus) :
    Py (Except Text Uuid) := do
  match b64decodeStrict args.devicePublicKey with
  | none => return .error (text "Error")
  | some publicKey =>
      let now ← utcNow
      createDevice
        { userId := claimed.userId, label := args.label, publicKey, platform := text "android",
          appVersion := args.appVersion, attestationStatus := status,
          attestationDetail := assessment.detail (settings.isoformat now) }

/-- `EnrollmentService.enroll` -/
def enroll : Py (Uuid × AttestationStatus × IssuedTokens) := do
  let (presented, claimed) ← checkCode args
  let assessment ← MonadExcept.ofExcept (assess lib py settings args presented)
  let status ← decideStatus settings args claimed assessment
  match ← tryCreate settings args claimed assessment status with
  | .error name =>
      let _ ← audit (deniedCall args (some claimed.userId)
        [(text "reason", .str (text "device_create_failed")), (text "error", .str name)])
      throw (.conflict "device_already_enrolled")
  | .ok deviceId =>
      attachDevice claimed.id deviceId
      let pair ← issuePair settings.toAuthSettings claimed.userId deviceId
      let _ ← audit
        { event := .deviceEnroll, outcome := .success, actorType := .user,
          actorId := some claimed.userId, deviceId := some deviceId, clientIp := args.clientIp,
          detail := [(text "label", .str args.label),
            (text "attestation_status", .str (statusLabel status)),
            (text "security_level", .str assessment.key.securityLevel.label),
            (text "boot_state", .str assessment.key.bootState.label)] }
      return (deviceId, status, pair)

end Service

end DoorsControl.Enrollment
