import DoorsControl.Enrollment.Der
import DoorsControl.Backend.SignerClient
import DoorsControl.Auth.Service

/-!
# The two verdicts

`verify_key_attestation`, `evaluate_play_integrity` and `decode_integrity_payload` of
`app/core/attestation.py`. The `cryptography` package is a parameter (`X509`): what it
makes of a PEM text, which key a certificate holds, whether a signature verifies. So is
what is used here of Python itself and of `json` (`Python`).

Whatever is not caught is raised, whether the package or a JSON value of the wrong
shape is the reason.
-/

namespace DoorsControl.Enrollment

open DoorsControl.Backend (Dict truthy)

/-- What the enrolment path raises. -/
inductive EnrollError where
  /-- `AuthenticationError(internal_reason)` -/
  | authentication (internalReason : String)
  | conflict (message : String)
  | database (error : Auth.DbError)
  | valueError (message : Text)
  | invalidSignature (message : Text)
  | attributeError
  | typeError
  /-- any other exception -/
  | other (name : Text)
  deriving DecidableEq, Repr

/-! ## Key attestation -/

/-- `isinstance(public_key, ..)` -/
inductive KeyKind where
  | rsa
  | ellipticCurve
  | other
  deriving DecidableEq

/-- The `cryptography` package. -/
structure X509 (Cert Key Hash : Type) where
  /-- `x509.load_pem_x509_certificate(pem.encode())` -/
  loadPem : Text → Except EnrollError Cert
  publicKey : Cert → Except EnrollError Key
  kind : Key → KeyKind
  signature : Cert → Bytes
  tbsCertificateBytes : Cert → Bytes
  signatureHashAlgorithm : Cert → Except EnrollError Hash
  /-- `verify(signature, data, PKCS1v15(), algorithm)` -/
  rsaVerify : Key → Bytes → Bytes → Hash → Except EnrollError Unit
  /-- `verify(signature, data, ECDSA(algorithm))` -/
  ecVerify : Key → Bytes → Bytes → Hash → Except EnrollError Unit
  /-- `cert.subject.rfc4514_string()` -/
  subject : Cert → Except EnrollError Text
  fingerprint : Cert → Hash → Except EnrollError Bytes
  /-- `extensions.get_extension_for_oid(ATTESTATION_OID).value.public_bytes()`; `none` is
  `ExtensionNotFound` -/
  attestationExtension : Cert → Except EnrollError (Option Bytes)
  /-- the `SubjectPublicKeyInfo`, in DER; nothing on the server asks for it -/
  subjectPublicKeyInfo : Cert → Bytes

structure AttestationVerdict where
  ok : Bool
  reason : Text := []
  securityLevel : SecurityLevel := .unknown
  bootState : BootState := .unknown
  deviceLocked : Bool := false
  userAuthRequired : Bool := false
  challengeMatches : Bool := false
  chainSubjects : List Text := []

/-- `AttestationVerdict.as_detail`. Nothing fills `play_integrity`. -/
def AttestationVerdict.asDetail (verdict : AttestationVerdict) (evaluatedAt : Text) : Dict :=
  [(text "security_level", .str verdict.securityLevel.label),
   (text "boot_state", .str verdict.bootState.label),
   (text "device_locked", .bool verdict.deviceLocked),
   (text "user_auth_required", .bool verdict.userAuthRequired),
   (text "challenge_matches", .bool verdict.challengeMatches),
   (text "play_integrity", .obj []),
   (text "chain_subjects", .arr (verdict.chainSubjects.map .str)),
   (text "reason", .str verdict.reason),
   (text "evaluated_at", .str evaluatedAt)]

section Chain

variable {Cert Key Hash : Type} (lib : X509 Cert Key Hash)

/-- The body of the loop of `_verify_chain`. -/
def verifyLink (child parent : Cert) : Except EnrollError Unit := do
  let publicKey ← lib.publicKey parent
  match lib.kind publicKey with
  | .rsa =>
      lib.rsaVerify publicKey (lib.signature child) (lib.tbsCertificateBytes child)
        (← lib.signatureHashAlgorithm child)
  | .ellipticCurve =>
      lib.ecVerify publicKey (lib.signature child) (lib.tbsCertificateBytes child)
        (← lib.signatureHashAlgorithm child)
  | .other => throw (.invalidSignature (text "unsupported key type in attestation chain"))

/-- `_verify_chain` -/
def verifyChain : List Cert → Except EnrollError Unit
  | child :: parent :: rest => do
      verifyLink lib child parent
      verifyChain (parent :: rest)
  | _ => pure ()

/-- `top.fingerprint(..) not in {c.fingerprint(..) for c in trusted_roots}` -/
def untrusted (trustedRoots : List Cert) (top : Cert) : Except EnrollError Bool := do
  let rootFingerprints ← trustedRoots.mapM fun root => do
    lib.fingerprint root (← lib.signatureHashAlgorithm top)
  let own ← lib.fingerprint top (← lib.signatureHashAlgorithm top)
  return !rootFingerprints.contains own

/-- The verdict on a parsed `KeyDescription`: the checks in the order of the source. -/
def judge (parsed : KeyDescription) (expectedChallenge : Bytes) (requireStrongbox : Bool)
    (subjects : List Text) : AttestationVerdict :=
  let verdict : AttestationVerdict :=
    { ok := false
      securityLevel := parsed.attestationSecurityLevel
      bootState := parsed.authorization.bootState.getD .unknown
      deviceLocked := parsed.authorization.deviceLocked.getD false
      userAuthRequired := !parsed.authorization.noAuthRequired
      challengeMatches := parsed.attestationChallenge = expectedChallenge
      chainSubjects := subjects }
  if !verdict.challengeMatches then
    { verdict with reason := text "attestation challenge does not match the one issued" }
  else if verdict.securityLevel = .software then
    { verdict with reason := text "key is not in secure hardware" }
  else if requireStrongbox && verdict.securityLevel ≠ .strongbox then
    { verdict with reason := text "StrongBox required but key is only TEE backed" }
  else if verdict.bootState ≠ .verified then
    { verdict with reason := text "verified boot state is " ++ verdict.bootState.label }
  else if !verdict.deviceLocked then { verdict with reason := text "bootloader is unlocked" }
  else if !verdict.userAuthRequired then
    { verdict with reason := text "key can be used without user authentication" }
  else { verdict with ok := true, reason := text "ok" }

/-- `verify_key_attestation`, once the chain is loaded and its signatures hold. -/
def verifyLeaf (leaf top : Cert) (subjects : List Text) (expectedChallenge : Bytes)
    (trustedRoots : List Cert) (requireStrongbox : Bool) : Except EnrollError AttestationVerdict := do
  if !trustedRoots.isEmpty then
    if ← untrusted lib trustedRoots top then
      return { ok := false, reason := text "chain does not terminate in a trusted root",
               chainSubjects := subjects }
  match ← lib.attestationExtension leaf with
  | none => return { ok := false, reason := text "leaf has no key attestation extension",
                     chainSubjects := subjects }
  | some extension =>
      match parseKeyDescription extension with
      | .error error => return { ok := false,
                                 reason := text "malformed KeyDescription: " ++ error.message,
                                 chainSubjects := subjects }
      | .ok parsed => return judge parsed expectedChallenge requireStrongbox subjects

/-- `verify_key_attestation` -/
def verifyKeyAttestation (chainPem : List Text) (expectedChallenge : Bytes)
    (trustedRoots : List Cert := []) (requireStrongbox : Bool := false) :
    Except EnrollError AttestationVerdict :=
  if chainPem = [] then .ok { ok := false, reason := text "no certificate chain supplied" }
  else
    match chainPem.mapM lib.loadPem with
    | .error (.valueError message) =>
        .ok { ok := false, reason := text "unparseable chain: " ++ message }
    | .error error => .error error
    | .ok [] => .error (.other (text "IndexError"))
    | .ok (leaf :: rest) =>
        match verifyChain lib (leaf :: rest) with
        | .error (.invalidSignature message) | .error (.valueError message) =>
            .ok { ok := false, reason := text "chain signature invalid: " ++ message }
        | .error error => .error error
        | .ok () => do
            let subjects ← (leaf :: rest).mapM lib.subject
            verifyLeaf lib leaf ((leaf :: rest).getLast (List.cons_ne_nil _ _)) subjects
              expectedChallenge trustedRoots requireStrongbox

end Chain

/-! ## Play Integrity -/

/-- What is used of Python and of `json`. -/
structure Python where
  /-- `json.loads` of a `str`; `none` is a `JSONDecodeError` -/
  loads : Text → Except EnrollError (Option (Json Text))
  /-- `json.loads` of `bytes`; `none` is any exception -/
  loadsBytes : Bytes → Option (Json Text)
  /-- `str.lower` -/
  lower : Text → Text

/-- `value.get(key, default)` -/
def pyGet (value : Json Text) (key : String) (default : Json Text) :
    Except EnrollError (Json Text) :=
  match value with
  | .obj fields => .ok ((Json.get? fields (text key)).getD default)
  | _ => .error .attributeError

/-- `iter(value)` -/
def pyIter : Json Text → Except EnrollError (List (Json Text))
  | .arr items => .ok items
  | .obj fields => .ok (fields.map fun field => .str field.1)
  | .str s => .ok (s.map fun c => .str [c])
  | _ => .error .typeError

def isStr (s : Text) : Json Text → Bool
  | .str t => t = s
  | _ => false

/-- `s in value`: a member, a key, or a part of the string. -/
def pyIn (s : Text) : Json Text → Except EnrollError Bool
  | .arr items => .ok (items.any (isStr s))
  | .obj fields => .ok (fields.any fun field => field.1 = s)
  | .str t => .ok (t.tails.any fun rest => s.isPrefixOf rest)
  | _ => .error .typeError

/-- `d.lower().replace(":", "")` -/
def normalDigest (py : Python) : Json Text → Except EnrollError Text
  | .str s => .ok ((py.lower s).filter fun c => c ≠ codePoint ':')
  | _ => .error .attributeError

/-- `expected_cert_digest.lower() not in digests` -/
def certificateMismatch (py : Python) (app : Json Text) (expectedCertDigest : Text) :
    Except EnrollError Bool := do
  let presented ← pyIter (← pyGet app "certificateSha256Digest" (.arr []))
  let digests ← presented.mapM (normalDigest py)
  return !digests.contains (py.lower expectedCertDigest)

/-- `evaluate_play_integrity` -/
def evaluatePlayIntegrity (py : Python) (verdictPayload : Option (Json Text))
    (expectedPackage expectedCertDigest : Text) : Except EnrollError (Bool × Dict) := do
  match verdictPayload.filter truthy with
  | none => return (false, [(text "reason", .str (text "no integrity verdict"))])
  | some payload =>
      let app ← pyGet payload "appIntegrity" (.obj [])
      let device ← pyGet payload "deviceIntegrity" (.obj [])
      let account ← pyGet payload "accountDetails" (.obj [])
      let recognition ← pyGet app "appRecognitionVerdict" .null
      let notOnPlay := !isStr (text "PLAY_RECOGNIZED") recognition
      let otherPackage ← do
        if expectedPackage = [] then pure false
        else
          let package ← pyGet app "packageName" .null
          pure (!isStr expectedPackage package)
      let otherCertificate ←
        if expectedCertDigest = [] then pure false
        else certificateMismatch py app expectedCertDigest
      let recognised ← pyGet device "deviceRecognitionVerdict" (.arr [])
      let meets ← pyIn (text "MEETS_DEVICE_INTEGRITY") recognised
      let licensing ← pyGet account "appLicensingVerdict" .null
      let problems :=
        (if notOnPlay then [text "app is not the build published on Play"] else []) ++
        (if otherPackage then [text "package name mismatch"] else []) ++
        (if otherCertificate then [text "signing certificate mismatch"] else []) ++
        (if !meets then [text "device does not meet basic integrity"] else [])
      return (problems.isEmpty,
        [(text "app_recognition", recognition), (text "device_recognition", recognised),
         (text "licensing", licensing), (text "problems", .arr (problems.map .str))])

/-- `"=" * (-len(raw) % 4)` -/
def padding (raw : Text) : Text := List.replicate ((-(raw.length : Int)) % 4).toNat (codePoint '=')

/-- `decode_integrity_payload` -/
def decodeIntegrityPayload (py : Python) (raw : Text) : Except EnrollError (Option (Json Text)) :=
  if raw = [] then .ok none
  else
    match py.loads raw with
    | .error error => .error error
    | .ok (some value) => .ok (some value)
    | .ok none =>
        match Backend.b64decode (.str (raw ++ padding raw)) with
        | .error _ => .ok none
        | .ok bytes => .ok (py.loadsBytes bytes)

end DoorsControl.Enrollment
