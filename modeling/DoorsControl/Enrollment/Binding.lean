import DoorsControl.Enrollment.Service

/-!
# What a verified device row stands on

A device row with status `verified` is to hold the key that the leaf of the presented
chain certifies, and the chain is to end in a configured root. `enroll` checks every
signature of the chain, compares the key with nothing, and passes no roots on.

* `verifyKeyAttestation_signed` — an accepted chain is signed, link by link;
* `enroll_decides`, `enroll_creates` — which device rows a call may create;
* `enroll_binds_iff` — **when a verified row is bound** to the chain;
* `enroll_unbound` — one certificate that a client made by itself, and another key.
-/

namespace DoorsControl.Enrollment

open DoorsControl.Auth (AuthOp AttestationStatus)
open Kit.Prog

/-- The last bytes: `takeLast(32)` of the app. -/
def lastBytes (count : Nat) (bytes : Bytes) : Bytes := bytes.drop (bytes.length - count)

section Chain

variable {Cert Key Hash : Type} {lib : X509 Cert Key Hash}

/-- The parent's key verifies the child's signature. -/
def SignedBy (lib : X509 Cert Key Hash) (child parent : Cert) : Prop :=
  ∃ key hash, lib.publicKey parent = .ok key ∧ lib.signatureHashAlgorithm child = .ok hash ∧
    ((lib.kind key = .rsa ∧
        lib.rsaVerify key (lib.signature child) (lib.tbsCertificateBytes child) hash = .ok ()) ∨
      (lib.kind key = .ellipticCurve ∧
        lib.ecVerify key (lib.signature child) (lib.tbsCertificateBytes child) hash = .ok ()))

/-- The key is the leaf's, every certificate is signed by the next one, and the last one
is a root. -/
structure Bound (lib : X509 Cert Key Hash) (roots : List Cert) (chain : List Cert)
    (publicKey : Bytes) : Prop where
  leaf : ∃ leaf, chain.head? = some leaf ∧ publicKey = lastBytes 32 (lib.subjectPublicKeyInfo leaf)
  signed : chain.IsChain (SignedBy lib)
  root : ∃ top, chain.getLast? = some top ∧ top ∈ roots

theorem exceptBind_ok {ε α β : Type} {p : Except ε α} {f : α → Except ε β} {b : β}
    (ran : p >>= f = .ok b) : ∃ a, p = .ok a ∧ f a = .ok b := by
  cases p with
  | error e => cases ran
  | ok a => exact ⟨a, rfl, ran⟩

theorem verifyLink_signed {child parent : Cert} (verified : verifyLink lib child parent = .ok ()) :
    SignedBy lib child parent := by
  obtain ⟨key, isKey, checked⟩ := exceptBind_ok verified
  cases kind : lib.kind key with
  | rsa =>
      simp only [kind] at checked
      obtain ⟨hash, isHash, checked⟩ := exceptBind_ok checked
      exact ⟨key, hash, isKey, isHash, .inl ⟨kind, checked⟩⟩
  | ellipticCurve =>
      simp only [kind] at checked
      obtain ⟨hash, isHash, checked⟩ := exceptBind_ok checked
      exact ⟨key, hash, isKey, isHash, .inr ⟨kind, checked⟩⟩
  | other =>
      simp only [kind] at checked
      cases checked

theorem verifyChain_signed {chain : List Cert} (verified : verifyChain lib chain = .ok ()) :
    chain.IsChain (SignedBy lib) := by
  fun_induction verifyChain lib chain with
  | case1 child parent rest ih =>
      obtain ⟨_, link, more⟩ := exceptBind_ok verified
      exact .cons_cons (verifyLink_signed link) (ih more)
  | case2 chain short =>
      match chain, short with
      | [], _ => exact .nil
      | [_], _ => exact .singleton _
      | child :: parent :: rest, short => exact absurd rfl (short child parent rest)

/-- An accepted chain is signed, link by link. -/
theorem verifyKeyAttestation_signed {chainPem : List Text} {challenge : Bytes}
    {verdict : AttestationVerdict}
    (returned : verifyKeyAttestation lib chainPem challenge = .ok verdict)
    (accepted : verdict.ok = true) :
    ∃ chain, chainPem.mapM lib.loadPem = .ok chain ∧ chain.IsChain (SignedBy lib) := by
  unfold verifyKeyAttestation at returned
  split_ifs at returned
  · obtain rfl := Except.ok.inj returned
    cases accepted
  split at returned
  · obtain rfl := Except.ok.inj returned
    cases accepted
  · cases returned
  · cases returned
  · rename_i leaf rest loaded
    split at returned
    · obtain rfl := Except.ok.inj returned
      cases accepted
    · obtain rfl := Except.ok.inj returned
      cases accepted
    · cases returned
    · rename_i verified
      exact ⟨leaf :: rest, loaded, verifyChain_signed verified⟩

end Chain

/-! ## The rows that a call creates -/

section Creating

variable {Cert Key Hash : Type} {lib : X509 Cert Key Hash} {py : Python}
  {settings : EnrollSettings Cert} {args : EnrollArgs} {hist : List EnrollEvent}

/-- The row holds the presented key, and if its status is `verified`, the chain is
signed. -/
def Creates (lib : X509 Cert Key Hash) (args : EnrollArgs) (_ : List EnrollEvent) : EnrollOp → Prop
  | .createDevice device =>
      b64decodeStrict args.devicePublicKey = some device.publicKey ∧
      (device.attestationStatus = .verified → ∃ chain,
        args.attestationChain.mapM lib.loadPem = .ok chain ∧ chain.IsChain (SignedBy lib))
  | _ => True

section Parts

variable {ok : List EnrollEvent → EnrollOp → Prop}

/-- `checkCode` takes the challenge, claims the code and records refusals. -/
theorem checkCode_performs (takes : ∀ hist codeHash, ok hist (.take codeHash))
    (claims : ∀ hist codeHash, ok hist (.claim codeHash))
    (records : ∀ hist record, ok hist (.audit record)) :
    Always ok (OnOk fun _ checked => b64decodeStrict args.presentedChallenge = some checked.1) hist
      (checkCode args).run := by
  refine always_seq (always_ofExcept _) ?_
  intro hist codeHash _
  refine (always_callBind _ _).mpr ⟨takes _ _, fun expected => ?_⟩
  cases b64decodeStrict args.presentedChallenge with
  | none => trivial
  | some presented =>
      refine always_ifThenBind ⟨records _ _, fun _ => trivial⟩ fun _ => ?_
      refine (always_callBind _ _).mpr ⟨claims _ _, fun claimed => ?_⟩
      cases claimed with
      | none => exact ⟨records _ _, fun _ => trivial⟩
      | some claimed => exact rfl

/-- `issue_pair` performs statements of its own. -/
theorem fromAuth_performs (allowed : ∀ hist o, ok hist (.auth o)) {α : Type}
    (p : Kit.Prog AuthOp AuthOp.Res (Except Auth.AuthError α)) :
    Always ok (OnOk fun _ _ => True) hist (fromAuth p) := by
  induction p generalizing hist with
  | pure result =>
      cases result with
      | ok value => trivial
      | error error => trivial
  | op o next ih => exact ⟨allowed _ _, fun answer => ih answer⟩

end Parts

/-- A row holds the presented key, and if it is `verified` then both verdicts on the presented
challenge were good. -/
structure Decided (lib : X509 Cert Key Hash) (py : Python) (settings : EnrollSettings Cert)
    (args : EnrollArgs) (device : NewDevice) : Prop where
  key : b64decodeStrict args.devicePublicKey = some device.publicKey
  verified : device.attestationStatus = .verified → ∃ presented assessment,
    b64decodeStrict args.presentedChallenge = some presented ∧
      assess lib py settings args presented = .ok assessment ∧ assessment.accepted = true

/-- Only such rows are created. -/
def Decides (lib : X509 Cert Key Hash) (py : Python) (settings : EnrollSettings Cert)
    (args : EnrollArgs) (_ : List EnrollEvent) : EnrollOp → Prop
  | .createDevice device => Decided lib py settings args device
  | _ => True

theorem decideStatus_decides (claimed : Claimed) (assessment : Assessment) :
    Always (Decides lib py settings args)
      (OnOk fun _ status => status = .verified → assessment.accepted = true) hist
      (decideStatus settings args claimed assessment).run := by
  refine always_ifThenBind ⟨trivial, fun _ => ⟨trivial, fun _ => trivial⟩⟩ fun _ => ?_
  -- in either mode, `verified` means that both verdicts were good
  show (if assessment.accepted then AttestationStatus.verified else .exempt) = .verified → _
  split_ifs with accepted
  · exact fun _ => accepted
  · exact fun impossible => by cases impossible

theorem tryCreate_decides {claimed : Claimed} {assessment : Assessment}
    {status : AttestationStatus}
    (proven : status = .verified → ∃ presented assessment,
      b64decodeStrict args.presentedChallenge = some presented ∧
        assess lib py settings args presented = .ok assessment ∧ assessment.accepted = true) :
    Always (Decides lib py settings args) (OnOk fun _ _ => True) hist
      (tryCreate settings args claimed assessment status).run := by
  unfold tryCreate
  cases decoded : b64decodeStrict args.devicePublicKey with
  | none => trivial
  | some publicKey =>
      refine (always_callBind _ _).mpr ⟨trivial, fun _ => ?_⟩
      exact ⟨⟨decoded, proven⟩, fun _ => trivial⟩

/-- **Which rows a call decides on.** -/
theorem enroll_decides (lib : X509 Cert Key Hash) (py : Python) (settings : EnrollSettings Cert)
    (args : EnrollArgs) :
    Always (Decides lib py settings args) (OnOk fun _ _ => True) []
      (enroll lib py settings args).run := by
  refine always_seq (checkCode_performs (fun _ _ => trivial) (fun _ _ => trivial)
    fun _ _ => trivial) ?_
  rintro hist ⟨presented, claimed⟩ decoded
  refine always_seq (always_ofExcept _) ?_
  rintro hist assessment ⟨-, assessed⟩
  refine always_seq (decideStatus_decides claimed assessment) ?_
  intro hist status proven
  refine always_seq (tryCreate_decides fun verified =>
    ⟨presented, assessment, decoded, assessed, proven verified⟩) ?_
  rintro hist (name | deviceId) -
  · exact ⟨trivial, fun _ => trivial⟩
  · refine (always_callBind _ _).mpr ⟨trivial, fun _ => ?_⟩
    refine always_seq (fromAuth_performs (fun _ _ => trivial) _) ?_
    intro hist pair _
    exact ⟨trivial, fun _ => trivial⟩

/-- The key verdict of a row that is `verified` stands on a signed chain. -/
theorem Decided.signed {device : NewDevice} (decided : Decided lib py settings args device)
    (verified : device.attestationStatus = .verified) :
    ∃ chain, args.attestationChain.mapM lib.loadPem = .ok chain ∧
      chain.IsChain (SignedBy lib) := by
  obtain ⟨presented, assessment, -, assessed, accepted⟩ := decided.verified verified
  obtain ⟨key, attested, rest⟩ := exceptBind_ok assessed
  obtain ⟨payload, -, rest⟩ := exceptBind_ok rest
  obtain ⟨integrity, -, made⟩ := exceptBind_ok rest
  obtain rfl := Except.ok.inj made
  rw [Assessment.accepted, Bool.and_eq_true] at accepted
  exact verifyKeyAttestation_signed attested accepted.1

/-- Which device rows a call may create. -/
theorem enroll_creates (lib : X509 Cert Key Hash) (py : Python) (settings : EnrollSettings Cert)
    (args : EnrollArgs) :
    Always (Creates lib args) (OnOk fun _ _ => True) [] (enroll lib py settings args).run := by
  refine (enroll_decides lib py settings args).imp ?_
  intro hist o decides
  cases o with
  | createDevice device => exact ⟨decides.key, decides.signed⟩
  | _ => trivial

end Creating

/-- The device rows that a call created. -/
def created (hist : List EnrollEvent) : List NewDevice :=
  hist.filterMap fun
    | ⟨.createDevice device, .ok _⟩ => some device
    | _ => none

/-- **When a verified row is bound.** The signatures always hold. The row is bound to the
chain exactly if the client presented the key of its leaf, and a chain that ends in a
configured root. -/
theorem enroll_binds_iff {Cert Key Hash : Type} (lib : X509 Cert Key Hash) (py : Python)
    (settings : EnrollSettings Cert) (args : EnrollArgs) (hist : List EnrollEvent)
    (rest : Kit.Prog EnrollOp EnrollOp.Res
      (Except EnrollError (Uuid × AttestationStatus × Auth.IssuedTokens)))
    (steps : (enroll lib py settings args).run.Steps hist rest)
    (device : NewDevice) (mem : device ∈ created hist)
    (verified : device.attestationStatus = .verified) :
    ∃ chain, args.attestationChain.mapM lib.loadPem = .ok chain ∧
      (Bound lib settings.attestationRoots chain device.publicKey ↔
        (∃ leaf, chain.head? = some leaf ∧
          b64decodeStrict args.devicePublicKey = some (lastBytes 32 (lib.subjectPublicKeyInfo leaf))) ∧
        ∃ top, chain.getLast? = some top ∧ top ∈ settings.attestationRoots) := by
  obtain ⟨⟨op, answer⟩, happened, isRow⟩ := List.mem_filterMap.mp mem
  obtain ⟨later, before, rfl⟩ := List.append_of_mem happened
  have allowed := (enroll_creates lib py settings args).past steps rfl
  cases op with
  | createDevice row =>
      obtain ⟨key, signed⟩ := allowed
      have same : row = device := by
        cases answer with
        | error name => cases isRow
        | ok id => exact Option.some.inj isRow
      subst same
      obtain ⟨chain, loaded, links⟩ := signed verified
      refine ⟨chain, loaded, ?_, ?_⟩
      · rintro ⟨⟨leaf, first, isLeaf⟩, -, root⟩
        exact ⟨⟨leaf, first, by rw [key, isLeaf]⟩, root⟩
      · rintro ⟨⟨leaf, first, isLeaf⟩, root⟩
        refine ⟨⟨leaf, first, ?_⟩, links, root⟩
        rw [key] at isLeaf
        exact Option.some.inj isLeaf
  | _ => cases isRow

/-! ## A chain of one -/

/-- What the example uses of a certificate. -/
structure Certificate where
  subject : Text
  publicKeyInfo : Bytes
  extension : Option Bytes

/-- Made with `openssl req -x509`, an Ed25519 key and a `KeyDescription` of choice: a
key in a trusted environment, a locked device in verified boot, and the challenge
`2a 2a ..`. -/
def selfMadePem : Text :=
  [text "-----BEGIN CERTIFICATE-----\n",
   text "MIIBWTCCAQugAwIBAgIUGppkYiUJgO3Umf/ln2gojxlcQXwwBQYDK2VwMAwxCjAI\n",
   text "BgNVBAMMAWEwHhcNMjYxMTE4MjAzMjAyWhcNMzYxMTE1MjAzMjAyWjAMMQowCAYD\n",
   text "VQQDDAFhMCowBQYDK2VwAyEAXmU6Ezbi+6pYfhFLpoeTsVci1HeuSqLTim5BogCy\n",
   text "JD2jfzB9MFwGCisGAQQB1nkCAREETjBMAgEDCgEBAgEECgEBBCAqKioqKioqKioq\n",
   text "KioqKioqKioqKioqKioqKioqKioqKgQAMAAwGL+FQBQwEgQEAQEBAQEB/woBAAQE\n",
   text "AgICAjAdBgNVHQ4EFgQU843tWDwp5wZ4YNkLRiqbOd7BevQwBQYDK2VwA0EAitdr\n",
   text "GJNFjxNPVB9wpAdQ+xPwovpMAZ22iLuDVP9TyZwYmPOfDybwXxnGMZcsmG4aih7y\n",
   text "0OmuBL1Bxz15oz99Bg==\n",
   text "-----END CERTIFICATE-----"].flatten

def selfMade : Certificate where
  subject := text "CN=a"
  publicKeyInfo :=
    [0x30, 0x2a, 0x30, 0x05, 0x06, 0x03, 0x2b, 0x65, 0x70, 0x03, 0x21, 0x00, 0x5e, 0x65,
     0x3a, 0x13, 0x36, 0xe2, 0xfb, 0xaa, 0x58, 0x7e, 0x11, 0x4b, 0xa6, 0x87, 0x93, 0xb1,
     0x57, 0x22, 0xd4, 0x77, 0xae, 0x4a, 0xa2, 0xd3, 0x8a, 0x6e, 0x41, 0xa2, 0x00, 0xb2,
     0x24, 0x3d]
  extension := some
    [0x30, 0x4c, 0x02, 0x01, 0x03, 0x0a, 0x01, 0x01, 0x02, 0x01, 0x04, 0x0a, 0x01, 0x01,
     0x04, 0x20, 0x2a, 0x2a, 0x2a, 0x2a, 0x2a, 0x2a, 0x2a, 0x2a, 0x2a, 0x2a, 0x2a, 0x2a,
     0x2a, 0x2a, 0x2a, 0x2a, 0x2a, 0x2a, 0x2a, 0x2a, 0x2a, 0x2a, 0x2a, 0x2a, 0x2a, 0x2a,
     0x2a, 0x2a, 0x2a, 0x2a, 0x2a, 0x2a, 0x04, 0x00, 0x30, 0x00, 0x30, 0x18, 0xbf, 0x85,
     0x40, 0x14, 0x30, 0x12, 0x04, 0x04, 0x01, 0x01, 0x01, 0x01, 0x01, 0x01, 0xff, 0x0a,
     0x01, 0x00, 0x04, 0x04, 0x02, 0x02, 0x02, 0x02]

/-- The certificate in the roots file. -/
def hardwareRoot : Certificate where
  subject := text "2.5.4.5=f92009e853b6b045"
  publicKeyInfo := []
  extension := none

/-- The package, as far as it goes for a chain of one. -/
def loadsSelfMade : X509 Certificate Unit Unit where
  loadPem := fun pem =>
    if pem = selfMadePem then .ok selfMade
    else .error (.valueError (text "Unable to load PEM file."))
  publicKey := fun _ => .ok ()
  kind := fun _ => .other
  signature := fun _ => []
  tbsCertificateBytes := fun _ => []
  signatureHashAlgorithm := fun _ => .ok ()
  rsaVerify := fun _ _ _ _ => .error (.invalidSignature [])
  ecVerify := fun _ _ _ _ => .error (.invalidSignature [])
  subject := fun certificate => .ok certificate.subject
  fingerprint := fun certificate _ => .ok (Kit.Sha256.sha256 certificate.publicKeyInfo)
  attestationExtension := fun certificate => .ok certificate.extension
  subjectPublicKeyInfo := Certificate.publicKeyInfo

/-- A verdict that a client wrote. -/
def selfMadeVerdict : Text :=
  [text "\x7b\"appIntegrity\":\x7b\"appRecognitionVerdict\":\"PLAY_RECOGNIZED\"\x7d,",
   text "\"deviceIntegrity\":\x7b\"deviceRecognitionVerdict\":",
   text "[\"MEETS_DEVICE_INTEGRITY\"]\x7d\x7d"].flatten

def loadsVerdict : Python where
  loads := fun raw =>
    if raw = selfMadeVerdict then
      .ok (some (.obj
        [(text "appIntegrity", .obj [(text "appRecognitionVerdict", .str (text "PLAY_RECOGNIZED"))]),
         (text "deviceIntegrity",
          .obj [(text "deviceRecognitionVerdict", .arr [.str (text "MEETS_DEVICE_INTEGRITY")])])]))
    else .ok none
  loadsBytes := fun _ => none
  lower := id

def strictSettings : EnrollSettings Certificate where
  pepperBytes := [1, 2, 3]
  accessTokenTtl := 900
  refreshTokenTtl := 2592000
  attestationStrict := true
  verifyPassword := fun stored password => stored = password
  isoformat := fun _ => text "2026-11-18T20:32:02+00:00"
  playIntegrityPackageName := []
  androidCertDigest := []
  attestationRoots := [hardwareRoot]

/-- The key is another one than the certificate's. -/
def forgedArgs : EnrollArgs where
  enrollmentCode := text "code-0001"
  label := text "phone"
  devicePublicKey := text "axwyRd3K69Y3XXPlusvNwXIq2/OvFCUHqr2RUkbHHpE="
  attestationChain := [selfMadePem]
  playIntegrityToken := selfMadeVerdict
  presentedChallenge := text "KioqKioqKioqKioqKioqKioqKioqKioqKioqKioqKio="
  appVersion := none
  clientIp := none

def answerAuth : (o : AuthOp) → o.Res
  | .byUsername _ => none
  | .deviceById _ => none
  | .touchLogin _ => ()
  | .touchSeen _ => ()
  | .lookup _ _ => none
  | .insert _ => .ok 8
  | .markUsed _ => ()
  | .revoke _ _ => ()
  | .revokeFamily _ _ => 0
  | .revokeDeviceSessions _ _ => 0
  | .utcNow => 0
  | .uuid4 => 7
  | .newToken => "t"
  | .audit _ => 1

/-- The code is good, and the challenge is the one that was issued. -/
def answer (_ : List EnrollEvent) : (o : EnrollOp) → o.Res
  | .take _ => some (List.replicate 32 0x2a)
  | .claim _ => some ⟨1, 2⟩
  | .createDevice _ => .ok 3
  | .attachDevice _ _ => ()
  | .utcNow => 0
  | .audit _ => 1
  | .auth inner => answerAuth inner

def forgedRun :
    List EnrollEvent × Except EnrollError (Uuid × AttestationStatus × Auth.IssuedTokens) :=
  runWith answer [] (enroll loadsSelfMade loadsVerdict strictSettings forgedArgs).run

/-- The key that is presented. -/
def otherKey : Bytes :=
    [0x6b, 0x1c, 0x32, 0x45, 0xdd, 0xca, 0xeb, 0xd6, 0x37, 0x5d, 0x73, 0xe5, 0xba, 0xcb,
     0xcd, 0xc1, 0x72, 0x2a, 0xdb, 0xf3, 0xaf, 0x14, 0x25, 0x07, 0xaa, 0xbd, 0x91, 0x52,
     0x46, 0xc7, 0x1e, 0x91]

theorem created_forgedRun :
    (created forgedRun.1).map (fun device => (device.attestationStatus, device.publicKey)) =
      [(.verified, otherKey)] := by
  decide +kernel

theorem mem_created_forgedRun : ∃ device ∈ created forgedRun.1,
    device.attestationStatus = .verified ∧ device.publicKey = otherKey := by
  obtain ⟨device, rest, shape, is, -⟩ := List.map_eq_cons_iff.mp created_forgedRun
  obtain ⟨verified, key⟩ := Prod.mk.inj is
  exact ⟨device, by rw [shape]; exact List.mem_cons_self, verified, key⟩

theorem load_selfMade :
    forgedArgs.attestationChain.mapM loadsSelfMade.loadPem = .ok [selfMade] := by
  have loaded : loadsSelfMade.loadPem selfMadePem = .ok selfMade := by
    simp only [loadsSelfMade, if_true]
  simp only [forgedArgs, List.mapM_cons, loaded, List.mapM_nil]
  rfl

theorem enroll_binds_forged : ∃ device ∈ created forgedRun.1,
    device.attestationStatus = .verified ∧
    ∃ chain, forgedArgs.attestationChain.mapM loadsSelfMade.loadPem = .ok chain ∧
      (Bound loadsSelfMade strictSettings.attestationRoots chain device.publicKey ↔
        (∃ leaf, chain.head? = some leaf ∧ b64decodeStrict forgedArgs.devicePublicKey =
          some (lastBytes 32 (loadsSelfMade.subjectPublicKeyInfo leaf))) ∧
        ∃ top, chain.getLast? = some top ∧ top ∈ strictSettings.attestationRoots) := by
  obtain ⟨device, mem, verified, -⟩ := mem_created_forgedRun
  exact ⟨device, mem, verified, enroll_binds_iff loadsSelfMade loadsVerdict strictSettings
    forgedArgs forgedRun.1 _ (steps_runWith answer .start) device mem verified⟩

/-- In strict mode, a row that is `verified` holds a key that no certificate is about,
and the chain does not end in the root that is configured. -/
theorem enroll_unbound : strictSettings.attestationStrict = true ∧
    ∃ device ∈ created forgedRun.1, device.attestationStatus = .verified ∧
      device.publicKey ≠ lastBytes 32 selfMade.publicKeyInfo ∧
      selfMade ∉ strictSettings.attestationRoots ∧
      ∃ chain, forgedArgs.attestationChain.mapM loadsSelfMade.loadPem = .ok chain ∧
        ¬ Bound loadsSelfMade strictSettings.attestationRoots chain device.publicKey := by
  obtain ⟨device, mem, verified, key⟩ := mem_created_forgedRun
  have differs : device.publicKey ≠ lastBytes 32 selfMade.publicKeyInfo := by
    rw [key]
    decide +kernel
  have unknown : selfMade ∉ strictSettings.attestationRoots := by
    intro listed
    have same : selfMade.publicKeyInfo = hardwareRoot.publicKeyInfo :=
      congrArg Certificate.publicKeyInfo (List.mem_singleton.mp listed)
    cases same
  refine ⟨rfl, device, mem, verified, differs, unknown, [selfMade], load_selfMade, ?_⟩
  rintro ⟨⟨leaf, first, isLeaf⟩, -, -⟩
  obtain rfl := Option.some.inj first
  exact differs isLeaf

end DoorsControl.Enrollment
