import DoorsControl.Enrollment.KeyStatement

/-!
# What an integrity verdict is bound to

`PlayIntegrityProvider.kt`: "The nonce is the SHA-256 of the same attestation challenge the key was
generated over, which binds the two statements to one enrolment. A verdict obtained separately
cannot be pasted into someone else's request." The server reads four things in a verdict, and the
nonce is none of them.

* `evaluatePlayIntegrity_ok_iff` — **which verdicts are good**, in terms of what they contain;
* `countsIntegrity_iff`, `counted_of_verified` — when an enrolment counts a token as good, and that
  a verified device stands on it;
* `integrity_bound_iff` — **when a token is good for one challenge at most**: if it is good for
  none;
* `integrity_unbound` — one token in two enrolments, with two attested keys.
-/

namespace DoorsControl.Enrollment

open DoorsControl.Backend (Dict truthy)

/-! ## A good verdict -/

/-- `value.get(key)` is this string. -/
def States (fields : Dict) (key : String) (value : Text) : Prop :=
  Json.get? fields (text key) = some (.str value)

/-- A verdict that meets the policy. An empty setting asks for nothing. -/
structure Good (py : Python) (expectedPackage expectedCertDigest : Text) (payload : Json Text)
    (app device account : Dict) : Prop where
  given : truthy payload = true
  hasApp : pyGet payload "appIntegrity" (.obj []) = .ok (.obj app)
  hasDevice : pyGet payload "deviceIntegrity" (.obj []) = .ok (.obj device)
  hasAccount : pyGet payload "accountDetails" (.obj []) = .ok (.obj account)
  published : States app "appRecognitionVerdict" (text "PLAY_RECOGNIZED")
  package : expectedPackage ≠ [] → States app "packageName" expectedPackage
  certificate : expectedCertDigest ≠ [] →
    certificateMismatch py (.obj app) expectedCertDigest = .ok false
  integrity : pyIn (text "MEETS_DEVICE_INTEGRITY")
    ((Json.get? device (text "deviceRecognitionVerdict")).getD (.arr [])) = .ok true

theorem pyGet_obj (fields : Dict) (key : String) (default : Json Text) :
    pyGet (.obj fields) key default = .ok ((Json.get? fields (text key)).getD default) := rfl

theorem pyGet_ok {value found default : Json Text} {key : String}
    (got : pyGet value key default = .ok found) :
    ∃ fields, value = .obj fields ∧ found = (Json.get? fields (text key)).getD default := by
  cases value with
  | obj fields => exact ⟨fields, rfl, (Except.ok.inj got).symm⟩
  | _ => cases got

theorem isStr_self (s : Text) : isStr s (.str s) = true := by
  unfold isStr
  exact decide_eq_true rfl

theorem states_iff (fields : Dict) (key : String) (value : Text) :
    isStr value ((Json.get? fields (text key)).getD .null) = true ↔ States fields key value := by
  unfold States
  cases Json.get? fields (text key) with
  | none => exact iff_of_false nofun nofun
  | some found =>
      cases found with
      | str s =>
          show decide (s = value) = true ↔ _
          rw [decide_eq_true_iff, Option.some.injEq, Json.str.injEq]
      | _ => exact iff_of_false nofun nofun

/-- `expected_package and app.get("packageName") != expected_package` -/
def otherPackage (app : Json Text) (expectedPackage : Text) : Except EnrollError Bool :=
  if expectedPackage = [] then .ok false
  else pyGet app "packageName" .null >>= fun package => .ok (!isStr expectedPackage package)

/-- The digests, if one is asked for. -/
def otherCertificate (py : Python) (app : Json Text) (expectedCertDigest : Text) :
    Except EnrollError Bool :=
  if expectedCertDigest = [] then .ok false else certificateMismatch py app expectedCertDigest

/-- `not problems`, and the detail. -/
def concluded (recognition recognised licensing : Json Text) (package certificate meets : Bool) :
    Bool × Dict :=
  let problems :=
    (if !isStr (text "PLAY_RECOGNIZED") recognition then
      [text "app is not the build published on Play"] else []) ++
    (if package then [text "package name mismatch"] else []) ++
    (if certificate then [text "signing certificate mismatch"] else []) ++
    (if !meets then [text "device does not meet basic integrity"] else [])
  (problems.isEmpty,
    [(text "app_recognition", recognition), (text "device_recognition", recognised),
     (text "licensing", licensing), (text "problems", .arr (problems.map .str))])

/-- The steps of the policy, one after the other. -/
theorem evaluatePlayIntegrity_eq (py : Python) {verdict : Option (Json Text)} {payload : Json Text}
    (present : verdict.filter truthy = some payload) (expectedPackage expectedCertDigest : Text) :
    evaluatePlayIntegrity py verdict expectedPackage expectedCertDigest = (do
      let app ← pyGet payload "appIntegrity" (.obj [])
      let device ← pyGet payload "deviceIntegrity" (.obj [])
      let account ← pyGet payload "accountDetails" (.obj [])
      let recognition ← pyGet app "appRecognitionVerdict" .null
      let package ← otherPackage app expectedPackage
      let certificate ← otherCertificate py app expectedCertDigest
      let recognised ← pyGet device "deviceRecognitionVerdict" (.arr [])
      let meets ← pyIn (text "MEETS_DEVICE_INTEGRITY") recognised
      let licensing ← pyGet account "appLicensingVerdict" .null
      return concluded recognition recognised licensing package certificate meets) := by
  unfold evaluatePlayIntegrity otherPackage otherCertificate
  rw [present]
  -- an empty setting skips its check
  by_cases noPackage : expectedPackage = []
  · by_cases noCertificate : expectedCertDigest = []
    · simp only [noPackage, noCertificate, if_true]
      rfl
    · simp only [noPackage, noCertificate, if_true, if_false]
      rfl
  · by_cases noCertificate : expectedCertDigest = []
    · simp only [noPackage, noCertificate, if_true, if_false, bind_assoc]
      rfl
    · simp only [noPackage, noCertificate, if_false, bind_assoc]
      rfl

theorem problem_iff (found : Bool) (problem : Text) :
    (if found then [problem] else []) = [] ↔ found = false := by
  cases found with
  | true => exact iff_of_false nofun nofun
  | false => exact iff_of_true rfl rfl

theorem concluded_ok_iff (recognition recognised licensing : Json Text)
    (package certificate meets : Bool) :
    (concluded recognition recognised licensing package certificate meets).1 = true ↔
      isStr (text "PLAY_RECOGNIZED") recognition = true ∧ package = false ∧ certificate = false ∧
        meets = true := by
  show List.isEmpty _ = true ↔ _
  rw [List.isEmpty_iff, List.append_eq_nil_iff, List.append_eq_nil_iff, List.append_eq_nil_iff,
    problem_iff, problem_iff, problem_iff, problem_iff, Bool.not_eq_false', Bool.not_eq_false',
    and_assoc, and_assoc]

theorem otherPackage_iff (fields : Dict) (expectedPackage : Text) :
    otherPackage (.obj fields) expectedPackage = .ok false ↔
      (expectedPackage ≠ [] → States fields "packageName" expectedPackage) := by
  unfold otherPackage
  split_ifs with empty
  · exact iff_of_true rfl fun some => absurd empty some
  · show Except.ok (!isStr expectedPackage ((Json.get? fields (text "packageName")).getD .null)) =
      .ok false ↔ _
    rw [Except.ok.injEq, Bool.not_eq_false', states_iff]
    exact ⟨fun states _ => states, fun states => states empty⟩

theorem otherCertificate_iff (py : Python) (app : Json Text) (expectedCertDigest : Text) :
    otherCertificate py app expectedCertDigest = .ok false ↔
      (expectedCertDigest ≠ [] → certificateMismatch py app expectedCertDigest = .ok false) := by
  unfold otherCertificate
  split_ifs with empty
  · exact iff_of_true rfl fun some => absurd empty some
  · exact ⟨fun same _ => same, fun same => same empty⟩

/-- **Which verdicts are good.** -/
theorem evaluatePlayIntegrity_ok_iff (py : Python) (verdict : Option (Json Text))
    (expectedPackage expectedCertDigest : Text) :
    (∃ detail, evaluatePlayIntegrity py verdict expectedPackage expectedCertDigest =
        .ok (true, detail)) ↔
      ∃ payload app device account, verdict = some payload ∧
        Good py expectedPackage expectedCertDigest payload app device account := by
  constructor
  · rintro ⟨detail, returned⟩
    cases present : verdict.filter truthy with
    | none =>
        unfold evaluatePlayIntegrity at returned
        rw [present] at returned
        cases returned
    | some payload =>
        rw [evaluatePlayIntegrity_eq py present] at returned
        obtain ⟨isPayload, given⟩ := Option.filter_eq_some_iff.mp present
        obtain ⟨app, hasApp, returned⟩ := exceptBind_ok returned
        obtain ⟨device, hasDevice, returned⟩ := exceptBind_ok returned
        obtain ⟨account, hasAccount, returned⟩ := exceptBind_ok returned
        obtain ⟨recognition, isRecognition, returned⟩ := exceptBind_ok returned
        obtain ⟨package, isPackage, returned⟩ := exceptBind_ok returned
        obtain ⟨certificate, isCertificate, returned⟩ := exceptBind_ok returned
        obtain ⟨recognised, isRecognised, returned⟩ := exceptBind_ok returned
        obtain ⟨meets, isMeets, returned⟩ := exceptBind_ok returned
        obtain ⟨licensing, isLicensing, returned⟩ := exceptBind_ok returned
        have good := congrArg Prod.fst (Except.ok.inj returned)
        obtain ⟨published, rfl, rfl, rfl⟩ := (concluded_ok_iff _ _ _ _ _ _).mp good
        obtain ⟨app, rfl, rfl⟩ := pyGet_ok isRecognition
        obtain ⟨device, rfl, rfl⟩ := pyGet_ok isRecognised
        obtain ⟨account, rfl, -⟩ := pyGet_ok isLicensing
        exact ⟨payload, app, device, account, isPayload,
          { given, hasApp, hasDevice, hasAccount
            published := (states_iff _ _ _).mp published
            package := (otherPackage_iff _ _).mp isPackage
            certificate := (otherCertificate_iff _ _ _).mp isCertificate
            integrity := isMeets }⟩
  · rintro ⟨payload, app, device, account, rfl, good⟩
    have present : (some payload).filter truthy = some payload :=
      Option.filter_eq_some_iff.mpr ⟨rfl, good.given⟩
    have published : Json.get? app (text "appRecognitionVerdict") =
        some (.str (text "PLAY_RECOGNIZED")) := good.published
    have package := (otherPackage_iff app expectedPackage).mpr good.package
    have certificate := (otherCertificate_iff py (.obj app) expectedCertDigest).mpr good.certificate
    have ran : evaluatePlayIntegrity py (some payload) expectedPackage expectedCertDigest =
        .ok (concluded (.str (text "PLAY_RECOGNIZED"))
          ((Json.get? device (text "deviceRecognitionVerdict")).getD (.arr []))
          ((Json.get? account (text "appLicensingVerdict")).getD .null) false false true) := by
      rw [evaluatePlayIntegrity_eq py present]
      simp only [good.hasApp, good.hasDevice, good.hasAccount, pyGet_obj, published,
        Option.getD_some, package, certificate, good.integrity, bind, Except.bind]
      rfl
    have passes := (concluded_ok_iff (.str (text "PLAY_RECOGNIZED"))
      ((Json.get? device (text "deviceRecognitionVerdict")).getD (.arr []))
      ((Json.get? account (text "appLicensingVerdict")).getD .null) false false true).mpr
      ⟨isStr_self _, rfl, rfl, rfl⟩
    exact ⟨_, ran.trans (congrArg Except.ok (Prod.ext passes rfl))⟩

/-! ## Two enrolments -/

section Tokens

variable {Cert Key Hash : Type} (lib : X509 Cert Key Hash) (py : Python)
  (settings : EnrollSettings Cert)

/-- An enrolment over the challenge counts its token as good. -/
def CountsIntegrity (args : EnrollArgs) (challenge : Bytes) : Prop :=
  ∃ assessment, assess lib py settings args challenge = .ok assessment ∧
    assessment.integrityOk = true

/-- The token is read as a good verdict. -/
def GoodToken (token : Text) : Prop :=
  ∃ payload app device account, decodeIntegrityPayload py token = .ok (some payload) ∧
    Good py settings.playIntegrityPackageName settings.androidCertDigest payload app device account

/-- The challenge is for the key attestation. -/
theorem countsIntegrity_iff (args : EnrollArgs) (challenge : Bytes) :
    CountsIntegrity lib py settings args challenge ↔
      (∃ verdict, verifyKeyAttestation lib args.attestationChain challenge = .ok verdict) ∧
        GoodToken py settings args.playIntegrityToken := by
  constructor
  · rintro ⟨assessment, assessed, good⟩
    obtain ⟨key, attested, assessed⟩ := exceptBind_ok assessed
    obtain ⟨payload, decoded, assessed⟩ := exceptBind_ok assessed
    obtain ⟨⟨integrityOk, integrityDetail⟩, evaluated, made⟩ := exceptBind_ok assessed
    obtain rfl := Except.ok.inj made
    obtain rfl : integrityOk = true := good
    obtain ⟨payload, app, device, account, rfl, isGood⟩ :=
      (evaluatePlayIntegrity_ok_iff _ _ _ _).mp ⟨_, evaluated⟩
    exact ⟨⟨key, attested⟩, payload, app, device, account, decoded, isGood⟩
  · rintro ⟨⟨key, attested⟩, payload, app, device, account, decoded, isGood⟩
    obtain ⟨detail, evaluated⟩ :=
      (evaluatePlayIntegrity_ok_iff _ _ _ _).mpr ⟨payload, app, device, account, rfl, isGood⟩
    refine ⟨⟨key, true, detail⟩, ?_, rfl⟩
    unfold assess
    rw [attested, decoded]
    show evaluatePlayIntegrity py (some payload) settings.playIntegrityPackageName
      settings.androidCertDigest >>= _ = _
    rw [evaluated]
    rfl

/-- A row that is `verified` was counted for the presented challenge. -/
theorem counted_of_verified {args : EnrollArgs} {hist : List EnrollEvent}
    {rest : Kit.Prog EnrollOp EnrollOp.Res
      (Except EnrollError (Uuid × Auth.AttestationStatus × Auth.IssuedTokens))}
    (steps : (enroll lib py settings args).run.Steps hist rest) {device : NewDevice}
    {answer : Except Text Uuid} (mem : ⟨.createDevice device, answer⟩ ∈ hist)
    (verified : device.attestationStatus = .verified) :
    ∃ presented, b64decodeStrict args.presentedChallenge = some presented ∧
      CountsIntegrity lib py settings args presented := by
  obtain ⟨later, before, rfl⟩ := List.append_of_mem mem
  have decided : Decided lib py settings args device :=
    (enroll_decides lib py settings args).past steps rfl
  obtain ⟨presented, assessment, decoded, assessed, accepted⟩ := decided.verified verified
  rw [Assessment.accepted, Bool.and_eq_true] at accepted
  exact ⟨presented, decoded, assessment, assessed, accepted.2⟩

/-- A request with the token, and no chain. -/
def requestWith (token : Text) : EnrollArgs where
  enrollmentCode := []
  label := []
  devicePublicKey := []
  attestationChain := []
  playIntegrityToken := token
  presentedChallenge := []
  appVersion := none
  clientIp := none

/-- **When a token is good for one challenge at most.** -/
theorem integrity_bound_iff (token : Text) :
    (∀ c₁ c₂ : Bytes, c₁ ≠ c₂ → ∀ args₁ args₂ : EnrollArgs, args₁.playIntegrityToken = token →
        args₂.playIntegrityToken = token →
          ¬ (CountsIntegrity lib py settings args₁ c₁ ∧ CountsIntegrity lib py settings args₂ c₂)) ↔
      ¬ GoodToken py settings token := by
  constructor
  · intro bound good
    have counts : ∀ challenge, CountsIntegrity lib py settings (requestWith token) challenge :=
      fun challenge => (countsIntegrity_iff _ _ _ _ _).mpr ⟨⟨_, rfl⟩, good⟩
    exact bound [] [0] (List.cons_ne_nil _ _).symm _ _ rfl rfl ⟨counts [], counts [0]⟩
  · rintro bad c₁ c₂ - args₁ args₂ rfl - ⟨counts, -⟩
    exact bad ((countsIntegrity_iff _ _ _ _ _).mp counts).2

end Tokens

section Pasted

def otherChallenge : Bytes := List.replicate 32 0x2b

/-- Two certificates, for one challenge each; short texts stand for their PEM. -/
def loadsBoth : X509 Certificate Unit Unit :=
  { loadsSelfMade with
    loadPem := fun pem =>
      if pem = text "first" then
        .ok { selfMade with extension := some (describe 1 issuedChallenge [] lockedRoot) }
      else if pem = text "second" then
        .ok { selfMade with extension := some (describe 1 otherChallenge [] lockedRoot) }
      else .error (.valueError (text "Unable to load PEM file.")) }

def firstArgs : EnrollArgs := { forgedArgs with attestationChain := [text "first"] }

/-- The enrolment of another phone, with the same token. -/
def pastedArgs : EnrollArgs :=
  { forgedArgs with
    attestationChain := [text "second"]
    presentedChallenge := text "KysrKysrKysrKysrKysrKysrKysrKysrKysrKysrKys=" }

end Pasted

/-- **One token for two challenges**: both enrolments are accepted. -/
theorem integrity_unbound :
    issuedChallenge ≠ otherChallenge ∧
      firstArgs.playIntegrityToken = pastedArgs.playIntegrityToken ∧
      (∃ assessment, assess loadsBoth loadsVerdict strictSettings firstArgs issuedChallenge =
        .ok assessment ∧ assessment.accepted = true) ∧
      ∃ assessment, assess loadsBoth loadsVerdict strictSettings pastedArgs otherChallenge =
        .ok assessment ∧ assessment.accepted = true :=
  ⟨by decide, rfl, exists_of_any (by decide +kernel), exists_of_any (by decide +kernel)⟩

end DoorsControl.Enrollment
