import DoorsControl.Enrollment.Integrity

/-!
# What an enrolment can read

Both verdicts come after the challenge and the code are used up, and what they are about is the
client's: PEM texts, and a token of any JSON. A bad chain is meant to be a verdict that is not good.

* `verifyKeyAttestation_returns_iff` — **which chains get a verdict**;
* `evaluatePlayIntegrity_returns_iff` — which values get one, in terms of their shape;
* `assess_returns_iff` — both together.
-/

namespace DoorsControl.Enrollment

open DoorsControl.Backend (Dict truthy)

/-! ## What returns -/

section Returns

variable {ε α β : Type}

/-- It returns something. -/
def Returns (p : Except ε α) : Prop := ∃ a, p = .ok a

theorem returns_ok (a : α) : Returns (.ok a : Except ε α) := ⟨a, rfl⟩

theorem not_returns_error (e : ε) : ¬ Returns (.error e : Except ε α) := nofun

theorem returns_bind {p : Except ε α} {f : α → Except ε β} :
    Returns (p >>= f) ↔ ∃ a, p = .ok a ∧ Returns (f a) := by
  constructor
  · rintro ⟨b, ran⟩
    obtain ⟨a, first, rest⟩ := exceptBind_ok ran
    exact ⟨a, first, b, rest⟩
  · rintro ⟨a, rfl, rest⟩
    exact rest

theorem returns_mapM {f : α → Except ε β} {xs : List α} :
    Returns (xs.mapM f) ↔ ∀ x ∈ xs, Returns (f x) := by
  induction xs with
  | nil => exact iff_of_true ⟨[], rfl⟩ nofun
  | cons x xs ih =>
      rw [List.mapM_cons, returns_bind, List.forall_mem_cons, ← ih]
      constructor
      · rintro ⟨y, first, rest⟩
        obtain ⟨ys, others, -⟩ := returns_bind.mp rest
        exact ⟨⟨y, first⟩, ys, others⟩
      · rintro ⟨⟨y, first⟩, ys, others⟩
        exact ⟨y, first, returns_bind.mpr ⟨ys, others, returns_ok _⟩⟩

end Returns

/-! ## The chain -/

section Chain

variable {Cert Key Hash : Type} (lib : X509 Cert Key Hash)

/-- The errors of a signature check that make a verdict. -/
def EnrollError.isSignature : EnrollError → Bool
  | .invalidSignature _ => true
  | .valueError _ => true
  | _ => false

/-- A chain that gets a verdict: what is wrong with it, if anything, is provided for. -/
inductive ChainJudged : List Text → Prop
  | empty : ChainJudged []
  | unparseable {chain : List Text} {message : Text}
      (loaded : chain.mapM lib.loadPem = .error (.valueError message)) : ChainJudged chain
  | unsigned {chain : List Text} {certs : List Cert} {error : EnrollError}
      (loaded : chain.mapM lib.loadPem = .ok certs) (checked : verifyChain lib certs = .error error)
      (provided : error.isSignature = true) : ChainJudged chain
  | read {chain : List Text} {leaf : Cert} {rest : List Cert}
      (loaded : chain.mapM lib.loadPem = .ok (leaf :: rest))
      (checked : verifyChain lib (leaf :: rest) = .ok ())
      (subjects : ∀ cert ∈ leaf :: rest, Returns (lib.subject cert))
      (extension : Returns (lib.attestationExtension leaf)) : ChainJudged chain

/-- Without roots, the leaf is judged by its extension. -/
theorem verifyLeaf_returns_iff (leaf top : Cert) (subjects : List Text) (challenge : Bytes) :
    Returns (verifyLeaf lib leaf top subjects challenge [] false) ↔
      Returns (lib.attestationExtension leaf) := by
  show Returns (lib.attestationExtension leaf >>= _) ↔ _
  rw [returns_bind]
  refine exists_congr fun found => and_iff_left ?_
  cases found with
  | none => exact returns_ok _
  | some extension =>
      dsimp only
      cases parseKeyDescription extension with
      | error error => exact returns_ok _
      | ok parsed => exact returns_ok _

/-- **Which chains get a verdict.** -/
theorem verifyKeyAttestation_returns_iff (chain : List Text) (challenge : Bytes) :
    Returns (verifyKeyAttestation lib chain challenge) ↔ ChainJudged lib chain := by
  constructor
  · intro returns
    by_cases empty : chain = []
    · subst empty
      exact .empty
    unfold verifyKeyAttestation at returns
    rw [if_neg empty] at returns
    cases loaded : chain.mapM lib.loadPem with
    | error error =>
        rw [loaded] at returns
        cases error with
        | valueError message => exact .unparseable loaded
        | _ => exact absurd returns (not_returns_error _)
    | ok certs =>
        rw [loaded] at returns
        cases certs with
        | nil => exact absurd returns (not_returns_error _)
        | cons leaf rest =>
            dsimp only at returns
            cases checked : verifyChain lib (leaf :: rest) with
            | error error =>
                rw [checked] at returns
                cases error with
                | invalidSignature | valueError => exact .unsigned loaded checked rfl
                | _ => exact absurd returns (not_returns_error _)
            | ok =>
                rw [checked] at returns
                obtain ⟨subjects, named, judged⟩ := returns_bind.mp returns
                exact .read loaded checked (returns_mapM.mp ⟨subjects, named⟩)
                  ((verifyLeaf_returns_iff _ _ _ _ _).mp judged)
  · intro judged
    unfold verifyKeyAttestation
    split_ifs with empty
    · exact returns_ok _
    cases judged with
    | empty => exact absurd rfl empty
    | unparseable loaded =>
        rw [loaded]
        exact returns_ok _
    | @unsigned _ certs error loaded checked provided =>
        rw [loaded]
        cases certs with
        | nil => cases checked
        | cons leaf rest =>
            dsimp only
            rw [checked]
            cases error with
            | invalidSignature | valueError => exact returns_ok _
            | _ => cases provided
    | read loaded checked subjects extension =>
        rw [loaded]
        dsimp only
        rw [checked]
        obtain ⟨names, named⟩ := returns_mapM.mpr subjects
        exact returns_bind.mpr ⟨names, named, (verifyLeaf_returns_iff _ _ _ _ _).mpr extension⟩

end Chain

/-! ## The token -/

/-- `value.get(key, default)` of an object. -/
def valueOr (fields : Dict) (key : String) (default : Json Text) : Json Text :=
  (Json.get? fields (text key)).getD default

/-- Something that `in` takes on its right. -/
def isContainer : Json Text → Bool
  | .arr _ => true
  | .obj _ => true
  | .str _ => true
  | _ => false

def isString : Json Text → Bool
  | .str _ => true
  | _ => false

/-- Something that gives strings only. -/
def givesStrings : Json Text → Bool
  | .arr items => items.all isString
  | .obj _ => true
  | .str _ => true
  | _ => false

/-- The shape that the policy takes for granted. -/
structure Shaped (expectedCertDigest : Text) (payload : Json Text)
    (fields app device account : Dict) : Prop where
  isObject : payload = .obj fields
  hasApp : valueOr fields "appIntegrity" (.obj []) = .obj app
  hasDevice : valueOr fields "deviceIntegrity" (.obj []) = .obj device
  hasAccount : valueOr fields "accountDetails" (.obj []) = .obj account
  digests : expectedCertDigest ≠ [] →
    givesStrings (valueOr app "certificateSha256Digest" (.arr [])) = true
  recognised : isContainer (valueOr device "deviceRecognitionVerdict" (.arr [])) = true

theorem pyGet_eq_valueOr (fields : Dict) (key : String) (default : Json Text) :
    pyGet (.obj fields) key default = .ok (valueOr fields key default) := rfl

theorem pyIn_returns_iff (s : Text) (value : Json Text) :
    Returns (pyIn s value) ↔ isContainer value = true := by
  cases value with
  | arr | obj | str => exact iff_of_true (returns_ok _) rfl
  | _ => exact iff_of_false (not_returns_error _) nofun

theorem normalDigest_returns_iff (py : Python) (value : Json Text) :
    Returns (normalDigest py value) ↔ isString value = true := by
  cases value with
  | str => exact iff_of_true (returns_ok _) rfl
  | _ => exact iff_of_false (not_returns_error _) nofun

/-- The digests are looked through if they are strings. -/
theorem certificateMismatch_returns_iff (py : Python) (app : Dict) (expectedCertDigest : Text) :
    Returns (certificateMismatch py (.obj app) expectedCertDigest) ↔
      givesStrings (valueOr app "certificateSha256Digest" (.arr [])) = true := by
  have steps : Returns (certificateMismatch py (.obj app) expectedCertDigest) ↔
      ∃ presented, pyIter (valueOr app "certificateSha256Digest" (.arr [])) = .ok presented ∧
        ∀ digest ∈ presented, isString digest = true := by
    show Returns (pyIter _ >>= _) ↔ _
    rw [returns_bind]
    refine exists_congr fun presented => and_congr_right fun _ => ?_
    rw [returns_bind]
    constructor
    · rintro ⟨digests, normal, -⟩ digest mem
      exact (normalDigest_returns_iff py digest).mp (returns_mapM.mp ⟨digests, normal⟩ digest mem)
    · intro strings
      obtain ⟨digests, normal⟩ := returns_mapM.mpr fun digest mem =>
        (normalDigest_returns_iff py digest).mpr (strings digest mem)
      exact ⟨digests, normal, returns_ok _⟩
  rw [steps]
  cases valueOr app "certificateSha256Digest" (.arr []) with
  | arr items =>
      rw [givesStrings, List.all_eq_true]
      constructor
      · rintro ⟨presented, same, strings⟩
        rw [Except.ok.inj same]
        exact strings
      · exact fun strings => ⟨items, rfl, strings⟩
  | obj fields =>
      refine iff_of_true ⟨_, rfl, ?_⟩ rfl
      intro digest mem
      obtain ⟨field, -, rfl⟩ := List.mem_map.mp mem
      rfl
  | str s =>
      refine iff_of_true ⟨_, rfl, ?_⟩ rfl
      intro digest mem
      obtain ⟨c, -, rfl⟩ := List.mem_map.mp mem
      rfl
  | _ => exact iff_of_false nofun nofun

theorem otherPackage_returns (fields : Dict) (expectedPackage : Text) :
    Returns (otherPackage (.obj fields) expectedPackage) := by
  unfold otherPackage
  split_ifs
  · exact returns_ok _
  · exact returns_ok _

theorem otherCertificate_returns_iff (py : Python) (app : Dict) (expectedCertDigest : Text) :
    Returns (otherCertificate py (.obj app) expectedCertDigest) ↔
      (expectedCertDigest ≠ [] →
        givesStrings (valueOr app "certificateSha256Digest" (.arr [])) = true) := by
  unfold otherCertificate
  split_ifs with empty
  · exact iff_of_true (returns_ok _) fun some => absurd empty some
  · rw [certificateMismatch_returns_iff]
    exact ⟨fun strings _ => strings, fun strings => strings empty⟩

/-- **Which values get a verdict**: those that are false, and those of the shape. -/
theorem evaluatePlayIntegrity_returns_iff (py : Python) (verdict : Option (Json Text))
    (expectedPackage expectedCertDigest : Text) :
    Returns (evaluatePlayIntegrity py verdict expectedPackage expectedCertDigest) ↔
      ∀ payload, verdict.filter truthy = some payload →
        ∃ fields app device account,
          Shaped expectedCertDigest payload fields app device account := by
  cases present : verdict.filter truthy with
  | none =>
      refine iff_of_true ?_ nofun
      unfold evaluatePlayIntegrity
      rw [present]
      exact returns_ok _
  | some payload =>
      rw [evaluatePlayIntegrity_eq py present]
      constructor
      · rintro ⟨result, returned⟩ payload' same
        obtain rfl := Option.some.inj same
        obtain ⟨app, hasApp, returned⟩ := exceptBind_ok returned
        obtain ⟨device, hasDevice, returned⟩ := exceptBind_ok returned
        obtain ⟨account, hasAccount, returned⟩ := exceptBind_ok returned
        obtain ⟨recognition, isRecognition, returned⟩ := exceptBind_ok returned
        obtain ⟨package, -, returned⟩ := exceptBind_ok returned
        obtain ⟨certificate, isCertificate, returned⟩ := exceptBind_ok returned
        obtain ⟨recognised, isRecognised, returned⟩ := exceptBind_ok returned
        obtain ⟨meets, isMeets, returned⟩ := exceptBind_ok returned
        obtain ⟨licensing, isLicensing, -⟩ := exceptBind_ok returned
        obtain ⟨fields, rfl, same⟩ := pyGet_ok hasApp
        obtain ⟨app, rfl, -⟩ := pyGet_ok isRecognition
        obtain ⟨device, rfl, rfl⟩ := pyGet_ok isRecognised
        obtain ⟨account, rfl, -⟩ := pyGet_ok isLicensing
        exact ⟨fields, app, device, account,
          { isObject := rfl
            hasApp := same.symm
            hasDevice := Except.ok.inj hasDevice
            hasAccount := Except.ok.inj hasAccount
            digests := (otherCertificate_returns_iff _ _ _).mp ⟨_, isCertificate⟩
            recognised := (pyIn_returns_iff _ _).mp ⟨_, isMeets⟩ }⟩
      · intro shapes
        obtain ⟨fields, app, device, account, shaped⟩ := shapes payload rfl
        obtain ⟨package, isPackage⟩ := otherPackage_returns app expectedPackage
        obtain ⟨certificate, isCertificate⟩ :=
          (otherCertificate_returns_iff py app _).mpr shaped.digests
        obtain ⟨meets, isMeets⟩ :=
          (pyIn_returns_iff (text "MEETS_DEVICE_INTEGRITY") _).mpr shaped.recognised
        rw [shaped.isObject]
        simp only [pyGet_eq_valueOr, shaped.hasApp, shaped.hasDevice, shaped.hasAccount, isPackage,
          isCertificate, isMeets, bind, Except.bind]
        exact returns_ok _

/-- A token that gets a verdict. -/
def TokenJudged (py : Python) (expectedCertDigest token : Text) : Prop :=
  (token = [] ∨ Returns (py.loads token)) ∧
    ∀ value payload, decodeIntegrityPayload py token = .ok value →
      value.filter truthy = some payload →
        ∃ fields app device account, Shaped expectedCertDigest payload fields app device account

/-- What is no JSON is no verdict, unless the reader of JSON fails in another way. -/
theorem decodeIntegrityPayload_returns_iff (py : Python) (raw : Text) :
    Returns (decodeIntegrityPayload py raw) ↔ raw = [] ∨ Returns (py.loads raw) := by
  unfold decodeIntegrityPayload
  split_ifs with empty
  · exact iff_of_true (returns_ok _) (.inl empty)
  rw [or_iff_right empty]
  cases py.loads raw with
  | error error => exact iff_of_false (not_returns_error _) (not_returns_error _)
  | ok value =>
      refine iff_of_true ?_ (returns_ok _)
      cases value with
      | some value => exact returns_ok _
      | none =>
          dsimp only
          cases Backend.b64decode (.str (raw ++ padding raw)) with
          | error error => exact returns_ok _
          | ok bytes => exact returns_ok _

section Assess

variable {Cert Key Hash : Type} (lib : X509 Cert Key Hash) (py : Python)
  (settings : EnrollSettings Cert) (args : EnrollArgs)

/-- Both verdicts are reached. -/
theorem assess_returns_iff (presented : Bytes) :
    Returns (assess lib py settings args presented) ↔
      ChainJudged lib args.attestationChain ∧
        TokenJudged py settings.androidCertDigest args.playIntegrityToken := by
  rw [← verifyKeyAttestation_returns_iff lib _ presented, TokenJudged,
    ← decodeIntegrityPayload_returns_iff]
  constructor
  · rintro ⟨assessment, assessed⟩
    obtain ⟨key, attested, assessed⟩ := exceptBind_ok assessed
    obtain ⟨value, decoded, assessed⟩ := exceptBind_ok assessed
    obtain ⟨verdict, evaluated, -⟩ := exceptBind_ok assessed
    refine ⟨⟨key, attested⟩, ⟨value, decoded⟩, ?_⟩
    intro value' payload decoded' present
    obtain rfl : value = value' := Except.ok.inj (decoded.symm.trans decoded')
    exact (evaluatePlayIntegrity_returns_iff _ _ _ _).mp ⟨verdict, evaluated⟩ payload present
  · rintro ⟨⟨key, attested⟩, ⟨value, decoded⟩, shaped⟩
    obtain ⟨verdict, evaluated⟩ := (evaluatePlayIntegrity_returns_iff py value
      settings.playIntegrityPackageName settings.androidCertDigest).mpr fun payload =>
        shaped value payload decoded
    refine returns_bind.mpr ⟨key, attested, returns_bind.mpr ⟨value, decoded, ?_⟩⟩
    exact returns_bind.mpr ⟨verdict, evaluated, returns_ok _⟩

end Assess

end DoorsControl.Enrollment
