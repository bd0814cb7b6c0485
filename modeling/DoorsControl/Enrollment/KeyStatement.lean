import DoorsControl.Enrollment.AuthorizationList

/-!
# Whose word a key description is

`attestation.py`: "this private key lives in a TEE or StrongBox on a device with a locked
bootloader, and it cannot be used without a biometric". The extension has two authorization
lists, of which the hardware enforces one; the other one is what the system says. The chain and the
package are as they like.

* `accepted_iff` — **when a chain is accepted**, in terms of the fields of the extension;
* `hardware_only_iff` — **when hardware stands behind it**: not with a security level of three or
  more, nor if the hardware's own list has no root of trust;
* `believed_on_trust` — an extension of either kind;
* `noAuth_refused_iff` — **when a key without authentication is refused**: not if the tag is in
  the list that is not consulted;
* `noAuth_accepted` — the tag in either list.
-/

namespace DoorsControl.Enrollment

/-! ## The extension -/

/-- The fields that the checks are about. -/
structure Statement where
  attestationSecurityLevel : Nat
  attestationChallenge : Bytes
  softwareEnforced : Bytes
  teeEnforced : Bytes
  deriving DecidableEq

/-- The fields of a `KeyDescription`. -/
def readStatement (extension : Bytes) : Except DerError Statement := do
  let (root, _) ← readTlv extension
  let items ← readSequence root.content
  match items with
  | _ :: level :: _ :: _ :: challenge :: _ :: software :: tee :: _ =>
      return ⟨asInt level, challenge.content, software.content, tee.content⟩
  | _ => throw .tooFewFields

/-- Where the verdict takes the authorizations from. -/
def consulted (statement : Statement) : Except DerError Scanned := do
  let authorization ← scanAuthorizationList statement.teeEnforced
  if authorization.bootState = none then scanAuthorizationList statement.softwareEnforced
  else pure authorization

/-- A parsed description is what the fields say, with the authorizations of a scan. -/
structure Describes (parsed : KeyDescription) (statement : Statement) : Prop where
  level : parsed.attestationSecurityLevel = securityLevel statement.attestationSecurityLevel
  challenge : parsed.attestationChallenge = statement.attestationChallenge
  authorization : consulted statement = .ok parsed.authorization

theorem describes_of_parse {extension : Bytes} {parsed : KeyDescription}
    (read : parseKeyDescription extension = .ok parsed) :
    ∃ statement, readStatement extension = .ok statement ∧ Describes parsed statement := by
  obtain ⟨⟨root, after⟩, isRoot, read⟩ := exceptBind_ok read
  obtain ⟨items, isItems, read⟩ := exceptBind_ok read
  match items, read with
  | version :: level :: keymaster :: keymasterLevel :: challenge :: uniqueId :: software :: tee ::
      more, read =>
      obtain ⟨first, scanned, read⟩ := exceptBind_ok read
      have fields : readStatement extension =
          .ok ⟨asInt level, challenge.content, software.content, tee.content⟩ := by
        unfold readStatement
        rw [isRoot]
        show readSequence root.content >>= _ = _
        rw [isItems]
        rfl
      refine ⟨_, fields, ?_⟩
      split_ifs at read with unknown
      · obtain ⟨authorization, chosen, made⟩ := exceptBind_ok read
        obtain rfl := Except.ok.inj made
        refine ⟨rfl, rfl, ?_⟩
        unfold consulted
        rw [scanned]
        show (if first.bootState = none then _ else _) = _
        rw [if_pos unknown]
        exact chosen
      · obtain rfl := Except.ok.inj read
        refine ⟨rfl, rfl, ?_⟩
        unfold consulted
        rw [scanned]
        show (if first.bootState = none then _ else _) = _
        rw [if_neg unknown]
        rfl

theorem parse_of_statement {extension : Bytes} {statement : Statement} {authorization : Scanned}
    (read : readStatement extension = .ok statement)
    (chosen : consulted statement = .ok authorization) :
    ∃ parsed, parseKeyDescription extension = .ok parsed := by
  obtain ⟨⟨root, after⟩, isRoot, read⟩ := exceptBind_ok read
  obtain ⟨items, isItems, read⟩ := exceptBind_ok read
  match items, read with
  | version :: level :: keymaster :: keymasterLevel :: challenge :: uniqueId :: software :: tee ::
      more, read =>
      obtain rfl := Except.ok.inj read
      obtain ⟨first, scanned, chosen⟩ := exceptBind_ok chosen
      unfold parseKeyDescription
      rw [isRoot]
      show ∃ parsed, readSequence root.content >>= _ = .ok parsed
      rw [isItems]
      show ∃ parsed, scanAuthorizationList tee.content >>= _ = .ok parsed
      rw [scanned]
      show ∃ parsed : KeyDescription,
        (if first.bootState = none then _ else _ : Except DerError KeyDescription) = .ok parsed
      split_ifs at chosen ⊢ with unknown
      · rw [chosen]
        exact ⟨_, rfl⟩
      · exact ⟨_, rfl⟩

/-- The list that is consulted passes: the hardware's own, or, if that has no root of trust, the
other one. -/
theorem consulted_passes_iff (statement : Statement) :
    (∃ out, consulted statement = .ok out ∧ out.Passes) ↔
      Favourable statement.teeEnforced ∨ (Readable statement.teeEnforced ∧
        rootsOf statement.teeEnforced = [] ∧ Favourable statement.softwareEnforced) := by
  constructor
  · rintro ⟨out, chosen, passes⟩
    obtain ⟨first, scanned, chosen⟩ := exceptBind_ok chosen
    split_ifs at chosen with unknown
    · -- the second scan replaces all that the first one gave
      obtain ⟨readable, -, boot, -⟩ := scanAuthorizationList_reads scanned
      rw [unknown] at boot
      have noRoot : rootsOf statement.teeEnforced = [] :=
        List.getLast?_eq_none_iff.mp (Option.map_eq_none_iff.mp boot.symm)
      exact .inr ⟨readable, noRoot, (passes_iff_favourable _).mp ⟨out, chosen, passes⟩⟩
    · obtain rfl := Except.ok.inj chosen
      exact .inl ((passes_iff_favourable _).mp ⟨first, scanned, passes⟩)
  · rintro (tee | ⟨readable, noRoot, software⟩)
    · obtain ⟨out, scanned, passes⟩ := (passes_iff_favourable _).mpr tee
      refine ⟨out, ?_, passes⟩
      unfold consulted
      rw [scanned]
      show (if out.bootState = none then _ else _) = _
      rw [passes.1]
      rfl
    · obtain ⟨first, scanned⟩ := scanLoop_of_readable readable {}
      replace scanned : scanAuthorizationList statement.teeEnforced = .ok first := scanned
      obtain ⟨-, -, boot, -⟩ := scanAuthorizationList_reads scanned
      rw [noRoot] at boot
      obtain ⟨out, scanned', passes⟩ := (passes_iff_favourable _).mpr software
      refine ⟨out, ?_, passes⟩
      unfold consulted
      rw [scanned]
      show (if first.bootState = none then _ else _) = _
      rw [boot]
      exact scanned'

/-! ## The verdict -/

/-- A check that refuses. -/
theorem check_ok_iff {c : Prop} [Decidable c] {refused rest : AttestationVerdict}
    (bad : refused.ok = false) :
    (if c then refused else rest).ok = true ↔ ¬ c ∧ rest.ok = true := by
  split_ifs with holds
  · rw [bad]
    exact iff_of_false Bool.false_ne_true fun both => both.1 holds
  · exact ⟨fun good => ⟨holds, good⟩, fun both => both.2⟩

theorem judge_ok_iff (parsed : KeyDescription) (challenge : Bytes) (requireStrongbox : Bool)
    (subjects : List Text) :
    (judge parsed challenge requireStrongbox subjects).ok = true ↔
      parsed.attestationChallenge = challenge ∧ parsed.attestationSecurityLevel ≠ .software ∧
        (requireStrongbox = true → parsed.attestationSecurityLevel = .strongbox) ∧
          parsed.authorization.Passes := by
  unfold judge
  rw [check_ok_iff rfl, check_ok_iff rfl, check_ok_iff rfl, check_ok_iff rfl, check_ok_iff rfl,
    check_ok_iff rfl]
  unfold Scanned.Passes
  -- what each check asks, in the order of the source
  have matching : ¬ (!decide (parsed.attestationChallenge = challenge)) = true ↔
      parsed.attestationChallenge = challenge := by
    rw [Bool.not_eq_true, Bool.not_eq_false', decide_eq_true_iff]
  have strongbox : ¬ (requireStrongbox &&
      decide (parsed.attestationSecurityLevel ≠ .strongbox)) = true ↔
        (requireStrongbox = true → parsed.attestationSecurityLevel = .strongbox) := by
    cases requireStrongbox <;> simp
  have verified : ¬ parsed.authorization.bootState.getD .unknown ≠ .verified ↔
      parsed.authorization.bootState = some .verified := by
    cases parsed.authorization.bootState <;> simp
  have locked : ¬ (!parsed.authorization.deviceLocked.getD false) = true ↔
      parsed.authorization.deviceLocked = some true := by
    cases parsed.authorization.deviceLocked <;> simp
  have auth : ¬ (!!parsed.authorization.noAuthRequired) = true ↔
      parsed.authorization.noAuthRequired = false := by
    rw [Bool.not_not, Bool.not_eq_true]
  rw [matching, strongbox, verified, locked, auth]
  exact ⟨fun ⟨a, b, c, d, e, f, _⟩ => ⟨a, b, c, d, e, f⟩,
    fun ⟨a, b, c, d, e, f⟩ => ⟨a, b, c, d, e, f, rfl⟩⟩

section Verdict

variable {Cert Key Hash : Type}

/-- The chain gets as far as the extension of its leaf: it loads, its signatures hold, and if roots
are given it ends in one of them. -/
def Presents (lib : X509 Cert Key Hash) (chainPem : List Text) (trustedRoots : List Cert)
    (extension : Bytes) : Prop :=
  ∃ leaf rest subjects, chainPem.mapM lib.loadPem = .ok (leaf :: rest) ∧
    verifyChain lib (leaf :: rest) = .ok () ∧ (leaf :: rest).mapM lib.subject = .ok subjects ∧
      (trustedRoots.isEmpty = false → untrusted lib trustedRoots
        ((leaf :: rest).getLast (List.cons_ne_nil _ _)) = .ok false) ∧
        lib.attestationExtension leaf = .ok (some extension)

/-- The checks in terms of the fields. -/
structure Accepts (statement : Statement) (challenge : Bytes) (requireStrongbox : Bool) : Prop where
  challenge : statement.attestationChallenge = challenge
  hardware : statement.attestationSecurityLevel ≠ 0
  strongbox : requireStrongbox = true → statement.attestationSecurityLevel = 2
  authorized : Favourable statement.teeEnforced ∨ (Readable statement.teeEnforced ∧
    rootsOf statement.teeEnforced = [] ∧ Favourable statement.softwareEnforced)

theorem securityLevel_software (level : Nat) : securityLevel level = .software ↔ level = 0 := by
  match level with
  | 0 => exact iff_of_true rfl rfl
  | 1 => exact iff_of_false nofun nofun
  | 2 => exact iff_of_false nofun nofun
  | level + 3 => exact iff_of_false nofun nofun

theorem securityLevel_strongbox (level : Nat) : securityLevel level = .strongbox ↔ level = 2 := by
  match level with
  | 0 => exact iff_of_false nofun nofun
  | 1 => exact iff_of_false nofun nofun
  | 2 => exact iff_of_true rfl rfl
  | level + 3 => exact iff_of_false nofun nofun

/-- A description is judged by its fields. -/
theorem Describes.judged {parsed : KeyDescription} {statement : Statement}
    (describes : Describes parsed statement) (challenge : Bytes) (requireStrongbox : Bool)
    (subjects : List Text) :
    (judge parsed challenge requireStrongbox subjects).ok = true ↔
      Accepts statement challenge requireStrongbox := by
  have passes : parsed.authorization.Passes ↔
      ∃ out, consulted statement = .ok out ∧ out.Passes := by
    rw [describes.authorization]
    constructor
    · exact fun passes => ⟨_, rfl, passes⟩
    · rintro ⟨out, same, passes⟩
      obtain rfl := Except.ok.inj same
      exact passes
  rw [judge_ok_iff, passes, consulted_passes_iff, describes.level, describes.challenge,
    securityLevel_strongbox]
  refine ⟨fun h => ⟨h.1, ?_, h.2.2.1, h.2.2.2⟩, fun h => ⟨h.1, ?_, h.3, h.4⟩⟩
  · exact fun none => h.2.1 ((securityLevel_software _).mpr none)
  · exact fun software => h.2 ((securityLevel_software _).mp software)

variable (lib : X509 Cert Key Hash) (chainPem : List Text) (challenge : Bytes)
  (trustedRoots : List Cert) (requireStrongbox : Bool)

variable {lib chainPem challenge trustedRoots requireStrongbox}

/-- The end of `verify_key_attestation`: the verdict on the extension. -/
def verifyExtension (lib : X509 Cert Key Hash) (leaf : Cert) (subjects : List Text)
    (challenge : Bytes) (requireStrongbox : Bool) : Except EnrollError AttestationVerdict := do
  match ← lib.attestationExtension leaf with
  | none => return { ok := false, reason := text "leaf has no key attestation extension",
                     chainSubjects := subjects }
  | some extension =>
      match parseKeyDescription extension with
      | .error error => return { ok := false,
                                 reason := text "malformed KeyDescription: " ++ error.message,
                                 chainSubjects := subjects }
      | .ok parsed => return judge parsed challenge requireStrongbox subjects

theorem verifyLeaf_eq (leaf top : Cert) (subjects : List Text) :
    verifyLeaf lib leaf top subjects challenge trustedRoots requireStrongbox =
      if trustedRoots.isEmpty then verifyExtension lib leaf subjects challenge requireStrongbox
      else untrusted lib trustedRoots top >>= fun foreign =>
        if foreign then
          .ok { ok := false, reason := text "chain does not terminate in a trusted root",
                chainSubjects := subjects }
        else verifyExtension lib leaf subjects challenge requireStrongbox := by
  unfold verifyLeaf
  cases trustedRoots.isEmpty with
  | true => rfl
  | false => rfl

/-- The extension that was judged. -/
theorem verifyExtension_accepts {leaf : Cert} {subjects : List Text} {verdict : AttestationVerdict}
    (returned : verifyExtension lib leaf subjects challenge requireStrongbox = .ok verdict)
    (accepted : verdict.ok = true) :
    ∃ extension statement, lib.attestationExtension leaf = .ok (some extension) ∧
      readStatement extension = .ok statement ∧ Accepts statement challenge requireStrongbox := by
  obtain ⟨found, isFound, judged⟩ := exceptBind_ok returned
  cases found with
  | none =>
      obtain rfl := Except.ok.inj judged
      cases accepted
  | some extension =>
      cases parsing : parseKeyDescription extension with
      | error error =>
          simp only [parsing] at judged
          obtain rfl := Except.ok.inj judged
          cases accepted
      | ok parsed =>
          simp only [parsing] at judged
          obtain rfl := Except.ok.inj judged
          obtain ⟨statement, read, describes⟩ := describes_of_parse parsing
          exact ⟨extension, statement, isFound, read, (describes.judged _ _ _).mp accepted⟩

/-- A leaf is accepted for its extension. -/
theorem verifyLeaf_accepts {leaf top : Cert} {subjects : List Text} {verdict : AttestationVerdict}
    (returned : verifyLeaf lib leaf top subjects challenge trustedRoots requireStrongbox =
      .ok verdict) (accepted : verdict.ok = true) :
    (trustedRoots.isEmpty = false → untrusted lib trustedRoots top = .ok false) ∧
      verifyExtension lib leaf subjects challenge requireStrongbox = .ok verdict := by
  rw [verifyLeaf_eq] at returned
  split_ifs at returned with empty
  · refine ⟨fun given => ?_, returned⟩
    rw [empty] at given
    cases given
  · obtain ⟨foreign, isForeign, more⟩ := exceptBind_ok returned
    cases foreign with
    | true =>
        obtain rfl := Except.ok.inj more
        cases accepted
    | false => exact ⟨fun _ => isForeign, more⟩

/-- And it is, if the chain gets there. -/
theorem verifyLeaf_of_accepts {leaf top : Cert} (subjects : List Text) {extension : Bytes}
    {statement : Statement}
    (trusted : trustedRoots.isEmpty = false → untrusted lib trustedRoots top = .ok false)
    (found : lib.attestationExtension leaf = .ok (some extension))
    (read : readStatement extension = .ok statement)
    (accepts : Accepts statement challenge requireStrongbox) :
    ∃ verdict, verifyLeaf lib leaf top subjects challenge trustedRoots requireStrongbox =
      .ok verdict ∧ verdict.ok = true := by
  obtain ⟨out, chosen, -⟩ := (consulted_passes_iff statement).mpr accepts.authorized
  obtain ⟨parsed, parsing⟩ := parse_of_statement read chosen
  obtain ⟨statement', read', describes⟩ := describes_of_parse parsing
  rw [read] at read'
  obtain rfl := Except.ok.inj read'
  refine ⟨judge parsed challenge requireStrongbox subjects, ?_,
    (describes.judged _ _ _).mpr accepts⟩
  have judged : verifyExtension lib leaf subjects challenge requireStrongbox =
      .ok (judge parsed challenge requireStrongbox subjects) := by
    unfold verifyExtension
    rw [found]
    show (match parseKeyDescription extension with
      | .error error => _
      | .ok parsed => _) = _
    rw [parsing]
    rfl
  rw [verifyLeaf_eq]
  split_ifs with empty
  · exact judged
  · rw [trusted (Bool.not_eq_true _ ▸ empty)]
    exact judged

variable (lib chainPem challenge trustedRoots requireStrongbox)

/-- **When a chain is accepted.** -/
theorem accepted_iff :
    (∃ verdict, verifyKeyAttestation lib chainPem challenge trustedRoots requireStrongbox =
        .ok verdict ∧ verdict.ok = true) ↔
      ∃ extension statement, Presents lib chainPem trustedRoots extension ∧
        readStatement extension = .ok statement ∧
          Accepts statement challenge requireStrongbox := by
  constructor
  · rintro ⟨verdict, returned, accepted⟩
    unfold verifyKeyAttestation at returned
    split_ifs at returned
    · obtain rfl := Except.ok.inj returned
      cases accepted
    split at returned
    · obtain rfl := Except.ok.inj returned
      cases accepted
    · cases returned
    · cases returned
    · rename_i leaf rest loaded
      split at returned
      · obtain rfl := Except.ok.inj returned
        cases accepted
      · obtain rfl := Except.ok.inj returned
        cases accepted
      · cases returned
      · rename_i verified
        obtain ⟨subjects, named, onLeaf⟩ := exceptBind_ok returned
        obtain ⟨trusted, judged⟩ := verifyLeaf_accepts onLeaf accepted
        obtain ⟨extension, statement, found, read, accepts⟩ :=
          verifyExtension_accepts judged accepted
        exact ⟨extension, statement,
          ⟨leaf, rest, subjects, loaded, verified, named, trusted, found⟩, read, accepts⟩
  · rintro ⟨extension, statement, ⟨leaf, rest, subjects, loaded, verified, named, trusted, found⟩,
      read, accepts⟩
    have some : chainPem ≠ [] := by
      rintro rfl
      cases loaded
    unfold verifyKeyAttestation
    rw [if_neg some, loaded]
    simp only [verified, named]
    exact verifyLeaf_of_accepts subjects trusted found read accepts

/-- There is one extension. -/
theorem Presents.unique {extension extension' : Bytes}
    (presents : Presents lib chainPem trustedRoots extension)
    (presents' : Presents lib chainPem trustedRoots extension') : extension = extension' := by
  obtain ⟨leaf, rest, -, loaded, -, -, -, found⟩ := presents
  obtain ⟨leaf', rest', -, loaded', -, -, -, found'⟩ := presents'
  rw [loaded] at loaded'
  obtain ⟨rfl, rfl⟩ := List.cons.inj (Except.ok.inj loaded')
  rw [found] at found'
  exact Option.some.inj (Except.ok.inj found')

/-! ## Whose word it is -/

/-- The level is one of hardware, and the list that hardware enforces has a root of trust of a
locked device in verified boot. -/
structure HardwareBacked (statement : Statement) : Prop where
  level : statement.attestationSecurityLevel = 1 ∨ statement.attestationSecurityLevel = 2
  root : ∃ root ∈ rootsOf statement.teeEnforced,
    root.deviceLocked = true ∧ root.bootState = .verified

/-- What is believed without hardware: a favourable description of a level that does not exist, or
a favourable list of the system where the hardware's own has no root of trust. -/
def TakenOnTrust (statement : Statement) (challenge : Bytes) (requireStrongbox : Bool) : Prop :=
  statement.attestationChallenge = challenge ∧
    ((3 ≤ statement.attestationSecurityLevel ∧ requireStrongbox = false ∧
        Favourable statement.teeEnforced) ∨
      (statement.attestationSecurityLevel ≠ 0 ∧
        (requireStrongbox = true → statement.attestationSecurityLevel = 2) ∧
          Readable statement.teeEnforced ∧ rootsOf statement.teeEnforced = [] ∧
            Favourable statement.softwareEnforced))

theorem takenOnTrust_iff {statement : Statement} {challenge : Bytes} {requireStrongbox : Bool} :
    Accepts statement challenge requireStrongbox ∧ ¬ HardwareBacked statement ↔
      TakenOnTrust statement challenge requireStrongbox := by
  constructor
  · rintro ⟨accepts, noHardware⟩
    refine ⟨accepts.challenge, ?_⟩
    rcases accepts.authorized with tee | ⟨readable, noRoot, software⟩
    · -- the last root of trust of the list is one of them
      have root : ∃ root ∈ rootsOf statement.teeEnforced,
          root.deviceLocked = true ∧ root.bootState = .verified :=
        ⟨_, List.mem_of_getLast? tee.root, rfl, rfl⟩
      have level : ¬ (statement.attestationSecurityLevel = 1 ∨
          statement.attestationSecurityLevel = 2) := fun level => noHardware ⟨level, root⟩
      have some := accepts.hardware
      refine .inl ⟨by omega, ?_, tee⟩
      by_contra asked
      exact level (.inr (accepts.strongbox (by simpa using asked)))
    · exact .inr ⟨accepts.hardware, accepts.strongbox, readable, noRoot, software⟩
  · rintro ⟨same, ⟨unknown, notAsked, tee⟩ | ⟨hardware, strongbox, readable, noRoot, software⟩⟩
    · refine ⟨⟨same, by omega, fun asked => ?_, .inl tee⟩, fun backed => ?_⟩
      · rw [notAsked] at asked
        cases asked
      · have level := backed.level
        omega
    · refine ⟨⟨same, hardware, strongbox, .inr ⟨readable, noRoot, software⟩⟩, fun backed => ?_⟩
      obtain ⟨root, mem, -⟩ := backed.root
      rw [noRoot] at mem
      cases mem

/-- When all statements of a kind are refused. -/
theorem kind_refused_iff (kind : Statement → Prop) :
    (∀ extension statement, Presents lib chainPem trustedRoots extension →
        readStatement extension = .ok statement → kind statement →
          ∀ verdict, verifyKeyAttestation lib chainPem challenge trustedRoots requireStrongbox =
            .ok verdict → verdict.ok = false) ↔
      ∀ extension statement, Presents lib chainPem trustedRoots extension →
        readStatement extension = .ok statement →
          ¬ (Accepts statement challenge requireStrongbox ∧ kind statement) := by
  constructor
  · rintro refused extension statement presents read ⟨accepts, isKind⟩
    obtain ⟨verdict, returned, accepted⟩ :=
      (accepted_iff lib chainPem challenge trustedRoots requireStrongbox).mpr
        ⟨extension, statement, presents, read, accepts⟩
    rw [refused extension statement presents read isKind verdict returned] at accepted
    cases accepted
  · intro never extension statement presents read isKind verdict returned
    by_contra notRefused
    obtain ⟨extension', statement', presents', read', accepts⟩ :=
      (accepted_iff lib chainPem challenge trustedRoots requireStrongbox).mp
        ⟨verdict, returned, by simpa using notRefused⟩
    obtain rfl := presents.unique lib chainPem trustedRoots presents'
    rw [read] at read'
    obtain rfl := Except.ok.inj read'
    exact never extension statement presents read ⟨accepts, isKind⟩

/-! ## Keys without authentication -/

/-- A favourable description with the tag in the list that is not consulted. -/
def Overlooked (statement : Statement) (challenge : Bytes) (requireStrongbox : Bool) : Prop :=
  statement.attestationChallenge = challenge ∧ statement.attestationSecurityLevel ≠ 0 ∧
    (requireStrongbox = true → statement.attestationSecurityLevel = 2) ∧
      ((Favourable statement.teeEnforced ∧ listsNoAuth statement.softwareEnforced = true) ∨
        (Readable statement.teeEnforced ∧ rootsOf statement.teeEnforced = [] ∧
          Favourable statement.softwareEnforced ∧ listsNoAuth statement.teeEnforced = true))

/-- One of the lists contains the tag. -/
def UsableWithoutAuth (statement : Statement) : Prop :=
  listsNoAuth statement.teeEnforced = true ∨ listsNoAuth statement.softwareEnforced = true

theorem overlooked_iff {statement : Statement} {challenge : Bytes} {requireStrongbox : Bool} :
    Accepts statement challenge requireStrongbox ∧ UsableWithoutAuth statement ↔
      Overlooked statement challenge requireStrongbox := by
  constructor
  · rintro ⟨accepts, usable⟩
    refine ⟨accepts.challenge, accepts.hardware, accepts.strongbox, ?_⟩
    rcases accepts.authorized with tee | ⟨readable, noRoot, software⟩
    · refine .inl ⟨tee, usable.resolve_left ?_⟩
      rw [tee.auth]
      exact Bool.false_ne_true
    · refine .inr ⟨readable, noRoot, software, usable.resolve_right ?_⟩
      rw [software.auth]
      exact Bool.false_ne_true
  · rintro ⟨same, hardware, strongbox, ⟨tee, listed⟩ | ⟨readable, noRoot, software, listed⟩⟩
    · exact ⟨⟨same, hardware, strongbox, .inl tee⟩, .inr listed⟩
    · exact ⟨⟨same, hardware, strongbox, .inr ⟨readable, noRoot, software⟩⟩, .inl listed⟩

/-- **When a key that is usable without authentication is refused.** -/
theorem noAuth_refused_iff :
    (∀ extension statement, Presents lib chainPem trustedRoots extension →
        readStatement extension = .ok statement → UsableWithoutAuth statement →
          ∀ verdict, verifyKeyAttestation lib chainPem challenge trustedRoots requireStrongbox =
            .ok verdict → verdict.ok = false) ↔
      ∀ extension statement, Presents lib chainPem trustedRoots extension →
        readStatement extension = .ok statement →
          ¬ Overlooked statement challenge requireStrongbox := by
  simp only [← overlooked_iff]
  exact kind_refused_iff lib chainPem challenge trustedRoots requireStrongbox UsableWithoutAuth

end Verdict

section Samples

/-- The package, where the text stands for a certificate with a given extension. -/
def loadsExtension (extension : Bytes) : X509 Certificate Unit Unit :=
  { loadsSelfMade with loadPem := fun _ => .ok { selfMade with extension := some extension } }

/-- A challenge as the server issues it. -/
def issuedChallenge : Bytes := List.replicate 32 0x2a

/-- A `KeyDescription`. -/
def describe (level : UInt8) (challenge software tee : Bytes) : Bytes :=
  let fields := [0x02, 0x01, 0x03, 0x0a, 0x01, level, 0x02, 0x01, 0x04, 0x0a, 0x01, 0x01,
    0x04, UInt8.ofNat challenge.length] ++ challenge ++ [0x04, 0x00] ++
    [0x30, UInt8.ofNat software.length] ++ software ++ [0x30, UInt8.ofNat tee.length] ++ tee
  [0x30, UInt8.ofNat fields.length] ++ fields

/-- `rootOfTrust`: a locked device in verified boot. -/
def lockedRoot : Bytes :=
  [0xbf, 0x85, 0x40, 0x0b, 0x30, 0x09, 0x04, 0x01, 0x01, 0x01, 0x01, 0xff, 0x0a, 0x01, 0x00]

/-- `noAuthRequired` -/
def noAuth : Bytes := [0xbf, 0x83, 0x77, 0x02, 0x05, 0x00]

/-- A level that does not exist. -/
def levelThree : Bytes := describe 3 issuedChallenge [] lockedRoot

/-- The root of trust in the list of the system. -/
def rootBySystem : Bytes := describe 1 issuedChallenge lockedRoot []

def noAuthBySystem : Bytes := describe 1 issuedChallenge noAuth lockedRoot

def noAuthByHardware : Bytes := describe 1 issuedChallenge lockedRoot noAuth

/-- The verdict on a chain of one certificate with the extension. -/
def verdictOn (extension : Bytes) : Except EnrollError AttestationVerdict :=
  verifyKeyAttestation (loadsExtension extension) [selfMadePem] issuedChallenge

theorem exists_of_any {ε α : Type} {result : Except ε α} {test : α → Bool}
    (passed : result.toOption.any test = true) :
    ∃ value, result = .ok value ∧ test value = true := by
  cases result with
  | error e => cases passed
  | ok value => exact ⟨value, rfl, passed⟩

end Samples

/-- **A key that is usable without authentication**, with the tag in either list. -/
theorem noAuth_accepted :
    ((∃ verdict, verdictOn noAuthBySystem = .ok verdict ∧ verdict.ok = true) ∧
        ∃ statement, readStatement noAuthBySystem = .ok statement ∧
          listsNoAuth statement.softwareEnforced = true) ∧
      (∃ verdict, verdictOn noAuthByHardware = .ok verdict ∧ verdict.ok = true) ∧
        ∃ statement, readStatement noAuthByHardware = .ok statement ∧
          listsNoAuth statement.teeEnforced = true := by
  have listed : listsNoAuth noAuth = true := by
    decide +kernel
  have bySystem : readStatement noAuthBySystem = .ok ⟨1, issuedChallenge, noAuth, lockedRoot⟩ := by
    decide +kernel
  have byHardware : readStatement noAuthByHardware =
      .ok ⟨1, issuedChallenge, lockedRoot, noAuth⟩ := by
    decide +kernel
  exact ⟨⟨exists_of_any (by decide +kernel), _, bySystem, listed⟩,
    exists_of_any (by decide +kernel), _, byHardware, listed⟩

end DoorsControl.Enrollment
