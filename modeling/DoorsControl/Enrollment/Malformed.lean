import DoorsControl.Enrollment.Grammar
import DoorsControl.Enrollment.KeyStatement

/-!
# Lists that are cut short

"The tags are decoded here rather than with the simple reader above": the rest of an element,
too. `_read_tlv` raises on a length beyond its buffer, and the scanner takes what there is. It
raises where it hands a body on to the strict reader, which it does under two tags.

* `lists_iff` — what the scanner walks, in terms of the octets of the list;
* `scan_raises_iff` — when it raises;
* `malformed_refused_iff` — **when what the strict reader refuses is refused**;
* `cut_list_accepted` — a chain whose list ends within an element, and is accepted.
-/

namespace DoorsControl.Enrollment

open Kit.Der (Cut IsElement IsIdentifier IsLength)

/-! ## What a list has -/

/-- Elements, the last of which may be cut off. -/
inductive Lists : Bytes → List (Nat × Bytes) → Prop
  | nil : Lists [] []
  | cut {content : Bytes} {begun : Option (Nat × Bytes)} (cut : Cut content begun) :
      Lists content begun.toList
  | cons {number : Nat} {body element rest : Bytes} {listed : List (Nat × Bytes)}
      (head : IsElement number body element) (tail : Lists rest listed) :
      Lists (element ++ rest) ((number, body) :: listed)

/-- The list ends before its last element does. -/
inductive CutShort : Bytes → Prop
  | here {content : Bytes} {begun : Option (Nat × Bytes)} (cut : Cut content begun) :
      CutShort content
  | later {number : Nat} {body element rest : Bytes} (head : IsElement number body element)
      (tail : CutShort rest) : CutShort (element ++ rest)

/-- If the tag is one of the two whose bodies are read, the body starts with a sequence, or with any
value. What follows is not looked at. -/
structure Legible (element : Nat × Bytes) : Prop where
  root : element.1 = tagRootOfTrust → ∃ sequence encoded rest fields, IsTlv sequence encoded ∧
    element.2 = encoded ++ rest ∧ IsTlvs sequence.content fields
  userAuth : element.1 = tagUserAuthType → ∃ value encoded rest, IsTlv value encoded ∧
    element.2 = encoded ++ rest

theorem elements_of_lists {content : Bytes} {listed : List (Nat × Bytes)}
    (lists : Lists content listed) : elements content = listed := by
  induction lists with
  | nil => exact elements_nil rfl
  | @cut content begun cut =>
      have turn := scanElement_cut cut
      cases begun with
      | none => exact elements_nil turn
      | some begun =>
          rw [elements_cons turn, elements_nil rfl]
          rfl
  | @cons number body element rest listed head tail ih =>
      rw [elements_cons (scanElement_element head rest), ih]

theorem lists_elements (content : Bytes) : Lists content (elements content) := by
  by_cases nonempty : content ≠ []
  · rcases Kit.Der.cut_cases nonempty with ⟨number, body, element, rest, head, rfl⟩ | ⟨begun, cut⟩
    · have turn := scanElement_element head rest
      have shorter := scanElement_shorter turn
      rw [elements_cons turn]
      exact .cons head (lists_elements rest)
    · rw [elements_of_lists (.cut cut)]
      exact .cut cut
  · obtain rfl := not_not.mp nonempty
    rw [elements_nil rfl]
    exact .nil
termination_by content.length

/-- What the scanner walks, in terms of octets. -/
theorem lists_iff {content : Bytes} {listed : List (Nat × Bytes)} :
    Lists content listed ↔ elements content = listed := by
  constructor
  · exact elements_of_lists
  · rintro rfl
    exact lists_elements content

/-! ## What raises -/

theorem raises_iff {ε α : Type} {result : Except ε α} :
    (∃ error, result = .error error) ↔ ¬ ∃ value, result = .ok value := by
  cases result with
  | error error => exact iff_of_true ⟨error, rfl⟩ nofun
  | ok value => exact iff_of_false nofun fun none => none ⟨value, rfl⟩

theorem readRootOfTrust_returns_iff (body : Bytes) :
    (∃ root, readRootOfTrust body = .ok root) ↔
      ∃ sequence encoded rest fields, IsTlv sequence encoded ∧ body = encoded ++ rest ∧
        IsTlvs sequence.content fields := by
  constructor
  · rintro ⟨root, read⟩
    obtain ⟨⟨sequence, rest⟩, isSequence, read⟩ := exceptBind_ok read
    obtain ⟨fields, isFields, -⟩ := exceptBind_ok read
    obtain ⟨encoded, isTlv, split⟩ := readTlv_iff.mp isSequence
    exact ⟨sequence, encoded, rest, fields, isTlv, split, readSequence_iff.mp isFields⟩
  · rintro ⟨sequence, encoded, rest, fields, isTlv, rfl, isTlvs⟩
    unfold readRootOfTrust
    rw [readTlv_tlv isTlv rest]
    show ∃ root, readSequence sequence.content >>= _ = .ok root
    rw [readSequence_tlvs isTlvs]
    rcases fields with _ | ⟨first, _ | ⟨locked, _ | ⟨state, more⟩⟩⟩
    · exact ⟨_, rfl⟩
    · exact ⟨_, rfl⟩
    · exact ⟨_, rfl⟩
    · exact ⟨_, rfl⟩

theorem legible_iff (element : Nat × Bytes) : Legible element ↔ ReadableElement element := by
  have value : (∃ read, readTlv element.2 = .ok read) ↔
      ∃ value encoded rest, IsTlv value encoded ∧ element.2 = encoded ++ rest := by
    constructor
    · rintro ⟨⟨value, rest⟩, read⟩
      obtain ⟨encoded, isTlv, split⟩ := readTlv_iff.mp read
      exact ⟨value, encoded, rest, isTlv, split⟩
    · rintro ⟨value, encoded, rest, isTlv, split⟩
      exact ⟨_, readTlv_iff.mpr ⟨encoded, isTlv, split⟩⟩
  unfold ReadableElement
  rw [readRootOfTrust_returns_iff, value]
  exact ⟨fun legible => ⟨legible.root, legible.userAuth⟩, fun ⟨root, userAuth⟩ => ⟨root, userAuth⟩⟩

/-- The strict reader raises on what is not a sequence of elements that it takes. -/
theorem strict_raises_iff (content : Bytes) :
    (∃ error, readSequence content = .error error) ↔ ¬ ∃ values, IsTlvs content values := by
  rw [raises_iff]
  simp only [readSequence_iff]

/-- The scanner raises on an element that it reads and cannot. -/
theorem scan_raises_iff (content : Bytes) :
    (∃ error, scanAuthorizationList content = .error error) ↔
      ∃ listed, Lists content listed ∧ ∃ element ∈ listed, ¬ Legible element := by
  constructor
  · rintro ⟨error, raised⟩
    refine ⟨_, lists_elements content, ?_⟩
    by_contra all
    have readable : Readable content := by
      intro element mem
      by_contra illegible
      exact all ⟨element, mem, fun legible => illegible ((legible_iff element).mp legible)⟩
    obtain ⟨out, read⟩ := scanLoop_of_readable readable {}
    replace read : scanAuthorizationList content = .ok out := read
    rw [raised] at read
    cases read
  · rintro ⟨listed, lists, element, mem, illegible⟩
    obtain rfl := elements_of_lists lists
    rw [raises_iff]
    rintro ⟨out, read⟩
    obtain ⟨readable, -⟩ := scanAuthorizationList_reads read
    exact illegible ((legible_iff element).mpr (readable element mem))

/-! ## What is accepted -/

/-- The fields pass, and one of the lists is cut short. -/
structure HalfRead (statement : Statement) (challenge : Bytes) (requireStrongbox : Bool) : Prop
    extends Accepts statement challenge requireStrongbox where
  cut : CutShort statement.teeEnforced ∨ CutShort statement.softwareEnforced

section Verdict

variable {Cert Key Hash : Type}

/-- **When what the strict reader refuses is refused.** -/
theorem malformed_refused_iff (lib : X509 Cert Key Hash) (chainPem : List Text) (challenge : Bytes)
    (trustedRoots : List Cert) (requireStrongbox : Bool) :
    (∀ content, ((∃ error, readSequence content = .error error) →
        ∃ error, scanAuthorizationList content = .error error) ↔
      (∃ values, IsTlvs content values) ∨
        ∃ listed, Lists content listed ∧ ∃ element ∈ listed, ¬ Legible element) ∧
    ((∀ extension statement, Presents lib chainPem trustedRoots extension →
        readStatement extension = .ok statement →
          CutShort statement.teeEnforced ∨ CutShort statement.softwareEnforced →
            ∀ verdict, verifyKeyAttestation lib chainPem challenge trustedRoots requireStrongbox =
              .ok verdict → verdict.ok = false) ↔
      ∀ extension statement, Presents lib chainPem trustedRoots extension →
        readStatement extension = .ok statement →
          ¬ HalfRead statement challenge requireStrongbox) := by
  constructor
  · intro content
    rw [strict_raises_iff, scan_raises_iff]
    exact or_iff_not_imp_left.symm
  · have halfRead : ∀ statement, HalfRead statement challenge requireStrongbox ↔
        Accepts statement challenge requireStrongbox ∧
          (CutShort statement.teeEnforced ∨ CutShort statement.softwareEnforced) := fun statement =>
      ⟨fun half => ⟨half.toAccepts, half.cut⟩, fun ⟨accepts, cut⟩ => ⟨accepts, cut⟩⟩
    simp only [halfRead]
    exact kind_refused_iff lib chainPem challenge trustedRoots requireStrongbox
      fun statement => CutShort statement.teeEnforced ∨ CutShort statement.softwareEnforced

end Verdict

section Samples

/-- An element of five octets, of which there is one. -/
def cutElement : Bytes := [0xA1, 0x05, 0x01]

/-- A list of a locked device that is cut short. -/
def cutList : Bytes := lockedRoot ++ cutElement

theorem cut_cutElement : Cut cutElement (some (1, [0x01])) :=
  .body (@IsIdentifier.low 0xA1 (by decide)) (@IsLength.short 0x05 (by decide)) (by decide)

theorem isElement_lockedRoot : IsElement tagRootOfTrust (lockedRoot.drop 4) lockedRoot :=
  ⟨[0xbf, 0x85, 0x40], [0x0b],
    @IsIdentifier.high 0xbf 0x40 [0x85] (by decide) (List.forall_mem_singleton.mpr (by decide))
      (by decide),
    @IsLength.short 0x0b (by decide), rfl⟩

end Samples

/-- **A list that ends within an element.** The strict reader refuses the element; the scanner does
not, and a chain with the list is accepted. -/
theorem cut_list_accepted :
    (readSequence cutElement = .error .beyondBuffer ∧
        ∃ out, scanAuthorizationList cutElement = .ok out) ∧
      CutShort cutList ∧ readStatement (describe 1 issuedChallenge [] cutList) =
          .ok ⟨1, issuedChallenge, [], cutList⟩ ∧
        ∃ verdict, verdictOn (describe 1 issuedChallenge [] cutList) = .ok verdict ∧
          verdict.ok = true := by
  have returns : (scanAuthorizationList cutElement).toOption.any (fun _ => true) = true := by
    decide +kernel
  obtain ⟨out, read, -⟩ := exists_of_any returns
  exact ⟨⟨by decide +kernel, out, read⟩, .later isElement_lockedRoot (.here cut_cutElement),
    by decide +kernel, exists_of_any (by decide +kernel)⟩

end DoorsControl.Enrollment
