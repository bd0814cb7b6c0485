import DoorsControl.Enrollment.AuthorizationList
import DoorsControl.Enrollment.Grammar

/-!
# The readers invert the encoding

What the two readers of `attestation.py` make of elements that are encoded as in X.690, with a
length below 2^32. The strict one reads tags below 31, and the scanner any tag.

* `readTlv_encode`, `scanElement_encode` — one element, whatever follows it;
* `scanLoop_concat` — a list of them, from any result so far;
* `readers_invert_der` — **what is encoded is what is read**.
-/

namespace DoorsControl.Enrollment

open Kit.Der (Element concat identifier lengthOctets ofBigEndian)

/-! ## One element -/

/-- The scanner reads an element, whatever follows it. -/
theorem scanElement_encode (e : Element) (rest : Bytes) :
    scanElement (e.encode ++ rest) = some (e.number, e.body, rest) :=
  scanElement_element (Kit.Der.isElement_encode e) rest

theorem isTlv_encode {e : Element} (low : e.Low) : IsTlv ⟨e.tag, e.body⟩ e.encode := by
  obtain ⟨isLength, notNone, few⟩ := Kit.Der.isLength_lengthOctets e.short
  refine ⟨?_, _, isLength, notNone, few, ?_⟩
  · show e.tag &&& 0x1F ≠ 0x1F
    unfold Element.tag
    rw [Kit.Der.tag_and e.lead (Nat.lt_trans low (by decide))]
    exact Kit.Der.tag_low low
  · unfold Element.Low at low
    unfold Element.encode identifier
    rw [if_pos low, List.append_assoc]
    rfl

/-- The strict reader reads one with a low tag. -/
theorem readTlv_encode {e : Element} (low : e.Low) (rest : Bytes) :
    readTlv (e.encode ++ rest) = .ok (⟨e.tag, e.body⟩, rest) :=
  readTlv_tlv (isTlv_encode low) rest

/-! ## Lists of elements -/

/-- The strict reader reads a concatenation of elements with low tags. -/
theorem readSequence_concat {elements : List Element} (low : ∀ e ∈ elements, e.Low) :
    readSequence (concat elements) = .ok (elements.map fun e => ⟨e.tag, e.body⟩) := by
  induction elements with
  | nil => exact readSequence_nil
  | cons e rest ih =>
      have one := readTlv_encode (low e List.mem_cons_self) (concat rest)
      rw [Kit.Der.concat_cons, readSequence_cons one,
        ih fun f mem => low f (List.mem_cons_of_mem _ mem)]
      rfl

/-- A body that is a sequence of these fields. -/
structure IsSequence (body : Bytes) (fields : List Element) : Prop where
  encoded : ∃ sequence : Element, sequence.Low ∧ body = sequence.encode ∧
    sequence.body = concat fields
  low : ∀ field ∈ fields, field.Low

/-- What an element of an authorization list means, as a change of the result. -/
inductive Means : Element → (Scanned → Scanned) → Prop
  | rootOfTrust {e key locked state : Element} {more : List Element}
      (number : e.number = tagRootOfTrust)
      (fields : IsSequence e.body (key :: locked :: state :: more)) :
      Means e fun out => { out with
        deviceLocked := some (locked.body = [0xFF])
        bootState := some (bootState (ofBigEndian state.body)) }
  | noAuthRequired {e : Element} (number : e.number = tagNoAuthRequired) :
      Means e fun out => { out with noAuthRequired := true }
  | userAuthType {e value : Element} (number : e.number = tagUserAuthType) (low : value.Low)
      (encoded : e.body = value.encode) :
      Means e fun out => { out with userAuthType := some (ofBigEndian value.body) }
  | other {e : Element} (noRoot : e.number ≠ tagRootOfTrust) (noAuth : e.number ≠ tagNoAuthRequired)
      (noType : e.number ≠ tagUserAuthType) : Means e id

theorem asInt_eq (tag : UInt8) (content : Bytes) : asInt ⟨tag, content⟩ = ofBigEndian content := by
  unfold asInt
  cases content with
  | nil => rfl
  | cons => rfl

theorem readTlv_alone {e : Element} (low : e.Low) :
    readTlv e.encode = .ok (⟨e.tag, e.body⟩, []) := by
  have one := readTlv_encode low []
  rwa [List.append_nil] at one

/-- One element does to the result what it means. -/
theorem scanned_means {e : Element} {update : Scanned → Scanned} (meant : Means e update)
    (out : Scanned) : scanned out e.number e.body = .ok (update out) := by
  cases meant with
  | @rootOfTrust key locked state more number fields =>
      obtain ⟨sequence, low, encoded, content⟩ := fields.encoded
      rw [number, scanned_root]
      unfold readRootOfTrust
      rw [encoded, readTlv_alone low]
      show Except.map out.withRoot (readSequence sequence.body >>= _) = _
      rw [content, readSequence_concat fields.low]
      rw [← asInt_eq state.tag]
      rfl
  | noAuthRequired number => rw [number, scanned_noAuth]
  | userAuthType number low encoded =>
      rw [number, scanned_userAuth, encoded, readTlv_alone low, ← asInt_eq]
      rfl
  | other noRoot noAuth noType => exact scanned_other out e.body noRoot noAuth noType

/-- The scanner, from any result so far. -/
theorem scanLoop_concat {elements : List Element} {updates : List (Scanned → Scanned)}
    (meant : List.Forall₂ Means elements updates) (out : Scanned) :
    scanLoop out (concat elements) = .ok (updates.foldl (fun out update => update out) out) := by
  induction meant generalizing out with
  | nil => exact scanLoop_nil out rfl
  | @cons e update rest updates meant more ih =>
      rw [Kit.Der.concat_cons, scanLoop_cons out (scanElement_encode e (concat rest)),
        scanned_means meant out]
      exact ih (update out)

/-- **What is encoded is what is read.** The scanner returns the fold of what the elements mean, so
that the last one wins, and the strict reader the tags and bodies. -/
theorem readers_invert_der :
    (∀ (elements : List Element) (updates : List (Scanned → Scanned)),
      List.Forall₂ Means elements updates →
        scanAuthorizationList (concat elements) =
          .ok (updates.foldl (fun out update => update out) {})) ∧
    ∀ elements : List Element, (∀ e ∈ elements, e.Low) →
      readSequence (concat elements) = .ok (elements.map fun e => ⟨e.tag, e.body⟩) :=
  ⟨fun _ _ meant => scanLoop_concat meant {}, fun _ low => readSequence_concat low⟩

section Roots

/-- A key, the state of the lock, and that of the boot. -/
def rootFields (locked state : UInt8) : List Element :=
  [⟨0, 4, [0x01, 0x02], by simp⟩, ⟨0, 1, [locked], by simp⟩, ⟨0, 10, [state], by simp⟩]

theorem low_rootFields (locked state : UInt8) : ∀ field ∈ rootFields locked state, field.Low := by
  have numbers : ∀ number ∈ [4, 1, 10], number < 31 := by decide
  intro field mem
  exact numbers field.number (List.mem_map_of_mem (f := Element.number) mem)

def rootSequence (locked state : UInt8) : Element where
  lead := 1
  number := 16
  body := concat (rootFields locked state)
  short := by simp [concat, rootFields, Element.encode, identifier, lengthOctets]

/-- The root of trust of a device. -/
def rootElement (locked state : UInt8) : Element where
  lead := 5
  number := 704
  body := (rootSequence locked state).encode
  short := by
    simp [rootSequence, concat, rootFields, Element.encode, identifier, lengthOctets]

def noAuthElement : Element := ⟨5, 503, [0x05, 0x00], by simp⟩

theorem rootElement_means (locked state : UInt8) :
    Means (rootElement locked state) fun out => { out with
      deviceLocked := some (([locked] : Bytes) = [0xFF])
      bootState := some (bootState (ofBigEndian [state])) } :=
  .rootOfTrust rfl
    { encoded := ⟨rootSequence locked state, by show 16 < 31; decide, rfl, rfl⟩
      low := low_rootFields locked state }

end Roots

/-- Two roots of trust: the last one wins. -/
theorem readers_invert_der_sample :
    scanAuthorizationList (concat [rootElement 0x00 2, noAuthElement, rootElement 0xFF 0]) =
        .ok { deviceLocked := some true, bootState := some .verified, noAuthRequired := true } ∧
      readSequence (concat (rootFields 0xFF 0)) =
        .ok [⟨0x04, [0x01, 0x02]⟩, ⟨0x01, [0xFF]⟩, ⟨0x0A, [0x00]⟩] := by
  obtain ⟨scans, reads⟩ := readers_invert_der
  refine ⟨?_, reads _ (low_rootFields 0xFF 0)⟩
  exact scans _ _ (.cons (rootElement_means 0x00 2) (.cons (.noAuthRequired rfl)
    (.cons (rootElement_means 0xFF 0) .nil)))

end DoorsControl.Enrollment
