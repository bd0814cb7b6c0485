import DoorsControl.Enrollment.Der
import DoorsControl.Kit.Der

/-!
# What the readers take

The two readers of `attestation.py` and the octets of X.690. The scanner takes any element, and
what there is of one that is cut off; the strict one takes elements with a low tag and up to four
octets behind the first one of a length.

* `scanElement_element`, `scanElement_cut` — one turn of the scanner;
* `readTlv_iff`, `readSequence_iff` — **what the strict reader takes**.
-/

namespace DoorsControl.Enrollment

open Kit.Der (Cut IsElement IsIdentifier IsLength ofBase128)

/-! ## The scanner -/

/-- `(number << 7) | digit` -/
theorem shift_or (number : Nat) (octet : UInt8) :
    (number <<< 7) ||| (octet &&& 0x7F).toNat = number * 128 + (octet &&& 0x7F).toNat := by
  have small : (octet &&& 0x7F).toNat < 2 ^ 7 := by
    rw [UInt8.toNat_and]
    exact Nat.and_lt_two_pow _ (by decide)
  have sum := Nat.two_pow_add_eq_or_of_lt small number
  rw [Nat.shiftLeft_eq, Nat.mul_comm number (2 ^ 7), ← sum]

theorem readTagNumber_ends {digits : Bytes} (goOn : ∀ digit ∈ digits, digit &&& 0x80 ≠ 0)
    {last : UInt8} (ends : last &&& 0x80 = 0) (number : Nat) (rest : Bytes) :
    readTagNumber number (digits ++ last :: rest) =
      ((digits ++ [last]).foldl (fun n octet => n * 128 + (octet &&& 0x7F).toNat) number,
        rest) := by
  induction digits generalizing number with
  | nil =>
      rw [List.nil_append, List.nil_append, List.foldl_cons, List.foldl_nil]
      unfold readTagNumber
      dsimp only
      rw [if_pos ends, shift_or]
  | cons digit digits ih =>
      obtain ⟨goesOn, more⟩ := List.forall_mem_cons.mp goOn
      rw [List.cons_append, List.cons_append, List.foldl_cons]
      unfold readTagNumber
      dsimp only
      rw [if_neg goesOn, shift_or, ih more]

/-- A tag without an end takes all there is. -/
theorem readTagNumber_open {digits : Bytes} (goOn : ∀ digit ∈ digits, digit &&& 0x80 ≠ 0)
    (number : Nat) : (readTagNumber number digits).2 = [] := by
  induction digits generalizing number with
  | nil => rfl
  | cons digit digits ih =>
      obtain ⟨goesOn, more⟩ := List.forall_mem_cons.mp goOn
      unfold readTagNumber
      dsimp only
      rw [if_neg goesOn]
      exact ih more _

theorem readTag_identifier {number : Nat} {tag : Bytes} (isTag : IsIdentifier number tag)
    (rest : Bytes) :
    ∃ first data, tag ++ rest = first :: data ∧ readTag first data = (number, rest) := by
  cases isTag with
  | @low first low => exact ⟨first, rest, rfl, if_neg low⟩
  | @high first last digits high goOn ends =>
      refine ⟨first, digits ++ last :: rest, ?_, ?_⟩
      · rw [List.cons_append, List.append_assoc, List.singleton_append]
      · unfold readTag
        rw [if_pos high, readTagNumber_ends goOn ends]
        rfl

theorem readLength_length {n : Nat} {length : Bytes} (isLength : IsLength n length)
    (rest : Bytes) :
    ∃ first data, length ++ rest = first :: data ∧ readLength first data = (n, rest) := by
  cases isLength with
  | @short first alone => exact ⟨first, rest, rfl, if_neg (not_not.mpr alone)⟩
  | @long first octets more count =>
      refine ⟨first, octets ++ rest, rfl, ?_⟩
      unfold readLength
      rw [if_pos more]
      dsimp only
      rw [count, List.take_left, List.drop_left]
      rfl

/-- The scanner reads an element, whatever follows it. -/
theorem scanElement_element {number : Nat} {body element : Bytes}
    (isElement : IsElement number body element) (rest : Bytes) :
    scanElement (element ++ rest) = some (number, body, rest) := by
  obtain ⟨tag, length, isTag, isLength, rfl⟩ := isElement
  obtain ⟨first, data, split, tagged⟩ := readTag_identifier isTag (length ++ (body ++ rest))
  obtain ⟨first', data', split', measured⟩ := readLength_length isLength (body ++ rest)
  rw [List.append_assoc, List.append_assoc, split]
  unfold scanElement
  simp only [tagged, split', measured, List.take_left, List.drop_left]

/-- Of an element that is cut off it reads what there is. -/
theorem scanElement_cut {content : Bytes} {begun : Option (Nat × Bytes)}
    (cut : Cut content begun) :
    scanElement content = begun.map fun (number, body) => (number, body, []) := by
  cases cut with
  | @tag first digits high goOn =>
      have none := readTagNumber_open goOn 0
      unfold scanElement readTag
      dsimp only
      rw [if_pos high]
      split
      · rfl
      · rename_i number length data isTag
        rw [isTag] at none
        cases none
  | @noLength number tag isTag =>
      obtain ⟨first, data, split, tagged⟩ := readTag_identifier isTag []
      rw [List.append_nil] at split
      rw [split]
      unfold scanElement
      simp only [tagged]
      rfl
  | @length number tag octets first isTag more few =>
      obtain ⟨first', data, split, tagged⟩ := readTag_identifier isTag (first :: octets)
      rw [split]
      unfold scanElement readLength
      simp only [tagged, if_pos more, List.drop_eq_nil_of_le (Nat.le_of_lt few), List.take_nil,
        List.drop_nil]
      rfl
  | @body number n tag length body isTag isLength few =>
      obtain ⟨first, data, split, tagged⟩ := readTag_identifier isTag (length ++ body)
      obtain ⟨first', data', split', measured⟩ := readLength_length isLength body
      rw [split]
      unfold scanElement
      simp only [tagged, split', measured, List.take_of_length_le (Nat.le_of_lt few),
        List.drop_eq_nil_of_le (Nat.le_of_lt few)]
      rfl

/-! ## The strict reader -/

/-- The first octet of a length without an end. -/
theorem indefinite {first : UInt8} (more : first &&& 0x80 ≠ 0)
    (none : (first &&& 0x7F).toNat = 0) : first = 0x80 := by
  have table : ∀ first : Fin 256, UInt8.ofNat first &&& 0x80 ≠ 0 →
      (UInt8.ofNat first &&& 0x7F).toNat = 0 → UInt8.ofNat first = 0x80 := by
    decide +kernel
  have same : UInt8.ofNat first.toNat = first := UInt8.ofNat_toNat
  have found := table ⟨first.toNat, first.toNat_lt⟩
  dsimp only at found
  rw [same] at found
  exact found more none

/-- An element as the strict reader takes it. -/
structure IsTlv (value : DerValue) (encoded : Bytes) : Prop where
  low : value.tag &&& 0x1F ≠ 0x1F
  octets : ∃ length, IsLength value.content.length length ∧ length ≠ [0x80] ∧ length.length ≤ 5 ∧
    encoded = value.tag :: (length ++ value.content)

/-- One after the other, with nothing left. -/
inductive IsTlvs : Bytes → List DerValue → Prop
  | nil : IsTlvs [] []
  | cons {value : DerValue} {encoded rest : Bytes} {values : List DerValue}
      (head : IsTlv value encoded) (tail : IsTlvs rest values) :
      IsTlvs (encoded ++ rest) (value :: values)

theorem readContent_iff {tag : UInt8} {n : Nat} {data rest : Bytes} {value : DerValue} :
    readContent tag n data = .ok (value, rest) ↔
      value.tag = tag ∧ value.content.length = n ∧ data = value.content ++ rest := by
  unfold readContent
  split_ifs with beyond
  · refine iff_of_false nofun ?_
    rintro ⟨-, rfl, rfl⟩
    rw [List.length_append] at beyond
    omega
  · constructor
    · intro read
      obtain ⟨rfl, rfl⟩ := Prod.mk.inj (Except.ok.inj read)
      refine ⟨rfl, ?_, (List.take_append_drop n data).symm⟩
      rw [List.length_take]
      omega
    · rintro ⟨rfl, rfl, rfl⟩
      rw [List.take_left, List.drop_left]

/-- The number of octets behind the first one of a length, as it is checked. -/
theorem isLength_checked {first : UInt8} {data : Bytes} (more : first &&& 0x80 ≠ 0)
    (checked : ¬ ((first &&& 0x7F).toNat = 0 ∨ (first &&& 0x7F).toNat > 4 ∨
      data.length < (first &&& 0x7F).toNat)) :
    ∃ octets rest, data = octets ++ rest ∧ octets.length = (first &&& 0x7F).toNat ∧
      IsLength (fromBytesBig octets) (first :: octets) ∧ first :: octets ≠ [0x80] ∧
        (first :: octets).length ≤ 5 := by
  push Not at checked
  obtain ⟨some, few, enough⟩ := checked
  have count : (data.take (first &&& 0x7F).toNat).length = (first &&& 0x7F).toNat := by
    rw [List.length_take]
    omega
  refine ⟨_, data.drop (first &&& 0x7F).toNat, (List.take_append_drop _ _).symm, count,
    .long more count.symm, ?_, ?_⟩
  · intro same
    rw [(List.cons.inj same).2] at count
    exact some count.symm
  · rw [List.length_cons, count]
    omega

theorem isTlv_of_read {data rest : Bytes} {value : DerValue}
    (read : readTlv data = .ok (value, rest)) :
    ∃ encoded, IsTlv value encoded ∧ data = encoded ++ rest := by
  unfold readTlv at read
  split at read
  · cases read
  rename_i tag data
  split_ifs at read with high
  split at read
  · cases read
  rename_i first data
  split_ifs at read with more
  · dsimp only at read
    split_ifs at read with checked
    obtain ⟨octets, body, rfl, count, isLength, notNone, few⟩ := isLength_checked more checked
    rw [← count, List.take_left, List.drop_left] at read
    obtain ⟨rfl, size, rfl⟩ := readContent_iff.mp read
    rw [← size] at isLength
    refine ⟨_, ⟨high, _, isLength, notNone, few, rfl⟩, ?_⟩
    rw [List.cons_append, List.cons_append, List.cons_append, List.append_assoc]
  · obtain ⟨rfl, size, rfl⟩ := readContent_iff.mp read
    have isLength := IsLength.short (not_not.mp more)
    rw [← size] at isLength
    refine ⟨_, ⟨high, _, isLength, ?_, Nat.le_add_left 1 4, rfl⟩, ?_⟩
    · intro same
      rw [(List.cons.inj same).1] at more
      exact more (by decide)
    · rw [List.cons_append, List.append_assoc, List.singleton_append]

theorem readTlv_tlv {value : DerValue} {encoded : Bytes} (isTlv : IsTlv value encoded)
    (rest : Bytes) : readTlv (encoded ++ rest) = .ok (value, rest) := by
  obtain ⟨low, length, isLength, notNone, few, rfl⟩ := isTlv
  obtain ⟨tag, content⟩ := value
  rw [List.cons_append, List.append_assoc]
  unfold readTlv
  dsimp only at low isLength ⊢
  rw [if_neg low]
  generalize size : content.length = n at isLength
  cases isLength with
  | @short first alone =>
      rw [List.singleton_append]
      dsimp only
      rw [if_neg (not_not.mpr alone)]
      exact readContent_iff.mpr ⟨rfl, size, rfl⟩
  | @long first octets more count =>
      have some : octets.length ≠ 0 := by
        intro none
        rw [List.length_eq_zero_iff] at none
        rw [none] at count notNone
        exact notNone (congrArg (· :: []) (indefinite more count))
      have fits : ¬ ((first &&& 0x7F).toNat = 0 ∨ (first &&& 0x7F).toNat > 4 ∨
          (octets ++ (content ++ rest)).length < (first &&& 0x7F).toNat) := by
        rw [List.length_cons] at few
        rw [count, List.length_append]
        omega
      rw [List.cons_append]
      dsimp only
      rw [if_pos more, if_neg fits, count, List.take_left, List.drop_left]
      exact readContent_iff.mpr ⟨rfl, size, rfl⟩

/-- **What the strict reader takes.** -/
theorem readTlv_iff {data rest : Bytes} {value : DerValue} :
    readTlv data = .ok (value, rest) ↔
      ∃ encoded, IsTlv value encoded ∧ data = encoded ++ rest := by
  constructor
  · exact isTlv_of_read
  · rintro ⟨encoded, isTlv, rfl⟩
    exact readTlv_tlv isTlv rest

theorem IsTlv.ne_nil {value : DerValue} {encoded : Bytes} (isTlv : IsTlv value encoded) :
    encoded ≠ [] := by
  obtain ⟨-, length, -, -, -, rfl⟩ := isTlv
  exact List.cons_ne_nil _ _

theorem readSequence_tlvs {content : Bytes} {values : List DerValue}
    (isTlvs : IsTlvs content values) : readSequence content = .ok values := by
  induction isTlvs with
  | nil => exact readSequence_nil
  | @cons value encoded rest values head tail ih =>
      rw [readSequence_cons (readTlv_tlv head rest), ih]
      rfl

theorem isTlvs_of_read {content : Bytes} {values : List DerValue}
    (read : readSequence content = .ok values) : IsTlvs content values := by
  by_cases empty : content = []
  · subst empty
    rw [readSequence_nil] at read
    obtain rfl := Except.ok.inj read
    exact .nil
  cases first : readTlv content with
  | error error =>
      rw [readSequence_error empty first] at read
      cases read
  | ok found =>
      obtain ⟨value, rest⟩ := found
      have shorter := readTlv_shorter first
      rw [readSequence_cons first] at read
      cases more : readSequence rest with
      | error error =>
          rw [more] at read
          cases read
      | ok others =>
          rw [more] at read
          obtain rfl := Except.ok.inj read
          obtain ⟨encoded, head, rfl⟩ := readTlv_iff.mp first
          exact .cons head (isTlvs_of_read more)
termination_by content.length

/-- **What it makes of a whole body.** -/
theorem readSequence_iff {content : Bytes} {values : List DerValue} :
    readSequence content = .ok values ↔ IsTlvs content values :=
  ⟨isTlvs_of_read, readSequence_tlvs⟩

end DoorsControl.Enrollment
