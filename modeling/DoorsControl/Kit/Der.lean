import Mathlib.Data.Nat.Digits.Lemmas

/-!
# The distinguished encoding rules

Elements of X.690 with a definite length: identifier octets, length octets, and the body.
`Element.encode` makes the octets, as few as will do; `IsElement` is what else stands for the
same.

* `digits_fold` — most significant first, digits add up to their number;
* `isIdentifier_identifier`, `isLength_lengthOctets` — what is encoded stands for itself;
* `cut_cases` — **octets start with an element, or they are cut off within one**.
-/

namespace DoorsControl.Kit.Der

/-- What octets say, most significant first. -/
def ofBigEndian (octets : List UInt8) : Nat := octets.foldl (fun n octet => n * 256 + octet.toNat) 0

/-- As few octets as will do. -/
def bigEndian (n : Nat) : List UInt8 := (Nat.digits 256 n).reverse.map UInt8.ofNat

/-- Base 128, with the high bit in all octets but the last. -/
def base128 (n : Nat) : List UInt8 :=
  ((Nat.digits 128 (n / 128)).reverse.map fun digit => UInt8.ofNat (digit + 128)) ++
    [UInt8.ofNat (n % 128)]

/-- The first octet has the class, whether the element is constructed, and a small tag number. -/
def identifier (lead : Fin 8) (number : Nat) : List UInt8 :=
  if number < 31 then [UInt8.ofNat (lead * 32 + number)]
  else UInt8.ofNat (lead * 32 + 31) :: base128 number

def lengthOctets (n : Nat) : List UInt8 :=
  if n < 128 then [UInt8.ofNat n]
  else UInt8.ofNat (128 + (bigEndian n).length) :: bigEndian n

/-- An element whose length has four octets at most. -/
structure Element where
  lead : Fin 8
  number : Nat
  body : List UInt8
  short : body.length < 2 ^ 32

def Element.encode (e : Element) : List UInt8 :=
  identifier e.lead e.number ++ lengthOctets e.body.length ++ e.body

/-- The tag number is in the first octet. -/
def Element.Low (e : Element) : Prop := e.number < 31

/-- The first octet of a low tag. -/
def Element.tag (e : Element) : UInt8 := UInt8.ofNat (e.lead * 32 + e.number)

/-- A body that consists of elements. -/
def concat (elements : List Element) : List UInt8 := elements.flatMap Element.encode

/-! ## Numbers -/

theorem digits_fold (b n : Nat) :
    (Nat.digits b n).reverse.foldl (fun acc digit => acc * b + digit) 0 = n := by
  rw [List.foldl_reverse]
  calc (Nat.digits b n).foldr (fun digit acc => acc * b + digit) 0
      = (Nat.digits b n).foldr (fun digit acc => digit + b * acc) 0 := by
        congr 1
        funext digit acc
        rw [Nat.add_comm, Nat.mul_comm]
    _ = Nat.ofDigits b (Nat.digits b n) := by
        rw [Nat.ofDigits_eq_foldr]
        rfl
    _ = n := Nat.ofDigits_digits b n

theorem ofBigEndian_map {digits : List Nat} (small : ∀ digit ∈ digits, digit < 256) (acc : Nat) :
    (digits.map UInt8.ofNat).foldl (fun n octet => n * 256 + octet.toNat) acc =
      digits.foldl (fun n digit => n * 256 + digit) acc := by
  induction digits generalizing acc with
  | nil => rfl
  | cons digit rest ih =>
      have bound := small digit List.mem_cons_self
      have value : (UInt8.ofNat digit).toNat = digit := by
        rw [UInt8.toNat_ofNat']
        omega
      rw [List.map_cons, List.foldl_cons, List.foldl_cons, value,
        ih fun d mem => small d (List.mem_cons_of_mem _ mem)]

theorem ofBigEndian_bigEndian (n : Nat) : ofBigEndian (bigEndian n) = n := by
  unfold ofBigEndian bigEndian
  rw [ofBigEndian_map ?_ 0, digits_fold]
  intro digit mem
  exact Nat.digits_lt_base (by decide) (List.mem_reverse.mp mem)

theorem length_bigEndian_le {n k : Nat} (small : n < 256 ^ k) : (bigEndian n).length ≤ k := by
  unfold bigEndian
  rw [List.length_map, List.length_reverse]
  exact (Nat.digits_length_le_iff (by decide) n).mpr small

theorem bigEndian_ne_nil {n : Nat} (nonzero : n ≠ 0) : bigEndian n ≠ [] := by
  unfold bigEndian
  simpa using Nat.digits_ne_nil_iff_ne_zero.mpr nonzero

/-! ## Octets -/

theorem tag_and (lead : Fin 8) {number : Nat} (small : number < 32) :
    UInt8.ofNat (lead * 32 + number) &&& 0x1F = UInt8.ofNat number := by
  have table : ∀ lead : Fin 8, ∀ number : Fin 32,
      UInt8.ofNat (lead * 32 + number) &&& 0x1F = UInt8.ofNat number := by
    decide +kernel
  exact table lead ⟨number, small⟩

theorem tag_low {number : Nat} (low : number < 31) : UInt8.ofNat number ≠ 0x1F := by
  intro same
  have value : (UInt8.ofNat number).toNat = 31 := congrArg UInt8.toNat same
  rw [UInt8.toNat_ofNat'] at value
  omega

theorem digit_bits {digit : Nat} (small : digit < 128) :
    (UInt8.ofNat (digit + 128) &&& 0x7F).toNat = digit ∧ UInt8.ofNat (digit + 128) &&& 0x80 ≠ 0 ∧
      (UInt8.ofNat digit &&& 0x7F).toNat = digit ∧ UInt8.ofNat digit &&& 0x80 = 0 := by
  have table : ∀ digit : Fin 128,
      (UInt8.ofNat (digit + 128) &&& 0x7F).toNat = digit ∧ UInt8.ofNat (digit + 128) &&& 0x80 ≠ 0 ∧
        (UInt8.ofNat digit &&& 0x7F).toNat = digit ∧ UInt8.ofNat digit &&& 0x80 = 0 := by
    decide +kernel
  exact table ⟨digit, small⟩

/-! ## What stands for an element -/

/-- The low seven bits, most significant first. -/
def ofBase128 (octets : List UInt8) : Nat :=
  octets.foldl (fun n octet => n * 128 + (octet &&& 0x7F).toNat) 0

/-- Identifier octets of a tag number. It is in the first one, or in those behind it, of which the
last has no high bit. -/
inductive IsIdentifier : Nat → List UInt8 → Prop
  | low {first : UInt8} (low : first &&& 0x1F ≠ 0x1F) :
      IsIdentifier (first &&& 0x1F).toNat [first]
  | high {first last : UInt8} {digits : List UInt8} (high : first &&& 0x1F = 0x1F)
      (goOn : ∀ digit ∈ digits, digit &&& 0x80 ≠ 0) (ends : last &&& 0x80 = 0) :
      IsIdentifier (ofBase128 (digits ++ [last])) (first :: (digits ++ [last]))

/-- Octets of a length: one, or the number of the others, be that none, and these. -/
inductive IsLength : Nat → List UInt8 → Prop
  | short {first : UInt8} (alone : first &&& 0x80 = 0) : IsLength first.toNat [first]
  | long {first : UInt8} {octets : List UInt8} (more : first &&& 0x80 ≠ 0)
      (count : (first &&& 0x7F).toNat = octets.length) :
      IsLength (ofBigEndian octets) (first :: octets)

/-- The octets of an element with this tag number and body. -/
def IsElement (number : Nat) (body octets : List UInt8) : Prop :=
  ∃ tag length, IsIdentifier number tag ∧ IsLength body.length length ∧
    octets = tag ++ (length ++ body)

theorem ofBase128_digits {digits : List Nat} (small : ∀ digit ∈ digits, digit < 128) (acc : Nat) :
    (digits.map fun digit => UInt8.ofNat (digit + 128)).foldl
        (fun n octet => n * 128 + (octet &&& 0x7F).toNat) acc =
      digits.foldl (fun n digit => n * 128 + digit) acc := by
  induction digits generalizing acc with
  | nil => rfl
  | cons digit rest ih =>
      obtain ⟨value, -⟩ := digit_bits (small digit List.mem_cons_self)
      rw [List.map_cons, List.foldl_cons, List.foldl_cons, value,
        ih fun d mem => small d (List.mem_cons_of_mem _ mem)]

theorem ofBase128_base128 (n : Nat) : ofBase128 (base128 n) = n := by
  have small : ∀ digit ∈ (Nat.digits 128 (n / 128)).reverse, digit < 128 := fun digit mem =>
    Nat.digits_lt_base (by decide) (List.mem_reverse.mp mem)
  obtain ⟨-, -, value, -⟩ := digit_bits (Nat.mod_lt n (show 0 < 128 by decide))
  unfold ofBase128 base128
  rw [List.foldl_append, ofBase128_digits small, List.foldl_cons, List.foldl_nil, value,
    digits_fold]
  omega

theorem isIdentifier_identifier (lead : Fin 8) (number : Nat) :
    IsIdentifier number (identifier lead number) := by
  unfold identifier
  split_ifs with low
  · have value : (UInt8.ofNat (lead * 32 + number) &&& 0x1F).toNat = number := by
      rw [tag_and lead (by omega), UInt8.toNat_ofNat', Nat.mod_eq_of_lt (by omega)]
    have isLow : UInt8.ofNat (lead * 32 + number) &&& 0x1F ≠ 0x1F := by
      rw [tag_and lead (by omega)]
      exact tag_low low
    have made := IsIdentifier.low isLow
    rwa [value] at made
  · have isHigh : UInt8.ofNat (lead * 32 + 31) &&& 0x1F = 0x1F := by
      rw [tag_and lead (by decide)]
      rfl
    obtain ⟨-, -, -, ends⟩ := digit_bits (Nat.mod_lt number (show 0 < 128 by decide))
    have goOn : ∀ digit ∈ (Nat.digits 128 (number / 128)).reverse.map
        fun digit => UInt8.ofNat (digit + 128), digit &&& 0x80 ≠ 0 := by
      intro octet mem
      obtain ⟨digit, isDigit, rfl⟩ := List.mem_map.mp mem
      exact (digit_bits (Nat.digits_lt_base (by decide) (List.mem_reverse.mp isDigit))).2.1
    have made := IsIdentifier.high isHigh goOn ends
    have value := ofBase128_base128 number
    unfold base128 at value ⊢
    rwa [value] at made

/-- A length that is encoded, and of how many octets. -/
theorem isLength_lengthOctets {n : Nat} (short : n < 2 ^ 32) :
    IsLength n (lengthOctets n) ∧ lengthOctets n ≠ [0x80] ∧ (lengthOctets n).length ≤ 5 := by
  unfold lengthOctets
  split_ifs with one
  · obtain ⟨-, -, -, alone⟩ := digit_bits one
    have made := IsLength.short alone
    rw [UInt8.toNat_ofNat', Nat.mod_eq_of_lt (by omega)] at made
    refine ⟨made, ?_, Nat.le_add_left 1 4⟩
    intro same
    rw [(List.cons.inj same).1] at alone
    exact absurd alone (by decide)
  · have few : (bigEndian n).length ≤ 4 := length_bigEndian_le short
    obtain ⟨count, more, -⟩ := digit_bits (show (bigEndian n).length < 128 by omega)
    rw [Nat.add_comm] at count more
    have made := IsLength.long more count
    rw [ofBigEndian_bigEndian] at made
    refine ⟨made, ?_, by rw [List.length_cons]; omega⟩
    exact fun same => bigEndian_ne_nil (by omega) (List.cons.inj same).2

theorem isElement_encode (e : Element) : IsElement e.number e.body e.encode :=
  ⟨_, _, isIdentifier_identifier e.lead e.number, (isLength_lengthOctets e.short).1,
    List.append_assoc _ _ _⟩

theorem concat_cons (e : Element) (rest : List Element) :
    concat (e :: rest) = e.encode ++ concat rest := List.flatMap_cons

/-! ## Octets that are cut off -/

/-- Octets that end before the end of their first element, with its tag number and what there is of
its body if the length is begun. -/
inductive Cut : List UInt8 → Option (Nat × List UInt8) → Prop
  | tag {first : UInt8} {digits : List UInt8} (high : first &&& 0x1F = 0x1F)
      (goOn : ∀ digit ∈ digits, digit &&& 0x80 ≠ 0) : Cut (first :: digits) none
  | noLength {number : Nat} {tag : List UInt8} (isTag : IsIdentifier number tag) : Cut tag none
  | length {number : Nat} {tag octets : List UInt8} {first : UInt8}
      (isTag : IsIdentifier number tag) (more : first &&& 0x80 ≠ 0)
      (few : octets.length < (first &&& 0x7F).toNat) :
      Cut (tag ++ first :: octets) (some (number, []))
  | body {number n : Nat} {tag length body : List UInt8} (isTag : IsIdentifier number tag)
      (isLength : IsLength n length) (few : body.length < n) :
      Cut (tag ++ (length ++ body)) (some (number, body))

theorem digits_cases (octets : List UInt8) :
    (∃ digits last rest, octets = digits ++ last :: rest ∧ (∀ digit ∈ digits, digit &&& 0x80 ≠ 0) ∧
        last &&& 0x80 = 0) ∨
      ∀ digit ∈ octets, digit &&& 0x80 ≠ 0 := by
  induction octets with
  | nil => exact .inr fun _ mem => absurd mem List.not_mem_nil
  | cons first rest ih =>
      by_cases ends : first &&& 0x80 = 0
      · exact .inl ⟨[], first, rest, rfl, fun _ mem => absurd mem List.not_mem_nil, ends⟩
      · rcases ih with ⟨digits, last, rest, rfl, goOn, isLast⟩ | goOn
        · exact .inl ⟨first :: digits, last, rest, rfl, List.forall_mem_cons.mpr ⟨ends, goOn⟩,
            isLast⟩
        · exact .inr (List.forall_mem_cons.mpr ⟨ends, goOn⟩)

theorem identifier_cases (first : UInt8) (octets : List UInt8) :
    (∃ number tag rest, IsIdentifier number tag ∧ first :: octets = tag ++ rest) ∨
      Cut (first :: octets) none := by
  by_cases high : first &&& 0x1F = 0x1F
  · rcases digits_cases octets with ⟨digits, last, rest, rfl, goOn, ends⟩ | goOn
    · refine .inl ⟨_, _, rest, .high high goOn ends, ?_⟩
      rw [List.cons_append, List.append_assoc, List.singleton_append]
    · exact .inr (.tag high goOn)
  · exact .inl ⟨_, _, octets, .low high, rfl⟩

theorem length_cases (first : UInt8) (octets : List UInt8) :
    (∃ n length rest, IsLength n length ∧ first :: octets = length ++ rest) ∨
      (first &&& 0x80 ≠ 0 ∧ octets.length < (first &&& 0x7F).toNat) := by
  by_cases alone : first &&& 0x80 = 0
  · exact .inl ⟨_, _, octets, .short alone, rfl⟩
  · by_cases few : octets.length < (first &&& 0x7F).toNat
    · exact .inr ⟨alone, few⟩
    · have count : (first &&& 0x7F).toNat = (octets.take (first &&& 0x7F).toNat).length := by
        rw [List.length_take]
        omega
      refine .inl ⟨_, _, octets.drop (first &&& 0x7F).toNat, .long alone count, ?_⟩
      rw [List.cons_append, List.take_append_drop]

/-- **Octets start with an element, or they are cut off within one.** -/
theorem cut_cases {octets : List UInt8} (nonempty : octets ≠ []) :
    (∃ number body element rest, IsElement number body element ∧ octets = element ++ rest) ∨
      ∃ begun, Cut octets begun := by
  obtain ⟨first, octets, rfl⟩ := List.exists_cons_of_ne_nil nonempty
  rcases identifier_cases first octets with ⟨number, tag, data, isTag, split⟩ | cut
  · rw [split]
    cases data with
    | nil =>
        rw [List.append_nil]
        exact .inr ⟨_, .noLength isTag⟩
    | cons first data =>
        rcases length_cases first data with ⟨n, length, data, isLength, split⟩ | ⟨more, few⟩
        · rw [split]
          by_cases few : data.length < n
          · exact .inr ⟨_, .body isTag isLength few⟩
          · have whole : (data.take n).length = n := by
              rw [List.length_take]
              omega
            refine .inl ⟨number, data.take n, _, data.drop n,
              ⟨tag, length, isTag, whole.symm ▸ isLength, rfl⟩, ?_⟩
            rw [List.append_assoc, List.append_assoc, List.take_append_drop]
        · exact .inr ⟨_, .length isTag more few⟩
  · exact .inr ⟨_, cut⟩

end DoorsControl.Kit.Der
