import DoorsControl.Data.LoadsReturns
import DoorsControl.Data.Utf8

/-!
# Reading UTF-8

`bytes.decode("utf-8")`, strict: shortest forms only, no surrogates, nothing beyond U+10FFFF.

* `decodeUtf8_iff` — **decoding and encoding are inverse to each other**.
-/

namespace DoorsControl

/-- A byte that goes on with a character. -/
def isTail (b : UInt8) : Bool := 0x80 ≤ b.toNat && b.toNat ≤ 0xbf

/-- The number in two bytes, in three and in four. -/
def two (a b : UInt8) : Nat := (a.toNat - 0xc0) * 64 + (b.toNat - 0x80)

def three (a b c : UInt8) : Nat :=
  (a.toNat - 0xe0) * 4096 + (b.toNat - 0x80) * 64 + (c.toNat - 0x80)

def four (a b c d : UInt8) : Nat :=
  (a.toNat - 0xf0) * 262144 + (b.toNat - 0x80) * 4096 + (c.toNat - 0x80) * 64 + (d.toNat - 0x80)

/-- Three bytes that are a character. -/
def isThree (a b c : UInt8) : Bool :=
  0xe0 ≤ a.toNat && a.toNat ≤ 0xef && isTail b && isTail c && 0x800 ≤ three a b c &&
    !(0xd800 ≤ three a b c && three a b c ≤ 0xdfff)

def isFour (a b c d : UInt8) : Bool :=
  0xf0 ≤ a.toNat && a.toNat ≤ 0xf4 && isTail b && isTail c && isTail d &&
    0x10000 ≤ four a b c d && four a b c d ≤ 0x10ffff

/-- `bytes.decode("utf-8")`; `none` is its `UnicodeDecodeError`. -/
def decodeUtf8 : Bytes → Option Text
  | [] => some []
  | a :: rest =>
      if a.toNat < 0x80 then (decodeUtf8 rest).map (Fin.ofNat 0x110000 a.toNat :: ·)
      else
        match rest with
        | [] => none
        | b :: rest =>
            if 0xc2 ≤ a.toNat ∧ a.toNat ≤ 0xdf then
              if isTail b then (decodeUtf8 rest).map (Fin.ofNat 0x110000 (two a b) :: ·) else none
            else
              match rest with
              | [] => none
              | c :: rest =>
                  if isThree a b c then
                    (decodeUtf8 rest).map (Fin.ofNat 0x110000 (three a b c) :: ·)
                  else
                    match rest with
                    | [] => none
                    | d :: rest =>
                        if isFour a b c d then
                          (decodeUtf8 rest).map (Fin.ofNat 0x110000 (four a b c d) :: ·)
                        else none

theorem decodeUtf8_one {a : UInt8} (low : a.toNat < 0x80) (rest : Bytes) :
    decodeUtf8 (a :: rest) = (decodeUtf8 rest).map (Fin.ofNat 0x110000 a.toNat :: ·) := by
  rw [decodeUtf8.eq_def]
  exact if_pos low

theorem decodeUtf8_two {a b : UInt8} (lead : 0xc2 ≤ a.toNat ∧ a.toNat ≤ 0xdf)
    (tail : isTail b = true) (rest : Bytes) :
    decodeUtf8 (a :: b :: rest) = (decodeUtf8 rest).map (Fin.ofNat 0x110000 (two a b) :: ·) := by
  rw [decodeUtf8.eq_def]
  dsimp only
  rw [if_neg (by omega), if_pos lead, if_pos tail]

theorem decodeUtf8_three {a b c : UInt8} (valid : isThree a b c = true) (rest : Bytes) :
    decodeUtf8 (a :: b :: c :: rest) =
      (decodeUtf8 rest).map (Fin.ofNat 0x110000 (three a b c) :: ·) := by
  have lead := valid
  simp only [isThree, Bool.and_eq_true, decide_eq_true_eq] at lead
  rw [decodeUtf8.eq_def]
  dsimp only
  rw [if_neg (by omega), if_neg (by omega), if_pos valid]

theorem decodeUtf8_four {a b c d : UInt8} (valid : isFour a b c d = true) (rest : Bytes) :
    decodeUtf8 (a :: b :: c :: d :: rest) =
      (decodeUtf8 rest).map (Fin.ofNat 0x110000 (four a b c d) :: ·) := by
  have lead := valid
  simp only [isFour, Bool.and_eq_true, decide_eq_true_eq] at lead
  have notThree : ¬ isThree a b c = true := by
    simp only [isThree, Bool.and_eq_true, decide_eq_true_eq]
    omega
  rw [decodeUtf8.eq_def]
  dsimp only
  rw [if_neg (by omega), if_neg (by omega), if_neg notThree, if_pos valid]

theorem toNat_byte {n : Nat} (small : n < 256) : (UInt8.ofNat n).toNat = n := by
  rw [UInt8.toNat_ofNat']
  exact Nat.mod_eq_of_lt small

theorem isThree_bytes {a b c : UInt8} {n : Nat} (first : a.toNat = 0xe0 + n / 4096)
    (second : b.toNat = 0x80 + n / 64 % 64) (third : c.toNat = 0x80 + n % 64)
    (low : 0x800 ≤ n) (high : n < 0x10000) (apart : n < 0xd800 ∨ 0xdfff < n) :
    isThree a b c = true ∧ three a b c = n := by
  have value : three a b c = n := by
    unfold three
    omega
  refine ⟨?_, value⟩
  simp only [isThree, isTail, value, Bool.and_eq_true, decide_eq_true_eq, Bool.not_eq_true',
    Bool.and_eq_false_iff, decide_eq_false_iff_not]
  omega

theorem isFour_bytes {a b c d : UInt8} {n : Nat} (first : a.toNat = 0xf0 + n / 262144)
    (second : b.toNat = 0x80 + n / 4096 % 64) (third : c.toNat = 0x80 + n / 64 % 64)
    (fourth : d.toNat = 0x80 + n % 64) (low : 0x10000 ≤ n) (high : n < 0x110000) :
    isFour a b c d = true ∧ four a b c d = n := by
  have value : four a b c d = n := by
    unfold four
    omega
  refine ⟨?_, value⟩
  simp only [isFour, isTail, value, Bool.and_eq_true, decide_eq_true_eq]
  omega

/-- A character in front. -/
theorem decodeUtf8_cons {c : CodePoint} (plain : isSurrogate c = false) (rest : Bytes) :
    decodeUtf8 (utf8Char c ++ rest) = (decodeUtf8 rest).map (c :: ·) := by
  have bound := c.isLt
  simp only [isSurrogate, Bool.and_eq_false_iff, decide_eq_false_iff_not] at plain
  have same : Fin.ofNat 0x110000 c.val = c := Fin.ext (Nat.mod_eq_of_lt c.isLt)
  unfold utf8Char
  dsimp only
  split_ifs with isOne isTwo isThree'
  · have first := toNat_byte (n := c.val) (by omega)
    refine (decodeUtf8_one (by omega) rest).trans ?_
    rw [first, same]
  · have first := toNat_byte (n := 0xC0 + c.val / 64) (by omega)
    have second := toNat_byte (n := 0x80 + c.val % 64) (by omega)
    refine (decodeUtf8_two (by omega) ?_ rest).trans ?_
    · simp only [isTail, second, Bool.and_eq_true, decide_eq_true_eq]
      omega
    · have value : two (UInt8.ofNat (0xC0 + c.val / 64)) (UInt8.ofNat (0x80 + c.val % 64)) =
          c.val := by
        unfold two
        omega
      rw [value, same]
  · obtain ⟨valid, value⟩ := isThree_bytes (n := c.val)
      (toNat_byte (by omega)) (toNat_byte (by omega)) (toNat_byte (by omega))
      (by omega) isThree' (by omega)
    refine (decodeUtf8_three valid rest).trans ?_
    rw [value, same]
  · obtain ⟨valid, value⟩ := isFour_bytes (n := c.val)
      (toNat_byte (by omega)) (toNat_byte (by omega)) (toNat_byte (by omega))
      (toNat_byte (by omega)) (by omega) bound
    refine (decodeUtf8_four valid rest).trans ?_
    rw [value, same]

theorem decodeUtf8_utf8 {s : Text} (clean : NoSurrogates s) : decodeUtf8 (utf8 s) = some s := by
  induction s with
  | nil => rfl
  | cons c s ih =>
      rw [utf8_cons, decodeUtf8_cons (clean c (by simp)), ih fun d mem => clean d (by simp [mem])]
      rfl

/-- The bytes of a character from its number. -/
theorem utf8Char_ofNat {n : Nat} (small : n < 0x110000) :
    utf8Char (Fin.ofNat 0x110000 n) =
      if n < 0x80 then [UInt8.ofNat n]
      else if n < 0x800 then [UInt8.ofNat (0xC0 + n / 64), UInt8.ofNat (0x80 + n % 64)]
      else if n < 0x10000 then
        [UInt8.ofNat (0xE0 + n / 4096), UInt8.ofNat (0x80 + n / 64 % 64), UInt8.ofNat (0x80 + n % 64)]
      else
        [UInt8.ofNat (0xF0 + n / 262144), UInt8.ofNat (0x80 + n / 4096 % 64),
          UInt8.ofNat (0x80 + n / 64 % 64), UInt8.ofNat (0x80 + n % 64)] := by
  have value : (Fin.ofNat 0x110000 n).val = n := Nat.mod_eq_of_lt small
  simp only [utf8Char, value]

theorem ofNat_eq_byte {n : Nat} {b : UInt8} (same : n = b.toNat) : UInt8.ofNat n = b := by
  rw [same, UInt8.ofNat_toNat]

theorem not_surrogate_ofNat {n : Nat} (small : n < 0x110000) (apart : n < 0xd800 ∨ 0xdfff < n) :
    isSurrogate (Fin.ofNat 0x110000 n) = false := by
  have value : (Fin.ofNat 0x110000 n).val = n := Nat.mod_eq_of_lt small
  simp only [isSurrogate, value, Bool.and_eq_false_iff, decide_eq_false_iff_not]
  omega

/-- One more character of a text that was decoded. -/
theorem encodes_cons {n : Nat} (front : Bytes) {rest : Bytes} {s : Text} (small : n < 0x110000)
    (apart : n < 0xd800 ∨ 0xdfff < n) (bytes : utf8Char (Fin.ofNat 0x110000 n) = front)
    (decoded : (decodeUtf8 rest).map (Fin.ofNat 0x110000 n :: ·) = some s)
    (ih : ∀ t, decodeUtf8 rest = some t → utf8 t = rest ∧ NoSurrogates t) :
    utf8 s = front ++ rest ∧ NoSurrogates s := by
  obtain ⟨t, read, rfl⟩ := Option.map_eq_some_iff.mp decoded
  obtain ⟨same, clean⟩ := ih t read
  refine ⟨by rw [utf8_cons, bytes, same], ?_⟩
  exact List.forall_mem_cons.mpr ⟨not_surrogate_ofNat small apart, clean⟩

theorem utf8_of_decodeUtf8 {bytes : Bytes} {s : Text} (h : decodeUtf8 bytes = some s) :
    utf8 s = bytes ∧ NoSurrogates s := by
  fun_induction decodeUtf8 bytes generalizing s with
  | case1 =>
      obtain rfl := Option.some.inj h
      exact ⟨rfl, by simp [NoSurrogates]⟩
  | case2 a rest one ih =>
      refine encodes_cons [a] (by omega) (by omega) ?_ h fun t => ih
      rw [utf8Char_ofNat (by omega), if_pos one, UInt8.ofNat_toNat]
  | case3 => cases h
  | case4 a one b rest lead tail ih =>
      simp only [isTail, Bool.and_eq_true, decide_eq_true_eq] at tail
      have value : two a b = (a.toNat - 0xc0) * 64 + (b.toNat - 0x80) := rfl
      refine encodes_cons [a, b] (by omega) (by omega) ?_ h fun t => ih
      rw [utf8Char_ofNat (by omega), if_neg (by omega), if_pos (by omega),
        ofNat_eq_byte (b := a) (by omega), ofNat_eq_byte (b := b) (by omega)]
  | case5 => cases h
  | case6 => cases h
  | case7 a one b notTwo c rest valid ih =>
      have value : three a b c =
        (a.toNat - 0xe0) * 4096 + (b.toNat - 0x80) * 64 + (c.toNat - 0x80) := rfl
      simp only [isThree, isTail, Bool.and_eq_true, decide_eq_true_eq, Bool.not_eq_true',
        Bool.and_eq_false_iff, decide_eq_false_iff_not] at valid
      refine encodes_cons [a, b, c] (by omega) (by omega) ?_ h fun t => ih
      rw [utf8Char_ofNat (by omega), if_neg (by omega), if_neg (by omega), if_pos (by omega),
        ofNat_eq_byte (b := a) (by omega), ofNat_eq_byte (b := b) (by omega),
        ofNat_eq_byte (b := c) (by omega)]
  | case8 => cases h
  | case9 a one b notTwo c notThree d rest valid ih =>
      have value : four a b c d = (a.toNat - 0xf0) * 262144 + (b.toNat - 0x80) * 4096 +
        (c.toNat - 0x80) * 64 + (d.toNat - 0x80) := rfl
      simp only [isFour, isTail, Bool.and_eq_true, decide_eq_true_eq] at valid
      refine encodes_cons [a, b, c, d] (by omega) (by omega) ?_ h fun t => ih
      rw [utf8Char_ofNat (by omega), if_neg (by omega), if_neg (by omega), if_neg (by omega),
        ofNat_eq_byte (b := a) (by omega), ofNat_eq_byte (b := b) (by omega),
        ofNat_eq_byte (b := c) (by omega), ofNat_eq_byte (b := d) (by omega)]
  | case10 => cases h

/-- **Decoding and encoding are inverse to each other.** -/
theorem decodeUtf8_iff {bytes : Bytes} {s : Text} :
    decodeUtf8 bytes = some s ↔ encodeUtf8 s = some bytes := by
  constructor
  · intro decoded
    obtain ⟨same, clean⟩ := utf8_of_decodeUtf8 decoded
    have plain : s.any isSurrogate = false := by
      rw [List.any_eq_false]
      intro c mem surrogate
      rw [clean c mem] at surrogate
      cases surrogate
    rw [encodeUtf8, plain, if_neg Bool.false_ne_true, same]
  · intro encoded
    unfold encodeUtf8 at encoded
    split_ifs at encoded with surrogate
    obtain rfl := Option.some.inj encoded
    refine decodeUtf8_utf8 ?_
    intro c mem
    cases isOne : isSurrogate c with
    | false => rfl
    | true => exact absurd (List.any_eq_true.mpr ⟨c, mem, isOne⟩) surrogate

end DoorsControl
