import Mathlib.Data.List.Basic
import Mathlib.Data.List.Lemmas

/-!
# Text and bytes

`Text` is a Python `str`: a list of code points in which lone surrogates are
allowed, since `json.loads` makes them out of escapes. A PostgreSQL `text` value
is a `Text` without them. `utf8` writes the bytes; `encodeUtf8` is
`str.encode("utf-8")`, which refuses surrogates.

Numbers, UUIDs and base64 are printed by the same functions on both sides of a
wire, as plain character lists: `chars` reads such a list as a `Text` and
`asciiBytes` as bytes, and `utf8_chars` says that the two agree.
-/

namespace DoorsControl

abbrev Bytes := List UInt8

/-- A Unicode code point, surrogates included. -/
abbrev CodePoint := Fin 0x110000

/-- A Python `str`. -/
abbrev Text := List CodePoint

instance neZeroCodePoint : @NeZero Nat Zero.ofOfNat0 0x110000 := ⟨by decide⟩
instance lawfulBytes : LawfulBEq Bytes := inferInstance
instance lawfulText : LawfulBEq Text := inferInstance

def codePoint (c : Char) : CodePoint := Fin.ofNat 0x110000 c.toNat

def chars (cs : List Char) : Text := cs.map codePoint

/-- A string literal of the source as a `str`. -/
def text (s : String) : Text := chars s.toList

def asciiBytes (cs : List Char) : Bytes := cs.map fun c => UInt8.ofNat c.toNat

/-- An ASCII literal of the source as bytes. -/
def ascii (s : String) : Bytes := asciiBytes s.toList

/-! ## UTF-8 -/

def isSurrogate (c : CodePoint) : Bool := 0xD800 ≤ c.val && c.val ≤ 0xDFFF

def utf8Char (c : CodePoint) : Bytes :=
  let n := c.val
  if n < 0x80 then [UInt8.ofNat n]
  else if n < 0x800 then [UInt8.ofNat (0xC0 + n / 64), UInt8.ofNat (0x80 + n % 64)]
  else if n < 0x10000 then
    [UInt8.ofNat (0xE0 + n / 4096), UInt8.ofNat (0x80 + n / 64 % 64),
      UInt8.ofNat (0x80 + n % 64)]
  else
    [UInt8.ofNat (0xF0 + n / 262144), UInt8.ofNat (0x80 + n / 4096 % 64),
      UInt8.ofNat (0x80 + n / 64 % 64), UInt8.ofNat (0x80 + n % 64)]

def utf8 (s : Text) : Bytes := s.flatMap utf8Char

/-- `str.encode("utf-8")`; `none` is its `UnicodeEncodeError`. -/
def encodeUtf8 (s : Text) : Option Bytes :=
  if s.any isSurrogate then none else some (utf8 s)

@[simp] theorem utf8_nil : utf8 [] = [] := rfl

@[simp] theorem utf8_cons (c : CodePoint) (s : Text) :
    utf8 (c :: s) = utf8Char c ++ utf8 s := rfl

@[simp] theorem utf8_append (s t : Text) : utf8 (s ++ t) = utf8 s ++ utf8 t := by
  simp [utf8]

theorem utf8_of_encodeUtf8 {s : Text} {bytes : Bytes} (h : encodeUtf8 s = some bytes) :
    utf8 s = bytes := by
  unfold encodeUtf8 at h
  split at h
  · cases h
  · exact Option.some.inj h

/-- A code point below 0x80 is its own byte. -/
theorem utf8Char_ascii {c : CodePoint} (small : c.val < 0x80) :
    utf8Char c = [UInt8.ofNat c.val] := by
  simp [utf8Char, small]

/-- Every other code point starts with a byte from 0x80 on, and has no smaller
byte after it. -/
theorem utf8Char_high {c : CodePoint} (large : ¬ c.val < 0x80) :
    ∀ b ∈ utf8Char c, 0x80 ≤ b.toNat := by
  have bound := c.isLt
  intro b mem
  simp only [utf8Char, large, if_false] at mem
  split at mem
  · simp only [List.mem_cons, List.not_mem_nil, or_false] at mem
    rcases mem with rfl | rfl <;> simp <;> omega
  · split at mem
    · simp only [List.mem_cons, List.not_mem_nil, or_false] at mem
      rcases mem with rfl | rfl | rfl <;> simp <;> omega
    · simp only [List.mem_cons, List.not_mem_nil, or_false] at mem
      rcases mem with rfl | rfl | rfl | rfl <;> simp <;> omega

theorem utf8Char_ne_nil (c : CodePoint) : utf8Char c ≠ [] := by
  simp only [utf8Char]
  split_ifs <;> simp

/-- ASCII characters only. -/
def AsciiOnly (cs : List Char) : Prop := ∀ c ∈ cs, c.toNat < 0x80

instance (cs : List Char) : Decidable (AsciiOnly cs) :=
  List.decidableBAll (fun c : Char => c.toNat < 0x80) cs

theorem codePoint_val {c : Char} (small : c.toNat < 0x80) : (codePoint c).val = c.toNat := by
  simp only [codePoint, Fin.ofNat]
  omega

theorem utf8_chars {cs : List Char} (small : AsciiOnly cs) :
    utf8 (chars cs) = asciiBytes cs := by
  induction cs with
  | nil => rfl
  | cons c rest ih =>
      have head : c.toNat < 0x80 := small c (by simp)
      have tail : AsciiOnly rest := fun d mem => small d (by simp [mem])
      have value := codePoint_val head
      have one : utf8Char (codePoint c) = [UInt8.ofNat c.toNat] := by
        rw [utf8Char_ascii (by omega), value]
      show utf8Char (codePoint c) ++ utf8 (chars rest) = _
      rw [one, ih tail]
      rfl

/-- Bytes that are all ASCII come from one text only. -/
theorem eq_chars_of_utf8 {s : Text} {cs : List Char} (small : AsciiOnly cs)
    (h : utf8 s = asciiBytes cs) : s = chars cs := by
  induction s generalizing cs with
  | nil =>
      cases cs with
      | nil => rfl
      | cons c rest => simp [asciiBytes] at h
  | cons a s ih =>
      by_cases low : a.val < 0x80
      · rw [utf8_cons, utf8Char_ascii low] at h
        cases cs with
        | nil => simp [asciiBytes] at h
        | cons c rest =>
            have head : c.toNat < 0x80 := small c (by simp)
            simp only [asciiBytes, List.map_cons, List.singleton_append, List.cons.injEq] at h
            have same : a.val = c.toNat := by
              have := congrArg UInt8.toNat h.1
              simp only [UInt8.toNat_ofNat'] at this
              omega
            have heads : a = codePoint c := Fin.ext (by rw [codePoint_val head, same])
            have tails := ih (fun d mem => small d (by simp [mem])) h.2
            rw [heads, tails]
            rfl
      · -- a multi-byte code point starts with a byte no ASCII text has
        exfalso
        rw [utf8_cons] at h
        obtain ⟨b, more, shape⟩ := List.exists_cons_of_ne_nil (utf8Char_ne_nil a)
        have high := utf8Char_high low b (by simp [shape])
        have mem : b ∈ asciiBytes cs := by simp [← h, shape]
        obtain ⟨c, inside, rfl⟩ := List.mem_map.mp mem
        have := small c inside
        simp only [UInt8.toNat_ofNat'] at high
        omega

/-! ## Numbers and UUIDs -/

/-- Decimal digits, as `int.__repr__`, Arduino's `String(n)` and `bigint::text`
print them. -/
def decimal (i : Int) : List Char :=
  if i < 0 then '-' :: Nat.toDigits 10 i.natAbs else Nat.toDigits 10 i.natAbs

theorem digit_bounds {c : Char} (h : c.isDigit = true) : 48 ≤ c.toNat ∧ c.toNat ≤ 57 := by
  simp only [Char.isDigit, Bool.and_eq_true, decide_eq_true_eq] at h
  exact ⟨h.1, h.2⟩

theorem toDigits_isDigit (n : Nat) : ∀ c ∈ Nat.toDigits 10 n, c.isDigit = true :=
  fun _ mem => Nat.isDigit_of_mem_toDigits (by decide) (by decide) mem

/-- Digits and the minus sign: all that a decimal consists of. -/
def isDecimalChar (c : Char) : Bool := c.isDigit || c == '-'

theorem decimal_chars (i : Int) : ∀ c ∈ decimal i, isDecimalChar c = true := by
  intro c mem
  unfold decimal at mem
  split at mem
  · rcases List.mem_cons.mp mem with rfl | mem
    · rfl
    · simp [isDecimalChar, toDigits_isDigit _ c mem]
  · simp [isDecimalChar, toDigits_isDigit _ c mem]

theorem isDecimalChar_small {c : Char} (h : isDecimalChar c = true) : c.toNat < 0x80 := by
  simp only [isDecimalChar, Bool.or_eq_true, beq_iff_eq] at h
  rcases h with h | rfl
  · have := digit_bounds h
    omega
  · decide

theorem decimal_ascii (i : Int) : AsciiOnly (decimal i) :=
  fun c mem => isDecimalChar_small (decimal_chars i c mem)

theorem toDigits_inj {m n : Nat} (h : Nat.toDigits 10 m = Nat.toDigits 10 n) : m = n := by
  have := congrArg (Nat.ofDigitChars 10 · 0) h
  simpa [Nat.ofDigitChars_ten_toDigits] using this

theorem decimal_inj {i j : Int} (h : decimal i = decimal j) : i = j := by
  have signed : ∀ m n, '-' :: Nat.toDigits 10 m ≠ Nat.toDigits 10 n := by
    intro m n eq
    have := toDigits_isDigit n '-' (eq ▸ List.mem_cons_self)
    exact absurd this (by decide)
  unfold decimal at h
  split at h <;> split at h
  · have := toDigits_inj (List.cons.inj h).2
    omega
  · exact absurd h (signed _ _)
  · exact absurd h.symm (signed _ _)
  · have := toDigits_inj h
    omega

/-- A 128-bit UUID. -/
abbrev Uuid := BitVec 128

instance lawfulUuid : LawfulBEq Uuid := inferInstance

def hexDigit (n : Nat) : Char := ("0123456789abcdef".toList).getD (n % 16) '0'

/-- `width` hex digits of `n`, most significant first. -/
def hexDigits : Nat → Nat → List Char
  | 0, _ => []
  | width + 1, n => hexDigits width (n / 16) ++ [hexDigit n]

/-- `str(uuid)`: 8-4-4-4-12 lower-case hex digits. -/
def uuidChars (u : Uuid) : List Char :=
  let n := u.toNat
  hexDigits 8 (n >>> 96) ++ '-' :: hexDigits 4 (n >>> 80) ++ '-' :: hexDigits 4 (n >>> 64) ++
    '-' :: hexDigits 4 (n >>> 48) ++ '-' :: hexDigits 12 n

def uuidText (u : Uuid) : Text := chars (uuidChars u)

example : uuidText 0x123e4567e89b12d3a456426614174000 =
    text "123e4567-e89b-12d3-a456-426614174000" := by decide

/-- Different characters are different code points. -/
theorem codePoint_inj {c d : Char} (same : codePoint c = codePoint d) : c = d := by
  have validC : c.toNat < 0xd800 ∨ 0xdfff < c.toNat ∧ c.toNat < 0x110000 := c.valid
  have validD : d.toNat < 0xd800 ∨ 0xdfff < d.toNat ∧ d.toNat < 0x110000 := d.valid
  have value : c.toNat % 0x110000 = d.toNat % 0x110000 := congrArg Fin.val same
  refine Char.ext (UInt32.toNat_inj.mp ?_)
  show c.toNat = d.toNat
  omega

theorem chars_inj {a b : List Char} (same : chars a = chars b) : a = b :=
  List.map_injective_iff.mpr (fun _ _ => codePoint_inj) same

theorem length_hexDigits (width n : Nat) : (hexDigits width n).length = width := by
  induction width generalizing n with
  | zero => rfl
  | succ width ih => rw [hexDigits, List.length_append, ih, List.length_singleton]

theorem hexDigit_inj : ∀ m n : Fin 16, hexDigit m = hexDigit n → m = n := by
  decide +kernel

theorem hexDigits_mod {width m n : Nat} (same : hexDigits width m = hexDigits width n) :
    m % Nat.pow 16 width = n % Nat.pow 16 width := by
  induction width generalizing m n with
  | zero =>
      show m % 1 = n % 1
      rw [Nat.mod_one, Nat.mod_one]
  | succ width ih =>
      obtain ⟨front, last⟩ := List.append_inj' same rfl
      have digit : hexDigit (m % 16) = hexDigit (n % 16) := by
        simpa [hexDigit] using (List.cons.inj last).1
      have low : m % 16 = n % 16 := Fin.val_eq_of_eq
        (hexDigit_inj ⟨m % 16, Nat.mod_lt _ (by decide)⟩ ⟨n % 16, Nat.mod_lt _ (by decide)⟩ digit)
      show m % (Nat.pow 16 width * 16) = n % (Nat.pow 16 width * 16)
      rw [Nat.mul_comm, Nat.mod_mul, Nat.mod_mul, low, ih front]

theorem uuidChars_inj {a b : Uuid} (same : uuidChars a = uuidChars b) : a = b := by
  simp only [uuidChars, List.append_assoc, List.cons_append] at same
  obtain ⟨first, same⟩ := List.append_inj same (by simp only [length_hexDigits])
  obtain ⟨second, same⟩ := List.append_inj (List.cons.inj same).2 (by simp only [length_hexDigits])
  obtain ⟨third, same⟩ := List.append_inj (List.cons.inj same).2 (by simp only [length_hexDigits])
  obtain ⟨fourth, same⟩ := List.append_inj (List.cons.inj same).2 (by simp only [length_hexDigits])
  have first : _ % 0x100000000 = _ % 0x100000000 := hexDigits_mod first
  have second : _ % 0x10000 = _ % 0x10000 := hexDigits_mod second
  have third : _ % 0x10000 = _ % 0x10000 := hexDigits_mod third
  have fourth : _ % 0x10000 = _ % 0x10000 := hexDigits_mod fourth
  have fifth : _ % 0x1000000000000 = _ % 0x1000000000000 := hexDigits_mod (List.cons.inj same).2
  simp only [Nat.shiftRight_eq_div_pow] at first second third fourth
  have smallA := a.isLt
  have smallB := b.isLt
  refine BitVec.eq_of_toNat_eq ?_
  omega

theorem uuidText_inj {a b : Uuid} (same : uuidText a = uuidText b) : a = b :=
  uuidChars_inj (chars_inj same)

end DoorsControl
