import DoorsControl.Data.LoadsReturns
import DoorsControl.Signer.Protocol

/-!
# Reading what was written

What `json.loads` makes of the parts of a compact JSON text: escapes, numbers, names, arrays and
objects. A printed value is read up to the comma or bracket after it (`Reads`).

* `scanOnce_int`, `scanOnce_float` — numbers;
* `parseArray_joinComma`, `parseObject_joinComma` — arrays and objects, from their elements.
-/

namespace DoorsControl.JsonReader

open Kit (Loops Turn whileLoop ended ended_ok_bind whileLoop_again whileLoop_leave)
open Signer (joinComma digitChars dumpsFloat)

/-! ## Hex digits -/

theorem hexValue?_hexDigit (n : Nat) : hexValue? (codePoint (hexDigit n)) = some (n % 16) := by
  have each : ∀ digit : Fin 16, hexValue? (codePoint (hexDigit digit)) = some digit.val := by
    decide +kernel
  have reduced : hexDigit n = hexDigit (n % 16) := by simp [hexDigit]
  rw [reduced]
  exact each ⟨n % 16, Nat.mod_lt _ (by decide)⟩

theorem hex4_hexDigits {n : Nat} (small : n < 0x10000) (rest : Text) :
    hex4 (chars (hexDigits 4 n) ++ rest) = some (n, rest) := by
  show hex4 (codePoint (hexDigit (n / 16 / 16 / 16)) :: codePoint (hexDigit (n / 16 / 16)) ::
    codePoint (hexDigit (n / 16)) :: codePoint (hexDigit n) :: rest) = _
  simp only [hex4, hexValue?_hexDigit, Option.bind_eq_bind, Option.bind_some, Option.pure_def,
    Option.some.injEq, Prod.mk.injEq, and_true]
  omega

/-! ## Digits -/

theorem isAsciiDigit_codePoint {c : Char} (h : c.isDigit = true) :
    isAsciiDigit (codePoint c) = true := by
  have bounds := digit_bounds h
  have value := codePoint_val (c := c) (by omega)
  simp only [isAsciiDigit, value, Bool.and_eq_true, decide_eq_true_eq]
  exact bounds

theorem isAsciiDigit_chars {cs : List Char} (h : ∀ c ∈ cs, c.isDigit = true) :
    ∀ c ∈ chars cs, isAsciiDigit c = true := by
  intro c mem
  obtain ⟨d, inside, rfl⟩ := List.mem_map.mp mem
  exact isAsciiDigit_codePoint (h d inside)

theorem digitsValue_chars {cs : List Char} (h : ∀ c ∈ cs, c.isDigit = true) :
    digitsValue (chars cs) = Nat.ofDigitChars 10 cs 0 := by
  have run : ∀ start, List.foldl (fun value (c : CodePoint) => 10 * value + (c.val - 48)) start
      (chars cs) = Nat.ofDigitChars 10 cs start := by
    induction cs with
    | nil => exact fun _ => rfl
    | cons c rest ih =>
        intro start
        have bounds := digit_bounds (h c (by simp))
        have value := codePoint_val (c := c) (by omega)
        show List.foldl _ (10 * start + ((codePoint c).val - 48)) (chars rest) = _
        rw [ih (fun d mem => h d (by simp [mem])), value]
        rfl
  exact run 0

/-- A number that is not zero is not written with a zero in front. -/
theorem head?_toDigits {n : Nat} (positive : 0 < n) : (Nat.toDigits 10 n).head? ≠ some '0' := by
  induction n using Nat.strongRecOn with
  | ind n ih =>
      by_cases small : n < 10
      · rw [Nat.toDigits_of_lt_base small]
        have each : ∀ digit : Fin 10, 0 < digit.val → [digit.val.digitChar].head? ≠ some '0' := by
          decide
        exact each ⟨n, small⟩ positive
      · rw [Nat.toDigits_of_base_le (by decide) (by omega), List.head?_append_of_ne_nil]
        · exact ih (n / 10) (by omega) (by omega)
        · exact Nat.toDigits_ne_nil

/-- No digit comes next. -/
def NoDigit (rest : Text) : Prop := ∀ c ∈ rest.head?, isAsciiDigit c = false

theorem takeWhile_digits {digits rest : Text} (h : ∀ c ∈ digits, isAsciiDigit c = true)
    (stop : NoDigit rest) : (digits ++ rest).takeWhile isAsciiDigit = digits := by
  induction digits with
  | nil =>
      cases rest with
      | nil => rfl
      | cons c rest => simp [stop c (by simp)]
  | cons d digits ih =>
      rw [List.cons_append, List.takeWhile_cons, if_pos (h d (by simp)),
        ih fun c mem => h c (by simp [mem])]

theorem dropWhile_digits {digits rest : Text} (h : ∀ c ∈ digits, isAsciiDigit c = true)
    (stop : NoDigit rest) : (digits ++ rest).dropWhile isAsciiDigit = rest := by
  induction digits with
  | nil =>
      cases rest with
      | nil => rfl
      | cons c rest => simp [stop c (by simp)]
  | cons d digits ih =>
      rw [List.cons_append, List.dropWhile_cons, if_pos (h d (by simp)),
        ih fun c mem => h c (by simp [mem])]

/-! ## Numbers -/

/-- What may come after a value: a comma, a bracket, or white space. -/
def Follows (rest : Text) : Prop :=
  ∀ c ∈ rest.head?, c = codePoint ',' ∨ c = codePoint ']' ∨ c = codePoint '\x7d' ∨ isSpace c = true

theorem Follows.noDigit {rest : Text} (h : Follows rest) : NoDigit rest := by
  intro c isHead
  rcases h c isHead with rfl | rfl | rfl | space
  · decide
  · decide
  · decide
  · simp only [isSpace, Bool.or_eq_true, decide_eq_true_eq] at space
    simp only [isAsciiDigit, Bool.and_eq_false_iff, decide_eq_false_iff_not]
    omega

theorem follows_cons {c : CodePoint} {rest : Text}
    (h : c = codePoint ',' ∨ c = codePoint ']' ∨ c = codePoint '\x7d' ∨ isSpace c = true) :
    Follows (c :: rest) := by
  intro d isHead
  obtain rfl : c = d := by simpa using isHead
  exact h

theorem fraction_none {rest : Text} (h : rest.head? ≠ some (codePoint '.')) :
    fraction rest = ([], rest) := by
  unfold fraction
  split
  · rename_i point c rest
    rw [if_neg]
    rintro ⟨rfl, -⟩
    exact h rfl
  · rfl

theorem exponent_none {rest : Text} (h : rest.head? ≠ some (codePoint 'e'))
    (h' : rest.head? ≠ some (codePoint 'E')) : exponent rest = ([], rest) := by
  cases rest with
  | nil => rfl
  | cons c rest =>
      rw [exponent, if_neg]
      rintro (rfl | rfl)
      · exact h rfl
      · exact h' rfl

theorem Follows.head?_ne {rest : Text} (h : Follows rest) {c : CodePoint}
    (other : c ≠ codePoint ',' ∧ c ≠ codePoint ']' ∧ c ≠ codePoint '\x7d' ∧ isSpace c = false) :
    rest.head? ≠ some c := by
  obtain ⟨comma, bracket, brace, solid⟩ := other
  intro isHead
  rcases h c isHead with same | same | same | space
  · exact comma same
  · exact bracket same
  · exact brace same
  · rw [solid] at space
    cases space

theorem Follows.fraction {rest : Text} (h : Follows rest) : fraction rest = ([], rest) :=
  fraction_none (h.head?_ne (by decide))

theorem Follows.exponent {rest : Text} (h : Follows rest) : exponent rest = ([], rest) :=
  exponent_none (h.head?_ne (by decide)) (h.head?_ne (by decide))

/-- The digits before the point, as a number is written. -/
structure Whole (whole : Text) : Prop where
  nonempty : whole ≠ []
  digits : ∀ c ∈ whole, isAsciiDigit c = true
  noZero : whole.head? = some (codePoint '0') → whole = [codePoint '0']

theorem wholeDigits_whole {whole rest : Text} (h : Whole whole) (stop : NoDigit rest) :
    wholeDigits (whole ++ rest) = some (whole, rest) := by
  obtain ⟨c, more, rfl⟩ := List.exists_cons_of_ne_nil h.nonempty
  have tail : ∀ d ∈ more, isAsciiDigit d = true := fun d mem => h.digits d (by simp [mem])
  rw [List.cons_append, wholeDigits]
  split_ifs with isZero isDigit
  · subst isZero
    obtain rfl : more = [] := (List.cons.inj (h.noZero rfl)).2
    rfl
  · rw [takeWhile_digits tail stop, dropWhile_digits tail stop]
  · exact absurd (h.digits c (by simp)) isDigit

def signText (negative : Bool) : Text := if negative then [codePoint '-'] else []

theorem minusSign_whole {whole : Text} (h : Whole whole) (negative : Bool) (rest : Text) :
    minusSign (signText negative ++ (whole ++ rest)) = (signText negative, whole ++ rest) := by
  obtain ⟨c, more, rfl⟩ := List.exists_cons_of_ne_nil h.nonempty
  cases negative with
  | true => rfl
  | false =>
      show minusSign (c :: (more ++ rest)) = _
      rw [minusSign, if_neg]
      · rfl
      · rintro rfl
        exact absurd (h.digits _ List.mem_cons_self) (by decide)

/-- A number that goes on after its digits, with a point or an exponent or neither. -/
theorem matchNumber_whole {py : Interpreter} {negative : Bool} {whole rest : Text}
    (h : Whole whole) (stop : NoDigit rest) :
    matchNumber py (signText negative ++ (whole ++ rest)) =
      if (fraction rest).1 = [] ∧ (exponent (fraction rest).2).1 = [] then do
        return (.int (← intOfDigits (signText negative) whole), (exponent (fraction rest).2).2)
      else return (.float (py.float (signText negative ++ whole ++ (fraction rest).1 ++
        (exponent (fraction rest).2).1)), (exponent (fraction rest).2).2) := by
  unfold matchNumber
  rw [minusSign_whole h]
  dsimp only
  rw [wholeDigits_whole h stop]

theorem whole_toDigits (n : Nat) : Whole (chars (Nat.toDigits 10 n)) := by
  constructor
  · simp [chars]
  · exact isAsciiDigit_chars (toDigits_isDigit n)
  · intro isZero
    by_cases zero : n = 0
    · subst zero
      rfl
    · exfalso
      refine head?_toDigits (Nat.pos_of_ne_zero zero) ?_
      rw [chars, List.head?_map, Option.map_eq_some_iff] at isZero
      obtain ⟨c, isHead, same⟩ := isZero
      rw [isHead, codePoint_inj same]

theorem chars_decimal (i : Int) :
    chars (decimal i) = signText (i < 0) ++ chars (Nat.toDigits 10 i.natAbs) := by
  unfold decimal signText
  by_cases negative : i < 0 <;> simp [negative, chars]

theorem matchNumber_decimal {py : Interpreter} {i : Int}
    (fits : i.natAbs < 10 ^ maxStrDigits) {rest : Text} (follows : Follows rest) :
    matchNumber py (chars (decimal i) ++ rest) = .ok (.int i, rest) := by
  have length : (chars (Nat.toDigits 10 i.natAbs)).length ≤ maxStrDigits := by
    rw [chars, List.length_map]
    exact (Nat.length_toDigits_le_iff (by decide) (by decide)).mpr fits
  have value : digitsValue (chars (Nat.toDigits 10 i.natAbs)) = i.natAbs := by
    rw [digitsValue_chars (toDigits_isDigit _), Nat.ofDigitChars_ten_toDigits]
  rw [chars_decimal, List.append_assoc, matchNumber_whole (whole_toDigits _) follows.noDigit,
    follows.fraction, follows.exponent, if_pos ⟨rfl, rfl⟩, intOfDigits,
    if_neg (Nat.not_lt.mpr length), value]
  by_cases negative : i < 0
  · simp only [negative, signText, decide_true, if_true, reduceCtorEq, if_false]
    show Except.ok _ = Except.ok _
    congr
    omega
  · simp only [negative, signText, decide_false, Bool.false_eq_true, if_false, if_true]
    show Except.ok _ = Except.ok _
    congr
    omega

theorem digitChars_isDigit (digits : List (Fin 10)) :
    ∀ c ∈ digitChars digits, c.isDigit = true := by
  have each : ∀ digit : Fin 10, (Char.ofNat (48 + digit.val)).isDigit = true := by decide
  intro c mem
  obtain ⟨digit, -, rfl⟩ := List.mem_map.mp mem
  exact each digit

theorem isAsciiDigit_digitChars (digits : List (Fin 10)) :
    ∀ c ∈ chars (digitChars digits), isAsciiDigit c = true :=
  isAsciiDigit_chars (digitChars_isDigit digits)

theorem fraction_digits {frac : List (Fin 10)} (nonempty : frac ≠ []) {rest : Text}
    (stop : NoDigit rest) :
    fraction (codePoint '.' :: (chars (digitChars frac) ++ rest)) =
      (codePoint '.' :: chars (digitChars frac), rest) := by
  obtain ⟨digit, more, rfl⟩ := List.exists_cons_of_ne_nil nonempty
  have isDigit : ∀ c ∈ chars (digitChars (digit :: more)), isAsciiDigit c = true :=
    isAsciiDigit_digitChars _
  have tail := isAsciiDigit_digitChars more
  show fraction (codePoint '.' :: codePoint (Char.ofNat (48 + digit.val)) ::
    (chars (digitChars more) ++ rest)) = _
  rw [fraction, if_pos ⟨rfl, isDigit _ List.mem_cons_self⟩, takeWhile_digits tail stop,
    dropWhile_digits tail stop]
  rfl

theorem exponent_digits {digits : List (Fin 10)} (nonempty : digits ≠ []) {sign : CodePoint}
    (isSign : sign = codePoint '+' ∨ sign = codePoint '-') {rest : Text} (stop : NoDigit rest) :
    exponent (codePoint 'e' :: sign :: (chars (digitChars digits) ++ rest)) =
      (codePoint 'e' :: sign :: chars (digitChars digits), rest) := by
  have isDigit := isAsciiDigit_digitChars digits
  have written : chars (digitChars digits) ≠ [] := by simpa [chars, digitChars] using nonempty
  rw [exponent, if_pos (.inl rfl)]
  dsimp only
  rw [exponentSign, if_pos isSign]
  dsimp only
  rw [takeWhile_digits isDigit stop, dropWhile_digits isDigit stop, if_neg written]
  rfl

/-- The interpreter's `float` gives the number that `repr` printed, and prints every number in the
shape that numbers have. -/
structure Interpreter.Exact (py : Interpreter) : Prop where
  float_repr : ∀ f : FloatLit, f.Shaped → py.float (chars (dumpsFloat f)) = f
  shaped : ∀ s, (py.float s).Shaped

theorem signText_chars (negative : Bool) :
    chars (if negative then ['-'] else []) = signText negative := by
  cases negative <;> rfl

theorem codePoint_zero_digit {digit : Fin 10}
    (same : codePoint (Char.ofNat (48 + digit.val)) = codePoint '0') : digit = 0 := by
  have each : ∀ digit : Fin 10, codePoint (Char.ofNat (48 + digit.val)) = codePoint '0' →
      digit = 0 := by decide +kernel
  exact each digit same

theorem whole_digitChars {digits : List (Fin 10)} (nonempty : digits ≠ [])
    (noZero : digits.head?.map Fin.val = some 0 → digits.length = 1) : Whole (chars (digitChars digits)) := by
  constructor
  · simpa [chars, digitChars] using nonempty
  · exact isAsciiDigit_digitChars digits
  · intro isZero
    obtain ⟨digit, more, rfl⟩ := List.exists_cons_of_ne_nil nonempty
    obtain rfl : digit = 0 := codePoint_zero_digit (Option.some.inj isZero)
    have one := noZero rfl
    obtain rfl : more = [] := List.length_eq_zero_iff.mp (by simpa using one)
    rfl

theorem chars_fixed (negative : Bool) (whole frac : List (Fin 10)) :
    chars (dumpsFloat (.fixed negative whole frac)) = signText negative ++
      (chars (digitChars whole) ++ codePoint '.' :: chars (digitChars frac)) := by
  simp only [dumpsFloat, chars, List.map_append, List.map_cons, List.append_assoc]
  rw [← signText_chars]
  rfl

/-- The sign of an exponent. -/
def exponentSignChar (negative : Bool) : CodePoint := codePoint (if negative then '-' else '+')

theorem chars_scientific (negative : Bool) (lead : Fin 10) (frac : List (Fin 10))
    (expNegative : Bool) (digits : List (Fin 10)) :
    chars (dumpsFloat (.scientific negative lead frac expNegative digits)) =
      signText negative ++ (chars (digitChars [lead]) ++
        ((if frac = [] then [] else codePoint '.' :: chars (digitChars frac)) ++
          codePoint 'e' :: exponentSignChar expNegative :: chars (digitChars digits))) := by
  by_cases short : frac = []
  all_goals
    simp only [dumpsFloat, short, if_true, if_false, chars, List.map_append, List.map_cons,
      List.append_assoc, List.cons_append, List.nil_append]
    rw [← signText_chars]
    rfl

theorem matchNumber_fixed {py : Interpreter} (exact : py.Exact) {negative : Bool}
    {whole frac : List (Fin 10)} (shaped : (FloatLit.fixed negative whole frac).Shaped)
    {rest : Text} (follows : Follows rest) :
    matchNumber py (chars (dumpsFloat (.fixed negative whole frac)) ++ rest) =
      .ok (.float (.fixed negative whole frac), rest) := by
  have stop : NoDigit (codePoint '.' :: (chars (digitChars frac) ++ rest)) := by
    intro c isHead
    obtain rfl : codePoint '.' = c := by simpa using isHead
    decide
  have read := exact.float_repr _ shaped
  rw [chars_fixed] at read ⊢
  rw [List.append_assoc, List.append_assoc, List.cons_append,
    matchNumber_whole (whole_digitChars shaped.1 shaped.2.1) stop,
    fraction_digits shaped.2.2 follows.noDigit, follows.exponent, if_neg (by simp)]
  simp only [List.append_nil, List.append_assoc]
  rw [read]
  rfl

theorem matchNumber_scientific {py : Interpreter} (exact : py.Exact) {negative expNegative : Bool}
    {lead : Fin 10} {frac digits : List (Fin 10)}
    (shaped : (FloatLit.scientific negative lead frac expNegative digits).Shaped)
    {rest : Text} (follows : Follows rest) :
    matchNumber py (chars (dumpsFloat (.scientific negative lead frac expNegative digits)) ++ rest) =
      .ok (.float (.scientific negative lead frac expNegative digits), rest) := by
  have isSign : exponentSignChar expNegative = codePoint '+' ∨
      exponentSignChar expNegative = codePoint '-' := by
    cases expNegative
    · exact .inl rfl
    · exact .inr rfl
  have single : Whole (chars (digitChars [lead])) := whole_digitChars (by simp) (by simp)
  have stopE : NoDigit (codePoint 'e' :: exponentSignChar expNegative ::
      (chars (digitChars digits) ++ rest)) := by
    intro c isHead
    obtain rfl : codePoint 'e' = c := by simpa using isHead
    decide
  have read := exact.float_repr _ shaped
  rw [chars_scientific] at read ⊢
  by_cases short : frac = []
  · -- no point
    simp only [short, if_true, List.nil_append, List.append_assoc, List.cons_append] at read ⊢
    rw [matchNumber_whole single stopE, fraction_none (by rw [List.head?_cons]; decide),
      exponent_digits shaped isSign follows.noDigit, if_neg (by simp)]
    simp only [List.append_nil, List.append_assoc]
    rw [read]
    rfl
  · have stop : NoDigit (codePoint '.' :: (chars (digitChars frac) ++ codePoint 'e' ::
        exponentSignChar expNegative :: (chars (digitChars digits) ++ rest))) := by
      intro c isHead
      obtain rfl : codePoint '.' = c := by simpa using isHead
      decide
    simp only [short, if_false, List.append_assoc, List.cons_append] at read ⊢
    rw [matchNumber_whole single stop, fraction_digits short stopE,
      exponent_digits shaped isSign follows.noDigit, if_neg (by simp)]
    simp only [List.append_assoc, List.cons_append]
    rw [read]
    rfl

/-! ## Values -/

/-- A printed value is read up to what may come after it, and it does not start like white space
or a bracket that closes. -/
structure Reads (scan : Text → Loops JsonError (Json Text × Text)) (printed : Text)
    (value : Json Text) : Prop where
  starts : ∀ c ∈ printed.head?, isSpace c = false ∧ c ≠ codePoint ']'
  nonempty : printed ≠ []
  reads : ∀ rest, Follows rest → scan (printed ++ rest) = ended (.ok (value, rest))

theorem Reads.skipSpace {scan : Text → Loops JsonError (Json Text × Text)} {printed : Text}
    {value : Json Text} (h : Reads scan printed value) (rest : Text) :
    skipSpace (printed ++ rest) = printed ++ rest := by
  obtain ⟨c, more, rfl⟩ := List.exists_cons_of_ne_nil h.nonempty
  rw [JsonReader.skipSpace, List.cons_append, List.dropWhile_cons, if_neg]
  rw [(h.starts c rfl).1]
  exact Bool.false_ne_true

section Flat

variable (py : Interpreter) (object array : Text → Loops JsonError (Json Text × Text))

theorem scanWith_null (rest : Text) :
    scanWith py object array (text "null" ++ rest) = ended (.ok (.null, rest)) := rfl

theorem scanWith_true (rest : Text) :
    scanWith py object array (text "true" ++ rest) = ended (.ok (.bool true, rest)) := rfl

theorem scanWith_false (rest : Text) :
    scanWith py object array (text "false" ++ rest) = ended (.ok (.bool false, rest)) := rfl

theorem scanWith_nan (rest : Text) :
    scanWith py object array (text "NaN" ++ rest) = ended (.ok (.float .nan, rest)) := rfl

theorem scanWith_infinity (negative : Bool) (rest : Text) :
    scanWith py object array (chars (dumpsFloat (.infinity negative)) ++ rest) =
      ended (.ok (.float (.infinity negative), rest)) := by
  cases negative <;> rfl

/-- The text of a number: a digit comes first, or a minus sign and a digit. -/
def NumberStart (s : Text) : Prop :=
  ∃ negative c more, s = signText negative ++ c :: more ∧ isAsciiDigit c = true

theorem scanWith_number {s : Text} (number : NumberStart s) :
    scanWith py object array s = ended (matchNumber py s) := by
  obtain ⟨negative, c, more, rfl, digit⟩ := number
  have notName : constant? (signText negative ++ c :: more) = none := by
    rw [constant?, Option.map_eq_none_iff, List.find?_eq_none]
    intro entry mem starts
    obtain ⟨after, same⟩ := List.isPrefixOf_iff_prefix.mp starts
    simp only [constants, List.mem_cons, List.not_mem_nil, or_false] at mem
    cases negative with
    | true =>
        rcases mem with rfl | rfl | rfl | rfl | rfl | rfl
        all_goals
          first
          | exact absurd (List.cons.inj same).1 (by decide)
          | skip
        obtain rfl : codePoint 'I' = c := (List.cons.inj (List.cons.inj same).2).1
        exact absurd digit (by decide)
    | false =>
        rcases mem with rfl | rfl | rfl | rfl | rfl | rfl
        all_goals
          have head := (List.cons.inj same).1
          rw [← head] at digit
          exact absurd digit (by decide)
  cases negative with
  | true =>
      show scanWith py object array (codePoint '-' :: c :: more) = _
      rw [scanWith, if_neg (by decide), if_neg (by decide), if_neg (by decide)]
      change constant? (codePoint '-' :: c :: more) = none at notName
      rw [notName]
      rfl
  | false =>
      have other : ∀ d, isAsciiDigit d = false → c ≠ d := by
        rintro d no rfl
        rw [digit] at no
        cases no
      show scanWith py object array (c :: more) = _
      rw [scanWith, if_neg (other _ (by decide)), if_neg (other _ (by decide)),
        if_neg (other _ (by decide))]
      change constant? (c :: more) = none at notName
      rw [notName]
      rfl

end Flat

theorem Whole.numberStart {whole : Text} (h : Whole whole) (negative : Bool) (rest : Text) :
    NumberStart (signText negative ++ (whole ++ rest)) := by
  obtain ⟨c, more, rfl⟩ := List.exists_cons_of_ne_nil h.nonempty
  exact ⟨negative, c, more ++ rest, rfl, h.digits c List.mem_cons_self⟩

theorem scanOnce_eq (py : Interpreter) (depth : Nat) :
    ∃ object array, scanOnce py depth = scanWith py object array := by
  cases depth with
  | zero => exact ⟨_, _, rfl⟩
  | succ depth => exact ⟨_, _, rfl⟩

section Scalars

variable (py : Interpreter) (depth : Nat)

/-- A text that starts with a letter of a name. -/
theorem reads_of_starts {printed : Text} {value : Json Text} {c : CodePoint} {more : Text}
    (shape : printed = c :: more) (other : isSpace c = false ∧ c ≠ codePoint ']')
    (reads : ∀ rest, Follows rest → scanOnce py depth (printed ++ rest) = ended (.ok (value, rest))) :
    Reads (scanOnce py depth) printed value := by
  subst shape
  refine ⟨?_, List.cons_ne_nil _ _, reads⟩
  intro d isHead
  obtain rfl : c = d := by simpa using isHead
  exact other

theorem reads_null : Reads (scanOnce py depth) (text "null") .null := by
  obtain ⟨object, array, same⟩ := scanOnce_eq py depth
  refine reads_of_starts py depth (c := codePoint 'n') rfl (by decide) ?_
  intro rest _
  rw [same, scanWith_null]

theorem reads_bool (b : Bool) :
    Reads (scanOnce py depth) (if b then text "true" else text "false") (.bool b) := by
  obtain ⟨object, array, same⟩ := scanOnce_eq py depth
  cases b with
  | true =>
      refine reads_of_starts py depth (c := codePoint 't') rfl (by decide) ?_
      intro rest _
      rw [same, if_pos rfl, scanWith_true]
  | false =>
      refine reads_of_starts py depth (c := codePoint 'f') rfl (by decide) ?_
      intro rest _
      rw [same, if_neg Bool.false_ne_true, scanWith_false]

/-- A printed number. -/
theorem reads_number {printed : Text} {value : Json Text} {negative : Bool} {whole more : Text}
    (isWhole : Whole whole) (shape : printed = signText negative ++ (whole ++ more))
    (reads : ∀ rest, Follows rest → matchNumber py (printed ++ rest) = .ok (value, rest)) :
    Reads (scanOnce py depth) printed value := by
  obtain ⟨object, array, same⟩ := scanOnce_eq py depth
  have scanned : ∀ rest, Follows rest →
      scanOnce py depth (printed ++ rest) = ended (.ok (value, rest)) := by
    intro rest follows
    have number : NumberStart (printed ++ rest) := by
      rw [shape, List.append_assoc, List.append_assoc]
      exact isWhole.numberStart negative _
    rw [same, scanWith_number py object array number, reads rest follows]
  obtain ⟨c, digits, rfl⟩ := List.exists_cons_of_ne_nil isWhole.nonempty
  cases negative with
  | true => exact reads_of_starts py depth shape (by decide) scanned
  | false =>
      refine reads_of_starts py depth shape ?_ scanned
      have digit := isWhole.digits c List.mem_cons_self
      simp only [isAsciiDigit, Bool.and_eq_true, decide_eq_true_eq] at digit
      constructor
      · simp only [isSpace, Bool.or_eq_false_iff, decide_eq_false_iff_not]
        omega
      · rintro rfl
        exact absurd digit (by decide)

theorem reads_int {i : Int} (fits : i.natAbs < 10 ^ maxStrDigits) :
    Reads (scanOnce py depth) (chars (decimal i)) (.int i) := by
  have shape : chars (decimal i) = signText (i < 0) ++ (chars (Nat.toDigits 10 i.natAbs) ++ []) := by
    rw [chars_decimal, List.append_nil]
  exact reads_number py depth (whole_toDigits i.natAbs) shape
    fun rest follows => matchNumber_decimal fits follows

theorem reads_float (exact : py.Exact) {f : FloatLit} (shaped : f.Shaped) :
    Reads (scanOnce py depth) (chars (dumpsFloat f)) (.float f) := by
  obtain ⟨object, array, same⟩ := scanOnce_eq py depth
  cases f with
  | nan =>
      refine reads_of_starts py depth (c := codePoint 'N') rfl (by decide) ?_
      intro rest _
      rw [same]
      exact scanWith_nan py object array rest
  | infinity negative =>
      have scanned : ∀ rest, Follows rest → scanOnce py depth
          (chars (dumpsFloat (.infinity negative)) ++ rest) =
            ended (.ok (.float (.infinity negative), rest)) := by
        intro rest _
        rw [same, scanWith_infinity]
      cases negative with
      | true => exact reads_of_starts py depth (c := codePoint '-') rfl (by decide) scanned
      | false => exact reads_of_starts py depth (c := codePoint 'I') rfl (by decide) scanned
  | fixed negative whole frac =>
      exact reads_number py depth (whole_digitChars shaped.1 shaped.2.1) (chars_fixed _ _ _)
        fun rest follows => matchNumber_fixed exact shaped follows
  | scientific negative lead frac expNegative digits =>
      exact reads_number py depth (whole_digitChars (by simp) (by simp)) (chars_scientific ..)
        fun rest follows => matchNumber_scientific exact shaped follows

/-- A printed string, if the escapes of its body are read as `value`. -/
theorem reads_str {body value : Text}
    (reads : ∀ rest, scanString (body ++ codePoint '"' :: rest) = ended (.ok (value, rest))) :
    Reads (scanOnce py depth) (codePoint '"' :: (body ++ [codePoint '"'])) (.str value) := by
  obtain ⟨object, array, same⟩ := scanOnce_eq py depth
  refine reads_of_starts py depth rfl (by decide) ?_
  intro rest _
  rw [same, List.cons_append, scanWith, if_pos rfl, List.append_assoc]
  show (scanString (body ++ codePoint '"' :: rest) >>= _) = _
  rw [reads rest]
  rfl

end Scalars

/-! ## Arrays and objects -/

theorem delimiter_follows (close : CodePoint) (other : isSpace close = false) (rest : Text) :
    delimiter close (close :: rest) = .ok (.leave rest) := by
  rw [delimiter, skipSpace, List.dropWhile_cons, if_neg (by rw [other]; exact Bool.false_ne_true)]
  exact if_pos rfl

theorem delimiter_comma {close : CodePoint} (other : codePoint ',' ≠ close) (rest : Text) :
    delimiter close (codePoint ',' :: rest) = .ok (.again (skipSpace rest)) := by
  rw [delimiter, skipSpace, List.dropWhile_cons, if_neg (by decide)]
  dsimp only
  rw [if_neg other, if_pos rfl]

theorem joinComma_cons_cons (item next : Text) (rest : List Text) :
    joinComma (item :: next :: rest) = item ++ codePoint ',' :: joinComma (next :: rest) := rfl

section Containers

variable {scan : Text → Loops JsonError (Json Text × Text)}

/-- The elements of an array, from any of them on. -/
theorem arrayLoop_joinComma {printed : Text} {value : Json Text} {more : List Text}
    {values : List (Json Text)} (first : Reads scan printed value)
    (others : List.Forall₂ (Reads scan) more values) (done : List (Json Text)) (rest : Text)
    {turns : Nat} (enough : more.length < turns) :
    whileLoop (arrayTurn scan) turns
        (done, joinComma (printed :: more) ++ codePoint ']' :: rest) =
      ended (.ok (.arr (done ++ value :: values), rest)) := by
  induction others generalizing printed value done turns with
  | nil =>
      obtain ⟨turns, rfl⟩ : ∃ k, turns = k + 1 := ⟨turns - 1, by omega⟩
      refine whileLoop_leave ?_
      show (scan (printed ++ codePoint ']' :: rest) >>= _) = _
      rw [first.reads _ (follows_cons (by simp))]
      rw [ended_ok_bind]
      dsimp only
      rw [delimiter_follows _ (by decide)]
      rfl
  | @cons next nextValue more values isNext others ih =>
      obtain ⟨turns, rfl⟩ : ∃ k, turns = k + 1 := ⟨turns - 1, by omega⟩
      have afterComma : skipSpace (joinComma (next :: more) ++ codePoint ']' :: rest) =
          joinComma (next :: more) ++ codePoint ']' :: rest := by
        cases more with
        | nil => exact isNext.skipSpace _
        | cons =>
            rw [joinComma_cons_cons, List.append_assoc]
            exact isNext.skipSpace _
      have ran : arrayTurn scan (done, joinComma (printed :: next :: more) ++ codePoint ']' :: rest) =
          ended (.ok (.again (done ++ [value],
            joinComma (next :: more) ++ codePoint ']' :: rest))) := by
        rw [joinComma_cons_cons, List.append_assoc, List.cons_append]
        show (scan (printed ++ codePoint ',' :: _) >>= _) = _
        rw [first.reads _ (follows_cons (by simp))]
        rw [ended_ok_bind]
        dsimp only
        rw [delimiter_comma (by decide), afterComma]
        rfl
      rw [whileLoop_again ran, ih isNext (done ++ [value]) (by simpa using enough),
        List.append_assoc]
      rfl

/-- There is a comma before every element but the first. -/
theorem length_joinComma (printed : Text) (more : List Text) :
    more.length ≤ (joinComma (printed :: more)).length := by
  induction more generalizing printed with
  | nil => exact Nat.zero_le _
  | cons next more ih =>
      have := ih next
      rw [joinComma_cons_cons, List.length_append, List.length_cons, List.length_cons]
      omega

/-- **A printed array is read as the array of what its elements are read as.** -/
theorem parseArray_joinComma {printed : List Text} {values : List (Json Text)}
    (h : List.Forall₂ (Reads scan) printed values) (rest : Text) :
    parseArray scan (joinComma printed ++ codePoint ']' :: rest) =
      ended (.ok (.arr values, rest)) := by
  cases h with
  | nil => rfl
  | @cons first value more values isFirst others =>
      have start : skipSpace (joinComma (first :: more) ++ codePoint ']' :: rest) =
          joinComma (first :: more) ++ codePoint ']' :: rest := by
        cases more with
        | nil => exact isFirst.skipSpace _
        | cons =>
            rw [joinComma_cons_cons, List.append_assoc]
            exact isFirst.skipSpace _
      have head : (joinComma (first :: more) ++ codePoint ']' :: rest).head? ≠
          some (codePoint ']') := by
        obtain ⟨c, tail, rfl⟩ := List.exists_cons_of_ne_nil isFirst.nonempty
        have other := (isFirst.starts c rfl).2
        cases more <;> simpa [joinComma] using other
      rw [parseArray, start, if_neg head, arrayLoop_joinComma isFirst others [] rest]
      · rfl
      · have := length_joinComma first more
        rw [List.length_append]
        omega

/-- A printed member: a string that is read as its key, a colon, and its value. -/
def ReadsMember (scan : Text → Loops JsonError (Json Text × Text)) (printed : Text)
    (field : Text × Json Text) : Prop :=
  ∃ body value, printed = codePoint '"' :: (body ++ codePoint '"' :: codePoint ':' :: value) ∧
    (∀ rest, scanString (body ++ codePoint '"' :: rest) = ended (.ok (field.1, rest))) ∧
    Reads scan value field.2

theorem ReadsMember.skipSpace {printed : Text} {field : Text × Json Text}
    (h : ReadsMember scan printed field) (rest : Text) :
    skipSpace (printed ++ rest) = printed ++ rest := by
  obtain ⟨body, value, rfl, -, -⟩ := h
  rfl

theorem objectTurn_reads {printed : Text} {field : Text × Json Text}
    (h : ReadsMember scan printed field) (done : List (Text × Json Text)) {rest : Text}
    (follows : Follows rest) :
    objectTurn scan (done, printed ++ rest) = do
      match ← ended (delimiter (codePoint '\x7d') rest) with
      | .leave rest => return .leave (.obj (setItem done field.1 field.2), rest)
      | .again rest => return .again (setItem done field.1 field.2, rest) := by
  obtain ⟨body, value, rfl, readsKey, readsValue⟩ := h
  have colon : codePoint '"' :: (body ++ codePoint '"' :: codePoint ':' :: value) ++ rest =
      codePoint '"' :: (body ++ codePoint '"' :: (codePoint ':' :: (value ++ rest))) := by
    simp
  rw [colon, objectTurn, expect, if_pos rfl, ended_ok_bind, readsKey, ended_ok_bind]
  dsimp only
  have spaces : JsonReader.skipSpace (codePoint ':' :: (value ++ rest)) =
      codePoint ':' :: (value ++ rest) := rfl
  rw [spaces, expect, if_pos rfl, ended_ok_bind, readsValue.skipSpace, readsValue.reads rest follows]
  exact ended_ok_bind _ _

/-- Members put into a dictionary one after the other. -/
def dictOf (done fields : List (Text × Json Text)) : List (Text × Json Text) :=
  fields.foldl (fun dict field => setItem dict field.1 field.2) done

/-- The members of an object, from any of them on. -/
theorem objectLoop_joinComma {printed : Text} {field : Text × Json Text} {more : List Text}
    {fields : List (Text × Json Text)} (first : ReadsMember scan printed field)
    (others : List.Forall₂ (ReadsMember scan) more fields) (done : List (Text × Json Text))
    (rest : Text) {turns : Nat} (enough : more.length < turns) :
    whileLoop (objectTurn scan) turns
        (done, joinComma (printed :: more) ++ codePoint '\x7d' :: rest) =
      ended (.ok (.obj (dictOf done (field :: fields)), rest)) := by
  induction others generalizing printed field done turns with
  | nil =>
      obtain ⟨turns, rfl⟩ : ∃ k, turns = k + 1 := ⟨turns - 1, by omega⟩
      refine whileLoop_leave ?_
      show objectTurn scan (done, printed ++ codePoint '\x7d' :: rest) = _
      rw [objectTurn_reads first done (follows_cons (by simp)), delimiter_follows _ (by decide)]
      rfl
  | @cons next nextField more fields isNext others ih =>
      obtain ⟨turns, rfl⟩ : ∃ k, turns = k + 1 := ⟨turns - 1, by omega⟩
      have afterComma : skipSpace (joinComma (next :: more) ++ codePoint '\x7d' :: rest) =
          joinComma (next :: more) ++ codePoint '\x7d' :: rest := by
        cases more with
        | nil => exact isNext.skipSpace _
        | cons =>
            rw [joinComma_cons_cons, List.append_assoc]
            exact isNext.skipSpace _
      have ran : objectTurn scan
          (done, joinComma (printed :: next :: more) ++ codePoint '\x7d' :: rest) =
          ended (.ok (.again (setItem done field.1 field.2,
            joinComma (next :: more) ++ codePoint '\x7d' :: rest))) := by
        rw [joinComma_cons_cons, List.append_assoc, List.cons_append,
          objectTurn_reads first done (follows_cons (by simp)), delimiter_comma (by decide),
          afterComma]
        rfl
      rw [whileLoop_again ran, ih isNext (setItem done field.1 field.2) (by simpa using enough)]
      rfl

/-- **A printed object is read as the dictionary of its members.** -/
theorem parseObject_joinComma {printed : List Text} {fields : List (Text × Json Text)}
    (h : List.Forall₂ (ReadsMember scan) printed fields) (rest : Text) :
    parseObject scan (joinComma printed ++ codePoint '\x7d' :: rest) =
      ended (.ok (.obj (dictOf [] fields), rest)) := by
  cases h with
  | nil => rfl
  | @cons first field more fields isFirst others =>
      have start : skipSpace (joinComma (first :: more) ++ codePoint '\x7d' :: rest) =
          joinComma (first :: more) ++ codePoint '\x7d' :: rest := by
        cases more with
        | nil => exact isFirst.skipSpace _
        | cons =>
            rw [joinComma_cons_cons, List.append_assoc]
            exact isFirst.skipSpace _
      have head : (joinComma (first :: more) ++ codePoint '\x7d' :: rest).head? ≠
          some (codePoint '\x7d') := by
        obtain ⟨body, value, rfl, -, -⟩ := isFirst
        have other : codePoint '"' ≠ codePoint '\x7d' := by decide
        cases more <;> simpa [joinComma] using other
      rw [parseObject, start, if_neg head, objectLoop_joinComma isFirst others [] rest]
      have := length_joinComma first more
      rw [List.length_append]
      omega

end Containers

/-- A dictionary that has each key once is what its members make. -/
theorem dictOf_of_nodup {done fields : List (Text × Json Text)}
    (nodup : ((done ++ fields).map Prod.fst).Nodup) : dictOf done fields = done ++ fields := by
  induction fields generalizing done with
  | nil => simp [dictOf]
  | cons field fields ih =>
      have shape : done ++ field :: fields = (done ++ [field]) ++ fields := by simp
      have absent : (done.any fun old => old.1 = field.1) = false := by
        rw [List.any_eq_false]
        intro old mem same
        rw [List.map_append, List.nodup_append] at nodup
        exact nodup.2.2 old.1 (List.mem_map_of_mem mem) field.1 (by simp) (by simpa using same)
      have put : setItem done field.1 field.2 = done ++ [field] := by
        rw [setItem, absent, if_neg Bool.false_ne_true]
      rw [shape] at nodup ⊢
      rw [← ih nodup, ← put]
      rfl

theorem dictOf_nil {fields : List (Text × Json Text)} (nodup : (fields.map Prod.fst).Nodup) :
    dictOf [] fields = fields :=
  dictOf_of_nodup (by simpa using nodup)

/-! ## Values of any depth -/

theorem reads_arr {py : Interpreter} {depth : Nat} {printed : List Text}
    {values : List (Json Text)} (h : List.Forall₂ (Reads (scanOnce py depth)) printed values) :
    Reads (scanOnce py (depth + 1)) (codePoint '[' :: (joinComma printed ++ [codePoint ']']))
      (.arr values) := by
  refine reads_of_starts py (depth + 1) rfl (by decide) ?_
  intro rest _
  rw [List.cons_append, List.append_assoc]
  exact parseArray_joinComma h rest

theorem reads_obj {py : Interpreter} {depth : Nat} {printed : List Text}
    {fields : List (Text × Json Text)}
    (h : List.Forall₂ (ReadsMember (scanOnce py depth)) printed fields) :
    Reads (scanOnce py (depth + 1)) (codePoint '\x7b' :: (joinComma printed ++ [codePoint '\x7d']))
      (.obj (dictOf [] fields)) := by
  refine reads_of_starts py (depth + 1) rfl (by decide) ?_
  intro rest _
  rw [List.cons_append, List.append_assoc]
  exact parseObject_joinComma h rest

/-- A text that is one printed value, and white space after it. -/
theorem loads_of_reads {py : Interpreter} {printed spaces : Text} {value : Json Text}
    (h : Reads (scanOnce py py.depth) printed value) (noBom : printed.head? ≠ some 0xfeff)
    (blank : ∀ c ∈ spaces, isSpace c = true) :
    loads py (printed ++ spaces) = ended (.ok value) := by
  have follows : Follows spaces := by
    intro c isHead
    exact .inr (.inr (.inr (blank c (List.mem_of_mem_head? isHead))))
  have nothing : skipSpace spaces = [] := List.dropWhile_eq_nil_iff.mpr blank
  have head : (printed ++ spaces).head? ≠ some 0xfeff := by
    rw [List.head?_append_of_ne_nil _ h.nonempty]
    exact noBom
  rw [loads, if_neg head, h.skipSpace spaces, h.reads spaces follows, ended_ok_bind]
  exact if_pos nothing

/-! ## An interpreter -/

/-- Sign, whole part, fraction and exponent of a number. -/
def numberParts (s : Text) : Option (Text × Text × Text × Text) :=
  (wholeDigits (minusSign s).2).map fun found =>
    ((minusSign s).1, found.1, (fraction found.2).1, (exponent (fraction found.2).2).1)

theorem numberParts_fixed {negative : Bool} {whole frac : List (Fin 10)}
    (shaped : (FloatLit.fixed negative whole frac).Shaped) :
    numberParts (chars (dumpsFloat (.fixed negative whole frac))) =
      some (signText negative, chars (digitChars whole),
        codePoint '.' :: chars (digitChars frac), []) := by
  have isWhole := whole_digitChars shaped.1 shaped.2.1
  have stop : NoDigit (codePoint '.' :: chars (digitChars frac)) := by
    intro c isHead
    obtain rfl : codePoint '.' = c := by simpa using isHead
    decide
  have nothing : NoDigit [] := by simp [NoDigit]
  have point := fraction_digits shaped.2.2 nothing
  rw [List.append_nil] at point
  rw [chars_fixed, numberParts, minusSign_whole isWhole, wholeDigits_whole isWhole stop,
    Option.map_some, point]
  rfl

theorem numberParts_scientific {negative expNegative : Bool} {lead : Fin 10}
    {frac digits : List (Fin 10)}
    (shaped : (FloatLit.scientific negative lead frac expNegative digits).Shaped) :
    numberParts (chars (dumpsFloat (.scientific negative lead frac expNegative digits))) =
      some (signText negative, chars (digitChars [lead]),
        if frac = [] then [] else codePoint '.' :: chars (digitChars frac),
        codePoint 'e' :: exponentSignChar expNegative :: chars (digitChars digits)) := by
  have single : Whole (chars (digitChars [lead])) := whole_digitChars (by simp) (by simp)
  have isSign : exponentSignChar expNegative = codePoint '+' ∨
      exponentSignChar expNegative = codePoint '-' := by
    cases expNegative
    · exact .inl rfl
    · exact .inr rfl
  have stopE : NoDigit (codePoint 'e' :: exponentSignChar expNegative ::
      chars (digitChars digits)) := by
    intro c isHead
    obtain rfl : codePoint 'e' = c := by simpa using isHead
    decide
  have nothing : NoDigit [] := by simp [NoDigit]
  have power := exponent_digits shaped isSign nothing
  rw [List.append_nil] at power
  rw [chars_scientific, numberParts, minusSign_whole single]
  by_cases short : frac = []
  · simp only [short, if_true, List.nil_append]
    rw [wholeDigits_whole single stopE, Option.map_some,
      fraction_none (by rw [List.head?_cons]; decide), power]
  · have stop : NoDigit (codePoint '.' :: (chars (digitChars frac) ++ codePoint 'e' ::
        exponentSignChar expNegative :: chars (digitChars digits))) := by
      intro c isHead
      obtain rfl : codePoint '.' = c := by simpa using isHead
      decide
    simp only [short, if_false, List.cons_append]
    rw [wholeDigits_whole single stop, Option.map_some, fraction_digits short stopE, power]

theorem signText_inj {a b : Bool} (same : signText a = signText b) : a = b := by
  cases a <;> cases b <;> first | rfl | exact absurd same (by decide)

theorem exponentSignChar_inj {a b : Bool} (same : exponentSignChar a = exponentSignChar b) :
    a = b := by
  cases a <;> cases b <;> first | rfl | exact absurd same (by decide)

theorem digitChars_inj {xs ys : List (Fin 10)}
    (same : chars (digitChars xs) = chars (digitChars ys)) : xs = ys := by
  have each : ∀ a b : Fin 10, Char.ofNat (48 + a.val) = Char.ofNat (48 + b.val) → a = b := by
    decide +kernel
  exact List.map_injective_iff.mpr each (chars_inj same)

/-- Two numbers of the shape that `repr` prints are not printed alike. -/
theorem dumpsFloat_inj {f g : FloatLit} (shapedF : f.Shaped) (shapedG : g.Shaped)
    (same : chars (dumpsFloat f) = chars (dumpsFloat g)) : f = g := by
  have named : numberParts (chars (dumpsFloat .nan)) = none := rfl
  have infinite : ∀ negative, numberParts (chars (dumpsFloat (.infinity negative))) = none := by
    intro negative
    cases negative <;> rfl
  have parts := congrArg numberParts same
  cases f with
  | nan =>
      cases g with
      | nan => rfl
      | infinity negative => cases negative <;> exact absurd same (by decide)
      | fixed => rw [named, numberParts_fixed shapedG] at parts; cases parts
      | scientific => rw [named, numberParts_scientific shapedG] at parts; cases parts
  | infinity negative =>
      cases g with
      | nan => cases negative <;> exact absurd same (by decide)
      | infinity other =>
          cases negative <;> cases other <;> first | rfl | exact absurd same (by decide)
      | fixed => rw [infinite, numberParts_fixed shapedG] at parts; cases parts
      | scientific => rw [infinite, numberParts_scientific shapedG] at parts; cases parts
  | fixed negative whole frac =>
      rw [numberParts_fixed shapedF] at parts
      cases g with
      | nan => rw [named] at parts; cases parts
      | infinity => rw [infinite] at parts; cases parts
      | fixed =>
          rw [numberParts_fixed shapedG] at parts
          simp only [Option.some.injEq, Prod.mk.injEq, List.cons.injEq, true_and, and_true] at parts
          obtain ⟨sign, wholes, fracs⟩ := parts
          rw [signText_inj sign, digitChars_inj wholes, digitChars_inj fracs]
      | scientific =>
          rw [numberParts_scientific shapedG] at parts
          simp at parts
  | scientific negative lead frac expNegative digits =>
      rw [numberParts_scientific shapedF] at parts
      cases g with
      | nan => rw [named] at parts; cases parts
      | infinity => rw [infinite] at parts; cases parts
      | fixed =>
          rw [numberParts_fixed shapedG] at parts
          simp at parts
      | scientific other lead' frac' expOther digits' =>
          rw [numberParts_scientific shapedG] at parts
          simp only [Option.some.injEq, Prod.mk.injEq, List.cons.injEq, true_and] at parts
          obtain ⟨sign, leads, fracs, expSign, exps⟩ := parts
          have fracEq : frac = frac' := by
            by_cases short : frac = [] <;> by_cases short' : frac' = []
            · rw [short, short']
            · simp [short, short'] at fracs
            · simp [short, short'] at fracs
            · simp only [short, short', if_false, List.cons.injEq, true_and] at fracs
              exact digitChars_inj fracs
          obtain rfl : lead = lead' := (List.cons.inj (digitChars_inj leads)).1
          rw [signText_inj sign, fracEq, exponentSignChar_inj expSign, digitChars_inj exps]

open Classical in
/-- `float`, as far as `repr` prints it: the number that is printed so, and none for any other
text. -/
noncomputable def floatOfRepr (s : Text) : FloatLit :=
  if h : ∃ f : FloatLit, f.Shaped ∧ chars (dumpsFloat f) = s then h.choose
  else .nan

/-- An interpreter with CPython's limit of calls. -/
noncomputable def python (depth : Nat) : Interpreter := ⟨floatOfRepr, depth⟩

theorem python_exact (depth : Nat) : (python depth).Exact := by
  constructor
  · intro f shaped
    have printed : ∃ g : FloatLit, g.Shaped ∧ chars (dumpsFloat g) = chars (dumpsFloat f) :=
      ⟨f, shaped, rfl⟩
    show floatOfRepr _ = f
    rw [floatOfRepr, dif_pos printed]
    exact dumpsFloat_inj printed.choose_spec.1 shaped printed.choose_spec.2
  · intro s
    show (floatOfRepr s).Shaped
    unfold floatOfRepr
    split_ifs with printed
    · exact printed.choose_spec.1
    · trivial

end DoorsControl.JsonReader
