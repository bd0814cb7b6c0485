import DoorsControl.Data.Loads
import Mathlib.Algebra.Group.Nat.Defs
import Mathlib.Data.List.Chain
import Mathlib.Data.List.TakeWhile

/-!
# What `json.loads` returns

* `Json.All` — a property of a value and of everything in it;
* `scanString_ends`, `matchNumber_scanned`, `scanOnce_ends` — each reader takes something off the
  text and ends;
* `loads_ends` — **reading comes to an end on every text**. The value has each key once, numbers
  that can be written, and no more nesting than the interpreter allows; if the text had no
  surrogates, no pair of them is left in two halves.
-/

namespace DoorsControl

open Kit (Loops Turn whileLoop ended Ends TurnGood whileLoop_ends)

/-! ## Properties of whole values -/

namespace Json

variable {S : Type}

mutual

/-- It holds of the value and of every value inside it. -/
def All (P : Json S → Prop) : Json S → Prop
  | .null => P .null
  | .bool b => P (.bool b)
  | .int i => P (.int i)
  | .float f => P (.float f)
  | .str s => P (.str s)
  | .arr items => P (.arr items) ∧ AllItems P items
  | .obj fields => P (.obj fields) ∧ AllFields P fields

def AllItems (P : Json S → Prop) : List (Json S) → Prop
  | [] => True
  | item :: rest => All P item ∧ AllItems P rest

def AllFields (P : Json S → Prop) : List (S × Json S) → Prop
  | [] => True
  | (_, value) :: rest => All P value ∧ AllFields P rest

end

theorem allItems_iff {P : Json S → Prop} {items : List (Json S)} :
    AllItems P items ↔ ∀ item ∈ items, item.All P := by
  induction items with
  | nil => simp [AllItems]
  | cons item rest ih => simp [AllItems, ih]

theorem allFields_iff {P : Json S → Prop} {fields : List (S × Json S)} :
    AllFields P fields ↔ ∀ field ∈ fields, field.2.All P := by
  induction fields with
  | nil => simp [AllFields]
  | cons field rest ih => simp [AllFields, ih]

mutual

/-- How many arrays and objects stand inside one another. -/
def nesting : Json S → Nat
  | .arr items => nestingItems items + 1
  | .obj fields => nestingFields fields + 1
  | _ => 0

def nestingItems : List (Json S) → Nat
  | [] => 0
  | item :: rest => max (nesting item) (nestingItems rest)

def nestingFields : List (S × Json S) → Nat
  | [] => 0
  | (_, value) :: rest => max (nesting value) (nestingFields rest)

end

theorem nestingItems_le {items : List (Json S)} {depth : Nat} :
    nestingItems items ≤ depth ↔ ∀ item ∈ items, item.nesting ≤ depth := by
  induction items with
  | nil => simp [nestingItems]
  | cons item rest ih => simp [nestingItems, ih]

theorem nestingFields_le {fields : List (S × Json S)} {depth : Nat} :
    nestingFields fields ≤ depth ↔ ∀ field ∈ fields, field.2.nesting ≤ depth := by
  induction fields with
  | nil => simp [nestingFields]
  | cons field rest ih => simp [nestingFields, ih]

end Json

open JsonReader

/-- As `float.__repr__` prints a number: digits on both sides of the point and no superfluous
zero in front, or an exponent. -/
def FloatLit.Shaped : FloatLit → Prop
  | .nan => True
  | .infinity _ => True
  | .fixed _ whole frac => whole ≠ [] ∧ (whole.head?.map Fin.val = some 0 → whole.length = 1) ∧ frac ≠ []
  | .scientific _ _ _ _ exponent => exponent ≠ []

/-- Numbers that can be written and read, and keys that occur once. -/
def Json.Fine : Json Text → Prop
  | .int i => i.natAbs < 10 ^ maxStrDigits
  | .float f => f.Shaped
  | .obj fields => (fields.map Prod.fst).Nodup
  | _ => True

/-- No high surrogate stands right before a low one. -/
def Unpaired (s : Text) : Prop :=
  s.IsChain fun a b => ¬ (isHighSurrogate a.val = true ∧ isLowSurrogate b.val = true)

/-- No string of it has a pair of surrogates. -/
def Json.Settled : Json Text → Prop
  | .str s => Unpaired s
  | .obj fields => ∀ field ∈ fields, Unpaired field.1
  | _ => True

def NoSurrogates (s : Text) : Prop := ∀ c ∈ s, isSurrogate c = false

theorem NoSurrogates.suffix {s rest : Text} (h : NoSurrogates s) (suffix : rest <:+ s) :
    NoSurrogates rest :=
  fun c mem => h c (suffix.subset mem)

/-! ## What is left of a text -/

namespace JsonReader

/-- Something was taken off its front. -/
def Leaves (s rest : Text) : Prop := rest <:+ s ∧ rest.length < s.length

theorem leaves_tail (c : CodePoint) (rest : Text) : Leaves (c :: rest) rest :=
  ⟨List.suffix_cons c rest, by simp⟩

theorem Leaves.suffix {s t u : Text} (h : Leaves s t) (more : u <:+ t) : Leaves s u :=
  ⟨more.trans h.1, Nat.lt_of_le_of_lt more.length_le h.2⟩

theorem Leaves.of_suffix {s t u : Text} (first : t <:+ s) (h : Leaves t u) : Leaves s u :=
  ⟨h.1.trans first, Nat.lt_of_lt_of_le h.2 first.length_le⟩

theorem Leaves.trans {s t u : Text} (first : Leaves s t) (second : Leaves t u) : Leaves s u :=
  first.suffix second.1

theorem skipSpace_suffix (s : Text) : skipSpace s <:+ s := List.dropWhile_suffix _

theorem hex4_suffix {s rest : Text} {value : Nat} (h : hex4 s = some (value, rest)) :
    rest <:+ s := by
  unfold hex4 at h
  split at h
  · rename_i a b c d after
    simp only [Option.bind_eq_bind, Option.bind_eq_some_iff, Option.pure_def, Option.some.injEq,
      Prod.mk.injEq] at h
    obtain ⟨-, -, -, -, -, -, -, -, -, rfl⟩ := h
    exact ⟨[a, b, c, d], rfl⟩
  · cases h

theorem hexValue?_lt {c : CodePoint} {value : Nat} (h : hexValue? c = some value) : value < 16 := by
  unfold hexValue? at h
  split_ifs at h <;> simp only [Option.some.injEq] at h <;> omega

theorem hex4_lt {s rest : Text} {value : Nat} (h : hex4 s = some (value, rest)) :
    value < 0x10000 := by
  unfold hex4 at h
  split at h
  · simp only [Option.bind_eq_bind, Option.bind_eq_some_iff, Option.pure_def, Option.some.injEq,
      Prod.mk.injEq] at h
    obtain ⟨a, isA, b, isB, c, isC, d, isD, rfl, -⟩ := h
    have smallA := hexValue?_lt isA
    have smallB := hexValue?_lt isB
    have smallC := hexValue?_lt isC
    have smallD := hexValue?_lt isD
    omega
  · cases h

/-! ## Strings -/

theorem lowEscape_some {s rest : Text} {low : Nat} (h : lowEscape s = .ok (some (low, rest))) :
    rest <:+ s ∧ isLowSurrogate low = true := by
  unfold lowEscape at h
  split at h
  · rename_i b u digits
    split_ifs at h
    · split at h
      · rename_i value after read
        split_ifs at h with isLow
        · simp only [Except.ok.injEq, Option.some.injEq, Prod.mk.injEq] at h
          obtain ⟨rfl, rfl⟩ := h
          exact ⟨(hex4_suffix read).trans ⟨[b, u], rfl⟩, isLow⟩
        · cases h
      · cases h
    · cases h
  · cases h

theorem val_ofNat {n : Nat} (small : n < 0x110000) : (Fin.ofNat 0x110000 n).val = n :=
  Nat.mod_eq_of_lt small

theorem val_joinSurrogates {high low : Nat} (isHigh : isHighSurrogate high = true)
    (isLow : isLowSurrogate low = true) :
    (joinSurrogates high low).val = 0x10000 + (high - 0xd800) * 0x400 + (low - 0xdc00) := by
  simp only [isHighSurrogate, isLowSurrogate, Bool.and_eq_true, decide_eq_true_eq] at isHigh isLow
  exact val_ofNat (by omega)

theorem simpleEscape_small {c meant : CodePoint} (h : simpleEscape c = some meant) :
    meant.val < 0x80 := by
  unfold simpleEscape at h
  split_ifs at h <;> simp only [Option.some.injEq] at h <;> subst h <;> subst_vars <;> decide

/-- An escape that was read. It is a low half only if it could have been read as one before, and
a high half only if no low one comes next. -/
structure EscapeRead (s : Text) (meant : CodePoint) (rest : Text) : Prop where
  left : Leaves s rest
  low : isLowSurrogate meant.val = true → lowEscape (codePoint '\\' :: s) ≠ .ok none
  high : isHighSurrogate meant.val = true → lowEscape rest = .ok none

theorem escapeRead_of_small {s rest : Text} {meant : CodePoint} (left : Leaves s rest)
    (apart : isLowSurrogate meant.val = false) (apart' : isHighSurrogate meant.val = false) :
    EscapeRead s meant rest := by
  constructor
  · exact left
  · intro isLow
    rw [apart] at isLow
    cases isLow
  · intro isHigh
    rw [apart'] at isHigh
    cases isHigh

theorem escape_ok {s rest : Text} {meant : CodePoint} (h : escape s = .ok (meant, rest)) :
    EscapeRead s meant rest := by
  cases s with
  | nil => cases h
  | cons c after =>
      rw [escape] at h
      split_ifs at h with isU
      · -- \uXXXX
        cases read : hex4 after with
        | none => simp only [read, reduceCtorEq] at h
        | some found =>
            obtain ⟨value, after'⟩ := found
            have small := hex4_lt read
            have left : Leaves (c :: after) after' := (leaves_tail c after).suffix (hex4_suffix read)
            simp only [read] at h
            split_ifs at h with isHigh
            · cases next : lowEscape after' with
              | error e => simp only [next] at h; cases h
              | ok outcome =>
                  rw [next] at h
                  cases outcome with
                  | none =>
                      -- a high half that stays alone
                      obtain ⟨rfl, rfl⟩ := Prod.mk.inj (Except.ok.inj h)
                      refine ⟨left, ?_, fun _ => next⟩
                      intro isLow
                      rw [val_ofNat (by omega)] at isLow
                      simp only [isHighSurrogate, isLowSurrogate, Bool.and_eq_true,
                        decide_eq_true_eq] at isHigh isLow
                      omega
                  | some pair =>
                      obtain ⟨low, after''⟩ := pair
                      obtain ⟨rfl, rfl⟩ := Prod.mk.inj (Except.ok.inj h)
                      obtain ⟨suffix, isLow⟩ := lowEscape_some next
                      have value := val_joinSurrogates isHigh isLow
                      refine escapeRead_of_small (left.suffix suffix) ?_ ?_
                      · simp only [isLowSurrogate, Bool.and_eq_false_iff, decide_eq_false_iff_not]
                        omega
                      · simp only [isHighSurrogate, Bool.and_eq_false_iff, decide_eq_false_iff_not]
                        omega
            · obtain ⟨rfl, rfl⟩ := Prod.mk.inj (Except.ok.inj h)
              rw [← val_ofNat (n := value) (by omega)] at isHigh
              refine ⟨left, ?_, fun high => absurd high isHigh⟩
              intro isLow
              rw [val_ofNat (by omega)] at isLow
              rw [lowEscape, if_pos ⟨rfl, isU⟩, read]
              simp [isLow]
      · cases found : simpleEscape c with
        | none => simp only [found, reduceCtorEq] at h
        | some plain =>
            simp only [found, Except.ok.injEq, Prod.mk.injEq] at h
            obtain ⟨rfl, rfl⟩ := h
            have small := simpleEscape_small found
            refine escapeRead_of_small (leaves_tail c after) ?_ ?_
            · simp only [isLowSurrogate, Bool.and_eq_false_iff, decide_eq_false_iff_not]
              omega
            · simp only [isHighSurrogate, Bool.and_eq_false_iff, decide_eq_false_iff_not]
              omega

/-- Between two turns of `scanstring`: `state.1` was read, `state.2` is left of `s`. -/
structure StringState (s : Text) (state : Text × Text) : Prop where
  left : state.2 <:+ s
  unpaired : NoSurrogates s → Unpaired state.1
  last : NoSurrogates s → ∀ high ∈ state.1.getLast?, isHighSurrogate high.val = true →
    lowEscape state.2 = .ok none

/-- What `scanstring` returns. -/
structure StringRead (s : Text) (result : Text × Text) : Prop where
  left : Leaves s result.2
  unpaired : NoSurrogates s → Unpaired result.1

/-- One more character after those that were read. -/
theorem unpaired_concat {s : Text} {c : CodePoint} (unpaired : Unpaired s)
    (apart : ∀ high ∈ s.getLast?, isHighSurrogate high.val = true →
      isLowSurrogate c.val = false) : Unpaired (s ++ [c]) := by
  refine List.isChain_append.mpr ⟨unpaired, List.isChain_singleton c, ?_⟩
  intro high isLast low isHead
  obtain rfl : c = low := by simpa using isHead
  rintro ⟨isHigh, isLow⟩
  rw [apart high isLast isHigh] at isLow
  cases isLow

theorem stringTurn_ends {s : Text} {state : Text × Text} (inv : StringState s state) :
    Ends (TurnGood (StringRead s) (StringState s) (fun state => state.2.length) state)
      (stringTurn state) := by
  obtain ⟨done, left⟩ := state
  cases left with
  | nil => exact Ends.error _
  | cons c rest =>
      have tail : Leaves s rest := Leaves.of_suffix inv.left (leaves_tail c rest)
      rw [stringTurn]
      dsimp only
      split_ifs with isQuote isBackslash isControl
      · exact Ends.pure ⟨tail, inv.unpaired⟩
      · -- an escape
        cases read : escape rest with
        | error e => exact Ends.error e
        | ok found =>
            obtain ⟨meant, after⟩ := found
            have facts := escape_ok read
            refine Ends.pure ⟨⟨(facts.left.1.trans tail.1), ?_, ?_⟩, ?_⟩
            · intro clean
              refine unpaired_concat (inv.unpaired clean) ?_
              intro high isLast isHigh
              cases isLow : isLowSurrogate meant.val with
              | false => rfl
              | true =>
                  have alone := inv.last clean high isLast isHigh
                  rw [isBackslash] at alone
                  exact absurd alone (facts.low isLow)
            · intro clean high isLast isHigh
              obtain rfl : meant = high := by simpa using isLast
              exact facts.high isHigh
            · show after.length < rest.length + 1
              have := facts.left.2
              omega
      · exact Ends.error _
      · -- a character that stands for itself: no half of anything
        have plain : NoSurrogates s → isLowSurrogate c.val = false ∧
            isHighSurrogate c.val = false := by
          intro clean
          have := clean c (inv.left.subset (by simp))
          simp only [isSurrogate, Bool.and_eq_false_iff, decide_eq_false_iff_not] at this
          simp only [isLowSurrogate, isHighSurrogate, Bool.and_eq_false_iff,
            decide_eq_false_iff_not]
          omega
        refine Ends.pure ⟨⟨tail.1, ?_, ?_⟩, ?_⟩
        · intro clean
          exact unpaired_concat (inv.unpaired clean) fun _ _ _ => (plain clean).1
        · intro clean high isLast isHigh
          obtain rfl : c = high := by simpa using isLast
          rw [(plain clean).2] at isHigh
          cases isHigh
        · show rest.length < rest.length + 1
          omega

theorem scanString_ends (s : Text) : Ends (StringRead s) (scanString s) := by
  refine whileLoop_ends (fun state inv => stringTurn_ends inv) ?_ (Nat.lt_succ_self s.length)
  exact ⟨List.suffix_rfl, fun _ => .nil, by simp⟩

/-! ## Numbers and names -/

theorem minusSign_suffix (s : Text) : (minusSign s).2 <:+ s := by
  cases s with
  | nil => exact List.suffix_rfl
  | cons c rest =>
      rw [minusSign]
      split_ifs
      · exact List.suffix_cons c rest
      · exact List.suffix_rfl

theorem fraction_suffix (s : Text) : (fraction s).2 <:+ s := by
  unfold fraction
  split
  · rename_i point c rest
    split_ifs
    · exact (List.dropWhile_suffix _).trans ⟨[point, c], rfl⟩
    · exact List.suffix_rfl
  · exact List.suffix_rfl

theorem exponentSign_suffix (s : Text) : (exponentSign s).2 <:+ s := by
  cases s with
  | nil => exact List.suffix_rfl
  | cons c rest =>
      rw [exponentSign]
      split_ifs
      · exact List.suffix_cons c rest
      · exact List.suffix_rfl

theorem exponent_suffix (s : Text) : (exponent s).2 <:+ s := by
  cases s with
  | nil => exact List.suffix_rfl
  | cons e rest =>
      rw [exponent]
      dsimp only
      split_ifs
      · exact List.suffix_rfl
      · exact ((List.dropWhile_suffix _).trans (exponentSign_suffix rest)).trans
          (List.suffix_cons e rest)
      · exact List.suffix_rfl

/-- The whole part: some digits, and what comes after them. -/
theorem wholeDigits_some {s whole rest : Text} (h : wholeDigits s = some (whole, rest)) :
    Leaves s rest ∧ ∀ c ∈ whole, isAsciiDigit c = true := by
  cases s with
  | nil => cases h
  | cons c after =>
      rw [wholeDigits] at h
      split_ifs at h with isZero isDigit
      · simp only [Option.some.injEq, Prod.mk.injEq] at h
        obtain ⟨rfl, rfl⟩ := h
        refine ⟨leaves_tail c _, ?_⟩
        intro d mem
        rw [List.mem_singleton.mp mem, isZero]
        decide
      · simp only [Option.some.injEq, Prod.mk.injEq] at h
        obtain ⟨rfl, rfl⟩ := h
        refine ⟨(leaves_tail c after).suffix (List.dropWhile_suffix _), ?_⟩
        intro d mem
        rcases List.mem_cons.mp mem with rfl | mem
        · exact isDigit
        · exact List.mem_takeWhile_imp mem

theorem digitsValue_lt {digits : Text} (h : ∀ c ∈ digits, isAsciiDigit c = true) :
    digitsValue digits < 10 ^ digits.length := by
  induction digits using List.reverseRecOn with
  | nil => exact Nat.one_pos
  | append_singleton front c ih =>
      have small := ih fun d mem => h d (by simp [mem])
      have digit := h c (by simp)
      simp only [isAsciiDigit, Bool.and_eq_true, decide_eq_true_eq] at digit
      rw [digitsValue] at small
      rw [digitsValue, List.foldl_append, List.length_append, List.length_singleton, Nat.pow_succ]
      show 10 * _ + (c.val - 48) < _
      omega

theorem intOfDigits_fine {sign digits : Text} {value : Int}
    (isDigits : ∀ c ∈ digits, isAsciiDigit c = true) (h : intOfDigits sign digits = .ok value) :
    value.natAbs < 10 ^ maxStrDigits := by
  unfold intOfDigits at h
  split_ifs at h with tooMany unsigned
  all_goals
    have bound : 10 ^ digits.length ≤ 10 ^ maxStrDigits :=
      Nat.pow_le_pow_right (by decide) (Nat.not_lt.mp tooMany)
    have small := digitsValue_lt isDigits
    obtain rfl := Except.ok.inj h
    omega

/-- What `scan_once` returns for a text, with so many calls allowed. -/
structure Scanned (depth : Nat) (s : Text) (result : Json Text × Text) : Prop where
  left : Leaves s result.2
  fine : result.1.All Json.Fine
  nesting : result.1.nesting ≤ depth
  settled : NoSurrogates s → result.1.All Json.Settled

theorem matchNumber_scanned {py : Interpreter} (shaped : ∀ s, (py.float s).Shaped) {s : Text}
    {result : Json Text × Text} (depth : Nat) (h : matchNumber py s = .ok result) :
    Scanned depth s result := by
  unfold matchNumber at h
  dsimp only at h
  split at h
  · cases h
  · rename_i whole rest read
    obtain ⟨left, isDigits⟩ := wholeDigits_some read
    have after : Leaves s (exponent (fraction rest).2).2 :=
      (Leaves.of_suffix (minusSign_suffix s) left).suffix
        ((exponent_suffix _).trans (fraction_suffix rest))
    split_ifs at h
    · cases number : intOfDigits (minusSign s).1 whole with
      | error e => rw [number] at h; cases h
      | ok value =>
          rw [number] at h
          obtain rfl := Except.ok.inj h
          exact ⟨after, intOfDigits_fine isDigits number, Nat.zero_le _, fun _ => trivial⟩
    · obtain rfl := Except.ok.inj h
      exact ⟨after, shaped _, Nat.zero_le _, fun _ => trivial⟩

theorem constants_plain : ∀ entry ∈ constants,
    entry.1 ≠ [] ∧ entry.2.All Json.Fine ∧ entry.2.nesting = 0 ∧ entry.2.All Json.Settled := by
  intro entry mem
  simp only [constants, List.mem_cons, List.not_mem_nil, or_false] at mem
  rcases mem with rfl | rfl | rfl | rfl | rfl | rfl <;>
    exact ⟨by decide, trivial, rfl, trivial⟩

theorem constant?_scanned {s : Text} {result : Json Text × Text} (depth : Nat)
    (h : constant? s = some result) : Scanned depth s result := by
  unfold constant? at h
  obtain ⟨entry, found, rfl⟩ := Option.map_eq_some_iff.mp h
  obtain ⟨some, fine, flat, settled⟩ := constants_plain entry (List.mem_of_find?_eq_some found)
  have starts : entry.1 <+: s := by simpa using List.find?_some found
  have long := starts.length_le
  have taken := List.length_pos_of_ne_nil some
  refine ⟨⟨List.drop_suffix _ _, ?_⟩, fine, flat ▸ Nat.zero_le _, fun _ => settled⟩
  show (s.drop entry.1.length).length < s.length
  rw [List.length_drop]
  omega

/-! ## Arrays and objects -/

theorem delimiter_ok {close : CodePoint} {s : Text} {outcome : Turn Text Text}
    (h : delimiter close s = .ok outcome) :
    (∃ rest, outcome = .leave rest ∧ rest <:+ s) ∨ ∃ rest, outcome = .again rest ∧ rest <:+ s := by
  unfold delimiter at h
  split at h
  · cases h
  · rename_i c rest found
    have suffix : rest <:+ s := (List.suffix_cons c rest).trans (found ▸ skipSpace_suffix s)
    split_ifs at h
    · exact .inl ⟨rest, (Except.ok.inj h).symm, suffix⟩
    · exact .inr ⟨_, (Except.ok.inj h).symm, (skipSpace_suffix rest).trans suffix⟩

theorem expect_ok {wanted : CodePoint} {s rest : Text} (h : expect wanted s = .ok rest) :
    Leaves s rest := by
  cases s with
  | nil => cases h
  | cons c after =>
      rw [expect] at h
      split_ifs at h
      obtain rfl := Except.ok.inj h
      exact leaves_tail c _

theorem mem_setItem {fields : List (Text × Json Text)} {key : Text} {value : Json Text}
    {field : Text × Json Text} (mem : field ∈ setItem fields key value) :
    field ∈ fields ∨ field = (key, value) := by
  unfold setItem at mem
  split_ifs at mem
  · obtain ⟨old, isOld, rfl⟩ := List.mem_map.mp mem
    by_cases same : old.1 = key
    · rw [if_pos same, same]
      exact .inr rfl
    · rw [if_neg same]
      exact .inl isOld
  · rcases List.mem_append.mp mem with mem | mem
    · exact .inl mem
    · exact .inr (List.mem_singleton.mp mem)

theorem nodup_setItem {fields : List (Text × Json Text)} {key : Text} {value : Json Text}
    (nodup : (fields.map Prod.fst).Nodup) : ((setItem fields key value).map Prod.fst).Nodup := by
  unfold setItem
  split_ifs with found
  · have keys : (fields.map fun field => if field.1 = key then (field.1, value) else field).map
        Prod.fst = fields.map Prod.fst := by
      rw [List.map_map]
      refine List.map_congr_left ?_
      intro field _
      by_cases same : field.1 = key <;> simp [same]
    rw [keys]
    exact nodup
  · simp only [List.any_eq_true, decide_eq_true_eq, not_exists, not_and] at found
    rw [List.map_append]
    refine List.nodup_append.mpr ⟨nodup, List.pairwise_singleton _ _, ?_⟩
    intro a isOld b isNew
    obtain ⟨field, mem, rfl⟩ := List.mem_map.mp isOld
    rw [List.mem_singleton.mp isNew]
    exact found field mem

section Containers

variable {scan : Text → Loops JsonError (Json Text × Text)} {depth : Nat}

/-- Between two elements of the array that starts in `s`. -/
structure ArrayState (depth : Nat) (s : Text) (state : List (Json Text) × Text) : Prop where
  left : state.2 <:+ s
  fine : ∀ item ∈ state.1, item.All Json.Fine
  nesting : ∀ item ∈ state.1, item.nesting ≤ depth
  settled : NoSurrogates s → ∀ item ∈ state.1, item.All Json.Settled

theorem ArrayState.concat {s rest : Text} {items : List (Json Text)} {start : Text}
    {value : Json Text} (state : ArrayState depth s (items, start))
    (read : Scanned depth start (value, rest)) {next : Text} (suffix : next <:+ rest) :
    ArrayState depth s (items ++ [value], next) := by
  constructor
  · exact suffix.trans (read.left.1.trans state.left)
  · intro item mem
    rcases List.mem_append.mp mem with mem | mem
    · exact state.fine item mem
    · exact List.mem_singleton.mp mem ▸ read.fine
  · intro item mem
    rcases List.mem_append.mp mem with mem | mem
    · exact state.nesting item mem
    · exact List.mem_singleton.mp mem ▸ read.nesting
  · intro clean item mem
    rcases List.mem_append.mp mem with mem | mem
    · exact state.settled clean item mem
    · exact List.mem_singleton.mp mem ▸ read.settled (clean.suffix state.left)

/-- The array that is complete at this point. -/
theorem ArrayState.scanned {s rest : Text} {items : List (Json Text)}
    (state : ArrayState depth s (items, rest)) (left : Leaves s rest) :
    Scanned (depth + 1) s (.arr items, rest) := by
  constructor
  · exact left
  · exact ⟨trivial, Json.allItems_iff.mpr state.fine⟩
  · exact Nat.succ_le_succ (Json.nestingItems_le.mpr state.nesting)
  · intro clean
    exact ⟨trivial, Json.allItems_iff.mpr (state.settled clean)⟩

theorem arrayTurn_ends (reads : ∀ s, Ends (Scanned depth s) (scan s)) {s : Text}
    {state : List (Json Text) × Text} (inv : ArrayState depth s state) :
    Ends (TurnGood (Scanned (depth + 1) s) (ArrayState depth s) (fun state => state.2.length) state)
      (arrayTurn scan state) := by
  refine (reads state.2).bind ?_
  rintro ⟨value, rest⟩ read
  dsimp only
  cases found : delimiter (codePoint ']') rest with
  | error e => exact Ends.error e
  | ok outcome =>
      obtain ⟨after, rfl, suffix⟩ | ⟨after, rfl, suffix⟩ := delimiter_ok found
      · refine Ends.pure (ArrayState.scanned (inv.concat read suffix) ?_)
        exact (Leaves.of_suffix inv.left read.left).suffix suffix
      · exact Ends.pure ⟨inv.concat read suffix, (read.left.suffix suffix).2⟩

theorem parseArray_ends (reads : ∀ s, Ends (Scanned depth s) (scan s)) (c : CodePoint) (s : Text) :
    Ends (Scanned (depth + 1) (c :: s)) (parseArray scan s) := by
  have weaken : ∀ result, Scanned (depth + 1) (skipSpace s) result →
      Scanned (depth + 1) (c :: s) result := by
    intro result read
    have suffix := (skipSpace_suffix s).trans (List.suffix_cons c s)
    exact ⟨Leaves.of_suffix suffix read.left, read.fine, read.nesting,
      fun clean => read.settled (clean.suffix suffix)⟩
  unfold parseArray
  dsimp only
  split_ifs with empty
  · obtain ⟨rest, shape⟩ : ∃ rest, skipSpace s = codePoint ']' :: rest :=
      List.head?_eq_some_iff.mp empty
    refine Ends.pure (weaken _ (ArrayState.scanned ⟨?_, by simp, by simp, by simp⟩ ?_))
    · rw [shape]
      exact List.suffix_cons _ _
    · rw [shape]
      exact leaves_tail _ _
  · refine (whileLoop_ends (fun state inv => arrayTurn_ends reads inv) ?_
      (Nat.lt_succ_self _)).mono weaken
    exact ⟨List.suffix_rfl, by simp, by simp, by simp⟩

/-- Between two members of the object that starts in `s`. -/
structure ObjectState (depth : Nat) (s : Text) (state : List (Text × Json Text) × Text) : Prop where
  left : state.2 <:+ s
  once : (state.1.map Prod.fst).Nodup
  fine : ∀ field ∈ state.1, field.2.All Json.Fine
  nesting : ∀ field ∈ state.1, field.2.nesting ≤ depth
  settled : NoSurrogates s → ∀ field ∈ state.1, Unpaired field.1 ∧ field.2.All Json.Settled

theorem ObjectState.setItem {s start rest : Text} {fields : List (Text × Json Text)} {key : Text}
    {value : Json Text} (state : ObjectState depth s (fields, start)) {before : Text}
    (suffix : before <:+ start) (unpaired : NoSurrogates s → Unpaired key)
    (read : Scanned depth before (value, rest)) {next : Text} (after : next <:+ rest) :
    ObjectState depth s (setItem fields key value, next) := by
  constructor
  · exact after.trans (read.left.1.trans (suffix.trans state.left))
  · exact nodup_setItem state.once
  · intro field mem
    rcases mem_setItem mem with mem | rfl
    · exact state.fine field mem
    · exact read.fine
  · intro field mem
    rcases mem_setItem mem with mem | rfl
    · exact state.nesting field mem
    · exact read.nesting
  · intro clean field mem
    rcases mem_setItem mem with mem | rfl
    · exact state.settled clean field mem
    · exact ⟨unpaired clean, read.settled (clean.suffix (suffix.trans state.left))⟩

/-- The object that is complete at this point. -/
theorem ObjectState.scanned {s rest : Text} {fields : List (Text × Json Text)}
    (state : ObjectState depth s (fields, rest)) (left : Leaves s rest) :
    Scanned (depth + 1) s (.obj fields, rest) := by
  constructor
  · exact left
  · exact ⟨state.once, Json.allFields_iff.mpr state.fine⟩
  · exact Nat.succ_le_succ (Json.nestingFields_le.mpr state.nesting)
  · intro clean
    exact ⟨fun field mem => (state.settled clean field mem).1,
      Json.allFields_iff.mpr fun field mem => (state.settled clean field mem).2⟩

theorem objectTurn_ends (reads : ∀ s, Ends (Scanned depth s) (scan s)) {s : Text}
    {state : List (Text × Json Text) × Text} (inv : ObjectState depth s state) :
    Ends (TurnGood (Scanned (depth + 1) s) (ObjectState depth s) (fun state => state.2.length)
      state) (objectTurn scan state) := by
  unfold objectTurn
  cases opened : expect (codePoint '"') state.2 with
  | error e => exact Ends.error e
  | ok inside =>
  have insideLeft := expect_ok opened
  refine (scanString_ends inside).bind ?_
  rintro ⟨key, afterKey⟩ keyRead
  dsimp only
  cases colon : expect (codePoint ':') (skipSpace afterKey) with
  | error e => exact Ends.error e
  | ok afterColon =>
  have keyLeft : Leaves state.2 afterColon :=
    (insideLeft.trans keyRead.left).trans
      (Leaves.of_suffix (skipSpace_suffix afterKey) (expect_ok colon))
  have valueSuffix : skipSpace afterColon <:+ state.2 :=
    (skipSpace_suffix afterColon).trans keyLeft.1
  refine (reads (skipSpace afterColon)).bind ?_
  rintro ⟨value, rest⟩ read
  dsimp only
  have unpaired : NoSurrogates s → Unpaired key :=
    fun clean => keyRead.unpaired (clean.suffix (insideLeft.1.trans inv.left))
  have restLeft : Leaves state.2 rest := Leaves.of_suffix valueSuffix read.left
  cases found : delimiter (codePoint '\x7d') rest with
  | error e => exact Ends.error e
  | ok outcome =>
      obtain ⟨after, rfl, suffix⟩ | ⟨after, rfl, suffix⟩ := delimiter_ok found
      · refine Ends.pure (ObjectState.scanned (inv.setItem valueSuffix unpaired read suffix) ?_)
        exact (Leaves.of_suffix inv.left restLeft).suffix suffix
      · exact Ends.pure ⟨inv.setItem valueSuffix unpaired read suffix, (restLeft.suffix suffix).2⟩

theorem parseObject_ends (reads : ∀ s, Ends (Scanned depth s) (scan s)) (c : CodePoint)
    (s : Text) : Ends (Scanned (depth + 1) (c :: s)) (parseObject scan s) := by
  have weaken : ∀ result, Scanned (depth + 1) (skipSpace s) result →
      Scanned (depth + 1) (c :: s) result := by
    intro result read
    have suffix := (skipSpace_suffix s).trans (List.suffix_cons c s)
    exact ⟨Leaves.of_suffix suffix read.left, read.fine, read.nesting,
      fun clean => read.settled (clean.suffix suffix)⟩
  unfold parseObject
  dsimp only
  split_ifs with empty
  · obtain ⟨rest, shape⟩ : ∃ rest, skipSpace s = codePoint '\x7d' :: rest :=
      List.head?_eq_some_iff.mp empty
    refine Ends.pure (weaken _ (ObjectState.scanned ⟨?_, .nil, by simp, by simp, by simp⟩ ?_))
    · rw [shape]
      exact List.suffix_cons _ _
    · rw [shape]
      exact leaves_tail _ _
  · refine (whileLoop_ends (fun state inv => objectTurn_ends reads inv) ?_
      (Nat.lt_succ_self _)).mono weaken
    exact ⟨List.suffix_rfl, .nil, by simp, by simp, by simp⟩

end Containers

/-! ## Values -/

theorem scanWith_ends {py : Interpreter} (shaped : ∀ s, (py.float s).Shaped) {depth : Nat}
    {object array : Text → Loops JsonError (Json Text × Text)}
    (objects : ∀ c s, Ends (Scanned depth (c :: s)) (object s))
    (arrays : ∀ c s, Ends (Scanned depth (c :: s)) (array s)) (s : Text) :
    Ends (Scanned depth s) (scanWith py object array s) := by
  cases s with
  | nil => exact Ends.error _
  | cons c rest =>
      rw [scanWith]
      split_ifs
      · refine (scanString_ends rest).bind ?_
        rintro ⟨value, after⟩ read
        refine Ends.pure ⟨(leaves_tail c rest).trans read.left, trivial, Nat.zero_le _, ?_⟩
        intro clean
        exact read.unpaired (clean.suffix (List.suffix_cons c rest))
      · exact objects c rest
      · exact arrays c rest
      · cases named : constant? (c :: rest) with
        | some found => exact Ends.pure (constant?_scanned depth named)
        | none =>
            refine ⟨_, rfl, ?_⟩
            intro result read
            exact matchNumber_scanned shaped depth read

theorem scanOnce_ends {py : Interpreter} (shaped : ∀ s, (py.float s).Shaped) (depth : Nat)
    (s : Text) : Ends (Scanned depth s) (scanOnce py depth s) := by
  induction depth generalizing s with
  | zero => exact scanWith_ends shaped (fun _ _ => Ends.error _) (fun _ _ => Ends.error _) s
  | succ depth ih => exact scanWith_ends shaped (parseObject_ends ih) (parseArray_ends ih) s

/-- What `json.loads` returns for a text. -/
structure Loaded (py : Interpreter) (s : Text) (value : Json Text) : Prop where
  fine : value.All Json.Fine
  nesting : value.nesting ≤ py.depth
  settled : NoSurrogates s → value.All Json.Settled

/-- **Reading comes to an end.** -/
theorem loads_ends {py : Interpreter} (shaped : ∀ s, (py.float s).Shaped) (s : Text) :
    Ends (Loaded py s) (loads py s) := by
  unfold loads
  split_ifs
  · exact Ends.error _
  · refine (scanOnce_ends shaped py.depth (skipSpace s)).bind ?_
    rintro ⟨value, rest⟩ read
    dsimp only
    split_ifs
    · exact Ends.pure ⟨read.fine, read.nesting,
        fun clean => read.settled (clean.suffix (skipSpace_suffix s))⟩
    · exact Ends.error _

end JsonReader

end DoorsControl
