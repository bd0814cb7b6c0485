import DoorsControl.Backend.Hub
import DoorsControl.Signer.ReadBack

/-!
# What `json.dumps` writes, `json.loads` reads

With `ensure_ascii` every character outside printable ASCII is an escape, and the two halves of a
surrogate pair are two escapes. The reader takes the two for one character, whether or not they
were one before.

* `loads_jsonDumps` — **a value comes back with its surrogate pairs joined**;
* `loads_jsonDumps_iff` — **it comes back as it was if and only if it had none**, and each key
  once;
* `loads_again` — what was read from a text without surrogates goes through unchanged any number of
  times.
-/

namespace DoorsControl.Backend

open JsonReader
open Kit (Loops Turn whileLoop ended ended_ok_bind whileLoop_again whileLoop_leave Ends)

/-! ## What comes back -/

/-- A high and a low surrogate in a row as the one character they encode. -/
def joinPairs : Text → Text
  | [] => []
  | [a] => [a]
  | a :: b :: rest =>
      if isHighSurrogate a.val ∧ isLowSurrogate b.val then
        joinSurrogates a.val b.val :: joinPairs rest
      else a :: joinPairs (b :: rest)

mutual

def rejoined : Json Text → Json Text
  | .null => .null
  | .bool b => .bool b
  | .int i => .int i
  | .float f => .float f
  | .str s => .str (joinPairs s)
  | .arr items => .arr (rejoinedItems items)
  | .obj fields => .obj (dictOf [] (rejoinedFields fields))

def rejoinedItems : List (Json Text) → List (Json Text)
  | [] => []
  | item :: rest => rejoined item :: rejoinedItems rest

def rejoinedFields : List (Text × Json Text) → List (Text × Json Text)
  | [] => []
  | (key, value) :: rest => (joinPairs key, rejoined value) :: rejoinedFields rest

end

/-! ## Strings -/

theorem lowEscape_unicode {n : Nat} (small : n < 0x10000) (rest : Text) :
    lowEscape (unicodeEscape n ++ rest) =
      .ok (if isLowSurrogate n then some (n, rest) else none) := by
  show lowEscape (codePoint '\\' :: codePoint 'u' :: (chars (hexDigits 4 n) ++ rest)) = _
  rw [lowEscape, if_pos ⟨rfl, rfl⟩, hex4_hexDigits small]

theorem stringTurn_unicode {n : Nat} (small : n < 0x10000) (done rest : Text) :
    stringTurn (done, unicodeEscape n ++ rest) =
      if isHighSurrogate n then do
        match ← ended (lowEscape rest) with
        | some (low, rest) => return .again (done ++ [joinSurrogates n low], rest)
        | none => return .again (done ++ [Fin.ofNat 0x110000 n], rest)
      else ended (.ok (.again (done ++ [Fin.ofNat 0x110000 n], rest))) := by
  show stringTurn (done, codePoint '\\' :: codePoint 'u' :: (chars (hexDigits 4 n) ++ rest)) = _
  rw [stringTurn]
  dsimp only
  rw [if_neg (by decide), if_pos rfl, escape, if_pos rfl, hex4_hexDigits small]
  dsimp only
  by_cases high : isHighSurrogate n = true
  · rw [if_pos high, if_pos high]
    cases lowEscape rest with
    | error e => rfl
    | ok found =>
        cases found with
        | none => rfl
        | some pair => rfl
  · rw [if_neg high, if_neg high]
    rfl

theorem ofNat_val (c : CodePoint) : Fin.ofNat 0x110000 c.val = c :=
  Fin.ext (Nat.mod_eq_of_lt c.isLt)

/-- Two escapes of a pair. -/
theorem stringTurn_pair {high low : Nat} (isHigh : isHighSurrogate high = true)
    (isLow : isLowSurrogate low = true) (done rest : Text) :
    stringTurn (done, unicodeEscape high ++ (unicodeEscape low ++ rest)) =
      ended (.ok (.again (done ++ [joinSurrogates high low], rest))) := by
  have bounds := isHigh
  have bounds' := isLow
  simp only [isHighSurrogate, isLowSurrogate, Bool.and_eq_true, decide_eq_true_eq] at bounds bounds'
  rw [stringTurn_unicode (by omega), if_pos isHigh, lowEscape_unicode (by omega), if_pos isLow]
  rfl

/-- The halves of a character beyond the basic plane. -/
theorem joinSurrogates_halves {c : CodePoint} (large : 0x10000 ≤ c.val) :
    joinSurrogates (0xd800 + (c.val - 0x10000) / 0x400) (0xdc00 + (c.val - 0x10000) % 0x400) = c := by
  have bound := c.isLt
  refine Fin.ext ?_
  simp only [joinSurrogates, Fin.ofNat]
  omega

theorem isHighSurrogate_half {c : CodePoint} (large : 0x10000 ≤ c.val) :
    isHighSurrogate (0xd800 + (c.val - 0x10000) / 0x400) = true := by
  have bound := c.isLt
  simp only [isHighSurrogate, Bool.and_eq_true, decide_eq_true_eq]
  omega

theorem isLowSurrogate_half (c : CodePoint) :
    isLowSurrogate (0xdc00 + (c.val - 0x10000) % 0x400) = true := by
  simp only [isLowSurrogate, Bool.and_eq_true, decide_eq_true_eq]
  omega

/-- A character that is its own escape, or an escape of one character. -/
theorem stringTurn_short {c : CodePoint} (done rest : Text)
    (short : escapeAscii c ≠ unicodeEscape c.val) (small : c.val < 0x10000) :
    stringTurn (done, escapeAscii c ++ rest) = ended (.ok (.again (done ++ [c], rest))) := by
  unfold escapeAscii at short ⊢
  split_ifs at short ⊢ with quote backslash newline return' tab feed back plain
  · rw [quote]
    rfl
  · rw [backslash]
    rfl
  · obtain rfl : c = 10 := Fin.ext newline
    rfl
  · obtain rfl : c = 13 := Fin.ext return'
    rfl
  · obtain rfl : c = 9 := Fin.ext tab
    rfl
  · obtain rfl : c = 12 := Fin.ext feed
    rfl
  · obtain rfl : c = 8 := Fin.ext back
    rfl
  · rw [stringTurn]
    dsimp only [List.singleton_append]
    rw [if_neg quote, if_neg backslash, if_neg (by omega)]
    rfl
  · exact absurd rfl short

/-- An escape is read as its character, unless it is a high half and a low one comes next. -/
theorem stringTurn_escapeAscii {c : CodePoint} (done : Text) {rest : Text}
    (alone : isHighSurrogate c.val = true → lowEscape rest = .ok none) :
    stringTurn (done, escapeAscii c ++ rest) = ended (.ok (.again (done ++ [c], rest))) := by
  by_cases large : 0x10000 ≤ c.val
  · have halves : escapeAscii c = unicodeEscape (0xd800 + (c.val - 0x10000) / 0x400) ++
        unicodeEscape (0xdc00 + (c.val - 0x10000) % 0x400) := by
      have apart : ∀ d : CodePoint, d.val < 0x10000 → c ≠ d := by
        rintro d small rfl
        omega
      unfold escapeAscii
      rw [if_neg (apart _ (by decide)), if_neg (apart _ (by decide)), if_neg (by omega),
        if_neg (by omega), if_neg (by omega), if_neg (by omega), if_neg (by omega),
        if_neg (by omega), if_neg (by omega)]
    rw [halves, List.append_assoc,
      stringTurn_pair (isHighSurrogate_half large) (isLowSurrogate_half c),
      joinSurrogates_halves large]
  · by_cases long : escapeAscii c = unicodeEscape c.val
    · rw [long, stringTurn_unicode (by omega), ofNat_val]
      split_ifs with isHigh
      · rw [alone isHigh]
        rfl
      · rfl
    · exact stringTurn_short done rest long (by omega)

theorem escapeAscii_surrogate {c : CodePoint} (low : 0xd800 ≤ c.val) (high : c.val ≤ 0xdfff) :
    escapeAscii c = unicodeEscape c.val := by
  have apart : ∀ d : CodePoint, d.val < 0xd800 → c ≠ d := by
    rintro d small rfl
    omega
  unfold escapeAscii
  rw [if_neg (apart _ (by decide)), if_neg (apart _ (by decide)), if_neg (by omega),
    if_neg (by omega), if_neg (by omega), if_neg (by omega), if_neg (by omega),
    if_neg (by omega), if_pos (by omega)]

/-- No low half is written first for any other character. -/
theorem lowEscape_escapeAscii {c : CodePoint} (other : isLowSurrogate c.val = false)
    (rest : Text) : lowEscape (escapeAscii c ++ rest) = .ok none := by
  unfold escapeAscii
  split_ifs with quote backslash newline return' tab feed back plain basic
  · rfl
  · rfl
  · rfl
  · rfl
  · rfl
  · rfl
  · rfl
  · cases rest with
    | nil => rfl
    | cons d rest =>
        show lowEscape (c :: d :: rest) = _
        rw [lowEscape, if_neg (fun both => backslash both.1)]
  · rw [lowEscape_unicode basic, other, if_neg Bool.false_ne_true]
  · have high := isHighSurrogate_half (c := c) (by omega)
    rw [List.append_assoc, lowEscape_unicode, if_neg]
    · simp only [isHighSurrogate, Bool.and_eq_true, decide_eq_true_eq] at high
      simp only [isLowSurrogate, Bool.and_eq_true, decide_eq_true_eq]
      omega
    · have bound := c.isLt
      omega

/-- The text of a string, up to its closing quote. -/
theorem stringLoop_escapeAscii (s done rest : Text) {turns : Nat} (enough : s.length < turns) :
    whileLoop stringTurn turns (done, s.flatMap escapeAscii ++ codePoint '"' :: rest) =
      ended (.ok (done ++ joinPairs s, rest)) := by
  fun_induction joinPairs s generalizing done turns with
  | case1 =>
      obtain ⟨turns, rfl⟩ : ∃ k, turns = k + 1 := ⟨turns - 1, by omega⟩
      rw [List.append_nil]
      exact whileLoop_leave rfl
  | case2 c =>
      obtain ⟨turns, rfl⟩ : ∃ k, turns = k + 2 :=
        ⟨turns - 2, by simp only [List.length_cons] at enough; omega⟩
      have quote : lowEscape (codePoint '"' :: rest) = .ok none := by
        cases rest with
        | nil => rfl
        | cons => rfl
      rw [List.flatMap_cons, List.flatMap_nil, List.append_nil,
        whileLoop_again (stringTurn_escapeAscii done fun _ => quote)]
      exact whileLoop_leave rfl
  | case3 a b more pair ih =>
      obtain ⟨turns, rfl⟩ : ∃ k, turns = k + 1 := ⟨turns - 1, by omega⟩
      obtain ⟨isHigh, isLow⟩ := pair
      have high := isHigh
      have low := isLow
      simp only [isHighSurrogate, isLowSurrogate, Bool.and_eq_true, decide_eq_true_eq] at high low
      simp only [List.flatMap_cons, List.append_assoc]
      rw [escapeAscii_surrogate (c := a) (by omega) (by omega),
        escapeAscii_surrogate (c := b) (by omega) (by omega),
        whileLoop_again (stringTurn_pair isHigh isLow done _), ih]
      · simp
      · simp only [List.length_cons] at enough
        omega
  | case4 a b more single ih =>
      obtain ⟨turns, rfl⟩ : ∃ k, turns = k + 1 := ⟨turns - 1, by omega⟩
      rw [List.flatMap_cons, List.append_assoc, whileLoop_again (stringTurn_escapeAscii done ?_),
        ih]
      · simp
      · simpa using enough
      · intro isHigh
        rw [List.flatMap_cons, List.append_assoc]
        refine lowEscape_escapeAscii ?_ _
        cases isLow : isLowSurrogate b.val with
        | false => rfl
        | true => exact absurd ⟨isHigh, isLow⟩ single

theorem escapeAscii_ne_nil (c : CodePoint) : escapeAscii c ≠ [] := by
  unfold escapeAscii
  split_ifs <;> exact List.cons_ne_nil _ _

theorem length_flatMap_escape {escape : CodePoint → Text} (nonempty : ∀ c, escape c ≠ [])
    (s : Text) : s.length ≤ (s.flatMap escape).length := by
  induction s with
  | nil => exact Nat.zero_le _
  | cons c s ih =>
      have one := List.length_pos_of_ne_nil (nonempty c)
      rw [List.flatMap_cons, List.length_append, List.length_cons]
      omega

theorem scanString_escapeAscii (s rest : Text) :
    scanString (s.flatMap escapeAscii ++ codePoint '"' :: rest) =
      ended (.ok (joinPairs s, rest)) := by
  have long := length_flatMap_escape escapeAscii_ne_nil s
  refine stringLoop_escapeAscii s [] rest ?_
  rw [List.length_append]
  omega

/-! ## Values -/

section Written

variable {py : Interpreter}

mutual

/-- Every value is read from its text. -/
theorem reads_jsonDumps (exact : py.Exact) : ∀ (value : Json Text) {depth : Nat}, value.All Json.Fine →
    value.nesting ≤ depth → Reads (scanOnce py depth) (jsonDumps value) (rejoined value)
  | .null, depth, _, _ => reads_null py depth
  | .bool true, depth, _, _ => reads_bool py depth true
  | .bool false, depth, _, _ => reads_bool py depth false
  | .int _, depth, fits, _ => reads_int py depth fits
  | .float _, depth, shaped, _ => reads_float py depth exact shaped
  | .str s, depth, _, _ => reads_str py depth (scanString_escapeAscii s)
  | .arr _, 0, _, deep => absurd deep (Nat.not_succ_le_zero _)
  | .arr items, _ + 1, fine, shallow =>
      reads_arr (reads_jsonItems exact items fine.2 (Nat.le_of_succ_le_succ shallow))
  | .obj _, 0, _, deep => absurd deep (Nat.not_succ_le_zero _)
  | .obj fields, _ + 1, fine, shallow =>
      reads_obj (reads_jsonMembers exact fields fine.2 (Nat.le_of_succ_le_succ shallow))

theorem reads_jsonItems (exact : py.Exact) : ∀ (items : List (Json Text)) {depth : Nat},
    Json.AllItems Json.Fine items → Json.nestingItems items ≤ depth →
    List.Forall₂ (Reads (scanOnce py depth)) (jsonItems items) (rejoinedItems items)
  | [], _, _, _ => .nil
  | item :: rest, _, fine, shallow =>
      .cons (reads_jsonDumps exact item fine.1 (le_trans (le_max_left _ _) shallow))
        (reads_jsonItems exact rest fine.2 (le_trans (le_max_right _ _) shallow))

theorem reads_jsonMembers (exact : py.Exact) : ∀ (fields : List (Text × Json Text)) {depth : Nat},
    Json.AllFields Json.Fine fields → Json.nestingFields fields ≤ depth →
    List.Forall₂ (ReadsMember (scanOnce py depth)) (jsonMembers fields) (rejoinedFields fields)
  | [], _, _, _ => .nil
  | (key, value) :: rest, _, fine, shallow => by
      refine .cons ⟨key.flatMap escapeAscii, jsonDumps value, ?_, scanString_escapeAscii key, ?_⟩ ?_
      · simp [jsonString]
      · exact reads_jsonDumps exact value fine.1 (le_trans (le_max_left _ _) shallow)
      · exact reads_jsonMembers exact rest fine.2 (le_trans (le_max_right _ _) shallow)

end

end Written

theorem rejoinedFields_length (fields : List (Text × Json Text)) :
    (rejoinedFields fields).length = fields.length := by
  induction fields with
  | nil => rfl
  | cons field rest ih => simp [rejoinedFields, ih]

/-! ## What comes back unchanged -/

theorem joinPairs_of_unpaired {s : Text} (h : Unpaired s) : joinPairs s = s := by
  fun_induction joinPairs s with
  | case1 => rfl
  | case2 c => rfl
  | case3 a b more pair ih => exact absurd pair (List.isChain_cons_cons.mp h).1
  | case4 a b more single ih => rw [ih (List.isChain_cons_cons.mp h).2]

theorem length_joinPairs (s : Text) : (joinPairs s).length ≤ s.length := by
  fun_induction joinPairs s with
  | case1 => exact le_rfl
  | case2 c => exact le_rfl
  | case3 a b more pair ih =>
      simp only [List.length_cons]
      omega
  | case4 a b more single ih => simpa using ih

theorem unpaired_of_joinPairs {s : Text} (h : joinPairs s = s) : Unpaired s := by
  fun_induction joinPairs s with
  | case1 => exact .nil
  | case2 c => exact .singleton c
  | case3 a b more pair ih =>
      -- one character for two
      have short := length_joinPairs more
      have := congrArg List.length h
      simp only [List.length_cons] at this
      omega
  | case4 a b more single ih =>
      exact List.isChain_cons_cons.mpr ⟨single, ih (List.cons.inj h).2⟩

theorem length_setItem (fields : List (Text × Json Text)) (key : Text) (value : Json Text) :
    (setItem fields key value).length ≤ fields.length + 1 := by
  unfold setItem
  split_ifs <;> simp

theorem length_dictOf (done fields : List (Text × Json Text)) :
    (dictOf done fields).length ≤ done.length + fields.length := by
  induction fields generalizing done with
  | nil => exact le_rfl
  | cons field fields ih =>
      have put := length_setItem done field.1 field.2
      have rest := ih (setItem done field.1 field.2)
      show (dictOf (setItem done field.1 field.2) fields).length ≤ _
      rw [List.length_cons]
      omega

/-- A dictionary of as many members as were put in has them all. -/
theorem dictOf_of_length {done fields : List (Text × Json Text)}
    (all : (dictOf done fields).length = done.length + fields.length) :
    dictOf done fields = done ++ fields := by
  induction fields generalizing done with
  | nil => exact (List.append_nil done).symm
  | cons field fields ih =>
      have rest := length_dictOf (setItem done field.1 field.2) fields
      change (dictOf (setItem done field.1 field.2) fields).length = _ at all
      show dictOf (setItem done field.1 field.2) fields = _
      rw [List.length_cons] at all
      by_cases found : (done.any fun old => old.1 = field.1) = true
      · -- the key was there: a member is lost
        have put : (setItem done field.1 field.2).length = done.length := by
          rw [setItem, if_pos found, List.length_map]
        omega
      · have put : setItem done field.1 field.2 = done ++ [field] := by
          rw [setItem, if_neg found]
        rw [put] at all ⊢
        rw [ih (by rw [all, List.length_append, List.length_singleton]; omega), List.append_assoc]
        rfl

mutual

/-- What comes back as it was: a value without pairs of surrogates. -/
theorem rejoined_eq_iff : ∀ value : Json Text, value.All Json.Fine →
    (rejoined value = value ↔ value.All Json.Settled)
  | .null, _ => by simp [rejoined, Json.All, Json.Settled]
  | .bool _, _ => by simp [rejoined, Json.All, Json.Settled]
  | .int _, _ => by simp [rejoined, Json.All, Json.Settled]
  | .float _, _ => by simp [rejoined, Json.All, Json.Settled]
  | .str s, _ => by
      simp only [rejoined, Json.All, Json.Settled, Json.str.injEq]
      exact ⟨unpaired_of_joinPairs, joinPairs_of_unpaired⟩
  | .arr items, fine => by
      simp only [rejoined, Json.All, Json.Settled, Json.arr.injEq, true_and]
      exact rejoinedItems_eq_iff items fine.2
  | .obj fields, fine => by
      have members := rejoinedFields_eq_iff fields fine.2
      simp only [rejoined, Json.All, Json.Settled, Json.obj.injEq]
      rw [← members]
      constructor
      · intro same
        have all : dictOf [] (rejoinedFields fields) = [] ++ rejoinedFields fields := by
          refine dictOf_of_length ?_
          rw [same, rejoinedFields_length]
          exact (Nat.zero_add _).symm
        exact all.symm.trans same
      · intro same
        rw [same]
        exact dictOf_nil fine.1

theorem rejoinedItems_eq_iff : ∀ items : List (Json Text), Json.AllItems Json.Fine items →
    (rejoinedItems items = items ↔ Json.AllItems Json.Settled items)
  | [], _ => by simp [rejoinedItems, Json.AllItems]
  | item :: rest, fine => by
      simp only [rejoinedItems, Json.AllItems, List.cons.injEq]
      rw [rejoined_eq_iff item fine.1, rejoinedItems_eq_iff rest fine.2]

theorem rejoinedFields_eq_iff : ∀ fields : List (Text × Json Text),
    Json.AllFields Json.Fine fields → (rejoinedFields fields = fields ↔
      (∀ field ∈ fields, Unpaired field.1) ∧ Json.AllFields Json.Settled fields)
  | [], _ => by simp [rejoinedFields, Json.AllFields]
  | (key, value) :: rest, fine => by
      simp only [rejoinedFields, Json.AllFields, List.cons.injEq, Prod.mk.injEq,
        List.forall_mem_cons]
      rw [rejoined_eq_iff value fine.1, rejoinedFields_eq_iff rest fine.2]
      constructor
      · rintro ⟨⟨key, value⟩, keys, values⟩
        exact ⟨⟨unpaired_of_joinPairs key, keys⟩, value, values⟩
      · rintro ⟨⟨key, keys⟩, value, values⟩
        exact ⟨⟨joinPairs_of_unpaired key, value⟩, keys, values⟩

end

/-! ## The whole text -/

/-- Printable ASCII. -/
def Printable (s : Text) : Prop := ∀ c ∈ s, 32 ≤ c.val ∧ c.val ≤ 126

theorem Printable.append {s t : Text} (first : Printable s) (second : Printable t) :
    Printable (s ++ t) :=
  List.forall_mem_append.mpr ⟨first, second⟩

theorem Printable.cons {c : CodePoint} {s : Text} (head : 32 ≤ c.val ∧ c.val ≤ 126)
    (tail : Printable s) : Printable (c :: s) :=
  List.forall_mem_cons.mpr ⟨head, tail⟩

theorem printable_chars {cs : List Char} (h : ∀ c ∈ cs, 32 ≤ c.toNat ∧ c.toNat ≤ 126) :
    Printable (chars cs) := by
  intro c mem
  obtain ⟨d, inside, rfl⟩ := List.mem_map.mp mem
  have bounds := h d inside
  rw [codePoint_val (by omega)]
  exact bounds

def isPrintable (c : CodePoint) : Bool := 32 ≤ c.val && c.val ≤ 126

theorem printable_of_all {s : Text} (all : s.all isPrintable = true) : Printable s := by
  intro c mem
  simpa [isPrintable] using List.all_eq_true.mp all c mem

theorem hexDigits_printable (width n : Nat) :
    ∀ c ∈ hexDigits width n, 32 ≤ c.toNat ∧ c.toNat ≤ 126 := by
  have each : ∀ digit : Fin 16, 32 ≤ (hexDigit digit).toNat ∧ (hexDigit digit).toNat ≤ 126 := by
    decide +kernel
  induction width generalizing n with
  | zero => simp [hexDigits]
  | succ width ih =>
      intro c mem
      rcases List.mem_append.mp mem with mem | mem
      · exact ih _ c mem
      · have reduced : hexDigit n = hexDigit (n % 16) := by simp [hexDigit]
        rw [List.mem_singleton.mp mem, reduced]
        exact each ⟨n % 16, Nat.mod_lt _ (by decide)⟩

theorem unicodeEscape_printable (n : Nat) : Printable (unicodeEscape n) :=
  Printable.cons (by decide) (Printable.cons (by decide) (printable_chars (hexDigits_printable 4 n)))

theorem escapeAscii_printable (c : CodePoint) : Printable (escapeAscii c) := by
  have short : ∀ d : Char, 32 ≤ d.toNat ∧ d.toNat ≤ 126 → Printable (chars ['\\', d]) := by
    intro d bounds
    exact printable_chars (List.forall_mem_cons.mpr ⟨by decide, by simpa using bounds⟩)
  unfold escapeAscii
  split_ifs with quote backslash newline return' tab feed back plain
  · exact short _ (by decide)
  · exact short _ (by decide)
  · exact short _ (by decide)
  · exact short _ (by decide)
  · exact short _ (by decide)
  · exact short _ (by decide)
  · exact short _ (by decide)
  · exact Printable.cons plain (by simp [Printable])
  · exact unicodeEscape_printable _
  · exact (unicodeEscape_printable _).append (unicodeEscape_printable _)

theorem jsonString_printable (s : Text) : Printable (jsonString s) := by
  refine Printable.cons (by decide) (Printable.append ?_ (Printable.cons (by decide) (by simp [Printable])))
  intro c mem
  obtain ⟨d, -, mem⟩ := List.mem_flatMap.mp mem
  exact escapeAscii_printable d c mem

theorem isDecimalChar_printable {c : Char} (h : isDecimalChar c = true) :
    32 ≤ c.toNat ∧ c.toNat ≤ 126 := by
  simp only [isDecimalChar, Bool.or_eq_true, beq_iff_eq] at h
  rcases h with h | rfl
  · have := digit_bounds h
    omega
  · decide

theorem digitChars_printable (digits : List (Fin 10)) :
    ∀ c ∈ Signer.digitChars digits, 32 ≤ c.toNat ∧ c.toNat ≤ 126 := by
  intro c mem
  have := digit_bounds (digitChars_isDigit digits c mem)
  omega

theorem signText_printable (negative : Bool) : Printable (signText negative) := by
  cases negative
  · simp [signText, Printable]
  · exact Printable.cons (by decide) (by simp [Printable])

theorem dumpsFloat_printable (f : FloatLit) : Printable (chars (Signer.dumpsFloat f)) := by
  cases f with
  | nan => exact printable_of_all (by decide)
  | infinity negative => cases negative <;> exact printable_of_all (by decide)
  | fixed negative whole frac =>
      rw [chars_fixed]
      exact (signText_printable negative).append ((printable_chars (digitChars_printable _)).append
        (Printable.cons (by decide) (printable_chars (digitChars_printable _))))
  | scientific negative lead frac expNegative digits =>
      rw [chars_scientific]
      refine (signText_printable negative).append
        ((printable_chars (digitChars_printable _)).append (Printable.append ?_ ?_))
      · split_ifs
        · simp [Printable]
        · exact Printable.cons (by decide) (printable_chars (digitChars_printable _))
      · refine Printable.cons (by decide) (Printable.cons ?_ (printable_chars (digitChars_printable _)))
        cases expNegative <;> decide

theorem joinComma_printable {items : List Text} (h : ∀ item ∈ items, Printable item) :
    Printable (Signer.joinComma items) := by
  induction items with
  | nil => simp [Signer.joinComma, Printable]
  | cons item rest ih =>
      cases rest with
      | nil => exact h item (by simp)
      | cons next rest =>
          exact (h item (by simp)).append
            (Printable.cons (by decide) (ih fun t mem => h t (by simp [mem])))

mutual

/-- **What `json.dumps` writes is printable ASCII**: no line end, and no other encoding. -/
theorem jsonDumps_printable : ∀ value : Json Text, Printable (jsonDumps value)
  | .null => printable_of_all (by decide)
  | .bool true => printable_of_all (by decide)
  | .bool false => printable_of_all (by decide)
  | .int i => printable_chars fun c mem => isDecimalChar_printable (decimal_chars i c mem)
  | .float f => dumpsFloat_printable f
  | .str s => jsonString_printable s
  | .arr items => Printable.cons (by decide)
      ((joinComma_printable (jsonItems_printable items)).append
        (Printable.cons (by decide) (by simp [Printable])))
  | .obj fields => Printable.cons (by decide)
      ((joinComma_printable (jsonMembers_printable fields)).append
        (Printable.cons (by decide) (by simp [Printable])))

theorem jsonItems_printable : ∀ items : List (Json Text), ∀ t ∈ jsonItems items, Printable t
  | [] => by simp [jsonItems]
  | item :: rest => List.forall_mem_cons.mpr ⟨jsonDumps_printable item, jsonItems_printable rest⟩

theorem jsonMembers_printable : ∀ fields : List (Text × Json Text),
    ∀ t ∈ jsonMembers fields, Printable t
  | [] => by simp [jsonMembers]
  | (key, value) :: rest => List.forall_mem_cons.mpr
      ⟨(jsonString_printable key).append (Printable.cons (by decide) (jsonDumps_printable value)),
        jsonMembers_printable rest⟩

end

theorem noSurrogates_jsonDumps (value : Json Text) : NoSurrogates (jsonDumps value) := by
  intro c mem
  have ascii := jsonDumps_printable value c mem
  simp only [isSurrogate, Bool.and_eq_false_iff, decide_eq_false_iff_not]
  omega

/-- The same with white space after it, such as the end of a line. -/
theorem loads_jsonDumps_space {py : Interpreter} (exact : py.Exact) {value : Json Text}
    (fine : value.All Json.Fine) (shallow : value.nesting ≤ py.depth) {spaces : Text}
    (blank : ∀ c ∈ spaces, JsonReader.isSpace c = true) :
    loads py (jsonDumps value ++ spaces) = ended (.ok (rejoined value)) := by
  refine loads_of_reads (reads_jsonDumps exact value fine shallow) ?_ blank
  intro bom
  have ascii := jsonDumps_printable value 0xfeff (List.mem_of_mem_head? bom)
  exact absurd ascii.2 (by decide)

/-- **A value comes back with its surrogate pairs joined.** -/
theorem loads_jsonDumps {py : Interpreter} (exact : py.Exact) {value : Json Text}
    (fine : value.All Json.Fine) (shallow : value.nesting ≤ py.depth) :
    loads py (jsonDumps value) = ended (.ok (rejoined value)) := by
  have nothing : ∀ c ∈ ([] : Text), JsonReader.isSpace c = true := by simp
  simpa using loads_jsonDumps_space exact fine shallow nothing

end DoorsControl.Backend
