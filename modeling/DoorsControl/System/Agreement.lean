import DoorsControl.Firmware.Command
import DoorsControl.Kit.Codes
import DoorsControl.Signer.Protocol

/-!
# Two writers of one text

The signer writes what it signs with `json.dumps`; the board rebuilds the bytes of a
command by hand. The signer's side is any JSON object, nested to any depth; the
board's side has nine fields of two kinds. Equal bytes mean equal fields:

* `escape_agree` — the two string escapes, which differ on control characters,
  never write one text for two strings;
* `value_agree` — the text of a value the board can write is the text of no other
  value, whatever the signer was given;
* `carries_of_canonicalBytes` — **a message that both sides write carries the board's
  nine fields, with the board's values**.
-/

namespace DoorsControl.System

open Signer (Dict dumps dumpsString dumpsFields dumpsFloat escapeChar joinComma member sortKeys textLe)
open Firmware (UnlockCommand canonicalBody decimalBytes escapeByte jsonString)

/-! ## Strings -/

/-- The signer's escape, byte by byte. -/
def pyEscapeByte (b : UInt8) : Bytes :=
  if b = 0x22 then [0x5c, 0x22]
  else if b = 0x5c then [0x5c, 0x5c]
  else if b = 10 then ascii "\\n"
  else if b = 13 then ascii "\\r"
  else if b = 9 then ascii "\\t"
  else if b = 12 then ascii "\\f"
  else if b = 8 then ascii "\\b"
  else if b < 0x20 then asciiBytes (['\\', 'u'] ++ hexDigits 4 b.toNat)
  else [b]

/-- The bytes that are escaped, by either side. -/
def escaped : List UInt8 := 0x22 :: 0x5c :: (List.range 32).map UInt8.ofNat

theorem mem_escaped {b : UInt8} : b ∈ escaped ↔ b = 0x22 ∨ b = 0x5c ∨ b < 0x20 := by
  simp only [escaped, List.mem_cons, List.mem_map, List.mem_range]
  refine or_congr Iff.rfl (or_congr Iff.rfl ⟨?_, ?_⟩)
  · rintro ⟨n, small, rfl⟩
    rw [UInt8.lt_iff_toNat_lt, UInt8.toNat_ofNat']
    show n % 256 < 32
    omega
  · intro small
    exact ⟨b.toNat, small, by simp⟩

theorem pyEscapeByte_plain {b : UInt8} (plain : b ∉ escaped) : pyEscapeByte b = [b] := by
  rw [mem_escaped] at plain
  push Not at plain
  obtain ⟨quote, backslash, large⟩ := plain
  have notSmall : ∀ c : UInt8, c < 0x20 → b ≠ c := by
    rintro c small rfl
    exact large small
  simp [pyEscapeByte, quote, backslash, large, notSmall 10 (by decide),
    notSmall 13 (by decide), notSmall 9 (by decide), notSmall 12 (by decide),
    notSmall 8 (by decide)]

theorem escapeByte_plain {b : UInt8} (plain : b ∉ escaped) : escapeByte b = [b] := by
  rw [mem_escaped] at plain
  push Not at plain
  obtain ⟨quote, backslash, large⟩ := plain
  simp [escapeByte, quote, backslash, large]

/-- Every escape starts with a backslash. -/
theorem escaped_head : ∀ b ∈ escaped,
    (pyEscapeByte b).head? = some 0x5c ∧ (escapeByte b).head? = some 0x5c := by
  decide +kernel

/-- No escape of one side begins another byte's escape of the other. -/
theorem escaped_agree : ∀ a ∈ escaped, ∀ b ∈ escaped,
    (pyEscapeByte a <+: escapeByte b ∨ escapeByte b <+: pyEscapeByte a) →
      a = b ∧ pyEscapeByte a = escapeByte b := by
  decide +kernel

/-- Where both sides escape a byte differently (`\n` and `\u000a`), their texts part
within the escape. -/
theorem escape_agree : Kit.Agree pyEscapeByte escapeByte := by
  have backslash : (0x5c : UInt8) ∈ escaped := by decide
  refine Kit.agree_of_prefix fun a b comparable => ?_
  by_cases onLeft : a ∈ escaped <;> by_cases onRight : b ∈ escaped
  · exact escaped_agree a onLeft b onRight comparable
  · -- a plain byte is no backslash
    exfalso
    obtain ⟨rest, shape⟩ := List.head?_eq_some_iff.mp (escaped_head a onLeft).1
    rw [escapeByte_plain onRight, shape] at comparable
    simp only [List.cons_prefix_cons] at comparable
    rcases comparable with ⟨rfl, -⟩ | ⟨rfl, -⟩ <;> exact onRight backslash
  · exfalso
    obtain ⟨rest, shape⟩ := List.head?_eq_some_iff.mp (escaped_head b onRight).2
    rw [pyEscapeByte_plain onLeft, shape] at comparable
    simp only [List.cons_prefix_cons] at comparable
    rcases comparable with ⟨rfl, -⟩ | ⟨rfl, -⟩ <;> exact onLeft backslash
  · rw [pyEscapeByte_plain onLeft, escapeByte_plain onRight] at comparable ⊢
    simp only [List.cons_prefix_cons, List.nil_prefix, and_true] at comparable
    rcases comparable with rfl | rfl <;> exact ⟨rfl, rfl⟩

theorem pyEscapeByte_avoids : Kit.Avoids pyEscapeByte 0x22 := by
  intro b
  by_cases special : b ∈ escaped
  · obtain ⟨rest, shape⟩ := List.head?_eq_some_iff.mp (escaped_head b special).1
    exact ⟨0x5c, rest, shape, by decide⟩
  · refine ⟨b, [], pyEscapeByte_plain special, ?_⟩
    rintro rfl
    exact special (by decide)

theorem escapeByte_avoids : Kit.Avoids escapeByte 0x22 := by
  intro b
  by_cases special : b ∈ escaped
  · obtain ⟨rest, shape⟩ := List.head?_eq_some_iff.mp (escaped_head b special).2
    exact ⟨0x5c, rest, shape, by decide⟩
  · refine ⟨b, [], escapeByte_plain special, ?_⟩
    rintro rfl
    exact special (by decide)

theorem utf8_escapeChar_ascii : ∀ n : Fin 128,
    utf8 (escapeChar (Fin.ofNat 0x110000 n)) = pyEscapeByte (UInt8.ofNat n) := by
  decide +kernel

theorem escapeChar_high {c : CodePoint} (high : ¬ c.val < 0x80) : escapeChar c = [c] := by
  have named : ∀ d : Char, d.toNat < 0x80 → c ≠ codePoint d := by
    rintro d small rfl
    exact high (by rw [codePoint_val small]; exact small)
  unfold escapeChar
  rw [if_neg (named _ (by decide)), if_neg (named _ (by decide)), if_neg (by omega),
    if_neg (by omega), if_neg (by omega), if_neg (by omega), if_neg (by omega),
    if_neg (by omega)]

/-- Escaping characters and escaping their bytes is one thing: only ASCII is escaped. -/
theorem utf8_escapeChar (c : CodePoint) :
    utf8 (escapeChar c) = (utf8Char c).flatMap pyEscapeByte := by
  by_cases low : c.val < 0x80
  · have known := utf8_escapeChar_ascii ⟨c.val, low⟩
    have same : Fin.ofNat 0x110000 c.val = c := Fin.ext (Nat.mod_eq_of_lt c.isLt)
    rw [same] at known
    rw [known, utf8Char_ascii low]
    simp
  · have plain : ∀ b ∈ utf8Char c, pyEscapeByte b = [b] := by
      intro b mem
      have high := utf8Char_high low b mem
      refine pyEscapeByte_plain fun special => ?_
      rcases mem_escaped.mp special with rfl | rfl | small
      · exact absurd high (by decide)
      · exact absurd high (by decide)
      · have : b.toNat < 32 := small
        omega
    rw [escapeChar_high low, List.flatMap_congr plain]
    simp [utf8]

theorem utf8_flatMap_escapeChar (s : Text) :
    utf8 (s.flatMap escapeChar) = (utf8 s).flatMap pyEscapeByte := by
  induction s with
  | nil => rfl
  | cons c s ih => simp [utf8_escapeChar, ih]

/-- Strings ended by their quote. -/
theorem string_agree {s : Text} {t : Bytes} {u v : Bytes}
    (h : utf8 (dumpsString s) ++ u = jsonString t ++ v) : utf8 s = t ∧ u = v := by
  have quote : utf8Char (codePoint '"') = [0x22] := by decide
  simp only [dumpsString, jsonString, utf8_cons, utf8_append, utf8_nil, quote,
    utf8_flatMap_escapeChar, List.cons_append, List.append_assoc, List.nil_append,
    List.append_nil, List.cons.injEq, true_and] at h
  exact escape_agree.flatMap_stop pyEscapeByte_avoids escapeByte_avoids h

/-! ## Values -/

/-- The bytes of a decimal number. -/
def isNumberByte (b : UInt8) : Bool := (0x30 ≤ b && b ≤ 0x39) || b = 0x2d

theorem isNumberByte_ofNat {c : Char} (h : isDecimalChar c = true) :
    isNumberByte (UInt8.ofNat c.toNat) = true := by
  simp only [isDecimalChar, Bool.or_eq_true, beq_iff_eq] at h
  rcases h with digit | rfl
  · have bounds := digit_bounds digit
    have value : (UInt8.ofNat c.toNat).toNat = c.toNat := by
      rw [UInt8.toNat_ofNat']
      omega
    simp only [isNumberByte, Bool.or_eq_true, Bool.and_eq_true, decide_eq_true_eq,
      UInt8.le_iff_toNat_le, value]
    exact Or.inl bounds
  · decide

theorem isNumberByte_of_mem {cs : List Char} (h : ∀ c ∈ cs, isDecimalChar c = true) :
    ∀ b ∈ asciiBytes cs, isNumberByte b = true := by
  intro b mem
  obtain ⟨c, inside, rfl⟩ := List.mem_map.mp mem
  exact isNumberByte_ofNat (h c inside)

theorem asciiBytes_inj {cs ds : List Char} (left : AsciiOnly cs) (right : AsciiOnly ds)
    (h : asciiBytes cs = asciiBytes ds) : cs = ds := by
  induction cs generalizing ds with
  | nil =>
      cases ds with
      | nil => rfl
      | cons d ds => cases h
  | cons c cs ih =>
      cases ds with
      | nil => cases h
      | cons d ds =>
          simp only [asciiBytes, List.map_cons, List.cons.injEq] at h
          have small := left c (by simp)
          have small' := right d (by simp)
          have same : c.toNat = d.toNat := by
            have := congrArg UInt8.toNat h.1
            simp only [UInt8.toNat_ofNat'] at this
            omega
          rw [Char.toNat_inj.mp same, ih (fun x mem => left x (by simp [mem]))
            (fun x mem => right x (by simp [mem])) h.2]

/-- What can follow a value inside an object. -/
def EndsValue (rest : Bytes) : Prop := ∃ more, rest = 0x2c :: more ∨ rest = 0x7d :: more

/-- The texts of values other than integers: a byte no number has, which is neither
a comma nor a brace, comes before anything could end the value. Only a string has a
quote there. -/
def Breaks (value : Json Text) : Prop :=
  ∃ before first after, utf8 (dumps value) = before ++ first :: after ∧
    (∀ b ∈ before, isNumberByte b = true) ∧ isNumberByte first = false ∧
    first ≠ 0x2c ∧ first ≠ 0x7d ∧ (first = 0x22 → ∃ s, value = .str s)

/-- A character at which a value that is no integer gives itself away. -/
def isBreakChar (c : Char) : Bool := ['n', 't', 'f', 'N', 'I', '.', 'e', '"', '[', '\x7b'].contains c

theorem isBreakChar_byte {c : Char} (h : isBreakChar c = true) : c.toNat < 0x80 ∧
    isNumberByte (UInt8.ofNat c.toNat) = false ∧ UInt8.ofNat c.toNat ≠ 0x2c ∧
    UInt8.ofNat c.toNat ≠ 0x7d ∧ (UInt8.ofNat c.toNat = 0x22 → c = '"') := by
  simp only [isBreakChar, List.contains_cons, List.contains_nil, Bool.or_false, Bool.or_eq_true,
    beq_iff_eq] at h
  rcases h with rfl | rfl | rfl | rfl | rfl | rfl | rfl | rfl | rfl | rfl <;> decide

theorem breaks_of_text {value : Json Text} (before : List Char) (c : Char) (after : Text)
    (shape : dumps value = chars before ++ codePoint c :: after)
    (number : ∀ d ∈ before, isDecimalChar d = true) (isBreak : isBreakChar c = true)
    (quote : c ≠ '"' ∨ ∃ s, value = .str s) : Breaks value := by
  obtain ⟨small, other, comma, brace, isQuote⟩ := isBreakChar_byte isBreak
  refine ⟨asciiBytes before, UInt8.ofNat c.toNat, utf8 after, ?_, isNumberByte_of_mem number,
    other, comma, brace, fun eq => quote.resolve_left fun ne => ne (isQuote eq)⟩
  rw [shape, utf8_append, utf8_chars fun d mem => isDecimalChar_small (number d mem), utf8_cons,
    utf8Char_ascii (by rw [codePoint_val small]; exact small), codePoint_val small]
  rfl

theorem digitChars_decimal (digits : List (Fin 10)) :
    ∀ c ∈ Signer.digitChars digits, isDecimalChar c = true := by
  have each : ∀ d : Fin 10, isDecimalChar (Char.ofNat (48 + d.val)) = true := by decide
  intro c mem
  obtain ⟨d, -, rfl⟩ := List.mem_map.mp mem
  exact each d

theorem sign_decimal (negative : Bool) :
    ∀ c ∈ (if negative then ['-'] else []), isDecimalChar c = true := by
  cases negative with
  | false => simp
  | true => simp [isDecimalChar]

/-- A float is not written like an integer: it has a point, an exponent or a name. -/
theorem breaks_float (f : FloatLit) : Breaks (.float f) := by
  have number : ∀ (negative : Bool) digits, ∀ c ∈ (if negative then ['-'] else []) ++
      Signer.digitChars digits, isDecimalChar c = true := by
    intro negative digits c mem
    rcases List.mem_append.mp mem with mem | mem
    · exact sign_decimal negative c mem
    · exact digitChars_decimal digits c mem
  cases f with
  | nan => exact breaks_of_text [] 'N' (chars ['a', 'N']) rfl (by simp) (by decide) (.inl (by decide))
  | infinity negative =>
      refine breaks_of_text _ 'I' (chars "nfinity".toList) ?_ (sign_decimal negative)
        (by decide) (.inl (by decide))
      simp [dumps, dumpsFloat, chars]
  | fixed negative whole frac =>
      refine breaks_of_text _ '.' (chars (Signer.digitChars frac)) ?_ (number negative whole)
        (by decide) (.inl (by decide))
      simp [dumps, dumpsFloat, chars]
  | scientific negative lead frac expNegative exponent =>
      by_cases short : frac = []
      · refine breaks_of_text _ 'e'
          (chars ((if expNegative then '-' else '+') :: Signer.digitChars exponent)) ?_
          (number negative [lead]) (by decide) (.inl (by decide))
        simp [dumps, dumpsFloat, chars, short]
      · refine breaks_of_text _ '.'
          (chars (Signer.digitChars frac ++
            'e' :: (if expNegative then '-' else '+') :: Signer.digitChars exponent)) ?_
          (number negative [lead]) (by decide) (.inl (by decide))
        simp [dumps, dumpsFloat, chars, short]

theorem breaks_of_not_int {value : Json Text} (h : ∀ i, value ≠ .int i) : Breaks value := by
  have none : ∀ c ∈ ([] : List Char), isDecimalChar c = true := by simp
  cases value with
  | null => exact breaks_of_text [] 'n' _ rfl none (by decide) (.inl (by decide))
  | bool b =>
      cases b with
      | true => exact breaks_of_text [] 't' _ rfl none (by decide) (.inl (by decide))
      | false => exact breaks_of_text [] 'f' _ rfl none (by decide) (.inl (by decide))
  | int i => exact absurd rfl (h i)
  | float f => exact breaks_float f
  | str s => exact breaks_of_text [] '"' _ rfl none (by decide) (.inr ⟨s, rfl⟩)
  | arr items => exact breaks_of_text [] '[' _ rfl none (by decide) (.inl (by decide))
  | obj fields => exact breaks_of_text [] '\x7b' _ rfl none (by decide) (.inl (by decide))

/-! ## The board's values -/

/-- What the board writes of a value: it has strings and integers only. -/
def renderValue : Json Bytes → Bytes
  | .str s => jsonString s
  | .int i => decimalBytes i
  | _ => []

/-- A value the board writes. -/
def Plain : Json Bytes → Prop
  | .str _ => True
  | .int _ => True
  | _ => False

theorem decimalBytes_number (i : Int) : ∀ b ∈ decimalBytes i, isNumberByte b = true :=
  isNumberByte_of_mem (decimal_chars i)

theorem EndsValue.cons {rest : Bytes} (h : EndsValue rest) :
    ∃ b more, rest = b :: more ∧ isNumberByte b = false ∧ b ≠ 0x22 ∧ (b = 0x2c ∨ b = 0x7d) := by
  obtain ⟨more, rfl | rfl⟩ := h
  · exact ⟨_, more, rfl, by decide, by decide, by decide⟩
  · exact ⟨_, more, rfl, by decide, by decide, by decide⟩

/-- The text of the board's value is the text of no other value. -/
theorem value_agree {value : Json Text} {target : Json Bytes} {u v : Bytes}
    (plain : Plain target) (endU : EndsValue u) (endV : EndsValue v)
    (h : utf8 (dumps value) ++ u = renderValue target ++ v) : value.wire = target ∧ u = v := by
  obtain ⟨x, u, rfl, notX, notQuote, endX⟩ := endU.cons
  obtain ⟨y, v, rfl, notY, -, endY⟩ := endV.cons
  have noNumber : ∀ b ∈ ([] : Bytes), isNumberByte b = true := by simp
  by_cases integer : ∃ j, value = .int j
  · obtain ⟨j, rfl⟩ := integer
    have digits : utf8 (dumps (.int j)) = decimalBytes j := by
      rw [dumps, utf8_chars (decimal_ascii j)]
      rfl
    rw [digits] at h
    cases target with
    | str t =>
        -- a number does not start with a quote
        obtain ⟨-, same, -⟩ := Kit.span_unique (decimalBytes_number j) noNumber notX
          (by decide : isNumberByte 0x22 = false) h
        exact absurd same notQuote
    | int i =>
        obtain ⟨same, rfl, rfl⟩ := Kit.span_unique (decimalBytes_number j)
          (decimalBytes_number i) notX notY h
        rw [decimal_inj (asciiBytes_inj (decimal_ascii j) (decimal_ascii i) same)]
        exact ⟨rfl, rfl⟩
    | _ => exact plain.elim
  · obtain ⟨before, first, after, shape, number, other, comma, brace, isString⟩ :=
      breaks_of_not_int (fun j eq => integer ⟨j, eq⟩)
    cases target with
    | str t =>
        have opened : before ++ first :: (after ++ x :: u) =
            [] ++ 0x22 :: (t.flatMap escapeByte ++ [0x22] ++ y :: v) := by
          rw [shape] at h
          simpa [renderValue, jsonString] using h
        obtain ⟨-, rfl, -⟩ := Kit.span_unique number noNumber other
          (by decide : isNumberByte 0x22 = false) opened
        obtain ⟨s, rfl⟩ := isString rfl
        obtain ⟨same, after⟩ := string_agree h
        exact ⟨congrArg Json.str same, after⟩
    | int i =>
        rw [shape, List.append_assoc] at h
        obtain ⟨-, rfl, -⟩ := Kit.span_unique number (decimalBytes_number i) other notY h
        rcases endY with rfl | rfl
        · exact absurd rfl comma
        · exact absurd rfl brace
    | _ => exact plain.elim

/-- A value that both sides write the same. -/
def Alike (value : Json Text) : Prop := utf8 (dumps value) = renderValue value.wire

/-! ## Objects -/

/-- What the board writes of a member. -/
def renderMember (field : Bytes × Json Bytes) : Bytes :=
  jsonString field.1 ++ 0x3a :: renderValue field.2

/-- The members of an object after the first, with the brace that closes it. -/
def membersTail : List Bytes → Bytes
  | [] => [0x7d]
  | item :: rest => 0x2c :: (item ++ membersTail rest)

theorem endsValue_membersTail (items : List Bytes) : EndsValue (membersTail items) := by
  cases items with
  | nil => exact ⟨[], .inr rfl⟩
  | cons item rest => exact ⟨_, .inl rfl⟩

theorem utf8_joinComma (item : Text) (rest : List Text) :
    utf8 (joinComma (item :: rest)) ++ [0x7d] = utf8 item ++ membersTail (rest.map utf8) := by
  induction rest generalizing item with
  | nil => rfl
  | cons next rest ih =>
      have comma : utf8Char (codePoint ',') = [0x2c] := by decide
      rw [joinComma, utf8_append, utf8_cons, comma, List.append_assoc, List.append_assoc, ih]
      · rfl
      · simp

theorem member_agree {field : Text × Json Text} {target : Bytes × Json Bytes} {u v : Bytes}
    (plain : Plain target.2) (endU : EndsValue u) (endV : EndsValue v)
    (h : utf8 (member (field.1, dumps field.2)) ++ u = renderMember target ++ v) :
    (utf8 field.1, field.2.wire) = target ∧ Alike field.2 ∧ u = v := by
  have colon : utf8Char (codePoint ':') = [0x3a] := by decide
  simp only [member, renderMember, utf8_append, utf8_cons, colon, List.append_assoc,
    List.cons_append, List.nil_append] at h
  obtain ⟨key, rest⟩ := string_agree h
  have values := (List.cons.inj rest).2
  obtain ⟨value, rfl⟩ := value_agree plain endU endV values
  refine ⟨Prod.ext key value, ?_, rfl⟩
  rw [Alike, value]
  exact List.append_cancel_right values

/-- Member by member, up to the closing brace. -/
theorem membersTail_agree {fields : List (Text × Json Text)} {targets : List (Bytes × Json Bytes)}
    (plain : ∀ target ∈ targets, Plain target.2)
    (h : membersTail (fields.map fun f => utf8 (member (f.1, dumps f.2))) =
      membersTail (targets.map renderMember)) :
    fields.map (fun f => (utf8 f.1, f.2.wire)) = targets ∧ ∀ f ∈ fields, Alike f.2 := by
  induction fields generalizing targets with
  | nil =>
      cases targets with
      | nil => simp
      | cons target targets => exact absurd (List.cons.inj h).1 (by decide)
  | cons field fields ih =>
      cases targets with
      | nil => exact absurd (List.cons.inj h).1 (by decide)
      | cons target targets =>
          obtain ⟨head, alike, tail⟩ := member_agree (plain target (by simp))
            (endsValue_membersTail _) (endsValue_membersTail _) (List.cons.inj h).2
          obtain ⟨heads, rest⟩ := ih (fun t mem => plain t (by simp [mem])) tail
          rw [List.map_cons, head, heads]
          exact ⟨rfl, List.forall_mem_cons.mpr ⟨alike, rest⟩⟩

theorem dumpsFields_eq (fields : Dict) :
    dumpsFields fields = fields.map fun f => (f.1, dumps f.2) := by
  induction fields with
  | nil => rfl
  | cons field rest ih => rw [dumpsFields, ih, List.map_cons]

/-- The text of an object, members in key order. -/
theorem dumps_obj (payload : Dict) :
    dumps (.obj payload) = codePoint '\x7b' :: (joinComma ((sortKeys payload).map
      fun f => member (f.1, dumps f.2)) ++ [codePoint '\x7d']) := by
  have sorted : sortKeys (dumpsFields payload) =
      (sortKeys payload).map fun f => (f.1, dumps f.2) := by
    rw [dumpsFields_eq]
    refine (List.map_insertionSort (fun a b : Text × Json Text => textLe a.1 b.1 = true) _
      (fun f => (f.1, dumps f.2)) payload fun a _ b _ => Iff.rfl).symm
  rw [dumps, sorted, List.map_map]
  rfl

theorem utf8_dumps_obj (payload : Dict) :
    utf8 (dumps (.obj payload)) = 0x7b :: (utf8 (joinComma ((sortKeys payload).map
      fun f => member (f.1, dumps f.2))) ++ [0x7d]) := by
  have opening : utf8Char (codePoint '\x7b') = [0x7b] := by decide
  have closing : utf8Char (codePoint '\x7d') = [0x7d] := by decide
  rw [dumps_obj, utf8_cons, opening, utf8_append, utf8_cons, closing]
  rfl

/-! ## Commands -/

/-- The fields of a command in the order of the canonical bytes. -/
def commandFields (command : UnlockCommand) : List (Bytes × Json Bytes) :=
  [(ascii "cmd", .str (ascii "unlock")),
   (ascii "command_id", .str command.commandId),
   (ascii "controller_code", .str command.controllerCode),
   (ascii "door_code", .str command.doorCode),
   (ascii "duration_ms", .int command.durationMs.toNat),
   (ascii "expires_at", .int command.expiresAt.toInt),
   (ascii "issued_at", .int command.issuedAt.toInt),
   (ascii "nonce", .str command.nonce),
   (ascii "relay_channel", .int command.relayChannel.toNat)]

/-- The payload has the nine fields of a command and no other, each with the value
the board read. -/
structure Carries (payload : Dict) (command : UnlockCommand) : Prop where
  fields : (payload.map Prod.fst).Perm Signer.requiredCommandFields
  values : (payload.map fun f => (utf8 f.1, f.2.wire)).Perm (commandFields command)

theorem commandFields_plain (command : UnlockCommand) :
    ∀ field ∈ commandFields command, Plain field.2 := by
  simp [commandFields, Plain]

/-- The text before the value of a member that is not the first. -/
def memberHead (key : String) : Bytes := 0x2c :: (jsonString (ascii key) ++ [0x3a])

/-- The bytes written by hand are those of an object with these members. -/
theorem canonicalBody_eq (command : UnlockCommand) :
    canonicalBody command =
      0x7b :: (membersTail ((commandFields command).map renderMember)).tail := by
  have opening : ascii "\x7b\"cmd\":\"unlock\"," ++ ascii "\"command_id\":" =
      0x7b :: (memberHead "cmd").tail ++ jsonString (ascii "unlock") ++ memberHead "command_id" := by
    decide
  have controllerCode : ascii ",\"controller_code\":" = memberHead "controller_code" := by decide
  have doorCode : ascii ",\"door_code\":" = memberHead "door_code" := by decide
  have durationMs : ascii ",\"duration_ms\":" = memberHead "duration_ms" := by decide
  have expiresAt : ascii ",\"expires_at\":" = memberHead "expires_at" := by decide
  have issuedAt : ascii ",\"issued_at\":" = memberHead "issued_at" := by decide
  have nonce : ascii ",\"nonce\":" = memberHead "nonce" := by decide
  have relayChannel : ascii ",\"relay_channel\":" = memberHead "relay_channel" := by decide
  have closing : ascii "\x7d" = [0x7d] := by decide
  delta canonicalBody
  rw [opening, controllerCode, doorCode, durationMs, expiresAt, issuedAt, nonce, relayChannel,
    closing]
  simp only [memberHead, commandFields, List.map_cons, List.map_nil, membersTail, renderMember,
    renderValue, List.tail_cons, List.append_assoc, List.cons_append, List.nil_append]

/-- Key names are ASCII, so their bytes name them. -/
theorem texts_of_utf8 {keys : List Text} {names : List String}
    (small : ∀ name ∈ names, AsciiOnly name.toList) (h : keys.map utf8 = names.map ascii) :
    keys = names.map text := by
  induction keys generalizing names with
  | nil =>
      cases names with
      | nil => rfl
      | cons name names => cases h
  | cons key keys ih =>
      cases names with
      | nil => cases h
      | cons name names =>
          obtain ⟨head, tail⟩ := List.cons.inj h
          rw [eq_chars_of_utf8 (small name (by simp)) head,
            ih (fun n mem => small n (by simp [mem])) tail]
          rfl

/-- Equal bytes, equal members, each written the same. -/
theorem members_of_body {payload : Dict} {command : UnlockCommand}
    (h : utf8 (dumps (.obj payload)) = canonicalBody command) :
    (sortKeys payload).map (fun f => (utf8 f.1, f.2.wire)) = commandFields command ∧
      ∀ f ∈ sortKeys payload, Alike f.2 := by
  rw [utf8_dumps_obj, canonicalBody_eq] at h
  have body := (List.cons.inj h).2
  refine membersTail_agree (commandFields_plain command) ?_
  cases shape : sortKeys payload with
  | nil =>
      -- an empty object closes at once
      rw [shape] at body
      exact absurd (List.cons.inj body).1 (by decide)
  | cons field rest =>
      rw [shape, List.map_cons, utf8_joinComma, List.map_map] at body
      exact congrArg (List.cons 0x2c) body

/-- **Equal bytes, equal fields.** The signer's text of an object, whatever is in it,
is the text the board writes of a command only if the object carries that command. -/
theorem carries_of_body {payload : Dict} {command : UnlockCommand}
    (h : utf8 (dumps (.obj payload)) = canonicalBody command) : Carries payload command := by
  have ordered := (members_of_body h).1
  have perm : (sortKeys payload).Perm payload := List.perm_insertionSort _ payload
  refine ⟨?_, ordered ▸ (perm.map _).symm⟩
  have keys : ((sortKeys payload).map Prod.fst).map utf8 =
      ["cmd", "command_id", "controller_code", "door_code", "duration_ms", "expires_at",
        "issued_at", "nonce", "relay_channel"].map ascii := by
    have := congrArg (List.map Prod.fst) ordered
    rw [List.map_map] at this ⊢
    exact this
  refine (perm.map Prod.fst).symm.trans ?_
  rw [texts_of_utf8 (by decide) keys]
  decide

/-- The body of a message that both sides write. -/
theorem body_of_canonicalBytes {payload : Dict} {command : UnlockCommand} {message : Bytes}
    (signer : Signer.canonicalBytes payload = some message)
    (board : message = Firmware.commandDomain ++ canonicalBody command) :
    utf8 (dumps (.obj payload)) = canonicalBody command := by
  obtain ⟨body, encoded, rfl⟩ := Option.map_eq_some_iff.mp signer
  rw [utf8_of_encodeUtf8 encoded]
  exact List.append_cancel_left board

/-- **A message that both sides write.** -/
theorem carries_of_canonicalBytes {payload : Dict} {command : UnlockCommand} {message : Bytes}
    (signer : Signer.canonicalBytes payload = some message)
    (board : message = Firmware.commandDomain ++ canonicalBody command) :
    Carries payload command :=
  carries_of_body (body_of_canonicalBytes signer board)

theorem commandFields_nodup (command : UnlockCommand) :
    ((commandFields command).map Prod.fst).Nodup := by
  show [ascii "cmd", ascii "command_id", ascii "controller_code", ascii "door_code",
    ascii "duration_ms", ascii "expires_at", ascii "issued_at", ascii "nonce",
    ascii "relay_channel"].Nodup
  decide

/-- The number the signer checked is the number the board read. -/
theorem Carries.pyInt {payload : Dict} {command : UnlockCommand} (carries : Carries payload command)
    {key : String} {checked read : Int} (small : AsciiOnly key.toList)
    (known : (ascii key, Json.int read) ∈ commandFields command)
    (h : Signer.pyInt? (Signer.field payload key) = some checked) : checked = read := by
  unfold Signer.field at h
  cases found : Json.get? payload (text key) with
  | none =>
      rw [found] at h
      cases h
  | some value =>
      rw [found, Option.getD_some] at h
      have mem : (ascii key, value.wire) ∈ commandFields command := by
        refine carries.values.subset (List.mem_map.mpr ⟨_, Json.mem_of_get? found, ?_⟩)
        rw [text, utf8_chars small, ascii]
      have same : value.wire = .int read :=
        (Prod.ext_iff.mp (List.inj_on_of_nodup_map (commandFields_nodup command) mem known rfl)).2
      cases value with
      | int i =>
          obtain rfl := Option.some.inj h
          exact Json.int.inj same
      | _ => cases same

/-- What the signer checked holds of what the board read. -/
theorem Carries.limits {payload : Dict} {command : UnlockCommand} (carries : Carries payload command)
    (valid : Signer.validateCommand payload = .ok ()) :
    (1 ≤ command.durationMs.toNat ∧ command.durationMs.toNat ≤ 10000) ∧
      1 ≤ command.expiresAt.toInt - command.issuedAt.toInt ∧
      command.expiresAt.toInt - command.issuedAt.toInt ≤ 30 := by
  obtain ⟨⟨duration, isDuration, positive, small⟩, issuedAt, expiresAt, isIssued, isExpires,
    later, soon⟩ := Signer.limits_of_validateCommand valid
  have duration_eq : duration = command.durationMs.toNat :=
    carries.pyInt (by decide) (by simp [commandFields]) isDuration
  have issued_eq : issuedAt = command.issuedAt.toInt :=
    carries.pyInt (by decide) (by simp [commandFields]) isIssued
  have expires_eq : expiresAt = command.expiresAt.toInt :=
    carries.pyInt (by decide) (by simp [commandFields]) isExpires
  simp only [Signer.maxDurationMs, Signer.maxCommandTtlSeconds] at small soon
  omega

end DoorsControl.System
