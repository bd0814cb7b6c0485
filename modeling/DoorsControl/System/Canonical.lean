import DoorsControl.Firmware.WsLink
import DoorsControl.System.Agreement
import Mathlib.Data.List.Lex
import Mathlib.Data.List.TakeWhile

/-!
# Which payloads both sides verify alike

`acs_command.h`: "A command containing a field this firmware does not know about
therefore fails verification rather than being silently accepted with the unknown part
ignored." The board picks the nine fields it knows and writes them, so what else the
payload holds is not in the bytes it verifies.

* `parseUnlockCommand_iff` — what the board reads, field by field;
* `canonicalBytes_of_faithful` — a payload of exactly these fields, in characters both
  sides write the same, is written the same;
* `board_agrees_iff` — **the payloads on which the board honours only what the
  reference verifies**.
-/

namespace DoorsControl.System

open Signer (Dict dumps dumpsString escapeChar joinComma member sortKeys textLe)
open Firmware (UnlockCommand canonicalBody cstr asCString? asUInt32? asInt64? jsonString
  escapeByte parseUnlockCommand)

/-! ## Keys in order -/

theorem textLe_iff (s t : Text) : textLe s t = true ↔ s ≤ t := by
  rw [← not_lt]
  induction s generalizing t with
  | nil => simp [textLe]
  | cons a s ih =>
      cases t with
      | nil => simp [textLe]
      | cons b t =>
          simp only [textLe, Bool.or_eq_true, Bool.and_eq_true, decide_eq_true_eq, ih,
            List.cons_lt_cons_iff, not_or, not_and, not_lt]
          constructor
          · rintro (less | ⟨rfl, before⟩)
            · exact ⟨less.le, fun same => absurd same less.ne'⟩
            · exact ⟨le_rfl, fun _ => before⟩
          · rintro ⟨le, tails⟩
            rcases le.lt_or_eq with less | rfl
            · exact .inl less
            · exact .inr ⟨rfl, tails rfl⟩

theorem sortKeys_ordered {α : Type} (fields : List (Text × α)) :
    ((sortKeys fields).map Prod.fst).Pairwise (· ≤ ·) := by
  have total : Std.Total fun a b : Text × α => textLe a.1 b.1 = true :=
    ⟨fun a b => by simpa only [textLe_iff] using le_total a.1 b.1⟩
  have trans : IsTrans (Text × α) fun a b => textLe a.1 b.1 = true :=
    ⟨fun a b c => by simpa only [textLe_iff] using le_trans⟩
  rw [List.pairwise_map]
  refine (List.pairwise_insertionSort (fun a b : Text × α => textLe a.1 b.1 = true) fields).imp ?_
  intro a b before
  exact (textLe_iff a.1 b.1).mp before

/-- The names of the nine fields in the order of the canonical bytes. -/
def canonicalFields : List String :=
  ["cmd", "command_id", "controller_code", "door_code", "duration_ms", "expires_at",
    "issued_at", "nonce", "relay_channel"]

theorem get?_of_mem {fields : Dict} (nodup : (fields.map Prod.fst).Nodup) {field : Text × Json Text}
    (mem : field ∈ fields) : Json.get? fields field.1 = some field.2 := by
  cases found : Json.get? fields field.1 with
  | none =>
      exfalso
      unfold Json.get? at found
      have unnamed := List.find?_eq_none.mp (Option.map_eq_none_iff.mp found) field mem
      simp at unnamed
  | some value =>
      have same := List.inj_on_of_nodup_map nodup (Json.mem_of_get? found) mem rfl
      rw [← same]

/-- The members of an object with exactly the nine fields. -/
theorem sortKeys_eq {payload : Dict}
    (fields : (payload.map Prod.fst).Perm Signer.requiredCommandFields) :
    sortKeys payload =
      canonicalFields.map fun key => (text key, Signer.field payload key) := by
  have perm : (sortKeys payload).Perm payload := List.perm_insertionSort _ payload
  have keys : (sortKeys payload).map Prod.fst = canonicalFields.map text := by
    refine List.Perm.eq_of_pairwise' (sortKeys_ordered payload) (by decide)
      ((perm.map Prod.fst).trans (fields.trans ?_))
    decide
  have nodup : (payload.map Prod.fst).Nodup := fields.nodup_iff.mpr (by decide)
  calc sortKeys payload
      = (sortKeys payload).map fun f => (f.1, (Json.get? payload f.1).getD .null) := by
        refine (List.map_id _).symm.trans (List.map_congr_left fun f mem => ?_)
        rw [get?_of_mem nodup (perm.subset mem)]
        rfl
    _ = ((sortKeys payload).map Prod.fst).map fun key =>
          (key, (Json.get? payload key).getD .null) := by rw [List.map_map]; rfl
    _ = canonicalFields.map fun key => (text key, Signer.field payload key) := by
        rw [keys, List.map_map]
        rfl

/-! ## Characters both sides write the same -/

/-- ASCII bytes stand for themselves only. -/
theorem mem_utf8_low {s : Text} {n : Nat} (small : n < 0x80) :
    UInt8.ofNat n ∈ utf8 s ↔ ∃ c ∈ s, c.val = n := by
  unfold utf8
  rw [List.mem_flatMap]
  refine exists_congr fun c => and_congr_right fun _ => ?_
  by_cases low : c.val < 0x80
  · rw [utf8Char_ascii low, List.mem_singleton, ← UInt8.toNat_inj, UInt8.toNat_ofNat',
      UInt8.toNat_ofNat']
    omega
  · constructor
    · intro mem
      have high := utf8Char_high low _ mem
      rw [UInt8.toNat_ofNat'] at high
      omega
    · intro same
      omega

/-- The characters that `json.dumps` has a short escape for; the board has none. -/
def shortEscapes : List Nat := [8, 9, 10, 12, 13]

theorem escapes_differ : ∀ b ∈ escaped,
    pyEscapeByte b = escapeByte b ↔ b ∉ shortEscapes.map UInt8.ofNat := by
  decide +kernel

theorem escape_eq_iff (b : UInt8) :
    pyEscapeByte b = escapeByte b ↔ b ∉ shortEscapes.map UInt8.ofNat := by
  by_cases special : b ∈ escaped
  · exact escapes_differ b special
  · have inside : (shortEscapes.map UInt8.ofNat).all escaped.contains = true := by decide
    rw [pyEscapeByte_plain special, escapeByte_plain special]
    refine iff_of_true rfl fun mem => special ?_
    exact List.contains_iff_mem.mp (List.all_eq_true.mp inside b mem)

/-- Equal texts have equal escapes throughout. -/
theorem escape_eq_of_flatMap {bytes : Bytes}
    (h : bytes.flatMap pyEscapeByte = bytes.flatMap escapeByte) :
    ∀ b ∈ bytes, pyEscapeByte b = escapeByte b := by
  induction bytes with
  | nil => simp
  | cons b rest ih =>
      rw [List.flatMap_cons, List.flatMap_cons] at h
      have tails := (escape_agree b b _ _ h).2
      rw [← tails] at h
      intro c mem
      rcases List.mem_cons.mp mem with rfl | mem
      · exact List.append_cancel_right h
      · exact ih tails c mem

theorem dumpsString_eq_iff (s : Text) :
    utf8 (dumpsString s) = jsonString (utf8 s) ↔ ∀ c ∈ s, c.val ∉ shortEscapes := by
  have quote : utf8Char (codePoint '"') = [0x22] := by decide
  have bytes : utf8 (dumpsString s) = jsonString (utf8 s) ↔
      ∀ b ∈ utf8 s, pyEscapeByte b = escapeByte b := by
    simp only [dumpsString, jsonString, utf8_cons, utf8_append, utf8_nil, quote,
      utf8_flatMap_escapeChar, List.cons_append, List.nil_append, List.append_nil,
      List.cons.injEq, true_and, List.append_left_inj]
    exact ⟨escape_eq_of_flatMap, List.flatMap_congr⟩
  rw [bytes]
  simp only [escape_eq_iff]
  constructor
  · intro clean c mem short
    have small : c.val < 0x80 := by
      have : ∀ n ∈ shortEscapes, n < 0x80 := by decide
      exact this _ short
    exact clean _ ((mem_utf8_low small).mpr ⟨c, mem, rfl⟩) (List.mem_map_of_mem short)
  · intro clean b mem short
    obtain ⟨n, isShort, rfl⟩ := List.mem_map.mp short
    have small : n < 0x80 := by
      have : ∀ n ∈ shortEscapes, n < 0x80 := by decide
      exact this _ isShort
    obtain ⟨c, inside, rfl⟩ := (mem_utf8_low small).mp mem
    exact clean c inside isShort

/-- A C string keeps what has no NUL. -/
theorem cstr_eq_iff (s : Text) : cstr (utf8 s) = utf8 s ↔ ∀ c ∈ s, c.val ≠ 0 := by
  have zero : ∀ b ∈ utf8 s, b = UInt8.ofNat 0 → ∃ c ∈ s, c.val = 0 := by
    rintro b mem rfl
    exact (mem_utf8_low (by decide)).mp mem
  unfold cstr
  rw [List.takeWhile_eq_self_iff]
  simp only [ne_eq, decide_not, Bool.not_eq_true', decide_eq_false_iff_not]
  constructor
  · intro clean c mem isZero
    exact clean _ ((mem_utf8_low (n := 0) (by decide)).mpr ⟨c, mem, isZero⟩) rfl
  · intro clean b mem isZero
    obtain ⟨c, inside, value⟩ := zero b mem isZero
    exact clean c inside value

/-! ## Surrogates -/

theorem escapeChar_surrogate_low : ∀ n : Fin 128,
    (escapeChar (Fin.ofNat 0x110000 n)).any isSurrogate = false := by
  decide +kernel

theorem any_escapeChar (c : CodePoint) : (escapeChar c).any isSurrogate = isSurrogate c := by
  by_cases low : c.val < 0x80
  · have known := escapeChar_surrogate_low ⟨c.val, low⟩
    have same : Fin.ofNat 0x110000 c.val = c := Fin.ext (Nat.mod_eq_of_lt c.isLt)
    rw [same] at known
    rw [known]
    simp only [isSurrogate, Bool.false_eq, Bool.and_eq_false_iff, decide_eq_false_iff_not]
    omega
  · rw [escapeChar_high low]
    simp

theorem any_dumpsString (s : Text) : (dumpsString s).any isSurrogate = s.any isSurrogate := by
  have quote : isSurrogate (codePoint '"') = false := by decide
  simp [dumpsString, quote, List.any_flatMap, any_escapeChar]

theorem any_joinComma (items : List Text) :
    (joinComma items).any isSurrogate = items.any fun item => item.any isSurrogate := by
  have comma : isSurrogate (codePoint ',') = false := by decide
  fun_induction joinComma items with
  | case1 => rfl
  | case2 item => simp
  | case3 item rest _ ih => simp [comma, ih]

theorem any_dumps_obj (payload : Dict) : (dumps (.obj payload)).any isSurrogate =
    payload.any fun f => f.1.any isSurrogate || (dumps f.2).any isSurrogate := by
  have colon : isSurrogate (codePoint ':') = false := by decide
  have opening : isSurrogate (codePoint '\x7b') = false := by decide
  have closing : isSurrogate (codePoint '\x7d') = false := by decide
  rw [dumps_obj]
  simp only [List.any_cons, List.any_append, any_joinComma, List.any_map, opening, closing,
    List.any_nil, Bool.or_false, Bool.false_or]
  refine ((List.perm_insertionSort _ payload).any_eq).trans ?_
  simp [Function.comp_def, member, any_dumpsString, colon]

/-! ## What the board reads -/

/-- The board reads these bytes as the string under the key. -/
def ReadsText (payload : Dict) (key : String) (bytes : Bytes) : Prop :=
  ∃ s, Json.get? payload (text key) = some (.str s) ∧ cstr (utf8 s) = bytes

def ReadsNumber (payload : Dict) (key : String) (i : Int) : Prop :=
  Json.get? payload (text key) = some (.int i)

/-- The payload as the board reads it. Other fields may stand beside these. -/
structure Reads (payload : Dict) (command : UnlockCommand) : Prop where
  cmd : ReadsText payload "cmd" (ascii "unlock")
  commandId : ReadsText payload "command_id" command.commandId
  controllerCode : ReadsText payload "controller_code" command.controllerCode
  doorCode : ReadsText payload "door_code" command.doorCode
  nonce : ReadsText payload "nonce" command.nonce
  durationMs : ReadsNumber payload "duration_ms" command.durationMs.toNat
  relayChannel : ReadsNumber payload "relay_channel" command.relayChannel.toNat
  issuedAt : ReadsNumber payload "issued_at" command.issuedAt.toInt
  expiresAt : ReadsNumber payload "expires_at" command.expiresAt.toInt

section Members

variable {payload : Dict} {key : String} (small : AsciiOnly key.toList)

include small

theorem asCString?_wire {bytes : Bytes} :
    asCString? ((Json.obj payload).wire.member? (ascii key)) = some bytes ↔
      ReadsText payload key bytes := by
  rw [Json.member?_wire payload small, ReadsText]
  cases Json.get? payload (text key) with
  | none => simp [asCString?]
  | some value => cases value <;> simp [asCString?, Json.wire, Json.map]

theorem asUInt32?_wire {n : UInt32} :
    asUInt32? ((Json.obj payload).wire.member? (ascii key)) = some n ↔
      ReadsNumber payload key n.toNat := by
  have bound := n.toNat_lt
  rw [Json.member?_wire payload small, ReadsNumber]
  cases Json.get? payload (text key) with
  | none => simp [asUInt32?]
  | some value =>
      cases value with
      | int i =>
          simp only [asUInt32?, Json.wire, Json.map, Option.map_some, Option.ite_none_right_eq_some,
            Option.some.injEq, Json.int.injEq, ← UInt32.toNat_inj, UInt32.toNat_ofNat']
          omega
      | _ => simp [asUInt32?, Json.wire, Json.map]

theorem asInt64?_wire {n : Int64} :
    asInt64? ((Json.obj payload).wire.member? (ascii key)) = some n ↔
      ReadsNumber payload key n.toInt := by
  have lower := n.le_toInt
  have upper := n.toInt_lt
  rw [Json.member?_wire payload small, ReadsNumber]
  cases Json.get? payload (text key) with
  | none => simp [asInt64?]
  | some value =>
      cases value with
      | int i =>
          simp only [asInt64?, Json.wire, Json.map, Option.map_some, Option.ite_none_right_eq_some,
            Option.some.injEq, Json.int.injEq]
          constructor
          · rintro ⟨⟨low, high⟩, rfl⟩
            exact (Int64.toInt_ofInt_of_le low high).symm
          · rintro rfl
            exact ⟨⟨lower, upper⟩, Int64.ofInt_toInt n⟩
      | _ => simp [asInt64?, Json.wire, Json.map]

end Members

/-- **What the board reads**, and that it reads nothing else. -/
theorem parseUnlockCommand_iff (payload : Dict) (command : UnlockCommand) :
    parseUnlockCommand (Json.obj payload).wire = some command ↔ Reads payload command := by
  unfold parseUnlockCommand
  simp only [Option.bind_eq_bind, Option.bind_eq_some_iff, Option.ite_none_left_eq_some,
    asCString?_wire (by decide : AsciiOnly "command_id".toList),
    asCString?_wire (by decide : AsciiOnly "cmd".toList),
    asCString?_wire (by decide : AsciiOnly "controller_code".toList),
    asCString?_wire (by decide : AsciiOnly "door_code".toList),
    asCString?_wire (by decide : AsciiOnly "nonce".toList),
    asUInt32?_wire (by decide : AsciiOnly "duration_ms".toList),
    asUInt32?_wire (by decide : AsciiOnly "relay_channel".toList),
    asInt64?_wire (by decide : AsciiOnly "issued_at".toList),
    asInt64?_wire (by decide : AsciiOnly "expires_at".toList)]
  constructor
  · rintro ⟨commandId, isId, cmd, isCmd, controllerCode, isController, doorCode, isDoor, nonce,
      isNonce, durationMs, isDuration, relayChannel, isChannel, issuedAt, isIssued, expiresAt,
      isExpires, unlock, same⟩
    obtain rfl := Option.some.inj same
    obtain rfl := not_not.mp unlock
    exact ⟨isCmd, isId, isController, isDoor, isNonce, isDuration, isChannel, isIssued, isExpires⟩
  · intro reads
    exact ⟨_, reads.commandId, _, reads.cmd, _, reads.controllerCode, _, reads.doorCode, _,
      reads.nonce, _, reads.durationMs, _, reads.relayChannel, _, reads.issuedAt, _,
      reads.expiresAt, by simp, rfl⟩

/-! ## What both sides write -/

theorem exists_of_forall₂ {α β : Type*} {R : α → β → Prop} {as : List α} {bs : List β}
    (h : List.Forall₂ R as bs) {a : α} (mem : a ∈ as) : ∃ b ∈ bs, R a b := by
  induction h with
  | nil => cases mem
  | cons head _ ih =>
      rcases List.mem_cons.mp mem with rfl | mem
      · exact ⟨_, by simp, head⟩
      · obtain ⟨b, inside, related⟩ := ih mem
        exact ⟨b, by simp [inside], related⟩

/-- A character that goes through both ends unchanged. The board's strings end at a
NUL, and a lone surrogate has no UTF-8. -/
def agreedChar (c : CodePoint) : Bool :=
  !isSurrogate c && c.val ≠ 0 && !shortEscapes.contains c.val

/-- Exactly the nine fields, in characters both sides agree on. -/
structure Faithful (payload : Dict) : Prop where
  fields : (payload.map Prod.fst).Perm Signer.requiredCommandFields
  texts : ∀ key s, (key, Json.str s) ∈ payload → s.all agreedChar = true

theorem all_agreedChar {s : Text} : s.all agreedChar = true ↔
    s.any isSurrogate = false ∧ cstr (utf8 s) = utf8 s ∧ Alike (.str s) := by
  show _ ↔ _ ∧ _ ∧ utf8 (dumpsString s) = jsonString (utf8 s)
  rw [cstr_eq_iff, dumpsString_eq_iff]
  simp only [agreedChar, List.all_eq_true, Bool.and_eq_true, Bool.not_eq_true', decide_eq_true_eq,
    List.any_eq_false, Bool.not_eq_true, List.contains_eq_mem, decide_eq_false_iff_not]
  constructor
  · intro agreed
    exact ⟨fun c mem => (agreed c mem).1.1, fun c mem => (agreed c mem).1.2,
      fun c mem => (agreed c mem).2⟩
  · rintro ⟨encodable, noNul, noShort⟩ c mem
    exact ⟨⟨encodable c mem, noNul c mem⟩, noShort c mem⟩

/-- A member of the payload is written like the board's field. -/
structure Writes (payload : Dict) (key : String) (field : Bytes × Json Bytes) : Prop where
  bytes : utf8 (member (text key, dumps (Signer.field payload key))) = renderMember field
  encodable : (dumps (Signer.field payload key)).any isSurrogate = false

theorem canonicalFields_names : ∀ key ∈ canonicalFields,
    utf8 (dumpsString (text key)) = jsonString (ascii key) ∧ (text key).any isSurrogate = false := by
  decide +kernel

theorem writes_of_alike {payload : Dict} {key : String} {value : Json Text}
    (known : key ∈ canonicalFields) (isValue : Signer.field payload key = value)
    (alike : Alike value) (encodable : (dumps value).any isSurrogate = false) :
    Writes payload key (ascii key, value.wire) := by
  subst isValue
  have colon : utf8Char (codePoint ':') = [0x3a] := by decide
  refine ⟨?_, encodable⟩
  rw [member, renderMember, utf8_append, (canonicalFields_names key known).1, utf8_cons, colon, alike]
  rfl

theorem ReadsText.writes {payload : Dict} {key : String} {bytes : Bytes}
    (reads : ReadsText payload key bytes) (faithful : Faithful payload)
    (known : key ∈ canonicalFields) : Writes payload key (ascii key, .str bytes) := by
  obtain ⟨s, found, rfl⟩ := reads
  obtain ⟨encodable, noNul, alike⟩ :=
    all_agreedChar.mp (faithful.texts _ s (Json.mem_of_get? found))
  rw [noNul]
  refine writes_of_alike known ?_ alike ?_
  · rw [Signer.field, found, Option.getD_some]
  · rw [dumps, any_dumpsString]
    exact encodable

theorem alike_int (i : Int) : Alike (.int i) := by
  show utf8 (dumps (.int i)) = asciiBytes (decimal i)
  rw [dumps, utf8_chars (decimal_ascii i)]

theorem any_chars {cs : List Char} (small : AsciiOnly cs) : (chars cs).any isSurrogate = false := by
  rw [List.any_eq_false]
  rintro c mem
  obtain ⟨d, inside, rfl⟩ := List.mem_map.mp mem
  have value := codePoint_val (small d inside)
  have bound := small d inside
  simp only [isSurrogate, Bool.and_eq_true, decide_eq_true_eq]
  omega

theorem ReadsNumber.writes {payload : Dict} {key : String} {i : Int}
    (reads : ReadsNumber payload key i) (known : key ∈ canonicalFields) :
    Writes payload key (ascii key, .int i) := by
  refine writes_of_alike known ?_ (alike_int i) ?_
  · rw [Signer.field, reads, Option.getD_some]
  · rw [dumps]
    exact any_chars (decimal_ascii i)

/-- The nine members, in order. -/
theorem Reads.writes {payload : Dict} {command : UnlockCommand} (reads : Reads payload command)
    (faithful : Faithful payload) :
    List.Forall₂ (Writes payload) canonicalFields (commandFields command) :=
  .cons (reads.cmd.writes faithful (by decide)) <|
  .cons (reads.commandId.writes faithful (by decide)) <|
  .cons (reads.controllerCode.writes faithful (by decide)) <|
  .cons (reads.doorCode.writes faithful (by decide)) <|
  .cons (reads.durationMs.writes (by decide)) <|
  .cons (reads.expiresAt.writes (by decide)) <|
  .cons (reads.issuedAt.writes (by decide)) <|
  .cons (reads.nonce.writes faithful (by decide)) <|
  .cons (reads.relayChannel.writes (by decide)) .nil

/-- **A faithful payload is written the same on both sides.** -/
theorem canonicalBytes_of_faithful {payload : Dict} {command : UnlockCommand}
    (reads : Reads payload command) (faithful : Faithful payload) :
    Signer.canonicalBytes payload = some (Firmware.commandDomain ++ canonicalBody command) := by
  have writes := reads.writes faithful
  have sorted := sortKeys_eq faithful.fields
  have perm : (sortKeys payload).Perm payload := List.perm_insertionSort _ payload
  have encodable : (dumps (.obj payload)).any isSurrogate = false := by
    rw [any_dumps_obj, ← perm.any_eq, sorted, List.any_map, List.any_eq_false]
    intro key mem
    obtain ⟨field, -, written⟩ := exists_of_forall₂ writes mem
    simp [(canonicalFields_names key mem).2, written.encodable]
  have members : ((sortKeys payload).map fun f => utf8 (member (f.1, dumps f.2))) =
      (commandFields command).map renderMember := by
    rw [sorted, List.map_map, ← List.forall₂_eq_eq_eq, List.forall₂_map_left_iff,
      List.forall₂_map_right_iff]
    exact writes.imp fun _ _ written => written.bytes
  have body : utf8 (dumps (.obj payload)) = canonicalBody command := by
    rw [utf8_dumps_obj, canonicalBody_eq, ← members, sorted]
    exact congrArg (List.cons 0x7b) (utf8_joinComma _ _)
  rw [Signer.canonicalBytes, encodeUtf8, encodable, if_neg (by simp), Option.map_some, body]
  rfl

/-! ## Verification on both sides -/

/-- The board's check of a payload against a signature. -/
def boardAccepts (verify : (signature message : Bytes) → Bool) (payload : Dict)
    (signature : Bytes) : Bool :=
  match parseUnlockCommand (Json.obj payload).wire with
  | none => false
  | some command =>
      match Firmware.canonicalCommandBytes command Firmware.maxCanonical with
      | none => false
      | some canonical => verify signature canonical

/-- The check of the reference controller: the signature against `canonical_bytes`. -/
def referenceAccepts (verify : (signature message : Bytes) → Bool) (payload : Dict)
    (signature : Bytes) : Bool :=
  match Signer.canonicalBytes payload with
  | none => false
  | some canonical => verify signature canonical

/-- What passes on the board passes at the reference, and has no field the board does
not know. -/
def Agrees (payload : Dict) : Prop :=
  ∀ (verify : (signature message : Bytes) → Bool) (signature : Bytes), signature.length = 64 →
    boardAccepts verify payload signature = true →
      referenceAccepts verify payload signature = true ∧
        ∀ field ∈ payload, field.1 ∈ Signer.requiredCommandFields

/-- The command fits the board's buffer. -/
def Fits (command : UnlockCommand) : Prop :=
  (Firmware.commandDomain ++ canonicalBody command).length ≤ Firmware.maxCanonical

theorem boardAccepts_iff (verify : (signature message : Bytes) → Bool) (payload : Dict)
    (signature : Bytes) : boardAccepts verify payload signature = true ↔
      ∃ command, Reads payload command ∧ Fits command ∧
        verify signature (Firmware.commandDomain ++ canonicalBody command) = true := by
  unfold boardAccepts
  cases parsed : parseUnlockCommand (Json.obj payload).wire with
  | none =>
      refine iff_of_false (by simp) ?_
      rintro ⟨command, reads, -⟩
      rw [(parseUnlockCommand_iff payload command).mpr reads] at parsed
      cases parsed
  | some command =>
      have reads := (parseUnlockCommand_iff payload command).mp parsed
      have only : ∀ other, Reads payload other → other = command := by
        intro other also
        rw [(parseUnlockCommand_iff payload other).mpr also] at parsed
        exact Option.some.inj parsed
      simp only [Firmware.canonicalCommandBytes]
      by_cases fits : Fits command
      · rw [if_neg (Nat.not_lt.mpr fits)]
        constructor
        · intro verified
          exact ⟨command, reads, fits, verified⟩
        · rintro ⟨other, also, -, verified⟩
          rw [only other also] at verified
          exact verified
      · rw [if_pos (Nat.not_le.mp fits)]
        refine iff_of_false (by simp) ?_
        rintro ⟨other, also, fitsOther, -⟩
        rw [only other also] at fitsOther
        exact fits fitsOther

/-- What the board read has no NUL. -/
theorem cstr_cstr (bytes : Bytes) : cstr (cstr bytes) = cstr bytes :=
  List.takeWhile_idem

theorem Reads.noNul {payload : Dict} {command : UnlockCommand} (reads : Reads payload command) :
    ∀ key bytes, (key, Json.str bytes) ∈ commandFields command → cstr bytes = bytes := by
  have kept : ∀ {key bytes}, ReadsText payload key bytes → cstr bytes = bytes := by
    rintro key bytes ⟨s, -, rfl⟩
    exact cstr_cstr _
  intro key bytes mem
  simp only [commandFields, List.mem_cons, Prod.mk.injEq, Json.str.injEq, reduceCtorEq, and_false,
    List.not_mem_nil, or_false, false_or] at mem
  rcases mem with ⟨-, rfl⟩ | ⟨-, rfl⟩ | ⟨-, rfl⟩ | ⟨-, rfl⟩ | ⟨-, rfl⟩
  · decide
  · exact kept reads.commandId
  · exact kept reads.controllerCode
  · exact kept reads.doorCode
  · exact kept reads.nonce

/-- A payload that both sides write the same is faithful. -/
theorem faithful_of_canonicalBytes {payload : Dict} {command : UnlockCommand}
    (reads : Reads payload command)
    (same : Signer.canonicalBytes payload =
      some (Firmware.commandDomain ++ canonicalBody command)) : Faithful payload := by
  have carries := carries_of_canonicalBytes same rfl
  have alike := (members_of_body (body_of_canonicalBytes same rfl)).2
  have perm : (sortKeys payload).Perm payload := List.perm_insertionSort _ payload
  have encodable : (dumps (.obj payload)).any isSurrogate = false := by
    by_contra surrogate
    rw [Signer.canonicalBytes, encodeUtf8, if_pos (by simpa using surrogate)] at same
    cases same
  rw [any_dumps_obj, List.any_eq_false] at encodable
  refine ⟨carries.fields, fun key s mem => all_agreedChar.mpr ⟨?_, ?_, ?_⟩⟩
  · have one := encodable _ mem
    rw [dumps, any_dumpsString] at one
    simp only [Bool.or_eq_true, not_or, Bool.not_eq_true] at one
    exact one.2
  · -- the board kept all of it, so there was nothing to cut off
    exact reads.noNul _ _ (carries.values.subset (List.mem_map_of_mem mem))
  · exact alike _ (perm.symm.subset mem)

/-- **Where the board agrees with the reference**: on payloads it does not read, or
that hold exactly the nine fields in characters both sides write the same. -/
theorem board_agrees_iff (payload : Dict) :
    Agrees payload ↔ ∀ command, Reads payload command → Fits command → Faithful payload := by
  constructor
  · intro agrees command reads fits
    -- a verifier that accepts the board's bytes and nothing else
    let message := Firmware.commandDomain ++ canonicalBody command
    have onBoard : boardAccepts (fun _ m => m = message) payload (List.replicate 64 0) = true :=
      (boardAccepts_iff _ _ _).mpr ⟨command, reads, fits, by simp [message]⟩
    have atReference := (agrees _ _ (by simp) onBoard).1
    unfold referenceAccepts at atReference
    split at atReference
    · cases atReference
    · rename_i canonical written
      obtain rfl := of_decide_eq_true atReference
      exact faithful_of_canonicalBytes reads written
  · intro condition verify signature _ accepted
    obtain ⟨command, reads, fits, verified⟩ := (boardAccepts_iff _ _ _).mp accepted
    have faithful := condition command reads fits
    constructor
    · rw [referenceAccepts, canonicalBytes_of_faithful reads faithful]
      exact verified
    · intro field mem
      exact faithful.fields.subset (List.mem_map_of_mem mem)

/-! A genuine command, and the same with one more field under the same signature. -/

def plainCommand : Dict :=
  [(text "command_id", .str (text "123e4567-e89b-12d3-a456-426614174000")),
   (text "cmd", .str (text "unlock")),
   (text "controller_code", .str (text "ctrl-01")),
   (text "door_code", .str (text "lab")),
   (text "relay_channel", .int 1),
   (text "duration_ms", .int 3000),
   (text "issued_at", .int 1750000000),
   (text "expires_at", .int 1750000030),
   (text "nonce", .str (text "AAAAAAAAAAAAAAAAAAAAAA"))]

def extendedCommand : Dict := plainCommand ++ [(text "hold_open", .bool true)]

/-- Verification of the one signature that the signer made, over the plain command. -/
def plainVerify (signature message : Bytes) : Bool :=
  signature = List.replicate 64 0x5a && some message = Signer.canonicalBytes plainCommand

/-- A field the board does not know is ignored. -/
theorem unknown_field_ignored :
    boardAccepts plainVerify extendedCommand (List.replicate 64 0x5a) = true ∧
    referenceAccepts plainVerify extendedCommand (List.replicate 64 0x5a) = false ∧
    text "hold_open" ∉ Signer.requiredCommandFields ∧ ¬ Agrees extendedCommand := by
  have onBoard : boardAccepts plainVerify extendedCommand (List.replicate 64 0x5a) = true := by
    decide +kernel
  have unknown : text "hold_open" ∉ Signer.requiredCommandFields := by decide
  refine ⟨onBoard, by decide +kernel, unknown, fun agrees => unknown ?_⟩
  exact (agrees _ _ (by simp) onBoard).2 (text "hold_open", .bool true) (by simp [extendedCommand])

end DoorsControl.System
