import DoorsControl.Backend.Doors
import DoorsControl.Backend.SignerClient
import DoorsControl.Signer.Server
import DoorsControl.System.Canonical

/-!
# Genuine commands

What the backend builds for a door of the admin API is what the signer accepts, what
the board reads, and what both write the same.

* `commandPayload_valid` — the signer's checks;
* `commandPayload_reads`, `commandPayload_faithful` — the board's fields, in characters
  both sides agree on;
* `commandPayload_fits` — the board's buffer;
* `genuine_verifies` — **the board rebuilds the bytes under the signature**.
-/

namespace DoorsControl.System

open Backend (UnlockSettings DoorRecord DoorController DoorRow ControllerRow ControllerCreate Creatable
  byId commandPayload commandEnvelope decodeLine encodeRequest frame isCodeChar)
open Firmware (UnlockCommand canonicalBody jsonString escapeByte decimalBytes)
open Signer (Dict)

/-! ## Plain characters -/

/-- Printable ASCII that JSON has no escape for. -/
def isPlainChar (c : CodePoint) : Bool :=
  0x20 ≤ c.val && c.val < 0x7f && c ≠ codePoint '"' && c ≠ codePoint '\\'

theorem isPlainChar_low : ∀ n : Fin 128, isPlainChar (Fin.ofNat 0x110000 n) = true →
    agreedChar (Fin.ofNat 0x110000 n) = true ∧ escapeByte (UInt8.ofNat n) = [UInt8.ofNat n] := by
  decide +kernel

theorem isPlainChar_spec {c : CodePoint} (plain : isPlainChar c = true) :
    agreedChar c = true ∧ ∃ b, utf8Char c = [b] ∧ escapeByte b = [b] := by
  have low : c.val < 0x80 := by
    simp only [isPlainChar, Bool.and_eq_true, decide_eq_true_eq] at plain
    omega
  have same : Fin.ofNat 0x110000 c.val = c := Fin.ext (Nat.mod_eq_of_lt c.isLt)
  have known := isPlainChar_low ⟨c.val, low⟩
  rw [same] at known
  obtain ⟨agreed, unescaped⟩ := known plain
  exact ⟨agreed, _, utf8Char_ascii low, unescaped⟩

theorem length_jsonString {s : Text} (plain : s.all isPlainChar = true) :
    (jsonString (utf8 s)).length = s.length + 2 := by
  have body : ((utf8 s).flatMap escapeByte).length = s.length := by
    induction s with
    | nil => rfl
    | cons c s ih =>
        rw [List.all_cons, Bool.and_eq_true] at plain
        obtain ⟨-, b, byte, unescaped⟩ := isPlainChar_spec plain.1
        rw [utf8_cons, byte, List.singleton_append, List.flatMap_cons, unescaped, List.length_append,
          ih plain.2]
        simp [Nat.add_comm]
  simp [jsonString, body]

theorem all_agreed_of_plain {s : Text} (plain : s.all isPlainChar = true) :
    s.all agreedChar = true := by
  rw [List.all_eq_true] at plain ⊢
  intro c mem
  exact (isPlainChar_spec (plain c mem)).1

theorem code_plain {code : Text} (pattern : code.all isCodeChar = true) :
    code.all isPlainChar = true := by
  have dash : (codePoint '-').val = 0x2d := by decide
  have quote : (codePoint '"').val = 0x22 := by decide
  have backslash : (codePoint '\\').val = 0x5c := by decide
  rw [List.all_eq_true] at pattern ⊢
  intro c mem
  have inside := pattern c mem
  simp only [isCodeChar, isPlainChar, Bool.or_eq_true, Bool.and_eq_true, decide_eq_true_eq, ne_eq,
    Fin.ext_iff, dash, quote, backslash] at inside ⊢
  omega

/-! ## Identifiers and nonces -/

theorem hexDigit_plain : ∀ n : Fin 16, isPlainChar (codePoint (hexDigit n)) = true := by
  decide +kernel

theorem hexDigits_plain (width n : Nat) : (chars (hexDigits width n)).all isPlainChar = true := by
  induction width generalizing n with
  | zero => rfl
  | succ width ih =>
      have last : hexDigit n = hexDigit (n % 16) := by simp [hexDigit]
      have known := hexDigit_plain ⟨n % 16, Nat.mod_lt _ (by decide)⟩
      rw [hexDigits, chars, List.map_append, List.all_append, ← chars, ih, last]
      simpa using known

theorem uuidText_plain (id : Uuid) : (uuidText id).all isPlainChar = true := by
  have dash : isPlainChar (codePoint '-') = true := by decide
  have parts := hexDigits_plain
  simp only [chars] at parts
  simp only [uuidText, uuidChars, chars, List.map_append, List.map_cons, List.all_append,
    List.all_cons, parts, dash, Bool.and_self]

theorem length_uuidText (id : Uuid) : (uuidText id).length = 36 := by
  simp [uuidText, uuidChars, chars, length_hexDigits]

theorem uuidChars_ascii (id : Uuid) : AsciiOnly (uuidChars id) := by
  intro c mem
  have plain := List.all_eq_true.mp (uuidText_plain id) (codePoint c) (List.mem_map_of_mem mem)
  simp only [isPlainChar, Bool.and_eq_true] at plain
  have low : c.toNat % 0x110000 < 0x7f := of_decide_eq_true plain.1.1.2
  have valid : c.toNat < 0xd800 ∨ 0xdfff < c.toNat ∧ c.toNat < 0x110000 := c.valid
  omega

/-- No two UUIDs have the same text. -/
theorem utf8_uuidText_inj {a b : Uuid} (same : utf8 (uuidText a) = utf8 (uuidText b)) : a = b := by
  rw [uuidText, uuidText, utf8_chars (uuidChars_ascii a), utf8_chars (uuidChars_ascii b)] at same
  exact uuidChars_inj (asciiBytes_inj (uuidChars_ascii a) (uuidChars_ascii b) same)

theorem urlDigit_small : ∀ n : Fin 62, base64Digit '-' '_' n ≠ '=' ∧
    isPlainChar (codePoint (base64Digit '-' '_' n)) = true := by
  decide +kernel

theorem urlDigit (n : Nat) : base64Digit '-' '_' n ≠ '=' ∧
    isPlainChar (codePoint (base64Digit '-' '_' n)) = true := by
  by_cases small : n < 62
  · exact urlDigit_small ⟨n, small⟩
  · have special : base64Digit '-' '_' n = '-' ∨ base64Digit '-' '_' n = '_' := by
      unfold base64Digit
      rw [if_neg (by omega), if_neg (by omega), if_neg small]
      split_ifs <;> simp
    rcases special with is | is <;> rw [is] <;> decide

/-- Groups of three bytes, then one byte with its padding. -/
theorem base64With_padded (digit : Nat → Char) (groups : Nat) {bytes : Bytes}
    (h : bytes.length = 3 * groups + 1) : ∃ digits : List Nat, digits.length = 4 * groups + 2 ∧
      base64With digit bytes = digits.map digit ++ ['=', '='] := by
  induction groups generalizing bytes with
  | zero =>
      obtain ⟨a, rfl⟩ := List.length_eq_one_iff.mp h
      exact ⟨[_, _], rfl, rfl⟩
  | succ groups ih =>
      match bytes, h with
      | a :: b :: c :: rest, h =>
          have shorter : rest.length = 3 * groups + 1 := by
            simp only [List.length_cons] at h
            omega
          obtain ⟨digits, count, shape⟩ := ih shorter
          let n := a.toNat * 65536 + b.toNat * 256 + c.toNat
          refine ⟨[n / 262144, n / 4096 % 64, n / 64 % 64, n % 64] ++ digits, ?_, ?_⟩
          · rw [List.length_append, count]
            show 4 + (4 * groups + 2) = _
            omega
          · rw [base64With, shape]
            rfl

/-- Nothing of the digits is stripped. -/
theorem rstripChar_padding {α : Type} [DecidableEq α] (c : α) {s : List α} (other : ∀ x ∈ s, x ≠ c) :
    rstripChar c (s ++ [c, c]) = s := by
  have kept : s.reverse.dropWhile (fun x => decide (x = c)) = s.reverse := by
    rw [List.dropWhile_eq_self_iff]
    intro nonempty
    have inside : s.reverse[0] ∈ s := List.mem_reverse.mp (List.getElem_mem _)
    have ne := other _ inside
    simpa using ne
  simp [rstripChar, kept]

/-- The nonce of a command. -/
def nonceText (nonce : Bytes) : Text := chars (rstripChar '=' (urlsafeB64encode nonce))

theorem nonceText_spec {nonce : Bytes} (sixteen : nonce.length = 16) :
    (nonceText nonce).length = 22 ∧ (nonceText nonce).all isPlainChar = true := by
  obtain ⟨digits, count, shape⟩ := base64With_padded (base64Digit '-' '_') 5 sixteen
  have other : ∀ x ∈ digits.map (base64Digit '-' '_'), x ≠ '=' := by
    intro x mem
    obtain ⟨n, -, rfl⟩ := List.mem_map.mp mem
    exact (urlDigit n).1
  rw [nonceText, urlsafeB64encode, shape, rstripChar_padding '=' other, chars, List.map_map]
  refine ⟨by simpa using count, ?_⟩
  rw [List.all_map, List.all_eq_true]
  intro n _
  exact (urlDigit n).2

/-! ## Numbers -/

theorem length_decimalBytes {i : Int} {k : Nat} (positive : 0 < k) (low : 0 ≤ i)
    (high : i.toNat < Nat.pow 10 k) : (decimalBytes i).length ≤ k := by
  obtain ⟨n, rfl⟩ := Int.eq_ofNat_of_zero_le low
  have small : n < Nat.pow 10 k := high
  have digits := (Nat.length_toDigits_le_iff (b := 10) (by decide) positive).mpr small
  rw [decimalBytes, asciiBytes, List.length_map, decimal, if_neg (by omega)]
  exact digits

theorem toNat_ofNat_toNat {i : Int} (low : 0 ≤ i) (high : i < 0x100000000) :
    ((UInt32.ofNat i.toNat).toNat : Int) = i := by
  rw [UInt32.toNat_ofNat']
  omega

/-! ## The payload of a command -/

/-- A door and the code of its controller, as the admin API admits them. -/
structure Admissible (door : DoorRecord) (controllerCode : Text) : Prop where
  doorCode : door.code.length ≤ 64 ∧ door.code.all isCodeChar = true
  controllerCode : controllerCode.length ≤ 64 ∧ controllerCode.all isCodeChar = true
  relayChannel : 1 ≤ door.relayChannel ∧ door.relayChannel ≤ 4
  unlockSeconds : 1 ≤ door.unlockSeconds ∧ door.unlockSeconds ≤ 10

section Command

variable {settings : UnlockSettings} {door : DoorRecord} {controllerCode : Text}
  {commandId : Uuid} {issuedAt : Int} {nonce : Bytes}

/-- What the board reads of the payload. -/
def genuineCommand (settings : UnlockSettings) (door : DoorRecord) (controllerCode : Text)
    (commandId : Uuid) (issuedAt : Int) (nonce : Bytes) : UnlockCommand where
  commandId := utf8 (uuidText commandId)
  controllerCode := utf8 controllerCode
  doorCode := utf8 door.code
  durationMs := UInt32.ofNat (door.unlockSeconds * 1000).toNat
  relayChannel := UInt32.ofNat door.relayChannel.toNat
  issuedAt := Int64.ofInt issuedAt
  expiresAt := Int64.ofInt (issuedAt + settings.commandTtlSeconds)
  nonce := utf8 (nonceText nonce)

variable (admissible : Admissible door controllerCode) (sixteen : nonce.length = 16)
  (issued : 0 ≤ issuedAt ∧ issuedAt < 0x80000000)
  (ttl : 1 ≤ settings.commandTtlSeconds ∧ settings.commandTtlSeconds ≤ 30)

include admissible sixteen

theorem commandPayload_texts {key : Text} {s : Text}
    (mem : (key, Json.str s) ∈
      commandPayload settings door controllerCode commandId issuedAt nonce) :
    s.all isPlainChar = true := by
  simp only [commandPayload, List.mem_cons, Prod.mk.injEq, Json.str.injEq, reduceCtorEq, and_false,
    List.not_mem_nil, or_false, false_or] at mem
  rcases mem with ⟨-, rfl⟩ | ⟨-, rfl⟩ | ⟨-, rfl⟩ | ⟨-, rfl⟩ | ⟨-, rfl⟩
  · exact uuidText_plain commandId
  · decide
  · exact code_plain admissible.controllerCode.2
  · exact code_plain admissible.doorCode.2
  · exact (nonceText_spec sixteen).2

theorem commandPayload_faithful :
    Faithful (commandPayload settings door controllerCode commandId issuedAt nonce) := by
  refine ⟨.refl _, ?_⟩
  intro key s mem
  exact all_agreed_of_plain (commandPayload_texts admissible sixteen mem)

include ttl

/-- **The signer's checks.** -/
theorem commandPayload_valid : Signer.validateCommand
    (commandPayload settings door controllerCode commandId issuedAt nonce) = .ok () := by
  obtain ⟨shortest, longest⟩ := admissible.unlockSeconds
  have long : 16 ≤ (nonceText nonce).length := by
    have := (nonceText_spec sixteen).1
    omega
  have fields : Signer.checkFields
      (commandPayload settings door controllerCode commandId issuedAt nonce) = .ok () := rfl
  have cmd : Signer.checkCmd
      (commandPayload settings door controllerCode commandId issuedAt nonce) = .ok () := rfl
  have duration : Signer.checkDuration
      (commandPayload settings door controllerCode commandId issuedAt nonce) = .ok () := by
    show Signer.require (0 < door.unlockSeconds * 1000 &&
      door.unlockSeconds * 1000 ≤ Signer.maxDurationMs) _ = _
    rw [Signer.maxDurationMs, decide_eq_true (by omega), decide_eq_true (by omega)]
    rfl
  have life : Signer.checkTtl
      (commandPayload settings door controllerCode commandId issuedAt nonce) = .ok () := by
    show Signer.require (0 < issuedAt + settings.commandTtlSeconds - issuedAt &&
      issuedAt + settings.commandTtlSeconds - issuedAt ≤ Signer.maxCommandTtlSeconds) _ = _
    rw [Signer.maxCommandTtlSeconds, decide_eq_true (by omega), decide_eq_true (by omega)]
    rfl
  have drawn : Signer.checkNonce
      (commandPayload settings door controllerCode commandId issuedAt nonce) = .ok () := by
    show Signer.require (decide (16 ≤ (nonceText nonce).length)) _ = _
    rw [decide_eq_true long]
    rfl
  rw [Signer.validateCommand, fields, cmd, duration, life, drawn]
  rfl

include issued

/-- **The board's fields.** -/
theorem commandPayload_reads :
    Reads (commandPayload settings door controllerCode commandId issuedAt nonce)
      (genuineCommand settings door controllerCode commandId issuedAt nonce) := by
  obtain ⟨shortest, longest⟩ := admissible.unlockSeconds
  obtain ⟨lowest, highest⟩ := admissible.relayChannel
  have kept : ∀ (key : String) {s : Text}, (text key, Json.str s) ∈
      commandPayload settings door controllerCode commandId issuedAt nonce →
        Firmware.cstr (utf8 s) = utf8 s := fun _ _ mem =>
    (all_agreedChar.mp ((commandPayload_faithful admissible sixteen).texts _ _ mem)).2.1
  have instant : ∀ {i : Int}, 0 ≤ i → i < 0x100000000 → (Int64.ofInt i).toInt = i := by
    intro i low high
    exact Int64.toInt_ofInt_of_le (by omega) (by omega)
  constructor
  · exact ⟨text "unlock", rfl, by decide⟩
  · refine ⟨uuidText commandId, rfl, ?_⟩
    rw [kept "command_id" (by simp [commandPayload]), genuineCommand]
  · refine ⟨controllerCode, rfl, ?_⟩
    rw [kept "controller_code" (by simp [commandPayload]), genuineCommand]
  · refine ⟨door.code, rfl, ?_⟩
    rw [kept "door_code" (by simp [commandPayload]), genuineCommand]
  · refine ⟨nonceText nonce, rfl, ?_⟩
    rw [kept "nonce" (by simp [commandPayload, nonceText]), genuineCommand]
  · show some (Json.int (door.unlockSeconds * 1000)) = _
    rw [genuineCommand, toNat_ofNat_toNat (by omega) (by omega)]
  · show some (Json.int door.relayChannel) = _
    rw [genuineCommand, toNat_ofNat_toNat (by omega) (by omega)]
  · show some (Json.int issuedAt) = _
    rw [genuineCommand, instant (by omega) (by omega)]
  · show some (Json.int (issuedAt + settings.commandTtlSeconds)) = _
    rw [genuineCommand, instant (by omega) (by omega)]

/-- **The board's buffer.** -/
theorem commandPayload_fits :
    Fits (genuineCommand settings door controllerCode commandId issuedAt nonce) := by
  obtain ⟨shortest, longest⟩ := admissible.unlockSeconds
  obtain ⟨lowest, highest⟩ := admissible.relayChannel
  have duration : ((UInt32.ofNat (door.unlockSeconds * 1000).toNat).toNat : Int) =
      door.unlockSeconds * 1000 := toNat_ofNat_toNat (by omega) (by omega)
  have channel : ((UInt32.ofNat door.relayChannel.toNat).toNat : Int) = door.relayChannel :=
    toNat_ofNat_toNat (by omega) (by omega)
  have begins : (Int64.ofInt issuedAt).toInt = issuedAt :=
    Int64.toInt_ofInt_of_le (by omega) (by omega)
  have ends : (Int64.ofInt (issuedAt + settings.commandTtlSeconds)).toInt =
      issuedAt + settings.commandTtlSeconds := Int64.toInt_ofInt_of_le (by omega) (by omega)
  -- the five strings
  have idLength := length_jsonString (uuidText_plain commandId)
  have controllerLength := length_jsonString (code_plain admissible.controllerCode.2)
  have doorLength := length_jsonString (code_plain admissible.doorCode.2)
  have nonceLength := length_jsonString (nonceText_spec sixteen).2
  rw [length_uuidText] at idLength
  rw [(nonceText_spec sixteen).1] at nonceLength
  have controllerBound := admissible.controllerCode.1
  have doorBound := admissible.doorCode.1
  -- the four numbers
  have durationLength := length_decimalBytes (i := door.unlockSeconds * 1000) (k := 5)
    (by omega) (by omega) (show _ < 100000 by omega)
  have channelLength := length_decimalBytes (i := door.relayChannel) (k := 1)
    (by omega) (by omega) (show _ < 10 by omega)
  have issuedLength := length_decimalBytes (i := issuedAt) (k := 10)
    (by omega) (by omega) (show _ < 10000000000 by omega)
  have expiresLength := length_decimalBytes (i := issuedAt + settings.commandTtlSeconds) (k := 10)
    (by omega) (by omega) (show _ < 10000000000 by omega)
  have literals : (Firmware.commandDomain ++ ascii "\x7b\"cmd\":\"unlock\"," ++ ascii "\"command_id\":" ++
      ascii ",\"controller_code\":" ++ ascii ",\"door_code\":" ++ ascii ",\"duration_ms\":" ++
      ascii ",\"expires_at\":" ++ ascii ",\"issued_at\":" ++ ascii ",\"nonce\":" ++
      ascii ",\"relay_channel\":" ++ ascii "\x7d").length ≤ 160 := by
    decide +kernel
  delta Fits Firmware.maxCanonical canonicalBody
  simp only [List.length_append] at literals ⊢
  simp only [genuineCommand, duration, channel, begins, ends]
  omega

end Command

/-! ## Signed here, rebuilt there -/

/-- What `sign_command` asks for. -/
def signRequest (payload : Dict) : Dict :=
  [(text "op", .str (text "sign")), (text "payload", .obj payload)]

/-- Rows that went through the schemas of the admin API. -/
theorem admissible_of_creatable {controllers : List ControllerRow} {doors : List DoorRow}
    (creatable : Creatable controllers doors)
    (registered : ∀ row ∈ controllers, ∃ body : ControllerCreate, row.code = body.code)
    {doorId : Uuid} {door : DoorRecord} (found : byId controllers doors doorId = some door)
    {controller : DoorController} (joined : door.controller = some controller) :
    Admissible door controller.code := by
  obtain ⟨row, isRow, rfl⟩ := Option.map_eq_some_iff.mp found
  obtain ⟨body, code, channel, seconds⟩ :=
    creatable.admissible row (List.mem_of_find?_eq_some isRow)
  obtain ⟨id, -, isJoined⟩ := Option.bind_eq_some_iff.mp joined
  obtain ⟨owner, isOwner, rfl⟩ := Option.map_eq_some_iff.mp isJoined
  obtain ⟨ownerBody, ownerCode⟩ := registered owner (List.mem_of_find?_eq_some isOwner)
  constructor
  · show row.code.length ≤ 64 ∧ row.code.all isCodeChar = true
    rw [code]
    exact ⟨body.code_length.2, body.code_pattern⟩
  · show owner.code.length ≤ 64 ∧ owner.code.all isCodeChar = true
    rw [ownerCode]
    exact ⟨ownerBody.code_length.2, ownerBody.code_pattern⟩
  · show 1 ≤ row.relayChannel ∧ row.relayChannel ≤ 4
    rw [channel]
    exact body.relayChannel_range
  · show 1 ≤ row.unlockSeconds ∧ row.unlockSeconds ≤ 10
    rw [seconds]
    exact body.unlockSeconds_range

/-- **A genuine command verifies.** The two parsers return, for the texts that
`json.dumps` writes, the objects they were written from. -/
theorem genuine_verifies (settings : UnlockSettings) (controllers : List ControllerRow)
    (doors : List DoorRow) (doorId : Uuid) (door : DoorRecord) (controller : DoorController)
    (commandId : Uuid) (issuedAt : Int) (nonce : Bytes) (payload : Dict)
    (service : Signer.SignerService) (loads : Bytes → Option (Json Text))
    (signature : Bytes) (keyId : Json Text) (platform : Firmware.Platform)
    (creatable : Creatable controllers doors)
    (registered : ∀ row ∈ controllers, ∃ body : ControllerCreate, row.code = body.code)
    (found : byId controllers doors doorId = some door)
    (joined : door.controller = some controller) (sixteen : nonce.length = 16)
    (issued : 0 ≤ issuedAt ∧ issuedAt < 0x80000000)
    (ttl : 1 ≤ settings.commandTtlSeconds ∧ settings.commandTtlSeconds ≤ 30)
    (built : payload = commandPayload settings door controller.code commandId issuedAt nonce)
    (signerParses : loads (encodeRequest (signRequest payload)) = some (.obj (signRequest payload)))
    (boardParses : platform.deserializeJson (frame (commandEnvelope payload signature keyId)) =
      some (Json.obj (commandEnvelope payload signature keyId)).wire) :
    Signer.validateCommand payload = .ok () ∧
    ∃ request message document command,
      decodeLine loads (encodeRequest (signRequest payload)) = .ok request ∧
      (Signer.handle service request).signed = some ⟨payload, message⟩ ∧
      Signer.canonicalBytes payload = some message ∧
      platform.deserializeJson (frame (commandEnvelope payload signature keyId)) = some document ∧
      Firmware.parseUnlockCommand ((document.member? (ascii "payload")).getD .null) =
        some command ∧
      Firmware.canonicalCommandBytes command Firmware.maxCanonical = some message := by
  have admissible := admissible_of_creatable creatable registered found joined
  have valid : Signer.validateCommand payload = .ok () := by
    rw [built]
    exact commandPayload_valid admissible sixteen ttl
  have reads : Reads payload
      (genuineCommand settings door controller.code commandId issuedAt nonce) := by
    rw [built]
    exact commandPayload_reads admissible sixteen issued ttl
  have faithful : Faithful payload := by
    rw [built]
    exact commandPayload_faithful admissible sixteen
  have fits : Fits (genuineCommand settings door controller.code commandId issuedAt nonce) :=
    commandPayload_fits admissible sixteen issued ttl
  have canonical := canonicalBytes_of_faithful reads faithful
  refine ⟨valid, signRequest payload, _, _,
    genuineCommand settings door controller.code commandId issuedAt nonce, ?_, ?_, canonical,
    boardParses, ?_, ?_⟩
  · -- over to the signer
    rw [decodeLine, signerParses]
  · show (Signer.handleSign service _).signed = _
    rw [Signer.handleSign, valid]
    simp only [canonical]
  · -- over to the board
    exact (parseUnlockCommand_iff _ _).mpr reads
  · rw [Firmware.canonicalCommandBytes, if_neg (Nat.not_lt.mpr fits)]

section Attic

def atticController : ControllerCreate where
  code := text "ctrl-7"
  name := text "Attic"
  code_length := by decide
  code_pattern := by decide
  name_length := by decide

def atticDoor : Backend.DoorCreate where
  code := text "attic"
  name := text "Attic"
  controllerId := some 9
  code_length := by decide
  code_pattern := by decide
  name_length := by decide
  location_length := by simp
  relayChannel_range := by decide
  unlockSeconds_range := by decide

def atticControllers : List ControllerRow := [⟨9, atticController.code, List.replicate 32 7, false⟩]

def atticDoors : List DoorRow :=
  [⟨1, atticDoor.code, atticDoor.name, none, some 9, 1, 3, true⟩]

def atticSettings : UnlockSettings where
  beaconRotationSeconds := 30
  proximityMaxAgeSeconds := 30
  rateMaxUnlocksPerMinute := 6
  commandTtlSeconds := 30
  pyStr := fun _ => text "None"

def atticRecord : DoorRecord :=
  ⟨text "attic", 1, 3, true, some 9, some ⟨text "ctrl-7", List.replicate 32 7, false⟩⟩

def atticPayload : Dict :=
  commandPayload atticSettings atticRecord (text "ctrl-7") 0x123e4567e89b42d3a456426614174000
    1750000000 (List.replicate 16 0)

def atticEnvelope : Dict :=
  commandEnvelope atticPayload (List.replicate 64 0x5a) (.str (text "signer-1"))

/-- Both parsers as tables of the one text each of them gets. -/
def atticLoads (line : Bytes) : Option (Json Text) :=
  if line = encodeRequest (signRequest atticPayload) then some (.obj (signRequest atticPayload))
  else none

def atticPlatform : Firmware.Platform where
  deserializeJson bytes :=
    if bytes = frame atticEnvelope then some (Json.obj atticEnvelope).wire else none
  base64Decode _ _ := List.replicate 64 0x5a
  verifySignature _ _ _ := true
  signWithControllerKey _ := []

theorem atticLoads_line : atticLoads (encodeRequest (signRequest atticPayload)) =
    some (.obj (signRequest atticPayload)) := by
  simp [atticLoads]

theorem atticPlatform_frame : atticPlatform.deserializeJson (frame atticEnvelope) =
    some (Json.obj atticEnvelope).wire := by
  simp [atticPlatform]

theorem atticControllers_registered :
    ∀ row ∈ atticControllers, ∃ body : ControllerCreate, row.code = body.code := by
  intro row mem
  rw [List.mem_singleton.mp mem]
  exact ⟨atticController, rfl⟩

theorem atticRecord_found : byId atticControllers atticDoors 1 = some atticRecord := rfl

theorem genuine_verifies_attic :
    Signer.validateCommand atticPayload = .ok () ∧ ∃ request message document command,
      decodeLine atticLoads (encodeRequest (signRequest atticPayload)) = .ok request ∧
      (Signer.handle ⟨fun _ => [], [], text "signer-1"⟩ request).signed =
        some ⟨atticPayload, message⟩ ∧
      Signer.canonicalBytes atticPayload = some message ∧
      atticPlatform.deserializeJson (frame atticEnvelope) = some document ∧
      Firmware.parseUnlockCommand ((document.member? (ascii "payload")).getD .null) =
        some command ∧
      Firmware.canonicalCommandBytes command Firmware.maxCanonical = some message :=
  genuine_verifies atticSettings atticControllers atticDoors 1 atticRecord
    ⟨text "ctrl-7", List.replicate 32 7, false⟩ 0x123e4567e89b42d3a456426614174000 1750000000
    (List.replicate 16 0) atticPayload _ atticLoads (List.replicate 64 0x5a)
    (.str (text "signer-1")) atticPlatform (.create 1 atticDoor .empty rfl)
    atticControllers_registered atticRecord_found rfl (by decide)
    (by decide) (by decide) rfl atticLoads_line atticPlatform_frame

end Attic

end DoorsControl.System
