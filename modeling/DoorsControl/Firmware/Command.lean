import DoorsControl.Data.Json

/-!
# Unlock commands on the controller

`acs_command.cpp`: reading a command out of a parsed document, and writing the
bytes its signature has to cover.

A JSON string is a byte string here, and goes through `const char *` into an
Arduino `String`: it ends at its first NUL. `is<uint32_t>()` and `is<int64_t>()`
hold of integers in range only.
-/

namespace DoorsControl.Firmware

/-- `UnlockCommand` -/
structure UnlockCommand where
  commandId : Bytes
  controllerCode : Bytes
  doorCode : Bytes
  durationMs : UInt32
  relayChannel : UInt32
  issuedAt : Int64
  expiresAt : Int64
  nonce : Bytes
  deriving DecidableEq

/-- What a C string keeps. -/
def cstr (bytes : Bytes) : Bytes := bytes.takeWhile fun b => b ≠ 0

/-- `value.is<const char *>()`, then `value.as<const char *>()` -/
def asCString? : Option (Json Bytes) → Option Bytes
  | some (.str s) => some (cstr s)
  | _ => none

/-- `value.is<uint32_t>()`, then `value.as<uint32_t>()` -/
def asUInt32? : Option (Json Bytes) → Option UInt32
  | some (.int i) => if 0 ≤ i ∧ i < 0x100000000 then some (UInt32.ofNat i.toNat) else none
  | _ => none

/-- `value.is<int64_t>()`, then `value.as<int64_t>()` -/
def asInt64? : Option (Json Bytes) → Option Int64
  | some (.int i) => if -0x8000000000000000 ≤ i ∧ i < 0x8000000000000000 then some (Int64.ofInt i) else none
  | _ => none

/-- `parseUnlockCommand` -/
def parseUnlockCommand (payload : Json Bytes) : Option UnlockCommand := do
  let commandId ← asCString? (payload.member? (ascii "command_id"))
  let cmd ← asCString? (payload.member? (ascii "cmd"))
  let controllerCode ← asCString? (payload.member? (ascii "controller_code"))
  let doorCode ← asCString? (payload.member? (ascii "door_code"))
  let nonce ← asCString? (payload.member? (ascii "nonce"))
  let durationMs ← asUInt32? (payload.member? (ascii "duration_ms"))
  let relayChannel ← asUInt32? (payload.member? (ascii "relay_channel"))
  let issuedAt ← asInt64? (payload.member? (ascii "issued_at"))
  let expiresAt ← asInt64? (payload.member? (ascii "expires_at"))
  if cmd ≠ ascii "unlock" then none
  else some { commandId, controllerCode, doorCode, durationMs, relayChannel, issuedAt, expiresAt,
              nonce }

/-- The identifier of a command is a string of the payload. -/
theorem commandId_of_parse {payload : Json Bytes} {command : UnlockCommand}
    (read : parseUnlockCommand payload = some command) :
    asCString? (payload.member? (ascii "command_id")) = some command.commandId := by
  unfold parseUnlockCommand at read
  simp only [Option.bind_eq_bind, Option.bind_eq_some_iff] at read
  obtain ⟨commandId, isId, _, -, _, -, _, -, _, -, _, -, _, -, _, -, _, -, read⟩ := read
  split at read
  · cases read
  · obtain rfl := Option.some.inj read
    exact isId

/-- One character of `appendJsonString`. -/
def escapeByte (b : UInt8) : Bytes :=
  if b = 0x22 ∨ b = 0x5c then [0x5c, b]
  else if b < 0x20 then asciiBytes (['\\', 'u'] ++ hexDigits 4 b.toNat)
  else [b]

/-- `appendJsonString` -/
def jsonString (value : Bytes) : Bytes := 0x22 :: (value.flatMap escapeByte ++ [0x22])

/-- `String(value)` of a number. -/
def decimalBytes (i : Int) : Bytes := asciiBytes (decimal i)

/-- The body that `canonicalCommandBytes` writes. -/
def canonicalBody (command : UnlockCommand) : Bytes :=
  ascii "\x7b\"cmd\":\"unlock\"," ++
  ascii "\"command_id\":" ++ jsonString command.commandId ++
  ascii ",\"controller_code\":" ++ jsonString command.controllerCode ++
  ascii ",\"door_code\":" ++ jsonString command.doorCode ++
  ascii ",\"duration_ms\":" ++ decimalBytes command.durationMs.toNat ++
  ascii ",\"expires_at\":" ++ decimalBytes command.expiresAt.toInt ++
  ascii ",\"issued_at\":" ++ decimalBytes command.issuedAt.toInt ++
  ascii ",\"nonce\":" ++ jsonString command.nonce ++
  ascii ",\"relay_channel\":" ++ decimalBytes command.relayChannel.toNat ++
  ascii "\x7d"

/-- `kDomain` with its NUL -/
def commandDomain : Bytes := ascii "acs-command:v1" ++ [0]

/-- `canonicalCommandBytes`; `none` is its 0 for a buffer that is too small. -/
def canonicalCommandBytes (command : UnlockCommand) (capacity : Nat) : Option Bytes :=
  let bytes := commandDomain ++ canonicalBody command
  if bytes.length > capacity then none else some bytes

theorem canonicalCommandBytes_eq {command : UnlockCommand} {capacity : Nat} {bytes : Bytes}
    (h : canonicalCommandBytes command capacity = some bytes) :
    bytes = commandDomain ++ canonicalBody command := by
  unfold canonicalCommandBytes at h
  simp only at h
  split at h
  · cases h
  · exact (Option.some.inj h).symm

end DoorsControl.Firmware
