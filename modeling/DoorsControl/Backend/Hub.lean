import DoorsControl.Backend.Unlock
import DoorsControl.Signer.Protocol

/-!
# Sending a command

`ControllerHub.send_command`: the text of the frame, which is
`json.dumps(envelope, separators=(",", ":"))` with keys in insertion order and everything
outside printable ASCII escaped, and what a call returns or raises.
-/

namespace DoorsControl.Backend

/-- `\uXXXX` -/
def unicodeEscape (n : Nat) : Text := chars (['\\', 'u'] ++ hexDigits 4 n)

/-- The escapes of `json.encoder` with `ensure_ascii=True`. -/
def escapeAscii (c : CodePoint) : Text :=
  if c = codePoint '"' then chars ['\\', '"']
  else if c = codePoint '\\' then chars ['\\', '\\']
  else if c.val = 10 then chars ['\\', 'n']
  else if c.val = 13 then chars ['\\', 'r']
  else if c.val = 9 then chars ['\\', 't']
  else if c.val = 12 then chars ['\\', 'f']
  else if c.val = 8 then chars ['\\', 'b']
  else if 32 ≤ c.val ∧ c.val ≤ 126 then [c]
  else if c.val < 0x10000 then unicodeEscape c.val
  else
    -- a surrogate pair
    unicodeEscape (0xd800 + (c.val - 0x10000) / 0x400) ++
      unicodeEscape (0xdc00 + (c.val - 0x10000) % 0x400)

def jsonString (s : Text) : Text := codePoint '"' :: (s.flatMap escapeAscii ++ [codePoint '"'])

mutual

/-- `json.dumps(value, separators=(",", ":"))` -/
def jsonDumps : Json Text → Text
  | .null => text "null"
  | .bool true => text "true"
  | .bool false => text "false"
  | .int i => chars (decimal i)
  | .float f => chars (Signer.dumpsFloat f)
  | .str s => jsonString s
  | .arr items => codePoint '[' :: (Signer.joinComma (jsonItems items) ++ [codePoint ']'])
  | .obj fields => codePoint '\x7b' :: (Signer.joinComma (jsonMembers fields) ++ [codePoint '\x7d'])

def jsonItems : List (Json Text) → List Text
  | [] => []
  | item :: rest => jsonDumps item :: jsonItems rest

def jsonMembers : List (Text × Json Text) → List Text
  | [] => []
  | (key, value) :: rest => (jsonString key ++ codePoint ':' :: jsonDumps value) :: jsonMembers rest

end

/-- What `send_command` puts on the socket. -/
def frame (envelope : Dict) : Bytes := utf8 (jsonDumps (.obj envelope))

/-! ## What a call comes to -/

/-- What happens to one command. -/
inductive Delivery where
  /-- no session for that controller -/
  | offline
  /-- `TimeoutError` from `session.send` -/
  | sendTimedOut
  /-- any other exception from `session.send` -/
  | sendRaised (name : Text)
  /-- the session was superseded or disconnected while the call waited -/
  | dropped (message : Text)
  /-- nothing came within the timeout -/
  | unanswered
  | acked (message : Dict)

/-- `send_command` -/
def sendCommandWith (controllerCode commandId : Text) : Delivery → Except PyError Dict
  | .offline => .error (.controllerOffline controllerCode)
  | .sendTimedOut => .error (.commandTimeout commandId)
  | .sendRaised name => .error (.other name)
  | .dropped message => .error (.controllerOffline message)
  | .unanswered => .error (.commandTimeout commandId)
  | .acked message => .ok message

/-- An acknowledgement that the service takes for an opened door. -/
theorem ackOpened_iff (ack : Dict) : ackOpened ack = true ↔
    (Json.obj ack).wire.member? (ascii "result") = some (.str (ascii "opened")) := by
  rw [Json.member?_wire_str (by decide)]
  unfold ackOpened
  constructor
  · intro opened
    split at opened
    · rename_i result found
      refine ⟨result, found, ?_⟩
      rw [of_decide_eq_true opened, text, utf8_chars (by decide), ascii]
    · cases opened
  · rintro ⟨result, found, same⟩
    rw [found]
    exact decide_eq_true (eq_chars_of_utf8 (by decide) same)

end DoorsControl.Backend
