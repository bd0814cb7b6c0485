import DoorsControl.Backend.Hub

/-!
# The signer client

`app/core/signer_client.py` and the wire format of `signer/protocol.py` that it uses.
`json.loads` is a parameter: it returns a value, or raises what stands here as a
`ValueError`.

What happens on the socket is one of four things: it cannot be opened, it breaks while
the request is on its way, a line comes back, or something else is raised (a line
longer than the reader's limit is a `ValueError`).
-/

namespace DoorsControl.Backend

/-- `encode_request` -/
def encodeRequest (obj : Dict) : Bytes := utf8 (jsonDumps (.obj obj)) ++ [0x0a]

/-- `decode_line` -/
def decodeLine (loads : Bytes → Option (Json Text)) (line : Bytes) : Except PyError Dict :=
  match loads line with
  | some (.obj fields) => .ok fields
  | _ => .error .valueError

/-- What the socket does with a request. -/
inductive Reply where
  /-- `TimeoutError` or `OSError` while connecting -/
  | unreachable (message : Text)
  /-- `TimeoutError` or `OSError` after that -/
  | broken (message : Text)
  /-- What `readline` returned; nothing if the signer closed the connection. -/
  | line (bytes : Bytes)
  /-- any other exception -/
  | raised (name : Text)

/-- `SignerClient._request` -/
def request (loads : Bytes → Option (Json Text)) : Reply → Except PyError Dict
  | .unreachable message => .error (.signerUnavailable message)
  | .broken message => .error (.signerUnavailable message)
  | .line bytes =>
      if bytes = [] then .error (.signerUnavailable (text "signer closed the connection"))
      else decodeLine loads bytes
  | .raised name => .error (.other name)

/-- The truth of a decoded value. -/
def truthy : Json Text → Bool
  | .null => false
  | .bool b => b
  | .int i => i ≠ 0
  | .float (.fixed _ whole frac) => !(whole ++ frac).all fun digit => digit = 0
  | .float _ => true
  | .str s => s ≠ []
  | .arr items => !items.isEmpty
  | .obj fields => !fields.isEmpty

/-- The value of a base64 digit of the standard alphabet. -/
def base64Value (c : CodePoint) : Option Nat :=
  (List.range 64).find? fun n => codePoint (base64Digit '+' '/' n) = c

/-- The loop of `binascii.a2b_base64`: `quad` digits of the current group were read,
`left` holds the bits that no byte has yet, and `pads` counts the `=` in a row. -/
def a2bLoop : (quad left pads : Nat) → Text → Except PyError Bytes
  | quad, _, _, [] => if quad = 0 then .ok [] else .error .valueError
  | quad, left, pads, c :: rest =>
      if c = codePoint '=' then
        if 2 ≤ quad ∧ 4 ≤ quad + (pads + 1) then .ok []
        else a2bLoop quad left (if 2 ≤ quad then pads + 1 else pads) rest
      else
        match base64Value c with
        | none => a2bLoop quad left pads rest
        | some v =>
            match quad with
            | 0 => a2bLoop 1 v 0 rest
            | 1 => do
                let more ← a2bLoop 2 (v % 16) 0 rest
                return UInt8.ofNat (left * 4 + v / 16) :: more
            | 2 => do
                let more ← a2bLoop 3 (v % 4) 0 rest
                return UInt8.ofNat (left * 16 + v / 4) :: more
            | _ => do
                let more ← a2bLoop 0 0 0 rest
                return UInt8.ofNat (left * 64 + v) :: more

/-- `base64.b64decode` of a decoded value: only a `str` of ASCII characters will do. -/
def b64decode : Json Text → Except PyError Bytes
  | .str s => if s.all fun c => c.val < 128 then a2bLoop 0 0 0 s else .error .valueError
  | _ => .error .typeError

/-- `response[key]` -/
def item (response : Dict) (key : String) : Except PyError (Json Text) :=
  match Json.get? response (text key) with
  | some value => .ok value
  | none => .error (.other (text "KeyError"))

/-- `SignerClient.sign_command`. The key id goes into the envelope as it came. -/
def signCommandWith (pyStr : Json Text → Text) (loads : Bytes → Option (Json Text))
    (reply : Reply) : Except PyError (Bytes × Json Text) := do
  let response ← request loads reply
  if !truthy ((Json.get? response (text "ok")).getD .null) then
    throw (.signerRefused (pyStr ((Json.get? response (text "error")).getD .null)))
  let signature ← b64decode (← item response "signature")
  let keyId ← item response "key_id"
  return (signature, keyId)

example : a2bLoop 0 0 0 (text "Zm9vYmE=") = .ok (ascii "fooba") := by decide

end DoorsControl.Backend
