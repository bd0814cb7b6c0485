import DoorsControl.Data.Json
import Mathlib.Data.List.Sort

/-!
# The signer's protocol

`backend/signer/protocol.py`: the canonical bytes of a command
(`json.dumps(.., sort_keys=True, separators=(",", ":"), ensure_ascii=False)`, then
UTF-8) and what the signer refuses to sign.

A payload is what `json.loads` makes of the request: any object, with any values.
A `bool` is an `int` to `isinstance`.
-/

namespace DoorsControl.Signer

/-- A decoded JSON object. -/
abbrev Dict := List (Text × Json Text)

def commandDomain : Bytes := ascii "acs-command:v1" ++ [0]

def requiredCommandFields : List Text :=
  [text "command_id", text "cmd", text "controller_code", text "door_code",
   text "relay_channel", text "duration_ms", text "issued_at", text "expires_at", text "nonce"]

def maxCommandTtlSeconds : Int := 30

def maxDurationMs : Int := 10000

/-! ## `json.dumps` -/

/-- The escapes of `json.encoder` with `ensure_ascii=False`. -/
def escapeChar (c : CodePoint) : Text :=
  if c = codePoint '"' then chars ['\\', '"']
  else if c = codePoint '\\' then chars ['\\', '\\']
  else if c.val = 10 then chars ['\\', 'n']
  else if c.val = 13 then chars ['\\', 'r']
  else if c.val = 9 then chars ['\\', 't']
  else if c.val = 12 then chars ['\\', 'f']
  else if c.val = 8 then chars ['\\', 'b']
  else if c.val < 32 then chars (['\\', 'u'] ++ hexDigits 4 c.val)
  else [c]

def dumpsString (s : Text) : Text :=
  codePoint '"' :: (s.flatMap escapeChar ++ [codePoint '"'])

def digitChars (digits : List (Fin 10)) : List Char := digits.map fun d => Char.ofNat (48 + d.val)

/-- `float.__repr__`, with the names `json.dumps` has for the special values. -/
def dumpsFloat : FloatLit → List Char
  | .nan => ['N', 'a', 'N']
  | .infinity negative =>
      (if negative then ['-'] else []) ++ ['I', 'n', 'f', 'i', 'n', 'i', 't', 'y']
  | .fixed negative whole frac =>
      (if negative then ['-'] else []) ++ digitChars whole ++ '.' :: digitChars frac
  | .scientific negative lead frac expNegative exponent =>
      (if negative then ['-'] else []) ++ digitChars [lead] ++
        (if frac = [] then [] else '.' :: digitChars frac) ++
        'e' :: (if expNegative then '-' else '+') :: digitChars exponent

/-- The order of `str`: by code points. -/
def textLe : Text → Text → Bool
  | [], _ => true
  | _ :: _, [] => false
  | a :: as, b :: bs => a < b || (a = b && textLe as bs)

/-- `",".join` -/
def joinComma : List Text → Text
  | [] => []
  | [item] => item
  | item :: rest => item ++ codePoint ',' :: joinComma rest

/-- Keys in order; no key occurs twice, so values are never compared. -/
def sortKeys {α : Type} (fields : List (Text × α)) : List (Text × α) :=
  fields.insertionSort fun a b => textLe a.1 b.1 = true

/-- `"key":value` -/
def member (field : Text × Text) : Text := dumpsString field.1 ++ codePoint ':' :: field.2

mutual

def dumps : Json Text → Text
  | .null => text "null"
  | .bool true => text "true"
  | .bool false => text "false"
  | .int i => chars (decimal i)
  | .float f => chars (dumpsFloat f)
  | .str s => dumpsString s
  | .arr items => codePoint '[' :: (joinComma (dumpsItems items) ++ [codePoint ']'])
  | .obj fields =>
      codePoint '{' :: (joinComma ((sortKeys (dumpsFields fields)).map member) ++ [codePoint '}'])

def dumpsItems : List (Json Text) → List Text
  | [] => []
  | item :: rest => dumps item :: dumpsItems rest

def dumpsFields : List (Text × Json Text) → List (Text × Text)
  | [] => []
  | (key, value) :: rest => (key, dumps value) :: dumpsFields rest

end

/-- `canonical_bytes`; `none` is the `UnicodeEncodeError` of a lone surrogate. -/
def canonicalBytes (payload : Dict) : Option Bytes :=
  (encodeUtf8 (dumps (.obj payload))).map fun body => commandDomain ++ body

/-! ## What is refused -/

/-- The value as an `int`, if `isinstance(value, int)`. -/
def pyInt? : Json Text → Option Int
  | .int i => some i
  | .bool b => some (if b then 1 else 0)
  | _ => none

/-- `payload[key]`, where the key was checked to be there. -/
def field (payload : Dict) (key : String) : Json Text :=
  (Json.get? payload (text key)).getD .null

/-- `raise InvalidCommand(message)` unless the condition holds. -/
def require (condition : Bool) (message : Text) : Except Text Unit :=
  if condition then .ok () else .error message

def checkFields (payload : Dict) : Except Text Unit :=
  let missing := requiredCommandFields.filter fun f => (Json.get? payload f).isNone
  require missing.isEmpty (text "missing fields: " ++ joinComma missing)

/-- `payload["cmd"] not in ALLOWED_COMMANDS` -/
def checkCmd (payload : Dict) : Except Text Unit :=
  require (match field payload "cmd" with
    | .str cmd => cmd = text "unlock"
    | _ => false) (text "unknown command")

def checkDuration (payload : Dict) : Except Text Unit :=
  require (match pyInt? (field payload "duration_ms") with
    | some duration => 0 < duration && duration ≤ maxDurationMs
    | none => false) (text "duration_ms out of range")

def checkTtl (payload : Dict) : Except Text Unit :=
  match pyInt? (field payload "issued_at"), pyInt? (field payload "expires_at") with
  | some issuedAt, some expiresAt =>
      let ttl := expiresAt - issuedAt
      require (0 < ttl && ttl ≤ maxCommandTtlSeconds) (text "command ttl out of range")
  | _, _ => .error (text "timestamps must be integers")

def checkNonce (payload : Dict) : Except Text Unit :=
  require (match field payload "nonce" with
    | .str nonce => 16 ≤ nonce.length
    | _ => false) (text "nonce too short")

/-- `validate_command`; an error is the message of `InvalidCommand`. -/
def validateCommand (payload : Dict) : Except Text Unit := do
  checkFields payload
  checkCmd payload
  checkDuration payload
  checkTtl payload
  checkNonce payload

theorem require_ok {condition : Bool} {message : Text} (h : require condition message = .ok ()) :
    condition = true := by
  cases condition with
  | true => rfl
  | false => cases h

/-- A step of the checks that went through. -/
theorem then_ok {first second : Except Text Unit}
    (h : (do first; second : Except Text Unit) = .ok ()) : first = .ok () ∧ second = .ok () := by
  cases first with
  | error message => cases h
  | ok => exact ⟨rfl, h⟩

/-- What holds of a command the signer accepts: a short pulse and a short life,
both as integers. -/
theorem limits_of_validateCommand {payload : Dict} (h : validateCommand payload = .ok ()) :
    (∃ duration, pyInt? (field payload "duration_ms") = some duration ∧
      0 < duration ∧ duration ≤ maxDurationMs) ∧
    ∃ issuedAt expiresAt, pyInt? (field payload "issued_at") = some issuedAt ∧
      pyInt? (field payload "expires_at") = some expiresAt ∧
      0 < expiresAt - issuedAt ∧ expiresAt - issuedAt ≤ maxCommandTtlSeconds := by
  obtain ⟨-, h⟩ := then_ok h
  obtain ⟨-, h⟩ := then_ok h
  obtain ⟨duration, h⟩ := then_ok h
  obtain ⟨ttl, -⟩ := then_ok h
  refine ⟨?_, ?_⟩
  · have bounded := require_ok duration
    split at bounded
    · rename_i d found
      simp only [Bool.and_eq_true, decide_eq_true_eq] at bounded
      exact ⟨d, found, bounded⟩
    · cases bounded
  · unfold checkTtl at ttl
    split at ttl
    · rename_i i e isIssued isExpires
      have bounded := require_ok ttl
      simp only [Bool.and_eq_true, decide_eq_true_eq] at bounded
      exact ⟨i, e, isIssued, isExpires, bounded⟩
    · cases ttl

end DoorsControl.Signer
