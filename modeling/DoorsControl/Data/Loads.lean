import DoorsControl.Data.IpAddress
import DoorsControl.Data.Json
import DoorsControl.Kit.While

/-!
# `json.loads`

The scanner of Python's `json`: strings with their escapes, numbers, the named constants,
arrays and objects. A text is read from the left; what is left of it goes on to the next
reader. `Interpreter` is what it has from outside: `float`, and how deep calls may nest.
-/

namespace DoorsControl.JsonReader

open Kit (Loops Turn whileLoop ended)

/-- What `json.loads` raises. -/
inductive JsonError where
  /-- `JSONDecodeError` -/
  | decode
  /-- the `ValueError` of `int`: more than 4300 digits -/
  | tooManyDigits
  /-- `RecursionError` -/
  | recursion
  deriving DecidableEq, Repr

/-- What the reader has from the interpreter. -/
structure Interpreter where
  /-- `float`, of the text of a number -/
  float : Text → FloatLit
  /-- arrays and objects inside one another, before it is a `RecursionError` -/
  depth : Nat

/-! ## Strings -/

def isHighSurrogate (n : Nat) : Bool := 0xd800 ≤ n && n ≤ 0xdbff

def isLowSurrogate (n : Nat) : Bool := 0xdc00 ≤ n && n ≤ 0xdfff

def joinSurrogates (high low : Nat) : CodePoint :=
  Fin.ofNat 0x110000 (0x10000 + (high - 0xd800) * 0x400 + (low - 0xdc00))

/-- Four hex digits, and what comes after them. -/
def hex4 : Text → Option (Nat × Text)
  | a :: b :: c :: d :: rest => do
      let a ← hexValue? a
      let b ← hexValue? b
      let c ← hexValue? c
      let d ← hexValue? d
      return (a * 4096 + b * 256 + c * 16 + d, rest)
  | _ => none

/-- An escape of one character after the backslash. -/
def simpleEscape (c : CodePoint) : Option CodePoint :=
  if c = codePoint '"' then some c
  else if c = codePoint '\\' then some c
  else if c = codePoint '/' then some c
  else if c = codePoint 'b' then some 8
  else if c = codePoint 'f' then some 12
  else if c = codePoint 'n' then some 10
  else if c = codePoint 'r' then some 13
  else if c = codePoint 't' then some 9
  else none

/-- The low half after a `\uXXXX` of a high one, if one stands there: its value, and the rest. An
escape that is not one is an error here already. -/
def lowEscape (rest : Text) : Except JsonError (Option (Nat × Text)) :=
  match rest with
  | b :: u :: digits =>
      if b = codePoint '\\' ∧ u = codePoint 'u' then
        match hex4 digits with
        | some (low, rest) => .ok (if isLowSurrogate low then some (low, rest) else none)
        | none => .error .decode
      else .ok none
  | _ => .ok none

/-- After the backslash: the character that the escape stands for, and the rest. -/
def escape : Text → Except JsonError (CodePoint × Text)
  | [] => .error .decode
  | c :: rest =>
      if c = codePoint 'u' then
        match hex4 rest with
        | none => .error .decode
        | some (value, rest) =>
            if isHighSurrogate value then do
              match ← lowEscape rest with
              | some (low, rest) => return (joinSurrogates value low, rest)
              | none => return (Fin.ofNat 0x110000 value, rest)
            else .ok (Fin.ofNat 0x110000 value, rest)
      else
        match simpleEscape c with
        | some meant => .ok (meant, rest)
        | none => .error .decode

/-- One turn of `scanstring`, after the opening quote. -/
def stringTurn (state : Text × Text) :
    Loops JsonError (Turn (Text × Text) (Text × Text)) :=
  match state.2 with
  | [] => ended (.error .decode)
  | c :: rest =>
      if c = codePoint '"' then return .leave (state.1, rest)
      else if c = codePoint '\\' then do
        let (meant, rest) ← ended (escape rest)
        return .again (state.1 ++ [meant], rest)
      else if c.val ≤ 0x1f then ended (.error .decode)
      else return .again (state.1 ++ [c], rest)

/-- `scanstring`, after the opening quote: the string and the rest. -/
def scanString (s : Text) : Loops JsonError (Text × Text) :=
  whileLoop stringTurn (s.length + 1) ([], s)

/-! ## Numbers and names -/

def minusSign : Text → Text × Text
  | [] => ([], [])
  | c :: rest => if c = codePoint '-' then ([c], rest) else ([], c :: rest)

/-- The digits of the whole part: a zero, or as many as there are. -/
def wholeDigits : Text → Option (Text × Text)
  | [] => none
  | c :: rest =>
      if c = codePoint '0' then some ([c], rest)
      else if isAsciiDigit c then some (c :: rest.takeWhile isAsciiDigit, rest.dropWhile isAsciiDigit)
      else none

/-- A point and at least one digit. -/
def fraction : Text → Text × Text
  | point :: c :: rest =>
      if point = codePoint '.' ∧ isAsciiDigit c then
        (point :: c :: rest.takeWhile isAsciiDigit, rest.dropWhile isAsciiDigit)
      else ([], point :: c :: rest)
  | rest => ([], rest)

def exponentSign : Text → Text × Text
  | [] => ([], [])
  | c :: rest => if c = codePoint '+' ∨ c = codePoint '-' then ([c], rest) else ([], c :: rest)

/-- An `e`, a sign or none, and at least one digit; otherwise it goes back. -/
def exponent : Text → Text × Text
  | [] => ([], [])
  | e :: rest =>
      if e = codePoint 'e' ∨ e = codePoint 'E' then
        let (sign, digits) := exponentSign rest
        if digits.takeWhile isAsciiDigit = [] then ([], e :: rest)
        else (e :: sign ++ digits.takeWhile isAsciiDigit, digits.dropWhile isAsciiDigit)
      else ([], e :: rest)

def maxStrDigits : Nat := 4300

/-- `int`, of a sign and digits. -/
def intOfDigits (sign digits : Text) : Except JsonError Int :=
  if maxStrDigits < digits.length then .error .tooManyDigits
  else .ok (if sign = [] then digitsValue digits else -digitsValue digits)

def matchNumber (py : Interpreter) (s : Text) : Except JsonError (Json Text × Text) :=
  let (sign, rest) := minusSign s
  match wholeDigits rest with
  | none => .error .decode
  | some (whole, rest) =>
      let (frac, rest) := fraction rest
      let (exp, rest) := exponent rest
      if frac = [] ∧ exp = [] then do
        return (.int (← intOfDigits sign whole), rest)
      else return (.float (py.float (sign ++ whole ++ frac ++ exp)), rest)

def constants : List (Text × Json Text) :=
  [(text "null", .null), (text "true", .bool true), (text "false", .bool false),
    (text "NaN", .float .nan), (text "Infinity", .float (.infinity false)),
    (text "-Infinity", .float (.infinity true))]

/-- A value that is written as a name. -/
def constant? (s : Text) : Option (Json Text × Text) :=
  (constants.find? fun entry => entry.1.isPrefixOf s).map fun entry =>
    (entry.2, s.drop entry.1.length)

/-! ## Arrays and objects -/

def isSpace (c : CodePoint) : Bool := c.val = 32 || c.val = 9 || c.val = 10 || c.val = 13

def skipSpace (s : Text) : Text := s.dropWhile isSpace

/-- After an element: the bracket that closes, or a comma and the start of the next one. -/
def delimiter (close : CodePoint) (s : Text) : Except JsonError (Turn Text Text) :=
  match skipSpace s with
  | [] => .error .decode
  | c :: rest =>
      if c = close then .ok (.leave rest)
      else if c = codePoint ',' then .ok (.again (skipSpace rest))
      else .error .decode

/-- `fields[key] = value`: a key that is there keeps its place. -/
def setItem (fields : List (Text × Json Text)) (key : Text) (value : Json Text) :
    List (Text × Json Text) :=
  if fields.any fun field => field.1 = key then
    fields.map fun field => if field.1 = key then (field.1, value) else field
  else fields ++ [(key, value)]

section Containers

variable (scan : Text → Loops JsonError (Json Text × Text))

/-- One element of an array: what was read before, and the text it starts. -/
def arrayTurn (state : List (Json Text) × Text) :
    Loops JsonError (Turn (List (Json Text) × Text) (Json Text × Text)) := do
  let (value, rest) ← scan state.2
  match ← ended (delimiter (codePoint ']') rest) with
  | .leave rest => return .leave (.arr (state.1 ++ [value]), rest)
  | .again rest => return .again (state.1 ++ [value], rest)

/-- `_parse_array`, after the bracket. -/
def parseArray (s : Text) : Loops JsonError (Json Text × Text) :=
  let s := skipSpace s
  if s.head? = some (codePoint ']') then return (.arr [], s.tail)
  else whileLoop (arrayTurn scan) (s.length + 1) ([], s)

/-- The character that has to come next. -/
def expect (wanted : CodePoint) : Text → Except JsonError Text
  | [] => .error .decode
  | c :: rest => if c = wanted then .ok rest else .error .decode

/-- One member of an object. -/
def objectTurn (state : List (Text × Json Text) × Text) :
    Loops JsonError (Turn (List (Text × Json Text) × Text) (Json Text × Text)) := do
  let rest ← ended (expect (codePoint '"') state.2)
  let (key, rest) ← scanString rest
  let rest ← ended (expect (codePoint ':') (skipSpace rest))
  let (value, rest) ← scan (skipSpace rest)
  match ← ended (delimiter (codePoint '\x7d') rest) with
  | .leave rest => return .leave (.obj (setItem state.1 key value), rest)
  | .again rest => return .again (setItem state.1 key value, rest)

/-- `_parse_object`, after the brace. -/
def parseObject (s : Text) : Loops JsonError (Json Text × Text) :=
  let s := skipSpace s
  if s.head? = some (codePoint '\x7d') then return (.obj [], s.tail)
  else whileLoop (objectTurn scan) (s.length + 1) ([], s)

end Containers

/-! ## Values -/

/-- `scan_once`, with what it calls for an object and for an array. -/
def scanWith (py : Interpreter) (object array : Text → Loops JsonError (Json Text × Text)) :
    Text → Loops JsonError (Json Text × Text)
  | [] => ended (.error .decode)
  | c :: rest =>
      if c = codePoint '"' then do
        let (s, rest) ← scanString rest
        return (.str s, rest)
      else if c = codePoint '\x7b' then object rest
      else if c = codePoint '[' then array rest
      else
        match constant? (c :: rest) with
        | some found => return found
        | none => ended (matchNumber py (c :: rest))

/-- `scan_once`, so many calls above the interpreter's limit. -/
def scanOnce (py : Interpreter) : Nat → Text → Loops JsonError (Json Text × Text)
  | 0 => scanWith py (fun _ => ended (.error .recursion)) fun _ => ended (.error .recursion)
  | depth + 1 => scanWith py (parseObject (scanOnce py depth)) (parseArray (scanOnce py depth))

/-- `json.loads`, of a `str`. -/
def loads (py : Interpreter) (s : Text) : Loops JsonError (Json Text) :=
  if s.head? = some 0xfeff then ended (.error .decode)
  else do
    let (value, rest) ← scanOnce py py.depth (skipSpace s)
    if skipSpace rest = [] then return value else ended (.error .decode)

end DoorsControl.JsonReader
