import DoorsControl.Data.Text

/-!
# Base64

The two encoders of Python's `base64` that the backend calls. An alphabet is a
function from six bits.
-/

namespace DoorsControl

/-- `A`..`Z`, `a`..`z`, `0`..`9` and two more characters. -/
def base64Digit (c62 c63 : Char) (n : Nat) : Char :=
  if n < 26 then Char.ofNat (65 + n)
  else if n < 52 then Char.ofNat (97 + (n - 26))
  else if n < 62 then Char.ofNat (48 + (n - 52))
  else if n = 62 then c62
  else c63

/-- Three bytes make four digits; one or two at the end are padded. -/
def base64With (digit : Nat → Char) : Bytes → List Char
  | [] => []
  | [a] =>
      let n := a.toNat * 65536
      [digit (n / 262144), digit (n / 4096 % 64), '=', '=']
  | [a, b] =>
      let n := a.toNat * 65536 + b.toNat * 256
      [digit (n / 262144), digit (n / 4096 % 64), digit (n / 64 % 64), '=']
  | a :: b :: c :: rest =>
      let n := a.toNat * 65536 + b.toNat * 256 + c.toNat
      [digit (n / 262144), digit (n / 4096 % 64), digit (n / 64 % 64), digit (n % 64)] ++
        base64With digit rest

/-- `base64.b64encode` -/
def b64encode (bytes : Bytes) : List Char := base64With (base64Digit '+' '/') bytes

/-- `base64.urlsafe_b64encode` -/
def urlsafeB64encode (bytes : Bytes) : List Char := base64With (base64Digit '-' '_') bytes

/-- `s.rstrip(ch)` for one character. -/
def rstripChar {α : Type} [DecidableEq α] (c : α) (s : List α) : List α :=
  (s.reverse.dropWhile fun x => x = c).reverse

-- RFC 4648, section 10
example : b64encode (ascii "fooba") = "Zm9vYmE=".toList := by decide

end DoorsControl
