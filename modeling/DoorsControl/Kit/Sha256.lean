import Mathlib.Data.List.Basic

/-!
# SHA-256

The hash function of FIPS 180-4 on lists of bytes. Words are natural numbers
below `2 ^ 32`; every definition is structurally recursive, so that a digest is
computed by the kernel.
-/

namespace DoorsControl.Kit.Sha256

def wordMod : Nat := 4294967296

def rotr (n x : Nat) : Nat := (x >>> n) ||| ((x <<< (32 - n)) % wordMod)

def bigSigma0 (x : Nat) : Nat := rotr 2 x ^^^ rotr 13 x ^^^ rotr 22 x

def bigSigma1 (x : Nat) : Nat := rotr 6 x ^^^ rotr 11 x ^^^ rotr 25 x

def smallSigma0 (x : Nat) : Nat := rotr 7 x ^^^ rotr 18 x ^^^ (x >>> 3)

def smallSigma1 (x : Nat) : Nat := rotr 17 x ^^^ rotr 19 x ^^^ (x >>> 10)

def ch (x y z : Nat) : Nat := (x &&& y) ^^^ ((wordMod - 1 - x) &&& z)

def maj (x y z : Nat) : Nat := (x &&& y) ^^^ (x &&& z) ^^^ (y &&& z)

/-- The 64 round constants. -/
def roundConstants : List Nat :=
  [0x428a2f98, 0x71374491, 0xb5c0fbcf, 0xe9b5dba5, 0x3956c25b, 0x59f111f1, 0x923f82a4, 0xab1c5ed5,
   0xd807aa98, 0x12835b01, 0x243185be, 0x550c7dc3, 0x72be5d74, 0x80deb1fe, 0x9bdc06a7, 0xc19bf174,
   0xe49b69c1, 0xefbe4786, 0x0fc19dc6, 0x240ca1cc, 0x2de92c6f, 0x4a7484aa, 0x5cb0a9dc, 0x76f988da,
   0x983e5152, 0xa831c66d, 0xb00327c8, 0xbf597fc7, 0xc6e00bf3, 0xd5a79147, 0x06ca6351, 0x14292967,
   0x27b70a85, 0x2e1b2138, 0x4d2c6dfc, 0x53380d13, 0x650a7354, 0x766a0abb, 0x81c2c92e, 0x92722c85,
   0xa2bfe8a1, 0xa81a664b, 0xc24b8b70, 0xc76c51a3, 0xd192e819, 0xd6990624, 0xf40e3585, 0x106aa070,
   0x19a4c116, 0x1e376c08, 0x2748774c, 0x34b0bcb5, 0x391c0cb3, 0x4ed8aa4a, 0x5b9cca4f, 0x682e6ff3,
   0x748f82ee, 0x78a5636f, 0x84c87814, 0x8cc70208, 0x90befffa, 0xa4506ceb, 0xbef9a3f7, 0xc67178f2]

/-- The eight working variables. -/
structure State where
  a : Nat
  b : Nat
  c : Nat
  d : Nat
  e : Nat
  f : Nat
  g : Nat
  h : Nat

def initial : State :=
  ⟨0x6a09e667, 0xbb67ae85, 0x3c6ef372, 0xa54ff53a, 0x510e527f, 0x9b05688c, 0x1f83d9ab, 0x5be0cd19⟩

def round (s : State) (k w : Nat) : State :=
  let t1 := (s.h + bigSigma1 s.e + ch s.e s.f s.g + k + w) % wordMod
  let t2 := (bigSigma0 s.a + maj s.a s.b s.c) % wordMod
  ⟨(t1 + t2) % wordMod, s.a, s.b, s.c, (s.d + t1) % wordMod, s.e, s.f, s.g⟩

/-- The rounds over the remaining constants; the window holds the next sixteen
words of the message schedule. -/
def rounds : List Nat → List Nat → State → State
  | k :: ks, w :: window, s =>
      let next := (smallSigma1 (window.getD 13 0) + window.getD 8 0 +
        smallSigma0 (window.getD 0 0) + w) % wordMod
      rounds ks (window ++ [next]) (round s k w)
  | _, _, s => s

def word (bytes : List UInt8) : Nat := bytes.foldl (fun acc b => acc * 256 + b.toNat) 0

def words : Nat → List UInt8 → List Nat
  | 0, _ => []
  | n + 1, bytes => word (bytes.take 4) :: words n (bytes.drop 4)

def compress (s : State) (block : List UInt8) : State :=
  let t := rounds roundConstants (words 16 block) s
  ⟨(s.a + t.a) % wordMod, (s.b + t.b) % wordMod, (s.c + t.c) % wordMod, (s.d + t.d) % wordMod,
   (s.e + t.e) % wordMod, (s.f + t.f) % wordMod, (s.g + t.g) % wordMod, (s.h + t.h) % wordMod⟩

/-- `x` in `n` bytes, most significant first. -/
def bigEndian (n x : Nat) : List UInt8 :=
  (List.range n).map fun i => UInt8.ofNat (x >>> (8 * (n - 1 - i)))

/-- The message, a one bit, zeros up to the block boundary and the bit length. -/
def pad (message : List UInt8) : List UInt8 :=
  message ++ 0x80 :: (List.replicate ((119 - message.length % 64) % 64) 0 ++
    bigEndian 8 (8 * message.length))

def blocks : Nat → List UInt8 → State → State
  | 0, _, s => s
  | n + 1, bytes, s => blocks n (bytes.drop 64) (compress s (bytes.take 64))

def sha256 (message : List UInt8) : List UInt8 :=
  let padded := pad message
  let s := blocks (padded.length / 64) padded initial
  bigEndian 4 s.a ++ bigEndian 4 s.b ++ bigEndian 4 s.c ++ bigEndian 4 s.d ++
    bigEndian 4 s.e ++ bigEndian 4 s.f ++ bigEndian 4 s.g ++ bigEndian 4 s.h

theorem sha256_length (message : List UInt8) : (sha256 message).length = 32 := by
  simp [sha256, bigEndian]

/-- The key in a block, each byte combined with `pad`. -/
def hmacKey (key : List UInt8) (pad : UInt8) : List UInt8 :=
  let short := if key.length > 64 then sha256 key else key
  (short ++ List.replicate (64 - short.length) 0).map fun b => b ^^^ pad

/-- HMAC-SHA256 -/
def hmac (key message : List UInt8) : List UInt8 :=
  sha256 (hmacKey key 0x5c ++ sha256 (hmacKey key 0x36 ++ message))

-- FIPS 180-4, appendix B: the digest of "abc".
example : (sha256 [97, 98, 99]).take 4 = [0xba, 0x78, 0x16, 0xbf] := by decide +kernel

end DoorsControl.Kit.Sha256
