import DoorsControl.Backend.Errors
import DoorsControl.Data.Base64
import DoorsControl.Kit.Sha256

/-!
# The rotating beacon identifier

`app/core/proximity.py`. Times are in whole seconds: every use of `time.time()`
here is floored.
-/

namespace DoorsControl.Backend

def beaconIdBytes : Nat := 16

/-- `_DOMAIN` -/
def beaconDomain : Bytes := ascii "acs-beacon:v1"

/-- Python's `//` floors. -/
def slotFor (timestamp rotationSeconds : Int) : Int := timestamp.fdiv rotationSeconds

/-- `slot.to_bytes(8, "big")` -/
def slotBytes (slot : Int) : Except PyError Bytes :=
  if 0 ≤ slot ∧ slot < 0x10000000000000000 then .ok (Kit.Sha256.bigEndian 8 slot.toNat)
  else .error .overflowError

def deriveBeaconId (beaconKey : Bytes) (slot : Int) : Except PyError Text := do
  if beaconKey.length ≠ 32 then throw .valueError
  let encoded ← slotBytes slot
  let mac := Kit.Sha256.hmac beaconKey (beaconDomain ++ encoded)
  return chars (rstripChar '=' (urlsafeB64encode (mac.take beaconIdBytes)))

/-- The current slot and the earlier ones that the freshness window spans. -/
def acceptableSlots (now rotationSeconds maxAgeSeconds : Int) : List Int :=
  let current := slotFor now rotationSeconds
  let span := max 1 (-((-maxAgeSeconds).fdiv rotationSeconds))
  (List.range (span + 1).toNat).map fun offset => current - offset

/-- `str.isspace` of a code point, which is what `str.strip()` removes. -/
def isSpace (c : CodePoint) : Bool :=
  (9 ≤ c.val && c.val ≤ 13) || (28 ≤ c.val && c.val ≤ 32) || c.val = 0x85 || c.val = 0xA0 ||
    c.val = 0x1680 || (0x2000 ≤ c.val && c.val ≤ 0x200A) || c.val = 0x2028 || c.val = 0x2029 ||
    c.val = 0x202F || c.val = 0x205F || c.val = 0x3000

def strip (s : Text) : Text := ((s.dropWhile isSpace).reverse.dropWhile isSpace).reverse

theorem dropWhile_eq_self {α : Type} {p : α → Bool} {xs : List α} (h : ∀ x ∈ xs, p x = false) :
    xs.dropWhile p = xs := by
  cases xs with
  | nil => rfl
  | cons x rest => rw [List.dropWhile_cons_of_neg (by simp [h x List.mem_cons_self])]

theorem strip_eq_self {s : Text} (noSpace : ∀ c ∈ s, isSpace c = false) : strip s = s := by
  unfold strip
  rw [dropWhile_eq_self noSpace, dropWhile_eq_self fun c mem => noSpace c (List.mem_reverse.mp mem),
    List.reverse_reverse]

/-- `hmac.compare_digest` on two `str`: both have to be ASCII. -/
def compareDigest (a b : Text) : Except PyError Bool :=
  if (a ++ b).all fun c => c.val < 128 then .ok (a = b) else .error .typeError

/-- One turn of the loop: the first slot that matches is kept, and there is no early
exit. -/
def matchSlot (beaconKey : Bytes) (presented : Text) (matched : Option Int) (slot : Int) :
    Except PyError (Option Int) := do
  let candidate ← deriveBeaconId beaconKey slot
  let same ← compareDigest candidate presented
  return if same && matched.isNone then some slot else matched

/-- `verify_proximity` at the time `now`: whether the identifier is accepted, and
the age in seconds of the slot that matched. -/
def verifyProximity (beaconKey : Bytes) (presentedBeaconId : Text)
    (rotationSeconds maxAgeSeconds now : Int) : Except PyError (Bool × Option Int) := do
  if presentedBeaconId = [] then return (false, none)
  let presented := rstripChar (codePoint '=') (strip presentedBeaconId)
  if rotationSeconds = 0 then throw .zeroDivisionError
  let current := slotFor now rotationSeconds
  let matched ← List.foldlM (matchSlot beaconKey presented) none
    (acceptableSlots now rotationSeconds maxAgeSeconds)
  match matched with
  | none => return (false, none)
  | some slot => return (true, some ((current - slot) * rotationSeconds))

end DoorsControl.Backend
