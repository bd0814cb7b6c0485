import DoorsControl.Data.Base64
import DoorsControl.Kit.Sha256

/-!
# The beacon of the board

`acs_beacon.cpp` and the encoders of `acs_crypto.cpp`. The clock is `time(nullptr)`, a signed
64-bit `time_t`, the slot a `uint64_t`. HMAC-SHA256 and base64 are those of mbedTLS; what
NimBLE advertises is the data that was set last, from `start` to `stop`.

* `Beacon.tick` — one turn of the loop;
* `Beacon.OnAir` — **the invariant**: what is on the air is the identifier of the slot the
  beacon is at.
-/

namespace DoorsControl.Firmware

/-- `kDomain`, without its NUL -/
def beaconDomain : Bytes := ascii "acs-beacon:v1"

/-- `kIdBytes` -/
def idBytes : Nat := 16

/-- `kClockSane` -/
def clockSane : Int64 := 1704067200

/-- `ACS_BEACON_KEY` and `ACS_BEACON_ROTATION_S` -/
structure BeaconConfig where
  beaconKey : Bytes
  rotationS : UInt64

/-- `NimBLEAdvertisementData`: the flags and the manufacturer data. -/
structure Advertisement where
  flags : UInt8
  manufacturerData : Bytes
  deriving DecidableEq

/-- The state of `Beacon`, with what is advertised. -/
structure Beacon where
  started : Bool
  advertising : Bool
  currentSlot : UInt64
  currentId : Bytes
  onAir : Option Advertisement

/-- Before `begin`. -/
def Beacon.idle : Beacon := ⟨false, false, 0, [], none⟩

/-- `base64Encode`; the buffer has room for the digits and a NUL. -/
def base64Encode (bytes : Bytes) : Bytes :=
  if 4 * ((bytes.length + 2) / 3) + 1 > 128 then [] else asciiBytes (b64encode bytes)

/-- `encoded.replace('+', '-')`, `encoded.replace('/', '_')` -/
def urlSafe (b : UInt8) : UInt8 := if b = 0x2b then 0x2d else if b = 0x2f then 0x5f else b

/-- `base64UrlEncodeNoPad` -/
def base64UrlEncodeNoPad (bytes : Bytes) : Bytes :=
  rstripChar 0x3d ((base64Encode bytes).map urlSafe)

/-- The domain and the slot, most significant byte first. -/
def slotMessage (slot : UInt64) : Bytes :=
  beaconDomain ++ (List.range 8).map fun i =>
    UInt8.ofNat ((slot.toNat >>> (56 - 8 * i)) &&& 0xff)

/-- `mac`, as far as it is used -/
def beaconMac (config : BeaconConfig) (slot : UInt64) : Bytes :=
  (Kit.Sha256.hmac config.beaconKey (slotMessage slot)).take idBytes

/-- What is advertised in a slot. -/
def advertisementOf (config : BeaconConfig) (slot : UInt64) : Advertisement :=
  ⟨0x06, 0xff :: 0xff :: beaconMac config slot⟩

namespace Beacon

/-- `Beacon::begin` -/
def begin (beacon : Beacon) : Beacon := { beacon with started := true }

/-- `Beacon::updateAdvertisement` -/
def updateAdvertisement (config : BeaconConfig) (beacon : Beacon) (slot : UInt64) : Beacon :=
  { beacon with
    currentSlot := slot
    currentId := base64UrlEncodeNoPad (beaconMac config slot)
    onAir := some (advertisementOf config slot)
    advertising := true }

/-- `Beacon::tick` at the time `now` -/
def tick (config : BeaconConfig) (beacon : Beacon) (now : Int64) : Beacon :=
  if !beacon.started then beacon
  else if now < clockSane then
    if beacon.advertising then { beacon with advertising := false, onAir := none } else beacon
  else
    let slot := now.toUInt64 / config.rotationS
    if beacon.advertising && slot = beacon.currentSlot then beacon
    else beacon.updateAdvertisement config slot

/-- `begin`, and ticks at any times. -/
def run (config : BeaconConfig) (times : List Int64) : Beacon := times.foldl (tick config) idle.begin

/-! ## What is on the air -/

/-- A beacon that was begun, and shows the slot it is at. -/
structure OnAir (config : BeaconConfig) (beacon : Beacon) : Prop where
  started : beacon.started = true
  shows : beacon.advertising = true →
    beacon.onAir = some (advertisementOf config beacon.currentSlot) ∧
      beacon.currentId = base64UrlEncodeNoPad (beaconMac config beacon.currentSlot)

section Invariant

variable {config : BeaconConfig} {beacon : Beacon}

theorem onAir_begin (config : BeaconConfig) : OnAir config idle.begin :=
  ⟨rfl, fun advertising => by cases advertising⟩

theorem onAir_update (onAir : OnAir config beacon) (slot : UInt64) :
    OnAir config (beacon.updateAdvertisement config slot) :=
  ⟨onAir.started, fun _ => ⟨rfl, rfl⟩⟩

theorem OnAir.tick (onAir : OnAir config beacon) (now : Int64) :
    OnAir config (beacon.tick config now) := by
  unfold Beacon.tick
  dsimp only
  split_ifs
  · exact onAir
  · exact ⟨onAir.started, fun advertising => by cases advertising⟩
  · exact onAir
  · exact onAir
  · exact onAir_update onAir _

theorem onAir_run (config : BeaconConfig) (times : List Int64) : OnAir config (run config times) := by
  suffices general : ∀ beacon, OnAir config beacon →
      OnAir config (times.foldl (Beacon.tick config) beacon) from general _ (onAir_begin config)
  induction times with
  | nil => exact fun _ onAir => onAir
  | cons now rest ih => exact fun beacon onAir => ih _ (onAir.tick now)

/-- After a tick with a clock that has been set, the slot of the time is on the air. -/
theorem OnAir.tick_sane (onAir : OnAir config beacon) {now : Int64} (sane : ¬ now < clockSane) :
    (beacon.tick config now).onAir =
        some (advertisementOf config (now.toUInt64 / config.rotationS)) ∧
      (beacon.tick config now).currentId =
        base64UrlEncodeNoPad (beaconMac config (now.toUInt64 / config.rotationS)) := by
  unfold Beacon.tick
  rw [onAir.started, if_neg (by decide), if_neg sane]
  dsimp only
  split_ifs with same
  · -- it is on the air already
    obtain ⟨advertising, slot⟩ := Bool.and_eq_true_iff.mp same
    rw [of_decide_eq_true slot]
    exact onAir.shows advertising
  · exact ⟨rfl, rfl⟩

end Invariant

end Beacon

end DoorsControl.Firmware
