import DoorsControl.App.BeaconScanner
import DoorsControl.Backend.ProximityWindow
import DoorsControl.Firmware.Beacon
import Mathlib.Tactic.Linarith

/-!
# The beacon from the board to the server

The board derives an identifier and puts its bytes on the air, the phone writes them as text,
and the server derives the identifiers of its window and compares.

* `truncatedMac_board` — board and server derive the same bytes;
* `base64UrlEncodeNoPad_eq` — board and phone write them as the same text;
* `slotAt_board` — board and server count the same slots;
* `beacon_agreement` — **what a board shows at `t` is accepted** as long as `t` is not too
  old, with its age up to one rotation.
-/

namespace DoorsControl.System

open App (identifierBytes scannedIdentifier scannedIdentifier_eq)
open Backend (DistinctMacs acceptableSlotsAt mem_acceptableSlotsAt slotAt slotAt_eq slotFor
  truncatedMac truncatedMac_eq truncatedMac_length verifyProximityAt verifyProximityAt_of_slot
  windowSpan)
open Firmware (Advertisement Beacon BeaconConfig advertisementOf base64Encode
  base64UrlEncodeNoPad beaconMac clockSane slotMessage urlSafe)

/-! ## One derivation -/

theorem slotMessage_eq (slot : UInt64) :
    slotMessage slot = Backend.beaconDomain ++ Kit.Sha256.bigEndian 8 slot.toNat := by
  unfold slotMessage Kit.Sha256.bigEndian
  refine congrArg (Backend.beaconDomain ++ ·) (List.map_congr_left fun i inRange => ?_)
  have small := List.mem_range.mp inRange
  have shift : 8 * (8 - 1 - i) = 56 - 8 * i := by omega
  rw [shift]
  refine UInt8.toNat_inj.mp ?_
  rw [UInt8.toNat_ofNat', UInt8.toNat_ofNat', Nat.shiftRight_eq_div_pow]
  -- the mask keeps the byte that the cast keeps
  show (_ &&& 2 ^ 8 - 1) % 2 ^ 8 = _
  rw [Nat.and_two_pow_sub_one_eq_mod, Nat.mod_mod]

/-- Board and server derive the same bytes. -/
theorem truncatedMac_board (config : BeaconConfig) (slot : UInt64) :
    truncatedMac config.beaconKey slot.toNat = .ok (beaconMac config slot) := by
  have bound := slot.toNat_lt
  rw [truncatedMac_eq (by omega), Int.toNat_natCast, ← slotMessage_eq]
  rfl

theorem urlSafe_digit (n : Nat) :
    urlSafe (UInt8.ofNat (base64Digit '+' '/' n).toNat) =
      UInt8.ofNat (base64Digit '-' '_' n).toNat := by
  have low : ∀ n : Fin 62, urlSafe (UInt8.ofNat (base64Digit '+' '/' n).toNat) =
      UInt8.ofNat (base64Digit '-' '_' n).toNat := by decide +kernel
  by_cases letter : n < 62
  · exact low ⟨n, letter⟩
  · have last : ∀ c62 c63, base64Digit c62 c63 n = if n = 62 then c62 else c63 := by
      intro c62 c63
      unfold base64Digit
      rw [if_neg (by omega), if_neg (by omega), if_neg letter]
    rw [last, last]
    split_ifs <;> rfl

theorem map_urlSafe (bytes : Bytes) :
    (asciiBytes (base64NoPad (base64Digit '+' '/') bytes)).map urlSafe =
      asciiBytes (urlsafeNoPad bytes) := by
  unfold urlsafeNoPad asciiBytes
  induction bytes using base64NoPad.induct with
  | case1 => rfl
  | case2 a => simp [base64NoPad, urlSafe_digit]
  | case3 a b => simp [base64NoPad, urlSafe_digit]
  | case4 a b c rest ih => simp [base64NoPad, urlSafe_digit, ih]

theorem digit_byte_ne_pad : ∀ n : Fin 62,
    UInt8.ofNat (base64Digit '-' '_' n).toNat ≠ 0x3d := by
  decide +kernel

/-- The board writes its identifier as the phone does. -/
theorem base64UrlEncodeNoPad_eq {bytes : Bytes} (room : 4 * ((bytes.length + 2) / 3) + 1 ≤ 128) :
    base64UrlEncodeNoPad bytes = asciiBytes (urlsafeNoPad bytes) := by
  obtain ⟨count, padded⟩ := base64With_eq (base64Digit '+' '/') bytes
  unfold base64UrlEncodeNoPad base64Encode b64encode
  rw [if_neg (by omega), padded]
  have image : (asciiBytes (base64NoPad (base64Digit '+' '/') bytes ++
      List.replicate count '=')).map urlSafe =
        asciiBytes (urlsafeNoPad bytes) ++ List.replicate count 0x3d := by
    rw [← map_urlSafe, asciiBytes, List.map_append, List.map_append, List.map_replicate,
      List.map_replicate]
    rfl
  rw [image, rstripChar_append_replicate]
  apply rstripChar_of_not_mem
  intro mem
  obtain ⟨d, inside, pad⟩ := List.mem_map.mp mem
  have other := forall_digit (P := fun d => UInt8.ofNat d.toNat ≠ 0x3d)
    (fun n => decide_eq_true (digit_byte_ne_pad n)) (by decide) (by decide) inside
  exact of_decide_eq_true other pad

/-- Board and server count the same slots. -/
theorem slotAt_board {rotation : UInt64} (rotates : 0 < rotation.toNat) {clock : Int64} {t : ℚ}
    (reads : clock.toInt = ⌊t⌋) (set : 0 ≤ clock.toInt) :
    slotAt t rotation.toNat = ((clock.toUInt64 / rotation).toNat : Int) := by
  have unsigned : (clock.toUInt64.toNat : Int) = clock.toInt := by
    rw [Int64.toNat_toUInt64_of_le (Int64.le_iff_toInt_le.mpr set)]
    exact Int.toNat_of_nonneg set
  rw [slotAt_eq (by omega), ← reads, ← unsigned, slotFor, UInt64.toNat_div,
    Int.fdiv_eq_ediv_of_nonneg _ (Int.natCast_nonneg _), Int.natCast_ediv]

/-! ## The window -/

section Window

variable {now t : ℚ} {rotation maxAge : Int}

theorem slotAt_bounds (rotates : 0 < rotation) (t : ℚ) :
    (slotAt t rotation : ℚ) * rotation ≤ t ∧ t < (slotAt t rotation + 1) * rotation := by
  have positive : (0 : ℚ) < rotation := by exact_mod_cast rotates
  unfold slotAt
  constructor
  · exact (le_div_iff₀ positive).mp (Int.floor_le _)
  · exact (div_lt_iff₀ positive).mp (Int.lt_floor_add_one _)

/-- What is not too old is in the window. -/
theorem slotAt_mem_window (rotates : 0 < rotation) (past : t ≤ now) (recent : now - t ≤ maxAge) :
    slotAt t rotation ∈ acceptableSlotsAt now rotation maxAge := by
  have positive : (0 : ℚ) < rotation := by exact_mod_cast rotates
  obtain ⟨lowNow, highNow⟩ := slotAt_bounds rotates now
  obtain ⟨lowT, highT⟩ := slotAt_bounds rotates t
  -- the window is as long as its age, rounded up
  have covers : (maxAge : ℚ) ≤ windowSpan rotation maxAge * rotation := by
    have rounded : maxAge ≤ -((-maxAge).fdiv rotation) * rotation := by
      rw [Int.fdiv_eq_ediv_of_nonneg _ rotates.le]
      have quotient := Int.ediv_mul_le (-maxAge) rotates.ne'
      linarith
    have longer : -((-maxAge).fdiv rotation) * rotation ≤ windowSpan rotation maxAge * rotation :=
      Int.mul_le_mul_of_nonneg_right (le_max_right _ _) rotates.le
    exact_mod_cast rounded.trans longer
  apply mem_acceptableSlotsAt.mpr
  constructor
  · have close : (slotAt now rotation : ℚ) * rotation <
        (slotAt t rotation + 1 + windowSpan rotation maxAge) * rotation := by linarith
    have slots : slotAt now rotation < slotAt t rotation + 1 + windowSpan rotation maxAge := by
      exact_mod_cast lt_of_mul_lt_mul_right close positive.le
    omega
  · have before : (slotAt t rotation : ℚ) * rotation < (slotAt now rotation + 1) * rotation := by
      linarith
    have slots : slotAt t rotation < slotAt now rotation + 1 := by
      exact_mod_cast lt_of_mul_lt_mul_right before positive.le
    omega

/-- The age of the slot is the age of the identifier, up to one rotation. -/
theorem age_near (rotates : 0 < rotation) (now t : ℚ) :
    |(((slotAt now rotation - slotAt t rotation) * rotation : Int) : ℚ) - (now - t)| < rotation := by
  obtain ⟨lowNow, highNow⟩ := slotAt_bounds rotates now
  obtain ⟨lowT, highT⟩ := slotAt_bounds rotates t
  push_cast
  rw [abs_lt]
  constructor <;> linarith

end Window

/-! ## Agreement -/

/-- A window whose slots are counted from 1970 and fit eight bytes has HMAC values. -/
theorem distinctMacs_of_room {beaconKey : Bytes} {now : ℚ} {rotation maxAge : Int}
    (rotates : 0 < rotation) (room : (maxAge : ℚ) + rotation ≤ now) (old : 0 ≤ maxAge)
    (fits : now < 0x10000000000000000 * rotation)
    (values : ∀ slot ∈ acceptableSlotsAt now rotation maxAge,
      ∀ slot' ∈ acceptableSlotsAt now rotation maxAge, slot ≠ slot' →
        truncatedMac beaconKey slot ≠ truncatedMac beaconKey slot') :
    DistinctMacs beaconKey (acceptableSlotsAt now rotation maxAge) := by
  have positive : (0 : ℚ) < rotation := by exact_mod_cast rotates
  obtain ⟨low, high⟩ := slotAt_bounds rotates now
  have newest : slotAt now rotation < 0x10000000000000000 := by
    exact_mod_cast lt_of_mul_lt_mul_right (low.trans_lt fits) positive.le
  have oldest : windowSpan rotation maxAge ≤ slotAt now rotation := by
    have span : windowSpan rotation maxAge * rotation ≤ maxAge + rotation := by
      unfold windowSpan
      rw [Int.fdiv_eq_ediv_of_nonneg _ rotates.le]
      have quotient := Int.lt_ediv_add_one_mul_self (-maxAge) rotates
      rcases max_choice 1 (-(-maxAge / rotation)) with one | more
      · rw [one]
        omega
      · rw [more]
        linarith
    have below : (windowSpan rotation maxAge : ℚ) * rotation <
        (slotAt now rotation + 1) * rotation := by
      have span' : (windowSpan rotation maxAge : ℚ) * rotation ≤ maxAge + rotation := by
        exact_mod_cast span
      linarith
    exact Int.lt_add_one_iff.mp (by exact_mod_cast lt_of_mul_lt_mul_right below positive.le)
  have fitting : ∀ slot ∈ acceptableSlotsAt now rotation maxAge,
      0 ≤ slot ∧ slot < 0x10000000000000000 := by
    intro slot mem
    obtain ⟨above, below⟩ := mem_acceptableSlotsAt.mp mem
    omega
  intro slot mem slot' mem' apart
  have differ := values slot mem slot' mem' apart
  rw [truncatedMac_eq (fitting slot mem), truncatedMac_eq (fitting slot' mem')] at differ ⊢
  exact ⟨_, _, rfl, rfl, fun same => differ (congrArg Except.ok same)⟩

/-- **Beacon agreement**: a board that has ticked at any times shows, after a tick at `t`, what
the phone sends as an identifier that the server accepts at `now`, with the age of `t` up to one
rotation. -/
theorem beacon_agreement (config : BeaconConfig) (maxAge : Int) (now t : ℚ)
    (earlier : List Int64) (clock : Int64) (keyLength : config.beaconKey.length = 32)
    (rotates : 1 ≤ config.rotationS.toNat) (past : t ≤ now) (recent : now - t ≤ maxAge)
    (reads : clock.toInt = ⌊t⌋) (sane : (clockSane.toInt : ℚ) ≤ t)
    (distinct : DistinctMacs config.beaconKey
      (acceptableSlotsAt now config.rotationS.toNat maxAge)) :
    ∃ advertisement identifier age,
      ((Beacon.run config earlier).tick config clock).onAir = some advertisement ∧
        scannedIdentifier advertisement.manufacturerData = some identifier ∧
        verifyProximityAt config.beaconKey identifier config.rotationS.toNat maxAge now =
          .ok (true, some age) ∧
        |(age : ℚ) - (now - t)| < config.rotationS.toNat := by
  have positive : (0 : Int) < config.rotationS.toNat := by omega
  have whole : clockSane.toInt ≤ clock.toInt := reads ▸ Int.le_floor.mpr sane
  have late : ¬clock < clockSane := by
    rw [Int64.lt_iff_toInt_lt]
    omega
  have set : 0 ≤ clock.toInt := le_trans (by decide) whole
  let slot := clock.toUInt64 / config.rotationS
  have slots : slotAt t config.rotationS.toNat = slot.toNat := slotAt_board rotates reads set
  have mac := truncatedMac_board config slot
  have length : (beaconMac config slot).length = identifierBytes := truncatedMac_length mac
  have inside : (slot.toNat : Int) ∈ acceptableSlotsAt now config.rotationS.toNat maxAge :=
    slots ▸ slotAt_mem_window positive past recent
  refine ⟨advertisementOf config slot, _, _, ?_, scannedIdentifier_eq length,
    verifyProximityAt_of_slot keyLength positive.ne' inside distinct mac, ?_⟩
  · exact (Beacon.onAir_run config earlier).tick_sane late |>.1
  · rw [← slots]
    exact_mod_cast age_near positive now t

/-- A board with a key of zeros, which changes its identifier every 30 seconds. -/
def sampleBeacon : BeaconConfig := ⟨List.replicate 32 0, 30⟩

theorem sampleWindow :
    acceptableSlotsAt 1704067290 30 60 = [56802243, 56802242, 56802241] := by
  have current : slotAt 1704067290 30 = 56802243 := by
    unfold slotAt
    norm_num
  unfold acceptableSlotsAt
  rw [current]
  decide

theorem beacon_agreement_sample :
    ∃ advertisement identifier age,
      ((Beacon.run sampleBeacon [0, 1704067205]).tick sampleBeacon 1704067250).onAir =
          some advertisement ∧
        scannedIdentifier advertisement.manufacturerData = some identifier ∧
        verifyProximityAt sampleBeacon.beaconKey identifier 30 60 1704067290 =
          .ok (true, some age) ∧
        |(age : ℚ) - (1704067290 - 1704067250.5)| < 30 := by
  have distinct : DistinctMacs sampleBeacon.beaconKey (acceptableSlotsAt 1704067290 30 60) := by
    apply distinctMacs_of_room <;> try norm_num
    rw [sampleWindow]
    decide +kernel
  have sane : (clockSane.toInt : ℚ) ≤ 1704067250.5 := by
    show ((1704067200 : Int) : ℚ) ≤ _
    norm_num
  exact beacon_agreement sampleBeacon 60 1704067290 1704067250.5 [0, 1704067205] 1704067250
    rfl (by decide) (by norm_num) (by norm_num) (by norm_num; rfl) sane distinct

end DoorsControl.System
