import DoorsControl.System.BeaconAgreement

/-!
# How long an identifier is accepted

The window of `verify_proximity`, as an interval of times. A slot is written in eight bytes, so
that all of it ends with the last of these.

* `mem_window_iff` — the slots of the window, seen from one of them;
* `accepted_iff` — **the times at which an identifier is accepted**;
* `last_slot_refused` — the last slot, at a time at which the window has one that has no
  identifier.
-/

namespace DoorsControl.System

open Backend (DistinctMacs acceptableSlotsAt acceptableSlotsAt_eq ascii_identifier deriveBeaconId
  deriveBeaconId_eq foldlM_matchSlot hasIdentifier identifier_ne_nil matchSlot
  mem_acceptableSlotsAt presented_identifier slotAt slotBytes truncatedMac truncatedMac_eq
  verifyProximityAt verifyProximityAt_of_slot windowSpan)

/-- The server accepts the identifier. -/
def Accepted (beaconKey : Bytes) (identifier : Text) (rotation maxAge : Int) (now : ℚ) : Prop :=
  ∃ age, verifyProximityAt beaconKey identifier rotation maxAge now = .ok (true, some age)

/-- Distinct slots have distinct identifiers, if they have any. -/
def DistinctIdentifiers (beaconKey : Bytes) (slots : List Int) : Prop :=
  ∀ slot ∈ slots, ∀ slot' ∈ slots, slot ≠ slot' → ∀ identifier,
    deriveBeaconId beaconKey slot = .ok identifier →
      deriveBeaconId beaconKey slot' ≠ .ok identifier

section Window

variable {now : ℚ} {rotation maxAge slot : Int}

/-- The slots of the window, seen from one of them. -/
theorem mem_window_iff (rotates : 0 < rotation) :
    slot ∈ acceptableSlotsAt now rotation maxAge ↔ (slot * rotation : ℚ) ≤ now ∧
      now < (slot + windowSpan rotation maxAge + 1) * rotation := by
  have positive : (0 : ℚ) < rotation := by exact_mod_cast rotates
  obtain ⟨low, high⟩ := slotAt_bounds rotates now
  rw [mem_acceptableSlotsAt]
  constructor
  · rintro ⟨oldest, newest⟩
    constructor
    · have earlier : (slot * rotation : ℚ) ≤ slotAt now rotation * rotation := by
        exact_mod_cast Int.mul_le_mul_of_nonneg_right newest rotates.le
      exact earlier.trans low
    · have later : ((slotAt now rotation + 1) * rotation : ℚ) ≤
          (slot + windowSpan rotation maxAge + 1) * rotation := by
        exact_mod_cast Int.mul_le_mul_of_nonneg_right (by omega) rotates.le
      exact high.trans_le later
  · rintro ⟨begun, inTime⟩
    have newest : slot < slotAt now rotation + 1 := by
      exact_mod_cast lt_of_mul_lt_mul_right (begun.trans_lt high) positive.le
    have oldest : slotAt now rotation < slot + windowSpan rotation maxAge + 1 := by
      exact_mod_cast lt_of_mul_lt_mul_right (low.trans_lt inTime) positive.le
    omega

/-- The current slot fits eight bytes. -/
theorem slotAt_fits_iff (rotates : 0 < rotation) :
    slotAt now rotation < 0x10000000000000000 ↔ now < 0x10000000000000000 * rotation := by
  have positive : (0 : ℚ) < rotation := by exact_mod_cast rotates
  rw [slotAt, Int.floor_lt, div_lt_iff₀ positive]
  norm_num

/-- No slot of the window is before 1970. -/
theorem window_nonneg (rotates : 0 < rotation)
    (room : ((windowSpan rotation maxAge + 1) * rotation : ℚ) ≤ now)
    (inside : slot ∈ acceptableSlotsAt now rotation maxAge) : 0 ≤ slot := by
  have positive : (0 : ℚ) < rotation := by exact_mod_cast rotates
  have last := ((mem_window_iff rotates).mp inside).2
  have span : windowSpan rotation maxAge + 1 < slot + windowSpan rotation maxAge + 1 := by
    exact_mod_cast lt_of_mul_lt_mul_right (room.trans_lt last) positive.le
  omega

/-- The current slot is the first that is compared. -/
theorem acceptableSlotsAt_head (now : ℚ) (rotation maxAge : Int) :
    ∃ earlier, acceptableSlotsAt now rotation maxAge = slotAt now rotation :: earlier := by
  have span : 1 ≤ windowSpan rotation maxAge := le_max_left _ _
  have length : (windowSpan rotation maxAge + 1).toNat = (windowSpan rotation maxAge).toNat + 1 := by
    omega
  rw [acceptableSlotsAt_eq, length, List.range_succ_eq_map, List.map_cons, Int.natCast_zero,
    Int.sub_zero]
  exact ⟨_, rfl⟩

end Window

section Accepted

variable {beaconKey : Bytes} {identifier : Text} {now : ℚ} {rotation maxAge slot : Int}

/-- The identifier of a slot is the text of its truncated HMAC. -/
theorem mac_of_identifier (length : beaconKey.length = 32)
    (derived : deriveBeaconId beaconKey slot = .ok identifier) :
    ∃ mac, truncatedMac beaconKey slot = .ok mac ∧ identifier = chars (urlsafeNoPad mac) := by
  cases isMac : truncatedMac beaconKey slot with
  | ok mac =>
      exact ⟨mac, rfl, (Except.ok.inj ((deriveBeaconId_eq length isMac).symm.trans derived)).symm⟩
  | error e =>
      unfold truncatedMac at isMac
      unfold deriveBeaconId at derived
      rw [if_neg (not_not.mpr length)] at derived
      cases encoded : slotBytes slot with
      | ok bytes =>
          rw [encoded] at isMac
          cases isMac
      | error e =>
          rw [encoded] at derived
          cases derived

/-- Distinct texts are those of distinct HMACs. -/
theorem DistinctIdentifiers.macs (length : beaconKey.length = 32) {slots : List Int}
    (distinct : DistinctIdentifiers beaconKey slots)
    (macs : ∀ slot ∈ slots, ∃ mac, truncatedMac beaconKey slot = .ok mac) :
    DistinctMacs beaconKey slots := by
  intro slot mem slot' mem' apart
  obtain ⟨mac, isMac⟩ := macs slot mem
  obtain ⟨mac', isMac'⟩ := macs slot' mem'
  refine ⟨mac, mac', isMac, isMac', ?_⟩
  rintro rfl
  exact distinct slot mem slot' mem' apart _ (deriveBeaconId_eq length isMac)
    (deriveBeaconId_eq length isMac')

/-- An identifier of a slot outside the window is refused. -/
theorem refused_outside (length : beaconKey.length = 32) (rotates : rotation ≠ 0)
    (derived : deriveBeaconId beaconKey slot = .ok identifier)
    (outside : slot ∉ acceptableSlotsAt now rotation maxAge)
    (macs : ∀ slot ∈ acceptableSlotsAt now rotation maxAge,
      ∃ mac, truncatedMac beaconKey slot = .ok mac)
    (distinct : DistinctIdentifiers beaconKey (slot :: acceptableSlotsAt now rotation maxAge)) :
    verifyProximityAt beaconKey identifier rotation maxAge now = .ok (false, none) := by
  obtain ⟨mac, isMac, rfl⟩ := mac_of_identifier length derived
  have notFound : (acceptableSlotsAt now rotation maxAge).find?
      (hasIdentifier beaconKey (chars (urlsafeNoPad mac))) = none := by
    rw [List.find?_eq_none]
    intro other mem has
    unfold hasIdentifier at has
    obtain ⟨mac', isMac'⟩ := macs other mem
    have derived' := deriveBeaconId_eq length isMac'
    rw [derived'] at has
    refine distinct slot List.mem_cons_self other (List.mem_cons_of_mem _ mem) ?_ _ derived ?_
    · rintro rfl
      exact outside mem
    · rw [derived', of_decide_eq_true has]
  unfold verifyProximityAt
  rw [if_neg (identifier_ne_nil isMac), presented_identifier, if_neg rotates,
    foldlM_matchSlot length (ascii_identifier mac) macs, notFound]
  rfl

/-- A window whose current slot has no number of eight bytes accepts nothing: the first turn of
the loop raises. -/
theorem not_accepted_of_overflow (length : beaconKey.length = 32)
    (overflow : ¬ slotAt now rotation < 0x10000000000000000) :
    ¬ Accepted beaconKey identifier rotation maxAge now := by
  rintro ⟨age, accepted⟩
  obtain ⟨earlier, head⟩ := acceptableSlotsAt_head now rotation maxAge
  have raises : ∀ presented matched, matchSlot beaconKey presented matched (slotAt now rotation) =
      .error .overflowError := by
    intro presented matched
    unfold matchSlot deriveBeaconId slotBytes
    rw [if_neg (not_not.mpr length), if_neg fun inside => overflow inside.2]
    rfl
  unfold verifyProximityAt at accepted
  rw [head] at accepted
  dsimp only at accepted
  split_ifs at accepted
  · cases accepted
  · cases accepted
  · rw [List.foldlM_cons, raises] at accepted
    cases accepted

/-- The window of an identifier. -/
theorem accepted_iff (length : beaconKey.length = 32) (rotates : 0 < rotation)
    (room : ((windowSpan rotation maxAge + 1) * rotation : ℚ) ≤ now)
    (derived : deriveBeaconId beaconKey slot = .ok identifier)
    (distinct : DistinctIdentifiers beaconKey (slot :: acceptableSlotsAt now rotation maxAge)) :
    Accepted beaconKey identifier rotation maxAge now ↔
      slot ∈ acceptableSlotsAt now rotation maxAge ∧
        slotAt now rotation < 0x10000000000000000 := by
  by_cases fits : slotAt now rotation < 0x10000000000000000
  · have macs : ∀ slot ∈ acceptableSlotsAt now rotation maxAge,
        ∃ mac, truncatedMac beaconKey slot = .ok mac := by
      intro slot inside
      have newest := (mem_acceptableSlotsAt.mp inside).2
      exact ⟨_, truncatedMac_eq ⟨window_nonneg rotates room inside, by omega⟩⟩
    have distinctMacs : DistinctMacs beaconKey (acceptableSlotsAt now rotation maxAge) := by
      refine DistinctIdentifiers.macs length ?_ macs
      intro slot mem slot' mem'
      exact distinct slot (List.mem_cons_of_mem _ mem) slot' (List.mem_cons_of_mem _ mem')
    by_cases inside : slot ∈ acceptableSlotsAt now rotation maxAge
    · obtain ⟨mac, isMac, rfl⟩ := mac_of_identifier length derived
      have accepted := verifyProximityAt_of_slot length rotates.ne' inside distinctMacs isMac
      exact iff_of_true ⟨_, accepted⟩ ⟨inside, fits⟩
    · refine iff_of_false ?_ fun both => inside both.1
      rintro ⟨age, accepted⟩
      rw [refused_outside length rotates.ne' derived inside macs distinct] at accepted
      cases accepted
  · exact iff_of_false (not_accepted_of_overflow length fits) fun both => fits both.2

end Accepted

/-- **The acceptance window**: the identifier of a slot is accepted from the beginning of the slot
until its span and one rotation later, as long as slots have numbers of eight bytes. So never
before its slot, always while an instant of its slot is recent, and not after the window. -/
theorem acceptance_window (beaconKey : Bytes) (length : beaconKey.length = 32)
    (rotation maxAge slot : Int) (rotates : 1 ≤ rotation) (now : ℚ)
    (room : ((windowSpan rotation maxAge + 1) * rotation : ℚ) ≤ now) (identifier : Text)
    (derived : deriveBeaconId beaconKey slot = .ok identifier)
    (distinct : DistinctIdentifiers beaconKey (slot :: acceptableSlotsAt now rotation maxAge)) :
    (Accepted beaconKey identifier rotation maxAge now ↔ (slot * rotation : ℚ) ≤ now ∧
      now < (slot + windowSpan rotation maxAge + 1) * rotation ∧
      now < 0x10000000000000000 * rotation) ∧
    (now < (slot * rotation : ℚ) → ¬ Accepted beaconKey identifier rotation maxAge now) ∧
    (∀ t : ℚ, (slot * rotation : ℚ) ≤ t → t < (slot + 1) * rotation → t ≤ now →
      now - t ≤ maxAge → now < 0x10000000000000000 * rotation →
      Accepted beaconKey identifier rotation maxAge now) ∧
    ((slot + windowSpan rotation maxAge + 1) * rotation ≤ now →
      ¬ Accepted beaconKey identifier rotation maxAge now) := by
  have exactly : Accepted beaconKey identifier rotation maxAge now ↔
      (slot * rotation : ℚ) ≤ now ∧ now < (slot + windowSpan rotation maxAge + 1) * rotation ∧
        now < 0x10000000000000000 * rotation := by
    rw [accepted_iff length rotates room derived distinct, mem_window_iff rotates,
      slotAt_fits_iff rotates, and_assoc]
  refine ⟨exactly, ?_, ?_, ?_⟩
  · intro early accepted
    exact early.not_ge (exactly.mp accepted).1
  · intro t begun ended past recent fits
    have positive : (0 : ℚ) < rotation := by exact_mod_cast rotates
    have isSlot : slotAt t rotation = slot :=
      Int.floor_eq_iff.mpr ⟨(le_div_iff₀ positive).mpr begun, (div_lt_iff₀ positive).mpr ended⟩
    refine (accepted_iff length rotates room derived distinct).mpr ⟨?_, ?_⟩
    · rw [← isSlot]
      exact slotAt_mem_window rotates past recent
    · exact (slotAt_fits_iff rotates).mpr fits
  · intro late accepted
    exact late.not_gt (exactly.mp accepted).2.1

/-- Half a minute and more after its slot, at the settings of the board above. -/
theorem acceptance_window_sample : ∃ identifier,
    deriveBeaconId sampleBeacon.beaconKey 56802242 = .ok identifier ∧
      Accepted sampleBeacon.beaconKey identifier 30 60 1704067290 := by
  have derived : deriveBeaconId sampleBeacon.beaconKey 56802242 = .ok _ :=
    deriveBeaconId_eq rfl (truncatedMac_eq (by decide))
  have span : windowSpan 30 60 = 2 := by decide
  have values : ∀ slot ∈ 56802242 :: acceptableSlotsAt 1704067290 30 60,
      ∀ slot' ∈ 56802242 :: acceptableSlotsAt 1704067290 30 60, slot ≠ slot' →
        deriveBeaconId sampleBeacon.beaconKey slot ≠
          deriveBeaconId sampleBeacon.beaconKey slot' := by
    rw [sampleWindow]
    decide +kernel
  have window := acceptance_window sampleBeacon.beaconKey rfl 30 60 56802242 (by decide) 1704067290
    (by rw [span]; norm_num) _ derived
    fun slot mem slot' mem' apart identifier is is' =>
      values slot mem slot' mem' apart (is.trans is'.symm)
  exact ⟨_, derived, window.1.mpr (by rw [span]; norm_num)⟩

/-- The last slot has an identifier; one rotation later the window has a slot that has none. -/
theorem last_slot_refused :
    ¬∀ (beaconKey : Bytes) (rotation maxAge slot : Int) (now : ℚ) (identifier : Text),
      beaconKey.length = 32 → 1 ≤ rotation → 0 ≤ maxAge → 0 ≤ slot →
      ((windowSpan rotation maxAge + 1) * rotation : ℚ) ≤ now →
      deriveBeaconId beaconKey slot = .ok identifier →
      DistinctIdentifiers beaconKey (slot :: acceptableSlotsAt now rotation maxAge) →
      (Accepted beaconKey identifier rotation maxAge now ↔ (slot * rotation : ℚ) ≤ now ∧
        now < (slot + windowSpan rotation maxAge + 1) * rotation) := by
  intro claim
  have length : (List.replicate 32 (0 : UInt8)).length = 32 := List.length_replicate
  have current : slotAt 0x10000000000000000 1 = 0x10000000000000000 := by
    unfold slotAt
    norm_num
  have span : windowSpan 1 0 = 1 := by decide
  have window : acceptableSlotsAt 0x10000000000000000 1 0 =
      [0x10000000000000000, 0xffffffffffffffff] := by
    unfold acceptableSlotsAt
    rw [current]
    decide
  have derived : deriveBeaconId _ 0xffffffffffffffff = .ok _ :=
    deriveBeaconId_eq length (truncatedMac_eq (by decide))
  have raises : ∀ identifier, deriveBeaconId (List.replicate 32 0) 0x10000000000000000 ≠
      .ok identifier := nofun
  have same := claim (List.replicate 32 0) 1 0 0xffffffffffffffff 0x10000000000000000 _ length
    (by decide) (by decide) (by decide) (by rw [span]; norm_num) derived ?_
  · have overflow : ¬ slotAt 0x10000000000000000 1 < 0x10000000000000000 := by
      rw [current]
      decide
    refine not_accepted_of_overflow length overflow (same.mpr ?_)
    rw [span]
    norm_num
  · rw [window]
    have last : ∀ slot ∈ [(0xffffffffffffffff : Int), 0x10000000000000000, 0xffffffffffffffff],
        ∀ identifier, deriveBeaconId (List.replicate 32 0) slot = .ok identifier →
          slot = 0xffffffffffffffff := by
      intro slot mem identifier derived
      simp only [List.mem_cons, List.not_mem_nil, or_false] at mem
      rcases mem with rfl | rfl | rfl
      · rfl
      · exact absurd derived (raises identifier)
      · rfl
    intro slot mem slot' mem' apart identifier is is'
    exact apart ((last slot mem identifier is).trans (last slot' mem' identifier is').symm)

end DoorsControl.System
