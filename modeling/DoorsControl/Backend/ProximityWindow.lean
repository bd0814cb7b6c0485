import DoorsControl.Backend.Proximity
import DoorsControl.Data.Base64Url
import Mathlib.Data.Rat.Floor

/-!
# The window of the proximity check

`app/core/proximity.py` at exact times. `slot_for` floors, so that the whole seconds of
`Proximity` say all there is.

* `verifyProximityAt_eq` — it is the same check;
* `verifyProximity_of_slot` — **an identifier of a slot in the window is accepted**, with the
  age of that slot, if the window has no other slot with this identifier.
-/

namespace DoorsControl.Backend

/-! ## Exact times -/

/-- `slot_for` -/
def slotAt (timestamp : ℚ) (rotationSeconds : Int) : Int := ⌊timestamp / rotationSeconds⌋

/-- `acceptable_slots` -/
def acceptableSlotsAt (now : ℚ) (rotationSeconds maxAgeSeconds : Int) : List Int :=
  let current := slotAt now rotationSeconds
  let span := max 1 (-((-maxAgeSeconds).fdiv rotationSeconds))
  (List.range (span + 1).toNat).map fun offset => current - offset

/-- `verify_proximity` -/
def verifyProximityAt (beaconKey : Bytes) (presentedBeaconId : Text)
    (rotationSeconds maxAgeSeconds : Int) (now : ℚ) : Except PyError (Bool × Option Int) := do
  if presentedBeaconId = [] then return (false, none)
  let presented := rstripChar (codePoint '=') (strip presentedBeaconId)
  if rotationSeconds = 0 then throw .zeroDivisionError
  let current := slotAt now rotationSeconds
  let matched ← List.foldlM (matchSlot beaconKey presented) none
    (acceptableSlotsAt now rotationSeconds maxAgeSeconds)
  match matched with
  | none => return (false, none)
  | some slot => return (true, some ((current - slot) * rotationSeconds))

section Exact

variable {rotationSeconds : Int}

theorem slotAt_eq (rotates : 0 < rotationSeconds) (timestamp : ℚ) :
    slotAt timestamp rotationSeconds = slotFor ⌊timestamp⌋ rotationSeconds := by
  unfold slotAt slotFor
  rw [Int.floor_div_cast_of_nonneg rotates.le, Int.fdiv_eq_ediv_of_nonneg _ rotates.le]

/-- The check at an exact time is the check at its whole seconds. -/
theorem verifyProximityAt_eq (rotates : 0 < rotationSeconds) (beaconKey : Bytes)
    (presentedBeaconId : Text) (maxAgeSeconds : Int) (now : ℚ) :
    verifyProximityAt beaconKey presentedBeaconId rotationSeconds maxAgeSeconds now =
      verifyProximity beaconKey presentedBeaconId rotationSeconds maxAgeSeconds ⌊now⌋ := by
  unfold verifyProximityAt verifyProximity acceptableSlotsAt acceptableSlots
  rewrite [slotAt_eq rotates]
  rfl

end Exact

/-! ## One identifier for each slot -/

/-- `mac[:BEACON_ID_BYTES]` -/
def truncatedMac (beaconKey : Bytes) (slot : Int) : Except PyError Bytes := do
  let encoded ← slotBytes slot
  return (Kit.Sha256.hmac beaconKey (beaconDomain ++ encoded)).take beaconIdBytes

theorem truncatedMac_eq {beaconKey : Bytes} {slot : Int}
    (inside : 0 ≤ slot ∧ slot < 0x10000000000000000) :
    truncatedMac beaconKey slot = .ok ((Kit.Sha256.hmac beaconKey
      (beaconDomain ++ Kit.Sha256.bigEndian 8 slot.toNat)).take beaconIdBytes) := by
  unfold truncatedMac slotBytes
  rw [if_pos inside]
  rfl

theorem truncatedMac_length {beaconKey mac : Bytes} {slot : Int}
    (h : truncatedMac beaconKey slot = .ok mac) : mac.length = beaconIdBytes := by
  unfold truncatedMac slotBytes at h
  split_ifs at h
  · obtain rfl := Except.ok.inj h
    rw [List.length_take, Kit.Sha256.hmac, Kit.Sha256.sha256_length]
    rfl
  · cases h

/-- The identifier of a slot is the URL-safe text of its truncated HMAC. -/
theorem deriveBeaconId_eq {beaconKey mac : Bytes} (length : beaconKey.length = 32) {slot : Int}
    (h : truncatedMac beaconKey slot = .ok mac) :
    deriveBeaconId beaconKey slot = .ok (chars (urlsafeNoPad mac)) := by
  unfold truncatedMac at h
  unfold deriveBeaconId
  rw [if_neg (not_not.mpr length)]
  cases encoded : slotBytes slot with
  | error e =>
      rw [encoded] at h
      cases h
  | ok bytes =>
      rw [encoded] at h
      obtain rfl := Except.ok.inj h
      rw [← rstrip_urlsafeB64encode]
      rfl

/-- Distinct slots have truncated HMACs, and distinct ones. -/
def DistinctMacs (beaconKey : Bytes) (slots : List Int) : Prop :=
  ∀ slot ∈ slots, ∀ slot' ∈ slots, slot ≠ slot' → ∃ mac mac',
    truncatedMac beaconKey slot = .ok mac ∧ truncatedMac beaconKey slot' = .ok mac' ∧ mac ≠ mac'

/-! ## What the phone sends is what the server compares -/

/-- A digit is ASCII and is not white space. -/
def isPlain (d : Char) : Bool := d.toNat < 128 && !isSpace (codePoint d)

theorem isPlain_low : ∀ n : Fin 62, isPlain (base64Digit '-' '_' n) = true := by
  decide +kernel

theorem isPlain_of_mem {bytes : Bytes} {d : Char} (mem : d ∈ urlsafeNoPad bytes) :
    isPlain d = true :=
  forall_digit isPlain_low (by decide) (by decide) mem

theorem ascii_identifier (bytes : Bytes) :
    ∀ c ∈ chars (urlsafeNoPad bytes), c.val < 128 := by
  intro c mem
  obtain ⟨d, inside, rfl⟩ := List.mem_map.mp mem
  have small := (Bool.and_eq_true_iff.mp (isPlain_of_mem inside)).1
  rw [codePoint_val (of_decide_eq_true small)]
  exact of_decide_eq_true small

/-- `.strip().rstrip("=")` leaves an identifier as it is. -/
theorem presented_identifier (bytes : Bytes) :
    rstripChar (codePoint '=') (strip (chars (urlsafeNoPad bytes))) =
      chars (urlsafeNoPad bytes) := by
  have noSpace : ∀ c ∈ chars (urlsafeNoPad bytes), isSpace c = false := by
    intro c mem
    obtain ⟨d, inside, rfl⟩ := List.mem_map.mp mem
    have plain := (Bool.and_eq_true_iff.mp (isPlain_of_mem inside)).2
    simpa using plain
  rw [strip_eq_self noSpace]
  apply rstripChar_of_not_mem
  intro mem
  obtain ⟨d, inside, same⟩ := List.mem_map.mp mem
  exact pad_not_mem bytes (codePoint_inj same ▸ inside)

/-! ## The loop -/

/-- The span of the window, in slots. -/
def windowSpan (rotationSeconds maxAgeSeconds : Int) : Int :=
  max 1 (-((-maxAgeSeconds).fdiv rotationSeconds))

theorem acceptableSlotsAt_eq (now : ℚ) (rotationSeconds maxAgeSeconds : Int) :
    acceptableSlotsAt now rotationSeconds maxAgeSeconds =
      (List.range (windowSpan rotationSeconds maxAgeSeconds + 1).toNat).map
        fun offset : Nat => slotAt now rotationSeconds - (offset : Int) := by
  simp [acceptableSlotsAt, windowSpan, ← List.map_eq_flatMap]

theorem mem_acceptableSlotsAt {now : ℚ} {rotationSeconds maxAgeSeconds slot : Int} :
    slot ∈ acceptableSlotsAt now rotationSeconds maxAgeSeconds ↔
      slotAt now rotationSeconds - windowSpan rotationSeconds maxAgeSeconds ≤ slot ∧
        slot ≤ slotAt now rotationSeconds := by
  have span : 1 ≤ windowSpan rotationSeconds maxAgeSeconds := le_max_left _ _
  rw [acceptableSlotsAt_eq, List.mem_map]
  constructor
  · rintro ⟨offset, inRange, rfl⟩
    have bound := List.mem_range.mp inRange
    omega
  · rintro ⟨low, high⟩
    refine ⟨(slotAt now rotationSeconds - slot).toNat, List.mem_range.mpr ?_, ?_⟩ <;> omega

/-- A slot that has the identifier. -/
def hasIdentifier (beaconKey : Bytes) (presented : Text) (slot : Int) : Bool :=
  match deriveBeaconId beaconKey slot with
  | .ok candidate => candidate = presented
  | .error _ => false

/-- The loop keeps the first slot that has the identifier. -/
theorem foldlM_matchSlot {beaconKey : Bytes} (length : beaconKey.length = 32) {presented : Text}
    (ascii : ∀ c ∈ presented, c.val < 128) {slots : List Int}
    (macs : ∀ slot ∈ slots, ∃ mac, truncatedMac beaconKey slot = .ok mac) (matched : Option Int) :
    slots.foldlM (matchSlot beaconKey presented) matched =
      .ok (matched.or (slots.find? (hasIdentifier beaconKey presented))) := by
  induction slots generalizing matched with
  | nil => simp [pure, Except.pure]
  | cons slot rest ih =>
      obtain ⟨mac, isMac⟩ := macs slot List.mem_cons_self
      have derived := deriveBeaconId_eq length isMac
      have compared : compareDigest (chars (urlsafeNoPad mac)) presented =
          .ok (decide (chars (urlsafeNoPad mac) = presented)) := by
        unfold compareDigest
        refine if_pos (List.all_eq_true.mpr fun c mem => decide_eq_true ?_)
        rcases List.mem_append.mp mem with own | theirs
        · exact ascii_identifier mac c own
        · exact ascii c theirs
      have turn : matchSlot beaconKey presented matched slot =
          .ok (matched.or (if hasIdentifier beaconKey presented slot then some slot else none)) := by
        unfold matchSlot hasIdentifier
        rw [derived]
        simp only [bind, Except.bind, compared, pure, Except.pure]
        cases matched <;> simp
      -- one match is kept, so the turns add up to a search
      rw [List.foldlM_cons, turn]
      show List.foldlM _ _ rest = _
      rw [ih fun slot mem => macs slot (List.mem_cons_of_mem _ mem), Option.or_assoc,
        List.find?_cons]
      cases hasIdentifier beaconKey presented slot <;> simp

/-- In a window every slot has a neighbour to be distinct from. -/
theorem DistinctMacs.mac {beaconKey : Bytes} {now : ℚ} {rotationSeconds maxAgeSeconds slot : Int}
    (distinct : DistinctMacs beaconKey (acceptableSlotsAt now rotationSeconds maxAgeSeconds))
    (inside : slot ∈ acceptableSlotsAt now rotationSeconds maxAgeSeconds) :
    ∃ mac, truncatedMac beaconKey slot = .ok mac := by
  have span : 1 ≤ windowSpan rotationSeconds maxAgeSeconds := le_max_left _ _
  have neighbour : ∃ other ∈ acceptableSlotsAt now rotationSeconds maxAgeSeconds, slot ≠ other := by
    by_cases newest : slot = slotAt now rotationSeconds
    · refine ⟨slotAt now rotationSeconds - 1, mem_acceptableSlotsAt.mpr ⟨?_, ?_⟩, ?_⟩ <;> omega
    · refine ⟨slotAt now rotationSeconds, mem_acceptableSlotsAt.mpr ⟨?_, ?_⟩, newest⟩ <;> omega
  obtain ⟨other, mem, apart⟩ := neighbour
  obtain ⟨mac, -, isMac, -, -⟩ := distinct slot inside other mem apart
  exact ⟨mac, isMac⟩

theorem identifier_ne_nil {beaconKey mac : Bytes} {slot : Int}
    (isMac : truncatedMac beaconKey slot = .ok mac) : chars (urlsafeNoPad mac) ≠ [] := by
  have macLength := truncatedMac_length isMac
  intro empty
  refine urlsafeNoPad_ne_nil ?_ (List.map_eq_nil_iff.mp empty)
  rintro rfl
  cases macLength

theorem find?_eq_some_of_unique {α : Type} {p : α → Bool} {xs : List α} {x : α} (mem : x ∈ xs)
    (holds : p x = true) (unique : ∀ y ∈ xs, p y = true → y = x) : xs.find? p = some x := by
  obtain ⟨y, found⟩ := Option.isSome_iff_exists.mp (List.find?_isSome.mpr ⟨x, mem, holds⟩)
  rw [found, unique y (List.mem_of_find?_eq_some found) (List.find?_some found)]

/-- **The identifier of a slot in the window is accepted**, with the age of the slot. -/
theorem verifyProximityAt_of_slot {beaconKey mac : Bytes} (length : beaconKey.length = 32)
    {now : ℚ} {rotationSeconds maxAgeSeconds slot : Int} (rotates : rotationSeconds ≠ 0)
    (inside : slot ∈ acceptableSlotsAt now rotationSeconds maxAgeSeconds)
    (distinct : DistinctMacs beaconKey (acceptableSlotsAt now rotationSeconds maxAgeSeconds))
    (isMac : truncatedMac beaconKey slot = .ok mac) :
    verifyProximityAt beaconKey (chars (urlsafeNoPad mac)) rotationSeconds maxAgeSeconds now =
      .ok (true, some ((slotAt now rotationSeconds - slot) * rotationSeconds)) := by
  have macLength := truncatedMac_length isMac
  have found : (acceptableSlotsAt now rotationSeconds maxAgeSeconds).find?
      (hasIdentifier beaconKey (chars (urlsafeNoPad mac))) = some slot := by
    apply find?_eq_some_of_unique inside
    · unfold hasIdentifier
      rw [deriveBeaconId_eq length isMac]
      exact decide_eq_true rfl
    -- another slot of the window has another MAC, and texts of one length determine their bytes
    · intro other mem has
      by_contra apart
      obtain ⟨mac', mac'', isMac', isMac'', differ⟩ := distinct other mem slot inside apart
      obtain rfl := Except.ok.inj (isMac.symm.trans isMac'')
      unfold hasIdentifier at has
      rw [deriveBeaconId_eq length isMac'] at has
      have texts := chars_inj (of_decide_eq_true has)
      exact differ (urlsafeNoPad_inj ((truncatedMac_length isMac').trans macLength.symm) texts)
  unfold verifyProximityAt
  rw [if_neg (identifier_ne_nil isMac), presented_identifier, if_neg rotates,
    foldlM_matchSlot length (ascii_identifier mac) (fun s mem => distinct.mac mem), found]
  rfl

end DoorsControl.Backend
