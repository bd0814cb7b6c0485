import DoorsControl.Backend.Permissions

/-!
# The default window

Weekday mask 127, "every day" in `003_core_tables.sql`, from 00:00:00 to 23:59:59. What the time is
in a zone follows from the history of its offset; the time of day has microseconds there, and the
end of the window has none.

* `isWithin_default` — the times of the day that are within;
* `whole_week_iff` — **when a grant with the default window is in effect**;
* `last_second` — half a second before midnight.
-/

namespace DoorsControl.Backend

open DoorsControl.Audit (Timestamp)

/-- The offset from UTC at every instant, in microseconds. -/
abbrev OffsetHistory := Timestamp → Int

def dayMicros : Int := 86400000000

/-- `now() AT TIME ZONE ..`; the epoch began on a Thursday. -/
def OffsetHistory.localTime (offset : OffsetHistory) (now : Timestamp) : LocalTime where
  time := (now + offset now) % dayMicros
  isodow := (((now + offset now) / dayMicros + 3) % 7 + 1).toNat
  dow_range := by omega

/-- The zones that PostgreSQL knows. -/
def zonesOf (histories : Text → Option OffsetHistory) : Zones :=
  fun name now => (histories name).map fun offset => offset.localTime now

/-- The columns of the window have their defaults. -/
def PermissionRow.HasDefaultWindow (row : PermissionRow) : Prop :=
  row.toGrantArgs =
    { userId := row.userId, doorId := row.doorId, createdBy := row.createdBy,
      timeZone := row.timeZone, validUntil := row.validUntil }

/-- Every day has its bit. -/
theorem everyDay : ∀ dow : Fin 8, (1 : Nat) ≤ dow → ((127 : Int) >>> (dow.val - 1)) % 2 = 1 := by
  decide

/-- The times of the day that are within. -/
theorem isWithin_default {row : PermissionRow} (whole : row.HasDefaultWindow)
    (localTime : LocalTime) :
    row.isWithin localTime = true ↔ 0 ≤ localTime.time ∧ localTime.time ≤ 86399000000 := by
  obtain ⟨low, high⟩ := localTime.dow_range
  have mask : row.weekdayMask = 127 := congrArg GrantArgs.weekdayMask whole
  have start : row.startTime = 0 := congrArg GrantArgs.startTime whole
  have stop : row.endTime = 86399000000 := congrArg GrantArgs.endTime whole
  have day := everyDay ⟨localTime.isodow, by omega⟩ low
  unfold PermissionRow.isWithin
  rw [mask, start, stop, day]
  simp

/-- **The default window.** A grant that is active and valid is returned as within its window
exactly as long as the local time is not after 23:59:59. -/
theorem whole_week_iff (table : PermissionTable) (histories : Text → Option OffsetHistory)
    (now : Timestamp) (userId doorId : Uuid) (row : PermissionRow) (mem : row ∈ table.rows)
    (live : row.isFor userId doorId now = true) (whole : row.HasDefaultWindow)
    (offset : OffsetHistory) (known : histories row.timeZone = some offset) :
    (∃ permission, table.effective (zonesOf histories) now userId doorId = .ok (some permission) ∧
        permission.withinWindow = true) ↔
      (now + offset now) % dayMicros ≤ 86399000000 := by
  have isLocal : zonesOf histories row.timeZone now = some (offset.localTime now) := by
    unfold zonesOf
    rw [known, Option.map_some]
  have answer : table.effective (zonesOf histories) now userId doorId =
      .ok (some (row.record (offset.localTime now))) := by
    unfold PermissionTable.effective
    rw [table.find_isFor mem live]
    simp only [isLocal]
  have positive : 0 ≤ (now + offset now) % dayMicros := Int.emod_nonneg _ (by decide)
  have within := isWithin_default whole (offset.localTime now)
  constructor
  · rintro ⟨permission, same, inside⟩
    rw [answer] at same
    obtain rfl := Option.some.inj (Except.ok.inj same)
    exact (within.mp inside).2
  · intro early
    exact ⟨_, answer, within.mpr ⟨positive, early⟩⟩

/-- A grant of user 2 for door 3, since 1970. -/
def defaultGrant : PermissionRow := GrantArgs.row { userId := 2, doorId := 3, createdBy := none } 5 0

def defaultTable : PermissionTable := PermissionTable.empty.insert defaultGrant rfl nofun

/-- A zone two hours ahead. -/
def aheadHistories : Text → Option OffsetHistory := fun _ => some fun _ => 7200000000

/-- At noon. -/
theorem whole_week_iff_sample : ∃ permission,
    defaultTable.effective (zonesOf aheadHistories) 36000000000 2 3 = .ok (some permission) ∧
      permission.withinWindow = true :=
  (whole_week_iff defaultTable aheadHistories 36000000000 2 3 defaultGrant List.mem_cons_self
    rfl rfl (fun _ => 7200000000) rfl).mpr (by decide)

/-- Half a second before midnight a live grant for the whole week is outside its window. -/
theorem last_second :
    ¬∀ (table : PermissionTable) (histories : Text → Option OffsetHistory) (now : Timestamp)
      (userId doorId : Uuid) (row : PermissionRow), row ∈ table.rows →
      row.isFor userId doorId now = true → row.HasDefaultWindow →
      ∀ offset, histories row.timeZone = some offset →
      ∃ permission, table.effective (zonesOf histories) now userId doorId = .ok (some permission) ∧
        permission.withinWindow = true := by
  intro noHoles
  obtain ⟨permission, granted, inside⟩ := noHoles defaultTable aheadHistories 79199500000 2 3
    defaultGrant List.mem_cons_self rfl rfl (fun _ => 7200000000) rfl
  cases granted
  exact absurd inside (by decide)

end DoorsControl.Backend
