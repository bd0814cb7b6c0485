import DoorsControl.Backend.Permissions
import DoorsControl.Backend.Sessions

/-!
# What an unlock is decided on

The tables that `app/db/repositories/doors.py` reads, and with the hub and the rest of what an
unlock meets, the state of the system at one instant. `Snapshot.answer` answers the operations
of `UnlockService.unlock` from it.
-/

namespace DoorsControl.Backend

open DoorsControl.Audit (AuditCall Timestamp)
open Kit (Table)

/-- A row of `acs.controllers`, with the time it was last seen. -/
structure ControllerSeen extends ControllerRow where
  lastSeenAt : Option Timestamp

/-- The tables, under their keys. -/
structure Database where
  doors : Table DoorRow DoorRow.id
  controllers : Table ControllerSeen fun controller => controller.id
  permissions : PermissionTable
  controllers_known : ∀ door ∈ doors.rows, ∀ id ∈ door.controllerId,
    (controllers.get? id).isSome = true
  doors_known : ∀ row ∈ permissions.rows, (doors.get? row.doorId).isSome = true

/-- `DoorSummary` -/
structure DoorSummary where
  id : Uuid
  code : Text
  name : Text
  location : Option Text
  unlockSeconds : Int
  controllerOnline : Bool
  windowStart : TimeOfDay
  windowEnd : TimeOfDay
  weekdayMask : Int
  timeZone : Text

namespace Database

variable (db : Database)

/-- `DoorRepository.by_id` -/
def doorById (id : Uuid) : Option DoorRecord :=
  byId (db.controllers.rows.map ControllerSeen.toControllerRow) db.doors.rows id

/-- The controller that a door is joined with. -/
def controllerOf (door : DoorRow) : Option ControllerSeen :=
  door.controllerId.bind db.controllers.get?

/-- `controller_online`. A comparison with a null time is not true. -/
def controllerOnline (now : Timestamp) (door : DoorRow) : Bool :=
  (db.controllerOf door).any fun controller =>
    !controller.isBlocked && controller.lastSeenAt.any (now - 120000000 < ·)

/-- The condition of `list_for_user` on a row. -/
def isListed (userId : Uuid) (now : Timestamp) (row : PermissionRow) : Bool :=
  row.userId = userId && row.isLive now

def summary (now : Timestamp) (row : PermissionRow) (door : DoorRow) : DoorSummary where
  id := door.id
  code := door.code
  name := door.name
  location := door.location
  unlockSeconds := door.unlockSeconds
  controllerOnline := db.controllerOnline now door
  windowStart := row.startTime
  windowEnd := row.endTime
  weekdayMask := row.weekdayMask
  timeZone := row.timeZone

/-- The join of a permission with its door. -/
def joined (now : Timestamp) (row : PermissionRow) : Option DoorSummary :=
  ((db.doors.get? row.doorId).filter fun door => door.isActive).map (db.summary now row)

/-- `DoorRepository.list_for_user`, ordered by a collation of names. -/
def listForUser (collate : Text → Text → Bool) (userId : Uuid) (now : Timestamp) :
    List DoorSummary :=
  ((db.permissions.rows.filter (isListed userId now)).filterMap (db.joined now)).mergeSort
    fun a b => collate a.name b.name

/-- An entry of the list: a live grant, and a door that is active. -/
theorem mem_listForUser (collate : Text → Text → Bool) {userId : Uuid} {now : Timestamp}
    {entry : DoorSummary} : entry ∈ db.listForUser collate userId now ↔
      ∃ row ∈ db.permissions.rows, row.userId = userId ∧ row.isLive now = true ∧
        ∃ door, db.doors.get? row.doorId = some door ∧ door.isActive = true ∧
          db.summary now row door = entry := by
  unfold listForUser
  rw [List.mem_mergeSort, List.mem_filterMap]
  constructor
  · rintro ⟨row, mem, isEntry⟩
    obtain ⟨inTable, listed⟩ := List.mem_filter.mp mem
    obtain ⟨mine, live⟩ := Bool.and_eq_true_iff.mp listed
    obtain ⟨door, isDoor, same⟩ := Option.map_eq_some_iff.mp isEntry
    obtain ⟨found, active⟩ := Option.filter_eq_some_iff.mp isDoor
    exact ⟨row, inTable, of_decide_eq_true mine, live, door, found, active, same⟩
  · rintro ⟨row, inTable, mine, live, door, found, active, same⟩
    refine ⟨row, List.mem_filter.mpr ⟨inTable, ?_⟩, ?_⟩
    · simp [isListed, mine, live]
    · exact Option.map_eq_some_iff.mpr ⟨door, Option.filter_eq_some_iff.mpr ⟨found, active⟩, same⟩

end Database

/-! ## One instant -/

/-- What an unlock meets, when every statement but `effective` succeeds. What comes after the
checks answers as it likes. -/
structure Snapshot (ρ : Type) where
  db : Database
  hub : Hub ρ
  zones : Zones
  now : Timestamp
  /-- the numbers of the audit rows -/
  seq : AuditCall → Int
  attempts : Int
  rest : (o : UnlockOp) → o.Res

variable {ρ : Type}

def Snapshot.answer (world : Snapshot ρ) : (o : UnlockOp) → o.Res
  | .audit record => .ok (world.seq record)
  | .doorById id => .ok (world.db.doorById id)
  | .effective userId doorId =>
      world.db.permissions.effective world.zones world.now userId doorId
  | .unlockCount _ _ => .ok world.attempts
  | .isOnline controllerCode => world.hub.isOnline controllerCode
  | o => world.rest o

end DoorsControl.Backend
