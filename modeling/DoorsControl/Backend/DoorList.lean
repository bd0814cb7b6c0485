import DoorsControl.Backend.Authorisation
import DoorsControl.Backend.Database

/-!
# The list of doors and the unlock decision

`list_for_user`: "The time window is evaluated here, in the database". `list_doors`: "The
database knows when the controller was last seen; the hub knows whether the socket is open
right now. A door is only offered as openable when both agree." The query has no condition on
the window, and nothing asks the hub.

* `list_agrees_iff` — **when the list is as they say**: every live grant is inside its window,
  and every controller that was seen has a session;
* `list_disagrees` — a grant for working days, on a Sunday.
-/

namespace DoorsControl.Backend

open DoorsControl.Audit (Timestamp)
open Kit.Prog

variable {ρ : Type}

/-- An unlock passes checks 1, 2 and 3, and the controller of the door has a session, which is
check 6. -/
def Snapshot.Passes (world : Snapshot ρ) (args : UnlockArgs) : Prop :=
  ∃ hist door controller,
    runWith (fun _ => world.answer) [] (checkDoor args).run = (hist, .ok door) ∧
      door.controller = some controller ∧ world.hub.isOnline controller.code = true

/-- A door is listed exactly if it is active and there is an effective grant inside its window,
and an unlock of a door that is listed as online passes. -/
structure ListAgrees (world : Snapshot ρ) (collate : Text → Text → Bool) (userId : Uuid) :
    Prop where
  listed : ∀ doorId,
    (∃ entry ∈ world.db.listForUser collate userId world.now, entry.id = doorId) ↔
      (∃ door, world.db.doors.get? doorId = some door ∧ door.isActive = true) ∧
        ∃ permission,
          world.db.permissions.effective world.zones world.now userId doorId =
            .ok (some permission) ∧ permission.withinWindow = true
  online : ∀ entry ∈ world.db.listForUser collate userId world.now,
    entry.controllerOnline = true → ∀ args : UnlockArgs, args.userId = userId →
      args.doorId = entry.id → world.Passes args

/-- A live grant for an active door is inside its window, and the hub has a session of the
controller if it was seen in the last two minutes and is not blocked. -/
structure InOrder (world : Snapshot ρ) (row : PermissionRow) (door : DoorRow) : Prop where
  inside : ∃ localTime, world.zones row.timeZone world.now = some localTime ∧
    row.isWithin localTime = true
  connected : ∀ controller, world.db.controllerOf door = some controller →
    controller.isBlocked = false → controller.lastSeenAt.any (world.now - 120000000 < ·) = true →
      world.hub.isOnline controller.code = true

/-! ## The record of a door -/

def Database.record (db : Database) (door : DoorRow) : DoorRecord where
  code := door.code
  relayChannel := door.relayChannel
  unlockSeconds := door.unlockSeconds
  isActive := door.isActive
  controllerId := door.controllerId
  controller := (db.controllerOf door).map fun controller =>
    ⟨controller.code, controller.beaconKey, controller.isBlocked⟩

theorem Database.doorById_eq (db : Database) (id : Uuid) :
    db.doorById id = (db.doors.get? id).map db.record := by
  unfold Database.doorById byId
  show (db.doors.get? id).map _ = _
  congr 1
  funext door
  unfold Database.record Database.controllerOf
  congr 1
  cases door.controllerId with
  | none => rfl
  | some controllerId =>
      rw [Option.bind_some, Option.bind_some, List.find?_map, Option.map_map]
      rfl

/-! ## The checks, from the tables -/

section Checks

variable {world : Snapshot ρ} {args : UnlockArgs}

/-- The door that is returned is that of the table. -/
theorem doorById_of_checkDoor {hist : List UnlockEvent} {door : DoorRecord}
    (passed : runWith (fun _ => world.answer) [] (checkDoor args).run = (hist, .ok door)) :
    world.db.doorById args.doorId = some door := by
  have reached := steps_runWith (fun _ => world.answer) (Steps.start (p := (checkDoor args).run))
  rw [passed] at reached
  -- the settings play no part in these checks
  have sound : Always _ _ [] (checkDoor args).run :=
    checkDoor_sound ⟨1, 1, 1, 1, fun _ => []⟩ args rfl
  have checked := sound.along reached
  have read : ⟨.doorById args.doorId, .ok (some door)⟩ ∈
      (runWith (fun _ => world.answer) [] (checkDoor args).run).1 := by
    rw [passed]
    exact checked.found
  rcases answers_runWith read with impossible | answered
  · cases impossible
  · exact (Except.ok.inj answered).symm

/-- A door with a controller and an effective grant passes. -/
theorem checkDoor_of_tables {door : DoorRow} {controller : ControllerSeen}
    (found : world.db.doors.get? args.doorId = some door) (active : door.isActive = true)
    (joined : world.db.controllerOf door = some controller)
    (unblocked : controller.isBlocked = false)
    (granted : ∃ permission, world.db.permissions.effective world.zones world.now args.userId
      args.doorId = .ok (some permission) ∧ permission.withinWindow = true) :
    ∃ hist, runWith (fun _ => world.answer) [] (checkDoor args).run =
      (hist, .ok (world.db.record door)) := by
  obtain ⟨permission, granted, inside⟩ := granted
  have record : world.db.doorById args.doorId = some (world.db.record door) := by
    rw [world.db.doorById_eq, found]
    rfl
  have assigned : door.controllerId.isNone = false := by
    unfold Database.controllerOf at joined
    cases isId : door.controllerId with
    | none => simp [isId] at joined
    | some id => rfl
  let Passed := fun run : List UnlockEvent × Except PyError DoorRecord =>
    ∃ hist, run = (hist, .ok (world.db.record door))
  refine run_attempt (Q := Passed) (congrArg Except.ok record) (run_skip ?_ ?_)
  · show (!door.isActive || door.controllerId.isNone) = false
    rw [active, assigned]
    rfl
  refine run_attempt (Q := Passed) granted (run_skip rfl (run_seq rfl (run_skip ?_ ?_)))
  · rw [inside]
    rfl
  refine run_seq (Q := Passed) rfl (run_skip ?_ ⟨_, rfl⟩)
  show ((world.db.controllerOf door).map _).any _ = false
  rw [joined]
  exact unblocked

end Checks

/-! ## When they agree -/

section Agreement

variable {world : Snapshot ρ} {collate : Text → Text → Bool} {userId : Uuid}

/-- The list as it is said to be has every live grant in order. -/
theorem inOrder_of_listAgrees (agrees : ListAgrees world collate userId) {row : PermissionRow}
    {door : DoorRow} (mem : row ∈ world.db.permissions.rows) (mine : row.userId = userId)
    (live : row.isLive world.now = true) (found : world.db.doors.get? row.doorId = some door)
    (active : door.isActive = true) : InOrder world row door := by
  have entry := (world.db.mem_listForUser collate).mpr
    ⟨row, mem, mine, live, door, found, active, rfl⟩
  have isDoor : door.id = row.doorId := (Kit.Table.mem_of_get? found).2
  constructor
  · obtain ⟨other, inTable, isOther, localTime, known, inside⟩ :=
      world.db.permissions.effective_within_iff.mp ((agrees.listed row.doorId).mp
        ⟨_, entry, isDoor⟩).2
    -- the grant that is in effect is this one
    have isRow : row.isFor userId row.doorId world.now = true := by
      simp [PermissionRow.isFor, mine, live]
    have first := world.db.permissions.find_isFor inTable isOther
    rw [world.db.permissions.find_isFor mem isRow] at first
    obtain rfl := Option.some.inj first
    exact ⟨localTime, known, inside⟩
  · intro controller joined unblocked seen
    have online : world.db.controllerOnline world.now door = true := by
      unfold Database.controllerOnline
      rw [joined, Option.any_some, unblocked, seen]
      rfl
    obtain ⟨hist, record, isController, passed, isJoined, connected⟩ :=
      agrees.online _ entry online ⟨userId, 0, door.id, [], none⟩ rfl rfl
    have isRecord := doorById_of_checkDoor passed
    rw [world.db.doorById_eq, isDoor, found] at isRecord
    obtain rfl := Option.some.inj isRecord
    obtain rfl := Option.some.inj ((congrArg (Option.map _) joined).symm.trans isJoined)
    exact connected

/-- And if they are in order, it is. -/
theorem listAgrees_of_inOrder
    (inOrder : ∀ row ∈ world.db.permissions.rows, row.userId = userId →
      row.isLive world.now = true → ∀ door, world.db.doors.get? row.doorId = some door →
        door.isActive = true → InOrder world row door) :
    ListAgrees world collate userId := by
  constructor
  · intro doorId
    rw [world.db.permissions.effective_within_iff]
    constructor
    · rintro ⟨entry, listed, rfl⟩
      obtain ⟨row, mem, mine, live, door, found, active, rfl⟩ :=
        (world.db.mem_listForUser collate).mp listed
      have isDoor : door.id = row.doorId := (Kit.Table.mem_of_get? found).2
      obtain ⟨localTime, known, inside⟩ := (inOrder row mem mine live door found active).inside
      refine ⟨⟨door, ?_, active⟩, row, mem, ?_, localTime, known, inside⟩
      · show world.db.doors.get? door.id = some door
        rw [isDoor]
        exact found
      · simp [PermissionRow.isFor, Database.summary, mine, live, isDoor]
    · rintro ⟨⟨door, found, active⟩, row, mem, isRow, -⟩
      simp only [PermissionRow.isFor, Bool.and_eq_true, decide_eq_true_eq] at isRow
      obtain ⟨⟨mine, rfl⟩, live⟩ := isRow
      exact ⟨_, (world.db.mem_listForUser collate).mpr ⟨row, mem, mine, live, door, found, active, rfl⟩,
        (Kit.Table.mem_of_get? found).2⟩
  · intro entry listed online args isUser isEntry
    obtain ⟨row, mem, mine, live, door, found, active, rfl⟩ := (world.db.mem_listForUser collate).mp listed
    obtain ⟨⟨localTime, known, inside⟩, connected⟩ := inOrder row mem mine live door found active
    have isDoor : door.id = row.doorId := (Kit.Table.mem_of_get? found).2
    have toDoor : args.doorId = row.doorId := isEntry.trans isDoor
    obtain ⟨controller, joined, seen⟩ := (Option.any_eq_true _ _).mp online
    simp only [Bool.and_eq_true, Bool.not_eq_true'] at seen
    have isRow : row.isFor args.userId args.doorId world.now = true := by
      simp [PermissionRow.isFor, mine, live, isUser, toDoor]
    obtain ⟨hist, passed⟩ := checkDoor_of_tables
      (toDoor ▸ found : world.db.doors.get? args.doorId = some door) active joined seen.1
      (world.db.permissions.effective_within_iff.mpr ⟨row, mem, isRow, localTime, known, inside⟩)
    refine ⟨hist, _, ⟨controller.code, controller.beaconKey, controller.isBlocked⟩, passed, ?_,
      connected controller joined seen.1 seen.2⟩
    show (world.db.controllerOf door).map _ = _
    rw [joined]
    rfl

end Agreement

/-- **The list and the decision.** They agree exactly if every live grant of the user for an
active door is inside its window, and the hub has a session of its controller if the controller
was seen lately and is not blocked. -/
theorem list_agrees_iff (world : Snapshot ρ) (collate : Text → Text → Bool) (userId : Uuid) :
    ListAgrees world collate userId ↔
      ∀ row ∈ world.db.permissions.rows, row.userId = userId → row.isLive world.now = true →
        ∀ door, world.db.doors.get? row.doorId = some door → door.isActive = true →
          InOrder world row door :=
  ⟨fun agrees _ mem mine live _ found active =>
    inOrder_of_listAgrees agrees mem mine live found active, listAgrees_of_inOrder⟩

/-! ## A grant for working days -/

def labDoor : DoorRow := ⟨3, text "door-1", text "Front door", none, some 9, 1, 3, true⟩

/-- Seen a minute ago. -/
def labController : ControllerSeen := ⟨⟨9, text "ctl-1", List.replicate 32 7, false⟩, some 40000000⟩

def labGrant : PermissionRow :=
  { userId := 1, doorId := 3, createdBy := none, weekdayMask := 31, id := 50, validFrom := 0,
    isActive := true }

theorem labDoors_unique : ([labDoor].map DoorRow.id).Nodup := by decide
theorem labControllers_unique : ([labController].map fun row => row.id).Nodup := by decide
theorem labGrants_unique : ([labGrant].map PermissionRow.id).Nodup := by decide

def labDoors : Kit.Table DoorRow DoorRow.id := ⟨[labDoor], labDoors_unique⟩
def labControllers : Kit.Table ControllerSeen fun row => row.id :=
  ⟨[labController], labControllers_unique⟩
def labGrants : PermissionTable := ⟨⟨[labGrant], labGrants_unique⟩, List.pairwise_singleton _ _⟩

theorem labControllers_known : ∀ door ∈ labDoors.rows, ∀ id ∈ door.controllerId,
    (labControllers.get? id).isSome = true := by
  intro door mem id isId
  obtain rfl := List.mem_singleton.mp mem
  obtain rfl := Option.some.inj isId
  rfl

theorem labDoors_known : ∀ row ∈ labGrants.rows, (labDoors.get? row.doorId).isSome = true := by
  intro row mem
  obtain rfl := List.mem_singleton.mp mem
  rfl

/-- Noon of a day of the week. No controller is connected. -/
def labSnapshot (localTime : LocalTime) : Snapshot Unit where
  db := ⟨labDoors, labControllers, labGrants, labControllers_known, labDoors_known⟩
  hub := Hub.empty
  zones := fun _ _ => some localTime
  now := 100000000
  seq := fun _ => 1
  attempts := 0
  rest := sampleOracle []

theorem sunday_range : 1 ≤ 7 ∧ 7 ≤ 7 := by decide
theorem monday_range : 1 ≤ 1 ∧ 1 ≤ 7 := by decide

def sundayNoon : LocalTime := ⟨43200000000, 7, sunday_range⟩
def mondayNoon : LocalTime := ⟨43200000000, 1, monday_range⟩

/-- On a Sunday the door is listed, and the grant is outside its window. On a Monday it is
listed as online, and the hub has no session. -/
theorem list_disagrees : ¬ ListAgrees (labSnapshot sundayNoon) (fun _ _ => true) 1 ∧
    ¬ ListAgrees (labSnapshot mondayNoon) (fun _ _ => true) 1 := by
  have inOrder : ∀ localTime, ListAgrees (labSnapshot localTime) (fun _ _ => true) 1 →
      InOrder (labSnapshot localTime) labGrant labDoor := fun localTime agrees =>
    inOrder_of_listAgrees agrees List.mem_cons_self rfl rfl rfl rfl
  constructor
  · intro agrees
    obtain ⟨localTime, known, inside⟩ := (inOrder sundayNoon agrees).inside
    obtain rfl := Option.some.inj known
    exact absurd inside (by decide)
  · intro agrees
    have connected := (inOrder mondayNoon agrees).connected labController rfl rfl (by decide)
    cases connected

end DoorsControl.Backend
