import DoorsControl.Backend.Unlock

/-!
# The door table

`acs.doors` of `003_core_tables.sql` and what the admin API can put into it: the
schema `DoorCreate`, the insert of `DoorRepository.create`, and the constraints of the
table. A controller may have any number of doors, on any channels.
-/

namespace DoorsControl.Backend

/-- `[a-z0-9-]` -/
def isCodeChar (c : CodePoint) : Bool :=
  (0x61 ≤ c.val && c.val ≤ 0x7a) || (0x30 ≤ c.val && c.val ≤ 0x39) || c = codePoint '-'

/-- `ControllerCreate`, without its keys: a request body that passed the schema. -/
structure ControllerCreate where
  code : Text
  name : Text
  code_length : 3 ≤ code.length ∧ code.length ≤ 64
  code_pattern : code.all isCodeChar = true
  name_length : 1 ≤ name.length ∧ name.length ≤ 128

/-- `DoorCreate`: a request body that passed the schema. -/
structure DoorCreate where
  code : Text
  name : Text
  location : Option Text := none
  controllerId : Option Uuid := none
  relayChannel : Int := 1
  unlockSeconds : Int := 3
  code_length : 3 ≤ code.length ∧ code.length ≤ 64
  code_pattern : code.all isCodeChar = true
  name_length : 1 ≤ name.length ∧ name.length ≤ 128
  location_length : ∀ l ∈ location, l.length ≤ 128
  relayChannel_range : 1 ≤ relayChannel ∧ relayChannel ≤ 4
  unlockSeconds_range : 1 ≤ unlockSeconds ∧ unlockSeconds ≤ 10

/-- A row of `acs.controllers`, as far as `DoorRepository.by_id` joins it. -/
structure ControllerRow where
  id : Uuid
  code : Text
  beaconKey : Bytes
  isBlocked : Bool

/-- A row of `acs.doors`. -/
structure DoorRow where
  id : Uuid
  code : Text
  name : Text
  location : Option Text
  controllerId : Option Uuid
  relayChannel : Int
  unlockSeconds : Int
  isActive : Bool

/-- What PostgreSQL raises, with the constraint it names. -/
inductive DbError where
  | uniqueViolation (constraint : String)
  | foreignKeyViolation (constraint : String)
  | checkViolation (constraint : String)

/-- `INSERT INTO acs.doors` under the constraints of the table. -/
def insertDoor (controllers : List ControllerRow) (doors : List DoorRow) (row : DoorRow) :
    Except DbError (List DoorRow) :=
  if ¬ (1 ≤ row.unlockSeconds ∧ row.unlockSeconds ≤ 10) then
    .error (.checkViolation "doors_unlock_seconds_sane")
  else if ¬ (1 ≤ row.relayChannel ∧ row.relayChannel ≤ 4) then
    .error (.checkViolation "doors_relay_channel_sane")
  else if doors.any fun door => door.id = row.id then .error (.uniqueViolation "doors_pkey")
  else if doors.any fun door => door.code = row.code then .error (.uniqueViolation "doors_code_key")
  else if row.controllerId.any fun id => controllers.all fun controller => controller.id ≠ id then
    .error (.foreignKeyViolation "doors_controller_id_fkey")
  else .ok (doors ++ [row])

/-- `DoorRepository.create`; the id is drawn by `gen_random_uuid()`. -/
def createDoor (controllers : List ControllerRow) (doors : List DoorRow) (id : Uuid)
    (body : DoorCreate) : Except DbError (List DoorRow) :=
  insertDoor controllers doors
    { id, code := body.code, name := body.name, location := body.location
      controllerId := body.controllerId, relayChannel := body.relayChannel
      unlockSeconds := body.unlockSeconds, isActive := true }

/-- The tables that requests to the admin API lead to. -/
inductive Creatable (controllers : List ControllerRow) : List DoorRow → Prop
  | empty : Creatable controllers []
  | create {doors doors' : List DoorRow} (id : Uuid) (body : DoorCreate) :
      Creatable controllers doors → createDoor controllers doors id body = .ok doors' →
      Creatable controllers doors'

/-- The rows of such a table went through the schema. -/
theorem Creatable.admissible {controllers : List ControllerRow} {doors : List DoorRow}
    (creatable : Creatable controllers doors) : ∀ door ∈ doors, ∃ body : DoorCreate,
      door.code = body.code ∧ door.relayChannel = body.relayChannel ∧
        door.unlockSeconds = body.unlockSeconds := by
  induction creatable with
  | empty => simp
  | create id body _ created ih =>
      unfold createDoor insertDoor at created
      split_ifs at created
      obtain rfl := Except.ok.inj created
      intro door mem
      rcases List.mem_append.mp mem with mem | mem
      · exact ih door mem
      · rw [List.mem_singleton.mp mem]
        exact ⟨body, rfl, rfl, rfl⟩

/-- The row of a door. -/
def doorRow (doors : List DoorRow) (id : Uuid) : Option DoorRow :=
  doors.find? fun door => door.id = id

/-- `DoorRepository.by_id` -/
def byId (controllers : List ControllerRow) (doors : List DoorRow) (id : Uuid) :
    Option DoorRecord :=
  (doorRow doors id).map fun door =>
    { code := door.code
      relayChannel := door.relayChannel
      unlockSeconds := door.unlockSeconds
      isActive := door.isActive
      controllerId := door.controllerId
      controller := door.controllerId.bind fun id =>
        (controllers.find? fun controller => controller.id = id).map fun controller =>
          ⟨controller.code, controller.beaconKey, controller.isBlocked⟩ }

end DoorsControl.Backend
