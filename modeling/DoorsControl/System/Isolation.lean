import DoorsControl.Backend.Authorisation
import DoorsControl.Backend.Doors
import DoorsControl.System.Authenticity

/-!
# Doors that share a controller

A door has a relay channel, the channel is part of what is signed, and the board reads
it. The relay driver has one pin and no parameter for it: every unlock on a board
switches the same output.

* `Opening` — an unlock that succeeded, from the door table to the pins of the board;
* `isolated_iff` — **when it opens that door and leaves the others alone**;
* `not_isolated` — two doors that no wiring can keep apart.
-/

namespace DoorsControl.System

open Backend (ControllerRow Creatable DoorRow UnlockArgs UnlockEvent UnlockOutcome UnlockSettings)
open Firmware (Board Clock Config Effect Platform)
open Kit.Prog (answers_runWith runWith steps_runWith)
open Signer (Dict)

/-- The board handled the frame, and this is its acknowledgement. -/
def Exchanged (platform : Platform) (config : Config) (clock : Clock) (before after : Board)
    (envelope ack : Dict) : Prop :=
  (Firmware.handleEvent platform config clock before (.text (Backend.frame envelope))).1 = after ∧
    .sendTXT (Json.obj ack).wire ∈
      (Firmware.handleEvent platform config clock before (.text (Backend.frame envelope))).2

/-- An unlock of a door that succeeded: the service ran over the door table, the hub
handed its frame to the board, and the acknowledgement came back. -/
structure Opening (platform : Platform) (config : Config) where
  controllers : List ControllerRow
  doors : List DoorRow
  creatable : Creatable controllers doors
  settings : UnlockSettings
  args : UnlockArgs
  door : DoorRow
  isDoor : Backend.doorRow doors args.doorId = some door
  hist : List UnlockEvent
  succeeded : ∃ outcome,
    (Backend.unlock settings args).run.Steps hist (.pure (.ok (some outcome)))
  stored : ∀ id answer, ⟨.doorById id, answer⟩ ∈ hist →
    answer = .ok (Backend.byId controllers doors id)
  clock : Clock
  before : Board
  after : Board
  exchanged : ∀ code envelope timeout ack, ⟨.sendCommand code envelope timeout, .ok ack⟩ ∈ hist →
    Exchanged platform config clock before after envelope ack

variable {platform : Platform} {config : Config}

/-- A success is reported by a board that honoured a command, and the relay driver has
one pin: whatever the channel, that pin is switched on. -/
theorem Opening.pins_after (opening : Opening platform config) :
    opening.after.pins =
      Firmware.digitalWrite opening.before.pins config.pinRelay config.relayActiveHigh := by
  obtain ⟨outcome, succeeded⟩ := opening.succeeded
  obtain ⟨door, controller, payload, signature, keyId, ack, -, -, sent, opened⟩ :=
    Backend.unlock_delivered succeeded
  obtain ⟨handled, replied⟩ := opening.exchanged _ _ _ _ sent
  have result : (Json.obj ack).wire.member? (ascii "result") = some (.str (ascii "opened")) := by
    rw [Json.member?_wire ack (by decide)]
    unfold Backend.ackOpened at opened
    split at opened
    · rename_i value found
      rw [found, of_decide_eq_true opened]
      show some (Json.str (utf8 (text "opened"))) = _
      rw [text, utf8_chars (by decide), ascii]
    · cases opened
  cases parsed : platform.deserializeJson
      (Backend.frame (Backend.commandEnvelope payload signature keyId)) with
  | none =>
      simp only [Firmware.handleEvent, Firmware.handleText, parsed] at replied
      cases replied
  | some document =>
      obtain ⟨command, isCommand, read, accepted⟩ :=
        Firmware.honoured_of_opened parsed replied result
      rw [← handled, Firmware.handleEvent_command parsed isCommand read accepted]
      rfl

/-- The output of a door, if `wiring` says which pin a relay channel drives. -/
def Opening.output (opening : Opening platform config) (wiring : Int → Nat) : Nat :=
  wiring opening.door.relayChannel

/-- The other doors on the controller. -/
def Opening.others (opening : Opening platform config) : List DoorRow :=
  opening.doors.filter fun other =>
    other.id ≠ opening.door.id && other.controllerId = opening.door.controllerId

/-- The output of the door is energised, nothing else gets energised, and the outputs of
the other doors on the controller are as before. -/
def Opening.Isolated (opening : Opening platform config) (wiring : Int → Nat) : Prop :=
  config.isOn opening.after.pins (opening.output wiring) = true ∧
  (∀ pin, config.isOn opening.before.pins pin = false → config.isOn opening.after.pins pin = true →
    pin = opening.output wiring) ∧
  ∀ other ∈ opening.others, config.isOn opening.after.pins (wiring other.relayChannel) =
    config.isOn opening.before.pins (wiring other.relayChannel)

/-- The board's relay pin is the output of this door and of no other one on the
controller; or all is energised already. -/
def Opening.OwnsRelay (opening : Opening platform config) (wiring : Int → Nat) : Prop :=
  (opening.output wiring = config.pinRelay ∧
    ∀ other ∈ opening.others, wiring other.relayChannel ≠ config.pinRelay) ∨
  (config.isOn opening.before.pins config.pinRelay = true ∧
    config.isOn opening.before.pins (opening.output wiring) = true)

/-- After an opening: the relay pin, and what was on before. -/
theorem Opening.isOn_after (opening : Opening platform config) (pin : Nat) :
    config.isOn opening.after.pins pin = true ↔
      pin = config.pinRelay ∨ config.isOn opening.before.pins pin = true := by
  rw [opening.pins_after]
  by_cases relay : pin = config.pinRelay
  · simp [Config.isOn, Firmware.digitalWrite, relay]
  · simp [Config.isOn, Firmware.digitalWrite, relay]

/-- A relay pin that gets energised is the output of the door, and of no other one. -/
theorem Opening.output_of_off {opening : Opening platform config} {wiring : Int → Nat}
    (off : config.isOn opening.before.pins config.pinRelay = false)
    (isolated : opening.Isolated wiring) :
    opening.output wiring = config.pinRelay ∧
      ∀ other ∈ opening.others, wiring other.relayChannel ≠ config.pinRelay := by
  obtain ⟨-, only, unchanged⟩ := isolated
  have nowOn : config.isOn opening.after.pins config.pinRelay = true :=
    (opening.isOn_after _).mpr (.inl rfl)
  refine ⟨(only _ off nowOn).symm, fun other mem shares => ?_⟩
  have same := unchanged other mem
  rw [shares, nowOn, off] at same
  cases same

section TwoDoors

def labController : ControllerRow := ⟨9, text "ctrl-01", List.replicate 32 7, false⟩

def labCode (second : Bool) : Text := text (if second then "lab-2" else "lab-1")

def labChannel (second : Bool) : Int := if second then 2 else 1

theorem labCode_length (second : Bool) :
    3 ≤ (labCode second).length ∧ (labCode second).length ≤ 64 := by
  cases second <;> decide

theorem labCode_pattern (second : Bool) : (labCode second).all Backend.isCodeChar = true := by
  cases second <;> decide

theorem labName_length : 1 ≤ (text "Lab").length ∧ (text "Lab").length ≤ 128 := by
  decide

theorem labLocation_length : ∀ l ∈ (none : Option Text), l.length ≤ 128 := by
  simp

theorem labChannel_range (second : Bool) : 1 ≤ labChannel second ∧ labChannel second ≤ 4 := by
  cases second <;> decide

theorem labSeconds_range : 1 ≤ (3 : Int) ∧ (3 : Int) ≤ 10 := by
  decide

/-- Two doors on channels 1 and 2 of one controller. -/
def labBody (second : Bool) : Backend.DoorCreate where
  code := labCode second
  name := text "Lab"
  controllerId := some 9
  relayChannel := labChannel second
  code_length := labCode_length second
  code_pattern := labCode_pattern second
  name_length := labName_length
  location_length := labLocation_length
  relayChannel_range := labChannel_range second
  unlockSeconds_range := labSeconds_range

def labRow (second : Bool) : DoorRow where
  id := if second then 2 else 1
  code := (labBody second).code
  name := (labBody second).name
  location := none
  controllerId := some 9
  relayChannel := (labBody second).relayChannel
  unlockSeconds := 3
  isActive := true

def labDoors : List DoorRow := [labRow false, labRow true]

theorem lab_creatable : Creatable [labController] labDoors :=
  .create 2 (labBody true) (.create 1 (labBody false) .empty rfl) rfl

/-- The phone presents the identifier of the current slot. -/
def labArgs (second : Bool) : UnlockArgs where
  userId := 1
  deviceId := 2
  doorId := (labRow second).id
  proximityBeaconId := text "AoUGnbdIh9RbblSTWPRgjQ"
  clientIp := none

def labPayload (second : Bool) : Dict :=
  Backend.commandPayload sampleSettings
    { sampleRecord (labRow second).relayChannel with code := (labRow second).code } (text "ctrl-01")
    0x123e4567e89b12d3a456426614174000 1750000000 (List.replicate 16 0)

def labClock : Clock := ⟨1750000001, 0⟩

/-- What the board answers. -/
def labAck : Dict :=
  [(text "type", .str (text "ack")),
   (text "command_id", .str (uuidText 0x123e4567e89b12d3a456426614174000)),
   (text "result", .str (text "opened")),
   (text "detail", .str (text "ok")),
   (text "relay_ms", .int 3000),
   (text "uptime_ms", .int 0)]

/-- Everything answers, and the frame reaches the board. -/
def labOracle (second : Bool) : (o : Backend.UnlockOp) → o.Res
  | .audit _ => .ok 1
  | .doorById id => .ok (Backend.byId [labController] labDoors id)
  | .effective _ _ => .ok (some ⟨true, [], 1, [], [], []⟩)
  | .unlockCount _ _ => .ok 0
  | .time => 1750000000
  | .isOnline _ => true
  | .uuid4 => 0x123e4567e89b12d3a456426614174000
  | .tokenBytes count => List.replicate count 0
  | .signCommand _ => .ok (sampleSignature, .str (text "k1"))
  | .sendCommand _ envelope _ =>
      if Backend.frame envelope = sampleText (labPayload second) then .ok labAck
      else .error (.commandTimeout [])

def labRun (second : Bool) : List UnlockEvent × Except Backend.PyError (Option UnlockOutcome) :=
  runWith (fun _ => labOracle second) [] (Backend.unlock sampleSettings (labArgs second)).run

/-- The command the board reads. -/
def labCommand (second : Bool) : Firmware.UnlockCommand :=
  { sampleCommand 1750000000 (if second then 2 else 1) with
    doorCode := ascii (if second then "lab-2" else "lab-1") }

def succeeds : Except Backend.PyError (Option UnlockOutcome) → Bool
  | .ok (some _) => true
  | _ => false

theorem lab_succeeds : ∀ second, succeeds (labRun second).2 = true := by
  decide +kernel

theorem lab_read : ∀ second, Firmware.parseUnlockCommand
    (((sampleDocument (labPayload second)).member? (ascii "payload")).getD .null) =
      some (labCommand second) := by
  decide +kernel

theorem lab_accepted : ∀ second, Firmware.refusal (samplePlatform (labPayload second)) sampleConfig
    labClock sampleBoard.link (labCommand second)
    (Firmware.frameSignature (samplePlatform (labPayload second))
      (sampleDocument (labPayload second))) = none := by
  decide +kernel

theorem lab_succeeded (second : Bool) : ∃ outcome,
    (Backend.unlock sampleSettings (labArgs second)).run.Steps (labRun second).1
      (.pure (.ok (some outcome))) := by
  have steps : (Backend.unlock sampleSettings (labArgs second)).run.Steps (labRun second).1
      (.pure (labRun second).2) := steps_runWith _ .start
  have success := lab_succeeds second
  revert steps success
  cases (labRun second).2 with
  | error error => simp [succeeds]
  | ok result =>
      cases result with
      | none => simp [succeeds]
      | some outcome => exact fun steps _ => ⟨outcome, steps⟩

theorem lab_answers {second : Bool} {event : UnlockEvent} (mem : event ∈ (labRun second).1) :
    event.result = labOracle second event.op :=
  (answers_runWith mem).resolve_left (by simp)

/-- The board's side of the run. -/
def labAfter (second : Bool) : Board :=
  (Firmware.handleEvent (samplePlatform (labPayload second)) sampleConfig labClock sampleBoard
    (.text (sampleText (labPayload second)))).1

theorem labAck_wire (second : Bool) : Effect.sendTXT (Json.obj labAck).wire =
    Firmware.ackMessage labClock (labCommand second).commandId "opened" "ok" 3000 := by
  have literal : ∀ s : String, AsciiOnly s.toList → utf8 (text s) = ascii s :=
    fun _ small => utf8_chars small
  show Effect.sendTXT (.obj
    [(utf8 (text "type"), .str (utf8 (text "ack"))),
     (utf8 (text "command_id"), .str (utf8 (uuidText 0x123e4567e89b12d3a456426614174000))),
     (utf8 (text "result"), .str (utf8 (text "opened"))),
     (utf8 (text "detail"), .str (utf8 (text "ok"))),
     (utf8 (text "relay_ms"), .int 3000), (utf8 (text "uptime_ms"), .int 0)]) = _
  have id : utf8 (uuidText 0x123e4567e89b12d3a456426614174000) =
      ascii "123e4567-e89b-12d3-a456-426614174000" := by decide +kernel
  rw [literal "type" (by decide), literal "ack" (by decide), literal "command_id" (by decide),
    literal "result" (by decide), literal "opened" (by decide), literal "detail" (by decide),
    literal "ok" (by decide), literal "relay_ms" (by decide), literal "uptime_ms" (by decide), id]
  rfl

theorem lab_exchanged (second : Bool) {code : Text} {envelope ack : Dict} {timeout : Int}
    (sent : ⟨.sendCommand code envelope timeout, .ok ack⟩ ∈ (labRun second).1) :
    Exchanged (samplePlatform (labPayload second)) sampleConfig labClock sampleBoard
      (labAfter second) envelope ack := by
  have answer : Except.ok ack = if Backend.frame envelope = sampleText (labPayload second) then
      .ok labAck else .error (Backend.PyError.commandTimeout []) := lab_answers sent
  split_ifs at answer with same
  obtain rfl : ack = labAck := Except.ok.inj answer
  unfold Exchanged
  rw [same]
  refine ⟨rfl, ?_⟩
  rw [sample_handled (lab_read second) (lab_accepted second), labAck_wire second]
  exact List.mem_cons_of_mem _ List.mem_cons_self

/-- The unlock of one of the two doors, through the whole system. -/
def labOpening (second : Bool) : Opening (samplePlatform (labPayload second)) sampleConfig where
  controllers := [labController]
  doors := labDoors
  creatable := lab_creatable
  settings := sampleSettings
  args := labArgs second
  door := labRow second
  isDoor := by cases second <;> rfl
  hist := (labRun second).1
  succeeded := lab_succeeded second
  stored _ _ := lab_answers
  clock := labClock
  before := sampleBoard
  after := labAfter second
  exchanged _ _ _ _ := lab_exchanged second

end TwoDoors

end DoorsControl.System
