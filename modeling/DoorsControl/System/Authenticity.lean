import DoorsControl.Backend.Hub
import DoorsControl.System.Agreement
import DoorsControl.System.Model

/-!
# Authenticity of commands

A board pulses its relay only for a command that the signer accepted and signed
before, field for field as the board read it, and so within the signer's limits. The
requests to the signer and the frames to the boards are anybody's choice.
-/

namespace DoorsControl.System

open Firmware (Board Clock Config Effect Platform SocketEvent UnlockCommand)
open Signer (Dict)

variable {ι : Type}

/-- A pulse is for a command on record, and the board found it fresh. -/
theorem issued_of_pulse [DecidableEq ι] {installation : Installation ι} {admits : Input ι → Prop}
    {world : World ι} (reachable : Reachable installation admits world) {board : ι} {clock : Clock}
    {event : SocketEvent} (unforged : Unforged installation world (.event board clock event))
    {command : UnlockCommand} {relayMs : UInt32}
    (pulsed : .pulse command relayMs ∈ effects installation world board clock event) :
    (∃ record ∈ world.issued, Carries record.payload command) ∧
      command.controllerCode = (installation.config board).controllerCode ∧
      command.issuedAt.toInt - (installation.config board).maxClockSkewS ≤ clock.unix ∧
      clock.unix ≤ command.expiresAt.toInt + (installation.config board).maxClockSkewS := by
  obtain ⟨payload, document, rfl, parsed, -, honoured⟩ := Firmware.pulse_of_handleEvent pulsed
  obtain ⟨record, mem, message⟩ := unforged document parsed _ honoured.verified
  have carries : Carries record.payload command :=
    carries_of_canonicalBytes (reachable.signed record mem).2 message
  have notExpired := honoured.notExpired
  have notEarly := honoured.notEarly
  exact ⟨⟨record, mem, carries⟩, honoured.forThisBoard, by omega, by omega⟩

/-- **Authenticity and limits, end to end.** -/
theorem pulse_authentic [DecidableEq ι] (installation : Installation ι) (world : World ι)
    (reachable : Reachable installation anyInput world) (board : ι) (clock : Clock)
    (event : SocketEvent) (unforged : Unforged installation world (.event board clock event))
    (command : UnlockCommand) (relayMs : UInt32)
    (pulsed : .pulse command relayMs ∈ effects installation world board clock event) :
    (∃ record ∈ world.issued, Signer.validateCommand record.payload = .ok () ∧
      Carries record.payload command) ∧
    command.controllerCode = (installation.config board).controllerCode ∧
    (1 ≤ command.durationMs.toNat ∧ command.durationMs.toNat ≤ 10000) ∧
    (1 ≤ command.expiresAt.toInt - command.issuedAt.toInt ∧
      command.expiresAt.toInt - command.issuedAt.toInt ≤ 30) ∧
    command.issuedAt.toInt - (installation.config board).maxClockSkewS ≤ clock.unix ∧
    clock.unix ≤ command.issuedAt.toInt + 30 + (installation.config board).maxClockSkewS := by
  obtain ⟨⟨record, mem, carries⟩, code, notEarly, notExpired⟩ :=
    issued_of_pulse reachable unforged pulsed
  have valid := (reachable.signed record mem).1
  obtain ⟨duration, later, soon⟩ := carries.limits valid
  exact ⟨⟨record, mem, valid, carries⟩, code, duration, ⟨later, soon⟩, notEarly, by omega⟩

/-! ## An installation with one board

The libraries are tables that hold what the real ones return for one frame. -/

section Sample

def sampleSettings : Backend.UnlockSettings where
  beaconRotationSeconds := 30
  proximityMaxAgeSeconds := 30
  rateMaxUnlocksPerMinute := 6
  commandTtlSeconds := 30
  pyStr := fun _ => text "None"

def sampleRecord (relayChannel : Int) : Backend.DoorRecord where
  code := text "lab"
  relayChannel := relayChannel
  unlockSeconds := 3
  isActive := true
  controllerId := some 9
  controller := some ⟨text "ctrl-01", List.replicate 32 7, false⟩

def samplePayload (issuedAt : Int) (relayChannel : Int) : Dict :=
  Backend.commandPayload sampleSettings (sampleRecord relayChannel) (text "ctrl-01")
    0x123e4567e89b12d3a456426614174000 issuedAt (List.replicate 16 0)

def sampleSignature : Bytes := List.replicate 64 0x5a

def sampleKey : Bytes := List.replicate 32 0x11

def sampleEnvelope (payload : Dict) : Dict :=
  Backend.commandEnvelope payload sampleSignature (.str (text "k1"))

/-- The document of the frame with that payload. -/
def sampleDocument (payload : Dict) : Json Bytes := (Json.obj (sampleEnvelope payload)).wire

/-- The text of that frame. -/
def sampleText (payload : Dict) : Bytes := Backend.frame (sampleEnvelope payload)

def samplePlatform (payload : Dict) : Platform where
  deserializeJson bytes := if bytes = sampleText payload then some (sampleDocument payload) else none
  base64Decode coded capacity :=
    if coded = asciiBytes (b64encode sampleSignature) && 64 ≤ capacity then sampleSignature else []
  verifySignature key signature message :=
    key = sampleKey && signature = sampleSignature && some message = Signer.canonicalBytes payload
  signWithControllerKey _ := sampleSignature

def sampleConfig : Config where
  controllerCode := ascii "ctrl-01"
  firmwareVersion := ascii "1.0.0"
  signerPublicKey := sampleKey
  pinRelay := 26
  relayActiveHigh := true
  relayMaxMs := 10000
  heartbeatTimeoutS := 60
  maxClockSkewS := 30

def sampleInstallation (payload : Dict) : Installation Unit where
  signer := ⟨fun _ => sampleSignature, sampleKey, text "k1"⟩
  platform _ := samplePlatform payload
  config _ := sampleConfig

def sampleBoard : Board where
  link := ⟨true, 0, fun _ => [], ⟨0, Firmware.seenCapacity_pos⟩⟩
  relay := ⟨false, 0⟩
  pins _ := false

/-- The sign request for that payload. -/
def sampleRequest (payload : Dict) : Dict :=
  [(text "op", .str (text "sign")), (text "payload", .obj payload)]

/-- After the signer was asked for it at that time. -/
def sampleWorld (payload : Dict) (now : Int) : World Unit :=
  step (sampleInstallation payload) ⟨[], fun _ => sampleBoard⟩ (.request now (sampleRequest payload))

theorem sampleWorld_reachable (payload : Dict) (now : Int) {admits : Input Unit → Prop}
    (admitted : admits (.request now (sampleRequest payload))) :
    Reachable (sampleInstallation payload) admits (sampleWorld payload now) :=
  ⟨fun _ => sampleBoard, .single ⟨_, admitted, trivial, rfl⟩⟩

/-- The canonical bytes of a payload without surrogates. -/
def sampleMessage (payload : Dict) : Bytes :=
  Signer.commandDomain ++ utf8 (Signer.dumps (.obj payload))

theorem sampleMessage_eq {payload : Dict}
    (encodable : (Signer.dumps (.obj payload)).any isSurrogate = false) :
    Signer.canonicalBytes payload = some (sampleMessage payload) := by
  simp [Signer.canonicalBytes, encodeUtf8, encodable, sampleMessage]

/-- What is on record is the payload with its canonical bytes. -/
theorem sampleWorld_issued {payload : Dict} {now : Int} {message : Bytes}
    (valid : Signer.validateCommand payload = .ok ())
    (canonical : Signer.canonicalBytes payload = some message) :
    (sampleWorld payload now).issued = [⟨⟨payload, message⟩, now⟩] := by
  have op : Json.get? (sampleRequest payload) (text "op") = some (.str (text "sign")) := rfl
  have sent : Json.get? (sampleRequest payload) (text "payload") = some (.obj payload) := by
    rfl
  have other : text "sign" ≠ text "public_key" := by decide
  simp [sampleWorld, step, issuedBy, Signer.handle, op, sent, other, Signer.handleSign, valid,
    canonical]

/-- The table verifies what is on record. -/
theorem sample_unforged {payload : Dict} {now : Int} {message : Bytes} {clock : Clock} {frame : Bytes}
    (valid : Signer.validateCommand payload = .ok ())
    (canonical : Signer.canonicalBytes payload = some message) :
    Unforged (sampleInstallation payload) (sampleWorld payload now) (.event () clock (.text frame)) := by
  intro document _ covered verified
  simp only [sampleInstallation, samplePlatform, Bool.and_eq_true, decide_eq_true_eq, canonical,
    Option.some.injEq] at verified
  rw [sampleWorld_issued valid canonical]
  exact ⟨_, List.mem_singleton.mpr rfl, verified.2.symm⟩

/-- What the board reads. -/
def sampleCommand (issuedAt : Int64) (relayChannel : UInt32) : UnlockCommand where
  commandId := ascii "123e4567-e89b-12d3-a456-426614174000"
  controllerCode := ascii "ctrl-01"
  doorCode := ascii "lab"
  durationMs := 3000
  relayChannel := relayChannel
  issuedAt := issuedAt
  expiresAt := issuedAt + 30
  nonce := ascii "AAAAAAAAAAAAAAAAAAAAAA"

section Frame

variable {payload : Dict} {now : Int} {clock : Clock} {command : UnlockCommand}
  (read : Firmware.parseUnlockCommand
    (((sampleDocument payload).member? (ascii "payload")).getD .null) = some command)
  (accepted : Firmware.refusal (samplePlatform payload) sampleConfig clock sampleBoard.link command
    (Firmware.frameSignature (samplePlatform payload) (sampleDocument payload)) = none)

include read accepted

/-- The frame opens the door, once the board reads the command and has no objection. -/
theorem sample_handled : Firmware.handleEvent (samplePlatform payload) sampleConfig clock sampleBoard
    (.text (sampleText payload)) =
      (⟨{ sampleBoard.link with lastPongMs := clock.millis }.rememberCommand command.commandId,
        (Firmware.Relay.pulse sampleConfig sampleBoard.pins clock.millis command.durationMs).1,
        (Firmware.Relay.pulse sampleConfig sampleBoard.pins clock.millis command.durationMs).2⟩,
       [.pulse command (Firmware.pulseDuration sampleConfig command.durationMs),
        Firmware.ackMessage clock command.commandId "opened" "ok"
          (Firmware.pulseDuration sampleConfig command.durationMs)]) := by
  refine Firmware.handleEvent_command ?_ ?_ read accepted
  · simp [samplePlatform]
  · show (some (Firmware.cstr (ascii "command"))).getD [] = _
    decide

theorem sample_pulsed : .pulse command (Firmware.pulseDuration sampleConfig command.durationMs) ∈
    effects (sampleInstallation payload) (sampleWorld payload now) () clock
      (.text (sampleText payload)) := by
  show _ ∈ (Firmware.handleEvent (samplePlatform payload) sampleConfig clock sampleBoard
    (.text (sampleText payload))).2
  rw [sample_handled read accepted]
  exact List.mem_cons_self

end Frame

end Sample

theorem pulse_authentic_sample :
    ∃ record ∈ (sampleWorld (samplePayload 1750000000 1) 1750000000).issued,
      Signer.validateCommand record.payload = .ok () ∧
      Carries record.payload (sampleCommand 1750000000 1) :=
  (pulse_authentic (sampleInstallation (samplePayload 1750000000 1)) _
    (sampleWorld_reachable _ 1750000000 trivial) () ⟨1750000001, 0⟩ _
    (sample_unforged rfl (sampleMessage_eq (by decide +kernel))) (sampleCommand 1750000000 1) _
    (sample_pulsed (by decide +kernel) (by decide +kernel))).1

end DoorsControl.System
