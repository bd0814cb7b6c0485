import DoorsControl.Firmware.WsLink
import DoorsControl.Signer.Server
import Mathlib.Logic.Relation

/-!
# The signer and the boards

One signer and any number of boards. Whoever owns the API process, or sits on a wire,
chooses every request to the signer and every event a board sees, in any order and at
any times: an `Input` is one such choice. What the boards' libraries verify is limited
by what was signed so far (`Unforged`).

* `Reachable` — the states after any inputs that a condition admits;
* `Reachable.signed` — everything on record was valid when it was signed.
-/

namespace DoorsControl.System

open Firmware (Board Clock Config Effect Platform SocketEvent)
open Signer (Dict SignedCommand SignerService)

variable {ι : Type}

/-- The fixed parts: the signer's key, and the libraries and `config.h` of each board. -/
structure Installation (ι : Type) where
  signer : SignerService
  platform : ι → Platform
  config : ι → Config

/-- A command on record, with the time it was signed at. -/
structure Issued extends SignedCommand where
  time : Int

structure World (ι : Type) where
  issued : List Issued
  boards : ι → Board

inductive Input (ι : Type) where
  /-- A request to the signer, at its time. -/
  | request (now : Int) (request : Dict)
  /-- An event of the websocket library of a board. -/
  | event (board : ι) (clock : Clock) (event : SocketEvent)
  /-- `relay.tick()` in the loop of a board. -/
  | tick (board : ι) (millis : UInt32)

/-- What the signer puts on record for a request. -/
def issuedBy (installation : Installation ι) (now : Int) (request : Dict) : List Issued :=
  ((Signer.handle installation.signer request).signed.map fun command =>
    { command with time := now }).toList

/-- What a board does in answer to an event. -/
def effects (installation : Installation ι) (world : World ι) (board : ι) (clock : Clock)
    (event : SocketEvent) : List Effect :=
  (Firmware.handleEvent (installation.platform board) (installation.config board) clock
    (world.boards board) event).2

/-- A board in a new state. -/
def setBoard [DecidableEq ι] (world : World ι) (id : ι) (board : Board) : World ι :=
  { world with boards := Function.update world.boards id board }

def step [DecidableEq ι] (installation : Installation ι) (world : World ι) : Input ι → World ι
  | .request now request =>
      { world with issued := world.issued ++ issuedBy installation now request }
  | .event id clock event =>
      setBoard world id (Firmware.handleEvent (installation.platform id) (installation.config id)
        clock (world.boards id) event).1
  | .tick id millis =>
      let board := world.boards id
      let (relay, pins) := board.relay.tick (installation.config id) board.pins millis
      setBoard world id { board with relay, pins }

/-- The signature in a frame verifies only for byte strings the signer has signed
before the frame arrives. -/
def Unforged (installation : Installation ι) (world : World ι) : Input ι → Prop
  | .event board _ (.text payload) => ∀ document,
      (installation.platform board).deserializeJson payload = some document →
      ∀ message, (installation.platform board).verifySignature
        (installation.config board).signerPublicKey
        (Firmware.frameSignature (installation.platform board) document) message = true →
      ∃ record ∈ world.issued, record.message = message
  | _ => True

/-- One input that `admits` lets through. -/
def Step [DecidableEq ι] (installation : Installation ι) (admits : Input ι → Prop)
    (world next : World ι) : Prop :=
  ∃ input, admits input ∧ Unforged installation world input ∧ step installation world input = next

/-- The states after any number of inputs, from boards in any state and a signer that
has signed nothing. -/
def Reachable [DecidableEq ι] (installation : Installation ι) (admits : Input ι → Prop)
    (world : World ι) : Prop :=
  ∃ boards, Relation.ReflTransGen (Step installation admits) ⟨[], boards⟩ world

/-- Every input is possible. -/
def anyInput (_ : Input ι) : Prop := True

section Invariants

variable [DecidableEq ι] {installation : Installation ι} {admits : Input ι → Prop}

/-- The record only grows, and only by requests. -/
theorem mem_issued_step {world : World ι} {input : Input ι} {record : Issued}
    (h : record ∈ (step installation world input).issued) :
    record ∈ world.issued ∨ ∃ now request, input = .request now request ∧ record.time = now ∧
      (Signer.handle installation.signer request).signed = some record.toSignedCommand := by
  cases input with
  | request now request =>
      rcases List.mem_append.mp h with old | new
      · exact .inl old
      · simp only [issuedBy, Option.mem_toList, Option.map_eq_some_iff] at new
        obtain ⟨command, signed, rfl⟩ := new
        exact .inr ⟨now, request, rfl, rfl, signed⟩
  | event board clock event => exact .inl h
  | tick board millis => exact .inl h

/-- What holds of everything that one admitted request can put on record holds of the
whole record, in every reachable state. -/
theorem Reachable.issued_all {world : World ι} (reachable : Reachable installation admits world)
    {P : Issued → Prop}
    (each : ∀ now request record, admits (.request now request) → record.time = now →
      (Signer.handle installation.signer request).signed = some record.toSignedCommand → P record) :
    ∀ record ∈ world.issued, P record := by
  obtain ⟨boards, path⟩ := reachable
  induction path with
  | refl => simp
  | tail _ last ih =>
      obtain ⟨input, admitted, -, rfl⟩ := last
      intro record mem
      rcases mem_issued_step mem with old | ⟨now, request, rfl, time, signed⟩
      · exact ih record old
      · exact each now request record admitted time signed

/-- **Everything on record was valid**, and its message is its canonical bytes. -/
theorem Reachable.signed {world : World ι} (reachable : Reachable installation admits world) :
    ∀ record ∈ world.issued, Signer.validateCommand record.payload = .ok () ∧
      Signer.canonicalBytes record.payload = some record.message :=
  reachable.issued_all fun _ _ _ _ _ signed => (Signer.signed_of_handle signed).2

end Invariants

end DoorsControl.System
