import DoorsControl.Backend.Commands

/-!
# What the rows of an unlock say

Every branch of the decision writes its own row, under the names of who asked and for which door.

* `Means` — what has happened when a row of each kind is written;
* `unlock_backed` — no call writes a row of which that is not so.
-/

namespace DoorsControl.Backend

open DoorsControl.Audit (AuditCall AuditEvent)
open Kit.Prog

/-- What has happened when a row is written. -/
def Means (hist : List UnlockEvent) : AuditEvent → Prop
  | .doorUnlockRequested => hist = []
  | .doorUnlockDenied | .rateLimitTripped => hist.any isSend = false
  | .doorUnlockGranted => hist.any isSend = false ∧
      ∃ payload answer, ⟨.signCommand payload, .ok answer⟩ ∈ hist
  | .doorUnlockConfirmed => ∃ code envelope timeout ack,
      ⟨.sendCommand code envelope timeout, .ok ack⟩ ∈ hist ∧ ackOpened ack = true
  | .doorUnlockFailed => hist.any isSend = true ∧
      ∀ code envelope timeout answer, ⟨.sendCommand code envelope timeout, answer⟩ ∈ hist →
        unopened answer = true
  | _ => False

/-- A row names the caller and the door, and one frame is sent at most. -/
def Backed (args : UnlockArgs) (hist : List UnlockEvent) : UnlockOp → Prop
  | .audit record => record.actorId = some args.userId ∧ record.deviceId = some args.deviceId ∧
      record.doorId = some args.doorId ∧ Means hist record.event
  | .sendCommand _ _ _ => hist.any isSend = false
  | _ => True

section Programs

variable (settings : UnlockSettings) (args : UnlockArgs) {hist : List UnlockEvent}

/-- `_deny`, before anything was sent. -/
theorem deny_backed (unsent : hist.any isSend = false) (internalReason : Text) (reason : DenyReason)
    (extra : Dict) (controllerId : Option Uuid) :
    Always (Backed args) (OnOk fun _ _ => False) hist
      (deny args internalReason reason extra controllerId).run :=
  always_attemptBind ⟨rfl, rfl, rfl, unsent⟩ fun _ _ _ => trivial

/-- `_fail`, after a frame that opened nothing. -/
theorem fail_backed (means : Means hist .doorUnlockFailed) (door : DoorRecord) (commandId : Uuid)
    (internalReason : Text) :
    Always (Backed args) (OnOk fun _ _ => False) hist
      (fail args door commandId internalReason).run :=
  always_attemptBind ⟨rfl, rfl, rfl, means⟩ fun _ _ _ => trivial

/-- What follows a subscript. -/
theorem subscript_backed {α β : Type} {P : List UnlockEvent → β → Prop} {record : Option α}
    {f : α → Py β} (second : ∀ value, Always (Backed args) (OnOk P) hist (f value).run) :
    Always (Backed args) (OnOk P) hist (subscript record >>= f).run := by
  cases record with
  | none => trivial
  | some value => exact second value

/-- Nothing was sent. -/
def Unsent {α : Type} (hist : List UnlockEvent) (_ : α) : Prop := hist.any isSend = false

theorem checkDoor_backed (unsent : hist.any isSend = false) :
    Always (Backed args) (OnOk Unsent) hist (checkDoor args).run := by
  refine always_attemptBind trivial fun _ door _ => ?_
  refine always_ifThenBind (deny_backed args (by exact unsent) _ _ _ _) fun _ => ?_
  refine always_attemptBind trivial fun _ permission _ => ?_
  refine always_ifThenBind (deny_backed args (by exact unsent) _ _ _ _) fun _ => ?_
  refine subscript_backed args fun permission => ?_
  refine always_ifThenBind (deny_backed args (by exact unsent) _ _ _ _) fun _ => ?_
  refine subscript_backed args fun door => ?_
  exact always_ifThenBind (deny_backed args (by exact unsent) _ _ _ _) fun _ => unsent

theorem checkPresence_backed (unsent : hist.any isSend = false) (door : DoorRecord) :
    Always (Backed args) (OnOk Unsent) hist (checkPresence settings args door).run := by
  refine subscript_backed args fun controller => ?_
  refine (always_callBind _ _).mpr ⟨trivial, fun now => ?_⟩
  cases verifyProximity controller.beaconKey args.proximityBeaconId settings.beaconRotationSeconds
      settings.proximityMaxAgeSeconds now with
  | error error => trivial
  | ok verified =>
      refine always_ifThenBind (deny_backed args (by exact unsent) _ _ _ _) fun _ => ?_
      refine always_attemptBind trivial fun _ attempts _ => ?_
      refine always_ifThenBind
        (always_attemptBind ⟨rfl, rfl, rfl, unsent⟩ fun _ _ _ => trivial) fun _ => ?_
      refine (always_callBind _ _).mpr ⟨trivial, fun online => ?_⟩
      exact always_ifThenBind (deny_backed args (by exact unsent) _ _ _ _) fun _ => unsent

theorem signStep_backed (unsent : hist.any isSend = false) (door : DoorRecord)
    (controllerCode : Text) :
    Always (Backed args) (OnOk fun hist' signed => hist'.any isSend = false ∧
        (signed.isSome = true → ∃ payload answer, ⟨.signCommand payload, .ok answer⟩ ∈ hist')) hist
      (signStep settings args door controllerCode).run := by
  refine (always_callBind _ _).mpr ⟨trivial, fun commandId => ?_⟩
  refine (always_callBind _ _).mpr ⟨trivial, fun issuedAt => ?_⟩
  refine (always_callBind _ _).mpr ⟨trivial, fun nonce => ?_⟩
  refine (always_callBind _ _).mpr ⟨trivial, fun answer => ?_⟩
  split
  · exact ⟨unsent, fun _ => ⟨_, _, List.mem_cons_self⟩⟩
  · exact always_seq (deny_backed args (by exact unsent) _ _ _ _) fun _ _ impossible => impossible.elim
  · exact always_seq (deny_backed args (by exact unsent) _ _ _ _) fun _ _ impossible => impossible.elim
  · trivial

theorem deliverStep_backed (unsent : hist.any isSend = false) (door : DoorRecord)
    (controllerCode : Text) (commandId : Uuid) (envelope : Dict) :
    Always (Backed args) (OnOk fun hist' _ => Means hist' .doorUnlockConfirmed) hist
      (deliverStep settings args door controllerCode commandId envelope).run := by
  refine (always_callBind _ _).mpr ⟨unsent, fun answer => ?_⟩
  -- the one frame of this call
  have only : ∀ code envelope' timeout answer',
      (⟨.sendCommand code envelope' timeout, answer'⟩ : UnlockEvent) ∈
        ⟨.sendCommand controllerCode envelope settings.commandTtlSeconds, answer⟩ :: hist →
          answer' = answer := by
    intro code envelope' timeout answer' mem
    rcases List.mem_cons.mp mem with same | old
    · cases same
      rfl
    · rw [List.any_eq_false] at unsent
      exact absurd rfl (unsent _ old)
  have failed : unopened answer = true → Means
      (⟨.sendCommand controllerCode envelope settings.commandTtlSeconds, answer⟩ :: hist)
        .doorUnlockFailed := by
    intro isUnopened
    refine ⟨rfl, fun code envelope' timeout answer' mem => ?_⟩
    rw [only code envelope' timeout answer' mem]
    exact isUnopened
  split
  · rename_i ack
    show Always _ _ _ (ifThen (!ackOpened ack) (fail args door commandId
      (refusedReason settings ack)) >>= fun _ => pure ack).run
    cases opened : ackOpened ack with
    | true => exact ⟨controllerCode, envelope, _, ack, List.mem_cons_self, opened⟩
    | false =>
        have isUnopened : unopened (.ok ack) = true := by simp [unopened, opened]
        exact always_seq (fail_backed args (failed isUnopened) _ _ _)
          fun _ _ impossible => impossible.elim
  · exact always_seq (fail_backed args (failed rfl) _ _ _) fun _ _ impossible => impossible.elim
  · exact always_seq (fail_backed args (failed rfl) _ _ _) fun _ _ impossible => impossible.elim
  · trivial

end Programs

/-- **No call writes a row that does not say what happened.** -/
theorem unlock_backed (settings : UnlockSettings) (args : UnlockArgs) :
    Always (Backed args) (OnOk fun _ _ => True) [] (unlock settings args).run := by
  refine always_attemptBind ⟨rfl, rfl, rfl, rfl⟩ fun _ seq _ => ?_
  refine always_seq (checkDoor_backed args rfl) fun hist door unsent => ?_
  refine always_seq (checkPresence_backed settings args unsent door) ?_
  rintro hist ⟨controller, age⟩ unsent
  refine always_seq (signStep_backed settings args unsent door controller.code) ?_
  rintro hist (_ | ⟨commandId, payload, signature, keyId⟩) ⟨unsent, signed⟩
  · trivial
  · refine always_attemptBind ⟨rfl, rfl, rfl, unsent, signed rfl⟩ fun _ seq _ => ?_
    refine always_seq (deliverStep_backed settings args (by exact unsent) door _ commandId _) ?_
    intro hist ack confirmed
    exact always_attemptBind ⟨rfl, rfl, rfl, confirmed⟩ fun _ _ _ => trivial

end DoorsControl.Backend
