import DoorsControl.Backend.Authorisation
import DoorsControl.Backend.Sessions

/-!
# One command per call

A call of `unlock` draws one identifier, asks for one signature and sends one frame, all
under that identifier, and what it reports goes back to what came of that frame.

* `unlock_traced` — the program logic;
* `Sent`, `sent_unique` — the frame of a call;
* `confirmed_of_success`, `unopened_of_failure` — what stands behind an outcome.
-/

namespace DoorsControl.Backend

open DoorsControl.Audit (AuditCall)
open Kit.Prog

/-- The identifier that a call drew. -/
def drawnId (hist : List UnlockEvent) : Option Uuid :=
  hist.findSome? fun
    | ⟨.uuid4, id⟩ => some id
    | _ => none

def isSend : UnlockEvent → Bool
  | ⟨.sendCommand _ _ _, _⟩ => true
  | _ => false

/-- What `send_command` comes to when it is reported as a failure. -/
def unopened : Except PyError Dict → Bool
  | .ok ack => !ackOpened ack
  | .error (.controllerOffline _) => true
  | .error (.commandTimeout _) => true
  | .error _ => false

/-- What an operation raised. -/
def UnlockOp.raised : (o : UnlockOp) → o.Res → Option PyError
  | .audit _, .error error => some error
  | .doorById _, .error error => some error
  | .effective _ _, .error error => some error
  | .unlockCount _ _, .error error => some error
  | .signCommand _, .error error => some error
  | .sendCommand _ _ _, .error error => some error
  | _, _ => none

/-- The exception is one that only the service itself raises. -/
def raisesDenial (event : UnlockEvent) : Bool :=
  match event.op.raised event.result with
  | some (.unlockDenied _ _) => true
  | _ => false

/-- One identifier, and what is signed and sent bears it. -/
def Traced (hist : List UnlockEvent) : UnlockOp → Prop
  | .uuid4 => drawnId hist = none
  | .sendCommand _ envelope _ => hist.any isSend = false ∧
      ∃ id, drawnId hist = some id ∧ Hub.commandId? envelope = some (uuidText id)
  | _ => True

/-- The row that confirms a command was appended. -/
def ConfirmedRow (hist : List UnlockEvent) (id : Uuid) : Prop :=
  ∃ record seq, ⟨.audit record, .ok seq⟩ ∈ hist ∧ record.event = .doorUnlockConfirmed ∧
    (text "command_id", Json.str (uuidText id)) ∈ record.detail

/-- What is reported: a success under the identifier that was drawn, or a failure of a
frame that was not acknowledged as opened. -/
def Reported (hist : List UnlockEvent) : Except PyError (Option UnlockOutcome) → Prop
  | .ok (some outcome) => drawnId hist = some outcome.commandId ∧
      ConfirmedRow hist outcome.commandId
  | .error (.unlockDenied .failed _) => hist.any raisesDenial = true ∨
      ∀ code envelope timeout answer, ⟨.sendCommand code envelope timeout, answer⟩ ∈ hist →
        unopened answer = true
  | _ => True

/-! ## What is raised -/

/-- Nothing was sent: a failure is about nothing. -/
theorem reported_of_unsent {hist : List UnlockEvent} (unsent : hist.any isSend = false)
    (error : PyError) : Reported hist (.error error) := by
  unfold Reported
  split
  · trivial
  · refine .inr fun code envelope timeout answer mem => ?_
    rw [List.any_eq_false] at unsent
    exact absurd rfl (unsent _ mem)
  · trivial

/-- What an operation raised goes through. -/
theorem reported_of_raised {hist : List UnlockEvent} {event : UnlockEvent} {error : PyError}
    (raised : event.op.raised event.result = some error) :
    Reported (event :: hist) (.error error) := by
  unfold Reported
  split
  · trivial
  · rename_i same
    refine .inl ?_
    rw [Except.error.inj same] at raised
    simp [raisesDenial, raised]
  · trivial

/-! ## The stages before the identifier is drawn -/

/-- The operations that neither draw it nor send anything. -/
def plain : UnlockOp → Bool
  | .uuid4 => false
  | .signCommand _ => false
  | .sendCommand _ _ _ => false
  | _ => true

/-- More was done, but nothing of that kind. -/
def Onward (hist hist' : List UnlockEvent) : Prop :=
  ∃ more, hist' = more ++ hist ∧ more.all fun event => plain event.op

theorem Onward.drawnId {hist hist' : List UnlockEvent} (onward : Onward hist hist') :
    drawnId hist' = drawnId hist := by
  obtain ⟨more, rfl, allPlain⟩ := onward
  induction more with
  | nil => rfl
  | cons event more ih =>
      rw [List.all_cons, Bool.and_eq_true] at allPlain
      rw [← ih allPlain.2]
      obtain ⟨op, answer⟩ := event
      cases op <;> first | rfl | exact absurd allPlain.1 (by simp [plain])

theorem Onward.unsent {hist hist' : List UnlockEvent} (onward : Onward hist hist')
    (unsent : hist.any isSend = false) : hist'.any isSend = false := by
  obtain ⟨more, rfl, allPlain⟩ := onward
  rw [List.any_append, unsent, Bool.or_false, List.any_eq_false]
  intro event mem
  have isPlain := List.all_eq_true.mp allPlain event mem
  obtain ⟨op, answer⟩ := event
  cases op <;> first | exact Bool.false_ne_true | exact absurd isPlain (by simp [plain])

/-- A program of such operations. -/
def Plainly {α : Type} (p : Py α) : Prop :=
  ∀ hist, Always (fun _ op => plain op = true) (OnOk fun _ _ => True) hist p.run

theorem plainly_traced {α : Type} {p : Kit.Prog UnlockOp UnlockOp.Res α}
    {post : List UnlockEvent → α → Prop} {hist start : List UnlockEvent}
    (h : Always (fun _ op => plain op = true) post hist p) (onward : Onward start hist) :
    Always Traced (fun hist' _ => Onward start hist') hist p := by
  induction p generalizing hist with
  | pure value => exact onward
  | op o next ih =>
      obtain ⟨isPlain, rest⟩ := h
      refine ⟨?_, fun r => ih r (rest r) ?_⟩
      · cases o <;> trivial
      · obtain ⟨more, rfl, allPlain⟩ := onward
        refine ⟨⟨o, r⟩ :: more, rfl, ?_⟩
        rw [List.all_cons, Bool.and_eq_true]
        exact ⟨isPlain, allPlain⟩

theorem deny_plainly (args : UnlockArgs) (internalReason : Text) (reason : DenyReason) (extra : Dict)
    (controllerId : Option Uuid) : Plainly (deny args internalReason reason extra controllerId) :=
  fun _ => always_attemptBind rfl fun _ _ _ => trivial

theorem plainly_ifThen {β : Type} {c : Bool} {action : Py Unit} {f : Unit → Py β}
    {hist : List UnlockEvent} (branch : Plainly action)
    (rest : ∀ hist, Always (fun _ op => plain op = true) (OnOk fun _ _ => True) hist (f ()).run) :
    Always (fun _ op => plain op = true) (OnOk fun _ _ => True) hist (ifThen c action >>= f).run := by
  cases c with
  | true => exact always_seq (branch hist) fun _ _ _ => rest _
  | false => exact rest hist

theorem plainly_subscript {α β : Type} {record : Option α} {f : α → Py β} {hist : List UnlockEvent}
    (rest : ∀ value, Always (fun _ op => plain op = true) (OnOk fun _ _ => True) hist (f value).run) :
    Always (fun _ op => plain op = true) (OnOk fun _ _ => True) hist (subscript record >>= f).run := by
  cases record with
  | none => trivial
  | some value => exact rest value

theorem checkDoor_plainly (args : UnlockArgs) : Plainly (checkDoor args) := by
  intro hist
  refine always_attemptBind rfl fun _ door _ => ?_
  refine plainly_ifThen (deny_plainly args _ _ _ _) fun _ => ?_
  refine always_attemptBind rfl fun _ permission _ => ?_
  refine plainly_ifThen (deny_plainly args _ _ _ _) fun _ => ?_
  refine plainly_subscript fun permission => ?_
  refine plainly_ifThen (deny_plainly args _ _ _ _) fun _ => ?_
  refine plainly_subscript fun door => ?_
  exact plainly_ifThen (deny_plainly args _ _ _ _) fun _ => trivial

theorem checkPresence_plainly (settings : UnlockSettings) (args : UnlockArgs) (door : DoorRecord) :
    Plainly (checkPresence settings args door) := by
  intro hist
  refine plainly_subscript fun controller => ?_
  refine (always_callBind _ _).mpr ⟨rfl, fun now => ?_⟩
  cases verifyProximity controller.beaconKey args.proximityBeaconId settings.beaconRotationSeconds
      settings.proximityMaxAgeSeconds now with
  | error error => trivial
  | ok verified =>
      refine plainly_ifThen (deny_plainly args _ _ _ _) fun _ => ?_
      refine always_attemptBind rfl fun _ attempts _ => ?_
      refine plainly_ifThen (fun _ => always_attemptBind rfl fun _ _ _ => trivial) fun _ => ?_
      refine (always_callBind _ _).mpr ⟨rfl, fun online => ?_⟩
      exact plainly_ifThen (deny_plainly args _ _ _ _) fun _ => trivial

/-- A stage before the identifier is drawn. -/
theorem traced_stage {α : Type} {p : Py α} {f : α → Py (Option UnlockOutcome)}
    {hist : List UnlockEvent} (plainly : Plainly p) (undrawn : drawnId hist = none)
    (unsent : hist.any isSend = false)
    (rest : ∀ hist' value, drawnId hist' = none → hist'.any isSend = false →
      Always Traced Reported hist' (f value).run) :
    Always Traced Reported hist (p >>= f).run := by
  refine (always_exceptBind p f).mpr ?_
  refine (plainly_traced (plainly hist) ⟨[], rfl, rfl⟩).mono ?_
  intro hist' result onward
  cases result with
  | ok value => exact rest hist' value (onward.drawnId.trans undrawn) (onward.unsent unsent)
  | error error => exact reported_of_unsent (onward.unsent unsent) error

/-! ## The stages of the command -/

/-- A payload for this identifier, with nothing sent yet. -/
def SignedAs (hist : List UnlockEvent) :
    Except PyError (Option (Uuid × Dict × Bytes × Json Text)) → Prop
  | .ok (some (id, payload, _, _)) => hist.any isSend = false ∧ drawnId hist = some id ∧
      Json.get? payload (text "command_id") = some (.str (uuidText id))
  | _ => hist.any isSend = false

theorem signStep_traced (settings : UnlockSettings) (args : UnlockArgs) (door : DoorRecord)
    (controllerCode : Text) {hist : List UnlockEvent} (undrawn : drawnId hist = none)
    (unsent : hist.any isSend = false) :
    Always Traced SignedAs hist (signStep settings args door controllerCode).run := by
  refine (always_callBind _ _).mpr ⟨undrawn, fun id => ?_⟩
  refine (always_callBind _ _).mpr ⟨trivial, fun issuedAt => ?_⟩
  refine (always_callBind _ _).mpr ⟨trivial, fun nonce => ?_⟩
  refine (always_callBind _ _).mpr ⟨trivial, fun answer => ?_⟩
  have unsent' : ∀ more : List UnlockEvent, more.any isSend = false →
      (more ++ hist).any isSend = false := by
    intro more quiet
    rw [List.any_append, quiet, unsent]
    rfl
  have denied : ∀ message, Always Traced SignedAs
      (⟨.signCommand _, answer⟩ :: ⟨.tokenBytes 16, nonce⟩ :: ⟨.time, issuedAt⟩ :: ⟨.uuid4, id⟩ :: hist)
      (do deny args (text "signer_unavailable: " ++ message) .failed [] door.controllerId
          return none : Py (Option (Uuid × Dict × Bytes × Json Text))).run := by
    intro message
    refine (always_exceptBind _ _).mpr ?_
    refine (plainly_traced (deny_plainly args _ _ _ _ _) ⟨[], rfl, rfl⟩).mono ?_
    intro hist' result onward
    have quiet := onward.unsent (unsent' [_, _, _, _] rfl)
    cases result <;> exact quiet
  split
  · exact ⟨unsent' [_, _, _, _] rfl, rfl, rfl⟩
  · exact denied _
  · exact denied _
  · exact unsent' [_, _, _, _] rfl

/-- The frame came back as opened, or what is raised is reported. -/
def DeliveredAs (id : Uuid) (hist : List UnlockEvent) : Except PyError Dict → Prop
  | .ok _ => drawnId hist = some id
  | .error error => Reported hist (.error error)

theorem deliverStep_traced (settings : UnlockSettings) (args : UnlockArgs) (door : DoorRecord)
    (controllerCode : Text) (id : Uuid) {envelope : Dict} {hist : List UnlockEvent}
    (unsent : hist.any isSend = false) (drawn : drawnId hist = some id)
    (isId : Hub.commandId? envelope = some (uuidText id)) :
    Always Traced (DeliveredAs id) hist
      (deliverStep settings args door controllerCode id envelope).run := by
  refine (always_callBind _ _).mpr ⟨⟨unsent, id, drawn, isId⟩, fun answer => ?_⟩
  -- the failure of a frame that was not acknowledged as opened
  have failed : ∀ (reason : Text) (f : Unit → Py Dict), unopened answer = true →
      Always Traced (DeliveredAs id)
        (⟨.sendCommand controllerCode envelope settings.commandTtlSeconds, answer⟩ :: hist)
        (fail args door id reason >>= f).run := by
    intro reason f isUnopened
    refine ⟨trivial, fun row => ?_⟩
    cases row with
    | error error => exact reported_of_raised rfl
    | ok seq =>
        refine .inr fun code envelope' timeout answer' mem => ?_
        rcases List.mem_cons.mp mem with impossible | mem
        · cases impossible
        rcases List.mem_cons.mp mem with same | mem
        · cases same
          exact isUnopened
        · rw [List.any_eq_false] at unsent
          exact absurd rfl (unsent _ mem)
  split
  · rename_i ack
    cases opened : ackOpened ack with
    | true =>
        show Always Traced (DeliveredAs id) _ (ifThen (!ackOpened ack) _ >>= _).run
        rw [opened]
        exact drawn
    | false =>
        show Always Traced (DeliveredAs id) _ (ifThen (!ackOpened ack) _ >>= _).run
        rw [opened]
        exact failed _ _ (by simp [unopened, opened])
  · exact failed _ _ rfl
  · exact failed _ _ rfl
  · exact reported_of_raised rfl

/-- **One command per call**, in every execution. -/
theorem unlock_traced (settings : UnlockSettings) (args : UnlockArgs) :
    Always Traced Reported [] (unlock settings args).run := by
  refine ⟨trivial, fun row => ?_⟩
  cases row with
  | error error => exact reported_of_raised rfl
  | ok seq =>
      refine traced_stage (checkDoor_plainly args) rfl rfl fun hist door undrawn unsent => ?_
      refine traced_stage (checkPresence_plainly settings args door) undrawn unsent ?_
      rintro hist ⟨controller, age⟩ undrawn unsent
      refine (always_exceptBind _ _).mpr ?_
      refine (signStep_traced settings args door controller.code undrawn unsent).mono ?_
      rintro hist (error | _ | ⟨id, payload, signature, keyId⟩) signed
      · exact reported_of_unsent signed error
      · trivial
      · obtain ⟨unsent, drawn, isId⟩ := signed
        refine ⟨trivial, fun row => ?_⟩
        cases row with
        | error error => exact reported_of_raised rfl
        | ok seq =>
            have envelopeId : Hub.commandId? (commandEnvelope payload signature keyId) =
                some (uuidText id) := by
              have inside : Json.get? (commandEnvelope payload signature keyId) (text "payload") =
                  some (.obj payload) := rfl
              simp only [Hub.commandId?, inside, isId]
            refine (always_exceptBind _ _).mpr ?_
            refine Always.mono (deliverStep_traced settings args door controller.code id ?_ ?_
              envelopeId) ?_
            · exact unsent
            · exact drawn
            rintro hist (error | ack) delivered
            · exact delivered
            · refine ⟨trivial, fun row => ?_⟩
              cases row with
              | error error => exact reported_of_raised rfl
              | ok seq =>
                  exact ⟨delivered, _, seq, List.mem_cons_self, rfl, List.mem_cons_self⟩

/-! ## The frame of a call -/

abbrev UnlockProg := Kit.Prog UnlockOp UnlockOp.Res (Except PyError (Option UnlockOutcome))

/-- What a call sent, or is about to send. -/
def Sends (hist : List UnlockEvent) (prog : UnlockProg) (code : Text) (envelope : Dict) : Prop :=
  (∃ timeout answer, ⟨.sendCommand code envelope timeout, answer⟩ ∈ hist) ∨
    ∃ timeout next, prog = .op (.sendCommand code envelope timeout) next

section Executions

variable {settings : UnlockSettings} {args : UnlockArgs} {hist : List UnlockEvent} {prog : UnlockProg}

/-- The identifier is drawn once. -/
theorem drawnId_stable (steps : (unlock settings args).run.Steps hist prog) {id : Uuid}
    {later before : List UnlockEvent} (shape : hist = later ++ before)
    (drawn : drawnId before = some id) : drawnId hist = some id := by
  induction steps generalizing later with
  | start =>
      obtain ⟨-, rfl⟩ := List.append_eq_nil_iff.mp shape.symm
      cases drawn
  | @more hist o next answer steps ih =>
      cases later with
      | nil =>
          rw [shape]
          exact drawn
      | cons event later =>
          have known := ih (List.cons.inj shape).2
          have allowed := ((unlock_traced settings args).along steps).1
          cases o with
          | uuid4 =>
              have undrawn : drawnId hist = none := allowed
              rw [known] at undrawn
              cases undrawn
          | _ => exact known

/-- A call that is about to send has not sent before. -/
theorem unsent_of_sending (steps : (unlock settings args).run.Steps hist prog) {code : Text}
    {envelope : Dict} {timeout : Int} {next : Except PyError Dict → UnlockProg}
    (sending : prog = .op (.sendCommand code envelope timeout) next) : hist.any isSend = false := by
  subst sending
  exact ((unlock_traced settings args).along steps).1.1

/-- The frame bears the identifier. -/
theorem drawn_of_sends (steps : (unlock settings args).run.Steps hist prog) {code : Text}
    {envelope : Dict} (sends : Sends hist prog code envelope) :
    ∃ id, drawnId hist = some id ∧ Hub.commandId? envelope = some (uuidText id) := by
  rcases sends with ⟨timeout, answer, mem⟩ | ⟨timeout, next, rfl⟩
  · obtain ⟨later, before, shape⟩ := List.append_of_mem mem
    obtain ⟨-, id, drawn, isId⟩ := (unlock_traced settings args).past steps shape
    exact ⟨id, drawnId_stable steps (shape.trans (List.append_cons _ _ _)) drawn, isId⟩
  · exact ((unlock_traced settings args).along steps).1.2

/-- No send stands before a send. -/
theorem unsent_before (steps : (unlock settings args).run.Steps hist prog)
    {later before : List UnlockEvent} {event : UnlockEvent} (shape : hist = later ++ event :: before)
    (isSent : isSend event = true) : before.any isSend = false := by
  obtain ⟨op, answer⟩ := event
  cases op <;> simp only [isSend, Bool.false_eq_true] at isSent
  exact ((unlock_traced settings args).past steps shape).1

/-- **A call sends one frame.** -/
theorem sends_unique (steps : (unlock settings args).run.Steps hist prog) {code code' : Text}
    {envelope envelope' : Dict} (first : Sends hist prog code envelope)
    (second : Sends hist prog code' envelope') : code = code' ∧ envelope = envelope' := by
  have alone : ∀ {code : Text} {envelope : Dict} {timeout : Int} {answer : Except PyError Dict}
      {hist : List UnlockEvent}, ⟨.sendCommand code envelope timeout, answer⟩ ∈ hist →
      hist.any isSend = false → False := by
    intro code envelope timeout answer hist mem unsent
    rw [List.any_eq_false] at unsent
    exact unsent _ mem rfl
  rcases first with ⟨timeout, answer, mem⟩ | ⟨timeout, next, is⟩
  · rcases second with ⟨timeout', answer', mem'⟩ | ⟨timeout', next', is'⟩
    · obtain ⟨later, before, shape⟩ := List.append_of_mem mem
      rw [shape] at mem'
      rcases List.mem_append.mp mem' with inLater | inRest
      · -- the first would stand before the second
        obtain ⟨later', between, rfl⟩ := List.append_of_mem inLater
        rw [List.append_assoc, List.cons_append] at shape
        have inside : ⟨.sendCommand code envelope timeout, answer⟩ ∈
            between ++ ⟨.sendCommand code envelope timeout, answer⟩ :: before :=
          List.mem_append_right _ List.mem_cons_self
        exact (alone inside (unsent_before steps shape rfl)).elim
      · rcases List.mem_cons.mp inRest with same | earlier
        · cases same
          exact ⟨rfl, rfl⟩
        · exact (alone earlier (unsent_before steps shape rfl)).elim
    · exact (alone mem (unsent_of_sending steps is')).elim
  · rcases second with ⟨timeout', answer', mem'⟩ | ⟨timeout', next', is'⟩
    · exact (alone mem' (unsent_of_sending steps is)).elim
    · cases is.symm.trans is'
      exact ⟨rfl, rfl⟩

/-- A success is under the identifier that was drawn, and its row is there. -/
theorem reported_success {outcome : UnlockOutcome}
    (steps : (unlock settings args).run.Steps hist (.pure (.ok (some outcome)))) :
    drawnId hist = some outcome.commandId ∧ ConfirmedRow hist outcome.commandId :=
  (unlock_traced settings args).along steps

/-- A failure is that of the frame, unless something else raised it. -/
theorem reported_failure {reason : Text}
    (steps : (unlock settings args).run.Steps hist (.pure (.error (.unlockDenied .failed reason))))
    (own : hist.any raisesDenial = false) {code : Text} {envelope : Dict} {timeout : Int}
    {answer : Except PyError Dict} (sent : ⟨.sendCommand code envelope timeout, answer⟩ ∈ hist) :
    unopened answer = true := by
  rcases (unlock_traced settings args).along steps with foreign | failed
  · rw [own] at foreign
    cases foreign
  · exact failed code envelope timeout answer sent

end Executions

end DoorsControl.Backend
