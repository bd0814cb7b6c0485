import DoorsControl.Backend.Unlock

/-!
# What has to happen before a command is signed or sent

* `Checks` — everything the decision rests on, as it stands in the history of the
  call;
* **soundness** — `unlock_authorised`: in every execution the signer is asked at most
  once and only after all checks passed, for the payload of that very door, and a
  frame goes out only to that door's controller and only after the
  `door.unlock_granted` row was appended.
-/

namespace DoorsControl.Backend

open DoorsControl.Audit (AuditCall)
open Kit.Prog

/-- The answers that the decision for a door rests on. -/
structure Checks (settings : UnlockSettings) (args : UnlockArgs) (hist : List UnlockEvent)
    (door : DoorRecord) (controller : DoorController) : Prop where
  found : ⟨.doorById args.doorId, .ok (some door)⟩ ∈ hist
  active : door.isActive = true
  assigned : door.controllerId ≠ none
  joined : door.controller = some controller
  granted : ∃ permission, ⟨.effective args.userId args.doorId, .ok (some permission)⟩ ∈ hist ∧
    permission.withinWindow = true
  not_blocked : controller.isBlocked = false
  near : ∃ now age, ⟨.time, now⟩ ∈ hist ∧
    verifyProximity controller.beaconKey args.proximityBeaconId settings.beaconRotationSeconds
      settings.proximityMaxAgeSeconds now = .ok (true, age)
  budget : ∃ attempts, ⟨.unlockCount (uuidText args.userId) 60, .ok attempts⟩ ∈ hist ∧
    (checkUnlock settings attempts).allowed = true
  online : ⟨.isOnline controller.code, true⟩ ∈ hist

/-- What a longer history still shows. -/
theorem Checks.mono {settings : UnlockSettings} {args : UnlockArgs} {hist hist' : List UnlockEvent}
    {door : DoorRecord} {controller : DoorController}
    (h : Checks settings args hist door controller) (sub : hist ⊆ hist') :
    Checks settings args hist' door controller := by
  obtain ⟨permission, permitted, inside⟩ := h.granted
  obtain ⟨now, age, read, accepted⟩ := h.near
  obtain ⟨attempts, counted, allowed⟩ := h.budget
  exact ⟨sub h.found, h.active, h.assigned, h.joined, ⟨permission, sub permitted, inside⟩,
    h.not_blocked, ⟨now, age, sub read, accepted⟩, ⟨attempts, sub counted, allowed⟩, sub h.online⟩

def isSign : UnlockEvent → Bool
  | ⟨.signCommand _, _⟩ => true
  | _ => false

/-- The signer is asked for the payload of a door whose checks all passed. -/
def SignAllowed (settings : UnlockSettings) (args : UnlockArgs) (hist : List UnlockEvent)
    (payload : Dict) : Prop :=
  ∃ door controller commandId issuedAt nonce, Checks settings args hist door controller ∧
    payload = commandPayload settings door controller.code commandId issuedAt nonce

/-- A frame goes to the controller of a door whose checks all passed, with the
payload and the signature of the signer, and after the grant was recorded. -/
def SendAllowed (settings : UnlockSettings) (args : UnlockArgs) (hist : List UnlockEvent)
    (controllerCode : Text) (envelope : Dict) : Prop :=
  ∃ door controller payload signature keyId, Checks settings args hist door controller ∧
    controllerCode = controller.code ∧
    (∃ commandId issuedAt nonce,
      payload = commandPayload settings door controller.code commandId issuedAt nonce) ∧
    ⟨.signCommand payload, .ok (signature, keyId)⟩ ∈ hist ∧
    envelope = commandEnvelope payload signature keyId ∧
    ∃ record seq, ⟨.audit record, .ok seq⟩ ∈ hist ∧ record.event = .doorUnlockGranted

/-- What is asked of each call the service makes. -/
def Authorised (settings : UnlockSettings) (args : UnlockArgs) (hist : List UnlockEvent) :
    UnlockOp → Prop
  | .signCommand payload => hist.any isSign = false ∧ SignAllowed settings args hist payload
  | .sendCommand controllerCode envelope _ =>
      SendAllowed settings args hist controllerCode envelope
  | _ => True

section Programs

variable (settings : UnlockSettings) (args : UnlockArgs) {hist : List UnlockEvent}

/-- `_deny` does not return. -/
theorem deny_raises (internalReason : Text) (reason : DenyReason) (extra : Dict)
    (controllerId : Option Uuid) :
    Always (Authorised settings args) (OnOk fun _ _ => False) hist
      (deny args internalReason reason extra controllerId).run :=
  always_attemptBind trivial fun _ _ _ => trivial

/-- `_fail` does not return. -/
theorem fail_raises (door : DoorRecord) (commandId : Uuid) (internalReason : Text) :
    Always (Authorised settings args) (OnOk fun _ _ => False) hist
      (fail args door commandId internalReason).run :=
  always_attemptBind trivial fun _ _ _ => trivial

/-- What follows a subscript runs on a record. -/
theorem subscript_sound {α β : Type} {Q : List UnlockEvent → β → Prop} {record : Option α}
    {f : α → Py β}
    (second : ∀ value, record = some value →
      Always (Authorised settings args) (OnOk Q) hist (f value).run) :
    Always (Authorised settings args) (OnOk Q) hist (subscript record >>= f).run := by
  cases record with
  | none => trivial
  | some value => exact second value rfl

/-- What the first three checks establish. -/
structure DoorChecked (args : UnlockArgs) (hist : List UnlockEvent) (door : DoorRecord) :
    Prop where
  unsigned : hist.any isSign = false
  found : ⟨.doorById args.doorId, .ok (some door)⟩ ∈ hist
  active : door.isActive = true
  assigned : door.controllerId ≠ none
  granted : ∃ permission, ⟨.effective args.userId args.doorId, .ok (some permission)⟩ ∈ hist ∧
    permission.withinWindow = true
  not_blocked : ∀ controller, door.controller = some controller → controller.isBlocked = false

theorem checkDoor_sound (unsigned : hist.any isSign = false) :
    Always (Authorised settings args) (OnOk (DoorChecked args)) hist (checkDoor args).run := by
  refine always_attemptBind trivial ?_
  rintro _ door rfl
  refine always_ifThenBind (deny_raises settings args _ _ _ _) fun available => ?_
  refine always_attemptBind trivial ?_
  rintro _ permission rfl
  refine always_ifThenBind (deny_raises settings args _ _ _ _) fun _ => ?_
  refine subscript_sound settings args ?_
  rintro permission rfl
  refine always_ifThenBind (deny_raises settings args _ _ _ _) fun inside => ?_
  refine subscript_sound settings args ?_
  rintro door rfl
  refine always_ifThenBind (deny_raises settings args _ _ _ _) fun unblocked => ?_
  simp only [doorUnavailable, Bool.or_eq_false_iff, Bool.not_eq_eq_eq_not, Bool.not_false,
    Option.isNone_eq_false_iff] at available
  refine ⟨by simpa [isSign] using unsigned, by simp, available.1, ?_, ⟨permission, by simp, ?_⟩, ?_⟩
  · exact Option.isSome_iff_ne_none.mp available.2
  · simpa using inside
  · intro controller joined
    simpa [joined] using unblocked

/-- What follows an expression that may raise runs on its value. -/
theorem ofExcept_sound {α β : Type} {Q : List UnlockEvent → β → Prop} {x : Except PyError α}
    {f : α → Py β}
    (second : ∀ value, x = .ok value →
      Always (Authorised settings args) (OnOk Q) hist (f value).run) :
    Always (Authorised settings args) (OnOk Q) hist (MonadExcept.ofExcept x >>= f).run := by
  cases x with
  | error error => trivial
  | ok value => exact second value rfl

theorem checkPresence_sound {door : DoorRecord} (checked : DoorChecked args hist door) :
    Always (Authorised settings args)
      (OnOk fun hist' result => hist'.any isSign = false ∧
        Checks settings args hist' door result.1) hist
      (checkPresence settings args door).run := by
  refine subscript_sound settings args ?_
  intro controller joined
  refine (always_callBind _ _).mpr ⟨trivial, fun now => ?_⟩
  refine ofExcept_sound settings args ?_
  rintro ⟨accepted, age⟩ proximity
  refine always_ifThenBind (deny_raises settings args _ _ _ _) fun near => ?_
  refine always_attemptBind trivial ?_
  rintro _ attempts rfl
  refine always_ifThenBind (always_attemptBind trivial fun _ _ _ => trivial) fun allowed => ?_
  refine (always_callBind _ _).mpr ⟨trivial, fun online => ?_⟩
  refine always_ifThenBind (deny_raises settings args _ _ _ _) fun isOnline => ?_
  simp only [Bool.not_eq_eq_eq_not, Bool.not_false] at near allowed isOnline
  subst near isOnline
  obtain ⟨permission, permitted, inside⟩ := checked.granted
  exact ⟨by simpa [isSign] using checked.unsigned,
    { found := by simp [checked.found]
      active := checked.active
      assigned := checked.assigned
      joined := joined
      granted := ⟨permission, by simp [permitted], inside⟩
      not_blocked := checked.not_blocked controller joined
      near := ⟨now, age, by simp, proximity⟩
      budget := ⟨attempts, by simp, allowed⟩
      online := by simp }⟩

/-- What step 7 leaves: the checks, and the signer's answer for this door. The bare
`return` is not reached. -/
def Signed (settings : UnlockSettings) (args : UnlockArgs) (door : DoorRecord)
    (controller : DoorController) (hist : List UnlockEvent) :
    Option (Uuid × Dict × Bytes × Json Text) → Prop
  | none => False
  | some (_, payload, signature, keyId) => Checks settings args hist door controller ∧
      (∃ commandId issuedAt nonce,
        payload = commandPayload settings door controller.code commandId issuedAt nonce) ∧
      ⟨.signCommand payload, .ok (signature, keyId)⟩ ∈ hist

theorem signStep_sound {door : DoorRecord} {controller : DoorController}
    (unsigned : hist.any isSign = false) (checks : Checks settings args hist door controller) :
    Always (Authorised settings args) (OnOk (Signed settings args door controller)) hist
      (signStep settings args door controller.code).run := by
  refine (always_callBind _ _).mpr ⟨trivial, fun commandId => ?_⟩
  refine (always_callBind _ _).mpr ⟨trivial, fun issuedAt => ?_⟩
  refine (always_callBind _ _).mpr ⟨trivial, fun nonce => ?_⟩
  refine (always_callBind _ _).mpr ⟨⟨by simpa [isSign] using unsigned, ?_⟩, fun answer => ?_⟩
  · exact ⟨door, controller, commandId, issuedAt, nonce,
      checks.mono fun _ mem => by simp [mem], rfl⟩
  split
  · exact ⟨checks.mono fun _ mem => by simp [mem], ⟨commandId, issuedAt, nonce, rfl⟩, by simp⟩
  · exact always_seq (deny_raises settings args _ _ _ _) fun _ _ impossible => impossible.elim
  · exact always_seq (deny_raises settings args _ _ _ _) fun _ _ impossible => impossible.elim
  · trivial

/-- The frame was sent, and the controller says that it opened. -/
def Acknowledged (settings : UnlockSettings) (controllerCode : Text) (envelope : Dict)
    (hist : List UnlockEvent) (ack : Dict) : Prop :=
  ⟨.sendCommand controllerCode envelope settings.commandTtlSeconds, .ok ack⟩ ∈ hist ∧
    ackOpened ack = true

theorem deliverStep_sound {door : DoorRecord} {controllerCode : Text} {commandId : Uuid}
    {envelope : Dict} (allowed : SendAllowed settings args hist controllerCode envelope) :
    Always (Authorised settings args)
      (OnOk fun hist' ack => hist ⊆ hist' ∧ Acknowledged settings controllerCode envelope hist' ack)
      hist (deliverStep settings args door controllerCode commandId envelope).run := by
  refine (always_callBind _ _).mpr ⟨allowed, ?_⟩
  intro answer
  split
  · refine always_ifThenBind (fail_raises settings args _ _ _) fun opened => ?_
    exact ⟨List.subset_cons_self _ _, List.mem_cons_self, by simpa using opened⟩
  · exact always_seq (fail_raises settings args _ _ _) fun _ _ impossible => impossible.elim
  · exact always_seq (fail_raises settings args _ _ _) fun _ _ impossible => impossible.elim
  · trivial

end Programs

/-- What stands behind a success: the frame for that door and the controller's word. -/
def Delivered (settings : UnlockSettings) (args : UnlockArgs) (hist : List UnlockEvent) :
    Option UnlockOutcome → Prop
  | none => False
  | some _ => ∃ door controller payload signature keyId ack,
      Checks settings args hist door controller ∧
      (∃ commandId issuedAt nonce,
        payload = commandPayload settings door controller.code commandId issuedAt nonce) ∧
      Acknowledged settings controller.code (commandEnvelope payload signature keyId) hist ack

/-- Every call that the service makes is authorised, and a success was delivered. -/
theorem unlock_sound (settings : UnlockSettings) (args : UnlockArgs) :
    Always (Authorised settings args) (OnOk (Delivered settings args)) []
      (unlock settings args).run := by
  refine always_attemptBind trivial ?_
  rintro _ seq rfl
  refine always_seq (checkDoor_sound settings args (by simp [isSign])) ?_
  intro hist door checked
  refine always_seq (checkPresence_sound settings args checked) ?_
  rintro hist ⟨controller, age⟩ ⟨unsigned, checks⟩
  refine always_seq (signStep_sound settings args unsigned checks) ?_
  rintro hist (_ | ⟨commandId, payload, signature, keyId⟩) signed
  · exact signed.elim
  · obtain ⟨checks, built, answered⟩ := signed
    refine always_attemptBind trivial ?_
    rintro _ seq rfl
    refine always_seq (deliverStep_sound settings args ?_) ?_
    · exact ⟨door, controller, payload, signature, keyId, checks.mono fun _ mem => by simp [mem],
        rfl, built, by simp [answered], rfl, _, seq, List.mem_cons_self, rfl⟩
    · rintro hist ack ⟨earlier, sent, opened⟩
      refine always_attemptBind trivial fun _ _ _ => ?_
      refine ⟨door, controller, payload, signature, keyId, ack, checks.mono ?_, built,
        List.mem_cons_of_mem _ sent, opened⟩
      exact fun _ mem => List.mem_cons_of_mem _ (earlier (List.mem_cons_of_mem _ mem))

/-- A success stands on a frame that the controller says it honoured. -/
theorem unlock_delivered {settings : UnlockSettings} {args : UnlockArgs} {hist : List UnlockEvent}
    {outcome : UnlockOutcome}
    (succeeded : (unlock settings args).run.Steps hist (.pure (.ok (some outcome)))) :
    Delivered settings args hist (some outcome) :=
  (unlock_sound settings args).along succeeded

/-- An event that never follows one of its kind occurs at most once. -/
theorem countP_le_one {α : Type} {kind : α → Bool} {hist : List α}
    (first : ∀ later e before, hist = later ++ e :: before → kind e = true →
      before.any kind = false) : hist.countP kind ≤ 1 := by
  induction hist with
  | nil => simp
  | cons e rest ih =>
      by_cases isKind : kind e = true
      · have none := first [] e rest rfl isKind
        rw [List.any_eq_false] at none
        rw [List.countP_cons_of_pos isKind, List.countP_eq_zero.mpr (by simpa using none)]
      · rw [List.countP_cons_of_neg isKind]
        refine ih ?_
        intro later e' before shape
        exact first (e :: later) e' before (by rw [shape, List.cons_append])

/-- **Unlock authorisation.** In every execution, whatever is answered and whatever
raises: the signer is asked at most once; when it is asked, the checks had passed
and the payload is that of the door; and a frame is handed to the hub only for that
door's controller and after the grant was recorded. -/
theorem unlock_authorised (settings : UnlockSettings) (args : UnlockArgs)
    (hist : List UnlockEvent)
    (rest : Kit.Prog UnlockOp UnlockOp.Res (Except PyError (Option UnlockOutcome)))
    (steps : (unlock settings args).run.Steps hist rest) :
    hist.countP isSign ≤ 1 ∧
    (∀ later before payload answer, hist = later ++ ⟨.signCommand payload, answer⟩ :: before →
      SignAllowed settings args before payload) ∧
    (∀ later before controllerCode envelope timeout answer,
      hist = later ++ ⟨.sendCommand controllerCode envelope timeout, answer⟩ :: before →
        SendAllowed settings args before controllerCode envelope) := by
  have past := fun later before e shape =>
    @Always.past _ _ _ _ hist _ _ _ (unlock_sound settings args) steps later before e shape
  refine ⟨countP_le_one ?_, ?_, ?_⟩
  · rintro later ⟨op, answer⟩ before shape isKind
    cases op <;> simp only [isSign, Bool.false_eq_true] at isKind
    exact (past later before _ shape).1
  · intro later before payload answer shape
    exact (past later before _ shape).2
  · intro later before controllerCode envelope timeout answer shape
    exact past later before _ shape

/-! ## An unlock that goes through -/

def sampleSettings : UnlockSettings where
  beaconRotationSeconds := 30
  proximityMaxAgeSeconds := 30
  rateMaxUnlocksPerMinute := 6
  commandTtlSeconds := 10
  pyStr := fun _ => text "None"

def sampleDoor : DoorRecord where
  code := text "door-1"
  relayChannel := 1
  unlockSeconds := 3
  isActive := true
  controllerId := some 9
  controller := some ⟨text "ctl-1", List.replicate 32 7, false⟩

/-- The phone presents the identifier of slot 4, at second 120. -/
def sampleArgs : UnlockArgs where
  userId := 1
  deviceId := 2
  doorId := 3
  proximityBeaconId := text "vNTFqNFE3P7VcuvEQHmezA"
  clientIp := none

/-- Everything answers, and the controller opens. -/
def sampleOracle (_ : List UnlockEvent) : (o : UnlockOp) → o.Res
  | .audit _ => .ok 1
  | .doorById _ => .ok (some sampleDoor)
  | .effective _ _ => .ok (some ⟨true, [], 1, [], [], []⟩)
  | .unlockCount _ _ => .ok 0
  | .time => 120
  | .isOnline _ => true
  | .uuid4 => 5
  | .tokenBytes count => List.replicate count 0
  | .signCommand _ => .ok ([1, 2, 3], .str (text "k1"))
  | .sendCommand _ _ _ => .ok [(text "result", .str (text "opened"))]

def sampleHist : List UnlockEvent :=
  (runWith sampleOracle [] (unlock sampleSettings sampleArgs).run).1

theorem unlock_authorised_sample :
    sampleHist.any isSign = true ∧ sampleHist.countP isSign ≤ 1 :=
  ⟨by decide +kernel, (unlock_authorised sampleSettings sampleArgs sampleHist _
    (steps_runWith sampleOracle .start)).1⟩

end DoorsControl.Backend
