import DoorsControl.Backend.Commands

/-!
# What one attempt records, and what its count decides

Every attempt begins with its `door.unlock_requested` row; the rate budget is read from the
audit log afterwards, so that the attempt finds its own row there.

* `Stage` — a part of the call that counts nothing and requests nothing;
* `unlock_recorded` — **the program logic**: which rows a call writes, that it counts after
  its own request, and that it is refused exactly if the count reaches the limit.
-/

namespace DoorsControl.Backend

open DoorsControl.Audit (AuditCall AuditEvent)
open Kit.Prog

/-- The exception is one that only the limiter raises. -/
def raisesLimit (event : UnlockEvent) : Bool :=
  match event.op.raised event.result with
  | some (.rateLimited _) => true
  | _ => false

/-- Nothing raises `RateLimited` here, unless an operation did. -/
def Unlimited {α : Type} (hist : List UnlockEvent) (result : Except PyError α) : Prop :=
  ∀ retry, result = .error (.rateLimited retry) → hist.any raisesLimit = true

/-- What a call does between its request and its end, the count apart. -/
def Later (args : UnlockArgs) : UnlockOp → Prop
  | .audit record => record.actorId = some args.userId ∧ record.event ≠ .doorUnlockRequested
  | .unlockCount _ _ => False
  | _ => True

/-! ## Stages -/

def Stage {α : Type} (args : UnlockArgs) (p : Py α) : Prop :=
  ∀ hist, Always (fun _ op => Later args op) Unlimited hist p.run

section Stages

variable {args : UnlockArgs} {α β : Type}

theorem unlimited_ok (hist : List UnlockEvent) (value : α) :
    Unlimited hist (.ok value : Except PyError α) := nofun

theorem stage_pure (value : α) : Stage args (pure value : Py α) :=
  fun hist => unlimited_ok hist value

theorem stage_bind {p : Py α} {f : α → Py β} (first : Stage args p)
    (second : ∀ value, Stage args (f value)) : Stage args (p >>= f) := by
  intro hist
  refine (always_exceptBind p f).mpr ((first hist).mono ?_)
  intro hist' result unlimited
  cases result with
  | ok value => exact second value hist'
  | error error =>
      intro retry same
      exact unlimited retry (by rw [Except.error.inj same])

theorem stage_call {o : UnlockOp} (later : Later args o) : Stage args (call o : Py o.Res) :=
  fun _ => ⟨later, fun r => unlimited_ok _ r⟩

theorem stage_throw {error : PyError} (other : ∀ retry, error ≠ .rateLimited retry) :
    Stage args (throw error : Py α) :=
  fun _ retry same => absurd (Except.error.inj same) (other retry)

/-- What an operation raises is raised. -/
theorem unlimited_raised {hist : List UnlockEvent} {event : UnlockEvent} {error : PyError}
    (raised : event.op.raised event.result = some error) :
    Unlimited (event :: hist) (.error error : Except PyError α) := by
  intro retry same
  rw [Except.error.inj same] at raised
  simp [raisesLimit, raised]

theorem stage_audit {record : AuditCall} (actor : record.actorId = some args.userId)
    (event : record.event ≠ .doorUnlockRequested) : Stage args (audit record) := by
  refine fun hist => ⟨⟨actor, event⟩, fun row => ?_⟩
  cases row with
  | ok seq => exact unlimited_ok _ seq
  | error error => exact unlimited_raised rfl

theorem stage_doorById (doorId : Uuid) : Stage args (doorById doorId) := by
  refine fun hist => ⟨trivial, fun row => ?_⟩
  cases row with
  | ok door => exact unlimited_ok _ door
  | error error => exact unlimited_raised rfl

theorem stage_effective (userId doorId : Uuid) : Stage args (effective userId doorId) := by
  refine fun hist => ⟨trivial, fun row => ?_⟩
  cases row with
  | ok permission => exact unlimited_ok _ permission
  | error error => exact unlimited_raised rfl

theorem stage_ifThen {c : Bool} {action : Py Unit} (branch : Stage args action) :
    Stage args (ifThen c action) := by
  cases c with
  | true => exact branch
  | false => exact stage_pure ()

theorem stage_subscript (record : Option α) : Stage args (subscript record) := by
  cases record with
  | none => exact stage_throw (by simp)
  | some value => exact stage_pure value

theorem stage_deny (internalReason : Text) (reason : DenyReason) (extra : Dict)
    (controllerId : Option Uuid) : Stage args (deny args internalReason reason extra controllerId) :=
  stage_bind (stage_audit rfl (by simp [baseCall])) fun _ => stage_throw (by simp)

theorem stage_fail (door : DoorRecord) (commandId : Uuid) (internalReason : Text) :
    Stage args (fail args door commandId internalReason) :=
  stage_bind (stage_audit rfl (by simp [baseCall])) fun _ => stage_throw (by simp)

theorem stage_checkDoor : Stage args (checkDoor args) := by
  refine stage_bind (stage_doorById _) fun door => ?_
  refine stage_bind (stage_ifThen (stage_deny _ _ _ _)) fun _ => ?_
  refine stage_bind (stage_effective _ _) fun permission => ?_
  refine stage_bind (stage_ifThen (stage_deny _ _ _ _)) fun _ => ?_
  refine stage_bind (stage_subscript _) fun permission => ?_
  refine stage_bind (stage_ifThen (stage_deny _ _ _ _)) fun _ => ?_
  refine stage_bind (stage_subscript _) fun door => ?_
  exact stage_bind (stage_ifThen (stage_deny _ _ _ _)) fun _ => stage_pure door

theorem stage_signStep (settings : UnlockSettings) (door : DoorRecord) (controllerCode : Text) :
    Stage args (signStep settings args door controllerCode) := by
  refine stage_bind (stage_call trivial) fun commandId => ?_
  refine stage_bind (stage_call trivial) fun issuedAt => ?_
  refine stage_bind (stage_call trivial) fun nonce => ?_
  intro hist
  refine (always_callBind _ _).mpr ⟨trivial, fun answer => ?_⟩
  split
  · exact unlimited_ok _ _
  · exact stage_bind (stage_deny _ _ _ _) (fun _ => stage_pure none) _
  · exact stage_bind (stage_deny _ _ _ _) (fun _ => stage_pure none) _
  · exact unlimited_raised rfl

theorem stage_deliverStep (settings : UnlockSettings) (door : DoorRecord) (controllerCode : Text)
    (commandId : Uuid) (envelope : Dict) :
    Stage args (deliverStep settings args door controllerCode commandId envelope) := by
  intro hist
  refine (always_callBind _ _).mpr ⟨trivial, fun answer => ?_⟩
  have rest : ∀ ack, Stage args (do
      ifThen (!ackOpened ack) <| fail args door commandId (refusedReason settings ack)
      return ack : Py Dict) :=
    fun ack => stage_bind (stage_ifThen (stage_fail _ _ _)) fun _ => stage_pure ack
  have unbound : Stage args (throw .unboundLocalError : Py Dict) := stage_throw (by simp)
  split
  · exact rest _ _
  · exact stage_bind (stage_fail _ _ _) (fun _ => stage_bind unbound rest) _
  · exact stage_bind (stage_fail _ _ _) (fun _ => stage_bind unbound rest) _
  · exact unlimited_raised rfl

end Stages

/-! ## The whole call -/

def isCount : UnlockEvent → Bool
  | ⟨.unlockCount _ _, _⟩ => true
  | _ => false

/-- The request is on record. -/
def Requested (hist : List UnlockEvent) : Prop :=
  ∃ record seq, ⟨.audit record, .ok seq⟩ ∈ hist ∧ record.event = .doorUnlockRequested

/-- Rows are written under the user's name, the request first, and the count comes once
and after it. -/
def Recorded (args : UnlockArgs) (hist : List UnlockEvent) : UnlockOp → Prop
  | .audit record => record.actorId = some args.userId ∧
      (record.event = .doorUnlockRequested → hist = [])
  | .unlockCount userId seconds => userId = uuidText args.userId ∧ seconds = 60 ∧
      Requested hist ∧ hist.any isCount = false
  | _ => True

/-- Something that was recorded raised. -/
def auditRaised (event : UnlockEvent) : Bool :=
  match event with
  | ⟨.audit _, .error _⟩ => true
  | _ => false

/-- A count that reaches the limit ends the call, and nothing else is reported as one. -/
def Counted {α : Type} (settings : UnlockSettings) (hist : List UnlockEvent)
    (result : Except PyError α) : Prop :=
  hist.any raisesLimit = true ∨ hist.any auditRaised = true ∨
    ∀ userId seconds attempts, ⟨.unlockCount userId seconds, .ok attempts⟩ ∈ hist →
      ((∃ retry, result = .error (.rateLimited retry)) ↔
        settings.rateMaxUnlocksPerMinute ≤ attempts)

section Whole

variable {args : UnlockArgs} {α : Type}

/-- What a stage leaves: its request is still there, and it counted nothing. -/
def After (start : List UnlockEvent) (hist : List UnlockEvent) (result : Except PyError α) : Prop :=
  (∃ more, hist = more ++ start ∧ more.any isCount = false) ∧ Unlimited hist result

theorem recorded_stage {p : Kit.Prog UnlockOp UnlockOp.Res (Except PyError α)}
    {start hist : List UnlockEvent} (stage : Always (fun _ op => Later args op) Unlimited hist p)
    (begun : hist ≠ []) (onward : ∃ more, hist = more ++ start ∧ more.any isCount = false) :
    Always (Recorded args) (After start) hist p := by
  induction p generalizing hist with
  | pure result => exact ⟨onward, stage⟩
  | op o next ih =>
      obtain ⟨later, rest⟩ := stage
      obtain ⟨more, rfl, uncounted⟩ := onward
      refine ⟨?_, fun r => ih r (rest r) (by simp) ⟨⟨o, r⟩ :: more, rfl, ?_⟩⟩
      · cases o with
        | audit record => exact ⟨later.1, fun requests => absurd requests later.2⟩
        | unlockCount userId seconds => exact later.elim
        | _ => trivial
      · rw [List.any_cons, uncounted, Bool.or_false]
        cases o <;> first | rfl | exact later.elim

/-- No count that reaches the limit is behind the call. -/
def Within (settings : UnlockSettings) (hist : List UnlockEvent) : Prop :=
  ∀ userId seconds attempts, ⟨.unlockCount userId seconds, .ok attempts⟩ ∈ hist →
    attempts < settings.rateMaxUnlocksPerMinute

variable {settings : UnlockSettings} {hist : List UnlockEvent}

theorem within_of_uncounted (uncounted : hist.any isCount = false) : Within settings hist := by
  intro userId seconds attempts mem
  rw [List.any_eq_false] at uncounted
  exact absurd rfl (uncounted _ mem)

/-- Within the budget, a stage ends the call as it likes, but not with `RateLimited`. -/
theorem counted_of_after {start : List UnlockEvent} {result : Except PyError α}
    (within : Within settings start) (after : After start hist result) :
    Counted settings hist result := by
  obtain ⟨⟨more, rfl, uncounted⟩, unlimited⟩ := after
  by_cases raised : (more ++ start).any raisesLimit = true
  · exact .inl raised
  refine .inr (.inr fun userId seconds attempts mem => iff_of_false ?_ ?_)
  · rintro ⟨retry, rfl⟩
    exact raised (unlimited retry rfl)
  · rcases List.mem_append.mp mem with inside | before
    · rw [List.any_eq_false] at uncounted
      exact absurd rfl (uncounted _ inside)
    · have := within userId seconds attempts before
      omega

theorem within_of_after {start : List UnlockEvent} {result : Except PyError α}
    (within : Within settings start) (after : After start hist result) : Within settings hist := by
  obtain ⟨⟨more, rfl, uncounted⟩, -⟩ := after
  intro userId seconds attempts mem
  rcases List.mem_append.mp mem with inside | before
  · exact within_of_uncounted uncounted _ _ _ inside
  · exact within _ _ _ before

/-- What was raised is raised, whatever the call was to return. -/
theorem counted_error {β : Type} {error : PyError}
    (counted : Counted settings hist (.error error : Except PyError α)) :
    Counted settings hist (.error error : Except PyError β) := by
  refine counted.imp_right (Or.imp_right fun exact userId seconds attempts mem => ?_)
  rw [← exact userId seconds attempts mem]
  exact exists_congr fun retry => ⟨fun same => by rw [Except.error.inj same],
    fun same => by rw [Except.error.inj same]⟩

theorem requested_append (requested : Requested hist) (more : List UnlockEvent) :
    Requested (more ++ hist) := by
  obtain ⟨record, seq, mem, isRequest⟩ := requested
  exact ⟨record, seq, List.mem_append_right _ mem, isRequest⟩

theorem Requested.ne_nil (requested : Requested hist) : hist ≠ [] := by
  obtain ⟨record, seq, mem, -⟩ := requested
  exact List.ne_nil_of_mem mem

/-- A stage before the count, and what follows it. -/
theorem uncounted_bind {β : Type} {p : Py α} {f : α → Py β}
    {post : List UnlockEvent → Except PyError β → Prop} (requested : Requested hist)
    (uncounted : hist.any isCount = false) (stage : Stage args p)
    (raised : ∀ hist' error, Counted settings hist' (.error error : Except PyError β) →
      post hist' (.error error))
    (rest : ∀ hist' value, Requested hist' → hist'.any isCount = false →
      Always (Recorded args) post hist' (f value).run) :
    Always (Recorded args) post hist (p >>= f).run := by
  refine (always_exceptBind p f).mpr
    ((recorded_stage (stage hist) requested.ne_nil ⟨[], rfl, rfl⟩).mono ?_)
  rintro hist' (error | value) ⟨⟨more, rfl, quiet⟩, unlimited⟩
  · refine raised _ error (counted_of_after (within_of_uncounted uncounted) ⟨⟨more, rfl, quiet⟩, ?_⟩)
    intro retry same
    exact unlimited retry (by rw [Except.error.inj same])
  · refine rest _ value (requested_append requested more) ?_
    rw [List.any_append, quiet, uncounted]
    rfl

/-- What `checkPresence` leaves: the call goes on within the budget, or it ends. -/
def Presence {α : Type} (settings : UnlockSettings) (hist : List UnlockEvent)
    (result : Except PyError α) : Prop :=
  match result with
  | .ok _ => Within settings hist ∧ hist ≠ []
  | .error error => Counted settings hist (.error error : Except PyError α)

/-- From the count to the end of `checkPresence`. -/
theorem budget_recorded (controller : DoorController) (age : Option Int)
    (requested : Requested hist) (uncounted : hist.any isCount = false) :
    Always (Recorded args) (Presence settings) hist (do
      let attempts ← unlockCount (uuidText args.userId) 60
      let decision := checkUnlock settings attempts
      ifThen (!decision.allowed) do
        let _ ← audit { baseCall args .rateLimitTripped .denied with
          detail := [(text "attempts_in_window", .int decision.failures),
            (text "scope", .str (text "unlock"))] }
        throw (.rateLimited decision.retryAfterSeconds)
      let online ← isOnline controller.code
      ifThen (!online) <|
        deny args (text "controller_offline") .controllerOffline
          [(text "controller_code", .str controller.code)] none
      return (controller, age) : Py (DoorController × Option Int)).run := by
  have only : ∀ {userId seconds attempts},
      (⟨.unlockCount userId seconds, .ok attempts⟩ : UnlockEvent) ∈ hist → False :=
    fun mem => List.any_eq_false.mp uncounted _ mem rfl
  refine ⟨⟨rfl, rfl, requested, uncounted⟩, fun row => ?_⟩
  cases row with
  | error error =>
      refine .inr (.inr fun userId seconds attempts mem => ?_)
      rcases List.mem_cons.mp mem with same | inside
      · cases same
      · exact (only inside).elim
  | ok attempts =>
      by_cases within : attempts < settings.rateMaxUnlocksPerMinute
      · -- the call goes on
        have allowed : (checkUnlock settings attempts).allowed = true := by
          unfold checkUnlock
          rw [if_neg (by omega)]
        have below : Within settings
            (⟨.unlockCount (uuidText args.userId) 60, .ok attempts⟩ :: hist) := by
          intro userId seconds attempts' mem
          rcases List.mem_cons.mp mem with same | inside
          · cases same
            exact within
          · exact (only inside).elim
        have rest : Stage args (do
            let online ← isOnline controller.code
            ifThen (!online) <|
              deny args (text "controller_offline") .controllerOffline
                [(text "controller_code", .str controller.code)] none
            return (controller, age) : Py (DoorController × Option Int)) :=
          stage_bind (stage_call trivial) fun online =>
            stage_bind (stage_ifThen (stage_deny _ _ _ _)) fun _ => stage_pure _
        show Always _ _ _ (ifThen (!(checkUnlock settings attempts).allowed) _ >>= _).run
        rw [allowed]
        refine (recorded_stage (rest _) (List.cons_ne_nil _ _) ⟨[], rfl, rfl⟩).mono ?_
        rintro hist' (error | value) after
        · exact counted_of_after below after
        · refine ⟨within_of_after below after, ?_⟩
          obtain ⟨⟨later, rfl, -⟩, -⟩ := after
          simp
      · -- the call is refused
        have refused : (checkUnlock settings attempts).allowed = false := by
          unfold checkUnlock
          rw [if_pos (by omega)]
        show Always _ _ _ (ifThen (!(checkUnlock settings attempts).allowed) _ >>= _).run
        rw [refused]
        refine ⟨⟨rfl, nofun⟩, fun row => ?_⟩
        cases row with
        | error error => exact .inr (.inl rfl)
        | ok seq =>
            refine .inr (.inr fun userId seconds attempts' mem => iff_of_true ⟨_, rfl⟩ ?_)
            rcases List.mem_cons.mp mem with same | mem
            · cases same
            rcases List.mem_cons.mp mem with same | inside
            · cases same
              omega
            · exact (only inside).elim

/-- A value, or something the limiter does not raise. -/
def NotLimited (result : Except PyError α) : Prop := ∀ retry, result ≠ .error (.rateLimited retry)

theorem notLimited_bind {β : Type} {x : Except PyError α} {f : α → Except PyError β}
    (first : NotLimited x) (second : ∀ value, NotLimited (f value)) : NotLimited (x >>= f) := by
  cases x with
  | error error =>
      intro retry same
      exact first retry (by rw [Except.error.inj same])
  | ok value => exact second value

theorem notLimited_foldlM {β : Type} {f : β → α → Except PyError β}
    (turn : ∀ b a, NotLimited (f b a)) (start : β) (items : List α) :
    NotLimited (List.foldlM f start items) := by
  induction items generalizing start with
  | nil => exact nofun
  | cons a rest ih => exact notLimited_bind (turn start a) fun b => ih b

theorem notLimited_deriveBeaconId (beaconKey : Bytes) (slot : Int) :
    NotLimited (deriveBeaconId beaconKey slot) := by
  unfold deriveBeaconId slotBytes
  by_cases length : beaconKey.length ≠ 32
  · rw [if_pos length]
    exact nofun
  · rw [if_neg length]
    split_ifs <;> exact nofun

theorem notLimited_compareDigest (a b : Text) : NotLimited (compareDigest a b) := by
  unfold compareDigest
  split_ifs <;> exact nofun

theorem notLimited_matchSlot (beaconKey : Bytes) (presented : Text) (matched : Option Int)
    (slot : Int) : NotLimited (matchSlot beaconKey presented matched slot) :=
  notLimited_bind (notLimited_deriveBeaconId _ _) fun candidate =>
    notLimited_bind (notLimited_compareDigest candidate _) fun _ => nofun

/-- The proximity check raises nothing of the limiter's. -/
theorem notLimited_verifyProximity (beaconKey : Bytes) (presented : Text)
    (rotation maxAge now : Int) :
    NotLimited (verifyProximity beaconKey presented rotation maxAge now) := by
  unfold verifyProximity
  by_cases empty : presented = []
  · rw [if_pos empty]
    exact nofun
  rw [if_neg empty]
  by_cases zero : rotation = 0
  · rw [if_pos zero]
    exact nofun
  rw [if_neg zero]
  refine notLimited_bind (notLimited_foldlM (notLimited_matchSlot beaconKey _) _ _) ?_
  rintro (_ | slot) <;> exact nofun

theorem stage_verifyProximity (beaconKey : Bytes) (presented : Text) (rotation maxAge now : Int) :
    Stage args (MonadExcept.ofExcept (verifyProximity beaconKey presented rotation maxAge now) :
      Py (Bool × Option Int)) := by
  have other := notLimited_verifyProximity beaconKey presented rotation maxAge now
  cases result : verifyProximity beaconKey presented rotation maxAge now with
  | ok value => exact stage_pure value
  | error error =>
      rw [result] at other
      exact stage_throw fun retry same => other retry (by rw [same])

theorem checkPresence_recorded (door : DoorRecord) (requested : Requested hist)
    (uncounted : hist.any isCount = false) :
    Always (Recorded args) (Presence settings) hist (checkPresence settings args door).run := by
  refine uncounted_bind requested uncounted (stage_subscript _) (fun _ _ => id) ?_
  intro hist controller requested uncounted
  refine uncounted_bind requested uncounted (stage_call trivial) (fun _ _ => id) ?_
  intro hist now requested uncounted
  refine uncounted_bind requested uncounted (stage_verifyProximity _ _ _ _ _) (fun _ _ => id) ?_
  rintro hist ⟨accepted, age⟩ requested uncounted
  refine uncounted_bind requested uncounted (stage_ifThen (stage_deny _ _ _ _)) (fun _ _ => id) ?_
  intro hist _ requested uncounted
  exact budget_recorded controller age requested uncounted

/-- Steps 7 and 8 are one more stage. -/
theorem stage_deliver (settings : UnlockSettings) (door : DoorRecord)
    (controller : DoorController) (age : Option Int) : Stage args (do
      match ← signStep settings args door controller.code with
      | none => return none
      | some (commandId, payload, signature, keyId) =>
          let _ ← audit (grantedCall args door commandId keyId age)
          let ack ← deliverStep settings args door controller.code commandId
            (commandEnvelope payload signature keyId)
          let _ ← audit { baseCall args .doorUnlockConfirmed .success with
            controllerId := door.controllerId
            detail := [(text "command_id", .str (uuidText commandId)),
              (text "controller_uptime_ms", (Json.get? ack (text "uptime_ms")).getD .null),
              (text "relay_ms", (Json.get? ack (text "relay_ms")).getD .null)] }
          return some { commandId, openedForMs := door.unlockSeconds * 1000,
                        proximityAgeSeconds := age.getD 0 } : Py (Option UnlockOutcome)) := by
  refine stage_bind (stage_signStep settings door controller.code) ?_
  rintro (_ | ⟨commandId, payload, signature, keyId⟩)
  · exact stage_pure none
  refine stage_bind (stage_audit rfl (by simp [grantedCall, baseCall])) fun _ => ?_
  refine stage_bind (stage_deliverStep settings door _ commandId _) fun ack => ?_
  exact stage_bind (stage_audit rfl (by simp [baseCall])) fun _ => stage_pure _

/-- **What a call records and how its count decides**, in every execution. -/
theorem unlock_recorded (settings : UnlockSettings) (args : UnlockArgs) :
    Always (Recorded args) (Counted settings) [] (unlock settings args).run := by
  refine ⟨⟨rfl, fun _ => rfl⟩, fun row => ?_⟩
  cases row with
  | error error => exact .inr (.inl rfl)
  | ok seq =>
      have requested : Requested
          [⟨.audit (baseCall args .doorUnlockRequested .success), .ok seq⟩] :=
        ⟨_, seq, List.mem_singleton_self _, rfl⟩
      refine uncounted_bind requested rfl stage_checkDoor (fun _ _ => id) ?_
      intro hist door requested uncounted
      refine (always_exceptBind _ _).mpr
        ((checkPresence_recorded door requested uncounted).mono ?_)
      rintro hist (error | ⟨controller, age⟩) presence
      · exact counted_error presence
      · obtain ⟨within, begun⟩ := presence
        exact (recorded_stage (stage_deliver settings door controller age hist) begun
          ⟨[], rfl, rfl⟩).mono fun _ _ => counted_of_after within

end Whole

end DoorsControl.Backend
