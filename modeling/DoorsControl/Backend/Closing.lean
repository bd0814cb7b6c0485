import DoorsControl.Backend.SignerClient

/-!
# The closing row of an unlock attempt

`docs/04-api.md` on the unlock sequence: "Every branch writes an audit row". A call
that gets its `door.unlock_requested` row is to end in one closing row, and to return or
raise an `ApiError`.

A call is run here in given surroundings: what the tables hold, what the clock and the
random draws give, what the signer's socket and the controller's socket do. Each
statement of `unlock` runs at most once, the audit rows and the clock apart, so one
answer each is enough.

* `checkDoor_run`, `checkPresence_run`, `signStep_run`, `deliverStep_run` — where a call
  ends, stage by stage;
* `unlock_closes_iff` — **when a call is closed**;
* `unlock_unclosed` — a beacon identifier with a letter outside ASCII.
-/

namespace DoorsControl.Backend

open DoorsControl.Audit (AuditCall AuditEvent)
open Kit.Prog

/-- What a call meets. -/
structure Surroundings where
  door : Option DoorRecord
  permission : Option PermissionRecord
  attempts : Int
  /-- the clock at the proximity check, and when the command is built -/
  checkedAt : Int
  issuedAt : Int
  online : Bool
  commandId : Uuid
  nonce : Bytes
  /-- `json.loads` -/
  loads : Bytes → Option (Json Text)
  reply : Reply
  delivery : Delivery
  /-- the numbers that the audit table gives its rows -/
  seq : List UnlockEvent → Int
  /-- the foreign key, and `controllers_beacon_key_len` -/
  joined : ∀ record, door = some record → record.controllerId ≠ none →
    ∃ controller, record.controller = some controller ∧ controller.beaconKey.length = 32

def isTime : UnlockEvent → Bool
  | ⟨.time, _⟩ => true
  | _ => false

/-- The answers: every append and every query succeeds. -/
def Surroundings.oracle (settings : UnlockSettings) (world : Surroundings)
    (hist : List UnlockEvent) : (o : UnlockOp) → o.Res
  | .audit _ => .ok (world.seq hist)
  | .doorById _ => .ok world.door
  | .effective _ _ => .ok world.permission
  | .unlockCount _ _ => .ok world.attempts
  | .time => if hist.any isTime then world.issuedAt else world.checkedAt
  | .isOnline _ => world.online
  | .uuid4 => world.commandId
  | .tokenBytes _ => world.nonce
  | .signCommand _ => signCommandWith settings.pyStr world.loads world.reply
  | .sendCommand controllerCode _ _ =>
      sendCommandWith controllerCode (uuidText world.commandId) world.delivery

/-- The rows that close an attempt. -/
def isClosing : UnlockEvent → Bool
  | ⟨.audit record, .ok _⟩ =>
      record.event = .doorUnlockDenied || record.event = .doorUnlockFailed ||
        record.event = .doorUnlockConfirmed || record.event = .rateLimitTripped
  | _ => false

/-- `isinstance(error, ApiError)` -/
def PyError.isApiError : PyError → Bool
  | .unlockDenied _ _ => true
  | .rateLimited _ => true
  | _ => false

/-- The call returned or raised an `ApiError`, its first row says that it was requested,
and exactly one row closes it. -/
def Closed {α : Type} (run : List UnlockEvent × Except PyError α) : Prop :=
  (match run.2 with
    | .ok _ => True
    | .error error => error.isApiError = true) ∧
  (∃ record seq, run.1.getLast? = some ⟨.audit record, .ok seq⟩ ∧
    record.event = .doorUnlockRequested) ∧
  run.1.countP isClosing = 1

/-! ## When nothing is raised that is not expected -/

/-- `verify_proximity` returns: the identifier is ASCII once it is stripped, and the
slots are numbers that `to_bytes(8)` takes. -/
def proximityDefined (settings : UnlockSettings) (presented : Text) (now : Int) : Bool :=
  presented = [] ||
    (settings.beaconRotationSeconds ≠ 0 &&
      (acceptableSlots now settings.beaconRotationSeconds settings.proximityMaxAgeSeconds).all
        (fun slot => 0 ≤ slot && slot < 0x10000000000000000) &&
      (rstripChar (codePoint '=') (strip presented)).all fun c => c.val < 128)

/-- `sign_command` returns, or raises one of its own two errors. -/
def Reply.expected (loads : Bytes → Option (Json Text)) : Reply → Bool
  | .unreachable _ => true
  | .broken _ => true
  | .raised _ => false
  | .line [] => true
  | .line bytes =>
      match loads bytes with
      | some (.obj response) =>
          !truthy ((Json.get? response (text "ok")).getD .null) ||
            ((match Json.get? response (text "signature") with
                | some coded => (b64decode coded).isOk
                | none => false) &&
              (Json.get? response (text "key_id")).isSome)
      | _ => false

/-- `send_command` returns, or raises one of its own two errors. -/
def Delivery.expected : Delivery → Bool
  | .sendRaised _ => false
  | _ => true

/-! ## Where a call ends -/

section Stages

variable {settings : UnlockSettings} {args : UnlockArgs} {world : Surroundings}
  {hist : List UnlockEvent} {α : Type}

/-- The stage returned, without a closing row; `timed` if it read the clock. -/
def Continues (hist : List UnlockEvent) (timed : Bool) (value : α)
    (run : List UnlockEvent × Except PyError α) : Prop :=
  ∃ more, run = (more ++ hist, .ok value) ∧ more.countP isClosing = 0 ∧ more.any isTime = timed

/-- The stage raised an `ApiError` after one closing row. -/
def Ends (hist : List UnlockEvent) (run : List UnlockEvent × Except PyError α) : Prop :=
  ∃ more error, run = (more ++ hist, .error error) ∧ error.isApiError = true ∧
    more.countP isClosing = 1

/-- The stage raised without a closing row. -/
def Escapes (hist : List UnlockEvent) (run : List UnlockEvent × Except PyError α) : Prop :=
  ∃ more error, run = (more ++ hist, .error error) ∧ more.countP isClosing = 0

/-- The door, if checks 1 to 3 pass. -/
def checkedDoor (world : Surroundings) : Option DoorRecord :=
  match world.door, world.permission with
  | some door, some permission =>
      if door.isActive && door.controllerId.isSome && permission.withinWindow &&
          !door.controller.any (fun controller => controller.isBlocked) then some door
      else none
  | _, _ => none

theorem deny_run (internalReason : Text) (reason : DenyReason) (extra : Dict)
    (controllerId : Option Uuid) :
    runWith (world.oracle settings) hist (deny args internalReason reason extra controllerId).run =
      (⟨.audit { baseCall args .doorUnlockDenied .denied with
          controllerId, detail := (text "reason", .str internalReason) :: extra },
        .ok (world.seq hist)⟩ :: hist, .error (.unlockDenied reason internalReason)) := rfl

theorem fail_run (door : DoorRecord) (commandId : Uuid) (internalReason : Text) :
    runWith (world.oracle settings) hist (fail args door commandId internalReason).run =
      (⟨.audit { baseCall args .doorUnlockFailed .failure with
          controllerId := door.controllerId
          detail := [(text "reason", .str internalReason),
            (text "command_id", .str (uuidText commandId))] },
        .ok (world.seq hist)⟩ :: hist, .error (.unlockDenied .failed internalReason)) := rfl

/-- A denial closes the attempt. -/
theorem ends_deny (more : List UnlockEvent) (unclosed : more.countP isClosing = 0)
    (internalReason : Text) (reason : DenyReason) (extra : Dict) (controllerId : Option Uuid) :
    Ends (α := α) hist
      (⟨.audit { baseCall args .doorUnlockDenied .denied with
          controllerId, detail := (text "reason", .str internalReason) :: extra },
        .ok (world.seq (more ++ hist))⟩ :: (more ++ hist),
        .error (.unlockDenied reason internalReason)) := by
  refine ⟨_ :: more, _, rfl, rfl, ?_⟩
  rw [List.countP_cons_of_pos rfl, unclosed]

theorem checkedDoor_eq_some {door : DoorRecord} (passed : checkedDoor world = some door) :
    world.door = some door ∧ doorUnavailable world.door = false ∧ door.controllerId ≠ none ∧
      (∃ permission, world.permission = some permission ∧ permission.withinWindow = true) ∧
      (door.controller.any fun controller => controller.isBlocked) = false := by
  unfold checkedDoor at passed
  split at passed
  · rename_i found permission isDoor isPermission
    split_ifs at passed with checks
    obtain rfl := Option.some.inj passed
    simp only [Bool.and_eq_true, Bool.not_eq_true'] at checks
    obtain ⟨⟨⟨active, assigned⟩, inside⟩, unblocked⟩ := checks
    refine ⟨isDoor, ?_, Option.isSome_iff_ne_none.mp assigned,
      ⟨permission, isPermission, inside⟩, unblocked⟩
    simp [isDoor, doorUnavailable, active, assigned]
  · cases passed

theorem checkDoor_passes {door : DoorRecord} (passed : checkedDoor world = some door) :
    Continues hist false door (runWith (world.oracle settings) hist (checkDoor args).run) := by
  obtain ⟨found, available, _, ⟨permission, granted, inside⟩, unblocked⟩ :=
    checkedDoor_eq_some passed
  refine run_attempt rfl (run_skip available (run_attempt rfl ?_))
  refine run_skip (by rw [granted]; rfl) (run_seq (by rw [granted]; rfl) ?_)
  refine run_skip (by rw [inside]; rfl) (run_seq (by rw [found]; rfl) (run_skip unblocked ?_))
  exact ⟨[_, _], rfl, rfl, rfl⟩

theorem checkDoor_denies (refused : checkedDoor world = none) :
    Ends hist (runWith (world.oracle settings) hist (checkDoor args).run) := by
  refine run_attempt rfl ?_
  by_cases unavailable : doorUnavailable world.door = true
  · exact run_taken unavailable (deny_run _ _ _ _) (ends_deny [_] rfl _ _ _ _)
  rw [Bool.not_eq_true] at unavailable
  refine run_skip unavailable (run_attempt rfl ?_)
  cases granted : world.permission with
  | none => exact run_taken rfl (deny_run _ _ _ _) (ends_deny [_, _] rfl _ _ _ _)
  | some permission =>
      refine run_skip rfl (run_seq rfl ?_)
      by_cases inside : permission.withinWindow = true
      · refine run_skip (by rw [inside]; rfl) ?_
        cases found : world.door with
        | none =>
            rw [found] at unavailable
            cases unavailable
        | some door =>
            refine run_seq rfl ?_
            -- all that is left to refuse for
            have blocked : (door.controller.any fun controller => controller.isBlocked) = true := by
              rw [found] at unavailable
              simp only [doorUnavailable, Bool.or_eq_false_iff, Bool.not_eq_eq_eq_not,
                Bool.not_false, Option.isNone_eq_false_iff] at unavailable
              by_contra unblocked
              simp [checkedDoor, found, granted, inside, unavailable, unblocked] at refused
            exact run_taken blocked (deny_run _ _ _ _) (ends_deny [_, _] rfl _ _ _ _)
      · refine run_taken ?_ (deny_run _ _ _ _) (ends_deny [_, _] rfl _ _ _ _)
        simpa using inside

/-! ### Presence -/

/-- `verify_proximity` at the time of the check. -/
def proximity (settings : UnlockSettings) (args : UnlockArgs) (world : Surroundings)
    (controller : DoorController) : Except PyError (Bool × Option Int) :=
  verifyProximity controller.beaconKey args.proximityBeaconId settings.beaconRotationSeconds
    settings.proximityMaxAgeSeconds world.checkedAt

theorem base64Digit_ascii_low : ∀ n : Fin 62, (base64Digit '-' '_' n).toNat < 0x80 := by
  decide +kernel

theorem base64Digit_ascii (n : Nat) : (base64Digit '-' '_' n).toNat < 0x80 := by
  by_cases small : n < 62
  · exact base64Digit_ascii_low ⟨n, small⟩
  · unfold base64Digit
    rw [if_neg (by omega), if_neg (by omega), if_neg small]
    split_ifs <;> decide

theorem urlsafeB64encode_ascii (bytes : Bytes) : AsciiOnly (urlsafeB64encode bytes) := by
  unfold urlsafeB64encode
  fun_induction base64With (base64Digit '-' '_') bytes with
  | case1 => simp [AsciiOnly]
  | case2 => simp [AsciiOnly, base64Digit_ascii]
  | case3 => simp [AsciiOnly, base64Digit_ascii]
  | case4 a b c rest n ih =>
      intro x mem
      simp only [List.mem_append, List.mem_cons, List.not_mem_nil, or_false] at mem
      rcases mem with (rfl | rfl | rfl | rfl) | mem
      · exact base64Digit_ascii _
      · exact base64Digit_ascii _
      · exact base64Digit_ascii _
      · exact base64Digit_ascii _
      · exact ih x mem

theorem mem_rstripChar {β : Type} [DecidableEq β] {c x : β} {s : List β}
    (mem : x ∈ rstripChar c s) : x ∈ s := by
  rw [rstripChar, List.mem_reverse] at mem
  exact List.mem_reverse.mp ((List.dropWhile_sublist _).subset mem)

/-- The identifiers that the server derives are ASCII. -/
theorem deriveBeaconId_ascii {beaconKey : Bytes} {slot : Int} {id : Text}
    (derived : deriveBeaconId beaconKey slot = .ok id) :
    (id.all fun c => decide (c.val < 128)) = true := by
  unfold deriveBeaconId at derived
  split_ifs at derived
  · cases derived
  cases encoded : slotBytes slot with
  | error e =>
      rw [encoded] at derived
      cases derived
  | ok bytes =>
      rw [encoded] at derived
      obtain rfl := Except.ok.inj derived
      rw [List.all_eq_true]
      intro c mem
      obtain ⟨d, inside, rfl⟩ := List.mem_map.mp mem
      have small := urlsafeB64encode_ascii _ d (mem_rstripChar inside)
      rw [codePoint_val small]
      exact decide_eq_true small

/-- One turn of the loop raises unless the slot is a number of eight bytes and the
identifier is ASCII. -/
theorem matchSlot_isOk {beaconKey : Bytes} (length : beaconKey.length = 32) (presented : Text)
    (matched : Option Int) (slot : Int) :
    (matchSlot beaconKey presented matched slot).isOk =
      ((0 ≤ slot && slot < 0x10000000000000000) &&
        presented.all fun c => decide (c.val < 128)) := by
  by_cases inside : 0 ≤ slot ∧ slot < 0x10000000000000000
  · have derived : ∃ id, deriveBeaconId beaconKey slot = .ok id := by
      rw [deriveBeaconId, if_neg (by simp [length]), slotBytes, if_pos inside]
      exact ⟨_, rfl⟩
    obtain ⟨id, derived⟩ := derived
    have ascii := deriveBeaconId_ascii derived
    have compared : compareDigest id presented =
        if (presented.all fun c => decide (c.val < 128)) = true then .ok (decide (id = presented))
        else .error .typeError := by
      unfold compareDigest
      rw [List.all_append, ascii, Bool.true_and]
    rw [matchSlot, derived, decide_eq_true inside.1, decide_eq_true inside.2]
    simp only [bind, Except.bind, compared]
    cases presented.all fun c => decide (c.val < 128) <;> rfl
  · have overflow : deriveBeaconId beaconKey slot = .error .overflowError := by
      rw [deriveBeaconId, if_neg (by simp [length]), slotBytes, if_neg inside]
      rfl
    have outside : (decide (0 ≤ slot) && decide (slot < 0x10000000000000000)) = false := by
      rw [Bool.and_eq_false_iff, decide_eq_false_iff_not, decide_eq_false_iff_not]
      omega
    rw [matchSlot, overflow, outside]
    rfl

theorem foldlM_isOk {ε β γ : Type} {f : β → γ → Except ε β} {p : γ → Bool}
    (each : ∀ acc x, (f acc x).isOk = p x) (init : β) (xs : List γ) :
    (xs.foldlM f init).isOk = xs.all p := by
  induction xs generalizing init with
  | nil => rfl
  | cons x xs ih =>
      rw [List.foldlM_cons, List.all_cons, ← each init x]
      cases f init x with
      | error e => rfl
      | ok acc => exact ih acc

/-- The window always holds the current slot. -/
theorem acceptableSlots_ne_nil (now rotationSeconds maxAgeSeconds : Int) :
    acceptableSlots now rotationSeconds maxAgeSeconds ≠ [] := by
  intro none
  have count : (max 1 (-((-maxAgeSeconds).fdiv rotationSeconds)) + 1).toNat = 0 := by
    simpa [acceptableSlots] using congrArg List.length none
  omega

theorem all_and_const {β : Type} {xs : List β} (nonempty : xs ≠ []) (p : β → Bool) (b : Bool) :
    (xs.all fun x => p x && b) = (xs.all p && b) := by
  cases b with
  | true => simp
  | false =>
      obtain ⟨x, rest, rfl⟩ := List.exists_cons_of_ne_nil nonempty
      simp

theorem proximity_isOk (settings : UnlockSettings) (args : UnlockArgs) (world : Surroundings)
    {controller : DoorController} (length : controller.beaconKey.length = 32) :
    (proximity settings args world controller).isOk =
      proximityDefined settings args.proximityBeaconId world.checkedAt := by
  unfold proximity verifyProximity proximityDefined
  by_cases empty : args.proximityBeaconId = []
  · rw [if_pos empty, decide_eq_true empty]
    rfl
  by_cases stopped : settings.beaconRotationSeconds = 0
  · rw [if_neg empty, if_pos stopped, decide_eq_false empty, decide_eq_false (not_not.mpr stopped)]
    rfl
  · have loop := foldlM_isOk (matchSlot_isOk length
      (rstripChar (codePoint '=') (strip args.proximityBeaconId))) none
      (acceptableSlots world.checkedAt settings.beaconRotationSeconds
        settings.proximityMaxAgeSeconds)
    rw [all_and_const (acceptableSlots_ne_nil _ _ _)] at loop
    rw [if_neg empty, if_neg stopped, decide_eq_false empty, decide_eq_true stopped, Bool.false_or,
      Bool.true_and, ← loop]
    generalize List.foldlM (m := Except PyError) _ _ _ = folded
    cases folded with
    | error e => rfl
    | ok matched => cases matched <;> rfl

theorem ofExcept_run {β : Type} (result : Except PyError β) :
    runWith (world.oracle settings) hist (MonadExcept.ofExcept result : Py β).run =
      (hist, result) := by
  cases result <;> rfl

/-- The beacon is accepted, the budget is not spent and the controller is online: the call
goes on to the signer. -/
def present (settings : UnlockSettings) (args : UnlockArgs) (world : Surroundings)
    (controller : DoorController) : Bool :=
  (match proximity settings args world controller with
    | .ok (accepted, _) => accepted
    | .error _ => false) &&
  (checkUnlock settings world.attempts).allowed && world.online

section Presence

variable {door : DoorRecord} {controller : DoorController}
  (assigned : door.controller = some controller) (timeless : hist.any isTime = false)

include timeless

/-- Where the beacon has been checked. -/
theorem proximity_run {result : Except PyError (Bool × Option Int)}
    (checked : proximity settings args world controller = result) :
    runWith (world.oracle settings) (⟨.time, world.oracle settings hist .time⟩ :: hist)
      (MonadExcept.ofExcept (verifyProximity controller.beaconKey args.proximityBeaconId
        settings.beaconRotationSeconds settings.proximityMaxAgeSeconds
        (world.oracle settings hist .time)) : Py (Bool × Option Int)).run =
      (⟨.time, world.checkedAt⟩ :: hist, result) := by
  have now : world.oracle settings hist .time = world.checkedAt := by
    simp [Surroundings.oracle, timeless]
  rw [now, ← checked]
  exact ofExcept_run _

include assigned

/-- What `verify_proximity` raises is not caught. -/
theorem checkPresence_escapes {error : PyError}
    (raised : proximity settings args world controller = .error error) :
    Escapes hist (runWith (world.oracle settings) hist (checkPresence settings args door).run) := by
  refine run_seq (by rw [assigned]; rfl) (run_call (run_raise (proximity_run timeless raised) ?_))
  exact ⟨[_], _, rfl, rfl⟩

theorem checkPresence_ends {accepted : Bool} {age : Option Int}
    (returned : proximity settings args world controller = .ok (accepted, age))
    (absent : present settings args world controller = false) :
    Ends hist (runWith (world.oracle settings) hist (checkPresence settings args door).run) := by
  refine run_seq (by rw [assigned]; rfl) (run_call (run_seq (proximity_run timeless returned) ?_))
  cases accepted with
  | false => exact run_taken rfl (deny_run _ _ _ _) (ends_deny [_] rfl _ _ _ _)
  | true =>
      refine run_skip rfl (run_attempt rfl ?_)
      by_cases allowed : (checkUnlock settings world.attempts).allowed = true
      · have offline : world.online = false := by
          simpa [present, returned, allowed] using absent
        refine run_skip (by rw [allowed]; rfl) (run_call ?_)
        refine run_taken ?_ (deny_run _ _ _ _) (ends_deny [_, _, _] rfl _ _ _ _)
        show (!world.online) = true
        rw [offline]
        rfl
      · refine run_taken (by simpa using allowed) rfl ?_
        exact ⟨[_, _, _], _, rfl, rfl, rfl⟩

theorem checkPresence_passes (here : present settings args world controller = true) :
    ∃ age, Continues hist true (controller, age)
      (runWith (world.oracle settings) hist (checkPresence settings args door).run) := by
  unfold present at here
  cases returned : proximity settings args world controller with
  | error e => simp [returned] at here
  | ok result =>
      obtain ⟨accepted, age⟩ := result
      simp only [returned, Bool.and_eq_true] at here
      obtain ⟨⟨rfl, allowed⟩, online⟩ := here
      refine ⟨age, run_seq (by rw [assigned]; rfl) ?_⟩
      refine run_call (run_seq (proximity_run timeless returned) ?_)
      refine run_skip rfl (run_attempt rfl (run_skip (by rw [allowed]; rfl) (run_call ?_)))
      refine run_skip (by show (!world.online) = false; rw [online]; rfl) ?_
      exact ⟨[_, _, _], rfl, rfl, rfl⟩

end Presence

/-! ### The signer -/

/-- `except (SignerUnavailable, SignerRefused)` -/
def PyError.isSignerError : PyError → Bool
  | .signerUnavailable _ => true
  | .signerRefused _ => true
  | _ => false

/-- Whether the result is one that the service provides for. -/
def provided {β : Type} : Except PyError β → Bool
  | .ok _ => true
  | .error error => error.isSignerError

theorem exceptMap_error {β γ : Type} {result : Except PyError β} {f : β → γ} {error : PyError}
    (raised : (result >>= fun value => pure (f value)) = .error error) : result = .error error := by
  cases result with
  | ok value => cases raised
  | error e => exact congrArg _ (Except.error.inj raised)

theorem a2bLoop_error (quad left pads : Nat) (s : Text) {error : PyError}
    (raised : a2bLoop quad left pads s = .error error) : error = .valueError := by
  fun_induction a2bLoop quad left pads s with
  | case1 => cases raised
  | case2 => exact (Except.error.inj raised).symm
  | case3 => cases raised
  | case4 _ _ _ _ _ ih => exact ih raised
  | case5 _ _ _ _ _ _ _ ih => exact ih raised
  | case6 _ _ _ _ _ _ _ ih => exact ih raised
  | case7 _ _ _ _ _ _ _ ih => exact ih (exceptMap_error raised)
  | case8 _ _ _ _ _ _ _ ih => exact ih (exceptMap_error raised)
  | case9 _ _ _ _ _ _ _ _ _ _ _ ih => exact ih (exceptMap_error raised)

theorem b64decode_error {coded : Json Text} {error : PyError}
    (raised : b64decode coded = .error error) : error.isSignerError = false := by
  cases coded with
  | str s =>
      simp only [b64decode] at raised
      split_ifs at raised
      · rw [a2bLoop_error 0 0 0 s raised]
        rfl
      · obtain rfl := Except.error.inj raised
        rfl
  | _ =>
      obtain rfl := Except.error.inj raised
      rfl

/-- A reply is expected when what comes of it is provided for. -/
theorem provided_signCommandWith (pyStr : Json Text → Text) (loads : Bytes → Option (Json Text))
    (reply : Reply) :
    provided (signCommandWith pyStr loads reply) = reply.expected loads := by
  cases reply with
  | unreachable message => rfl
  | broken message => rfl
  | raised name => rfl
  | line bytes =>
      cases bytes with
      | nil => rfl
      | cons byte bytes =>
          simp only [signCommandWith, Reply.expected, request, decodeLine, reduceCtorEq, if_false,
            item, bind, Except.bind]
          cases loads (byte :: bytes) with
          | none => rfl
          | some value =>
              cases value with
              | obj response =>
                  simp only
                  cases truthy ((Json.get? response (text "ok")).getD .null) with
                  | false => rfl
                  | true =>
                      cases Json.get? response (text "signature") with
                      | none => rfl
                      | some coded =>
                          simp
                          cases decoded : b64decode coded with
                          | error e => simp [provided, b64decode_error decoded, Except.isOk, Except.toBool]
                          | ok signature => cases Json.get? response (text "key_id") <;> rfl
              | _ => rfl

section Signing

variable {door : DoorRecord} {controllerCode : Text}

theorem signStep_escapes (unexpected : world.reply.expected world.loads = false) :
    Escapes hist
      (runWith (world.oracle settings) hist (signStep settings args door controllerCode).run) := by
  have answer := provided_signCommandWith settings.pyStr world.loads world.reply
  refine run_call (run_call (run_call (run_call ?_)))
  simp only [Surroundings.oracle]
  rw [unexpected] at answer
  generalize signCommandWith settings.pyStr world.loads world.reply = signed at answer
  rcases signed with error | signed
  · cases error
    case signerUnavailable => cases answer
    case signerRefused => cases answer
    all_goals exact ⟨[_, _, _, _], _, rfl, rfl⟩
  · cases answer

/-- A refusal of the signer is a denial. -/
theorem signStep_ends (expected : world.reply.expected world.loads = true)
    (unsigned : (signCommandWith settings.pyStr world.loads world.reply).isOk = false) :
    Ends hist
      (runWith (world.oracle settings) hist (signStep settings args door controllerCode).run) := by
  have answer := provided_signCommandWith settings.pyStr world.loads world.reply
  refine run_call (run_call (run_call (run_call ?_)))
  simp only [Surroundings.oracle]
  rw [expected] at answer
  generalize signCommandWith settings.pyStr world.loads world.reply = signed at answer unsigned
  rcases signed with error | signed
  · cases error
    case signerUnavailable => exact run_raise (deny_run _ _ _ _) (ends_deny [_, _, _, _] rfl _ _ _ _)
    case signerRefused => exact run_raise (deny_run _ _ _ _) (ends_deny [_, _, _, _] rfl _ _ _ _)
    all_goals cases answer
  · cases unsigned

theorem signStep_passes
    (signed : (signCommandWith settings.pyStr world.loads world.reply).isOk = true) :
    ∃ payload signature keyId,
      Continues hist true (some (world.commandId, payload, signature, keyId))
        (runWith (world.oracle settings) hist
          (signStep settings args door controllerCode).run) := by
  cases result : signCommandWith settings.pyStr world.loads world.reply with
  | error e =>
      rw [result] at signed
      cases signed
  | ok pair =>
      obtain ⟨signature, keyId⟩ := pair
      let issuedAt := world.oracle settings (⟨.uuid4, world.commandId⟩ :: hist) .time
      refine ⟨commandPayload settings door controllerCode world.commandId issuedAt world.nonce,
        signature, keyId, run_call (run_call (run_call (run_call ?_)))⟩
      simp only [Surroundings.oracle, result]
      exact ⟨[_, _, _, _], rfl, rfl, rfl⟩

end Signing

/-! ### The controller -/

section Delivering

variable {door : DoorRecord} {controllerCode : Text} {commandId : Uuid} {envelope : Dict}

/-- A failure closes the attempt. -/
theorem ends_fail (more : List UnlockEvent) (unclosed : more.countP isClosing = 0)
    (internalReason : Text) :
    Ends (α := α) hist
      (⟨.audit { baseCall args .doorUnlockFailed .failure with
          controllerId := door.controllerId
          detail := [(text "reason", .str internalReason),
            (text "command_id", .str (uuidText commandId))] },
        .ok (world.seq (more ++ hist))⟩ :: (more ++ hist),
        .error (.unlockDenied .failed internalReason)) := by
  refine ⟨_ :: more, _, rfl, rfl, ?_⟩
  rw [List.countP_cons_of_pos rfl, unclosed]

/-- What `session.send` raises is not caught, a `TimeoutError` apart. -/
theorem deliverStep_escapes (unexpected : world.delivery.expected = false) :
    Escapes hist (runWith (world.oracle settings) hist
      (deliverStep settings args door controllerCode commandId envelope).run) := by
  refine run_call ?_
  simp only [Surroundings.oracle]
  cases delivered : world.delivery with
  | sendRaised name => exact ⟨[_], _, rfl, rfl⟩
  | _ =>
      rw [delivered] at unexpected
      cases unexpected

/-- The relay is reported open, or the attempt is closed. -/
theorem deliverStep_expected (expected : world.delivery.expected = true) :
    (∃ ack, Continues hist false ack (runWith (world.oracle settings) hist
      (deliverStep settings args door controllerCode commandId envelope).run)) ∨
    Ends hist (runWith (world.oracle settings) hist
      (deliverStep settings args door controllerCode commandId envelope).run) := by
  cases delivered : world.delivery with
  | sendRaised name =>
      rw [delivered] at expected
      cases expected
  | acked message =>
      by_cases opened : ackOpened message = true
      · refine .inl ⟨message, run_call ?_⟩
        simp only [Surroundings.oracle, delivered]
        refine run_seq rfl (run_skip (by rw [opened]; rfl) ?_)
        exact ⟨[_], rfl, rfl, rfl⟩
      · refine .inr (run_call ?_)
        simp only [Surroundings.oracle, delivered]
        refine run_seq rfl (run_taken (by simpa using opened) (fail_run _ _ _) ?_)
        exact ends_fail [_] rfl _
  | _ =>
      refine .inr (run_call ?_)
      simp only [Surroundings.oracle, delivered]
      exact run_raise (fail_run _ _ _) (ends_fail [_] rfl _)

end Delivering

end Stages

/-! ## The whole call -/

section Whole

variable {settings : UnlockSettings} {args : UnlockArgs} {world : Surroundings}
  {hist : List UnlockEvent} {α β : Type} {p : Py α} {f : α → Py β}

/-- The first row is there, and no closing one. -/
def Started (hist : List UnlockEvent) : Prop :=
  (∃ record seq, hist.getLast? = some ⟨.audit record, .ok seq⟩ ∧
    record.event = .doorUnlockRequested) ∧
  hist.countP isClosing = 0

theorem Started.ne_nil (started : Started hist) : hist ≠ [] := by
  rintro rfl
  obtain ⟨⟨_, _, none, _⟩, _⟩ := started
  cases none

theorem Started.append (started : Started hist) {more : List UnlockEvent}
    (unclosed : more.countP isClosing = 0) : Started (more ++ hist) := by
  refine ⟨?_, ?_⟩
  · rw [List.getLast?_append_of_ne_nil _ started.ne_nil]
    exact started.1
  · rw [List.countP_append, unclosed, started.2]

theorem Started.cons (started : Started hist) {event : UnlockEvent}
    (unclosed : isClosing event = false) : Started (event :: hist) := by
  have counted : [event].countP isClosing = 0 := by simp [unclosed]
  exact started.append counted

theorem Ends.closed (ended : Ends hist (runWith (world.oracle settings) hist p.run))
    (started : Started hist) :
    Closed (runWith (world.oracle settings) hist (p >>= f).run) := by
  obtain ⟨more, error, raised, api, once⟩ := ended
  refine run_raise raised ⟨api, ?_, ?_⟩
  · rw [List.getLast?_append_of_ne_nil _ started.ne_nil]
    exact started.1
  · rw [List.countP_append, once, started.2]

theorem Escapes.not_closed (escaped : Escapes hist (runWith (world.oracle settings) hist p.run))
    (started : Started hist) :
    ¬ Closed (runWith (world.oracle settings) hist (p >>= f).run) := by
  obtain ⟨more, error, raised, none⟩ := escaped
  refine run_raise (Q := fun run => ¬ Closed run) raised ?_
  rintro ⟨_, _, once⟩
  rw [List.countP_append, none, started.2] at once
  cases once

theorem Continues.next {value : α} {timed : Bool} {Q : List UnlockEvent × Except PyError β → Prop}
    (returned : Continues hist timed value (runWith (world.oracle settings) hist p.run))
    (started : Started hist)
    (rest : ∀ hist', Started hist' → hist'.any isTime = (timed || hist.any isTime) →
      Q (runWith (world.oracle settings) hist' (f value).run)) :
    Q (runWith (world.oracle settings) hist (p >>= f).run) := by
  obtain ⟨more, ran, unclosed, clock⟩ := returned
  refine run_seq ran (rest _ (started.append unclosed) ?_)
  rw [List.any_append, clock]

theorem closes_checkDoor {rest : DoorRecord → Py β} {S : DoorRecord → Prop}
    (started : Started hist) (timeless : hist.any isTime = false)
    (next : ∀ door, checkedDoor world = some door → ∀ hist', Started hist' →
      hist'.any isTime = false → (Closed (runWith (world.oracle settings) hist' (rest door).run) ↔
        S door)) :
    Closed (runWith (world.oracle settings) hist (checkDoor args >>= rest).run) ↔
      ∀ door, checkedDoor world = some door → S door := by
  cases checked : checkedDoor world with
  | none =>
      refine iff_of_true ((checkDoor_denies checked).closed started) fun door impossible => ?_
      cases impossible
  | some door =>
      refine (checkDoor_passes checked).next (Q := fun run => Closed run ↔ _) started ?_
      intro hist' started' clock
      rw [next door checked hist' started' (clock.trans timeless)]
      simp

theorem closes_checkPresence {door : DoorRecord} {controller : DoorController}
    {rest : DoorController × Option Int → Py β} {S : Prop}
    (assigned : door.controller = some controller) (length : controller.beaconKey.length = 32)
    (started : Started hist) (timeless : hist.any isTime = false)
    (next : ∀ age hist', Started hist' →
      (Closed (runWith (world.oracle settings) hist' (rest (controller, age)).run) ↔ S)) :
    Closed (runWith (world.oracle settings) hist (checkPresence settings args door >>= rest).run) ↔
      proximityDefined settings args.proximityBeaconId world.checkedAt = true ∧
        (present settings args world controller = true → S) := by
  have isOk := proximity_isOk settings args world length
  cases checked : proximity settings args world controller with
  | error e =>
      rw [checked] at isOk
      have escaped := (checkPresence_escapes assigned timeless checked).not_closed (f := rest) started
      refine iff_of_false escaped fun condition => ?_
      rw [← isOk] at condition
      cases condition.1
  | ok result =>
      rw [checked] at isOk
      cases here : present settings args world controller with
      | false =>
          have ended := (checkPresence_ends assigned timeless checked here).closed (f := rest) started
          refine iff_of_true ended ⟨?_, fun impossible => ?_⟩
          · rw [← isOk]
            rfl
          · cases impossible
      | true =>
          obtain ⟨age, passed⟩ := checkPresence_passes assigned timeless here
          refine passed.next (Q := fun run => Closed run ↔ _) started ?_
          intro hist' started' _
          rw [next age hist' started']
          simp [← isOk, Except.isOk, Except.toBool]

theorem closes_signStep {door : DoorRecord} {controllerCode : Text}
    {rest : Option (Uuid × Dict × Bytes × Json Text) → Py β} {S : Prop} (started : Started hist)
    (next : ∀ payload signature keyId hist', Started hist' →
      (Closed (runWith (world.oracle settings) hist'
        (rest (some (world.commandId, payload, signature, keyId))).run) ↔ S)) :
    Closed (runWith (world.oracle settings) hist
        (signStep settings args door controllerCode >>= rest).run) ↔
      world.reply.expected world.loads = true ∧
        ((signCommandWith settings.pyStr world.loads world.reply).isOk = true → S) := by
  cases expected : world.reply.expected world.loads with
  | false =>
      refine iff_of_false ((signStep_escapes expected).not_closed started) fun condition => ?_
      cases condition.1
  | true =>
      cases signed : (signCommandWith settings.pyStr world.loads world.reply).isOk with
      | false =>
          refine iff_of_true ((signStep_ends expected signed).closed started) ⟨rfl, ?_⟩
          intro impossible
          cases impossible
      | true =>
          obtain ⟨payload, signature, keyId, passed⟩ := signStep_passes signed
          refine passed.next (Q := fun run => Closed run ↔ _) started ?_
          intro hist' started' _
          rw [next payload signature keyId hist' started']
          simp

theorem closes_deliverStep {door : DoorRecord} {controllerCode : Text} {commandId : Uuid}
    {envelope : Dict} {rest : Dict → Py β} (started : Started hist)
    (next : ∀ ack hist', Started hist' →
      Closed (runWith (world.oracle settings) hist' (rest ack).run)) :
    Closed (runWith (world.oracle settings) hist
        (deliverStep settings args door controllerCode commandId envelope >>= rest).run) ↔
      world.delivery.expected = true := by
  cases expected : world.delivery.expected with
  | false =>
      refine iff_of_false ((deliverStep_escapes expected).not_closed started) ?_
      exact Bool.false_ne_true
  | true =>
      rcases deliverStep_expected expected with ⟨ack, passed⟩ | ended
      · refine passed.next (Q := fun run => Closed run ↔ _) started ?_
        intro hist' started' _
        exact iff_of_true (next ack hist' started') rfl
      · exact iff_of_true (ended.closed started) rfl

/-- **When a call is closed.** A call that reaches the beacon check is closed if the
identifier can be compared; one that reaches the signer, if the signer's reply is one
of its own; one that reaches the controller, if `session.send` raises nothing but a
`TimeoutError`. Every other call is closed. -/
theorem unlock_closes_iff (settings : UnlockSettings) (args : UnlockArgs) (world : Surroundings) :
    Closed (runWith (world.oracle settings) [] (unlock settings args).run) ↔
      ∀ door, checkedDoor world = some door →
        ∀ controller, door.controller = some controller →
          proximityDefined settings args.proximityBeaconId world.checkedAt = true ∧
          (present settings args world controller = true →
            world.reply.expected world.loads = true ∧
            ((signCommandWith settings.pyStr world.loads world.reply).isOk = true →
              world.delivery.expected = true)) := by
  refine run_attempt (Q := fun run => Closed run ↔ _) rfl ?_
  have started : Started
      [⟨.audit (baseCall args .doorUnlockRequested .success), .ok (world.seq [])⟩] :=
    ⟨⟨_, _, rfl, rfl⟩, rfl⟩
  refine closes_checkDoor started rfl ?_
  intro door checked hist started timeless
  obtain ⟨found, -, linked, -, -⟩ := checkedDoor_eq_some checked
  obtain ⟨controller, assigned, length⟩ := world.joined door found linked
  simp only [assigned, Option.some.injEq, forall_eq']
  refine closes_checkPresence assigned length started timeless ?_
  intro age hist started
  refine closes_signStep started ?_
  intro payload signature keyId hist started
  refine run_attempt (Q := fun run => Closed run ↔ _) rfl ?_
  refine closes_deliverStep (started.cons rfl) ?_
  intro ack hist started
  refine run_attempt rfl ⟨trivial, ?_, ?_⟩
  · show ∃ record seq, (_ :: hist).getLast? = some ⟨.audit record, .ok seq⟩ ∧ _
    rw [List.getLast?_cons_of_ne_nil started.ne_nil]
    exact started.1
  · show (_ :: hist).countP isClosing = 1
    rw [List.countP_cons_of_pos rfl, started.2]

end Whole

/-! ## A call without a closing row -/

def atticDoor : DoorRecord where
  code := text "attic"
  relayChannel := 1
  unlockSeconds := 3
  isActive := true
  controllerId := some 9
  controller := some ⟨text "ctl-9", List.replicate 32 7, false⟩

/-- Everything works. -/
def calm : Surroundings where
  door := some atticDoor
  permission := some ⟨true, [], 1, [], [], []⟩
  attempts := 0
  checkedAt := 120
  issuedAt := 121
  online := true
  commandId := 5
  nonce := List.replicate 16 0
  loads := fun _ => some (.obj [(text "ok", .bool true), (text "signature", .str (text "AAAA")),
    (text "key_id", .str (text "k1"))])
  reply := .line (ascii "reply")
  delivery := .acked [(text "result", .str (text "opened"))]
  seq := fun hist => hist.length
  joined := by
    rintro record found -
    obtain rfl := Option.some.inj found
    exact ⟨_, rfl, rfl⟩

def houseSettings : UnlockSettings where
  beaconRotationSeconds := 30
  proximityMaxAgeSeconds := 90
  rateMaxUnlocksPerMinute := 6
  commandTtlSeconds := 10
  pyStr := fun _ => text "None"

/-- The identifier is eight times the letter `é`. -/
def accented : UnlockArgs where
  userId := 1
  deviceId := 2
  doorId := 3
  proximityBeaconId := text "éééééééé"
  clientIp := none

/-- The comparison raises a `TypeError`, and the request is the only row. -/
theorem unlock_unclosed :
    accented.proximityBeaconId.length = 8 ∧
    (runWith (calm.oracle houseSettings) [] (unlock houseSettings accented).run).2.toOption.isNone ∧
    (runWith (calm.oracle houseSettings) [] (unlock houseSettings accented).run).1.countP
      isClosing = 0 ∧
    ¬ Closed (runWith (calm.oracle houseSettings) [] (unlock houseSettings accented).run) := by
  have unrecorded :
      (runWith (calm.oracle houseSettings) [] (unlock houseSettings accented).run).1.countP
        isClosing = 0 := by decide +kernel
  refine ⟨by decide, by decide +kernel, unrecorded, ?_⟩
  rintro ⟨_, _, once⟩
  rw [unrecorded] at once
  cases once

end DoorsControl.Backend
