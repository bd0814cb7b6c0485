import DoorsControl.Audit.Service
import DoorsControl.Backend.Proximity
import DoorsControl.Kit.Prog

/-!
# The unlock decision

`UnlockService.unlock` with its helpers `_deny` and `_fail`, as a program over the
repositories, the clock, the random draws, the hub and the signer. Everything that
is awaited may raise anything.

`_deny` and `_fail` are ordinary calls here, as in the source: nothing but the
`raise` at their end keeps the code after them from running, and a record that is
`None` is only noticed when it is subscripted.
-/

namespace DoorsControl.Backend

open DoorsControl.Audit (AuditCall AuditEvent AuditOutcome ActorType)

/-- What the service uses of its settings, with Python's `str` of a decoded JSON
value. -/
structure UnlockSettings where
  beaconRotationSeconds : Int
  proximityMaxAgeSeconds : Int
  rateMaxUnlocksPerMinute : Int
  commandTtlSeconds : Int
  pyStr : Json Text → Text

/-- The columns `DoorRepository.by_id` joins from `controllers`. -/
structure DoorController where
  code : Text
  beaconKey : Bytes
  isBlocked : Bool

/-- What `DoorRepository.by_id` returns; the columns of a left join are null
together. -/
structure DoorRecord where
  code : Text
  relayChannel : Int
  unlockSeconds : Int
  isActive : Bool
  controllerId : Option Uuid
  controller : Option DoorController

/-- What `PermissionRepository.effective` returns, times as `str` prints them. -/
structure PermissionRecord where
  withinWindow : Bool
  localTime : Text
  localDow : Int
  startTime : Text
  endTime : Text
  timeZone : Text

/-- `RateDecision` -/
structure RateDecision where
  allowed : Bool
  delayMs : Int
  retryAfterSeconds : Int
  failures : Int
  deriving DecidableEq

/-- `RateLimiter.check_unlock`, after the count. -/
def checkUnlock (settings : UnlockSettings) (attempts : Int) : RateDecision :=
  if attempts ≥ settings.rateMaxUnlocksPerMinute then ⟨false, 0, 60, attempts⟩
  else ⟨true, 0, 0, attempts⟩

/-- A Python dict with `str` keys, in insertion order. -/
abbrev Dict := List (Text × Json Text)

structure UnlockArgs where
  userId : Uuid
  deviceId : Uuid
  doorId : Uuid
  proximityBeaconId : Text
  clientIp : Option Text

structure UnlockOutcome where
  commandId : Uuid
  openedForMs : Int
  proximityAgeSeconds : Int

/-! ## What the service calls -/

inductive UnlockOp where
  | audit (record : AuditCall)
  | doorById (id : Uuid)
  | effective (userId doorId : Uuid)
  | unlockCount (userId : Text) (seconds : Int)
  | time
  | isOnline (controllerCode : Text)
  | uuid4
  | tokenBytes (count : Nat)
  | signCommand (payload : Dict)
  | sendCommand (controllerCode : Text) (envelope : Dict) (timeout : Int)

abbrev UnlockOp.Res : UnlockOp → Type
  | .audit _ => Except PyError Int
  | .doorById _ => Except PyError (Option DoorRecord)
  | .effective _ _ => Except PyError (Option PermissionRecord)
  | .unlockCount _ _ => Except PyError Int
  | .time => Int
  | .isOnline _ => Bool
  | .uuid4 => Uuid
  | .tokenBytes _ => Bytes
  | .signCommand _ => Except PyError (Bytes × Json Text)
  | .sendCommand _ _ _ => Except PyError Dict

abbrev UnlockEvent := Kit.Event UnlockOp UnlockOp.Res
abbrev Py := ExceptT PyError (Kit.Prog UnlockOp UnlockOp.Res)

open Kit.Prog (call attempt ifThen)

abbrev audit (record : AuditCall) : Py Int := attempt (UnlockOp.audit record) id
abbrev doorById (doorId : Uuid) : Py (Option DoorRecord) := attempt (UnlockOp.doorById doorId) id
abbrev effective (userId doorId : Uuid) : Py (Option PermissionRecord) :=
  attempt (UnlockOp.effective userId doorId) id
abbrev unlockCount (userId : Text) (seconds : Int) : Py Int :=
  attempt (UnlockOp.unlockCount userId seconds) id
abbrev time : Py Int := call UnlockOp.time
abbrev isOnline (controllerCode : Text) : Py Bool := call (UnlockOp.isOnline controllerCode)
abbrev uuid4 : Py Uuid := call UnlockOp.uuid4
abbrev tokenBytes (count : Nat) : Py Bytes := call (UnlockOp.tokenBytes count)

/-- The answer of the signer, or what asking for it raised. -/
abbrev signCommand (payload : Dict) : Py (Except PyError (Bytes × Json Text)) :=
  call (UnlockOp.signCommand payload)

/-- The acknowledgement, or what waiting for it raised. -/
abbrev sendCommand (controllerCode : Text) (envelope : Dict) (timeout : Int) :
    Py (Except PyError Dict) := call (UnlockOp.sendCommand controllerCode envelope timeout)

/-- `record[..]` of something that may be `None`. -/
def subscript {α : Type} : Option α → Py α
  | some value => pure value
  | none => throw .typeError

/-! ## The service -/

/-- `**base` -/
def baseCall (args : UnlockArgs) (event : AuditEvent) (outcome : AuditOutcome) : AuditCall where
  event := event
  outcome := outcome
  actorType := .user
  actorId := some args.userId
  deviceId := some args.deviceId
  doorId := some args.doorId
  clientIp := args.clientIp

/-- `UnlockService._deny` -/
def deny (args : UnlockArgs) (internalReason : Text) (reason : DenyReason) (extra : Dict)
    (controllerId : Option Uuid) : Py Unit := do
  let _ ← audit { baseCall args .doorUnlockDenied .denied with
    controllerId, detail := (text "reason", .str internalReason) :: extra }
  throw (.unlockDenied reason internalReason)

/-- `UnlockService._fail` -/
def fail (args : UnlockArgs) (door : DoorRecord) (commandId : Uuid) (internalReason : Text) :
    Py Unit := do
  let _ ← audit { baseCall args .doorUnlockFailed .failure with
    controllerId := door.controllerId
    detail := [(text "reason", .str internalReason),
      (text "command_id", .str (uuidText commandId))] }
  throw (.unlockDenied .failed internalReason)

/-- `door is None or not door["is_active"] or door["controller_id"] is None` -/
def doorUnavailable : Option DoorRecord → Bool
  | none => true
  | some door => !door.isActive || door.controllerId.isNone

/-- `extra` of the refusal outside the time window. -/
def windowDetail (permission : PermissionRecord) : Dict :=
  [(text "local_time", .str permission.localTime),
   (text "local_dow", .int permission.localDow),
   (text "window", .str (permission.startTime ++ text "-" ++ permission.endTime)),
   (text "time_zone", .str permission.timeZone)]

/-- Checks 1 to 3: the door, the permission, the controller. -/
def checkDoor (args : UnlockArgs) : Py DoorRecord := do
  let door ← doorById args.doorId
  ifThen (doorUnavailable door) <| deny args (text "door_unavailable") .denied [] none
  let permission ← effective args.userId args.doorId
  ifThen permission.isNone <| deny args (text "no_permission") .denied [] none
  let permission ← subscript permission
  ifThen (!permission.withinWindow) <|
    deny args (text "outside_time_window") .denied (windowDetail permission) none
  let door ← subscript door
  ifThen (door.controller.any fun controller => controller.isBlocked) <|
    deny args (text "controller_blocked") .denied [] none
  return door

/-- Checks 4 to 6: proximity, the rate budget, a live controller. -/
def checkPresence (settings : UnlockSettings) (args : UnlockArgs) (door : DoorRecord) :
    Py (DoorController × Option Int) := do
  -- bytes(None) is a TypeError
  let controller ← subscript door.controller
  let now ← time
  let (accepted, age) ← MonadExcept.ofExcept (verifyProximity controller.beaconKey
    args.proximityBeaconId settings.beaconRotationSeconds settings.proximityMaxAgeSeconds now)
  ifThen (!accepted) <|
    deny args (text "proximity_not_proven") .notPresent
      [(text "presented_length", .int args.proximityBeaconId.length)] none
  let attempts ← unlockCount (uuidText args.userId) 60
  let decision := checkUnlock settings attempts
  ifThen (!decision.allowed) do
    let _ ← audit { baseCall args .rateLimitTripped .denied with
      detail := [(text "attempts_in_window", .int decision.failures),
        (text "scope", .str (text "unlock"))] }
    throw (.rateLimited decision.retryAfterSeconds)
  let online ← isOnline controller.code
  ifThen (!online) <|
    deny args (text "controller_offline") .controllerOffline
      [(text "controller_code", .str controller.code)] none
  return (controller, age)

/-- The payload that is signed. -/
def commandPayload (settings : UnlockSettings) (door : DoorRecord) (controllerCode : Text)
    (commandId : Uuid) (issuedAt : Int) (nonce : Bytes) : Dict :=
  [(text "command_id", .str (uuidText commandId)),
   (text "cmd", .str (text "unlock")),
   (text "controller_code", .str controllerCode),
   (text "door_code", .str door.code),
   (text "relay_channel", .int door.relayChannel),
   (text "duration_ms", .int (door.unlockSeconds * 1000)),
   (text "issued_at", .int issuedAt),
   (text "expires_at", .int (issuedAt + settings.commandTtlSeconds)),
   (text "nonce", .str (chars (rstripChar '=' (urlsafeB64encode nonce))))]

/-- The frame that goes to the controller. -/
def commandEnvelope (payload : Dict) (signature : Bytes) (keyId : Json Text) : Dict :=
  [(text "type", .str (text "command")),
   (text "payload", .obj payload),
   (text "signature", .str (chars (b64encode signature))),
   (text "key_id", keyId),
   (text "alg", .str (text "ed25519"))]

/-- `ack.get("result") != "opened"` -/
def ackOpened (ack : Dict) : Bool :=
  match Json.get? ack (text "result") with
  | some (.str result) => result = text "opened"
  | _ => false

/-- `f'controller_refused:{ack.get("detail", "unspecified")}'` -/
def refusedReason (settings : UnlockSettings) (ack : Dict) : Text :=
  text "controller_refused:" ++
    settings.pyStr ((Json.get? ack (text "detail")).getD (.str (text "unspecified")))

/-- Step 7: the command is built and signed. `none` is the bare `return` after a
refusal by the signer. -/
def signStep (settings : UnlockSettings) (args : UnlockArgs) (door : DoorRecord)
    (controllerCode : Text) : Py (Option (Uuid × Dict × Bytes × Json Text)) := do
  let commandId ← uuid4
  let issuedAt ← time
  let nonce ← tokenBytes 16
  let payload := commandPayload settings door controllerCode commandId issuedAt nonce
  match ← signCommand payload with
  | .ok (signature, keyId) => return some (commandId, payload, signature, keyId)
  | .error (.signerUnavailable message) | .error (.signerRefused message) =>
      deny args (text "signer_unavailable: " ++ message) .failed [] door.controllerId
      return none
  | .error error => throw error

/-- Step 8: the frame is sent and the acknowledgement read. -/
def deliverStep (settings : UnlockSettings) (args : UnlockArgs) (door : DoorRecord)
    (controllerCode : Text) (commandId : Uuid) (envelope : Dict) : Py Dict := do
  let ack ← match ← sendCommand controllerCode envelope settings.commandTtlSeconds with
    | .ok ack => pure ack
    | .error (.controllerOffline _) => do
        fail args door commandId (text "controller_disconnected")
        throw .unboundLocalError
    | .error (.commandTimeout _) => do
        fail args door commandId (text "no_acknowledgement")
        throw .unboundLocalError
    | .error error => throw error
  ifThen (!ackOpened ack) <|
    fail args door commandId (refusedReason settings ack)
  return ack

/-- The audit record between signing and sending. -/
def grantedCall (args : UnlockArgs) (door : DoorRecord) (commandId : Uuid) (keyId : Json Text)
    (age : Option Int) : AuditCall :=
  { baseCall args .doorUnlockGranted .success with
    controllerId := door.controllerId
    detail := [(text "command_id", .str (uuidText commandId)),
      (text "signer_key_id", keyId),
      (text "proximity_age_seconds", (age.map .int).getD .null),
      (text "duration_ms", .int (door.unlockSeconds * 1000))] }

/-- `UnlockService.unlock` -/
def unlock (settings : UnlockSettings) (args : UnlockArgs) : Py (Option UnlockOutcome) := do
  let _ ← audit (baseCall args .doorUnlockRequested .success)
  let door ← checkDoor args
  let (controller, age) ← checkPresence settings args door
  match ← signStep settings args door controller.code with
  | none => return none
  | some (commandId, payload, signature, keyId) =>
      let _ ← audit (grantedCall args door commandId keyId age)
      let ack ← deliverStep settings args door controller.code commandId
        (commandEnvelope payload signature keyId)
      let _ ← audit { baseCall args .doorUnlockConfirmed .success with
        controllerId := door.controllerId
        detail := [(text "command_id", .str (uuidText commandId)),
          (text "controller_uptime_ms", (Json.get? ack (text "uptime_ms")).getD .null),
          (text "relay_ms", (Json.get? ack (text "relay_ms")).getD .null)] }
      return some { commandId, openedForMs := door.unlockSeconds * 1000,
                    proximityAgeSeconds := age.getD 0 }

end DoorsControl.Backend
