import DoorsControl.Backend.Handshake
import DoorsControl.Backend.HubRun
import DoorsControl.Kit.Machine

/-!
# A connection after its handshake

`controller_socket` of `app/ws/controller_ws.py` from `hub.register` on, with the task of
`_heartbeat`. Any number of connections run interleaved, under any codes, and with the calls of
`send_command`; each `await` that suspends is a stage, and what comes in is anything.

* `readFrame` — what the loop makes of a text;
* `LinkRun.step` — one step of one of the two tasks, of the hub, or of the clock;
* `LinkRun.step_cases` — **everything a step can be**.

Times are exact numbers of milliseconds, under one clock that does not run backwards.
-/

namespace DoorsControl.Backend

open DoorsControl.Audit (AuditOutcome ActorType AuditEvent)

/-- What the loop and the heartbeat use of the settings. -/
structure LinkSettings extends SocketSettings where
  heartbeatTimeoutSeconds : Int

/-- The arguments of `AuditService.record`, with the event as it is stored. -/
structure RecordedRow where
  eventType : Text
  outcome : AuditOutcome
  actorType : ActorType
  controllerId : Option Uuid
  clientIp : Option Text
  detail : Dict

/-- Where `controller_socket` stands. -/
inductive LoopStage where
  /-- in `receive_text` -/
  | receiving
  /-- in `touch_seen`, after a pong -/
  | touching
  /-- in `audit.record`, after an event -/
  | recording (eventType : Text) (outcome detail : Json Text)
  /-- in the `audit.record` of the `finally` -/
  | leaving (connectedSeconds : Int)
  | ended

/-- It has not come to its `finally`. -/
def LoopStage.serving : LoopStage → Bool
  | .receiving | .touching | .recording _ _ _ => true
  | .leaving _ | .ended => false

/-- Where `_heartbeat` stands. -/
inductive BeatStage where
  /-- in `asyncio.sleep`, since then -/
  | sleeping (since : Int)
  /-- in `websocket.send_text`, since then -/
  | pinging (since : Int)
  /-- in `websocket.close` -/
  | closing
  | ended

/-- A connection whose session was registered; the session is the object of the hub that has its
place. -/
structure Link where
  controllerId : Uuid
  controllerCode : Text
  remoteIp : Option Text
  connectedAt : Int
  lastPongAt : Int
  stage : LoopStage
  beat : BeatStage
  /-- when the last ping was sent -/
  pingedAt : Option Int
  /-- whether the heartbeat has called `websocket.close` -/
  dropped : Bool

/-- `ControllerSession(..)`, registered, with its heartbeat. -/
def Link.registered (controllerId : Uuid) (controllerCode : Text) (remoteIp : Option Text)
    (now : Int) : Link where
  controllerId := controllerId
  controllerCode := controllerCode
  remoteIp := remoteIp
  connectedAt := now
  lastPongAt := now
  stage := .receiving
  beat := .sleeping now
  pingedAt := none
  dropped := false

/-! ## One frame -/

/-- What the loop makes of a text. -/
inductive Frame where
  /-- `break`, or something is raised -/
  | leave
  /-- `continue`, or none of the branches -/
  | skip
  | pong
  | ack (message : Dict)
  | event (eventType : Text) (outcome detail : Json Text)

def readFrame (settings : LinkSettings) (raw : Text) : Frame :=
  if maxMessageBytes < raw.length then .leave
  else
    match settings.loads raw with
    | .error (.refused name) => if name = text "JSONDecodeError" then .skip else .leave
    | .error (.other _) => .leave
    | .ok (.obj message) =>
        match Json.get? message (text "type") with
        | some (.str kind) =>
            if kind = text "pong" then .pong
            else if kind = text "ack" then .ack message
            else if kind = text "event" then
              .event (text "controller." ++ pyString settings.toSocketSettings
                  ((Json.get? message (text "event")).getD (.str (text "unknown"))))
                ((Json.get? message (text "outcome")).getD (.str (text "success")))
                ((Json.get? message (text "detail")).getD (.obj []))
            else .skip
        | _ => .skip
    -- `message.get`
    | .ok _ => .leave

/-- `$2::acs.audit_outcome`; anything else raises. -/
def outcome? : Json Text → Option AuditOutcome
  | .str s => [AuditOutcome.success, .failure, .denied].find? fun outcome => outcome.label = s
  | _ => none

/-! ## The machine -/

/-- The hub with the calls of `send_command`, the connections in the order of `register`, what
came in on them, the rows that they have written, and the clock. The last of a list comes first,
except among the connections. -/
structure LinkRun where
  run : HubRun Nat
  links : List Link
  received : List (Nat × Text)
  rows : List (Nat × RecordedRow)
  now : Int

inductive LinkAction where
  /-- `hub.register` and `create_task` -/
  | connect (controllerId : Uuid) (controllerCode : Text) (remoteIp : Option Text)
  /-- `receive_text` returns, or raises: at a disconnect, or when the task is cancelled -/
  | received (link : Nat) (incoming : Option Text)
  /-- `touch_seen` returns or raises -/
  | touched (link : Nat) (raised : Bool)
  /-- `audit.record` returns or raises, with the row in the table or not -/
  | recorded (link : Nat) (stored raised : Bool)
  /-- the last `audit.record` returns or raises -/
  | left (link : Nat) (stored : Bool)
  /-- the sleep of the heartbeat is over -/
  | woken (link : Nat)
  /-- `send_text` returns or raises -/
  | pinged (link : Nat) (raised : Bool)
  /-- `websocket.close` returns or raises -/
  | closed (link : Nat)
  /-- a step of a `send_command` -/
  | command (action : HubAction Nat)
  | pass (time : Nat)

/-- `register`, `unregister` and `resolve` are called by connections only. -/
def HubAction.ofCommand : HubAction Nat → Bool
  | .register _ _ | .unregister _ | .resolve _ _ => false
  | _ => true

namespace LinkRun

def empty : LinkRun := ⟨.empty, [], [], [], 0⟩

def setLink (s : LinkRun) (i : Nat) (link : Link) : LinkRun :=
  { s with links := s.links.set i link }

/-- The beginning of the `finally`: the heartbeat is cancelled and the session unregistered. -/
def leave (s : LinkRun) (i : Nat) (link : Link) : LinkRun :=
  { s with
    run := { s.run with hub := s.run.hub.unregister i link.controllerCode }
    links := s.links.set i
      { link with
        stage := .leaving ((s.now - link.connectedAt) / 1000)
        beat := .ended } }

/-- The row of an event, if the table takes it. -/
def eventRow? (link : Link) (eventType : Text) (outcome detail : Json Text) : Option RecordedRow :=
  (outcome? outcome).map fun outcome =>
    ⟨eventType, outcome, .controller, some link.controllerId, link.remoteIp,
      [(text "payload", detail)]⟩

/-- The row of the `finally`. -/
def leftRow (link : Link) (connectedSeconds : Int) : RecordedRow :=
  ⟨AuditEvent.controllerDisconnected.label, .success, .controller, some link.controllerId,
    link.remoteIp, [(text "connected_seconds", .int connectedSeconds)]⟩

variable (settings : LinkSettings)

/-- A text that came in. -/
def receive (s : LinkRun) (i : Nat) (link : Link) (raw : Text) : LinkRun :=
  let s := { s with received := (i, raw) :: s.received }
  match readFrame settings raw with
  | .leave => s.leave i link
  | .skip => s
  | .pong => s.setLink i { link with lastPongAt := s.now, stage := .touching }
  | .ack message =>
      { s with run :=
        { s.run with
          hub := s.run.hub.resolve settings.pyStr i message
          resolved := (i, message) :: s.run.resolved } }
  | .event eventType outcome detail =>
      s.setLink i { link with stage := .recording eventType outcome detail }

/-- One turn of the heartbeat, after its sleep. -/
def beat (s : LinkRun) (i : Nat) (link : Link) : LinkRun :=
  if settings.heartbeatTimeoutSeconds * 1000 < s.now - link.lastPongAt then
    s.setLink i { link with beat := .closing, dropped := true }
  else s.setLink i { link with beat := .pinging s.now, pingedAt := some s.now }

/-- Back to `receive_text`, unless something was raised. -/
def goOn (s : LinkRun) (i : Nat) (link : Link) (raised : Bool) : LinkRun :=
  if raised then s.leave i link else s.setLink i { link with stage := .receiving }

def step (s : LinkRun) : LinkAction → Option LinkRun
  | .connect id code ip => some { s with
      run := { s.run with hub := s.run.hub.register s.links.length code }
      links := s.links ++ [.registered id code ip s.now] }
  | .received i incoming =>
      s.links[i]?.bind fun link =>
        match link.stage with
        | .receiving =>
            match incoming with
            | none => some (s.leave i link)
            | some raw => some (receive settings s i link raw)
        | _ => none
  | .touched i raised =>
      s.links[i]?.bind fun link =>
        match link.stage with
        | .touching => some (s.goOn i link raised)
        | _ => none
  | .recorded i stored raised =>
      s.links[i]?.bind fun link =>
        match link.stage with
        | .recording eventType outcome detail =>
            match stored, eventRow? link eventType outcome detail with
            | false, _ => some (s.goOn i link raised)
            | true, some row => some ({ s with rows := (i, row) :: s.rows }.goOn i link raised)
            | true, none => none
        | _ => none
  | .left i stored =>
      s.links[i]?.bind fun link =>
        match link.stage with
        | .leaving seconds =>
            let rows := if stored then (i, leftRow link seconds) :: s.rows else s.rows
            some ({ s with rows }.setLink i { link with stage := .ended })
        | _ => none
  | .woken i =>
      s.links[i]?.bind fun link =>
        match link.beat with
        | .sleeping since =>
            if s.now < since + settings.heartbeatSeconds * 1000 then none
            else some (beat settings s i link)
        | _ => none
  | .pinged i raised =>
      s.links[i]?.bind fun link =>
        match link.beat with
        | .pinging _ => some (s.setLink i
            { link with beat := if raised then .ended else .sleeping s.now })
        | _ => none
  | .closed i =>
      s.links[i]?.bind fun link =>
        match link.beat with
        | .closing => some (s.setLink i { link with beat := .ended })
        | _ => none
  | .command action =>
      if action.ofCommand then
        (s.run.step settings.pyStr action).map fun run => { s with run }
      else none
  | .pass time => some { s with now := s.now + time }

/-! ## What one step does -/

/-- A step of one connection. -/
inductive LinkStep (s : LinkRun) (i : Nat) (link : Link) : LinkAction → LinkRun → Prop
  | text (raw : Text) (isStage : link.stage = .receiving) :
      LinkStep s i link (.received i (some raw)) (receive settings s i link raw)
  | gone (isStage : link.stage = .receiving) :
      LinkStep s i link (.received i none) (s.leave i link)
  | touched (raised : Bool) (isStage : link.stage = .touching) :
      LinkStep s i link (.touched i raised) (s.goOn i link raised)
  | lost {eventType : Text} {outcome detail : Json Text} (raised : Bool)
      (isStage : link.stage = .recording eventType outcome detail) :
      LinkStep s i link (.recorded i false raised) (s.goOn i link raised)
  | stored {eventType : Text} {outcome detail : Json Text} {row : RecordedRow} (raised : Bool)
      (isStage : link.stage = .recording eventType outcome detail)
      (isRow : eventRow? link eventType outcome detail = some row) :
      LinkStep s i link (.recorded i true raised)
        ({ s with rows := (i, row) :: s.rows }.goOn i link raised)
  | left {seconds : Int} (stored : Bool) (isStage : link.stage = .leaving seconds) :
      LinkStep s i link (.left i stored) ({ s with
        rows := if stored then (i, leftRow link seconds) :: s.rows else s.rows }.setLink i
          { link with stage := .ended })
  | woken {since : Int} (isBeat : link.beat = .sleeping since)
      (due : since + settings.heartbeatSeconds * 1000 ≤ s.now) :
      LinkStep s i link (.woken i) (beat settings s i link)
  | pinged {since : Int} (raised : Bool) (isBeat : link.beat = .pinging since) :
      LinkStep s i link (.pinged i raised) (s.setLink i
        { link with beat := if raised then .ended else .sleeping s.now })
  | closed (isBeat : link.beat = .closing) :
      LinkStep s i link (.closed i) (s.setLink i { link with beat := .ended })

variable {settings} {s s' : LinkRun} {a : LinkAction}

/-- **Everything a step can be.** -/
theorem step_cases (h : step settings s a = some s') :
    (∃ id code ip, a = .connect id code ip ∧ s' = { s with
      run := { s.run with hub := s.run.hub.register s.links.length code }
      links := s.links ++ [.registered id code ip s.now] }) ∨
    (∃ i link, s.links[i]? = some link ∧ LinkStep settings s i link a s') ∨
    (∃ action run, a = .command action ∧ action.ofCommand = true ∧
      s.run.step settings.pyStr action = some run ∧ s' = { s with run }) ∨
    ∃ time : Nat, a = .pass time ∧ s' = { s with now := s.now + time } := by
  cases a with
  | connect id code ip => exact .inl ⟨id, code, ip, rfl, (Option.some.inj h).symm⟩
  | received i incoming =>
      obtain ⟨link, found, taken⟩ := Option.bind_eq_some_iff.mp h
      refine .inr (.inl ⟨i, link, found, ?_⟩)
      split at taken
      · rename_i isStage
        cases incoming with
        | none => exact Option.some.inj taken ▸ .gone isStage
        | some raw => exact Option.some.inj taken ▸ .text raw isStage
      · cases taken
  | touched i raised =>
      obtain ⟨link, found, taken⟩ := Option.bind_eq_some_iff.mp h
      refine .inr (.inl ⟨i, link, found, ?_⟩)
      split at taken
      · rename_i isStage
        exact Option.some.inj taken ▸ .touched raised isStage
      · cases taken
  | recorded i stored raised =>
      obtain ⟨link, found, taken⟩ := Option.bind_eq_some_iff.mp h
      refine .inr (.inl ⟨i, link, found, ?_⟩)
      split at taken
      · rename_i eventType outcome detail isStage
        split at taken
        · exact Option.some.inj taken ▸ .lost raised isStage
        · rename_i row isRow
          exact Option.some.inj taken ▸ .stored raised isStage isRow
        · cases taken
      · cases taken
  | left i stored =>
      obtain ⟨link, found, taken⟩ := Option.bind_eq_some_iff.mp h
      refine .inr (.inl ⟨i, link, found, ?_⟩)
      split at taken
      · rename_i seconds isStage
        exact Option.some.inj taken ▸ .left stored isStage
      · cases taken
  | woken i =>
      obtain ⟨link, found, taken⟩ := Option.bind_eq_some_iff.mp h
      refine .inr (.inl ⟨i, link, found, ?_⟩)
      split at taken
      · rename_i since isBeat
        split_ifs at taken with early
        exact Option.some.inj taken ▸ .woken isBeat (Int.not_lt.mp early)
      · cases taken
  | pinged i raised =>
      obtain ⟨link, found, taken⟩ := Option.bind_eq_some_iff.mp h
      refine .inr (.inl ⟨i, link, found, ?_⟩)
      split at taken
      · rename_i since isBeat
        exact Option.some.inj taken ▸ .pinged raised isBeat
      · cases taken
  | closed i =>
      obtain ⟨link, found, taken⟩ := Option.bind_eq_some_iff.mp h
      refine .inr (.inl ⟨i, link, found, ?_⟩)
      split at taken
      · rename_i isBeat
        exact Option.some.inj taken ▸ .closed isBeat
      · cases taken
  | command action =>
      rw [step] at h
      split_ifs at h with ofCommand
      obtain ⟨run, stepped, rfl⟩ := Option.map_eq_some_iff.mp h
      exact .inr (.inr (.inl ⟨action, run, rfl, ofCommand, stepped, rfl⟩))
  | pass time => exact .inr (.inr (.inr ⟨time, rfl, (Option.some.inj h).symm⟩))

end LinkRun

end DoorsControl.Backend
