import DoorsControl.Firmware.Replay

/-!
# The main loop and its sensors

`loop` and `readInputs` of `main.cpp`, with `WsLink::tick` and `WsLink::sendEvent`. An event is
dropped while the link is not authenticated, and the latch and the level that were seen last
are set before it is sent.

`docs/02-threat-model.md` has the tamper switch report to the audit log. A run is any sequence
of turns of the loop: what the socket delivers, how long it is silent, and the levels of the
inputs are as they like.

* `Reported.loop` — one turn keeps it that what was seen was sent, unless it sees something on
  a link that is not authenticated;
* `events_reported` — **the latch and the door**, in runs of such turns;
* `tamper_swallowed` — the enclosure is opened before the link is up.

Each function reads the time anew, and it wraps. An update that is applied restarts the board,
and so ends a run.
-/

namespace DoorsControl.Firmware

/-- What `main.cpp` keeps, with the board. -/
structure Controller where
  board : Board
  linkStarted : Bool
  tamperLatched : Bool
  lastSenseReportMs : UInt32
  lastDoorClosed : Bool

/-- Why an update is refused, as far as it is reported. -/
inductive OtaRefusal where
  | badManifestSignature
  | hashMismatch
  | flashFailed

def OtaRefusal.reason : OtaRefusal → String
  | .badManifestSignature => "bad_manifest_signature"
  | .hashMismatch => "hash_mismatch"
  | .flashFailed => "flash_failed"

/-- What a turn of the loop meets, in its order. -/
structure Turn where
  wifiConnected : Bool
  begunAt : UInt32
  relayAt : UInt32
  /-- what `socketClient.loop()` delivers -/
  delivered : List Delivery
  checkedAt : UInt32
  /-- what `ota.tick()` comes to -/
  update : Option OtaRefusal
  sensedAt : UInt32
  stampedAt : UInt32
  tamperHigh : Bool
  doorLow : Bool

/-- A frame that was sent, and whether the link was authenticated. -/
structure Sent where
  message : Json Bytes
  authenticated : Bool

/-- The frames among the effects of one event. -/
def framesOf (link : WsLink) (effects : List Effect) : List Sent :=
  effects.filterMap fun effect => match effect with
    | .sendTXT message => some ⟨message, link.authenticated⟩
    | .pulse _ _ => none

/-! ## The functions of the source -/

/-- `"{\"key\":\"value\"}"` -/
def detailJson (key value : String) : Json Bytes := .obj [(ascii key, .str (ascii value))]

def eventMessage (event outcome : String) (detail : Json Bytes) : Json Bytes :=
  .obj
    [(ascii "type", .str (ascii "event")),
     (ascii "event", .str (ascii event)),
     (ascii "outcome", .str (ascii outcome)),
     (ascii "detail", detail)]

/-- `WsLink::sendEvent` -/
def WsLink.sendEvent (link : WsLink) (event outcome : String) (detail : Json Bytes) : List Sent :=
  if !link.authenticated then [] else [⟨eventMessage event outcome detail, link.authenticated⟩]

/-- `OtaUpdater::tick`, as far as it reports. -/
def WsLink.otaTick (link : WsLink) (update : Option OtaRefusal) : List Sent :=
  match update with
  | none => []
  | some refusal => link.sendEvent "ota_rejected" "failure" (detailJson "reason" refusal.reason)

/-- `doorClosed ? .. : ..` -/
def doorState (closed : Bool) : String := if closed then "closed" else "open"

/-- `WsLink::begin` -/
def Controller.begin (c : Controller) (millis : UInt32) : Controller :=
  { c with
    board := { c.board with link := { c.board.link with lastPongMs := millis } }
    linkStarted := true }

section Loop

variable (platform : Platform) (config : Config)

/-- `socketClient.loop()` -/
def socketLoop : Board → List Delivery → Board × List Sent
  | board, [] => (board, [])
  | board, (clock, event) :: rest =>
      let handled := handleEvent platform config clock board event
      let later := socketLoop handled.1 rest
      (later.1, later.2 ++ framesOf board.link handled.2)

/-- The end of `WsLink::tick`. The event that `disconnect` raises changes nothing more. -/
def WsLink.checkSilence (link : WsLink) (millis : UInt32) : WsLink :=
  if link.authenticated && millis - link.lastPongMs > config.heartbeatTimeoutS * 1000 then
    { link with authenticated := false }
  else link

/-- `loop` as far as `readInputs`, with the frames it sent, the latest first. -/
def Controller.service (c : Controller) (turn : Turn) : Controller × List Sent :=
  let c := if turn.wifiConnected && !c.linkStarted then c.begin turn.begunAt else c
  let (relay, pins) := c.board.relay.tick config c.board.pins turn.relayAt
  let c := { c with board := { c.board with relay, pins } }
  if c.linkStarted then
    let (board, sent) := socketLoop platform config c.board turn.delivered
    let link := board.link.checkSilence config turn.checkedAt
    ({ c with board := { board with link } }, link.otaTick turn.update ++ sent)
  else (c, [])

/-- The door sense of `readInputs`. -/
def Controller.readDoor (c : Controller) (turn : Turn) : Controller × List Sent :=
  if turn.doorLow ≠ c.lastDoorClosed then
    ({ c with lastDoorClosed := turn.doorLow },
      c.board.link.sendEvent "door_sense" "success" (detailJson "state" (doorState turn.doorLow)))
  else (c, [])

/-- The tamper switch of `readInputs`. -/
def Controller.readTamper (c : Controller) (turn : Turn) : Controller × List Sent :=
  if turn.tamperHigh && !c.tamperLatched then
    ({ c with tamperLatched := true },
      c.board.link.sendEvent "tamper" "failure" (detailJson "state" "open"))
  else (c, [])

/-- `readInputs` -/
def Controller.readInputs (c : Controller) (turn : Turn) : Controller × List Sent :=
  if turn.sensedAt - c.lastSenseReportMs < 1000 then (c, [])
  else
    let c := { c with lastSenseReportMs := turn.stampedAt }
    let (c, tamper) := c.readTamper turn
    let (c, door) := c.readDoor turn
    (c, door ++ tamper)

/-- `loop` -/
def Controller.loop (c : Controller) (turn : Turn) : Controller × List Sent :=
  let (c, serviced) := c.service platform config turn
  if c.linkStarted then
    let (c, reported) := c.readInputs turn
    (c, reported ++ serviced)
  else (c, serviced)

end Loop

/-! ## Runs -/

/-- The board, the frames it sent, the latest first, and whether the level of the door sense
has changed since the boot. -/
structure LoopState where
  controller : Controller
  sent : List Sent
  doorChanged : Bool

/-- After `setup`. -/
def LoopState.boot (config : Config) (pins : Pins) : LoopState where
  controller :=
    { board := ⟨.boot, (Relay.begin config pins).1, (Relay.begin config pins).2⟩
      linkStarted := false
      tamperLatched := false
      lastSenseReportMs := 0
      lastDoorClosed := true }
  sent := []
  doorChanged := false

section Runs

variable (platform : Platform) (config : Config)

def LoopState.turn (s : LoopState) (turn : Turn) : LoopState where
  controller := (s.controller.loop platform config turn).1
  sent := (s.controller.loop platform config turn).2 ++ s.sent
  doorChanged := s.doorChanged ||
    (s.controller.loop platform config turn).1.lastDoorClosed ≠ s.controller.lastDoorClosed

/-- The states that turns within `ok` lead to. -/
inductive LoopState.Reach (ok : LoopState → Turn → Prop) : LoopState → Prop
  | boot (pins : Pins) : Reach ok (boot config pins)
  | turn {s : LoopState} (turn : Turn) :
      Reach ok s → ok s turn → Reach ok (s.turn platform config turn)

/-- An input is about to be seen at a level that was not seen before. -/
def Controller.findsEdge (c : Controller) (turn : Turn) : Bool :=
  c.linkStarted && !(turn.sensedAt - c.lastSenseReportMs < 1000) &&
    ((turn.tamperHigh && !c.tamperLatched) || turn.doorLow ≠ c.lastDoorClosed)

/-- If so, the link is authenticated when the inputs are read. -/
def LoopState.SeenOnline (s : LoopState) (turn : Turn) : Prop :=
  (s.controller.service platform config turn).1.findsEdge turn = true →
    (s.controller.service platform config turn).1.board.link.authenticated = true

end Runs

/-! ## What is claimed of the frames -/

def isDoorSense (frame : Sent) : Bool :=
  match frame.message.member? (ascii "event") with
  | some (.str event) => event = ascii "door_sense"
  | _ => false

def tamperSent : Sent := ⟨eventMessage "tamper" "failure" (detailJson "state" "open"), true⟩

def doorSent (closed : Bool) : Sent :=
  ⟨eventMessage "door_sense" "success" (detailJson "state" (doorState closed)), true⟩

/-- The latch was reported, and the latest report of the door is its level. -/
structure Reported (c : Controller) (sent : List Sent) (doorChanged : Bool) : Prop where
  tamper : c.tamperLatched = true → tamperSent ∈ sent
  door : doorChanged = true → sent.find? isDoorSense = some (doorSent c.lastDoorClosed)

theorem isDoorSense_doorSent (closed : Bool) : isDoorSense (doorSent closed) = true := by
  cases closed <;> decide

theorem not_doorSense_tamperSent : isDoorSense tamperSent = false := by
  decide

section Steps

variable {platform : Platform} {config : Config}

/-- What the link answers to a frame reports no event. -/
theorem event_of_handleEvent {clock : Clock} {board : Board} {event : SocketEvent}
    {message : Json Bytes}
    (sent : .sendTXT message ∈ (handleEvent platform config clock board event).2) :
    message.member? (ascii "event") = none := by
  cases event with
  | text payload =>
      simp only [handleEvent, handleText] at sent
      cases parsed : platform.deserializeJson payload with
      | none => simp [parsed] at sent
      | some document =>
          simp only [parsed] at sent
          split_ifs at sent
          · -- a challenge is answered
            simp only [handleChallenge] at sent
            split_ifs at sent <;> simp at sent
            subst sent
            rfl
          · simp at sent
          · simp only [List.mem_singleton, Effect.sendTXT.injEq] at sent
            subst sent
            rfl
          · -- and a command is acknowledged
            unfold handleCommand at sent
            cases read : parseUnlockCommand ((document.member? (ascii "payload")).getD .null) with
            | none => simp [read] at sent
            | some command =>
                simp only [read] at sent
                split at sent <;> simp [ackMessage] at sent <;> subst sent <;> rfl
          · simp at sent
  | _ => simp [handleEvent] at sent

theorem not_doorSense_of_handleEvent (clock : Clock) (board : Board) (event : SocketEvent) :
    ∀ frame ∈ framesOf board.link (handleEvent platform config clock board event).2,
      isDoorSense frame = false := by
  intro frame mem
  unfold framesOf at mem
  obtain ⟨effect, sent, made⟩ := List.mem_filterMap.mp mem
  cases effect with
  | pulse command relayMs => cases made
  | sendTXT message =>
      obtain rfl := Option.some.inj made
      unfold isDoorSense
      rw [event_of_handleEvent sent]

theorem not_doorSense_of_socketLoop (deliveries : List Delivery) (board : Board) :
    ∀ frame ∈ (socketLoop platform config board deliveries).2, isDoorSense frame = false := by
  induction deliveries generalizing board with
  | nil =>
      intro frame mem
      cases mem
  | cons delivery rest ih =>
      intro frame mem
      rcases List.mem_append.mp mem with later | now
      · exact ih _ frame later
      · exact not_doorSense_of_handleEvent _ board _ frame now

theorem not_doorSense_of_otaTick (link : WsLink) (update : Option OtaRefusal) :
    ∀ frame ∈ link.otaTick update, isDoorSense frame = false := by
  intro frame mem
  cases update with
  | none => cases mem
  | some refusal =>
      simp only [WsLink.otaTick, WsLink.sendEvent] at mem
      split_ifs at mem
      · cases mem
      · obtain rfl := List.mem_singleton.mp mem
        show decide (ascii "ota_rejected" = ascii "door_sense") = false
        decide

/-- Before the inputs are read, the sensors are left alone and no door is reported. -/
structure Serviced (c : Controller) (result : Controller × List Sent) : Prop where
  latch : result.1.tamperLatched = c.tamperLatched
  level : result.1.lastDoorClosed = c.lastDoorClosed
  others : ∀ frame ∈ result.2, isDoorSense frame = false

theorem serviced (c : Controller) (turn : Turn) :
    Serviced c (c.service platform config turn) := by
  unfold Controller.service
  generalize first : (if (turn.wifiConnected && !c.linkStarted) = true then c.begin turn.begunAt
    else c) = begun
  have same : begun.tamperLatched = c.tamperLatched ∧ begun.lastDoorClosed = c.lastDoorClosed := by
    rw [← first]
    split_ifs
    · exact ⟨rfl, rfl⟩
    · exact ⟨rfl, rfl⟩
  simp only
  split_ifs
  · refine ⟨same.1, same.2, fun frame mem => ?_⟩
    rcases List.mem_append.mp mem with ota | socket
    · exact not_doorSense_of_otaTick _ _ frame ota
    · exact not_doorSense_of_socketLoop _ _ frame socket
  · refine ⟨same.1, same.2, fun frame mem => ?_⟩
    cases mem

variable {c : Controller} {sent : List Sent} {doorChanged : Bool} {turn : Turn}

/-- What is sent besides reports of the door changes nothing. -/
theorem Reported.past (reported : Reported c sent doorChanged) {c' : Controller}
    (latch : c'.tamperLatched = c.tamperLatched) (level : c'.lastDoorClosed = c.lastDoorClosed)
    {more : List Sent} (others : ∀ frame ∈ more, isDoorSense frame = false) :
    Reported c' (more ++ sent) doorChanged where
  tamper := by
    intro latched
    rw [latch] at latched
    exact List.mem_append_right _ (reported.tamper latched)
  door := by
    intro changed
    have none : more.find? isDoorSense = none := by
      rw [List.find?_eq_none]
      intro frame mem
      rw [others frame mem]
      exact Bool.false_ne_true
    rw [List.find?_append, none, Option.none_or, level]
    exact reported.door changed

/-- The tamper switch is reported when it is latched. -/
theorem Reported.readTamper (reported : Reported c sent doorChanged)
    (online : (turn.tamperHigh && !c.tamperLatched) = true → c.board.link.authenticated = true) :
    Reported (c.readTamper turn).1 ((c.readTamper turn).2 ++ sent) doorChanged := by
  unfold Controller.readTamper
  split_ifs with edge
  · have report : c.board.link.sendEvent "tamper" "failure" (detailJson "state" "open") =
        [tamperSent] := by
      unfold WsLink.sendEvent
      rw [online edge]
      rfl
    rw [report]
    refine ⟨fun _ => List.mem_cons_self, fun changed => ?_⟩
    -- the report of the switch hides none of the door
    show List.find? isDoorSense (tamperSent :: sent) = _
    rw [List.find?_cons_of_neg (by rw [not_doorSense_tamperSent]; exact Bool.false_ne_true)]
    exact reported.door changed
  · exact reported

/-- The door is reported when its level is not the one seen last. -/
theorem Reported.readDoor (reported : Reported c sent doorChanged)
    (online : turn.doorLow ≠ c.lastDoorClosed → c.board.link.authenticated = true) :
    Reported (c.readDoor turn).1 ((c.readDoor turn).2 ++ sent)
      (doorChanged || (c.readDoor turn).1.lastDoorClosed ≠ c.lastDoorClosed) := by
  unfold Controller.readDoor
  split_ifs with edge
  · have report : c.board.link.sendEvent "door_sense" "success"
        (detailJson "state" (doorState turn.doorLow)) = [doorSent turn.doorLow] := by
      unfold WsLink.sendEvent
      rw [online edge]
      rfl
    rw [report]
    refine ⟨fun latched => List.mem_cons_of_mem _ (reported.tamper latched), fun _ => ?_⟩
    -- and this one is now the latest
    exact List.find?_cons_of_pos (isDoorSense_doorSent _)
  · refine ⟨reported.tamper, fun changed => reported.door ?_⟩
    simpa using changed

/-- So is whatever `readInputs` sees. -/
theorem Reported.readInputs (reported : Reported c sent doorChanged)
    (started : c.linkStarted = true)
    (online : c.findsEdge turn = true → c.board.link.authenticated = true) :
    Reported (c.readInputs turn).1 ((c.readInputs turn).2 ++ sent)
      (doorChanged || (c.readInputs turn).1.lastDoorClosed ≠ c.lastDoorClosed) := by
  unfold Controller.readInputs
  split_ifs with early
  · -- within a second of the last look nothing is read
    simpa using reported
  · have found : ∀ edge : (turn.tamperHigh && !c.tamperLatched) = true ∨
        turn.doorLow ≠ c.lastDoorClosed, c.board.link.authenticated = true := by
      intro edge
      apply online
      unfold Controller.findsEdge
      rw [started, decide_eq_false early]
      simpa using edge
    have stamped : Reported { c with lastSenseReportMs := turn.stampedAt } sent doorChanged :=
      ⟨reported.tamper, reported.door⟩
    have latched := stamped.readTamper fun edge => found (.inl edge)
    -- the tamper switch leaves the link and the level of the door alone
    have same :
        ({ c with lastSenseReportMs := turn.stampedAt }.readTamper turn).1.board = c.board ∧
          ({ c with lastSenseReportMs := turn.stampedAt }.readTamper turn).1.lastDoorClosed =
            c.lastDoorClosed := by
      unfold Controller.readTamper
      split_ifs
      · exact ⟨rfl, rfl⟩
      · exact ⟨rfl, rfl⟩
    have level : turn.doorLow ≠ ({ c with lastSenseReportMs := turn.stampedAt }.readTamper
        turn).1.lastDoorClosed → ({ c with lastSenseReportMs := turn.stampedAt }.readTamper
          turn).1.board.link.authenticated = true := by
      rw [same.1, same.2]
      exact fun edge => found (.inr edge)
    have read := latched.readDoor level
    rw [same.2, ← List.append_assoc] at read
    exact read

/-- **One turn.** -/
theorem Reported.loop (reported : Reported c sent doorChanged)
    (online : (c.service platform config turn).1.findsEdge turn = true →
      (c.service platform config turn).1.board.link.authenticated = true) :
    Reported (c.loop platform config turn).1 ((c.loop platform config turn).2 ++ sent)
      (doorChanged || (c.loop platform config turn).1.lastDoorClosed ≠ c.lastDoorClosed) := by
  have kept : Serviced c (c.service platform config turn) := serviced c turn
  have past := reported.past kept.latch kept.level kept.others
  unfold Controller.loop
  simp only
  split_ifs with started
  · have read := past.readInputs started online
    rw [kept.level, ← List.append_assoc] at read
    exact read
  · rw [kept.level]
    simpa using past

end Steps

/-! ## Runs -/

section Whole

variable {platform : Platform} {config : Config}

/-- **Sensor events are not swallowed** in a run that sees no input change on a link that is
not authenticated. -/
theorem events_reported {s : LoopState}
    (reach : LoopState.Reach platform config (LoopState.SeenOnline platform config) s) :
    Reported s.controller s.sent s.doorChanged := by
  induction reach with
  | boot pins => exact ⟨fun latched => (Bool.false_ne_true latched).elim,
      fun changed => (Bool.false_ne_true changed).elim⟩
  | turn turn _ online ih => exact ih.loop online

end Whole

section Opened

/-- Reads the one frame of these runs. -/
def quietPlatform : Platform where
  deserializeJson bytes :=
    if bytes = ascii "\x7b\"type\":\"auth_ok\"\x7d" then
      some (.obj [(ascii "type", .str (ascii "auth_ok"))])
    else none
  base64Decode _ _ := []
  verifySignature _ _ _ := false
  signWithControllerKey _ := List.replicate 64 0

/-- The enclosure is open, and the door closed. -/
def openedTurn (millis : UInt32) (delivered : List SocketEvent) : Turn where
  wifiConnected := true
  begunAt := millis
  relayAt := millis
  delivered := delivered.map fun event => (⟨1750000000, millis⟩, event)
  checkedAt := millis
  update := none
  sensedAt := millis
  stampedAt := millis
  tamperHigh := true
  doorLow := true

/-- The link comes up. -/
def linkUp : List SocketEvent := [.connected, .text (ascii "\x7b\"type\":\"auth_ok\"\x7d")]

def bootedState : LoopState := .boot busyConfig fun _ => false

end Opened

/-- The enclosure is opened after the link is up. -/
theorem events_reported_sample :
    (bootedState.turn quietPlatform busyConfig (openedTurn 1000 linkUp)).controller.tamperLatched =
        true ∧
      Reported (bootedState.turn quietPlatform busyConfig (openedTurn 1000 linkUp)).controller
        (bootedState.turn quietPlatform busyConfig (openedTurn 1000 linkUp)).sent
        (bootedState.turn quietPlatform busyConfig (openedTurn 1000 linkUp)).doorChanged :=
  ⟨by decide, events_reported (.turn _ (.boot _) fun _ => by decide)⟩

/-- **A tamper event that is swallowed.** The enclosure is opened before the link is up, and stays
open: the latch is set, and nothing is sent once the link is authenticated. -/
theorem tamper_swallowed :
    ∃ s, LoopState.Reach quietPlatform busyConfig (fun _ _ => True) s ∧
      s.controller.tamperLatched = true ∧ s.controller.board.link.authenticated = true ∧
        tamperSent ∉ s.sent := by
  refine ⟨(bootedState.turn quietPlatform busyConfig (openedTurn 1000 [])).turn quietPlatform
    busyConfig (openedTurn 2000 linkUp), .turn _ (.turn _ (.boot _) trivial) trivial, by decide,
    by decide, ?_⟩
  have silent : ((bootedState.turn quietPlatform busyConfig (openedTurn 1000 [])).turn quietPlatform
      busyConfig (openedTurn 2000 linkUp)).sent = [] := rfl
  rw [silent]
  exact List.not_mem_nil

end DoorsControl.Firmware
