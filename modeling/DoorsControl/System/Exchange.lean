import DoorsControl.Backend.Commands
import DoorsControl.Firmware.Replay
import DoorsControl.System.Genuine
import DoorsControl.System.Model
import Mathlib.Data.List.Perm.Basic

/-!
# Calls, the hub and the boards

Any number of unlock calls run interleaved over one hub, and any number of boards are
connected to it, lose their connection and connect again. A frame is on its way until it
is delivered or lost; what a board has sent may arrive late, more than once, or not at
all. Everything else that a call meets (tables, clocks, the signer) answers as it likes.

* `Net`, `Action`, `Net.step` — the system;
* `Net.Ok` — **what holds in every state**: where frames and acknowledgements come from;
* `Net.Reach.ok` — every reachable state is one.
-/

namespace DoorsControl.System

open Backend (ConfirmedRow Delivery Hub PyError Sends UnlockArgs UnlockEvent UnlockOp UnlockOutcome
  UnlockProg UnlockSettings drawnId frame isSend raisesDenial sendCommandWith)
open Firmware (Board Clock Effect Platform SocketEvent)
open Signer (Dict)

variable {ι : Type}

abbrev ApiCall :=
  Kit.Call UnlockArgs UnlockOp UnlockOp.Res (Except PyError (Option UnlockOutcome))

/-- A call inside `send_command`: its future, and whether its frame has left. -/
structure Waiting where
  future : Nat
  left : Bool

/-- A frame on its way to the board at the end of a session, and the call it is from. -/
structure Packet where
  call : Nat
  session : Nat
  frame : Bytes

/-- An event that a board handled: where it came in, in which state of the board, and the
call whose frame it was. -/
structure Handling (ι : Type) where
  session : Nat
  board : ι
  clock : Clock
  before : Board
  event : SocketEvent
  call : Option Nat

structure Net (ι : Type) where
  calls : List ApiCall
  waiting : Nat → Option Waiting
  hub : Hub ι
  flying : List Packet
  boards : ι → Board
  handled : List (Handling ι)

inductive Action (ι : Type) where
  /-- A call of `unlock` comes in. -/
  | request (args : UnlockArgs)
  /-- A call performs its next operation, any but `send_command`. -/
  | answer (call : Nat) (choose : (op : UnlockOp) → op.Res)
  /-- A call enters `send_command`. -/
  | send (call : Nat)
  /-- The frame of a call leaves. -/
  | transmit (call : Nat)
  /-- A call leaves `send_command`. -/
  | conclude (call : Nat) (delivery : Delivery)
  /-- A board has authenticated and is registered. -/
  | connect (board : ι) (controllerCode : Text)
  /-- The receive loop of a session ends. -/
  | disconnect (session : Nat)
  | deliver (packet : Nat) (clock : Clock)
  | lose (packet : Nat)
  /-- A board sees anything else: a challenge, a ping, the end of the connection. -/
  | event (session : Nat) (clock : Clock) (event : SocketEvent)
  /-- A board goes on by itself: its relay falls back, or it reboots. -/
  | proceed (board : ι) (state : Board)
  /-- The receive loop of a session reads an acknowledgement. -/
  | receive (session : Nat) (message : Dict)

section Steps

variable [DecidableEq ι] (installation : Installation ι) (settings : UnlockSettings)

def Net.start (boards : ι → Board) : Net ι where
  calls := []
  waiting _ := none
  hub := .empty
  flying := []
  boards := boards
  handled := []

/-- What a board did in answer to an event. -/
def Handling.effects (handling : Handling ι) : List Effect :=
  (Firmware.handleEvent (installation.platform handling.board) (installation.config handling.board)
    handling.clock handling.before handling.event).2

/-- The operations other than `send_command`. An identifier is not drawn twice, and nothing
that is called raises the service's own error. -/
def Net.reply (net : Net ι) (choose : (op : UnlockOp) → op.Res) : (op : UnlockOp) → Option op.Res
  | .isOnline code => some (net.hub.isOnline code)
  | .uuid4 =>
      if net.calls.any fun call => drawnId call.hist = some (choose .uuid4) then none
      else some (choose .uuid4)
  | .sendCommand _ _ _ => none
  | op => if raisesDenial ⟨op, choose op⟩ then none else some (choose op)

/-- A call whose next operation is `send_command`. -/
structure Sending where
  args : UnlockArgs
  hist : List UnlockEvent
  code : Text
  envelope : Dict
  timeout : Int
  next : Except PyError Dict → UnlockProg

def Sending.call (sending : Sending) : ApiCall :=
  ⟨sending.args, sending.hist,
    .op (.sendCommand sending.code sending.envelope sending.timeout) sending.next⟩

theorem Sending.call_inj {a b : Sending} (same : a.call = b.call) : a = b := by
  cases a
  cases b
  cases same
  rfl

/-- The call with an answer. -/
def Sending.answered (sending : Sending) (answer : Except PyError Dict) : ApiCall :=
  ⟨sending.args,
    ⟨.sendCommand sending.code sending.envelope sending.timeout, answer⟩ :: sending.hist,
    sending.next answer⟩

def Net.sending (net : Net ι) (call : Nat) : Option Sending :=
  match net.calls[call]? with
  | some ⟨args, hist, .op (.sendCommand code envelope timeout) next⟩ =>
      some ⟨args, hist, code, envelope, timeout, next⟩
  | _ => none

/-- How `send_command` can end: `session.send` may raise at any time, and once it is through
the timeout may strike before a future that is done is looked at. -/
def possible (left : Bool) (state : Backend.FutureState) : Delivery → Bool
  | .sendTimedOut => true
  | .sendRaised _ => true
  | .unanswered => left
  | .acked message =>
      match state with
      | .result received => left && decide (message = received)
      | _ => false
  | .dropped message =>
      match state with
      | .failed raised => left && decide (message = raised)
      | _ => false
  | .offline => false

/-- A frame of type `command`. -/
def isCommand (platform : Platform) : SocketEvent → Bool
  | .text payload =>
      match platform.deserializeJson payload with
      | some document => Firmware.stringOr document "type" = ascii "command"
      | none => false
  | _ => false

def Net.handle (net : Net ι) (session : Nat) (board : ι) (clock : Clock) (event : SocketEvent)
    (call : Option Nat) : Net ι :=
  { net with
    boards := Function.update net.boards board (Firmware.handleEvent (installation.platform board)
      (installation.config board) clock (net.boards board) event).1
    handled := net.handled ++ [⟨session, board, clock, net.boards board, event, call⟩] }

/-- A board has sent this on that session. -/
def Net.Said (net : Net ι) (session : Nat) (message : Json Bytes) : Prop :=
  ∃ handling ∈ net.handled, handling.session = session ∧
    .sendTXT message ∈ handling.effects installation

def sends (message : Json Bytes) : Effect → Bool
  | .sendTXT sent => sent = message
  | .pulse _ _ => false

def Net.said (net : Net ι) (session : Nat) (message : Json Bytes) : Bool :=
  net.handled.any fun handling =>
    handling.session = session && (handling.effects installation).any (sends message)

def Net.step (net : Net ι) : Action ι → Option (Net ι)
  | .request args =>
      some { net with calls := net.calls ++ [⟨args, [], (Backend.unlock settings args).run⟩] }
  | .answer i choose =>
      match net.calls[i]? with
      | some ⟨args, hist, .op op next⟩ =>
          (net.reply choose op).map fun r =>
            { net with calls := net.calls.set i ⟨args, ⟨op, r⟩ :: hist, next r⟩ }
      | _ => none
  | .send i =>
      match net.sending i, net.waiting i with
      | some sending, none =>
          match net.hub.enqueue sending.code sending.envelope with
          | .error error =>
              some { net with calls := net.calls.set i (sending.answered (.error error)) }
          | .ok (hub, future) =>
              some { net with hub, waiting := Function.update net.waiting i (some ⟨future, false⟩) }
      | _, _ => none
  | .transmit i =>
      match net.sending i, net.waiting i with
      | some sending, some ⟨reference, false⟩ =>
          net.hub.futures[reference]?.map fun future =>
            { net with
              waiting := Function.update net.waiting i (some ⟨reference, true⟩)
              flying := net.flying ++ [⟨i, future.session, frame sending.envelope⟩] }
      | _, _ => none
  | .conclude i delivery =>
      match net.sending i, net.waiting i with
      | some sending, some ⟨reference, left⟩ =>
          net.hub.futures[reference]?.bind fun future =>
            if possible left future.state delivery then
              some { net with
                calls := net.calls.set i
                  (sending.answered (sendCommandWith sending.code future.commandId delivery))
                waiting := Function.update net.waiting i none
                hub := net.hub.pop future.session future.commandId }
            else none
      | _, _ => none
  | .connect board code =>
      -- what a board sends as its code is `ACS_CONTROLLER_CODE`
      if utf8 code = (installation.config board).controllerCode then
        some { net with hub := net.hub.register board code }
      else none
  | .disconnect session =>
      net.hub.objects[session]?.map fun object =>
        { net with hub := net.hub.unregister session object.controllerCode }
  | .deliver k clock =>
      net.flying[k]?.bind fun packet =>
        net.hub.objects[packet.session]?.map fun object =>
          Net.handle installation { net with flying := net.flying.eraseIdx k } packet.session
            object.remote clock (.text packet.frame) (some packet.call)
  | .lose k => some { net with flying := net.flying.eraseIdx k }
  | .event session clock event =>
      net.hub.objects[session]?.bind fun object =>
        if isCommand (installation.platform object.remote) event then none
        else some (net.handle installation session object.remote clock event none)
  | .proceed board state => some { net with boards := Function.update net.boards board state }
  | .receive session message =>
      if net.said installation session (Json.obj message).wire &&
          decide (Json.get? message (text "type") = some (.str (text "ack"))) then
        some { net with hub := net.hub.resolve settings.pyStr session message }
      else none

/-- The states that are reached by steps that all satisfy `ok`, from boards in any state. -/
inductive Net.Reach (ok : Net ι → Action ι → Bool) : Net ι → Prop
  | start (boards : ι → Board) : Reach ok (.start boards)
  | step {net net' : Net ι} {action : Action ι} : Reach ok net → ok net action = true →
      net.step installation settings action = some net' → Reach ok net'

/-- A schedule from a given state, if every step can be taken and satisfies `ok`. -/
def Net.run (ok : Net ι → Action ι → Bool) (net : Net ι) : List (Action ι) → Option (Net ι)
  | [] => some net
  | action :: rest =>
      if ok net action then (net.step installation settings action).bind fun net' => net'.run ok rest
      else none

variable {installation settings} {ok : Net ι → Action ι → Bool}

theorem reach_of_run {net net' : Net ι} {actions : List (Action ι)}
    (ran : net.run installation settings ok actions = some net')
    (reached : net.Reach installation settings ok) : net'.Reach installation settings ok := by
  induction actions generalizing net with
  | nil =>
      obtain rfl := Option.some.inj ran
      exact reached
  | cons action rest ih =>
      rw [Net.run] at ran
      split at ran
      · rename_i allowed
        obtain ⟨mid, stepped, more⟩ := Option.bind_eq_some_iff.mp ran
        exact ih more (.step reached allowed stepped)
      · cases ran

end Steps

/-! ## One step -/

section Moves

variable [DecidableEq ι] (installation : Installation ι) (settings : UnlockSettings)

/-- Everything a step can be. -/
inductive Net.Moves (net : Net ι) : Action ι → Net ι → Prop
  | request (args : UnlockArgs) : Moves net (.request args)
      { net with calls := net.calls ++ [⟨args, [], (Backend.unlock settings args).run⟩] }
  | answer {i : Nat} {choose : (op : UnlockOp) → op.Res} {args : UnlockArgs}
      {hist : List UnlockEvent} {op : UnlockOp} {next : op.Res → UnlockProg} {r : op.Res} :
      net.calls[i]? = some ⟨args, hist, .op op next⟩ → net.reply choose op = some r →
      Moves net (.answer i choose)
        { net with calls := net.calls.set i ⟨args, ⟨op, r⟩ :: hist, next r⟩ }
  | refuse {i : Nat} {sending : Sending} {error : PyError} :
      net.calls[i]? = some sending.call → net.waiting i = none →
      net.hub.enqueue sending.code sending.envelope = .error error →
      Moves net (.send i) { net with calls := net.calls.set i (sending.answered (.error error)) }
  | enter {i : Nat} {sending : Sending} {hub : Hub ι} {reference : Nat} :
      net.calls[i]? = some sending.call → net.waiting i = none →
      net.hub.enqueue sending.code sending.envelope = .ok (hub, reference) →
      Moves net (.send i)
        { net with hub, waiting := Function.update net.waiting i (some ⟨reference, false⟩) }
  | transmit {i : Nat} {sending : Sending} {reference : Nat} {future : Backend.Future} :
      net.calls[i]? = some sending.call → net.waiting i = some ⟨reference, false⟩ →
      net.hub.futures[reference]? = some future →
      Moves net (.transmit i)
        { net with
          waiting := Function.update net.waiting i (some ⟨reference, true⟩)
          flying := net.flying ++ [⟨i, future.session, frame sending.envelope⟩] }
  | conclude {i : Nat} {sending : Sending} {reference : Nat} {left : Bool}
      {future : Backend.Future} {delivery : Delivery} :
      net.calls[i]? = some sending.call → net.waiting i = some ⟨reference, left⟩ →
      net.hub.futures[reference]? = some future → possible left future.state delivery = true →
      Moves net (.conclude i delivery)
        { net with
          calls := net.calls.set i
            (sending.answered (sendCommandWith sending.code future.commandId delivery))
          waiting := Function.update net.waiting i none
          hub := net.hub.pop future.session future.commandId }
  | connect {board : ι} {code : Text} :
      utf8 code = (installation.config board).controllerCode →
      Moves net (.connect board code) { net with hub := net.hub.register board code }
  | disconnect {session : Nat} {object : Backend.Session ι} :
      net.hub.objects[session]? = some object →
      Moves net (.disconnect session)
        { net with hub := net.hub.unregister session object.controllerCode }
  | deliver {k : Nat} {clock : Clock} {packet : Packet} {object : Backend.Session ι} :
      net.flying[k]? = some packet → net.hub.objects[packet.session]? = some object →
      Moves net (.deliver k clock)
        (Net.handle installation { net with flying := net.flying.eraseIdx k } packet.session
          object.remote clock (.text packet.frame) (some packet.call))
  | lose (k : Nat) : Moves net (.lose k) { net with flying := net.flying.eraseIdx k }
  | event {session : Nat} {clock : Clock} {event : SocketEvent} {object : Backend.Session ι} :
      net.hub.objects[session]? = some object →
      isCommand (installation.platform object.remote) event = false →
      Moves net (.event session clock event)
        (net.handle installation session object.remote clock event none)
  | proceed (board : ι) (state : Board) : Moves net (.proceed board state)
      { net with boards := Function.update net.boards board state }
  | receive {session : Nat} {message : Dict} :
      net.Said installation session (Json.obj message).wire →
      Json.get? message (text "type") = some (.str (text "ack")) →
      Moves net (.receive session message)
        { net with hub := net.hub.resolve settings.pyStr session message }

variable {installation settings} {net net' : Net ι} {action : Action ι}

omit [DecidableEq ι] in
theorem sending_eq {i : Nat} {sending : Sending} (h : net.sending i = some sending) :
    net.calls[i]? = some sending.call := by
  unfold Net.sending at h
  split at h
  · rename_i found
    obtain rfl := Option.some.inj h
    exact found
  · cases h

omit [DecidableEq ι] in
theorem said_of_said {session : Nat} {message : Json Bytes}
    (h : net.said installation session message = true) : net.Said installation session message := by
  simp only [Net.said, List.any_eq_true, Bool.and_eq_true, decide_eq_true_eq] at h
  obtain ⟨handling, mem, isSession, effect, inside, isSent⟩ := h
  refine ⟨handling, mem, isSession, ?_⟩
  cases effect with
  | pulse command ms => cases isSent
  | sendTXT sent =>
      obtain rfl : sent = message := of_decide_eq_true isSent
      exact inside

theorem moves_of_step (h : net.step installation settings action = some net') :
    net.Moves installation settings action net' := by
  cases action with
  | request args =>
      obtain rfl := Option.some.inj h
      exact .request args
  | answer i choose =>
      simp only [Net.step] at h
      split at h
      · rename_i found
        obtain ⟨r, replied, rfl⟩ := Option.map_eq_some_iff.mp h
        exact .answer found replied
      · cases h
  | send i =>
      simp only [Net.step] at h
      split at h
      · rename_i sending isSending idle
        split at h
        · rename_i raised
          obtain rfl := Option.some.inj h
          exact .refuse (sending_eq isSending) idle raised
        · rename_i entered
          obtain rfl := Option.some.inj h
          exact .enter (sending_eq isSending) idle entered
      · cases h
  | transmit i =>
      simp only [Net.step] at h
      split at h
      · rename_i isSending waits
        obtain ⟨future, known, rfl⟩ := Option.map_eq_some_iff.mp h
        exact .transmit (sending_eq isSending) waits known
      · cases h
  | conclude i delivery =>
      simp only [Net.step] at h
      split at h
      · rename_i isSending waits
        obtain ⟨future, known, h⟩ := Option.bind_eq_some_iff.mp h
        split at h
        · rename_i isPossible
          obtain rfl := Option.some.inj h
          exact .conclude (sending_eq isSending) waits known isPossible
        · cases h
      · cases h
  | connect board code =>
      simp only [Net.step] at h
      split at h
      · rename_i own
        obtain rfl := Option.some.inj h
        exact .connect own
      · cases h
  | disconnect session =>
      obtain ⟨object, known, rfl⟩ := Option.map_eq_some_iff.mp h
      exact .disconnect known
  | deliver k clock =>
      obtain ⟨packet, flying, h⟩ := Option.bind_eq_some_iff.mp h
      obtain ⟨object, known, rfl⟩ := Option.map_eq_some_iff.mp h
      exact .deliver flying known
  | lose k =>
      obtain rfl := Option.some.inj h
      exact .lose k
  | event session clock event =>
      obtain ⟨object, known, h⟩ := Option.bind_eq_some_iff.mp h
      split at h
      · cases h
      · rename_i other
        obtain rfl := Option.some.inj h
        exact .event known (by simpa using other)
  | proceed board state =>
      obtain rfl := Option.some.inj h
      exact .proceed board state
  | receive session message =>
      simp only [Net.step] at h
      split at h
      · rename_i received
        rw [Bool.and_eq_true] at received
        obtain rfl := Option.some.inj h
        exact .receive (said_of_said received.1) (of_decide_eq_true received.2)
      · cases h

end Moves

/-! ## Where things come from -/

section Invariant

variable (installation : Installation ι) (settings : UnlockSettings)

/-- The frame of a call has left: the call has sent it, or is still waiting. -/
def Net.Left (net : Net ι) (call : Nat) (envelope : Dict) : Prop :=
  (∃ (found : ApiCall) (code : Text) (timeout : Int) (answer : Except PyError Dict),
    net.calls[call]? = some found ∧ ⟨.sendCommand code envelope timeout, answer⟩ ∈ found.hist) ∨
  ∃ (future : Nat) (sending : Sending), net.waiting call = some ⟨future, true⟩ ∧
    net.calls[call]? = some sending.call ∧ sending.envelope = envelope

/-- An acknowledgement for this command came in on that session. -/
def Net.Heard (net : Net ι) (session : Nat) (id : Text) (message : Dict) : Prop :=
  net.Said installation session (Json.obj message).wire ∧
    Json.get? message (text "type") = some (.str (text "ack")) ∧
    Hub.ackId settings.pyStr message = id

/-- The code is that of the board. -/
def ownCode (board : ι) (code : Text) : Prop :=
  utf8 code = (installation.config board).controllerCode

/-- A call waits for an answer to its own command, from a session of its controller. -/
def Net.WaitsFor (net : Net ι) (call : Nat) (waiting : Waiting) : Prop :=
  ∃ (sending : Sending) (future : Backend.Future) (object : Backend.Session ι),
    net.calls[call]? = some sending.call ∧
    net.hub.futures[waiting.future]? = some future ∧
    Hub.commandId? sending.envelope = some future.commandId ∧
    net.hub.objects[future.session]? = some object ∧ object.controllerCode = sending.code

/-- An event that a board handled came in on its session; if it was a command, it was the
frame of a call. -/
def Net.Origin (net : Net ι) (handling : Handling ι) : Prop :=
  (∃ object, net.hub.objects[handling.session]? = some object ∧ object.remote = handling.board) ∧
  ((handling.call = none ∧
      isCommand (installation.platform handling.board) handling.event = false) ∨
    ∃ call envelope, handling.call = some call ∧ handling.event = .text (frame envelope) ∧
      net.Left call envelope)

/-- The calls whose frames are on their way or were handled. -/
def Net.senders (net : Net ι) : List Nat :=
  net.flying.map Packet.call ++ net.handled.filterMap Handling.call

/-- **What holds in every state.** -/
structure Net.Ok (net : Net ι) : Prop where
  hub : net.hub.Ok (ownCode installation)
  steps : ∀ {i : Nat} {call : ApiCall}, net.calls[i]? = some call →
    (Backend.unlock settings call.req).run.Steps call.hist call.prog
  own : ∀ {i : Nat} {call : ApiCall}, net.calls[i]? = some call →
    call.hist.any raisesDenial = false
  fresh : ∀ {i j : Nat} {call call' : ApiCall} {id : Uuid}, net.calls[i]? = some call →
    net.calls[j]? = some call' → drawnId call.hist = some id → drawnId call'.hist = some id → i = j
  waits : ∀ {i : Nat} {waiting : Waiting}, net.waiting i = some waiting → net.WaitsFor i waiting
  results : ∀ {reference : Nat} {future : Backend.Future} {message : Dict},
    net.hub.futures[reference]? = some future → future.state = .result message →
    net.Heard installation settings future.session future.commandId message
  answers : ∀ {i : Nat} {call : ApiCall} {code : Text} {envelope ack : Dict} {timeout : Int},
    net.calls[i]? = some call → ⟨.sendCommand code envelope timeout, .ok ack⟩ ∈ call.hist →
    ∃ session object id, net.hub.objects[session]? = some object ∧ object.controllerCode = code ∧
      Hub.commandId? envelope = some id ∧ net.Heard installation settings session id ack
  packets : ∀ packet ∈ net.flying, ∃ envelope, packet.frame = frame envelope ∧
    net.Left packet.call envelope
  origins : ∀ handling ∈ net.handled, net.Origin installation handling
  once : net.senders.Nodup

end Invariant

section Preservation

variable {installation : Installation ι} {settings : UnlockSettings} {net : Net ι}

theorem Net.Ok.start (boards : ι → Board) : (Net.start boards).Ok installation settings where
  hub := Backend.Hub.ok_empty _
  steps found := by simp [Net.start] at found
  own found := by simp [Net.start] at found
  fresh found := by simp [Net.start] at found
  waits found := by cases found
  results found := by simp [Net.start, Backend.Hub.empty] at found
  answers found := by simp [Net.start] at found
  packets packet mem := by cases mem
  origins handling mem := by cases mem
  once := List.nodup_nil

/-- A call that waits to be told the answer to a frame has sent no frame before. -/
theorem Net.Ok.not_left (ok : net.Ok installation settings) {i : Nat} {sending : Sending}
    (found : net.calls[i]? = some sending.call) (here : ∀ future, net.waiting i ≠ some ⟨future, true⟩)
    (envelope : Dict) : ¬ net.Left i envelope := by
  rintro (⟨call, code, timeout, answer, found', mem⟩ | ⟨future, _, waiting, -⟩)
  · obtain rfl : call = sending.call := Option.some.inj (found'.symm.trans found)
    have unsent := Backend.unsent_of_sending (ok.steps found) rfl
    rw [List.any_eq_false] at unsent
    exact unsent _ mem rfl
  · exact here future waiting

theorem Net.Ok.mem_senders (ok : net.Ok installation settings) {i : Nat} (mem : i ∈ net.senders) :
    ∃ envelope, net.Left i envelope := by
  rcases List.mem_append.mp mem with flying | handled
  · obtain ⟨packet, inside, rfl⟩ := List.mem_map.mp flying
    obtain ⟨envelope, -, left⟩ := ok.packets packet inside
    exact ⟨envelope, left⟩
  · obtain ⟨handling, inside, isCall⟩ := List.mem_filterMap.mp handled
    rcases (ok.origins handling inside).2 with ⟨none, -⟩ | ⟨call, envelope, isCall', -, left⟩
    · rw [none] at isCall
      cases isCall
    · rw [isCall'] at isCall
      obtain rfl := Option.some.inj isCall
      exact ⟨envelope, left⟩

/-! ## The hub -/

/-- What was on record stays when the hub moves on. -/
theorem Net.Origin.hub {handling : Handling ι} (origin : net.Origin installation handling)
    {incoming : Nat → Text → Dict → Prop} {hub' : Hub ι} (evolves : net.hub.Evolves incoming hub') :
    Net.Origin installation { net with hub := hub' } handling := by
  obtain ⟨⟨object, known, isBoard⟩, rest⟩ := origin
  obtain ⟨object', known', remote, -⟩ := evolves.objects known
  exact ⟨⟨object', known', remote.trans isBoard⟩, rest⟩

theorem Net.WaitsFor.hub {i : Nat} {waiting : Waiting} (waits : net.WaitsFor i waiting)
    {incoming : Nat → Text → Dict → Prop} {hub' : Hub ι} (evolves : net.hub.Evolves incoming hub') :
    Net.WaitsFor { net with hub := hub' } i waiting := by
  obtain ⟨sending, future, object, found, known, isId, isOpen, isCode⟩ := waits
  obtain ⟨future', known', session, id⟩ := evolves.futures known
  obtain ⟨object', isOpen', -, code⟩ := evolves.objects isOpen
  refine ⟨sending, future', object', found, known', ?_, ?_, code.trans isCode⟩
  · rw [id]
    exact isId
  · rw [session]
    exact isOpen'

/-- An operation of the hub. -/
theorem Net.Ok.hubStep (ok : net.Ok installation settings) {hub' : Hub ι}
    {incoming : Nat → Text → Dict → Prop} (evolves : net.hub.Evolves incoming hub')
    (ok' : hub'.Ok (ownCode installation))
    (heard : ∀ {session id message}, incoming session id message →
      net.Heard installation settings session id message) :
    Net.Ok installation settings { net with hub := hub' } where
  hub := ok'
  steps := ok.steps
  own := ok.own
  fresh := ok.fresh
  waits found := (ok.waits found).hub evolves
  results found isResult := by
    rcases evolves.results found isResult with ⟨future, before, state, session, id⟩ | new
    · rw [← session, ← id]
      exact ok.results before state
    · exact heard new
  answers found mem := by
    obtain ⟨session, object, id, known, isCode, isId, hears⟩ := ok.answers found mem
    obtain ⟨object', known', -, code⟩ := evolves.objects known
    exact ⟨session, object', id, known', code.trans isCode, isId, hears⟩
  packets := ok.packets
  origins handling mem := (ok.origins handling mem).hub evolves
  once := ok.once

/-! ## The calls -/

open Kit.Pool (get_append_cases get_append_old get_set_cases)

theorem Net.Ok.request (ok : net.Ok installation settings) (args : UnlockArgs) :
    Net.Ok installation settings
      { net with calls := net.calls ++ [⟨args, [], (Backend.unlock settings args).run⟩] } := by
  have left : ∀ {call : Nat} {envelope : Dict}, net.Left call envelope → Net.Left
      { net with calls := net.calls ++ [⟨args, [], (Backend.unlock settings args).run⟩] } call
      envelope := by
    rintro call envelope (⟨found, code, timeout, answer, known, mem⟩ |
      ⟨future, sending, waiting, known, same⟩)
    · exact .inl ⟨found, code, timeout, answer, get_append_old known, mem⟩
    · exact .inr ⟨future, sending, waiting, get_append_old known, same⟩
  constructor
  · exact ok.hub
  · intro i call found
    rcases get_append_cases found with old | rfl
    · exact ok.steps old
    · exact .start
  · intro i call found
    rcases get_append_cases found with old | rfl
    · exact ok.own old
    · rfl
  · intro i j call call' id found found' drawn drawn'
    rcases get_append_cases found with old | rfl
    · rcases get_append_cases found' with old' | rfl
      · exact ok.fresh old old' drawn drawn'
      · cases drawn'
    · cases drawn
  · intro i waiting found
    obtain ⟨sending, future, object, known, rest⟩ := ok.waits found
    exact ⟨sending, future, object, get_append_old known, rest⟩
  · exact ok.results
  · intro i call code envelope ack timeout found mem
    rcases get_append_cases found with old | rfl
    · exact ok.answers old mem
    · cases mem
  · intro packet mem
    obtain ⟨envelope, same, isLeft⟩ := ok.packets packet mem
    exact ⟨envelope, same, left isLeft⟩
  · intro handling mem
    obtain ⟨session, quiet | ⟨call, envelope, isCall, isFrame, isLeft⟩⟩ := ok.origins handling mem
    · exact ⟨session, .inl quiet⟩
    · exact ⟨session, .inr ⟨call, envelope, isCall, isFrame, left isLeft⟩⟩
  · exact ok.once

section Perform

variable {i : Nat} {args : UnlockArgs} {hist : List UnlockEvent} {op : UnlockOp}
  {next : op.Res → UnlockProg} {answer : op.Res}

/-- The call after an operation; it waits for nothing. -/
def Net.perform (net : Net ι) (i : Nat) (call : ApiCall) : Net ι :=
  { net with calls := net.calls.set i call, waiting := Function.update net.waiting i none }

theorem get_set_self {call call' : ApiCall} (found : net.calls[i]? = some call) :
    (net.calls.set i call')[i]? = some call' := by
  obtain ⟨inside, -⟩ := List.getElem?_eq_some_iff.mp found
  exact List.getElem?_set_self inside

/-- A frame that has left has left. -/
theorem Net.Left.perform (found : net.calls[i]? = some ⟨args, hist, .op op next⟩) {call : Nat}
    {envelope : Dict} (left : net.Left call envelope) :
    (net.perform i ⟨args, ⟨op, answer⟩ :: hist, next answer⟩).Left call envelope := by
  by_cases same : call = i
  · subst same
    refine .inl ⟨⟨args, ⟨op, answer⟩ :: hist, next answer⟩, ?_⟩
    rcases left with ⟨call', code, timeout, answer', known, mem⟩ | ⟨future, sending, -, known, rfl⟩
    · obtain rfl := Option.some.inj (known.symm.trans found)
      exact ⟨code, timeout, answer', get_set_self found, List.mem_cons_of_mem _ mem⟩
    · -- it is the answer to that frame which the call was waiting for
      cases Option.some.inj (known.symm.trans found)
      exact ⟨sending.code, sending.timeout, answer, get_set_self found, List.mem_cons_self⟩
  · have others : (net.perform i ⟨args, ⟨op, answer⟩ :: hist, next answer⟩).calls[call]? =
        net.calls[call]? := List.getElem?_set_ne (Ne.symm same)
    have waits : (net.perform i ⟨args, ⟨op, answer⟩ :: hist, next answer⟩).waiting call =
        net.waiting call := Function.update_of_ne same _ _
    unfold Net.Left
    rw [others, waits]
    exact left

/-- An operation of a call. -/
theorem Net.Ok.perform (ok : net.Ok installation settings)
    (found : net.calls[i]? = some ⟨args, hist, .op op next⟩)
    (undenied : raisesDenial ⟨op, answer⟩ = false)
    (fresh : ∀ id, drawnId (⟨op, answer⟩ :: hist) = some id →
      drawnId hist = some id ∨ ∀ call ∈ net.calls, drawnId call.hist ≠ some id)
    (heard : ∀ {code : Text} {envelope ack : Dict} {timeout : Int},
      (⟨op, answer⟩ : UnlockEvent) = ⟨.sendCommand code envelope timeout, .ok ack⟩ →
      ∃ session object id, net.hub.objects[session]? = some object ∧ object.controllerCode = code ∧
        Hub.commandId? envelope = some id ∧ net.Heard installation settings session id ack) :
    (net.perform i ⟨args, ⟨op, answer⟩ :: hist, next answer⟩).Ok installation settings := by
  -- an identifier of the call that was not drawn by now belongs to nobody else
  have alone : ∀ {j : Nat} {call : ApiCall} {id : Uuid}, j ≠ i → net.calls[j]? = some call →
      drawnId (⟨op, answer⟩ :: hist) = some id → drawnId call.hist = some id → False := by
    intro j call id other known drawn drawn'
    rcases fresh id drawn with before | never
    · exact other (ok.fresh known found drawn' before)
    · exact never call (List.mem_of_getElem? known) drawn'
  constructor
  · exact ok.hub
  · intro j call known
    rcases get_set_cases known with ⟨rfl, rfl⟩ | ⟨-, old⟩
    · exact .more answer (ok.steps found)
    · exact ok.steps old
  · intro j call known
    rcases get_set_cases known with ⟨rfl, rfl⟩ | ⟨-, old⟩
    · rw [List.any_cons, undenied]
      exact ok.own found
    · exact ok.own old
  · intro j k call call' id known known' drawn drawn'
    rcases get_set_cases known with ⟨rfl, rfl⟩ | ⟨other, old⟩
    · rcases get_set_cases known' with ⟨rfl, -⟩ | ⟨other', old'⟩
      · rfl
      · exact (alone other' old' drawn drawn').elim
    · rcases get_set_cases known' with ⟨rfl, rfl⟩ | ⟨other', old'⟩
      · exact (alone other old drawn' drawn).elim
      · exact ok.fresh old old' drawn drawn'
  · intro j waiting isWaiting
    by_cases same : j = i
    · subst same
      simp [Net.perform] at isWaiting
    · rw [Net.perform] at isWaiting
      dsimp only at isWaiting
      rw [Function.update_of_ne same] at isWaiting
      obtain ⟨sending, future, object, known, rest⟩ := ok.waits isWaiting
      exact ⟨sending, future, object, (List.getElem?_set_ne (Ne.symm same)).trans known, rest⟩
  · exact ok.results
  · intro j call code envelope ack timeout known mem
    rcases get_set_cases known with ⟨rfl, rfl⟩ | ⟨-, old⟩
    · rcases List.mem_cons.mp mem with new | mem
      · exact heard new.symm
      · exact ok.answers found mem
    · exact ok.answers old mem
  · intro packet mem
    obtain ⟨envelope, same, left⟩ := ok.packets packet mem
    exact ⟨envelope, same, left.perform found⟩
  · intro handling mem
    obtain ⟨session, quiet | ⟨call, envelope, isCall, isFrame, left⟩⟩ := ok.origins handling mem
    · exact ⟨session, .inl quiet⟩
    · exact ⟨session, .inr ⟨call, envelope, isCall, isFrame, left.perform found⟩⟩
  · exact ok.once

end Perform

/-- A frame that has left is not affected by who else starts waiting. -/
theorem Net.Left.wait {waiting : Waiting} {i : Nat} (here : ∀ future, net.waiting i ≠ some ⟨future, true⟩)
    {flying : List Packet} {call : Nat} {envelope : Dict} (left : net.Left call envelope) :
    Net.Left { net with waiting := Function.update net.waiting i (some waiting), flying } call
      envelope := by
  rcases left with sent | ⟨future, sending, isWaiting, rest⟩
  · exact .inl sent
  · refine .inr ⟨future, sending, ?_, rest⟩
    by_cases same : call = i
    · subst same
      exact absurd isWaiting (here future)
    · exact (Function.update_of_ne same _ _).trans isWaiting

/-- A call starts to wait, or its frame leaves. -/
theorem Net.Ok.wait (ok : net.Ok installation settings) {i : Nat} {waiting : Waiting}
    (here : ∀ future, net.waiting i ≠ some ⟨future, true⟩) (waits : net.WaitsFor i waiting)
    {flying : List Packet}
    (packets : ∀ packet ∈ flying, packet ∈ net.flying ∨ ∃ envelope, packet.frame = frame envelope ∧
      Net.Left { net with waiting := Function.update net.waiting i (some waiting), flying }
        packet.call envelope)
    (once : (flying.map Packet.call ++ net.handled.filterMap Handling.call).Nodup) :
    Net.Ok installation settings
      { net with waiting := Function.update net.waiting i (some waiting), flying } where
  hub := ok.hub
  steps := ok.steps
  own := ok.own
  fresh := ok.fresh
  waits {j waiting'} isWaiting := by
    by_cases same : j = i
    · subst same
      obtain rfl : waiting = waiting' := by simpa using isWaiting
      exact waits
    · exact ok.waits (by simpa [same] using isWaiting)
  results := ok.results
  answers := ok.answers
  packets packet mem := by
    rcases packets packet mem with old | new
    · obtain ⟨envelope, isFrame, left⟩ := ok.packets packet old
      exact ⟨envelope, isFrame, left.wait here⟩
    · exact new
  origins handling mem := by
    obtain ⟨session, quiet | ⟨call, envelope, isCall, isFrame, left⟩⟩ := ok.origins handling mem
    · exact ⟨session, .inl quiet⟩
    · exact ⟨session, .inr ⟨call, envelope, isCall, isFrame, left.wait here⟩⟩
  once := once

/-! ## The boards -/

theorem Net.Ok.boards (ok : net.Ok installation settings) (boards : ι → Board) :
    Net.Ok installation settings { net with boards } :=
  ⟨ok.hub, ok.steps, ok.own, ok.fresh, ok.waits, ok.results, ok.answers, ok.packets, ok.origins,
    ok.once⟩

theorem Net.Ok.lose (ok : net.Ok installation settings) (k : Nat) :
    Net.Ok installation settings { net with flying := net.flying.eraseIdx k } where
  hub := ok.hub
  steps := ok.steps
  own := ok.own
  fresh := ok.fresh
  waits := ok.waits
  results := ok.results
  answers := ok.answers
  packets packet mem := ok.packets packet (List.mem_of_mem_eraseIdx mem)
  origins := ok.origins
  once := by
    refine ok.once.sublist (List.Sublist.append ?_ (List.Sublist.refl _))
    exact (List.eraseIdx_sublist _ _).map _

theorem Net.Said.append {session : Nat} {message : Json Bytes} (said : net.Said installation session message)
    (boards : ι → Board) (flying : List Packet) (more : List (Handling ι)) :
    Net.Said installation { net with boards, flying, handled := net.handled ++ more } session
      message := by
  obtain ⟨handling, mem, rest⟩ := said
  exact ⟨handling, List.mem_append_left _ mem, rest⟩

/-- A board handles an event. -/
theorem Net.Ok.handle [DecidableEq ι] (ok : net.Ok installation settings) {flying : List Packet}
    (fewer : flying ⊆ net.flying) {session : Nat} {board : ι} {clock : Clock} {event : SocketEvent}
    {call : Option Nat}
    (origin : net.Origin installation ⟨session, board, clock, net.boards board, event, call⟩)
    (once : (flying.map Packet.call ++
      (net.handled.filterMap Handling.call ++ call.toList)).Nodup) :
    (Net.handle installation { net with flying } session board clock event call).Ok installation
      settings where
  hub := ok.hub
  steps := ok.steps
  own := ok.own
  fresh := ok.fresh
  waits := ok.waits
  results found isResult := by
    obtain ⟨said, rest⟩ := ok.results found isResult
    exact ⟨said.append _ _ _, rest⟩
  answers found mem := by
    obtain ⟨session, object, id, known, isCode, isId, said, rest⟩ := ok.answers found mem
    exact ⟨session, object, id, known, isCode, isId, said.append _ _ _, rest⟩
  packets packet mem := ok.packets packet (fewer mem)
  origins handling mem := by
    rcases List.mem_append.mp mem with old | new
    · exact ok.origins handling old
    · rw [List.mem_singleton.mp new]
      exact origin
  once := by
    show (flying.map Packet.call ++ (net.handled ++ [_]).filterMap Handling.call).Nodup
    rw [List.filterMap_append]
    cases call <;> exact once

/-! ## Every state -/

/-- A new draw is nobody's, and every other operation leaves the draws alone. -/
theorem drawn_of_reply {choose : (op : UnlockOp) → op.Res} {op : UnlockOp} {r : op.Res}
    {hist : List UnlockEvent} (replied : net.reply choose op = some r) (id : Uuid)
    (drawn : drawnId (⟨op, r⟩ :: hist) = some id) :
    drawnId hist = some id ∨ ∀ call ∈ net.calls, drawnId call.hist ≠ some id := by
  cases op with
  | uuid4 =>
      simp only [Net.reply] at replied
      split at replied
      · cases replied
      · rename_i never
        obtain rfl := Option.some.inj replied
        obtain rfl : choose .uuid4 = id := Option.some.inj drawn
        refine .inr fun call mem same => never ?_
        exact List.any_eq_true.mpr ⟨call, mem, decide_eq_true same⟩
  | _ => exact .inl drawn

theorem undenied_of_reply {choose : (op : UnlockOp) → op.Res} {op : UnlockOp} {r : op.Res}
    (replied : net.reply choose op = some r) : raisesDenial ⟨op, r⟩ = false := by
  cases op
  case isOnline => rfl
  case uuid4 => rfl
  case sendCommand => cases replied
  all_goals
    simp only [Net.reply] at replied
    split at replied
    · cases replied
    · rename_i undenied
      obtain rfl := Option.some.inj replied
      simpa using undenied

/-- `send_command` raises errors of its own. -/
theorem undenied_of_delivery (code id : Text) (delivery : Delivery) {envelope : Dict} {timeout : Int} :
    raisesDenial ⟨.sendCommand code envelope timeout, sendCommandWith code id delivery⟩ = false := by
  cases delivery <;> rfl

theorem undenied_of_enqueue {sending : Sending} {error : PyError}
    (raised : net.hub.enqueue sending.code sending.envelope = .error error) :
    raisesDenial ⟨.sendCommand sending.code sending.envelope sending.timeout, .error error⟩ = false := by
  unfold Hub.enqueue at raised
  split at raised
  · obtain rfl := Except.error.inj raised
    rfl
  · split at raised
    · obtain rfl := Except.error.inj raised
      rfl
    · cases raised

/-- A call that is not in `send_command` waits for nothing. -/
theorem perform_of_idle {i : Nat} {call : ApiCall} (idle : net.waiting i = none) :
    net.perform i call = { net with calls := net.calls.set i call } := by
  have same : Function.update net.waiting i none = net.waiting := by
    rw [← idle]
    exact Function.update_eq_self i net.waiting
  unfold Net.perform
  rw [same]

theorem Net.Ok.idle (ok : net.Ok installation settings) {i : Nat} {call : ApiCall}
    (found : net.calls[i]? = some call) (other : ∀ sending : Sending, call ≠ sending.call) :
    net.waiting i = none := by
  cases waiting : net.waiting i with
  | none => rfl
  | some waits =>
      obtain ⟨sending, -, -, found', -⟩ := ok.waits waiting
      exact absurd (Option.some.inj (found.symm.trans found')) (other sending)

/-- What a call is told is what was heard for it. -/
theorem Net.Ok.heard_of_possible (ok : net.Ok installation settings) {i reference : Nat}
    {left : Bool} {sending : Sending} {future : Backend.Future} {delivery : Delivery} {ack : Dict}
    (found : net.calls[i]? = some sending.call) (waits : net.waiting i = some ⟨reference, left⟩)
    (known : net.hub.futures[reference]? = some future)
    (isPossible : possible left future.state delivery = true)
    (acked : sendCommandWith sending.code future.commandId delivery = .ok ack) :
    ∃ session object id, net.hub.objects[session]? = some object ∧
      object.controllerCode = sending.code ∧ Hub.commandId? sending.envelope = some id ∧
      net.Heard installation settings session id ack := by
  obtain ⟨sending', future', object, found', known', isId, isOpen, isCode⟩ := ok.waits waits
  obtain rfl : future = future' := Option.some.inj (known.symm.trans known')
  obtain rfl := Sending.call_inj (Option.some.inj (found'.symm.trans found))
  cases delivery <;> cases acked
  refine ⟨future.session, object, future.commandId, isOpen, ?_⟩
  simp only [possible] at isPossible
  split at isPossible
  · rename_i state
    simp only [Bool.and_eq_true, decide_eq_true_eq] at isPossible
    obtain ⟨-, rfl⟩ := isPossible
    exact ⟨isCode, isId, ok.results known state⟩
  · cases isPossible

/-- The frame of a call leaves. -/
theorem Net.Ok.transmit (ok : net.Ok installation settings) {i reference : Nat} {sending : Sending}
    {future : Backend.Future} (found : net.calls[i]? = some sending.call)
    (waits : net.waiting i = some ⟨reference, false⟩) :
    Net.Ok installation settings
      { net with
        waiting := Function.update net.waiting i (some ⟨reference, true⟩)
        flying := net.flying ++ [⟨i, future.session, frame sending.envelope⟩] } := by
  have here : ∀ future, net.waiting i ≠ some ⟨future, true⟩ := by
    intro future same
    rw [waits] at same
    cases same
  have waitsFor : net.WaitsFor i ⟨reference, true⟩ := by
    obtain ⟨sending', future', object, rest⟩ := ok.waits waits
    exact ⟨sending', future', object, rest⟩
  refine ok.wait here waitsFor ?_ ?_
  · intro packet mem
    rcases List.mem_append.mp mem with old | new
    · exact .inl old
    · refine .inr ⟨sending.envelope, ?_⟩
      rw [List.mem_singleton.mp new]
      exact ⟨rfl, .inr ⟨reference, sending, Function.update_self _ _ _, found, rfl⟩⟩
  · have absent : i ∉ net.senders := by
      intro mem
      obtain ⟨envelope, left⟩ := ok.mem_senders mem
      exact ok.not_left found here envelope left
    rw [List.map_append, List.append_assoc]
    refine (List.perm_middle.nodup_iff).mpr ?_
    exact List.nodup_cons.mpr ⟨absent, ok.once⟩

/-- A frame is delivered. -/
theorem Net.Ok.deliver [DecidableEq ι] (ok : net.Ok installation settings) {k : Nat} {clock : Clock}
    {packet : Packet} {object : Backend.Session ι} (flying : net.flying[k]? = some packet)
    (known : net.hub.objects[packet.session]? = some object) :
    (Net.handle installation { net with flying := net.flying.eraseIdx k } packet.session
      object.remote clock (.text packet.frame) (some packet.call)).Ok installation settings := by
  obtain ⟨inside, isPacket⟩ := List.getElem?_eq_some_iff.mp flying
  have taken : (packet :: net.flying.eraseIdx k).Perm net.flying := by
    have := List.getElem_cons_eraseIdx_perm inside
    rwa [isPacket] at this
  refine ok.handle (fun _ mem => List.mem_of_mem_eraseIdx mem) ?_ ?_
  · obtain ⟨envelope, isFrame, left⟩ := ok.packets packet (List.mem_of_getElem? flying)
    refine ⟨⟨object, known, rfl⟩, .inr ⟨packet.call, envelope, rfl, ?_, left⟩⟩
    show SocketEvent.text packet.frame = _
    rw [isFrame]
  · have moved : (net.flying.map Packet.call ++ net.handled.filterMap Handling.call).Perm
        ((net.flying.eraseIdx k).map Packet.call ++
          (net.handled.filterMap Handling.call ++ [packet.call])) := by
      refine ((taken.symm.map Packet.call).append_right _).trans ?_
      rw [List.map_cons, ← List.append_assoc]
      exact (List.perm_append_singleton _ _).symm
    exact moved.nodup_iff.mp ok.once

/-- **Every step keeps it.** -/
theorem Net.Ok.moves [DecidableEq ι] (ok : net.Ok installation settings) {net' : Net ι}
    {action : Action ι} (moves : net.Moves installation settings action net') :
    net'.Ok installation settings := by
  cases moves with
  | request args => exact ok.request args
  | @answer i choose args hist op next r found replied =>
      have idle : net.waiting i = none := by
        refine ok.idle found fun sending same => ?_
        cases same
        cases replied
      rw [← perform_of_idle idle]
      refine ok.perform found (undenied_of_reply replied) (drawn_of_reply replied) ?_
      intro code envelope ack timeout same
      cases same
      cases replied
  | @refuse i sending error found idle raised =>
      rw [← perform_of_idle idle]
      refine ok.perform found (undenied_of_enqueue raised) (fun id drawn => .inl drawn) ?_
      intro code envelope ack timeout same
      cases same
  | @enter i sending hub reference found idle entered =>
      have evolves := Backend.Hub.enqueue_evolves entered
      have moved := ok.hubStep evolves (ok.hub.enqueue entered) fun impossible => impossible.elim
      obtain ⟨session, id, isOnline, isId, rfl, rfl⟩ := Backend.Hub.enqueue_cases entered
      obtain ⟨object, isOpen, isCode⟩ := ok.hub.sessions isOnline
      obtain ⟨object', isOpen', -, code⟩ := evolves.objects isOpen
      refine moved.wait (fun future same => ?_) ?_ (fun packet mem => .inl mem) ok.once
      · exact absurd (idle.symm.trans same) (by simp)
      · exact ⟨sending, ⟨session, id, .pending⟩, object', found, List.getElem?_concat_length, isId,
          isOpen', code.trans isCode⟩
  | transmit found waits known => exact ok.transmit found waits
  | @conclude i sending reference left future delivery found waits known isPossible =>
      have moved := ok.hubStep (Backend.Hub.pop_evolves future.session future.commandId)
        (ok.hub.pop _ _) (fun impossible => impossible.elim)
      refine moved.perform found (undenied_of_delivery _ _ _) (fun id drawn => .inl drawn) ?_
      intro code envelope ack timeout same
      injection same with isOp isAnswer
      cases isOp
      obtain ⟨session, object, id, isOpen, isCode, rest⟩ :=
        ok.heard_of_possible found waits known isPossible isAnswer
      obtain ⟨object', isOpen', -, sameCode⟩ :=
        (Backend.Hub.pop_evolves future.session future.commandId).objects isOpen
      exact ⟨session, object', id, isOpen', sameCode.trans isCode, rest⟩
  | connect own =>
      exact ok.hubStep (Backend.Hub.register_evolves _ _) (ok.hub.register own)
        fun impossible => impossible.elim
  | disconnect known =>
      exact ok.hubStep (Backend.Hub.unregister_evolves _ _) (ok.hub.unregister _ _)
        fun impossible => impossible.elim
  | deliver flying known => exact ok.deliver flying known
  | lose k => exact ok.lose k
  | event known other =>
      refine ok.handle (fun _ mem => mem) ⟨⟨_, known, rfl⟩, .inl ⟨rfl, other⟩⟩ ?_
      rw [Option.toList_none, List.append_nil]
      exact ok.once
  | proceed board state => exact ok.boards _
  | receive said isAck =>
      refine ok.hubStep (Backend.Hub.resolve_evolves ok.hub _ _ _) (ok.hub.resolve _ _ _) ?_
      rintro session id message ⟨rfl, rfl, rfl⟩
      exact ⟨said, isAck, rfl⟩

/-- **Every reachable state.** -/
theorem Net.Reach.ok [DecidableEq ι] {guard : Net ι → Action ι → Bool}
    (reach : Net.Reach installation settings guard net) : net.Ok installation settings := by
  induction reach with
  | start boards => exact .start boards
  | step _ _ stepped ih => exact ih.moves (moves_of_step stepped)

end Preservation

end DoorsControl.System
