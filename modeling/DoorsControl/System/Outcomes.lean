import DoorsControl.System.Exchange
import DoorsControl.System.Isolation

/-!
# What a reported outcome says about the door

`docs/04-api.md` on the outcomes of an unlock: `opened` is "The relay energised", and
`failed` is "Nothing was opened". The first holds in every run. The second does not: the
call gives up after `command_ttl_seconds`, or when the session is replaced or ends, while
its frame is on its way or after the board has honoured it.

* `success_opened` — **a reported success is real**;
* `failure_unopened` — **a reported failure opened nothing**, if a call gives up only on
  frames that are lost or refused;
* `failure_opened` — a run in which it is not so.
-/

namespace DoorsControl.System

open Backend (ConfirmedRow Delivery Hub PyError Sends UnlockArgs UnlockEvent UnlockOp UnlockOutcome
  UnlockSettings commandEnvelope commandPayload drawnId frame)
open Firmware (Board Clock Effect Honoured Platform SocketEvent UnlockCommand)
open Signer (Dict)

variable {ι : Type}

/-- The parser finds the identifier of a command in its frame. -/
def ReadsIds (platform : Platform) : Prop :=
  ∀ (settings : UnlockSettings) (door : Backend.DoorRecord) (code : Text) (id : Uuid) (issuedAt : Int)
    (nonce signature : Bytes) (keyId : Json Text) (document : Json Bytes),
    platform.deserializeJson (frame (commandEnvelope
      (commandPayload settings door code id issuedAt nonce) signature keyId)) = some document →
    ((document.member? (ascii "payload")).getD .null).member? (ascii "command_id") =
      some (.str (utf8 (uuidText id)))

section Frames

variable {installation : Installation ι} {settings : UnlockSettings} {net : Net ι}

/-- Whose frame it is, and what it looks like. -/
theorem Net.Left.shape (ok : net.Ok installation settings) {i : Nat} {envelope : Dict}
    (left : net.Left i envelope) : ∃ (call : ApiCall) (code : Text) (id : Uuid),
      net.calls[i]? = some call ∧ Sends call.hist call.prog code envelope ∧
      drawnId call.hist = some id ∧ ∃ door issuedAt nonce signature keyId,
        envelope = commandEnvelope (commandPayload settings door code id issuedAt nonce) signature
          keyId := by
  have sends : ∃ (call : ApiCall) (code : Text), net.calls[i]? = some call ∧
      Sends call.hist call.prog code envelope := by
    rcases left with ⟨call, code, timeout, answer, found, mem⟩ | ⟨future, sending, -, found, rfl⟩
    · exact ⟨call, code, found, .inl ⟨timeout, answer, mem⟩⟩
    · exact ⟨sending.call, sending.code, found, .inr ⟨sending.timeout, sending.next, rfl⟩⟩
  obtain ⟨call, code, found, sends⟩ := sends
  have steps := ok.steps found
  obtain ⟨id, drawn, isId⟩ := Backend.drawn_of_sends steps sends
  refine ⟨call, code, id, found, sends, drawn, ?_⟩
  have allowed : ∃ before, Backend.SendAllowed settings call.req before code envelope := by
    rcases sends with ⟨timeout, answer, mem⟩ | ⟨timeout, next, isProg⟩
    · obtain ⟨later, before, shape⟩ := List.append_of_mem mem
      exact ⟨before, (Backend.unlock_sound settings call.req).past steps shape⟩
    · rw [isProg] at steps
      exact ⟨call.hist, ((Backend.unlock_sound settings call.req).along steps).1⟩
  obtain ⟨before, door, controller, payload, signature, keyId, -, rfl,
    ⟨id', issuedAt, nonce, rfl⟩, -, rfl, -⟩ := allowed
  have same : uuidText id' = uuidText id := Option.some.inj isId
  obtain rfl : id' = id := utf8_uuidText_inj (congrArg utf8 same)
  exact ⟨door, issuedAt, nonce, signature, keyId, rfl⟩

theorem cstr_uuidText (id : Uuid) : Firmware.cstr (utf8 (uuidText id)) = utf8 (uuidText id) :=
  (all_agreedChar.mp (all_agreed_of_plain (uuidText_plain id))).2.1

/-- A command that a board read from a frame is the command of that call. -/
theorem Net.Ok.call_of_read (ok : net.Ok installation settings) {platform : Platform}
    (readsIds : ReadsIds platform) {i j : Nat} {envelope : Dict} (left : net.Left j envelope)
    {document : Json Bytes} {command : UnlockCommand}
    (parsed : platform.deserializeJson (frame envelope) = some document)
    (read : Firmware.parseUnlockCommand ((document.member? (ascii "payload")).getD .null) =
      some command)
    {call : ApiCall} {id : Uuid} (found : net.calls[i]? = some call)
    (drawn : drawnId call.hist = some id) (isId : command.commandId = utf8 (uuidText id)) : j = i := by
  obtain ⟨call', code, id', found', -, drawn', door, issuedAt, nonce, signature, keyId, rfl⟩ :=
    left.shape ok
  have member := readsIds _ _ _ _ _ _ _ _ _ parsed
  have parsedId := Firmware.commandId_of_parse read
  rw [member, Firmware.asCString?, cstr_uuidText, Option.some.injEq, isId] at parsedId
  obtain rfl := utf8_uuidText_inj parsedId
  exact ok.fresh found' found drawn' drawn

/-- What an acknowledgement that was heard goes back to. -/
theorem Net.Heard.answered {session : Nat} {id : Text} {ack : Dict}
    (heard : net.Heard installation settings session id ack) :
    ∃ handling ∈ net.handled, ∃ payload document command, handling.session = session ∧
      handling.event = .text payload ∧
      (installation.platform handling.board).deserializeJson payload = some document ∧
      Firmware.stringOr document "type" = ascii "command" ∧
      Firmware.parseUnlockCommand ((document.member? (ascii "payload")).getD .null) = some command ∧
      Firmware.Answered (installation.platform handling.board) (installation.config handling.board)
        handling.clock handling.before handling.event command
        (Firmware.frameSignature (installation.platform handling.board) document) ∧
      .sendTXT (Json.obj ack).wire ∈ handling.effects installation ∧
      command.commandId = utf8 id := by
  obtain ⟨⟨handling, mem, isSession, sent⟩, isAck, rfl⟩ := heard
  have wireAck : (Json.obj ack).wire.member? (ascii "type") = some (.str (ascii "ack")) :=
    (Json.member?_wire_str (by decide)).mpr ⟨text "ack", isAck, utf8_chars (by decide)⟩
  obtain ⟨payload, document, command, isText, parsed, isCommand, read, answered⟩ :=
    Firmware.answered_of_ack sent wireAck
  obtain ⟨s, found, same⟩ := (Json.member?_wire_str (by decide)).mp (answered.reports sent).1
  refine ⟨handling, mem, payload, document, command, isSession, isText, parsed, isCommand, read,
    answered, sent, ?_⟩
  rw [Hub.ackId, found]
  exact same.symm

end Frames

/-! ## A reported success -/

section Success

variable (installation : Installation ι) (settings : UnlockSettings)

/-- A board of this controller found the signature of the command good and called
`relay.pulse` for it; and what it had read was the frame of the call. -/
def Net.Opened (net : Net ι) (code : Text) (envelope : Dict) (id : Uuid) : Prop :=
  ∃ handling ∈ net.handled, ∃ payload document command ms,
    (installation.config handling.board).controllerCode = utf8 code ∧
    handling.event = .text payload ∧
    (installation.platform handling.board).deserializeJson payload = some document ∧
    command.commandId = utf8 (uuidText id) ∧
    Honoured (installation.platform handling.board) (installation.config handling.board)
      handling.clock handling.before.link command
      (Firmware.frameSignature (installation.platform handling.board) document) ∧
    .pulse command ms ∈ handling.effects installation ∧
    (ReadsIds (installation.platform handling.board) → payload = frame envelope)

/-- The door that the call was for, the controller it is assigned to, and the command that
this controller has honoured. -/
def Net.Proves (net : Net ι) (call : ApiCall) (id : Uuid) : Prop :=
  ∃ door controller envelope timeout ack,
    ⟨.doorById call.req.doorId, .ok (some door)⟩ ∈ call.hist ∧ door.controller = some controller ∧
    ⟨.sendCommand controller.code envelope timeout, .ok ack⟩ ∈ call.hist ∧
    net.Opened installation controller.code envelope id

variable {installation settings} {net : Net ι}

/-- A success in any state. -/
theorem Net.Ok.proves (ok : net.Ok installation settings) {i : Nat} {call : ApiCall}
    {outcome : UnlockOutcome} (found : net.calls[i]? = some call)
    (returned : call.prog = .pure (.ok (some outcome))) :
    net.Proves installation call outcome.commandId := by
  have steps := ok.steps found
  rw [returned] at steps
  obtain ⟨drawn, -⟩ := Backend.reported_success steps
  obtain ⟨door, controller, payload, signature, keyId, ack, checks, -, sent, opened⟩ :=
    Backend.unlock_delivered steps
  refine ⟨door, controller, _, _, ack, checks.found, checks.joined, sent, ?_⟩
  -- the answer came in on a session of that controller, for this command
  obtain ⟨session, object, name, isOpen, isCode, isName, heard⟩ := ok.answers found sent
  obtain ⟨id, drawn', isId⟩ := Backend.drawn_of_sends steps (.inl ⟨_, _, sent⟩)
  obtain rfl : outcome.commandId = id := Option.some.inj (drawn.symm.trans drawn')
  obtain rfl : name = uuidText outcome.commandId := Option.some.inj (isName.symm.trans isId)
  obtain ⟨handling, mem, text, document, command, isSession, isText, parsed, isCommand, read,
    answered, said, named⟩ := heard.answered
  -- the board that sent it is the one at the end of that session
  obtain ⟨⟨object', isOpen', isBoard⟩, origin⟩ := ok.origins handling mem
  rw [isSession] at isOpen'
  obtain rfl : object = object' := Option.some.inj (isOpen.symm.trans isOpen')
  have own : (installation.config handling.board).controllerCode = utf8 controller.code := by
    rw [← isBoard, ← isCode]
    exact (ok.hub.authentic isOpen).symm
  -- it says `opened`, so nothing was refused
  have accepted := (answered.reports said).2.mp ((Backend.ackOpened_iff ack).mp opened)
  obtain ⟨ms, pulsed⟩ : ∃ ms, .pulse command ms ∈ handling.effects installation := by
    rcases answered with ⟨why, refused, -⟩ | ⟨-, effects⟩
    · rw [accepted] at refused
      cases refused
    · unfold Handling.effects
      rw [effects]
      exact ⟨_, List.mem_cons_self⟩
  refine ⟨handling, mem, text, document, command, ms, own, isText, parsed, named,
    Firmware.honoured_of_refusal accepted, pulsed, fun readsIds => ?_⟩
  -- the frame that bears this identifier is the one of this call
  rcases origin with ⟨-, quiet⟩ | ⟨j, envelope, -, isFrame, left⟩
  · rw [isText, System.isCommand, parsed] at quiet
    exact absurd isCommand (of_decide_eq_false quiet)
  · rw [isText, SocketEvent.text.injEq] at isFrame
    subst isFrame
    obtain rfl := ok.call_of_read readsIds left parsed read found drawn named
    obtain ⟨call', code, -, found', sends, -⟩ := left.shape ok
    obtain rfl : call = call' := Option.some.inj (found.symm.trans found')
    obtain ⟨-, same⟩ := Backend.sends_unique (ok.steps found) sends (.inl ⟨_, _, sent⟩)
    rw [same]

/-- A step of a call is no step of a board. -/
theorem Net.Moves.handled_or_calls [DecidableEq ι] {net' : Net ι} {action : Action ι}
    (moves : net.Moves installation settings action net') :
    net'.handled = net.handled ∨ net'.calls = net.calls := by
  cases moves with
  | deliver => exact .inr rfl
  | event => exact .inr rfl
  | _ => exact .inl rfl

end Success

/-- No condition on the steps. -/
def anyStep (_ : Net ι) (_ : Action ι) : Bool := true

/-- **A reported success is real.** In every run, when a call has returned its outcome,
then already before that step a board of the controller that the door is assigned to had
verified the signature of the command and called `relay.pulse` for it, and the row that
confirms the command is appended. -/
theorem success_opened [DecidableEq ι] (installation : Installation ι) (settings : UnlockSettings)
    (net net' : Net ι) (action : Action ι) (reach : Net.Reach installation settings anyStep net)
    (stepped : net.step installation settings action = some net') (i : Nat) (call : ApiCall)
    (outcome : UnlockOutcome) (found : net'.calls[i]? = some call)
    (returned : call.prog = .pure (.ok (some outcome))) :
    net.Proves installation call outcome.commandId ∧ ConfirmedRow call.hist outcome.commandId := by
  have ok := reach.ok
  have moves := moves_of_step stepped
  have ok' := ok.moves moves
  have steps := ok'.steps found
  rw [returned] at steps
  refine ⟨?_, (Backend.reported_success steps).2⟩
  rcases moves.handled_or_calls with sameLog | sameCalls
  · obtain ⟨door, controller, envelope, timeout, ack, isDoor, isController, sent, opened⟩ :=
      ok'.proves found returned
    refine ⟨door, controller, envelope, timeout, ack, isDoor, isController, sent, ?_⟩
    unfold Net.Opened at opened
    rw [sameLog] at opened
    exact opened
  · rw [sameCalls] at found
    exact ok.proves found returned

/-! ## A reported failure -/

section Failure

variable (installation : Installation ι)

/-- The checks of the board did not let the command through. -/
def Handling.refused (handling : Handling ι) : Bool :=
  match Firmware.offered (installation.platform handling.board)
      (installation.config handling.board) handling.clock handling.event with
  | none => true
  | some command => handling.before.link.commandAlreadySeen command.commandId

/-- The frame of a call is not on its way, and every board that has handled it refused it. -/
def Net.gone (net : Net ι) (i : Nat) : Bool :=
  (net.flying.all fun packet => packet.call ≠ i) &&
    net.handled.all fun handling => handling.call ≠ some i || handling.refused installation

/-- A call gives up only on a frame that is gone: when `session.send` or the waiting times
out, and when its session is replaced or ends. -/
def gaveUpOnGone (net : Net ι) : Action ι → Bool
  | .conclude i .sendTimedOut => net.gone installation i
  | .conclude i .unanswered => net.gone installation i
  | .conclude i (.dropped _) => net.gone installation i
  | _ => true

/-- `relay.pulse` was called for this command. -/
def Net.PulsedFor (net : Net ι) (id : Uuid) : Prop :=
  ∃ handling ∈ net.handled, ∃ command ms, .pulse command ms ∈ handling.effects installation ∧
    command.commandId = utf8 (uuidText id)

/-- Every frame that a call has given up on, or was told is refused, is gone. -/
def Net.Spent (net : Net ι) : Prop :=
  ∀ {i : Nat} {call : ApiCall} {code : Text} {envelope : Dict} {timeout : Int}
    {answer : Except PyError Dict}, net.calls[i]? = some call →
    ⟨.sendCommand code envelope timeout, answer⟩ ∈ call.hist → Backend.unopened answer = true →
    net.gone installation i = true

variable {installation} {settings : UnlockSettings} {net : Net ι}

theorem gone_iff {i : Nat} : net.gone installation i = true ↔
    (∀ packet ∈ net.flying, packet.call ≠ i) ∧
      ∀ handling ∈ net.handled, handling.call = some i → handling.refused installation = true := by
  simp only [Net.gone, Bool.and_eq_true, List.all_eq_true, decide_eq_true_eq, Bool.or_eq_true,
    ne_eq, Decidable.imp_iff_not_or]

/-- A frame that never left is gone. -/
theorem gone_of_absent {i : Nat} (absent : i ∉ net.senders) : net.gone installation i = true := by
  refine gone_iff.mpr ⟨fun packet mem same => absent ?_, fun handling mem same => absurd ?_ absent⟩
  · exact List.mem_append_left _ (List.mem_map.mpr ⟨packet, mem, same⟩)
  · exact List.mem_append_right _ (List.mem_filterMap.mpr ⟨handling, mem, same⟩)

/-- A pulse in the effects is what `pulsed` finds. -/
theorem pulsed_of_mem {effects : List Effect} {command : UnlockCommand} {ms : UInt32}
    (mem : .pulse command ms ∈ effects) : Firmware.pulsed effects ≠ none := by
  intro none
  rw [Firmware.pulsed, List.findSome?_eq_none_iff] at none
  cases none _ mem

/-- A command that was refused has not pulsed the relay, and the other way round. -/
theorem handling_refused_iff (handling : Handling ι) : handling.refused installation = true ↔
    Firmware.pulsed (handling.effects installation) = none := by
  unfold Handling.refused Handling.effects
  rcases Firmware.handleEvent_cases (installation.platform handling.board)
    (installation.config handling.board) handling.clock handling.before handling.event with
    ⟨command, isOffered, unseen, isPulsed, -⟩ | ⟨seen, notPulsed, -⟩
  · rw [isOffered, isPulsed]
    simp [unseen]
  · rw [notPulsed]
    refine iff_of_true ?_ rfl
    split
    · rfl
    · rename_i isOffered
      exact seen _ isOffered

/-- Entries that map to one value are one entry. -/
theorem eq_of_filterMap_nodup {α β : Type} {f : α → Option β} {l : List α}
    (nodup : (l.filterMap f).Nodup) {a b : α} {x : β} (memA : a ∈ l) (memB : b ∈ l)
    (isA : f a = some x) (isB : f b = some x) : a = b := by
  induction l with
  | nil => cases memA
  | cons head tail ih =>
      have inside : ∀ {c : α}, c ∈ tail → f c = some x → f head = some x → False := by
        intro c mem isC isHead
        rw [List.filterMap_cons_some isHead, List.nodup_cons] at nodup
        exact nodup.1 (List.mem_filterMap.mpr ⟨c, mem, isC⟩)
      have rest : (tail.filterMap f).Nodup := by
        refine nodup.sublist ?_
        exact (List.sublist_cons_self head tail).filterMap f
      rcases List.mem_cons.mp memA with rfl | inA
      · rcases List.mem_cons.mp memB with rfl | inB
        · rfl
        · exact (inside inB isB isA).elim
      · rcases List.mem_cons.mp memB with rfl | inB
        · exact (inside inA isA isB).elim
        · exact ih rest inA inB

/-- A frame that a board says it refused is gone. -/
theorem Net.Ok.gone_of_refusal (ok : net.Ok installation settings)
    (readsIds : ∀ board, ReadsIds (installation.platform board)) {i : Nat} {sending : Sending}
    (found : net.calls[i]? = some sending.call) {session : Nat} {name : Text} {ack : Dict}
    (isName : Hub.commandId? sending.envelope = some name)
    (heard : net.Heard installation settings session name ack)
    (unopened : Backend.ackOpened ack = false) : net.gone installation i = true := by
  obtain ⟨id, drawn, isId⟩ :=
    Backend.drawn_of_sends (ok.steps found) (.inr ⟨sending.timeout, sending.next, rfl⟩)
  obtain rfl : name = uuidText id := Option.some.inj (isName.symm.trans isId)
  obtain ⟨handling, mem, payload, document, command, -, isText, parsed, isCommand, read, answered,
    said, named⟩ := heard.answered
  -- it was the frame of this call
  have isCall : handling.call = some i := by
    rcases (ok.origins handling mem).2 with ⟨-, quiet⟩ | ⟨j, envelope, isCall, isFrame, left⟩
    · rw [isText, System.isCommand, parsed] at quiet
      exact absurd isCommand (of_decide_eq_false quiet)
    · rw [isText, SocketEvent.text.injEq] at isFrame
      subst isFrame
      rw [isCall, ok.call_of_read (readsIds _) left parsed read found drawn named]
  have isRefused : handling.refused installation = true := by
    have opened := (answered.reports said).2
    rw [← Backend.ackOpened_iff, unopened] at opened
    rw [handling_refused_iff]
    rcases answered with ⟨why, -, effects⟩ | ⟨accepted, -⟩
    · unfold Handling.effects
      rw [effects]
      rfl
    · exact absurd (opened.mpr accepted) Bool.false_ne_true
  -- and there is no other copy of it
  obtain ⟨-, nodup, apart⟩ := List.nodup_append.mp ok.once
  refine gone_iff.mpr ⟨fun packet flying same => ?_, fun other mem' isCall' => ?_⟩
  · exact apart _ (List.mem_map.mpr ⟨packet, flying, same⟩) _
      (List.mem_filterMap.mpr ⟨handling, mem, isCall⟩) rfl
  · rw [eq_of_filterMap_nodup nodup mem' mem isCall' isCall]
    exact isRefused

/-- The frame is gone after a step of the boards or of another call. -/
theorem gone_of_fewer {net' : Net ι} {i : Nat} (gone : net.gone installation i = true)
    (flying : ∀ packet ∈ net'.flying, packet ∈ net.flying ∨ packet.call ≠ i)
    (handled : ∀ handling ∈ net'.handled, handling ∈ net.handled ∨ handling.call ≠ some i) :
    net'.gone installation i = true := by
  obtain ⟨notFlying, refused⟩ := gone_iff.mp gone
  refine gone_iff.mpr ⟨fun packet mem => ?_, fun handling mem isCall => ?_⟩
  · rcases flying packet mem with old | other
    · exact notFlying packet old
    · exact other
  · rcases handled handling mem with old | other
    · exact refused handling old isCall
    · exact absurd isCall other

/-- A call that is about to send has had no answer yet. -/
theorem Net.Ok.unanswered (ok : net.Ok installation settings) {i : Nat} {sending : Sending}
    (found : net.calls[i]? = some sending.call) {code : Text} {envelope : Dict} {timeout : Int}
    {answer : Except PyError Dict} :
    ⟨.sendCommand code envelope timeout, answer⟩ ∉ sending.hist := by
  intro mem
  have unsent := Backend.unsent_of_sending (ok.steps found) rfl
  rw [List.any_eq_false] at unsent
  exact unsent _ mem rfl

/-- What has to be said of a call that gets an answer. -/
theorem Net.Spent.answered (ok : net.Ok installation settings) (spent : net.Spent installation)
    {i : Nat} {sending : Sending} (found : net.calls[i]? = some sending.call)
    {answer : Except PyError Dict} {waiting : Nat → Option Waiting} {hub : Hub ι}
    (gone : Backend.unopened answer = true → net.gone installation i = true) :
    Net.Spent installation
      { net with calls := net.calls.set i (sending.answered answer), waiting, hub } := by
  intro j call code envelope timeout answer' known mem isUnopened
  rcases Kit.Pool.get_set_cases known with ⟨rfl, rfl⟩ | ⟨-, old⟩
  · rcases List.mem_cons.mp mem with new | mem
    · injection new with isOp isAnswer
      cases isOp
      obtain rfl : answer' = answer := isAnswer
      exact gone isUnopened
    · exact absurd mem (ok.unanswered found)
  · exact spent old mem isUnopened

/-- **Every step keeps it**, if a call gives up only on what is gone. -/
theorem Net.Spent.moves [DecidableEq ι] (ok : net.Ok installation settings)
    (spent : net.Spent installation)
    (readsIds : ∀ board, ReadsIds (installation.platform board)) {net' : Net ι} {action : Action ι}
    (guarded : gaveUpOnGone installation net action = true)
    (moves : net.Moves installation settings action net') : net'.Spent installation := by
  cases moves with
  | request args =>
      intro i call code envelope timeout answer found mem isUnopened
      rcases Kit.Pool.get_append_cases found with old | rfl
      · exact spent old mem isUnopened
      · cases mem
  | @answer i choose args hist op next r found replied =>
      intro j call code envelope timeout answer known mem isUnopened
      rcases Kit.Pool.get_set_cases known with ⟨rfl, rfl⟩ | ⟨-, old⟩
      · rcases List.mem_cons.mp mem with new | mem
        · cases new
          cases replied
        · exact spent found mem isUnopened
      · exact spent old mem isUnopened
  | @refuse i sending error found idle raised =>
      -- nothing has left
      refine Net.Spent.answered ok spent found fun _ => gone_of_absent fun mem => ?_
      obtain ⟨envelope, left⟩ := ok.mem_senders mem
      refine ok.not_left found (fun future same => ?_) envelope left
      rw [idle] at same
      cases same
  | enter => exact spent
  | @transmit i sending reference future found waits known =>
      intro j call code envelope timeout answer known' mem isUnopened
      refine gone_of_fewer (spent known' mem isUnopened) (fun packet inside => ?_) fun _ => .inl
      rcases List.mem_append.mp inside with old | new
      · exact .inl old
      · -- the call whose frame leaves has no answer yet
        refine .inr fun same => ?_
        rw [List.mem_singleton.mp new] at same
        obtain rfl : i = j := same
        obtain rfl : call = sending.call := Option.some.inj (known'.symm.trans found)
        exact ok.unanswered found mem
  | @conclude i sending reference left future delivery found waits known isPossible =>
      refine Net.Spent.answered ok spent found fun isUnopened => ?_
      cases delivery with
      | offline => cases isPossible
      | sendRaised name => cases isUnopened
      | sendTimedOut => exact guarded
      | unanswered => exact guarded
      | dropped message => exact guarded
      | acked ack =>
          obtain ⟨session, object, name, -, -, isName, heard⟩ :=
            ok.heard_of_possible found waits known isPossible rfl
          refine ok.gone_of_refusal readsIds found isName heard ?_
          have unopened : (!Backend.ackOpened ack) = true := isUnopened
          simpa using unopened
  | connect => exact spent
  | disconnect => exact spent
  | @deliver k clock packet object flying known =>
      intro j call code envelope timeout answer known' mem isUnopened
      have gone := spent known' mem isUnopened
      refine gone_of_fewer gone (fun _ inside => .inl (List.mem_of_mem_eraseIdx inside)) ?_
      intro handling inside
      rcases List.mem_append.mp inside with old | new
      · exact .inl old
      · refine .inr fun same => ?_
        rw [List.mem_singleton.mp new] at same
        exact (gone_iff.mp gone).1 packet (List.mem_of_getElem? flying) (Option.some.inj same)
  | lose k =>
      intro j call code envelope timeout answer known mem isUnopened
      exact gone_of_fewer (spent known mem isUnopened)
        (fun _ inside => .inl (List.mem_of_mem_eraseIdx inside)) fun _ => .inl
  | event known other =>
      intro j call code envelope timeout answer known' mem isUnopened
      refine gone_of_fewer (spent known' mem isUnopened) (fun _ => .inl) ?_
      intro handling inside
      rcases List.mem_append.mp inside with old | new
      · exact .inl old
      · refine .inr ?_
        rw [List.mem_singleton.mp new]
        simp
  | proceed => exact spent
  | receive => exact spent

theorem Net.Reach.spent [DecidableEq ι]
    (readsIds : ∀ board, ReadsIds (installation.platform board))
    (reach : Net.Reach installation settings (gaveUpOnGone installation) net) :
    net.Spent installation := by
  induction reach with
  | start boards =>
      intro i call code envelope timeout answer found
      simp [Net.start] at found
  | step before guarded stepped ih => exact ih.moves before.ok readsIds guarded (moves_of_step stepped)

/-- The relay is pulsed for the frame of a call, and the board did not refuse it. -/
theorem Net.Ok.call_of_pulse (ok : net.Ok installation settings)
    (readsIds : ∀ board, ReadsIds (installation.platform board)) {handling : Handling ι}
    (mem : handling ∈ net.handled) {command : UnlockCommand} {ms : UInt32}
    (pulsed : .pulse command ms ∈ handling.effects installation) {i : Nat} {call : ApiCall} {id : Uuid}
    (found : net.calls[i]? = some call) (drawn : drawnId call.hist = some id)
    (isId : command.commandId = utf8 (uuidText id)) :
    handling.call = some i ∧ handling.refused installation = false ∧
      ∃ envelope, net.Left i envelope := by
  have accepted : handling.refused installation = false := by
    rw [Bool.eq_false_iff, ne_eq, handling_refused_iff]
    exact pulsed_of_mem pulsed
  obtain ⟨payload, document, isText, parsed, read, -⟩ := Firmware.pulse_of_handleEvent pulsed
  rcases (ok.origins handling mem).2 with ⟨-, quiet⟩ | ⟨j, envelope, isCall, isFrame, left⟩
  · -- any other frame leaves the relay alone
    rw [isText, System.isCommand, parsed] at quiet
    have notPulsed : Firmware.pulsed (handling.effects installation) = none := by
      unfold Handling.effects
      rw [isText]
      exact (Firmware.handleText_other parsed (of_decide_eq_false quiet)).1
    exact absurd notPulsed (pulsed_of_mem pulsed)
  · rw [isText, SocketEvent.text.injEq] at isFrame
    subst isFrame
    obtain rfl := ok.call_of_read (readsIds _) left parsed read found drawn isId
    exact ⟨isCall, accepted, envelope, left⟩

end Failure

/-- **A reported failure opened nothing**, in every run in which calls give up only on
frames that are gone: when a call has ended in `UnlockDenied(FAILED)`, `relay.pulse` was
not called for its command, and in no later state it will have been. -/
theorem failure_unopened [DecidableEq ι] (installation : Installation ι) (settings : UnlockSettings)
    (readsIds : ∀ board, ReadsIds (installation.platform board)) (net : Net ι)
    (reach : Net.Reach installation settings (gaveUpOnGone installation) net) (i : Nat)
    (call : ApiCall) (reason : Text) (found : net.calls[i]? = some call)
    (failed : call.prog = .pure (.error (.unlockDenied .failed reason))) (id : Uuid)
    (drawn : drawnId call.hist = some id) : ¬ net.PulsedFor installation id := by
  rintro ⟨handling, mem, command, ms, pulsed, isId⟩
  have ok := reach.ok
  obtain ⟨isCall, accepted, envelope, left⟩ := ok.call_of_pulse readsIds mem pulsed found drawn isId
  rcases left with ⟨call', code, timeout, answer, found', sent⟩ | ⟨future, sending, -, found', -⟩
  · obtain rfl : call' = call := Option.some.inj (found'.symm.trans found)
    have steps := ok.steps found
    rw [failed] at steps
    have isUnopened := Backend.reported_failure steps (ok.own found) sent
    have gone := reach.spent readsIds found sent isUnopened
    rw [(gone_iff.mp gone).2 handling mem isCall] at accepted
    cases accepted
  · -- a call that has ended does not wait
    obtain rfl : call = sending.call := Option.some.inj (found.symm.trans found')
    cases failed

/-! ## One board and one call -/

section Sample

/-- A frame begins with the identifier. -/
def frameOpening : Text :=
  codePoint '\x7b' :: (Backend.jsonString (text "type") ++ codePoint ':' ::
    (Backend.jsonString (text "command") ++ codePoint ',' :: (Backend.jsonString (text "payload") ++
      codePoint ':' :: codePoint '\x7b' :: (Backend.jsonString (text "command_id") ++
        [codePoint ':', codePoint '"']))))

theorem escapeAscii_plain {c : CodePoint} (plain : isPlainChar c = true) :
    Backend.escapeAscii c = [c] := by
  simp only [isPlainChar, Bool.and_eq_true, decide_eq_true_eq] at plain
  obtain ⟨⟨⟨low, high⟩, quote⟩, backslash⟩ := plain
  unfold Backend.escapeAscii
  rw [if_neg quote, if_neg backslash, if_neg (by omega), if_neg (by omega), if_neg (by omega),
    if_neg (by omega), if_neg (by omega), if_pos (by omega)]

theorem frame_eq (settings : UnlockSettings) (door : Backend.DoorRecord) (code : Text) (id : Uuid)
    (issuedAt : Int) (nonce signature : Bytes) (keyId : Json Text) : ∃ rest,
    frame (commandEnvelope (commandPayload settings door code id issuedAt nonce) signature keyId) =
      utf8 frameOpening ++ (utf8 (uuidText id) ++ rest) := by
  have escaped : (uuidText id).flatMap Backend.escapeAscii = uuidText id := by
    have plain := List.all_eq_true.mp (uuidText_plain id)
    rw [List.flatMap_congr fun c mem => escapeAscii_plain (plain c mem), List.flatMap_singleton']
  have shape : ∃ rest, Backend.jsonDumps (.obj (commandEnvelope
      (commandPayload settings door code id issuedAt nonce) signature keyId)) =
        frameOpening ++ ((uuidText id).flatMap Backend.escapeAscii ++ rest) := by
    have quoted : Backend.jsonString (uuidText id) =
        codePoint '"' :: ((uuidText id).flatMap Backend.escapeAscii ++ [codePoint '"']) := rfl
    simp only [commandEnvelope, commandPayload, Backend.jsonDumps, Backend.jsonMembers,
      Signer.joinComma, frameOpening, quoted, List.append_assoc, List.cons_append, List.nil_append]
    exact ⟨_, rfl⟩
  obtain ⟨rest, shape⟩ := shape
  refine ⟨utf8 rest, ?_⟩
  rw [frame, shape, escaped, utf8_append, utf8_append]

/-- No two commands have the same frame. -/
theorem frame_id_inj {settings settings' : UnlockSettings} {door door' : Backend.DoorRecord}
    {code code' : Text} {id id' : Uuid} {issuedAt issuedAt' : Int}
    {nonce nonce' signature signature' : Bytes} {keyId keyId' : Json Text}
    (same : frame (commandEnvelope (commandPayload settings door code id issuedAt nonce) signature
      keyId) = frame (commandEnvelope (commandPayload settings' door' code' id' issuedAt' nonce')
      signature' keyId')) : id = id' := by
  have length : ∀ id : Uuid, (utf8 (uuidText id)).length = 36 := by
    intro id
    rw [uuidText, utf8_chars (uuidChars_ascii id), asciiBytes, List.length_map,
      ← length_uuidText id, uuidText, chars, List.length_map]
  obtain ⟨rest, shape⟩ := frame_eq settings door code id issuedAt nonce signature keyId
  obtain ⟨rest', shape'⟩ := frame_eq settings' door' code' id' issuedAt' nonce' signature' keyId'
  rw [shape, shape'] at same
  have ids := List.append_cancel_left same
  exact utf8_uuidText_inj (List.append_inj ids (by rw [length, length])).1

/-- The sample parser finds the identifier of the one frame it knows. -/
theorem lab_readsIds (second : Bool) : ReadsIds (samplePlatform (labPayload second)) := by
  intro settings door code id issuedAt nonce signature keyId document parsed
  simp only [samplePlatform] at parsed
  split at parsed
  · rename_i same
    obtain rfl := frame_id_inj same
    obtain rfl := Option.some.inj parsed
    rfl
  · cases parsed

/-- The call for the first door, as far as the frame leaves. -/
def labSends : List (Action Unit) :=
  [.connect () (text "ctrl-01"), .request (labArgs false)] ++
    List.replicate 11 (.answer 0 (labOracle false)) ++ [.send 0, .transmit 0]

/-- What comes after that. -/
def labNet (ok : Net Unit → Action Unit → Bool) (more : List (Action Unit)) : Option (Net Unit) :=
  (Net.start fun _ => sampleBoard).run (sampleInstallation (labPayload false)) sampleSettings ok
    (labSends ++ more)

theorem labNet_reach {ok : Net Unit → Action Unit → Bool} {more : List (Action Unit)}
    {P : Net Unit → Bool} (h : (labNet ok more).any P = true) :
    ∃ net, Net.Reach (sampleInstallation (labPayload false)) sampleSettings ok net ∧ P net = true := by
  obtain ⟨net, ran, holds⟩ := (Option.any_eq_true _ _).mp h
  exact ⟨net, reach_of_run ran (.start _), holds⟩

/-- The call failed, under the identifier that was drawn for it. -/
def isFailed : ApiCall → Bool
  | ⟨_, hist, .pure (.error (.unlockDenied .failed _))⟩ =>
      drawnId hist = some 0x123e4567e89b12d3a456426614174000
  | _ => false

theorem failed_of_isFailed {call : ApiCall} (h : isFailed call = true) :
    (∃ reason, call.prog = .pure (.error (.unlockDenied .failed reason))) ∧
      drawnId call.hist = some 0x123e4567e89b12d3a456426614174000 := by
  unfold isFailed at h
  split at h
  · exact ⟨⟨_, rfl⟩, of_decide_eq_true h⟩
  · cases h

/-- `relay.pulse` was called for that command. -/
def labPulsed (net : Net Unit) : Bool :=
  net.handled.any fun handling =>
    (handling.effects (sampleInstallation (labPayload false))).any fun
      | .pulse command _ => command.commandId = utf8 (uuidText 0x123e4567e89b12d3a456426614174000)
      | .sendTXT _ => false

theorem pulsedFor_of_labPulsed {net : Net Unit} (h : labPulsed net = true) :
    net.PulsedFor (sampleInstallation (labPayload false)) 0x123e4567e89b12d3a456426614174000 := by
  obtain ⟨handling, mem, h⟩ := List.any_eq_true.mp h
  obtain ⟨effect, inside, h⟩ := List.any_eq_true.mp h
  cases effect with
  | pulse command ms => exact ⟨handling, mem, command, ms, inside, of_decide_eq_true h⟩
  | sendTXT message => cases h

end Sample

/-- The frame is delivered a second after it was signed, and the board opens. The
acknowledgement is on its way when the waiting times out, and the call ends in
`UnlockDenied(FAILED)`. -/
theorem failure_opened : ∃ (net : Net Unit) (call : ApiCall) (reason : Text) (id : Uuid),
    Net.Reach (sampleInstallation (labPayload false)) sampleSettings anyStep net ∧
    net.calls[0]? = some call ∧ call.prog = .pure (.error (.unlockDenied .failed reason)) ∧
    drawnId call.hist = some id ∧
    net.PulsedFor (sampleInstallation (labPayload false)) id := by
  have ran : (labNet anyStep [.deliver 0 labClock, .conclude 0 .unanswered,
      .answer 0 (labOracle false)]).any
        (fun net => net.calls[0]?.any isFailed && labPulsed net) = true := by
    decide +kernel
  obtain ⟨net, reach, holds⟩ := labNet_reach ran
  rw [Bool.and_eq_true] at holds
  obtain ⟨call, found, isFailed⟩ := (Option.any_eq_true _ _).mp holds.1
  obtain ⟨⟨reason, failed⟩, drawn⟩ := failed_of_isFailed isFailed
  exact ⟨net, call, reason, _, reach, found, failed, drawn, pulsedFor_of_labPulsed holds.2⟩

/-- The frame arrives when the command has expired: the board refuses it, its
acknowledgement is lost, and the call times out. -/
theorem failure_unopened_expired : ∃ (net : Net Unit) (call : ApiCall),
    net.calls[0]? = some call ∧ isFailed call = true ∧ net.handled.length = 1 ∧
    ¬ net.PulsedFor (sampleInstallation (labPayload false)) 0x123e4567e89b12d3a456426614174000 := by
  have ran : (labNet (gaveUpOnGone (sampleInstallation (labPayload false)))
      [.deliver 0 ⟨1750000100, 0⟩, .conclude 0 .unanswered, .answer 0 (labOracle false)]).any
        (fun net => net.calls[0]?.any isFailed && net.handled.length = 1) = true := by
    decide +kernel
  obtain ⟨net, reach, holds⟩ := labNet_reach ran
  rw [Bool.and_eq_true] at holds
  obtain ⟨call, found, isFailed⟩ := (Option.any_eq_true _ _).mp holds.1
  obtain ⟨⟨reason, failed⟩, drawn⟩ := failed_of_isFailed isFailed
  have readsIds : ∀ board, ReadsIds ((sampleInstallation (labPayload false)).platform board) :=
    fun _ => lab_readsIds false
  have unopened := failure_unopened (sampleInstallation (labPayload false)) sampleSettings readsIds
    net reach 0 call reason found failed 0x123e4567e89b12d3a456426614174000 drawn
  exact ⟨net, call, found, isFailed, of_decide_eq_true holds.2, unopened⟩

/-- The acknowledgement arrives in time. -/
theorem success_opened_lab : ∃ (net : Net Unit) (call : ApiCall) (id : Uuid),
    net.handled.length = 1 ∧ net.Proves (sampleInstallation (labPayload false)) call id ∧
    ConfirmedRow call.hist id := by
  have ran : (labNet anyStep [.deliver 0 labClock, .receive 0 labAck, .conclude 0 (.acked labAck)]).any
      (fun net => net.handled.length = 1 &&
        (net.step (sampleInstallation (labPayload false)) sampleSettings
          (.answer 0 (labOracle false))).any fun net' =>
            net'.calls[0]?.any fun call => call.result.any succeeds) = true := by
    decide +kernel
  obtain ⟨net, reach, holds⟩ := labNet_reach ran
  rw [Bool.and_eq_true] at holds
  obtain ⟨net', stepped, holds'⟩ := (Option.any_eq_true _ _).mp holds.2
  obtain ⟨call, found, isResult⟩ := (Option.any_eq_true _ _).mp holds'
  obtain ⟨result, returned, success⟩ := (Option.any_eq_true _ _).mp isResult
  have prog : call.prog = .pure result := by
    rw [Kit.Call.prog_of_result returned]
  revert success
  cases result with
  | error error => simp [succeeds]
  | ok value =>
      cases value with
      | none => simp [succeeds]
      | some outcome =>
          intro _
          exact ⟨net, call, outcome.commandId, of_decide_eq_true holds.1,
            success_opened _ sampleSettings net net' _ reach stepped 0 call outcome found prog⟩

end DoorsControl.System
