import DoorsControl.Firmware.WsLink
import DoorsControl.Kit.Ring
import Mathlib.Data.List.Nodup

/-!
# The replay memory

`acs_ws.h`: "Commands are already single use because they expire in seconds, but
replaying one inside its own window would otherwise open the door twice." The memory
that is to prevent it has sixteen slots, and an empty slot is one with an empty
identifier.

* `alreadySeen_iff` — **what the board remembers**: the last sixteen commands it
  honoured, except one without an identifier;
* `handleEvent_cases` — what one event can do;
* `opens_once_iff` — **when every command opens the door at most once**, for every
  sequence of events after a reboot;
* `opens_twice` — a command that is delivered again after sixteen others.
-/

namespace DoorsControl.Firmware

/-- The link after a reboot. -/
def WsLink.boot : WsLink where
  authenticated := false
  lastPongMs := 0
  seen _ := []
  seenNext := ⟨0, seenCapacity_pos⟩

/-- The command that the relay is pulsed for. -/
def pulsed (effects : List Effect) : Option UnlockCommand :=
  effects.findSome? fun
    | .pulse command _ => some command
    | .sendTXT _ => none

/-- The command in a frame that passes every check but the last one: what a board
that has just rebooted would honour. -/
def offered (platform : Platform) (config : Config) (clock : Clock) :
    SocketEvent → Option UnlockCommand
  | .text payload => do
      let document ← platform.deserializeJson payload
      if stringOr document "type" ≠ ascii "command" then none
      else
        let command ← parseUnlockCommand ((document.member? (ascii "payload")).getD .null)
        if refusal platform config clock .boot command (frameSignature platform document) = none then
          some command
        else none
  | _ => none

/-- The identifiers the board honoured since it booted, most recent first, against
its memory. -/
def Remembers (link : WsLink) (honoured : List Bytes) : Prop :=
  Kit.Ring.Holds [] link.seen link.seenNext honoured

/-- An identifier that the memory can tell apart. -/
def recalls (honoured : List Bytes) (commandId : Bytes) : Bool :=
  commandId ≠ [] && (honoured.take seenCapacity).contains commandId

/-- **What the board remembers.** -/
theorem alreadySeen_iff {link : WsLink} {honoured : List Bytes} (remembers : Remembers link honoured)
    (commandId : Bytes) : link.commandAlreadySeen commandId = recalls honoured commandId := by
  rw [Bool.eq_iff_iff]
  by_cases empty : commandId = []
  · -- an empty identifier is taken for an empty slot
    subst empty
    simp [WsLink.commandAlreadySeen, recalls]
  · simp only [WsLink.commandAlreadySeen, recalls, List.any_eq_true, List.mem_finRange, true_and,
      Bool.and_eq_true, decide_eq_true_eq, List.contains_iff_mem,
      ← remembers.exists_slot_iff empty]
    constructor
    · rintro ⟨i, -, same⟩
      exact ⟨empty, i, same⟩
    · rintro ⟨-, i, same⟩
      exact ⟨i, by rw [same]; exact empty, same⟩

theorem remembers_boot : Remembers .boot [] := Kit.Ring.holds_blank _ _

theorem Remembers.rememberCommand {link : WsLink} {honoured : List Bytes}
    (remembers : Remembers link honoured) (commandId : Bytes) :
    Remembers (link.rememberCommand commandId) (commandId :: honoured) :=
  Kit.Ring.Holds.push remembers rfl

/-! ## One event -/

/-- The memory is asked last. -/
theorem refusal_eq (platform : Platform) (config : Config) (clock : Clock) (link : WsLink)
    (command : UnlockCommand) (signature : Bytes) :
    refusal platform config clock link command signature =
      match refusal platform config clock .boot command signature with
      | some why => some why
      | none => if link.commandAlreadySeen command.commandId then some .replayed else none := by
  have blank : WsLink.boot.commandAlreadySeen command.commandId = false := by
    rw [alreadySeen_iff remembers_boot]
    simp [recalls]
  unfold refusal
  rw [blank]
  cases canonicalCommandBytes command maxCanonical with
  | none => split_ifs <;> rfl
  | some bytes =>
      simp only
      split_ifs <;> first | rfl | contradiction

/-- Any other frame leaves the relay and the memory alone. -/
theorem handleText_other {platform : Platform} {config : Config} {clock : Clock} {board : Board}
    {payload : Bytes} {document : Json Bytes} (parsed : platform.deserializeJson payload = some document)
    (other : stringOr document "type" ≠ ascii "command") :
    pulsed (handleText platform config clock board payload).2 = none ∧
      (handleText platform config clock board payload).1.link.seen = board.link.seen ∧
      (handleText platform config clock board payload).1.link.seenNext = board.link.seenNext := by
  simp only [handleText, parsed]
  split_ifs with isChallenge
  · refine ⟨?_, rfl, rfl⟩
    unfold handleChallenge
    simp only
    split_ifs <;> rfl
  · exact ⟨rfl, rfl, rfl⟩
  · exact ⟨rfl, rfl, rfl⟩
  · exact ⟨rfl, rfl, rfl⟩

/-- What an event can do: have the relay pulsed for the command it offers, which is
remembered, or change nothing in the memory. -/
def Outcome (platform : Platform) (config : Config) (clock : Clock) (board : Board)
    (event : SocketEvent) : Prop :=
  (∃ command, offered platform config clock event = some command ∧
    board.link.commandAlreadySeen command.commandId = false ∧
    pulsed (handleEvent platform config clock board event).2 = some command ∧
    ∃ ms, (handleEvent platform config clock board event).1.link =
      { board.link with lastPongMs := ms }.rememberCommand command.commandId) ∨
  ((∀ command, offered platform config clock event = some command →
      board.link.commandAlreadySeen command.commandId = true) ∧
    pulsed (handleEvent platform config clock board event).2 = none ∧
    (handleEvent platform config clock board event).1.link.seen = board.link.seen ∧
    (handleEvent platform config clock board event).1.link.seenNext = board.link.seenNext)

/-- A command frame. -/
theorem handleEvent_command_cases {platform : Platform} {config : Config} {clock : Clock}
    {board : Board} {payload : Bytes} {document : Json Bytes}
    (parsed : platform.deserializeJson payload = some document)
    (isCommand : stringOr document "type" = ascii "command") :
    Outcome platform config clock board (.text payload) := by
  have others : ascii "command" ≠ ascii "challenge" ∧ ascii "command" ≠ ascii "auth_ok" ∧
      ascii "command" ≠ ascii "ping" := by decide
  have handled : handleEvent platform config clock board (.text payload) =
      handleCommand platform config clock
        { board with link := { board.link with lastPongMs := clock.millis } } document := by
    simp only [handleEvent, handleText, parsed, isCommand, others.1, others.2.1, others.2.2,
      if_false, if_true]
  cases read : parseUnlockCommand ((document.member? (ascii "payload")).getD .null) with
  | none =>
      refine .inr ?_
      rw [handled]
      simp [offered, parsed, isCommand, handleCommand, read, pulsed]
  | some command =>
      have asked := refusal_eq platform config clock board.link command
        (frameSignature platform document)
      cases first : refusal platform config clock .boot command
          (frameSignature platform document) with
      | some why =>
          rw [first] at asked
          refine .inr ?_
          rw [handled]
          simp [offered, parsed, isCommand, handleCommand, read, first, refusal_lastPongMs, asked,
            pulsed, ackMessage]
      | none =>
          -- every other check passed, so the memory alone decides
          have isOffered : offered platform config clock (.text payload) = some command := by
            simp [offered, parsed, isCommand, read, first]
          rw [first] at asked
          cases seen : board.link.commandAlreadySeen command.commandId with
          | true =>
              refine .inr ⟨?_, ?_⟩
              · rintro found same
                rw [isOffered] at same
                obtain rfl := Option.some.inj same
                exact seen
              · rw [handled]
                simp [handleCommand, read, refusal_lastPongMs, asked, seen, pulsed, ackMessage]
          | false =>
              rw [seen] at asked
              refine .inl ⟨command, isOffered, seen, ?_, clock.millis, ?_⟩
              · rw [handleEvent_command parsed isCommand read asked]
                rfl
              · rw [handleEvent_command parsed isCommand read asked]

theorem handleEvent_cases (platform : Platform) (config : Config) (clock : Clock) (board : Board)
    (event : SocketEvent) : Outcome platform config clock board event := by
  cases event with
  | text payload =>
      cases parsed : platform.deserializeJson payload with
      | none => exact .inr (by simp [handleEvent, handleText, offered, parsed, pulsed])
      | some document =>
          by_cases other : stringOr document "type" ≠ ascii "command"
          · exact .inr ⟨by simp [offered, parsed, other], handleText_other parsed other⟩
          · exact handleEvent_command_cases parsed (not_not.mp other)
  | connected => exact .inr (by simp [handleEvent, offered, pulsed])
  | disconnected => exact .inr (by simp [handleEvent, offered, pulsed])
  | pong => exact .inr (by simp [handleEvent, offered, pulsed])
  | other => exact .inr (by simp [handleEvent, offered, pulsed])

/-! ## Between two reboots -/

/-- An event and the time the board sees it at. -/
abbrev Delivery := Clock × SocketEvent

/-- The commands that the relay is pulsed for along a sequence of events, in order. -/
def openings (platform : Platform) (config : Config) : Board → List Delivery → List UnlockCommand
  | _, [] => []
  | board, (clock, event) :: rest =>
      let (board', effects) := handleEvent platform config clock board event
      (pulsed effects).toList ++ openings platform config board' rest

/-- Whenever a command that passes every other check has an identifier that was honoured
before, the identifier is not empty and is among the last sixteen. `honoured` lists what
was honoured so far, most recent first. -/
def Recalled (platform : Platform) (config : Config) : List Bytes → List Delivery → Prop
  | _, [] => True
  | honoured, (clock, event) :: rest =>
      match offered platform config clock event with
      | none => Recalled platform config honoured rest
      | some command =>
          (command.commandId ∈ honoured → recalls honoured command.commandId = true) ∧
          Recalled platform config
            (if recalls honoured command.commandId then honoured else command.commandId :: honoured)
            rest

/-- From any point on: what was honoured and what will be. -/
theorem nodup_openings_iff (platform : Platform) (config : Config) {board : Board}
    {honoured : List Bytes} (remembers : Remembers board.link honoured) (nodup : honoured.Nodup)
    (run : List Delivery) :
    (honoured.reverse ++ (openings platform config board run).map UnlockCommand.commandId).Nodup ↔
      Recalled platform config honoured run := by
  induction run generalizing board honoured with
  | nil => simp [openings, Recalled, List.nodup_reverse.mpr nodup]
  | cons delivery rest ih =>
      obtain ⟨clock, event⟩ := delivery
      rcases handleEvent_cases platform config clock board event with
        ⟨command, isOffered, unseen, isPulsed, ms, link⟩ | ⟨seen, notPulsed, same, sameNext⟩
      · -- the command is honoured: it is a second time unless it is new
        rw [alreadySeen_iff remembers] at unseen
        have next : Remembers (handleEvent platform config clock board event).1.link
            (command.commandId :: honoured) := by
          rw [link]
          exact remembers.rememberCommand command.commandId
        simp only [openings, isPulsed, Option.toList_some, List.singleton_append, List.map_cons,
          Recalled, isOffered, unseen, Bool.false_eq_true, imp_false, if_false]
        by_cases before : command.commandId ∈ honoured
        · refine iff_of_false ?_ fun h => h.1 before
          intro all
          exact (List.nodup_append.mp all).2.2 _ (List.mem_reverse.mpr before) _
            List.mem_cons_self rfl
        · have step := ih next (List.nodup_cons.mpr ⟨before, nodup⟩)
          rw [List.reverse_cons, List.append_assoc, List.singleton_append] at step
          rw [step]
          exact ⟨fun h => ⟨before, h⟩, fun h => h.2⟩
      · have next : Remembers (handleEvent platform config clock board event).1.link honoured := by
          unfold Remembers
          rw [same, sameNext]
          exact remembers
        simp only [openings, notPulsed, Option.toList_none, List.nil_append, Recalled]
        cases isOffered : offered platform config clock event with
        | none => exact ih next nodup
        | some command =>
            have known : recalls honoured command.commandId = true := by
              rw [← alreadySeen_iff remembers]
              exact seen command isOffered
            simp only [known, if_true, implies_true, true_and]
            exact ih next nodup

/-- **A command opens the door at most once**, after a reboot and for every sequence of
events, exactly if the memory was large enough for it. -/
theorem opens_once_iff (platform : Platform) (config : Config) (relay : Relay) (pins : Pins)
    (run : List Delivery) :
    ((openings platform config ⟨.boot, relay, pins⟩ run).map UnlockCommand.commandId).Nodup ↔
      Recalled platform config [] run := by
  have remembers : Remembers (Board.mk .boot relay pins).link [] := remembers_boot
  exact nodup_openings_iff platform config remembers List.nodup_nil run

/-! ## Seventeen commands in one window -/

section Seventeen

/-- Commands that differ in their identifier. -/
def busyCommand (id : UInt8) : UnlockCommand where
  commandId := [id]
  controllerCode := ascii "ctrl-01"
  doorCode := ascii "lab"
  durationMs := 3000
  relayChannel := 1
  issuedAt := 1750000000
  expiresAt := 1750000030
  nonce := ascii "AAAAAAAAAAAAAAAAAAAAAA"

def busySignature (id : UInt8) : Bytes := List.replicate 64 id

def busyDocument (id : UInt8) : Json Bytes :=
  .obj
    [(ascii "type", .str (ascii "command")),
     (ascii "payload", .obj
      [(ascii "command_id", .str [id]),
       (ascii "cmd", .str (ascii "unlock")),
       (ascii "controller_code", .str (ascii "ctrl-01")),
       (ascii "door_code", .str (ascii "lab")),
       (ascii "relay_channel", .int 1),
       (ascii "duration_ms", .int 3000),
       (ascii "issued_at", .int 1750000000),
       (ascii "expires_at", .int 1750000030),
       (ascii "nonce", .str (ascii "AAAAAAAAAAAAAAAAAAAAAA"))]),
     (ascii "signature", .str (asciiBytes (b64encode (busySignature id))))]

def busyOpening : Bytes :=
  ascii "\x7b\"type\":\"command\",\"payload\":\x7b\"command_id\":\""

/-- The text of that document. -/
def busyFrame (id : UInt8) : Bytes :=
  busyOpening ++ [id] ++
  ascii "\",\"cmd\":\"unlock\",\"controller_code\":\"ctrl-01\",\"door_code\":\"lab\"," ++
  ascii "\"relay_channel\":1,\"duration_ms\":3000,\"issued_at\":1750000000," ++
  ascii "\"expires_at\":1750000030,\"nonce\":\"AAAAAAAAAAAAAAAAAAAAAA\"\x7d,\"signature\":\"" ++
  asciiBytes (b64encode (busySignature id)) ++ ascii "\"\x7d"

/-- The letters a to q. -/
def busyIds : List UInt8 := (List.range 17).map fun i => UInt8.ofNat (0x61 + i)

/-- Tables of what the libraries return for these frames. -/
def busyPlatform : Platform where
  deserializeJson bytes := do
    let id ← (bytes.drop busyOpening.length).head?
    if bytes = busyFrame id then some (busyDocument id) else none
  base64Decode coded _ :=
    ((busyIds.find? fun id => coded = asciiBytes (b64encode (busySignature id))).map
      busySignature).getD []
  verifySignature _ signature message := busyIds.any fun id =>
    signature = busySignature id && message = commandDomain ++ canonicalBody (busyCommand id)
  signWithControllerKey _ := List.replicate 64 0

def busyConfig : Config where
  controllerCode := ascii "ctrl-01"
  firmwareVersion := ascii "1.0.0"
  signerPublicKey := List.replicate 32 0x11
  pinRelay := 26
  relayActiveHigh := true
  relayMaxMs := 10000
  heartbeatTimeoutS := 60
  maxClockSkewS := 30

/-- Seventeen commands within two seconds, and the first one again. -/
def busyRun : List Delivery :=
  (busyIds ++ [0x61]).map fun id => (⟨1750000001, 0⟩, .text (busyFrame id))

end Seventeen

/-- **A command that is forgotten.** All of them are signed and fresh. The seventeenth
takes the place of the first, which then opens the door a second time. -/
theorem opens_twice :
    ¬ ((openings busyPlatform busyConfig ⟨.boot, ⟨false, 0⟩, fun _ => false⟩ busyRun).map
      UnlockCommand.commandId).Nodup := by
  decide +kernel

end DoorsControl.Firmware
