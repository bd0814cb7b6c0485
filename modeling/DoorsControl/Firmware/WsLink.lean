import DoorsControl.Data.Base64
import DoorsControl.Firmware.Command
import DoorsControl.Firmware.Relay

/-!
# The link to the backend

`acs_ws.cpp`: what the board does with an event of the websocket library. The JSON
parser, base64 decoding and Ed25519 are libraries (`Platform`). The status light is
left out: nothing reads it.
-/

namespace DoorsControl.Firmware

/-- The libraries the link calls. -/
structure Platform where
  /-- `none` is any `DeserializationError` -/
  deserializeJson : Bytes → Option (Json Bytes)
  /-- What `base64Decode` wrote into a buffer of that size; nothing on an error. -/
  base64Decode : Bytes → Nat → Bytes
  verifySignature : (publicKey signature message : Bytes) → Bool
  signWithControllerKey : Bytes → Bytes

/-- `time(nullptr)` and `millis()` -/
structure Clock where
  unix : Int
  millis : UInt32

abbrev seenCapacity : Nat := 16

theorem seenCapacity_pos : 0 < seenCapacity := by
  decide

/-- `kMaxCanonical` -/
def maxCanonical : Nat := 512

/-- The state of `WsLink`. -/
structure WsLink where
  authenticated : Bool
  lastPongMs : UInt32
  seen : Fin seenCapacity → Bytes
  seenNext : Fin seenCapacity

/-- The board: the link, the relay and its pins. -/
structure Board where
  link : WsLink
  relay : Relay
  pins : Pins

/-- What the link does to the outside. -/
inductive Effect where
  | sendTXT (message : Json Bytes)
  /-- `relay.pulse(command.durationMs)`, which returned `relayMs` -/
  | pulse (command : UnlockCommand) (relayMs : UInt32)

/-- `WStype_t`, as far as `handleEvent` distinguishes it. -/
inductive SocketEvent where
  | connected
  | disconnected
  | text (payload : Bytes)
  | pong
  | other

/-- `document[key] | ""` -/
def stringOr (document : Json Bytes) (key : String) : Bytes :=
  (asCString? (document.member? (ascii key))).getD []

def ackMessage (clock : Clock) (commandId : Bytes) (result detail : String) (relayMs : UInt32) :
    Effect :=
  .sendTXT (.obj
    [(ascii "type", .str (ascii "ack")),
     (ascii "command_id", .str commandId),
     (ascii "result", .str (ascii result)),
     (ascii "detail", .str (ascii detail)),
     (ascii "relay_ms", .int relayMs.toNat),
     (ascii "uptime_ms", .int clock.millis.toNat)])

/-- `commandAlreadySeen` -/
def WsLink.commandAlreadySeen (link : WsLink) (commandId : Bytes) : Bool :=
  (List.finRange seenCapacity).any fun i => link.seen i ≠ [] && link.seen i = commandId

/-- `rememberCommand` -/
def WsLink.rememberCommand (link : WsLink) (commandId : Bytes) : WsLink :=
  { link with
    seen := fun i => if i = link.seenNext then commandId else link.seen i
    seenNext := link.seenNext + 1 }

/-- `kAuthDomain` with its NUL -/
def authDomain : Bytes := ascii "acs-controller-auth:v1" ++ [0]

/-- `handleChallenge` -/
def handleChallenge (platform : Platform) (config : Config) (nonceB64 : Bytes) : List Effect :=
  let nonce := platform.base64Decode nonceB64 64
  let message := authDomain ++ config.controllerCode ++ [0] ++ nonce
  if nonce = [] then []
  else if message.length > 128 then []
  else
    [.sendTXT (.obj
      [(ascii "type", .str (ascii "auth")),
       (ascii "controller_code", .str config.controllerCode),
       (ascii "signature",
        .str (asciiBytes (b64encode (platform.signWithControllerKey message)))),
       (ascii "firmware_version", .str config.firmwareVersion)])]

/-- Why a command is not honoured, with the text of the acknowledgement. -/
inductive Refusal where
  | wrongController
  | badSignatureEncoding
  | commandTooLarge
  | badSignature
  | clockNotSynced
  | expired
  | issuedInTheFuture
  | replayed
  deriving DecidableEq

def Refusal.detail : Refusal → String
  | .wrongController => "wrong_controller"
  | .badSignatureEncoding => "bad_signature_encoding"
  | .commandTooLarge => "command_too_large"
  | .badSignature => "bad_signature"
  | .clockNotSynced => "clock_not_synced"
  | .expired => "expired"
  | .issuedInTheFuture => "issued_in_the_future"
  | .replayed => "replayed"

/-- The signature of a command frame, as the board decodes it. -/
def frameSignature (platform : Platform) (document : Json Bytes) : Bytes :=
  platform.base64Decode (stringOr document "signature") 64

/-- The checks of `handleCommand` on a parsed command, in their order; `none` is a
command that is honoured. -/
def refusal (platform : Platform) (config : Config) (clock : Clock) (link : WsLink)
    (command : UnlockCommand) (signature : Bytes) : Option Refusal :=
  if command.controllerCode ≠ config.controllerCode then some .wrongController
  else if signature.length ≠ 64 then some .badSignatureEncoding
  else
    match canonicalCommandBytes command maxCanonical with
    | none => some .commandTooLarge
    | some canonical =>
        if !platform.verifySignature config.signerPublicKey signature canonical then
          some .badSignature
        else if clock.unix < 1704067200 then some .clockNotSynced
        else if command.expiresAt.toInt < clock.unix - config.maxClockSkewS then some .expired
        else if command.issuedAt.toInt > clock.unix + config.maxClockSkewS then
          some .issuedInTheFuture
        else if link.commandAlreadySeen command.commandId then some .replayed
        else none

/-- `handleCommand` on the parsed document. A payload that is no command is dropped
without an acknowledgement. -/
def handleCommand (platform : Platform) (config : Config) (clock : Clock) (board : Board)
    (document : Json Bytes) : Board × List Effect :=
  match parseUnlockCommand ((document.member? (ascii "payload")).getD .null) with
  | none => (board, [])
  | some command =>
      match refusal platform config clock board.link command
          (frameSignature platform document) with
      | some why => (board, [ackMessage clock command.commandId "rejected" why.detail 0])
      | none =>
          let relayMs := pulseDuration config command.durationMs
          let (relay, pins) := Relay.pulse config board.pins clock.millis command.durationMs
          (⟨board.link.rememberCommand command.commandId, relay, pins⟩,
            [.pulse command relayMs, ackMessage clock command.commandId "opened" "ok" relayMs])

/-- `handleText` -/
def handleText (platform : Platform) (config : Config) (clock : Clock) (board : Board)
    (text : Bytes) : Board × List Effect :=
  match platform.deserializeJson text with
  | none => (board, [])
  | some document =>
      let type := stringOr document "type"
      if type = ascii "challenge" then
        (board, handleChallenge platform config (stringOr document "nonce"))
      else if type = ascii "auth_ok" then
        ({ board with link := { board.link with authenticated := true, lastPongMs := clock.millis } },
          [])
      else if type = ascii "ping" then
        (board, [.sendTXT (.obj [(ascii "type", .str (ascii "pong"))])])
      else if type = ascii "command" then handleCommand platform config clock board document
      else (board, [])

/-- `handleEvent` -/
def handleEvent (platform : Platform) (config : Config) (clock : Clock) (board : Board) :
    SocketEvent → Board × List Effect
  | .connected =>
      ({ board with
        link := { board.link with authenticated := false, lastPongMs := clock.millis } }, [])
  | .disconnected => ({ board with link := { board.link with authenticated := false } }, [])
  | .text payload =>
      handleText platform config clock
        { board with link := { board.link with lastPongMs := clock.millis } } payload
  | .pong => ({ board with link := { board.link with lastPongMs := clock.millis } }, [])
  | .other => (board, [])

/-! ## When the relay is pulsed -/

/-- What a command that is honoured went through. -/
structure Honoured (platform : Platform) (config : Config) (clock : Clock) (link : WsLink)
    (command : UnlockCommand) (signature : Bytes) : Prop where
  forThisBoard : command.controllerCode = config.controllerCode
  verified : platform.verifySignature config.signerPublicKey signature
    (commandDomain ++ canonicalBody command) = true
  notExpired : clock.unix - config.maxClockSkewS ≤ command.expiresAt.toInt
  notEarly : command.issuedAt.toInt ≤ clock.unix + config.maxClockSkewS
  notSeen : link.commandAlreadySeen command.commandId = false

theorem honoured_of_refusal {platform : Platform} {config : Config} {clock : Clock} {link : WsLink}
    {command : UnlockCommand} {signature : Bytes}
    (h : refusal platform config clock link command signature = none) :
    Honoured platform config clock link command signature := by
  unfold refusal at h
  split at h
  · cases h
  rename_i code
  split at h
  · cases h
  cases canonical : canonicalCommandBytes command maxCanonical with
  | none =>
      rw [canonical] at h
      cases h
  | some bytes =>
      rw [canonical] at h
      simp only at h
      split at h
      · cases h
      rename_i verified
      split at h
      · cases h
      split at h
      · cases h
      rename_i notExpired
      split at h
      · cases h
      rename_i notEarly
      split at h
      · cases h
      rename_i notSeen
      refine ⟨not_not.mp code, ?_, not_lt.mp notExpired, not_lt.mp notEarly, by simpa using notSeen⟩
      rw [← canonicalCommandBytes_eq canonical]
      simpa using verified

theorem ackMessage_ne_pulse {clock : Clock} {id : Bytes} {result detail : String}
    {relayMs ms : UInt32} {command : UnlockCommand} :
    Effect.pulse command ms ≠ ackMessage clock id result detail relayMs := by
  intro same
  cases same

/-- The relay is pulsed in one place: at the end of a command that is honoured. -/
theorem pulse_of_handleEvent {platform : Platform} {config : Config} {clock : Clock} {board : Board}
    {event : SocketEvent} {command : UnlockCommand} {ms : UInt32}
    (h : Effect.pulse command ms ∈ (handleEvent platform config clock board event).2) :
    ∃ payload document, event = .text payload ∧
      platform.deserializeJson payload = some document ∧
      parseUnlockCommand ((document.member? (ascii "payload")).getD .null) = some command ∧
      Honoured platform config clock board.link command (frameSignature platform document) := by
  cases event with
  | text payload =>
      simp only [handleEvent, handleText] at h
      cases parsed : platform.deserializeJson payload with
      | none => simp [parsed] at h
      | some document =>
          refine ⟨payload, document, rfl, parsed, ?_⟩
          simp only [parsed] at h
          split_ifs at h
          · -- a challenge is answered
            simp only [handleChallenge] at h
            split_ifs at h <;> simp at h
          · simp at h
          · simp at h
          · unfold handleCommand at h
            cases read : parseUnlockCommand ((document.member? (ascii "payload")).getD .null) with
            | none => simp [read] at h
            | some found =>
                simp only [read] at h
                split at h
                · simp [ackMessage_ne_pulse] at h
                · rename_i honoured
                  simp only [List.mem_cons, List.not_mem_nil, or_false, Effect.pulse.injEq,
                    ackMessage_ne_pulse] at h
                  obtain ⟨rfl, -⟩ := h
                  obtain ⟨code, verified, notExpired, notEarly, notSeen⟩ :=
                    honoured_of_refusal honoured
                  exact ⟨rfl, code, verified, notExpired, notEarly, notSeen⟩
          · simp at h
  | _ => simp [handleEvent] at h

theorem refusal_lastPongMs (platform : Platform) (config : Config) (clock : Clock) (link : WsLink)
    (command : UnlockCommand) (signature : Bytes) (ms : UInt32) :
    refusal platform config clock { link with lastPongMs := ms } command signature =
      refusal platform config clock link command signature := by
  have seen : { link with lastPongMs := ms }.commandAlreadySeen command.commandId =
      link.commandAlreadySeen command.commandId := rfl
  unfold refusal
  rw [seen]

/-- What the board does with a command it honours. -/
theorem handleEvent_command {platform : Platform} {config : Config} {clock : Clock} {board : Board}
    {payload : Bytes} {document : Json Bytes} {command : UnlockCommand}
    (parsed : platform.deserializeJson payload = some document)
    (isCommand : stringOr document "type" = ascii "command")
    (read : parseUnlockCommand ((document.member? (ascii "payload")).getD .null) = some command)
    (accepted : refusal platform config clock board.link command
      (frameSignature platform document) = none) :
    handleEvent platform config clock board (.text payload) =
      (⟨{ board.link with lastPongMs := clock.millis }.rememberCommand command.commandId,
        (Relay.pulse config board.pins clock.millis command.durationMs).1,
        (Relay.pulse config board.pins clock.millis command.durationMs).2⟩,
       [.pulse command (pulseDuration config command.durationMs),
        ackMessage clock command.commandId "opened" "ok"
          (pulseDuration config command.durationMs)]) := by
  have others : ascii "command" ≠ ascii "challenge" ∧ ascii "command" ≠ ascii "auth_ok" ∧
      ascii "command" ≠ ascii "ping" := by decide
  simp only [handleEvent, handleText, parsed, isCommand, others.1, others.2.1, others.2.2, if_false,
    if_true, handleCommand, read, refusal_lastPongMs, accepted]

theorem member_result_ack (clock : Clock) (id : Bytes) (result detail : String) (ms : UInt32)
    {message : Json Bytes} (h : Effect.sendTXT message = ackMessage clock id result detail ms) :
    message.member? (ascii "result") = some (.str (ascii result)) := by
  cases h
  rfl

/-- A board that opened it opened has honoured a command. -/
theorem honoured_of_opened {platform : Platform} {config : Config} {clock : Clock} {board : Board}
    {payload : Bytes} {document message : Json Bytes}
    (parsed : platform.deserializeJson payload = some document)
    (sent : .sendTXT message ∈ (handleEvent platform config clock board (.text payload)).2)
    (opened : message.member? (ascii "result") = some (.str (ascii "opened"))) :
    ∃ command, stringOr document "type" = ascii "command" ∧
      parseUnlockCommand ((document.member? (ascii "payload")).getD .null) = some command ∧
      refusal platform config clock board.link command (frameSignature platform document) = none := by
  simp only [handleEvent, handleText, parsed] at sent
  split_ifs at sent with _ _ _ isCommand
  · -- the answer to a challenge has no result
    simp only [handleChallenge] at sent
    split_ifs at sent with _ _ <;> simp at sent
    subst sent
    cases opened
  · simp at sent
  · simp at sent
    subst sent
    cases opened
  · unfold handleCommand at sent
    cases read : parseUnlockCommand ((document.member? (ascii "payload")).getD .null) with
    | none => simp [read] at sent
    | some command =>
        refine ⟨command, isCommand, rfl, ?_⟩
        simp only [read, refusal_lastPongMs] at sent
        cases refused : refusal platform config clock board.link command
            (frameSignature platform document) with
        | none => rfl
        | some why =>
            simp only [refused, List.mem_singleton] at sent
            rw [member_result_ack clock _ _ _ _ sent] at opened
            exact absurd (Json.str.inj (Option.some.inj opened)) (by decide)
  · simp at sent

/-- What a board does with a command that it can read: it refuses it and says so, or it has
the relay pulsed and says so. -/
def Answered (platform : Platform) (config : Config) (clock : Clock) (board : Board)
    (event : SocketEvent) (command : UnlockCommand) (signature : Bytes) : Prop :=
  (∃ why, refusal platform config clock board.link command signature = some why ∧
    (handleEvent platform config clock board event).2 =
      [ackMessage clock command.commandId "rejected" why.detail 0]) ∨
  (refusal platform config clock board.link command signature = none ∧
    (handleEvent platform config clock board event).2 =
      [.pulse command (pulseDuration config command.durationMs),
       ackMessage clock command.commandId "opened" "ok" (pulseDuration config command.durationMs)])

/-- A board acknowledges commands only. -/
theorem answered_of_ack {platform : Platform} {config : Config} {clock : Clock} {board : Board}
    {event : SocketEvent} {message : Json Bytes}
    (sent : .sendTXT message ∈ (handleEvent platform config clock board event).2)
    (isAck : message.member? (ascii "type") = some (.str (ascii "ack"))) :
    ∃ payload document command, event = .text payload ∧
      platform.deserializeJson payload = some document ∧
      stringOr document "type" = ascii "command" ∧
      parseUnlockCommand ((document.member? (ascii "payload")).getD .null) = some command ∧
      Answered platform config clock board event command (frameSignature platform document) := by
  cases event with
  | text payload =>
      cases parsed : platform.deserializeJson payload with
      | none => simp [handleEvent, handleText, parsed] at sent
      | some document =>
          simp only [handleEvent, handleText, parsed] at sent
          split_ifs at sent with _ _ _ isCommand
          · -- the answer to a challenge is of type `auth`
            simp only [handleChallenge] at sent
            split_ifs at sent with _ _ <;> simp at sent
            subst sent
            exact absurd (Json.str.inj (Option.some.inj isAck)) (by decide)
          · simp at sent
          · simp at sent
            subst sent
            exact absurd (Json.str.inj (Option.some.inj isAck)) (by decide)
          · unfold handleCommand at sent
            cases read : parseUnlockCommand ((document.member? (ascii "payload")).getD .null) with
            | none => simp [read] at sent
            | some command =>
                refine ⟨payload, document, command, rfl, parsed, isCommand, read, ?_⟩
                cases refused : refusal platform config clock board.link command
                    (frameSignature platform document) with
                | none =>
                    refine .inr ⟨refused, ?_⟩
                    rw [handleEvent_command parsed isCommand read refused]
                | some why =>
                    refine .inl ⟨why, refused, ?_⟩
                    have others : ascii "command" ≠ ascii "challenge" ∧
                        ascii "command" ≠ ascii "auth_ok" ∧ ascii "command" ≠ ascii "ping" := by
                      decide
                    simp only [handleEvent, handleText, parsed, isCommand, others.1, others.2.1,
                      others.2.2, if_false, if_true, handleCommand, read, refusal_lastPongMs, refused]
          · simp at sent
  | _ => simp [handleEvent] at sent

theorem member_commandId_ack {clock : Clock} {id : Bytes} {result detail : String} {ms : UInt32}
    {message : Json Bytes} (h : Effect.sendTXT message = ackMessage clock id result detail ms) :
    message.member? (ascii "command_id") = some (.str id) := by
  cases h
  rfl

/-- The acknowledgement names the command, and says `opened` if it was not refused. -/
theorem Answered.reports {platform : Platform} {config : Config} {clock : Clock} {board : Board}
    {event : SocketEvent} {command : UnlockCommand} {signature : Bytes} {message : Json Bytes}
    (answered : Answered platform config clock board event command signature)
    (sent : .sendTXT message ∈ (handleEvent platform config clock board event).2) :
    message.member? (ascii "command_id") = some (.str command.commandId) ∧
      (message.member? (ascii "result") = some (.str (ascii "opened")) ↔
        refusal platform config clock board.link command signature = none) := by
  rcases answered with ⟨why, refused, effects⟩ | ⟨accepted, effects⟩
  · rw [effects, List.mem_singleton] at sent
    refine ⟨member_commandId_ack sent, ?_⟩
    rw [member_result_ack _ _ _ _ _ sent, refused, Option.some.injEq, Json.str.injEq]
    exact iff_of_false (by decide) (by simp)
  · rw [effects] at sent
    rcases List.mem_cons.mp sent with impossible | sent
    · cases impossible
    · have isAck := List.mem_singleton.mp sent
      exact ⟨member_commandId_ack isAck, iff_of_true (member_result_ack _ _ _ _ _ isAck) accepted⟩

end DoorsControl.Firmware
