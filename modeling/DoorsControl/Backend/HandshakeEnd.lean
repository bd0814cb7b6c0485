import DoorsControl.Backend.HandshakeRun
import DoorsControl.Enrollment.Service

/-!
# How a handshake ends

Whatever the first frame is, a connection should be registered after its audit row, or be refused
with one and closed. `controller_socket` catches `ValueError`, `KeyError` and `InvalidSignature`;
a frame that is JSON but no object has no `get`, and a signature that is no string cannot be
decoded.

* `readAuth_other_iff` — what is raised past the `except`, while the frame is read;
* `decided_iff` — **when a handshake is decided**;
* `undecided_frame` — an empty list.
-/

namespace DoorsControl.Backend

open Kit.Prog

/-- `base64.b64decode(value, validate=True)` of a decoded value. -/
def b64decodeValue : Json Text → Except SocketError Bytes
  | .str s =>
      match Enrollment.b64decodeStrict s with
      | some bytes => .ok bytes
      | none => .error (.refused (text "Error"))
  | _ => .error (.other (text "TypeError"))

/-! ## Reading the frame -/

/-- The frame is too long, no JSON, or an object; its signature is a string, if it has type `auth`
and both members. -/
def ReadsQuietly (loads : Text → Except SocketError (Json Text)) (raw : Text) : Prop :=
  maxMessageBytes < raw.length ∨
    match loads raw with
    | .error (.refused _) => True
    | .error (.other _) => False
    | .ok (.obj message) => Json.get? message (text "type") = some (.str (text "auth")) →
        Json.get? message (text "controller_code") ≠ none →
        ∀ value, Json.get? message (text "signature") = some value → ∃ s, value = .str s
    | .ok _ => False

section Reading

variable {settings : SocketSettings} {raw : Text}

/-- A `ValueError` is caught. -/
theorem not_other {α : Type} {name : Text} :
    ¬ ∃ other, (Except.error (.refused name) : Except SocketError α) = .error (.other other) := by
  rintro ⟨other, ⟨⟩⟩

/-- A signature that is no string raises a `TypeError`. -/
theorem b64decodeValue_other_iff {α : Type} (value : Json Text) (f : Bytes → α) :
    (∃ name, (b64decodeValue value).map f = .error (.other name)) ↔ ¬ ∃ s, value = .str s := by
  cases value with
  | str s =>
      refine iff_of_false ?_ (not_not.mpr ⟨s, rfl⟩)
      unfold b64decodeValue
      dsimp only
      cases Enrollment.b64decodeStrict s with
      | none => exact not_other
      | some bytes => rintro ⟨name, ⟨⟩⟩
  | null | bool | int | float | arr | obj => exact iff_of_true ⟨_, rfl⟩ nofun

/-- What is raised past the `except`, once the frame is an object. -/
theorem readAuth_obj {message : Dict} (short : ¬ maxMessageBytes < raw.length)
    (parsed : settings.loads raw = .ok (.obj message)) :
    readAuth { settings with b64decode := b64decodeValue } raw =
      if Json.get? message (text "type") = some (.str (text "auth")) then
        match Json.get? message (text "controller_code"), Json.get? message (text "signature") with
        | none, _ => .error (.refused (text "KeyError"))
        | some _, none => .error (.refused (text "KeyError"))
        | some code, some value => (b64decodeValue value).map fun signature =>
            ⟨pyString settings code, signature, Json.get? message (text "firmware_version")⟩
      else .error (.refused (text "ValueError")) := by
  unfold readAuth
  rw [if_neg short]
  simp only [parsed, bind, Except.bind]
  cases member : Json.get? message (text "type") with
  | none => rfl
  | some value =>
      cases value with
      | str kind =>
          dsimp only
          by_cases auth : kind = text "auth"
          · subst auth
            rw [if_neg (not_not.mpr rfl), if_pos rfl]
            unfold frameItem
            cases Json.get? message (text "controller_code") with
            | none => rfl
            | some code =>
                cases Json.get? message (text "signature") with
                | none => rfl
                | some value =>
                    dsimp only
                    cases b64decodeValue value <;> rfl
          · rw [if_pos auth, if_neg fun same => auth (Json.str.inj (Option.some.inj same))]
            rfl
      | null | bool | int | float | arr | obj => rfl

/-- What is raised past the `except`. -/
theorem readAuth_other_iff :
    (∃ name, readAuth { settings with b64decode := b64decodeValue } raw = .error (.other name)) ↔
      ¬ ReadsQuietly settings.loads raw := by
  unfold ReadsQuietly
  by_cases long : maxMessageBytes < raw.length
  · refine iff_of_false ?_ (not_not.mpr (.inl long))
    unfold readAuth
    rw [if_pos long]
    exact not_other
  · rw [or_iff_right long]
    cases parsed : settings.loads raw with
    | error error =>
        have raises : readAuth { settings with b64decode := b64decodeValue } raw = .error error := by
          unfold readAuth
          rw [if_neg long]
          simp only [parsed, bind, Except.bind]
        rw [raises]
        cases error with
        | refused name => exact iff_of_false not_other (not_not.mpr trivial)
        | other name => exact iff_of_true ⟨name, rfl⟩ not_false
    | ok value =>
        cases value with
        | obj message =>
            rw [readAuth_obj long parsed]
            dsimp only
            split_ifs with auth
            · cases Json.get? message (text "controller_code") with
              | none => exact iff_of_false not_other (not_not.mpr fun _ present => absurd rfl present)
              | some code =>
                  cases Json.get? message (text "signature") with
                  | none => exact iff_of_false not_other (not_not.mpr fun _ _ => nofun)
                  | some value =>
                      refine (b64decodeValue_other_iff value _).trans (not_congr ⟨?_, ?_⟩)
                      · exact fun isString _ _ other same => Option.some.inj same ▸ isString
                      · exact fun quiet => quiet auth nofun value rfl
            · exact iff_of_false not_other (not_not.mpr fun same => absurd same auth)
        | null | bool | int | float | arr | str =>
            refine iff_of_true ⟨text "AttributeError", ?_⟩ not_false
            unfold readAuth
            rw [if_neg long]
            simp only [parsed, bind, Except.bind]
            rfl

end Reading

/-! ## What a handshake came to -/

def isRegister : SocketEvent → Bool
  | ⟨.register _ _ _ _, _⟩ => true
  | _ => false

/-- A row `controller.connected`. -/
def isConnected : SocketEvent → Bool
  | ⟨.audit record, _⟩ => record.event = .controllerConnected
  | _ => false

/-- A row `controller.auth_failed`. -/
def isAuthFailed : SocketEvent → Bool
  | ⟨.audit record, _⟩ => record.event = .controllerAuthFailed
  | _ => false

def isRefusal : SocketEvent → Bool
  | ⟨.close code, _⟩ => code = 4401
  | _ => false

/-- Registered after its row, or refused with one row and closed with 4401. -/
def Decided (hist : List SocketEvent) : Prop :=
  (∃ later before e, hist = later ++ e :: before ∧ isRegister e = true ∧
    before.any isConnected = true) ∨ hist.countP isAuthFailed = 1 ∧ hist.any isRefusal = true

/-- Neither is registered, nor is there a row of a refusal. -/
def isPending (hist : List SocketEvent) : Bool :=
  hist.all fun e => !(isRegister e || isAuthFailed e)

theorem not_decided_of_pending {hist : List SocketEvent} (pending : isPending hist = true) :
    ¬ Decided hist := by
  have neither : ∀ e ∈ hist, isRegister e = false ∧ isAuthFailed e = false := by
    intro e mem
    simpa using List.all_eq_true.mp pending e mem
  rintro (⟨later, before, e, rfl, register, -⟩ | ⟨one, -⟩)
  · have other := (neither e (by simp)).1
    rw [other] at register
    cases register
  · have none : hist.countP isAuthFailed = 0 :=
      List.countP_eq_zero.mpr fun e mem failed => by
        rw [(neither e mem).2] at failed
        cases failed
    rw [none] at one
    cases one

/-- After a refusal. -/
theorem decided_of_refusal {hist : List SocketEvent} (pending : isPending hist = true)
    {refusal row : SocketEvent} (isRow : isAuthFailed row = true)
    (closes : isRefusal refusal = true) (noRow : isAuthFailed refusal = false) :
    Decided (refusal :: row :: hist) := by
  refine .inr ⟨?_, ?_⟩
  · have none : hist.countP isAuthFailed = 0 := by
      refine List.countP_eq_zero.mpr fun e mem failed => ?_
      have neither := List.all_eq_true.mp pending e mem
      rw [failed, Bool.or_true] at neither
      cases neither
    rw [List.countP_cons_of_neg (by simp [noRow]), List.countP_cons_of_pos isRow, none]
  · rw [List.any_cons, closes, Bool.true_or]

/-! ## A handshake -/

/-- `{"type": "auth_ok", ..}` -/
def authOk (settings : SocketSettings) : Json Text :=
  .obj [(text "type", .str (text "auth_ok")), (text "heartbeat", .int settings.heartbeatSeconds),
    (text "signer_key_id", .str settings.signerKeyId)]

/-- The connection is open, the frame is received, and audit rows are appended. -/
structure Delivers (answer : (o : SocketOp) → o.Res) (raw : Text) : Prop where
  accepted : answer .accept = .ok ()
  challenged : ∀ nonce serverTime, answer (.sendText (challenge nonce serverTime)) = .ok ()
  received : ∀ seconds, answer (.receiveText seconds) = some raw
  audited : ∀ record, ∃ seq, answer (.audit record) = .ok seq

/-- The frame answers the challenge with a signature of the controller. -/
def Verified (answer : (o : SocketOp) → o.Res) (frame : AuthFrame)
    (controller : RegisteredController) : Prop :=
  controller.isBlocked = false ∧ controller.publicKey.length = 32 ∧
    ∃ message, authMessage frame.controllerCode (answer (.tokenBytes 32)) = some message ∧
      answer (.verify controller.publicKey frame.signature message) = true

/-- Nothing is raised past the `except`, by the frame, by the lookup, or after the check. -/
structure Handled (settings : SocketSettings) (answer : (o : SocketOp) → o.Res)
    (peer : Option Text) (raw : Text) : Prop where
  reads : ReadsQuietly settings.loads raw
  looksUp : ∀ frame, readAuth { settings with b64decode := b64decodeValue } raw = .ok frame →
    ∀ name, answer (.byCode frame.controllerCode) ≠ .error (.other name)
  registers : ∀ frame controller,
    readAuth { settings with b64decode := b64decodeValue } raw = .ok frame →
    answer (.byCode frame.controllerCode) = .ok (some controller) →
    Verified answer frame controller →
      answer (.touchSeen controller.id peer frame.firmwareVersion) = .ok () ∧
        answer (.sendText (authOk settings)) = .ok ()

section Run

variable {settings : SocketSettings} {answer : (o : SocketOp) → o.Res} {peer : Option Text}
  {raw : Text} {hist : List SocketEvent}

/-- A refusal is a row and a close. -/
theorem reject_decided (delivers : Delivers answer raw) (pending : isPending hist = true)
    (controller : Option RegisteredController) (name : Text) :
    Decided (runWith (fun _ => answer) hist (reject peer controller name).run).1 := by
  obtain ⟨seq, audited⟩ := delivers.audited
    { event := .controllerAuthFailed, outcome := .failure, actorType := .controller,
      controllerId := controller.map RegisteredController.id, clientIp := peer,
      detail := [(text "reason", .str name)] }
  refine run_attempt (Q := fun run => Decided run.1) audited ?_
  exact decided_of_refusal pending rfl rfl rfl

/-- A statement that raised ends the handshake there. -/
theorem attempt_raised {α : Type} {o : SocketOp} {f : α → SocketPy Unit} {error : SocketError}
    {ofAnswer : o.Res → Except SocketError α} (raised : ofAnswer (answer o) = .error error) :
    runWith (fun _ => answer) hist (attempt o ofAnswer >>= f).run =
      (⟨o, answer o⟩ :: hist, .error error) := by
  have attempted : runWith (fun _ => answer) hist (attempt o ofAnswer).run =
      (⟨o, answer o⟩ :: hist, .error error) := by
    show (_, ofAnswer (answer o)) = _
    rw [raised]
  exact run_raise (Q := fun run => run = _) attempted rfl

/-- One that returned goes on. -/
theorem attempt_returned {α : Type} {o : SocketOp} {f : α → SocketPy Unit} {value : α}
    {ofAnswer : o.Res → Except SocketError α} (returned : ofAnswer (answer o) = .ok value) :
    runWith (fun _ => answer) hist (attempt o ofAnswer >>= f).run =
      runWith (fun _ => answer) (⟨o, answer o⟩ :: hist) (f value).run :=
  run_attempt (Q := fun run => run = _) returned rfl

/-- A session is registered if its row and the answer go out. -/
theorem registerSession_decided_iff (delivers : Delivers answer raw)
    (pending : isPending hist = true) (frame : AuthFrame) (controller : RegisteredController) :
    Decided (runWith (fun _ => answer) hist (registerSession settings peer frame controller).run).1 ↔
      answer (.touchSeen controller.id peer frame.firmwareVersion) = .ok () ∧
        answer (.sendText (authOk settings)) = .ok () := by
  obtain ⟨seq, audited⟩ := delivers.audited
    { event := .controllerConnected, outcome := .success, actorType := .controller,
      controllerId := some controller.id, clientIp := peer,
      detail := [(text "controller_code", .str controller.code),
        (text "firmware_version", frame.firmwareVersion.getD .null)] }
  unfold registerSession
  cases seen : answer (.touchSeen controller.id peer frame.firmwareVersion) with
  | error error =>
      rw [attempt_raised seen]
      exact iff_of_false (not_decided_of_pending pending) nofun
  | ok =>
      rw [attempt_returned seen, attempt_returned audited]
      cases sent : answer (.sendText (authOk settings)) with
      | error error =>
          rw [attempt_raised sent]
          exact iff_of_false (not_decided_of_pending pending) nofun
      | ok =>
          rw [attempt_returned sent]
          exact iff_of_true (.inl ⟨[], _, _, rfl, rfl, rfl⟩) ⟨rfl, rfl⟩

/-- The end of a handshake whose `try` block came to `outcome`. -/
def concludes (settings : SocketSettings) (peer : Option Text) :
    Option RegisteredController × Except SocketError AuthFrame → SocketPy Unit
  | (controller, .error (.refused name)) => reject peer controller name
  | (_, .error error) => throw error
  | (none, .ok _) => throw (.other (text "TypeError"))
  | (some controller, .ok frame) => registerSession settings peer frame controller

/-- The check of the signature, and what follows it. -/
theorem verifyAuth_decided_iff (delivers : Delivers answer raw) (pending : isPending hist = true)
    (frame : AuthFrame) (controller : RegisteredController)
    (free : controller.isBlocked = false) :
    Decided (runWith (fun _ => answer) hist
        (verifyAuth frame controller (answer (.tokenBytes 32)) >>= fun result =>
          concludes settings peer (some controller, result)).run).1 ↔
      (Verified answer frame controller →
        answer (.touchSeen controller.id peer frame.firmwareVersion) = .ok () ∧
          answer (.sendText (authOk settings)) = .ok ()) := by
  unfold verifyAuth
  split_ifs with length
  · exact iff_of_true (reject_decided delivers pending _ _) fun verified =>
      absurd verified.2.1 length
  · cases isMessage : authMessage frame.controllerCode (answer (.tokenBytes 32)) with
    | none =>
        refine iff_of_true (reject_decided delivers pending _ _) fun verified => ?_
        obtain ⟨message, same, -⟩ := verified.2.2
        rw [isMessage] at same
        cases same
    | some message =>
        show Decided (runWith (fun _ => answer) (⟨.verify _ _ message, answer _⟩ :: hist)
          ((if answer (.verify controller.publicKey frame.signature message) then
              return .ok frame
            else return .error (.refused (text "InvalidSignature")) : SocketPy _) >>= fun result =>
              concludes settings peer (some controller, result)).run).1 ↔ _
        have later : ∀ valid, isPending
            (⟨.verify controller.publicKey frame.signature message, valid⟩ :: hist) = true :=
          fun _ => pending
        cases valid : answer (.verify controller.publicKey frame.signature message) with
        | false =>
            refine iff_of_true (reject_decided delivers (later false) _ _) fun verified => ?_
            obtain ⟨other, same, isValid⟩ := verified.2.2
            obtain rfl := Option.some.inj (isMessage.symm.trans same)
            rw [valid] at isValid
            cases isValid
        | true =>
            have verified : Verified answer frame controller :=
              ⟨free, not_not.mp length, message, isMessage, valid⟩
            rw [imp_iff_right verified]
            exact registerSession_decided_iff delivers (later true) frame controller

/-- The `try` block after the lookup. -/
def lookedUp (frame : AuthFrame) (nonce : Bytes) :
    Except SocketError (Option RegisteredController) →
      SocketPy (Option RegisteredController × Except SocketError AuthFrame)
  | .error error => return (none, .error error)
  | .ok none => return (none, .error (.refused (text "ValueError")))
  | .ok (some controller) =>
      if controller.isBlocked then
        return (some controller, .error (.refused (text "ValueError")))
      else return (some controller, ← verifyAuth frame controller nonce)

theorem authorise_ok {frame : AuthFrame} {nonce : Bytes} (read : readAuth settings raw = .ok frame) :
    authorise settings nonce raw =
      call (SocketOp.byCode frame.controllerCode) >>= lookedUp frame nonce := by
  unfold authorise
  rw [read]
  refine congrArg (call (SocketOp.byCode frame.controllerCode) >>= ·) (funext fun found => ?_)
  rcases found with error | _ | controller <;> rfl

/-- What follows the lookup. -/
theorem lookedUp_decided_iff (delivers : Delivers answer raw) (pending : isPending hist = true)
    (frame : AuthFrame) (found : Except SocketError (Option RegisteredController)) :
    Decided (runWith (fun _ => answer) hist
        (lookedUp frame (answer (.tokenBytes 32)) found >>= concludes settings peer).run).1 ↔
      (∀ name, found ≠ .error (.other name)) ∧
        ∀ controller, found = .ok (some controller) → Verified answer frame controller →
          answer (.touchSeen controller.id peer frame.firmwareVersion) = .ok () ∧
            answer (.sendText (authOk settings)) = .ok () := by
  rcases found with (name | name) | _ | controller
  · exact iff_of_true (reject_decided delivers pending none name) ⟨nofun, nofun⟩
  · exact iff_of_false (not_decided_of_pending pending) fun both => both.1 name rfl
  · exact iff_of_true (reject_decided delivers pending none _) ⟨nofun, nofun⟩
  · cases blocked : controller.isBlocked with
    | true =>
        have came : lookedUp frame (answer (.tokenBytes 32)) (.ok (some controller)) =
            return (some controller, .error (.refused (text "ValueError"))) := if_pos blocked
        rw [came]
        refine iff_of_true (reject_decided delivers pending (some controller) _) ⟨nofun, ?_⟩
        intro other same verified
        obtain rfl := Option.some.inj (Except.ok.inj same)
        rw [verified.1] at blocked
        cases blocked
    | false =>
        have came : lookedUp frame (answer (.tokenBytes 32)) (.ok (some controller)) = do
            return (some controller, ← verifyAuth frame controller (answer (.tokenBytes 32))) :=
          if_neg (by rw [blocked]; exact Bool.false_ne_true)
        rw [came, runWith_assoc]
        refine (verifyAuth_decided_iff delivers pending frame controller blocked).trans ?_
        constructor
        · intro registers
          refine ⟨nofun, fun other same => ?_⟩
          obtain rfl := Option.some.inj (Except.ok.inj same)
          exact registers
        · exact fun both => both.2 controller rfl

/-- The `try` block, and what follows it. -/
theorem authorise_decided_iff (delivers : Delivers answer raw) (pending : isPending hist = true) :
    Decided (runWith (fun _ => answer) hist
        (authorise { settings with b64decode := b64decodeValue } (answer (.tokenBytes 32)) raw >>=
          concludes { settings with b64decode := b64decodeValue } peer).run).1 ↔
      Handled settings answer peer raw := by
  have quiet : (∀ name, readAuth { settings with b64decode := b64decodeValue } raw ≠
      .error (.other name)) → ReadsQuietly settings.loads raw := by
    intro never
    by_contra loud
    obtain ⟨name, raised⟩ := readAuth_other_iff.mpr loud
    exact never name raised
  cases read : readAuth { settings with b64decode := b64decodeValue } raw with
  | error error =>
      unfold authorise
      rw [read]
      cases error with
      | refused name =>
          refine iff_of_true (reject_decided delivers pending none name) ⟨quiet ?_, ?_, ?_⟩
          · intro other same
            rw [read] at same
            cases same
          · intro frame same
            rw [read] at same
            cases same
          · intro frame controller same
            rw [read] at same
            cases same
      | other name =>
          refine iff_of_false (not_decided_of_pending pending) fun handled => ?_
          exact readAuth_other_iff.mp ⟨name, read⟩ handled.reads
  | ok frame =>
      have reads : ReadsQuietly settings.loads raw := by
        refine quiet fun name same => ?_
        rw [read] at same
        cases same
      have isFrame : ∀ {other}, readAuth { settings with b64decode := b64decodeValue } raw =
          .ok other → other = frame := fun same => Except.ok.inj (same.symm.trans read)
      have handled_iff : Handled settings answer peer raw ↔
          (∀ name, answer (.byCode frame.controllerCode) ≠ .error (.other name)) ∧
          ∀ controller, answer (.byCode frame.controllerCode) = .ok (some controller) →
            Verified answer frame controller →
              answer (.touchSeen controller.id peer frame.firmwareVersion) = .ok () ∧
                answer (.sendText (authOk settings)) = .ok () := by
        constructor
        · intro handled
          exact ⟨handled.looksUp frame read, fun controller => handled.registers frame controller read⟩
        · rintro ⟨looksUp, registers⟩
          refine ⟨reads, fun other same => ?_, fun other controller same => ?_⟩
          · rw [isFrame same]
            exact looksUp
          · rw [isFrame same]
            exact registers controller
      rw [handled_iff, authorise_ok read]
      refine lookedUp_decided_iff delivers ?_ frame _
      exact pending

end Run

/-- **How a handshake ends.** On a connection that is open, with audit rows appended, every first
frame is registered after its row or refused with one row and a close, exactly if it raises
nothing that is not caught, the lookup neither, and what follows a good signature succeeds. -/
theorem decided_iff (settings : SocketSettings) (answer : (o : SocketOp) → o.Res)
    (peer : Option Text) (raw : Text) (delivers : Delivers answer raw) :
    Decided (runWith (fun _ => answer) []
        (controllerSocket { settings with b64decode := b64decodeValue } peer).run).1 ↔
      Handled settings answer peer raw := by
  unfold controllerSocket
  rw [attempt_returned delivers.accepted]
  show Decided (runWith (fun _ => answer) _ (attempt (SocketOp.sendText (challenge
    (answer (.tokenBytes 32)) (answer .time))) id >>= _).run).1 ↔ _
  rw [attempt_returned (delivers.challenged _ _)]
  have opened : isPending [⟨.receiveText settings.handshakeTimeoutSeconds, some raw⟩,
      ⟨.sendText (challenge (answer (.tokenBytes 32)) (answer .time)), answer _⟩,
      ⟨.time, answer .time⟩, ⟨.tokenBytes 32, answer (.tokenBytes 32)⟩,
      ⟨.accept, answer .accept⟩] = true := rfl
  refine run_call (Q := fun run => Decided run.1 ↔ _) ?_
  dsimp only
  rw [delivers.received]
  exact authorise_decided_iff delivers opened

/-! ## A peer that nobody knows -/

/-- What `json.loads` makes of an empty list, and of no JSON. -/
def strangerSettings : SocketSettings where
  handshakeTimeoutSeconds := 10
  heartbeatSeconds := 20
  signerKeyId := text "k1"
  loads := fun raw =>
    if raw = text "[]" then .ok (.arr []) else .error (.refused (text "JSONDecodeError"))
  pyStr := fun _ => []
  b64decode := b64decodeValue

/-- No controller is registered; the stranger sends this frame. -/
def strangerAnswer (raw : Text) : (o : SocketOp) → o.Res
  | .accept => .ok ()
  | .tokenBytes count => List.replicate count 0
  | .time => 1750000000
  | .sendText _ => .ok ()
  | .receiveText _ => some raw
  | .close _ => .ok ()
  | .byCode _ => .ok none
  | .verify _ _ _ => false
  | .touchSeen _ _ _ => .ok ()
  | .audit _ => .ok 1
  | .register _ _ _ _ => ()
  | .sign _ _ => ()
  | .insertController _ => .ok ()
  | .block _ _ => ()

theorem stranger_delivers (raw : Text) : Delivers (strangerAnswer raw) raw :=
  ⟨rfl, fun _ _ => rfl, fun _ => rfl, fun _ => ⟨1, rfl⟩⟩

theorem decided_iff_sample : Decided (runWith (fun _ => strangerAnswer (text "hello")) []
    (controllerSocket { strangerSettings with b64decode := b64decodeValue } none).run).1 :=
  (decided_iff strangerSettings (strangerAnswer (text "hello")) none (text "hello")
    (stranger_delivers _)).mpr ⟨.inr trivial, nofun, nofun⟩

/-- An empty list is neither registered nor refused. -/
theorem undecided_frame :
    ¬∀ (settings : SocketSettings) (answer : (o : SocketOp) → o.Res) (peer : Option Text)
      (raw : Text), Delivers answer raw →
      Decided (runWith (fun _ => answer) []
        (controllerSocket { settings with b64decode := b64decodeValue } peer).run).1 := by
  intro claim
  refine not_decided_of_pending ?_ (claim strangerSettings (strangerAnswer (text "[]")) none
    (text "[]") (stranger_delivers _))
  decide +kernel

end DoorsControl.Backend
