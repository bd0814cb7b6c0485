import DoorsControl.Backend.Doors
import DoorsControl.Backend.Sessions

/-!
# How a controller authenticates

`controller_socket` of `app/ws/controller_ws.py` up to `hub.register`: a challenge goes out,
one frame comes in, and the signature in it is checked against the key in the table. Every
`await` is one operation, the check of a signature another. Any number of connections run
interleaved, and whoever is at the other end sends what it likes.

* `authMessage`, `readAuth`, `controllerSocket` — the handshake;
* `handshakeServer` — the tables, and **what is assumed of keys and nonces**: a signature
  verifies only if the key has signed the message, and a nonce is not drawn twice.
-/

namespace DoorsControl.Backend

open DoorsControl.Audit (AuditCall)
open Kit.Prog (attempt call ifThen)

/-- What is raised: an exception that the handshake catches, or any other. -/
inductive SocketError where
  | refused (name : Text)
  | other (name : Text)

/-- What the handshake uses of its settings, with `json.loads`, `str` of a decoded value, and
`base64.b64decode(value, validate=True)`. -/
structure SocketSettings where
  handshakeTimeoutSeconds : Int
  heartbeatSeconds : Int
  signerKeyId : Text
  loads : Text → Except SocketError (Json Text)
  pyStr : Json Text → Text
  b64decode : Json Text → Except SocketError Bytes

/-- A row of `acs.controllers`, as far as the handshake reads it. -/
structure RegisteredController where
  id : Uuid
  code : Text
  publicKey : Bytes
  isBlocked : Bool

/-! ## What the socket calls -/

inductive SocketOp where
  | accept
  | tokenBytes (count : Nat)
  | time
  /-- the text is `json.dumps(message, separators=(",", ":"))` -/
  | sendText (message : Json Text)
  | receiveText (timeoutSeconds : Int)
  | close (code : Int)
  | byCode (code : Text)
  /-- `Ed25519PublicKey.verify`, which raises `InvalidSignature` where this is false -/
  | verify (publicKey signature message : Bytes)
  | touchSeen (id : Uuid) (ip : Option Text) (firmwareVersion : Option (Json Text))
  | audit (record : AuditCall)
  | register (controllerId : Uuid) (controllerCode : Text) (remoteIp : Option Text)
      (firmwareVersion : Option (Json Text))
  /-- The holder of a key signs a message. -/
  | sign (publicKey message : Bytes)
  /-- `ControllerRepository.register` -/
  | insertController (row : RegisteredController)
  /-- `ControllerRepository.block` -/
  | block (id : Uuid) (reason : Text)

/- `receiveText` answers nothing at a timeout or a disconnect -/
abbrev SocketOp.Res : SocketOp → Type
  | .accept => Except SocketError Unit
  | .tokenBytes _ => Bytes
  | .time => Int
  | .sendText _ => Except SocketError Unit
  | .receiveText _ => Option Text
  | .close _ => Except SocketError Unit
  | .byCode _ => Except SocketError (Option RegisteredController)
  | .verify _ _ _ => Bool
  | .touchSeen _ _ _ => Except SocketError Unit
  | .audit _ => Except SocketError Int
  | .register _ _ _ _ => Unit
  | .sign _ _ => Unit
  | .insertController _ => Except DbError Unit
  | .block _ _ => Unit

abbrev SocketEvent := Kit.Event SocketOp SocketOp.Res
abbrev SocketPy := ExceptT SocketError (Kit.Prog SocketOp SocketOp.Res)

/-! ## The handshake -/

/-- `AUTH_DOMAIN` -/
def authDomain : Bytes := ascii "acs-controller-auth:v1" ++ [0]

/-- `auth_message`; `none` is a `UnicodeEncodeError`. -/
def authMessage (controllerCode : Text) (nonce : Bytes) : Option Bytes :=
  (encodeUtf8 controllerCode).map fun code => authDomain ++ code ++ [0] ++ nonce

def challenge (nonce : Bytes) (serverTime : Int) : Json Text :=
  .obj [(text "type", .str (text "challenge")), (text "nonce", .str (chars (b64encode nonce))),
    (text "server_time", .int serverTime)]

/-- The frame that answers a challenge. -/
structure AuthFrame where
  controllerCode : Text
  signature : Bytes
  firmwareVersion : Option (Json Text)

def maxMessageBytes : Nat := 16 * 1024

section Socket

variable (settings : SocketSettings)

/-- `str(value)` -/
def pyString : Json Text → Text
  | .str s => s
  | value => settings.pyStr value

/-- `message[key]` -/
def frameItem (message : Dict) (key : String) : Except SocketError (Json Text) :=
  match Json.get? message (text key) with
  | some value => .ok value
  | none => .error (.refused (text "KeyError"))

/-- The frame, as far as it is read before the lookup. -/
def readAuth (raw : Text) : Except SocketError AuthFrame := do
  if raw.length > maxMessageBytes then throw (.refused (text "ValueError"))
  match ← settings.loads raw with
  | .obj message =>
      match Json.get? message (text "type") with
      | some (.str kind) =>
          if kind ≠ text "auth" then throw (.refused (text "ValueError"))
          let code ← frameItem message "controller_code"
          let signature ← settings.b64decode (← frameItem message "signature")
          return ⟨pyString settings code, signature,
            Json.get? message (text "firmware_version")⟩
      | _ => throw (.refused (text "ValueError"))
  | _ => throw (.other (text "AttributeError"))

/-- The check of the signature. -/
def verifyAuth (frame : AuthFrame) (controller : RegisteredController) (nonce : Bytes) :
    SocketPy (Except SocketError AuthFrame) := do
  if controller.publicKey.length ≠ 32 then return .error (.refused (text "ValueError"))
  else
    match authMessage frame.controllerCode nonce with
    | none => return .error (.refused (text "UnicodeEncodeError"))
    | some message =>
        let valid ← call (SocketOp.verify controller.publicKey frame.signature message)
        if valid then return .ok frame
        else return .error (.refused (text "InvalidSignature"))

/-- The `try` block: the row that was found, and what the block came to. -/
def authorise (nonce : Bytes) (raw : Text) :
    SocketPy (Option RegisteredController × Except SocketError AuthFrame) := do
  match readAuth settings raw with
  | .error error => return (none, .error error)
  | .ok frame =>
      let answer : Except SocketError (Option RegisteredController) ←
        call (SocketOp.byCode frame.controllerCode)
      match answer with
      | .error error => return (none, .error error)
      | .ok none => return (none, .error (.refused (text "ValueError")))
      | .ok (some controller) =>
          if controller.isBlocked then
            return (some controller, .error (.refused (text "ValueError")))
          else return (some controller, ← verifyAuth frame controller nonce)

/-- After a refusal. -/
def reject (peer : Option Text) (controller : Option RegisteredController) (name : Text) :
    SocketPy Unit := do
  let _ ← attempt (SocketOp.audit
    { event := .controllerAuthFailed, outcome := .failure, actorType := .controller,
      controllerId := controller.map RegisteredController.id, clientIp := peer,
      detail := [(text "reason", .str name)] }) id
  attempt (SocketOp.close 4401) id

/-- After the signature was verified. -/
def registerSession (peer : Option Text) (frame : AuthFrame) (controller : RegisteredController) :
    SocketPy Unit := do
  attempt (SocketOp.touchSeen controller.id peer frame.firmwareVersion) id
  let _ ← attempt (SocketOp.audit
    { event := .controllerConnected, outcome := .success, actorType := .controller,
      controllerId := some controller.id, clientIp := peer,
      detail := [(text "controller_code", .str controller.code),
        (text "firmware_version", frame.firmwareVersion.getD .null)] }) id
  attempt (SocketOp.sendText (.obj
    [(text "type", .str (text "auth_ok")), (text "heartbeat", .int settings.heartbeatSeconds),
      (text "signer_key_id", .str settings.signerKeyId)])) id
  call (SocketOp.register controller.id controller.code peer frame.firmwareVersion)

/-- `controller_socket`, until the session is registered. -/
def controllerSocket (peer : Option Text) : SocketPy Unit := do
  attempt SocketOp.accept id
  let nonce ← call (SocketOp.tokenBytes 32)
  let serverTime ← call SocketOp.time
  attempt (SocketOp.sendText (challenge nonce serverTime)) id
  let received ← call (SocketOp.receiveText settings.handshakeTimeoutSeconds)
  match received with
  | none => attempt (SocketOp.close 4408) id
  | some raw =>
      match ← authorise settings nonce raw with
      | (controller, .error (.refused name)) => reject peer controller name
      | (_, .error error) => throw error
      | (none, .ok _) => throw (.other (text "TypeError"))
      | (some controller, .ok frame) => registerSession settings peer frame controller

end Socket

/-! ## The tables -/

/-- `acs.controllers`, with its constraints. -/
structure ControllerTable where
  rows : List RegisteredController
  codes_unique : (rows.map RegisteredController.code).Nodup
  keys_unique : (rows.map RegisteredController.publicKey).Nodup
  keys_length : ∀ row ∈ rows, row.publicKey.length = 32

namespace ControllerTable

def empty : ControllerTable :=
  ⟨[], List.nodup_nil, List.nodup_nil, fun _ mem => absurd mem List.not_mem_nil⟩

/-- `ControllerRepository.by_code` -/
def byCode (table : ControllerTable) (code : Text) : Option RegisteredController :=
  table.rows.find? fun row => row.code = code

/-- `INSERT INTO acs.controllers` -/
def insert (table : ControllerTable) (row : RegisteredController) :
    Except DbError ControllerTable :=
  if key : row.publicKey.length ≠ 32 then .error (.checkViolation "controllers_public_key_len")
  else if code : row.code ∈ table.rows.map RegisteredController.code then
    .error (.uniqueViolation "controllers_code_key")
  else if used : row.publicKey ∈ table.rows.map RegisteredController.publicKey then
    .error (.uniqueViolation "controllers_public_key_key")
  else .ok
    { rows := row :: table.rows
      codes_unique := List.nodup_cons.mpr ⟨code, table.codes_unique⟩
      keys_unique := List.nodup_cons.mpr ⟨used, table.keys_unique⟩
      keys_length := List.forall_mem_cons.mpr ⟨not_not.mp key, table.keys_length⟩ }

def setBlocked (id : Uuid) (row : RegisteredController) : RegisteredController :=
  if row.id = id then { row with isBlocked := true } else row

theorem setBlocked_code (id : Uuid) (row : RegisteredController) :
    (setBlocked id row).code = row.code := by
  unfold setBlocked
  split_ifs <;> rfl

theorem setBlocked_publicKey (id : Uuid) (row : RegisteredController) :
    (setBlocked id row).publicKey = row.publicKey := by
  unfold setBlocked
  split_ifs <;> rfl

/-- Blocking keeps a column. -/
theorem map_setBlocked {α : Type} {column : RegisteredController → α} (id : Uuid)
    (kept : ∀ row, column (setBlocked id row) = column row) (rows : List RegisteredController) :
    (rows.map (setBlocked id)).map column = rows.map column := by
  rw [List.map_map]
  exact List.map_congr_left fun row _ => kept row

theorem keys_length_setBlocked (id : Uuid) {rows : List RegisteredController}
    (known : ∀ row ∈ rows, row.publicKey.length = 32) :
    ∀ row ∈ rows.map (setBlocked id), row.publicKey.length = 32 := by
  intro row mem
  obtain ⟨before, inside, rfl⟩ := List.mem_map.mp mem
  rw [setBlocked_publicKey]
  exact known before inside

/-- `ControllerRepository.block` -/
def block (table : ControllerTable) (id : Uuid) : ControllerTable where
  rows := table.rows.map (setBlocked id)
  codes_unique := (map_setBlocked id (setBlocked_code id) table.rows).symm ▸ table.codes_unique
  keys_unique :=
    (map_setBlocked id (setBlocked_publicKey id) table.rows).symm ▸ table.keys_unique
  keys_length := keys_length_setBlocked id table.keys_length

/-- The key of a controller: codes and keys are never changed, and no row is deleted. -/
def HasKey (table : ControllerTable) (code : Text) (publicKey : Bytes) : Prop :=
  ∃ row ∈ table.rows, row.code = code ∧ row.publicKey = publicKey

/-- A controller has one key. -/
theorem HasKey.unique {table : ControllerTable} {code : Text} {key key' : Bytes}
    (has : table.HasKey code key) (has' : table.HasKey code key') : key = key' := by
  obtain ⟨row, mem, isCode, rfl⟩ := has
  obtain ⟨row', mem', isCode', rfl⟩ := has'
  obtain rfl := List.inj_on_of_nodup_map table.codes_unique mem mem' (isCode.trans isCode'.symm)
  rfl

theorem HasKey.insert {table table' : ControllerTable} {row : RegisteredController} {code : Text}
    {key : Bytes} (inserted : table.insert row = .ok table') (has : table.HasKey code key) :
    table'.HasKey code key := by
  obtain ⟨known, mem, facts⟩ := has
  unfold ControllerTable.insert at inserted
  split_ifs at inserted
  obtain rfl := Except.ok.inj inserted
  exact ⟨known, List.mem_cons_of_mem _ mem, facts⟩

theorem HasKey.block {table : ControllerTable} {code : Text} {key : Bytes}
    (has : table.HasKey code key) (id : Uuid) : (table.block id).HasKey code key := by
  obtain ⟨row, mem, isCode, isKey⟩ := has
  exact ⟨setBlocked id row, List.mem_map.mpr ⟨row, mem, rfl⟩,
    (setBlocked_code id row).trans isCode, (setBlocked_publicKey id row).trans isKey⟩

theorem hasKey_of_byCode {table : ControllerTable} {code : Text} {row : RegisteredController}
    (found : table.byCode code = some row) :
    row.code = code ∧ table.HasKey code row.publicKey := by
  unfold byCode at found
  have same : row.code = code := by simpa using List.find?_some found
  exact ⟨same, row, List.mem_of_find?_eq_some found, same, rfl⟩

end ControllerTable

/-! ## Connections over them -/

/-- The controllers, the nonces drawn and for which connection, what was signed with which
key, and the hub, whose sessions have a connection at their remote end. -/
structure HandshakeStore where
  controllers : ControllerTable
  nonces : List (Nat × Bytes)
  signed : List (Bytes × Bytes)
  hub : Hub Nat

/-- What the environment decides: what is drawn, what comes in, what a check of a signature
says, and what is raised. -/
structure HandshakeChoice where
  nonce : Bytes := []
  now : Int := 0
  frame : Option Text := none
  valid : Bool := false
  raised : Option SocketError := none
  seq : Int := 0

/-- A statement that may raise. -/
def HandshakeChoice.orRaise {α : Type} (choice : HandshakeChoice) (value : α) :
    Except SocketError α :=
  match choice.raised with
  | some error => .error error
  | none => .ok value

def handshakeServer : Kit.Server HandshakeStore SocketOp SocketOp.Res HandshakeChoice where
  exec
    | _, .accept, choice, s => some (choice.orRaise (), s)
    | i, .tokenBytes count, choice, s =>
        if choice.nonce.length ≠ count ∨ choice.nonce ∈ s.nonces.map Prod.snd then none
        else some (choice.nonce, { s with nonces := (i, choice.nonce) :: s.nonces })
    | _, .time, choice, s => some (choice.now, s)
    | _, .sendText _, choice, s => some (choice.orRaise (), s)
    | _, .receiveText _, choice, s => some (choice.frame, s)
    | _, .close _, choice, s => some (choice.orRaise (), s)
    | _, .byCode code, choice, s => some (choice.orRaise (s.controllers.byCode code), s)
    | _, .verify publicKey _ message, choice, s =>
        if choice.valid && !s.signed.contains (publicKey, message) then none
        else some (choice.valid, s)
    | _, .touchSeen _ _ _, choice, s => some (choice.orRaise (), s)
    | _, .audit _, choice, s => some (choice.orRaise choice.seq, s)
    | i, .register _ code _ _, _, s => some ((), { s with hub := s.hub.register i code })
    | _, .sign publicKey message, _, s =>
        some ((), { s with signed := (publicKey, message) :: s.signed })
    | _, .insertController row, _, s =>
        match s.controllers.insert row with
        | .ok controllers => some (.ok (), { s with controllers })
        | .error error => some (.error error, s)
    | _, .block id _, _, s => some ((), { s with controllers := s.controllers.block id })

/-- What goes on around the hub: connections, controllers that sign, and the administrator. -/
inductive HandshakeRequest where
  | connect (peer : Option Text)
  | sign (publicKey message : Bytes)
  | create (row : RegisteredController)
  | block (id : Uuid) (reason : Text)

def handshakeBody (settings : SocketSettings) :
    HandshakeRequest → Kit.Prog SocketOp SocketOp.Res (Except SocketError Unit)
  | .connect peer => (controllerSocket settings peer).run
  | .sign publicKey message => (call (SocketOp.sign publicKey message) : SocketPy Unit).run
  | .create row =>
      (do let _ ← call (SocketOp.insertController row)
          return () : SocketPy Unit).run
  | .block id reason => (call (SocketOp.block id reason) : SocketPy Unit).run

abbrev HandshakeCall :=
  Kit.Call HandshakeRequest SocketOp SocketOp.Res (Except SocketError Unit)
abbrev HandshakePool :=
  Kit.Pool HandshakeStore HandshakeRequest SocketOp SocketOp.Res (Except SocketError Unit)
abbrev HandshakeAction := Kit.Action HandshakeRequest HandshakeChoice

/-- Nobody is known, and nothing has been signed. -/
def quietHandshakes : HandshakePool := ⟨⟨.empty, [], [], .empty⟩, []⟩

/-- The states that any interleaving reaches. -/
abbrev HandshakeReach (settings : SocketSettings) (p : HandshakePool) : Prop :=
  Kit.Pool.Reach handshakeServer (handshakeBody settings) (fun _ _ => true) quietHandshakes p

end DoorsControl.Backend
