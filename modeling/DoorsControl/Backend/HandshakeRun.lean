import DoorsControl.Backend.Handshake
import DoorsControl.Backend.HubRun
import DoorsControl.Data.Utf8

/-!
# Who is at the other end of a session

Connections, signing controllers and the administrator, interleaved operation by operation;
what comes in on a connection is anything, a recorded frame of another one included.

* `authMessage_inj` — a message is for one code and one nonce;
* `controllerSocket_proven` — what one connection has done when it comes to `register`;
* `HandshakeInv` — **the invariant**: what a connection was told is in the tables;
* `session_authenticated` — whoever is registered under a code has its key, and used it on
  this connection.
-/

namespace DoorsControl.Backend

open Kit.Prog

/-! ## The message -/

theorem encodeUtf8_inj {s t : Text} {bytes : Bytes} (first : encodeUtf8 s = some bytes)
    (second : encodeUtf8 t = some bytes) : s = t :=
  utf8_inj ((utf8_of_encodeUtf8 first).trans (utf8_of_encodeUtf8 second).symm)

/-- A message is for one code and one nonce. -/
theorem authMessage_inj {code code' : Text} {nonce nonce' message : Bytes}
    (length : nonce.length = nonce'.length) (first : authMessage code nonce = some message)
    (second : authMessage code' nonce' = some message) : code = code' ∧ nonce = nonce' := by
  obtain ⟨bytes, encoded, rfl⟩ := Option.map_eq_some_iff.mp first
  obtain ⟨bytes', encoded', same⟩ := Option.map_eq_some_iff.mp second
  obtain ⟨front, nonces⟩ := List.append_inj' same length.symm
  obtain rfl : bytes' = bytes := by simpa using front
  exact ⟨encodeUtf8_inj encoded encoded', nonces.symm⟩

/-! ## One connection -/

/-- The nonce was drawn and has gone out. -/
def Challenged (hist : List SocketEvent) (nonce : Bytes) : Prop :=
  ⟨.tokenBytes 32, nonce⟩ ∈ hist ∧
    ∃ serverTime, ⟨.sendText (challenge nonce serverTime), .ok ()⟩ ∈ hist

/-- Someone with the key of the controller, which was not blocked, has signed the nonce. -/
def Proven (hist : List SocketEvent) (code : Text) : Prop :=
  ∃ (nonce : Bytes) (presented : Text) (controller : RegisteredController)
    (signature message : Bytes), Challenged hist nonce ∧
      ⟨.byCode presented, .ok (some controller)⟩ ∈ hist ∧ controller.isBlocked = false ∧
      controller.code = code ∧ authMessage presented nonce = some message ∧
      ⟨.verify controller.publicKey signature message, true⟩ ∈ hist

/-- Only what is proven is registered. -/
def Justified (hist : List SocketEvent) : SocketOp → Prop
  | .register _ code _ _ => Proven hist code
  | _ => True

theorem Challenged.cons {hist : List SocketEvent} {nonce : Bytes} (e : SocketEvent)
    (challenged : Challenged hist nonce) : Challenged (e :: hist) nonce := by
  obtain ⟨drawn, serverTime, sent⟩ := challenged
  exact ⟨List.mem_cons_of_mem _ drawn, serverTime, List.mem_cons_of_mem _ sent⟩

theorem Proven.cons {hist : List SocketEvent} {code : Text} (e : SocketEvent)
    (proven : Proven hist code) : Proven (e :: hist) code := by
  obtain ⟨nonce, presented, controller, signature, message, challenged, found, free, same, isMessage,
    verified⟩ := proven
  exact ⟨nonce, presented, controller, signature, message, challenged.cons e,
    List.mem_cons_of_mem _ found, free, same, isMessage, List.mem_cons_of_mem _ verified⟩

section Socket

variable (settings : SocketSettings)

/-- A statement of which nothing more is needed. -/
theorem attempt_justified {α : Type} {o : SocketOp} {answer : o.Res → Except SocketError α}
    {hist : List SocketEvent} (allowed : Justified hist o) :
    Always Justified (OnOk fun _ _ => True) hist (attempt o answer).run := by
  refine ⟨allowed, fun r => ?_⟩
  show OnOk _ _ (answer r)
  cases answer r <;> trivial

theorem reject_justified (peer : Option Text) (controller : Option RegisteredController)
    (name : Text) (hist : List SocketEvent) :
    Always Justified (OnOk fun _ _ => True) hist (reject peer controller name).run := by
  unfold reject
  refine always_attemptBind trivial fun _ _ _ => ?_
  exact attempt_justified trivial

theorem registerSession_justified (peer : Option Text) (frame : AuthFrame)
    (controller : RegisteredController) {hist : List SocketEvent}
    (proven : Proven hist controller.code) :
    Always Justified (OnOk fun _ _ => True) hist (registerSession settings peer frame controller).run := by
  unfold registerSession
  refine always_attemptBind trivial fun _ _ _ => ?_
  refine always_attemptBind trivial fun _ _ _ => ?_
  refine always_attemptBind trivial fun _ _ _ => ?_
  exact ⟨((proven.cons _).cons _).cons _, fun _ => trivial⟩

/-- What the `try` block has established when it comes to its end. -/
def Established (hist : List SocketEvent)
    (outcome : Option RegisteredController × Except SocketError AuthFrame) : Prop :=
  ∀ controller frame, outcome = (some controller, .ok frame) → Proven hist controller.code

/-- The check of a signature of a controller that was found and is not blocked. -/
theorem verifyAuth_established {nonce : Bytes} {frame : AuthFrame}
    {controller : RegisteredController} {hist : List SocketEvent}
    (challenged : Challenged hist nonce)
    (found : ⟨.byCode frame.controllerCode, .ok (some controller)⟩ ∈ hist)
    (free : controller.isBlocked = false) :
    Always Justified (OnOk fun hist result => Established hist (some controller, result)) hist
      (verifyAuth frame controller nonce).run := by
  unfold verifyAuth
  split_ifs
  · rintro _ _ ⟨⟩
  · cases isMessage : authMessage frame.controllerCode nonce with
    | none => rintro _ _ ⟨⟩
    | some message =>
        refine ⟨trivial, fun valid => ?_⟩
        cases valid with
        | false => rintro _ _ ⟨⟩
        | true =>
            rintro _ _ ⟨⟩
            exact ⟨nonce, _, controller, frame.signature, message, challenged.cons _,
              List.mem_cons_of_mem _ found, free, rfl, isMessage, List.mem_cons_self⟩

theorem authorise_established {nonce : Bytes} (raw : Text) {hist : List SocketEvent}
    (challenged : Challenged hist nonce) :
    Always Justified (OnOk Established) hist (authorise settings nonce raw).run := by
  unfold authorise
  cases readAuth settings raw with
  | error error => rintro _ _ ⟨⟩
  | ok frame =>
      simp only [always_callBind]
      refine ⟨trivial, fun answer => ?_⟩
      rcases answer with error | _ | controller
      · rintro _ _ ⟨⟩
      · rintro _ _ ⟨⟩
      · dsimp only
        split_ifs with blocked
        · rintro _ _ ⟨⟩
        · refine always_seq (verifyAuth_established (challenged.cons _) List.mem_cons_self
            (Bool.not_eq_true _ ▸ blocked)) ?_
          exact fun _ _ established => established

/-- What one connection has done when it comes to `register`. -/
theorem controllerSocket_proven (peer : Option Text) :
    Always Justified (OnOk fun _ _ => True) [] (controllerSocket settings peer).run := by
  unfold controllerSocket
  refine always_attemptBind trivial fun accepted _ _ => ?_
  refine ⟨trivial, fun nonce => ⟨trivial, fun serverTime => ?_⟩⟩
  refine always_attemptBind trivial fun answer sent isSent => ?_
  obtain rfl : answer = .ok () := isSent
  refine ⟨trivial, fun received => ?_⟩
  cases received with
  | none => exact attempt_justified trivial
  | some raw =>
      have challenged : Challenged
          [⟨.receiveText settings.handshakeTimeoutSeconds, some raw⟩,
            ⟨.sendText (challenge nonce serverTime), .ok ()⟩, ⟨.time, serverTime⟩,
            ⟨.tokenBytes 32, nonce⟩, ⟨.accept, accepted⟩] nonce :=
        ⟨by simp, serverTime, by simp⟩
      refine always_seq (authorise_established settings raw challenged) ?_
      · rintro hist ⟨controller, result⟩ established
        rcases result with error | frame
        · cases error with
          | refused name => exact reject_justified peer controller name hist
          | other name => cases controller <;> trivial
        · cases controller with
          | none => trivial
          | some controller =>
              exact registerSession_justified settings peer frame controller (established _ _ rfl)

end Socket

theorem handshakeBody_justified (settings : SocketSettings) (req : HandshakeRequest) :
    Always Justified (OnOk fun _ _ => True) [] (handshakeBody settings req) := by
  cases req with
  | connect peer => exact controllerSocket_proven settings peer
  | sign publicKey message => exact ⟨trivial, fun _ => trivial⟩
  | create row => exact ⟨trivial, fun _ => trivial⟩
  | block id reason => exact ⟨trivial, fun _ => trivial⟩

/-! ## Every run -/

/-- What happens to the tables while call `i` performs `o`. -/
structure Grows (i : Nat) (o : SocketOp) (s s' : HandshakeStore) : Prop where
  nonces : ∀ entry ∈ s.nonces, entry ∈ s'.nonces
  distinct : (s.nonces.map Prod.snd).Nodup → (s'.nonces.map Prod.snd).Nodup
  keys : ∀ code key, s.controllers.HasKey code key → s'.controllers.HasKey code key
  signed : ∀ entry ∈ s.signed, entry ∈ s'.signed
  sessions : ∀ object ∈ s'.hub.objects, object ∈ s.hub.objects ∨
    (object.remote = i ∧ ∃ id ip version, o = .register id object.controllerCode ip version)

/-- What an event of call `i` says of the tables. -/
structure Tells (i : Nat) (e : SocketEvent) (s : HandshakeStore) : Prop where
  nonce : ∀ nonce, e = ⟨.tokenBytes 32, nonce⟩ → nonce.length = 32 ∧ (i, nonce) ∈ s.nonces
  found : ∀ code row, e = ⟨.byCode code, .ok (some row)⟩ →
    row.code = code ∧ s.controllers.HasKey code row.publicKey
  verified : ∀ key signature message, e = ⟨.verify key signature message, true⟩ →
    (key, message) ∈ s.signed

theorem Grows.refl (i : Nat) (o : SocketOp) (s : HandshakeStore) : Grows i o s s :=
  ⟨fun _ mem => mem, id, fun _ _ has => has, fun _ mem => mem, fun _ mem => .inl mem⟩

/-- What an event says stays true. -/
theorem Tells.grows {i j : Nat} {o : SocketOp} {e : SocketEvent} {s s' : HandshakeStore}
    (tells : Tells i e s) (grows : Grows j o s s') : Tells i e s' where
  nonce value same := ⟨(tells.nonce value same).1, grows.nonces _ (tells.nonce value same).2⟩
  found code row same := ⟨(tells.found code row same).1, grows.keys _ _ (tells.found code row same).2⟩
  verified key signature message same := grows.signed _ (tells.verified key signature message same)

theorem eq_of_orRaise {α : Type} {choice : HandshakeChoice} {value answer : α}
    (h : choice.orRaise value = .ok answer) : value = answer := by
  unfold HandshakeChoice.orRaise at h
  split at h
  · cases h
  · exact Except.ok.inj h

/-- One operation: what it leaves alone, and what its answer means. -/
theorem handshake_step {i : Nat} {o : SocketOp} {choice : HandshakeChoice}
    {s s' : HandshakeStore} {r : o.Res}
    (answered : handshakeServer.exec i o choice s = some (r, s')) :
    Grows i o s s' ∧ Tells i ⟨o, r⟩ s' := by
  cases o with
  | tokenBytes count =>
      change (if _ then none else some _) = _ at answered
      split_ifs at answered with stale
      obtain ⟨rfl, rfl⟩ := Prod.mk.inj (Option.some.inj answered)
      obtain ⟨length, fresh⟩ := not_or.mp stale
      refine ⟨⟨fun _ => List.mem_cons_of_mem _, fun distinct => ?_, fun _ _ => id, fun _ => id,
        fun _ => .inl⟩, ?_, by simp, by simp⟩
      · exact List.nodup_cons.mpr ⟨fresh, distinct⟩
      · rintro nonce ⟨⟩
        exact ⟨not_not.mp length, List.mem_cons_self⟩
  | byCode code =>
      obtain ⟨rfl, rfl⟩ := Prod.mk.inj (Option.some.inj answered)
      refine ⟨.refl _ _ _, by simp, ?_, by simp⟩
      intro code' row same
      obtain ⟨isCode, isRow⟩ := Kit.Event.mk.inj same
      obtain rfl := SocketOp.byCode.inj isCode
      exact ControllerTable.hasKey_of_byCode (eq_of_orRaise (eq_of_heq isRow))
  | verify key signature message =>
      change (if _ then none else some _) = _ at answered
      split_ifs at answered with forged
      obtain ⟨rfl, rfl⟩ := Prod.mk.inj (Option.some.inj answered)
      refine ⟨.refl _ _ _, by simp, by simp, ?_⟩
      intro key' signature' message' same
      obtain ⟨isVerify, valid⟩ := Kit.Event.mk.inj same
      obtain ⟨rfl, rfl, rfl⟩ := SocketOp.verify.inj isVerify
      rw [eq_of_heq valid] at forged
      simpa using forged
  | register id code ip version =>
      obtain ⟨rfl, rfl⟩ := Prod.mk.inj (Option.some.inj answered)
      refine ⟨⟨fun _ h => h, fun h => h, fun _ _ h => h, fun _ h => h, ?_⟩, by simp, by simp,
        by simp⟩
      intro object mem
      rw [HubRun.register_objects] at mem
      rcases List.mem_append.mp mem with old | new
      · exact .inl old
      · rw [List.mem_singleton.mp new]
        exact .inr ⟨rfl, id, ip, version, rfl⟩
  | sign key message =>
      obtain ⟨rfl, rfl⟩ := Prod.mk.inj (Option.some.inj answered)
      exact ⟨⟨fun _ => id, id, fun _ _ => id, fun _ => List.mem_cons_of_mem _, fun _ => .inl⟩,
        by simp, by simp, by simp⟩
  | insertController row =>
      simp only [handshakeServer] at answered
      split at answered
      · rename_i controllers inserted
        obtain ⟨rfl, rfl⟩ := Prod.mk.inj (Option.some.inj answered)
        exact ⟨⟨fun _ h => h, fun h => h, fun _ _ has => has.insert inserted, fun _ h => h,
          fun _ => .inl⟩, by simp, by simp, by simp⟩
      · obtain ⟨rfl, rfl⟩ := Prod.mk.inj (Option.some.inj answered)
        exact ⟨.refl _ _ _, by simp, by simp, by simp⟩
  | block id reason =>
      obtain ⟨rfl, rfl⟩ := Prod.mk.inj (Option.some.inj answered)
      exact ⟨⟨fun _ h => h, fun h => h, fun _ _ has => has.block id, fun _ h => h, fun _ => .inl⟩,
        by simp, by simp, by simp⟩
  | _ =>
      obtain ⟨rfl, rfl⟩ := Prod.mk.inj (Option.some.inj answered)
      exact ⟨.refl _ _ _, by simp, by simp, by simp⟩

/-- What holds in every state of every run. -/
structure HandshakeInv (p : HandshakePool) : Prop where
  distinct : (p.store.nonces.map Prod.snd).Nodup
  told : ∀ i c, p.calls[i]? = some c → ∀ e ∈ c.hist, Tells i e p.store
  sessions : ∀ object ∈ p.store.hub.objects,
    ∃ c, p.calls[object.remote]? = some c ∧ Proven c.hist object.controllerCode

theorem handshakeInv_of_reach {settings : SocketSettings} {p : HandshakePool}
    (reach : HandshakeReach settings p) : HandshakeInv p := by
  refine reach.invariant HandshakeInv ⟨by simp [quietHandshakes], by simp [quietHandshakes],
    by simp [quietHandshakes, Hub.empty]⟩ ?_
  intro p a q reach inv _ stepped
  rcases Kit.Pool.step_cases stepped with
    ⟨req, rfl, rfl⟩ | ⟨i, choice, req, hist, o, next, r, store, rfl, found, answered, rfl⟩
  · refine ⟨inv.distinct, ?_, ?_⟩
    · intro i c found e mem
      rcases Kit.Pool.get_append_cases found with known | rfl
      · exact inv.told i c known e mem
      · cases mem
    · intro object mem
      obtain ⟨c, known, proven⟩ := inv.sessions object mem
      exact ⟨c, Kit.Pool.get_append_old known, proven⟩
  · obtain ⟨grows, tells⟩ := handshake_step answered
    have steps := reach.steps rfl _ (List.mem_of_getElem? found)
    have justified := ((handshakeBody_justified settings req).along steps).1
    have started := (List.getElem?_eq_some_iff.mp found).1
    refine ⟨grows.distinct inv.distinct, ?_, ?_⟩
    · intro j c found' e mem
      rcases Kit.Pool.get_set_cases found' with ⟨rfl, rfl⟩ | ⟨-, known⟩
      · rcases List.mem_cons.mp mem with rfl | old
        · exact tells
        · exact (inv.told j _ found e old).grows grows
      · exact (inv.told j c known e mem).grows grows
    · -- the call that registers has proven it, and the others go on as they were
      have own : ∀ code, Proven hist code →
          ∃ c, (p.calls.set i ⟨req, ⟨o, r⟩ :: hist, next r⟩)[i]? = some c ∧ Proven c.hist code :=
        fun code proven => ⟨_, List.getElem?_set_self started, proven.cons _⟩
      intro object mem
      rcases grows.sessions object mem with old | ⟨isRemote, id, ip, version, rfl⟩
      · obtain ⟨c, known, proven⟩ := inv.sessions object old
        by_cases same : object.remote = i
        · rw [same] at known ⊢
          obtain rfl := Option.some.inj (found.symm.trans known)
          exact own _ proven
        · refine ⟨c, ?_, proven⟩
          rw [List.getElem?_set_ne (Ne.symm same)]
          exact known
      · rw [isRemote]
        exact own _ justified

/-! ## The sessions -/

/-- The far end of a connection holds the key of the controller: the connection drew a nonce
and sent it out, found the controller and found it not blocked, and the key has signed the
message for the code and this nonce, which is the message of no other connection. -/
def Authenticated (p : HandshakePool) (connection : Nat) (code : Text) : Prop :=
  ∃ (c : HandshakeCall) (nonce message : Bytes) (controller : RegisteredController),
    p.calls[connection]? = some c ∧ Challenged c.hist nonce ∧
      ⟨.byCode code, .ok (some controller)⟩ ∈ c.hist ∧ controller.isBlocked = false ∧
      p.store.controllers.HasKey code controller.publicKey ∧
      authMessage code nonce = some message ∧
      (controller.publicKey, message) ∈ p.store.signed ∧
      ∀ (other : Nat) (d : HandshakeCall) (nonce' : Bytes) (code' : Text), other ≠ connection →
        p.calls[other]? = some d → Challenged d.hist nonce' →
          authMessage code' nonce' ≠ some message

theorem nonce_of_challenged {p : HandshakePool} (inv : HandshakeInv p) {i : Nat}
    {c : HandshakeCall} (found : p.calls[i]? = some c) {nonce : Bytes}
    (challenged : Challenged c.hist nonce) : nonce.length = 32 ∧ (i, nonce) ∈ p.store.nonces :=
  (inv.told i c found _ challenged.1).nonce nonce rfl

/-- Whoever is registered under a code has used its key on this connection. -/
theorem session_authenticated {settings : SocketSettings} {p : HandshakePool}
    (reach : HandshakeReach settings p) :
    ∀ object ∈ p.store.hub.objects, Authenticated p object.remote object.controllerCode := by
  intro object mem
  have inv := handshakeInv_of_reach reach
  obtain ⟨c, found, nonce, presented, controller, signature, message, challenged, looked, free,
    same, isMessage, verified⟩ := inv.sessions object mem
  obtain ⟨isCode, hasKey⟩ := (inv.told _ c found _ looked).found presented controller rfl
  obtain rfl : presented = object.controllerCode := isCode.symm.trans same
  obtain ⟨length, drawn⟩ := nonce_of_challenged inv found challenged
  refine ⟨c, nonce, message, controller, found, challenged, looked, free, hasKey, isMessage,
    (inv.told _ c found _ verified).verified _ _ _ rfl, ?_⟩
  intro other d nonce' code' apart found' challenged' isMessage'
  obtain ⟨length', drawn'⟩ := nonce_of_challenged inv found' challenged'
  obtain ⟨-, rfl⟩ := authMessage_inj (length.trans length'.symm) isMessage isMessage'
  have entry := List.inj_on_of_nodup_map inv.distinct drawn' drawn rfl
  exact apart (Prod.mk.inj entry).1

end DoorsControl.Backend
