import DoorsControl.Backend.Hub
import DoorsControl.Kit.Pool

/-!
# The sessions of the controllers

`ControllerHub`: who is connected, and which calls wait for an acknowledgement. A session
outlives its entry in `_sessions`, and a future its entry in `pending`; the objects are
kept in lists here, and a reference to one is its place in the list.

* `Hub.Ok` — every reference leads to an object that fits it;
* `Hub.Evolves` — what an operation keeps: whose session it is, what a future is for, and
  every result but the ones that come in.
-/

namespace DoorsControl.Backend

inductive FutureState where
  | pending
  | result (message : Dict)
  /-- `ControllerOffline(message)` -/
  | failed (message : Text)
  /-- by `wait_for`, at the timeout or with the task that waits -/
  | cancelled

/-- A future, and the session and the command that it was made for. -/
structure Future where
  session : Nat
  commandId : Text
  state : FutureState

/-- `if not future.done():` set its result or its exception. -/
def Future.settle (future : Future) (state : FutureState) : Future :=
  match future.state with
  | .pending => { future with state }
  | _ => future

/-- `ControllerSession`; `remote` is who is at the other end. -/
structure Session (ρ : Type) where
  remote : ρ
  controllerCode : Text
  pending : List (Text × Nat)

structure Hub (ρ : Type) where
  objects : List (Session ρ)
  /-- `_sessions` -/
  sessions : Text → Option Nat
  futures : List Future

namespace Hub

open Kit.Pool (get_append_cases get_append_old)

variable {ρ : Type}

def empty : Hub ρ := ⟨[], fun _ => none, []⟩

/-- `session.pending` -/
def pendingOf (hub : Hub ρ) (session : Nat) : List (Text × Nat) :=
  (hub.objects[session]?.map Session.pending).getD []

def settle (hub : Hub ρ) (which : List Nat) (state : FutureState) : Hub ρ :=
  { hub with
    futures := hub.futures.mapIdx fun reference future =>
      if which.contains reference then future.settle state else future }

/-- `for future in session.pending.values()` -/
def failAll (hub : Hub ρ) (session : Nat) (message : Text) : Hub ρ :=
  hub.settle ((hub.pendingOf session).map Prod.snd) (.failed message)

/-- `register`, of a session that is made for it. -/
def register (hub : Hub ρ) (remote : ρ) (controllerCode : Text) : Hub ρ :=
  let cleared := match hub.sessions controllerCode with
    | some existing => hub.failAll existing (text "superseded")
    | none => hub
  { cleared with
    objects := cleared.objects ++ [⟨remote, controllerCode, []⟩]
    sessions := Function.update cleared.sessions controllerCode (some cleared.objects.length) }

/-- `unregister` -/
def unregister (hub : Hub ρ) (session : Nat) (controllerCode : Text) : Hub ρ :=
  let cleared := if hub.sessions controllerCode = some session then
      { hub with sessions := Function.update hub.sessions controllerCode none }
    else hub
  cleared.failAll session (text "disconnected")

/-- `is_online` -/
def isOnline (hub : Hub ρ) (controllerCode : Text) : Bool := (hub.sessions controllerCode).isSome

/-- `envelope["payload"]["command_id"]`, if it is a `str`. -/
def commandId? (envelope : Dict) : Option Text :=
  match Json.get? envelope (text "payload") with
  | some (.obj payload) =>
      match Json.get? payload (text "command_id") with
      | some (.str id) => some id
      | _ => none
  | _ => none

/-- `send_command` as far as the first `await`: the future in `session.pending`. -/
def enqueue (hub : Hub ρ) (controllerCode : Text) (envelope : Dict) : Except PyError (Hub ρ × Nat) :=
  match hub.sessions controllerCode with
  | none => .error (.controllerOffline controllerCode)
  | some session =>
      match commandId? envelope with
      | none => .error (.other (text "KeyError"))
      | some id =>
          .ok ({ hub with
            objects := hub.objects.modify session fun object =>
              { object with
                pending := (id, hub.futures.length) :: object.pending.filter fun entry => entry.1 ≠ id }
            futures := hub.futures ++ [⟨session, id, .pending⟩] }, hub.futures.length)

/-- `session.pending.pop(command_id, None)` -/
def pop (hub : Hub ρ) (session : Nat) (id : Text) : Hub ρ :=
  { hub with
    objects := hub.objects.modify session fun object =>
      { object with pending := object.pending.filter fun entry => entry.1 ≠ id } }

/-- `str(message.get("command_id", ""))` -/
def ackId (pyStr : Json Text → Text) (message : Dict) : Text :=
  match Json.get? message (text "command_id") with
  | none => []
  | some (.str id) => id
  | some value => pyStr value

/-- `resolve` -/
def resolve (hub : Hub ρ) (pyStr : Json Text → Text) (session : Nat) (message : Dict) : Hub ρ :=
  match (hub.pendingOf session).find? fun entry => entry.1 = ackId pyStr message with
  | some (_, reference) => hub.settle [reference] (.result message)
  | none => hub

/-! ## References -/

/-- Every reference leads to an object that fits it, and a session is under a code that its
remote end is `authentic` for. -/
structure Ok (authentic : ρ → Text → Prop) (hub : Hub ρ) : Prop where
  authentic : ∀ {session : Nat} {object : Session ρ}, hub.objects[session]? = some object →
    authentic object.remote object.controllerCode
  sessions : ∀ {code : Text} {session : Nat}, hub.sessions code = some session →
    ∃ object, hub.objects[session]? = some object ∧ object.controllerCode = code
  pending : ∀ {session reference : Nat} {object : Session ρ} {id : Text},
    hub.objects[session]? = some object → (id, reference) ∈ object.pending →
    ∃ future, hub.futures[reference]? = some future ∧ future.session = session ∧
      future.commandId = id

/-- From one state to a later one; `incoming session id message` are the results that are
new. -/
structure Evolves (incoming : Nat → Text → Dict → Prop) (hub hub' : Hub ρ) : Prop where
  objects : ∀ {session : Nat} {object : Session ρ}, hub.objects[session]? = some object →
    ∃ object', hub'.objects[session]? = some object' ∧ object'.remote = object.remote ∧
      object'.controllerCode = object.controllerCode
  futures : ∀ {reference : Nat} {future : Future}, hub.futures[reference]? = some future →
    ∃ future', hub'.futures[reference]? = some future' ∧ future'.session = future.session ∧
      future'.commandId = future.commandId
  results : ∀ {reference : Nat} {future' : Future} {message : Dict},
    hub'.futures[reference]? = some future' → future'.state = .result message →
    (∃ future, hub.futures[reference]? = some future ∧ future.state = .result message ∧
      future.session = future'.session ∧ future.commandId = future'.commandId) ∨
    incoming future'.session future'.commandId message

/-- No result comes in. -/
def nothing : Nat → Text → Dict → Prop := fun _ _ _ => False

theorem ok_empty (authentic : ρ → Text → Prop) : (empty : Hub ρ).Ok authentic where
  authentic found := by simp [empty] at found
  sessions found := by cases found
  pending found := by simp [empty] at found

theorem Evolves.refl (hub : Hub ρ) : hub.Evolves nothing hub where
  objects found := ⟨_, found, rfl, rfl⟩
  futures found := ⟨_, found, rfl, rfl⟩
  results found state := .inl ⟨_, found, state, rfl, rfl⟩

/-! ## The operations -/

section Operations

variable {hub : Hub ρ} {state : FutureState} {authentic : ρ → Text → Prop}

theorem Future.settle_fixed (future : Future) (state : FutureState) :
    (future.settle state).session = future.session ∧
      (future.settle state).commandId = future.commandId := by
  unfold Future.settle
  split <;> exact ⟨rfl, rfl⟩

/-- A settled future had its result before, or has it now. -/
theorem Future.settle_result {future : Future} {message : Dict}
    (h : (future.settle state).state = .result message) :
    future.state = .result message ∨ state = .result message := by
  unfold Future.settle at h
  split at h
  · exact .inr h
  · exact .inl h

theorem settle_futures (which : List Nat) (reference : Nat) : (hub.settle which state).futures[reference]? =
    hub.futures[reference]?.map fun future =>
      if which.contains reference then future.settle state else future := by
  simp [settle, List.getElem?_mapIdx]

/-- Settling changes nothing but states. -/
theorem settle_evolves (which : List Nat) (state : FutureState) : hub.Evolves (fun session id message => state = .result message ∧
    ∃ reference ∈ which, ∃ future, hub.futures[reference]? = some future ∧
      future.session = session ∧ future.commandId = id) (hub.settle which state) where
  objects found := ⟨_, found, rfl, rfl⟩
  futures {reference future} found := by
    rw [settle_futures, found]
    refine ⟨_, rfl, ?_⟩
    split_ifs
    · exact Future.settle_fixed future state
    · exact ⟨rfl, rfl⟩
  results {reference future' message} found isResult := by
    rw [settle_futures] at found
    obtain ⟨future, before, rfl⟩ := Option.map_eq_some_iff.mp found
    split_ifs at isResult ⊢ with settled
    · obtain ⟨session, id⟩ := Future.settle_fixed future state
      rw [session, id]
      rcases Future.settle_result isResult with old | new
      · exact .inl ⟨future, before, old, rfl, rfl⟩
      · exact .inr ⟨new, reference, by simpa using settled, future, before, rfl, rfl⟩
    · exact .inl ⟨future, before, isResult, rfl, rfl⟩

theorem Ok.settle (ok : hub.Ok authentic) (which : List Nat) (state : FutureState) :
    (hub.settle which state).Ok authentic where
  authentic found := ok.authentic found
  sessions := ok.sessions
  pending found mem := by
    obtain ⟨future, known, isSession, isId⟩ := ok.pending found mem
    obtain ⟨future', known', session', id'⟩ := (settle_evolves which state).futures known
    exact ⟨future', known', session'.trans isSession, id'.trans isId⟩

theorem failAll_evolves (hub : Hub ρ) (session : Nat) (message : Text) :
    hub.Evolves nothing (hub.failAll session message) := by
  obtain ⟨objects, futures, results⟩ :=
    @settle_evolves _ hub ((hub.pendingOf session).map Prod.snd) (.failed message)
  refine ⟨objects, futures, fun found isResult => ?_⟩
  rcases results found isResult with old | ⟨impossible, -⟩
  · exact .inl old
  · cases impossible

theorem Ok.failAll (ok : hub.Ok authentic) (session : Nat) (message : Text) :
    (hub.failAll session message).Ok authentic := ok.settle _ _

/-- A session with nothing pending is added. -/
theorem Ok.connect (ok : hub.Ok authentic) {remote : ρ} {code : Text} (known : authentic remote code) :
    Ok authentic { hub with
      objects := hub.objects ++ [⟨remote, code, []⟩]
      sessions := Function.update hub.sessions code (some hub.objects.length) } where
  authentic found := by
    rcases get_append_cases found with old | rfl
    · exact ok.authentic old
    · exact known
  sessions {name session} found := by
    by_cases same : name = code
    · subst same
      obtain rfl : hub.objects.length = session := by simpa using found
      exact ⟨⟨remote, name, []⟩, by simp, rfl⟩
    · obtain ⟨object, known, isCode⟩ := ok.sessions (by simpa [same] using found)
      exact ⟨object, get_append_old known, isCode⟩
  pending found mem := by
    rcases get_append_cases found with old | rfl
    · exact ok.pending old mem
    -- the new session waits for nothing yet
    · cases mem

theorem Ok.register (ok : hub.Ok authentic) {remote : ρ} {code : Text}
    (known : authentic remote code) : (hub.register remote code).Ok authentic := by
  unfold Hub.register
  split
  · exact (ok.failAll _ _).connect known
  · exact ok.connect known

theorem register_evolves (remote : ρ) (code : Text) :
    hub.Evolves nothing (hub.register remote code) := by
  have cleared : ∀ cleared : Hub ρ, hub.Evolves nothing cleared →
      hub.Evolves nothing { cleared with
        objects := cleared.objects ++ [⟨remote, code, []⟩]
        sessions := Function.update cleared.sessions code (some cleared.objects.length) } := by
    intro cleared evolves
    refine ⟨fun found => ?_, evolves.futures, evolves.results⟩
    obtain ⟨object, known, same⟩ := evolves.objects found
    exact ⟨object, get_append_old known, same⟩
  unfold Hub.register
  split
  · exact cleared _ (failAll_evolves _ _ _)
  · exact cleared _ (.refl hub)

theorem Ok.unregister (ok : hub.Ok authentic) (session : Nat) (code : Text) :
    (hub.unregister session code).Ok authentic := by
  unfold Hub.unregister
  refine Ok.failAll ?_ _ _
  split
  · refine ⟨ok.authentic, fun {name reference} found => ?_, ok.pending⟩
    by_cases same : name = code
    · subst same
      simp at found
    · exact ok.sessions (by simpa [same] using found)
  · exact ok

theorem unregister_evolves (session : Nat) (code : Text) :
    hub.Evolves nothing (hub.unregister session code) := by
  unfold Hub.unregister
  split
  · obtain ⟨objects, futures, results⟩ := failAll_evolves
      { hub with sessions := Function.update hub.sessions code none } session (text "disconnected")
    exact ⟨objects, futures, results⟩
  · exact failAll_evolves hub session _

/-- What one session has pending changes. -/
def onPending (hub : Hub ρ) (session : Nat) (change : List (Text × Nat) → List (Text × Nat)) :
    List (Session ρ) :=
  hub.objects.modify session fun object => { object with pending := change object.pending }

variable {session index : Nat} {change : List (Text × Nat) → List (Text × Nat)}

theorem onPending_of_get {object : Session ρ} (found : hub.objects[index]? = some object) :
    (hub.onPending session change)[index]? = some
      { object with
        pending := if session = index then change object.pending else object.pending } := by
  rw [onPending, List.getElem?_modify, found]
  show some _ = _
  split_ifs <;> rfl

theorem get_onPending {object' : Session ρ}
    (found : (hub.onPending session change)[index]? = some object') :
    ∃ object, hub.objects[index]? = some object ∧ object'.remote = object.remote ∧
      object'.controllerCode = object.controllerCode ∧
      object'.pending = if session = index then change object.pending else object.pending := by
  rw [onPending, List.getElem?_modify] at found
  obtain ⟨object, known, rfl⟩ := Option.map_eq_some_iff.mp found
  refine ⟨object, known, ?_⟩
  split_ifs <;> exact ⟨rfl, rfl, rfl⟩

theorem onPending_authentic (ok : hub.Ok authentic) {object' : Session ρ}
    (found : (hub.onPending session change)[index]? = some object') :
    authentic object'.remote object'.controllerCode := by
  obtain ⟨object, known, remote, code, -⟩ := get_onPending found
  rw [remote, code]
  exact ok.authentic known

theorem onPending_evolves (hub : Hub ρ) (session : Nat)
    (change : List (Text × Nat) → List (Text × Nat)) (more : List Future)
    (unsettled : ∀ future ∈ more, future.state = .pending) :
    hub.Evolves nothing
      { hub with objects := hub.onPending session change, futures := hub.futures ++ more } where
  objects found := ⟨_, onPending_of_get found, rfl, rfl⟩
  futures found := ⟨_, get_append_old found, rfl, rfl⟩
  results {reference future' message} found isResult := by
    refine .inl ⟨future', ?_, isResult, rfl, rfl⟩
    rw [List.getElem?_append] at found
    split at found
    · exact found
    · rw [unsettled future' (List.mem_of_getElem? found)] at isResult
      cases isResult

theorem onPending_sessions (ok : hub.Ok authentic) (session : Nat)
    (change : List (Text × Nat) → List (Text × Nat)) {code : Text} {index : Nat}
    (found : hub.sessions code = some index) :
    ∃ object, (hub.onPending session change)[index]? = some object ∧ object.controllerCode = code := by
  obtain ⟨object, known, isCode⟩ := ok.sessions found
  exact ⟨_, onPending_of_get known, isCode⟩

theorem Ok.pop (ok : hub.Ok authentic) (session : Nat) (id : Text) :
    (hub.pop session id).Ok authentic where
  authentic found := onPending_authentic ok found
  sessions found := onPending_sessions ok session _ found
  pending found mem := by
    obtain ⟨object, known, -, -, pending⟩ := get_onPending found
    refine ok.pending known ?_
    rw [pending] at mem
    split_ifs at mem
    · exact List.mem_of_mem_filter mem
    · exact mem

theorem pop_evolves (session : Nat) (id : Text) : hub.Evolves nothing (hub.pop session id) := by
  have evolves := onPending_evolves hub session
    (fun pending => pending.filter fun entry => entry.1 ≠ id) [] (by simp)
  rw [List.append_nil] at evolves
  exact evolves

/-- What a call waits for once it is in `send_command`. -/
theorem enqueue_cases {hub' : Hub ρ} {code : Text} {envelope : Dict} {reference : Nat}
    (h : hub.enqueue code envelope = .ok (hub', reference)) :
    ∃ session id, hub.sessions code = some session ∧ commandId? envelope = some id ∧
      reference = hub.futures.length ∧
      hub' = { hub with
        objects := hub.onPending session fun pending =>
          (id, hub.futures.length) :: pending.filter fun entry => entry.1 ≠ id
        futures := hub.futures ++ [⟨session, id, .pending⟩] } := by
  unfold enqueue at h
  split at h
  · cases h
  · rename_i session found
    split at h
    · cases h
    · rename_i id isId
      obtain ⟨rfl, rfl⟩ := Prod.mk.inj (Except.ok.inj h)
      exact ⟨session, id, found, isId, rfl, rfl⟩

theorem enqueue_evolves {hub' : Hub ρ} {code : Text} {envelope : Dict} {reference : Nat}
    (h : hub.enqueue code envelope = .ok (hub', reference)) : hub.Evolves nothing hub' := by
  obtain ⟨session, id, -, -, -, rfl⟩ := enqueue_cases h
  exact onPending_evolves hub session _ _ (by simp)

theorem Ok.enqueue (ok : hub.Ok authentic) {hub' : Hub ρ} {code : Text} {envelope : Dict} {reference : Nat}
    (h : hub.enqueue code envelope = .ok (hub', reference)) : hub'.Ok authentic := by
  obtain ⟨session, id, -, -, -, rfl⟩ := enqueue_cases h
  constructor
  · intro index object found
    dsimp only at found
    exact onPending_authentic ok found
  · intro code index found
    dsimp only at found ⊢
    exact onPending_sessions ok session _ found
  intro index reference object name found mem
  dsimp only at found ⊢
  obtain ⟨before, known, -, -, pending⟩ := get_onPending found
  have old : (name, reference) ∈ before.pending → ∃ future,
      (hub.futures ++ [⟨session, id, .pending⟩])[reference]? = some future ∧
        future.session = index ∧ future.commandId = name := by
    intro inside
    obtain ⟨future, made, fits⟩ := ok.pending known inside
    exact ⟨future, get_append_old made, fits⟩
  rw [pending] at mem
  split_ifs at mem with here
  · rcases List.mem_cons.mp mem with new | kept
    · obtain ⟨rfl, rfl⟩ := Prod.mk.inj new
      exact ⟨_, List.getElem?_concat_length, here, rfl⟩
    · exact old (List.mem_of_mem_filter kept)
  · exact old mem

theorem Ok.resolve (ok : hub.Ok authentic) (pyStr : Json Text → Text) (session : Nat) (message : Dict) :
    (hub.resolve pyStr session message).Ok authentic := by
  unfold Hub.resolve
  split
  · exact ok.settle _ _
  · exact ok

/-- An acknowledgement completes a call that waits on that session for that command. -/
theorem resolve_evolves (ok : hub.Ok authentic) (pyStr : Json Text → Text) (session : Nat) (message : Dict) :
    hub.Evolves (fun index id received => index = session ∧ id = ackId pyStr message ∧
      received = message) (hub.resolve pyStr session message) := by
  unfold Hub.resolve
  split
  · rename_i id reference waiting
    have isId : id = ackId pyStr message := by simpa using List.find?_some waiting
    have mem := List.mem_of_find?_eq_some waiting
    obtain ⟨objects, futures, results⟩ := @settle_evolves _ hub [reference] (.result message)
    refine ⟨objects, futures, fun found isResult => ?_⟩
    rcases results found isResult with
      before | ⟨isMessage, _, single, future, known, session', id'⟩
    · exact .inl before
    · refine .inr ?_
      obtain rfl := List.mem_singleton.mp single
      unfold pendingOf at mem
      cases opened : hub.objects[session]? with
      | none => simp [opened] at mem
      | some object =>
          rw [opened] at mem
          obtain ⟨future', known', isSession, isId'⟩ := ok.pending opened mem
          obtain rfl : future = future' := Option.some.inj (known.symm.trans known')
          exact ⟨session'.symm.trans isSession, id'.symm.trans (isId'.trans isId),
            (FutureState.result.inj isMessage).symm⟩
  · exact ⟨(Evolves.refl hub).objects, (Evolves.refl hub).futures, fun found isResult =>
      .inl ⟨_, found, isResult, rfl, rfl⟩⟩

end Operations

end Hub

end DoorsControl.Backend
