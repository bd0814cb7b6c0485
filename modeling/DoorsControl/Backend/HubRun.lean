import DoorsControl.Backend.Sessions

/-!
# Sessions and the calls that wait on them

Any number of `register`, `unregister`, `send_command` and `resolve` on one hub. The first
two and the last have no `await` that suspends, so each is one step; a `send_command` may
be interrupted in `session.send` and in `wait_for`, and its timeout or its cancellation may
strike some time before it goes on.

* `HubRun.Ok` — **the invariant**: what is pending is what is in progress, a call that
  waits on a session that is not current has its answer already, and results were passed to
  `resolve` on the session that they are returned for;
* `HubRun.Reach.ok` — every reachable state has it;
* `hub_consistent` — the guarantees of the hub.
-/

namespace DoorsControl.Backend

open Kit.Pool (get_append_cases get_append_index_cases get_append_old get_set_cases)

/-- Where a call of `send_command` stands. -/
inductive SendStage where
  /-- in `session.send` -/
  | sending
  /-- in `asyncio.wait_for` -/
  | waiting
  /-- the timeout struck, and the call has not gone on yet -/
  | expired
  /-- the task was cancelled, and has not gone on yet -/
  | cancelled
  | finished (result : Except PyError Dict)

/-- A call of `send_command` that found a session. -/
structure SendCall where
  session : Nat
  commandId : Text
  future : Nat
  stage : SendStage

def SendCall.inProgress (c : SendCall) : Bool :=
  match c.stage with
  | .finished _ => false
  | _ => true

/-- The hub, the calls in the order of their start, and what was passed to `resolve`. -/
structure HubRun (ρ : Type) where
  hub : Hub ρ
  calls : List SendCall
  resolved : List (Nat × Dict)

inductive HubAction (ρ : Type) where
  | register (remote : ρ) (controllerCode : Text)
  | unregister (session : Nat)
  /-- A call begins and comes to its first `await`. -/
  | send (controllerCode : Text) (envelope : Dict)
  /-- `session.send` returns. -/
  | sent (call : Nat)
  /-- `session.send` raises, a `TimeoutError` if it is `none`. -/
  | sendRaised (call : Nat) (error : Option PyError)
  | expire (call : Nat)
  | cancel (call : Nat)
  /-- A call that waits goes on. -/
  | resume (call : Nat)
  | resolve (session : Nat) (message : Dict)

namespace HubRun

variable {ρ : Type}

def empty : HubRun ρ := ⟨.empty, [], []⟩

/-- The `finally` of `send_command`, and its end. -/
def leave (run : HubRun ρ) (i : Nat) (c : SendCall) (result : Except PyError Dict) : HubRun ρ :=
  { run with
    hub := run.hub.pop c.session c.commandId
    calls := run.calls.set i { c with stage := .finished result } }

def stageAt (run : HubRun ρ) (i : Nat) (c : SendCall) (stage : SendStage) : HubRun ρ :=
  { run with calls := run.calls.set i { c with stage } }

/-- The future of a call is cancelled, unless it is done. -/
def cancelFuture (run : HubRun ρ) (c : SendCall) : HubRun ρ :=
  { run with hub := run.hub.settle [c.future] .cancelled }

/-- `await asyncio.wait_for(future, timeout)`, once the future is done. -/
def outcome? : FutureState → Option (Except PyError Dict)
  | .result message => some (.ok message)
  | .failed message => some (.error (.controllerOffline message))
  | _ => none

def step (pyStr : Json Text → Text) (run : HubRun ρ) : HubAction ρ → Option (HubRun ρ)
  | .register remote code => some { run with hub := run.hub.register remote code }
  | .unregister session =>
      run.hub.objects[session]?.map fun object =>
        { run with hub := run.hub.unregister session object.controllerCode }
  | .send code envelope =>
      match run.hub.enqueue code envelope with
      -- it raises before there is a future
      | .error _ => some run
      | .ok (hub, reference) =>
          hub.futures[reference]?.map fun future =>
            { run with
              hub
              calls := run.calls ++ [⟨future.session, future.commandId, reference, .sending⟩] }
  | .sent i =>
      run.calls[i]?.bind fun c =>
        match c.stage with
        | .sending => some (run.stageAt i c .waiting)
        | _ => none
  | .sendRaised i error =>
      run.calls[i]?.bind fun c =>
        match c.stage with
        | .sending => some (run.leave i c (.error (error.getD (.commandTimeout c.commandId))))
        | _ => none
  | .expire i =>
      run.calls[i]?.bind fun c =>
        match c.stage with
        | .waiting => some ((run.cancelFuture c).stageAt i c .expired)
        | _ => none
  | .cancel i =>
      run.calls[i]?.bind fun c =>
        match c.stage with
        | .sending => some (run.stageAt i c .cancelled)
        | .waiting | .expired => some ((run.cancelFuture c).stageAt i c .cancelled)
        | _ => none
  | .resume i =>
      run.calls[i]?.bind fun c =>
        match c.stage with
        | .waiting =>
            (run.hub.futures[c.future]?.bind fun future => outcome? future.state).map
              (run.leave i c)
        | .expired => some (run.leave i c (.error (.commandTimeout c.commandId)))
        | .cancelled => some (run.leave i c (.error (.other (text "CancelledError"))))
        | _ => none
  | .resolve session message =>
      some { run with
        hub := run.hub.resolve pyStr session message
        resolved := (session, message) :: run.resolved }

/-- Command ids are not used twice. -/
def unused (run : HubRun ρ) : HubAction ρ → Bool
  | .send _ envelope => run.calls.all fun c => Hub.commandId? envelope ≠ some c.commandId
  | _ => true

/-- The states that runs with distinct command ids reach from a given one. -/
inductive Reach (pyStr : Json Text → Text) (start : HubRun ρ) : HubRun ρ → Prop
  | start : Reach pyStr start start
  | step {run run' : HubRun ρ} {action : HubAction ρ} : Reach pyStr start run →
      run.unused action = true → run.step pyStr action = some run' → Reach pyStr start run'

/-! ## The invariant -/

/-- The session is the one that `_sessions` has for its code. -/
def Current (hub : Hub ρ) (session : Nat) : Prop :=
  ∃ object, hub.objects[session]? = some object ∧ hub.sessions object.controllerCode = some session

/-- The future is done. -/
def Done (hub : Hub ρ) (reference : Nat) : Prop :=
  ∃ future, hub.futures[reference]? = some future ∧ future.state ≠ .pending

structure Ok (pyStr : Json Text → Text) (run : HubRun ρ) : Prop where
  hub : run.hub.Ok fun _ _ => True
  distinct : ∀ {i j : Nat} {c d : SendCall}, run.calls[i]? = some c → run.calls[j]? = some d →
    c.commandId = d.commandId → i = j
  made : ∀ {i : Nat} {c : SendCall}, run.calls[i]? = some c →
    (∃ object, run.hub.objects[c.session]? = some object) ∧
      ∃ future, run.hub.futures[c.future]? = some future ∧ future.session = c.session ∧
        future.commandId = c.commandId
  pending : ∀ {session : Nat} {object : Session ρ}, run.hub.objects[session]? = some object →
    ∀ id reference, (id, reference) ∈ object.pending ↔
      ∃ (i : Nat) (c : SendCall), run.calls[i]? = some c ∧ c.inProgress = true ∧
        c.session = session ∧ c.commandId = id ∧ c.future = reference
  live : ∀ {i : Nat} {c : SendCall}, run.calls[i]? = some c → c.inProgress = true →
    Current run.hub c.session ∨ Done run.hub c.future
  results : ∀ {reference : Nat} {future : Future} {message : Dict},
    run.hub.futures[reference]? = some future → future.state = .result message →
      (future.session, message) ∈ run.resolved ∧ Hub.ackId pyStr message = future.commandId
  returned : ∀ {i : Nat} {c : SendCall} {message : Dict}, run.calls[i]? = some c →
    c.stage = .finished (.ok message) →
      (c.session, message) ∈ run.resolved ∧ Hub.ackId pyStr message = c.commandId

section Invariant

variable {pyStr : Json Text → Text} {run : HubRun ρ} {hub hub' : Hub ρ}

theorem ok_empty (pyStr : Json Text → Text) : (empty : HubRun ρ).Ok pyStr where
  hub := Hub.ok_empty _
  distinct found := by simp [empty] at found
  made found := by simp [empty] at found
  pending found := by simp [empty, Hub.empty] at found
  live found := by simp [empty] at found
  results found := by simp [empty, Hub.empty] at found
  returned found := by simp [empty] at found

/-- Futures are settled and sessions come and go; nothing else changes. -/
structure Settles (incoming : Nat → Text → Dict → Prop) (hub hub' : Hub ρ) : Prop where
  evolves : hub.Evolves incoming hub'
  done : ∀ {reference : Nat}, Done hub reference → Done hub' reference
  old : ∀ {session : Nat} {object' : Session ρ}, hub'.objects[session]? = some object' →
    (∃ object, hub.objects[session]? = some object ∧ object'.pending = object.pending) ∨
      (hub.objects[session]? = none ∧ object'.pending = [])

/-- What the calls rely on survives, if those that wait on a current session may go on
waiting or have their answer. -/
theorem Ok.settles {incoming : Nat → Text → Dict → Prop} {resolved : List (Nat × Dict)}
    (ok : run.Ok pyStr) (settles : Settles incoming run.hub hub') (hubOk : hub'.Ok fun _ _ => True)
    (kept : run.resolved ⊆ resolved)
    (known : ∀ session id message, incoming session id message →
      (session, message) ∈ resolved ∧ Hub.ackId pyStr message = id)
    (live : ∀ (i : Nat) (c : SendCall), run.calls[i]? = some c → c.inProgress = true →
      Current run.hub c.session → Current hub' c.session ∨ Done hub' c.future) :
    Ok pyStr ⟨hub', run.calls, resolved⟩ where
  hub := hubOk
  distinct := ok.distinct
  made found := by
    obtain ⟨⟨object, isOpen⟩, future, isMade, session, id⟩ := ok.made found
    obtain ⟨object', isOpen', -⟩ := settles.evolves.objects isOpen
    obtain ⟨future', isMade', session', id'⟩ := settles.evolves.futures isMade
    exact ⟨⟨object', isOpen'⟩, future', isMade', session'.trans session, id'.trans id⟩
  pending {session object'} found id reference := by
    rcases settles.old found with ⟨object, before, same⟩ | ⟨absent, empty⟩
    · rw [same]
      exact ok.pending before id reference
    · rw [empty]
      refine iff_of_false List.not_mem_nil ?_
      rintro ⟨i, c, isCall, -, rfl, -⟩
      obtain ⟨⟨object, isOpen⟩, -⟩ := ok.made isCall
      rw [absent] at isOpen
      cases isOpen
  live found progress := by
    rcases ok.live found progress with current | done
    · exact live _ _ found progress current
    · exact .inr (settles.done done)
  results found isResult := by
    rcases settles.evolves.results found isResult with
      ⟨future, before, wasResult, session, id⟩ | new
    · obtain ⟨inResolved, isId⟩ := ok.results before wasResult
      rw [session] at inResolved
      exact ⟨kept inResolved, isId.trans id⟩
    · exact known _ _ _ new
  returned found isReturn := by
    obtain ⟨inResolved, isId⟩ := ok.returned found isReturn
    exact ⟨kept inResolved, isId⟩

/-! ### Settling -/

/-- What is done stays as it is. -/
theorem settle_of_done {future : Future} (isDone : future.state ≠ .pending) (state : FutureState) :
    future.settle state = future := by
  unfold Future.settle
  split
  · rename_i pending
    exact absurd pending isDone
  · rfl

theorem settle_done (future : Future) {state : FutureState} (final : state ≠ .pending) :
    (future.settle state).state ≠ .pending := by
  unfold Future.settle
  split
  · exact final
  · assumption

theorem done_settle (which : List Nat) (state : FutureState) {reference : Nat}
    (done : Done hub reference) : Done (hub.settle which state) reference := by
  obtain ⟨future, found, isDone⟩ := done
  refine ⟨future, ?_, isDone⟩
  rw [Hub.settle_futures, found, Option.map_some, settle_of_done isDone, ite_self]

/-- A future that is settled is done. -/
theorem done_of_settle {which : List Nat} {state : FutureState} (final : state ≠ .pending)
    {reference : Nat} {future : Future} (found : hub.futures[reference]? = some future)
    (settled : reference ∈ which) : Done (hub.settle which state) reference := by
  refine ⟨future.settle state, ?_, settle_done future final⟩
  rw [Hub.settle_futures, found, Option.map_some, if_pos (by simpa using settled)]

theorem settles_settle (which : List Nat) (state : FutureState)
    {incoming : Nat → Text → Dict → Prop} (evolves : hub.Evolves incoming (hub.settle which state)) :
    Settles incoming hub (hub.settle which state) where
  evolves := evolves
  done := done_settle which state
  old found := .inl ⟨_, found, rfl⟩

theorem mem_pendingOf (ok : run.Ok pyStr) {i : Nat} {c : SendCall} (found : run.calls[i]? = some c)
    (progress : c.inProgress = true) : (c.commandId, c.future) ∈ run.hub.pendingOf c.session := by
  obtain ⟨⟨object, isOpen⟩, -⟩ := ok.made found
  unfold Hub.pendingOf
  rw [isOpen]
  exact (ok.pending isOpen c.commandId c.future).mpr ⟨i, c, found, progress, rfl, rfl, rfl⟩

/-- What a call waits for is completed when its session fails. -/
theorem failAll_future (ok : run.Ok pyStr) {i : Nat} {c : SendCall} (found : run.calls[i]? = some c)
    (progress : c.inProgress = true) {future : Future}
    (isMade : run.hub.futures[c.future]? = some future) (message : Text) :
    (run.hub.failAll c.session message).futures[c.future]? = some (future.settle (.failed message)) := by
  unfold Hub.failAll
  rw [Hub.settle_futures, isMade]
  have listed : c.future ∈ (run.hub.pendingOf c.session).map Prod.snd :=
    List.mem_map.mpr ⟨_, mem_pendingOf ok found progress, rfl⟩
  simp [listed]

theorem done_failAll (ok : run.Ok pyStr) {i : Nat} {c : SendCall} (found : run.calls[i]? = some c)
    (progress : c.inProgress = true) (message : Text) :
    Done (run.hub.failAll c.session message) c.future := by
  obtain ⟨-, future, isMade, -⟩ := ok.made found
  exact done_of_settle (by simp) isMade
    (List.mem_map.mpr ⟨_, mem_pendingOf ok found progress, rfl⟩)

theorem settles_failAll (hub : Hub ρ) (session : Nat) (message : Text) :
    Settles Hub.nothing hub (hub.failAll session message) :=
  settles_settle _ _ (Hub.failAll_evolves hub session message)

/-! ### The steps -/

theorem register_objects (hub : Hub ρ) (remote : ρ) (code : Text) :
    (hub.register remote code).objects = hub.objects ++ [⟨remote, code, []⟩] := by
  unfold Hub.register
  split <;> rfl

theorem register_sessions (hub : Hub ρ) (remote : ρ) (code : Text) :
    (hub.register remote code).sessions =
      Function.update hub.sessions code (some hub.objects.length) := by
  unfold Hub.register
  split <;> rfl

theorem unregister_objects (hub : Hub ρ) (session : Nat) (code : Text) :
    (hub.unregister session code).objects = hub.objects := by
  unfold Hub.unregister
  split <;> rfl

theorem unregister_sessions (hub : Hub ρ) (session : Nat) (code : Text) :
    (hub.unregister session code).sessions =
      if hub.sessions code = some session then Function.update hub.sessions code none
      else hub.sessions := by
  unfold Hub.unregister
  split <;> rfl

/-- The calls on a session are told of its end. -/
theorem unregister_futures (hub : Hub ρ) (session : Nat) (code : Text) :
    (hub.unregister session code).futures =
      (hub.failAll session (text "disconnected")).futures := by
  unfold Hub.unregister
  split <;> rfl

theorem Ok.register (ok : run.Ok pyStr) (remote : ρ) (code : Text) :
    Ok pyStr { run with hub := run.hub.register remote code } := by
  have settles : Settles Hub.nothing run.hub (run.hub.register remote code) := by
    refine ⟨Hub.register_evolves remote code, ?_, ?_⟩
    · intro reference done
      unfold Hub.register
      split
      · exact (settles_failAll _ _ _).done done
      · exact done
    · intro session object' found
      rw [register_objects] at found
      rcases get_append_index_cases found with old | ⟨rfl, rfl⟩
      · exact .inl ⟨object', old, rfl⟩
      · exact .inr ⟨List.getElem?_eq_none le_rfl, rfl⟩
  refine ok.settles settles (ok.hub.register trivial) (List.Subset.refl _)
    (fun _ _ _ impossible => impossible.elim) ?_
  · rintro i c found progress ⟨object, isOpen, isCurrent⟩
    by_cases same : object.controllerCode = code
    · -- it is superseded
      subst same
      refine .inr ?_
      unfold Hub.register
      rw [isCurrent]
      exact done_failAll ok found progress _
    · refine .inl ⟨object, ?_, ?_⟩
      · rw [register_objects]
        exact get_append_old isOpen
      · rw [register_sessions, Function.update_of_ne same, isCurrent]

theorem Ok.unregister (ok : run.Ok pyStr) {session : Nat} {object : Session ρ}
    (isOpen : run.hub.objects[session]? = some object) :
    Ok pyStr { run with hub := run.hub.unregister session object.controllerCode } := by
  have futures := unregister_futures run.hub session object.controllerCode
  have settles : Settles Hub.nothing run.hub
      (run.hub.unregister session object.controllerCode) := by
    refine ⟨Hub.unregister_evolves session object.controllerCode, ?_, ?_⟩
    · intro reference done
      unfold Done
      rw [futures]
      exact (settles_failAll _ _ _).done done
    · intro index object' found
      rw [unregister_objects] at found
      exact .inl ⟨object', found, rfl⟩
  refine ok.settles settles (ok.hub.unregister _ _) (List.Subset.refl _)
    (fun _ _ _ impossible => impossible.elim) ?_
  · rintro i c found progress ⟨opened, known, isCurrent⟩
    by_cases here : c.session = session
    · -- its own session fails
      subst here
      refine .inr ?_
      unfold Done
      rw [futures]
      exact done_failAll ok found progress _
    · refine .inl ⟨opened, by rw [unregister_objects, known], ?_⟩
      rw [unregister_sessions]
      split_ifs with removed
      · have other : opened.controllerCode ≠ object.controllerCode := by
          intro same
          rw [same, removed] at isCurrent
          exact here (Option.some.inj isCurrent).symm
        rw [Function.update_of_ne other, isCurrent]
      · exact isCurrent

theorem Ok.resolve (ok : run.Ok pyStr) (session : Nat) (message : Dict) :
    Ok pyStr { run with
      hub := run.hub.resolve pyStr session message
      resolved := (session, message) :: run.resolved } := by
  refine ok.settles ⟨Hub.resolve_evolves ok.hub pyStr session message, ?_, ?_⟩
    (ok.hub.resolve pyStr session message) (List.subset_cons_self _ _) ?_ ?_
  · intro reference done
    unfold Hub.resolve
    split
    · exact done_settle _ _ done
    · exact done
  · intro index object' found
    refine .inl ⟨object', ?_, rfl⟩
    unfold Hub.resolve at found
    split at found <;> exact found
  · rintro _ _ _ ⟨rfl, rfl, rfl⟩
    exact ⟨List.mem_cons_self, rfl⟩
  · intro i c found progress current
    refine .inl ?_
    unfold Hub.resolve
    split <;> exact current

/-- A call goes from one `await` to another. -/
theorem Ok.stageAt (ok : run.Ok pyStr) {i : Nat} {c : SendCall} (found : run.calls[i]? = some c)
    (progress : c.inProgress = true) {stage : SendStage}
    (stays : SendCall.inProgress { c with stage } = true) : (run.stageAt i c stage).Ok pyStr := by
  have before : ∀ {j : Nat} {d : SendCall}, (run.stageAt i c stage).calls[j]? = some d →
      ∃ d', run.calls[j]? = some d' ∧ d'.session = d.session ∧ d'.commandId = d.commandId ∧
        d'.future = d.future ∧ d'.inProgress = d.inProgress ∧ (d = d' ∨ d.inProgress = true) := by
    intro j d found'
    rcases get_set_cases found' with ⟨rfl, rfl⟩ | ⟨-, old⟩
    · exact ⟨c, found, rfl, rfl, rfl, progress.trans stays.symm, .inr stays⟩
    · exact ⟨d, old, rfl, rfl, rfl, rfl, .inl rfl⟩
  refine ⟨ok.hub, ?_, ?_, ?_, ?_, ok.results, ?_⟩
  · intro j k d e isD isE same
    obtain ⟨d', oldD, -, idD, -⟩ := before isD
    obtain ⟨e', oldE, -, idE, -⟩ := before isE
    exact ok.distinct oldD oldE (idD.trans (same.trans idE.symm))
  · intro j d isD
    obtain ⟨d', old, session, id, future, -⟩ := before isD
    rw [← session, ← id, ← future]
    exact ok.made old
  · intro session object isOpen id reference
    rw [ok.pending isOpen id reference]
    constructor
    · rintro ⟨j, d, old, inside, facts⟩
      by_cases here : j = i
      · subst here
        obtain rfl := Option.some.inj (old.symm.trans found)
        refine ⟨j, { d with stage }, ?_, stays, facts⟩
        show (run.calls.set j _)[j]? = _
        rw [List.getElem?_set_self' , old]
        rfl
      · refine ⟨j, d, ?_, inside, facts⟩
        show (run.calls.set i _)[j]? = _
        rw [List.getElem?_set_ne (Ne.symm here), old]
    · rintro ⟨j, d, new, inside, rfl, rfl, rfl⟩
      obtain ⟨d', old, session, id, future, progress', -⟩ := before new
      exact ⟨j, d', old, progress'.trans inside, session, id, future⟩
  · intro j d isD inside
    obtain ⟨d', old, session, -, future, progress', -⟩ := before isD
    rw [← session, ← future]
    exact ok.live old (progress'.trans inside)
  · intro j d message isD isReturn
    obtain ⟨d', old, -, -, -, -, same | inside⟩ := before isD
    · rw [same] at isReturn ⊢
      exact ok.returned old isReturn
    · rw [SendCall.inProgress, isReturn] at inside
      cases inside

/-- The future of a call is cancelled. -/
theorem Ok.cancelFuture (ok : run.Ok pyStr) (c : SendCall) : (run.cancelFuture c).Ok pyStr := by
  have evolves : run.hub.Evolves Hub.nothing (run.hub.settle [c.future] .cancelled) := by
    obtain ⟨objects, futures, results⟩ :=
      @Hub.settle_evolves _ run.hub [c.future] .cancelled
    refine ⟨objects, futures, fun found isResult => ?_⟩
    rcases results found isResult with old | ⟨impossible, -⟩
    · exact .inl old
    · cases impossible
  exact ok.settles (settles_settle _ _ evolves) (ok.hub.settle _ _) (List.Subset.refl _)
    (fun _ _ _ impossible => impossible.elim) fun _ _ _ _ current => .inl current

/-- A call takes its id out of `pending` and ends. -/
theorem Ok.leave (ok : run.Ok pyStr) {i : Nat} {c : SendCall} (found : run.calls[i]? = some c)
    {result : Except PyError Dict}
    (returned : ∀ message, result = .ok message →
      (c.session, message) ∈ run.resolved ∧ Hub.ackId pyStr message = c.commandId) :
    (run.leave i c result).Ok pyStr := by
  have before : ∀ {j : Nat} {d : SendCall}, (run.leave i c result).calls[j]? = some d →
      (j = i ∧ d = { c with stage := .finished result }) ∨ (j ≠ i ∧ run.calls[j]? = some d) :=
    get_set_cases
  have evolves := @Hub.pop_evolves _ run.hub c.session c.commandId
  refine ⟨ok.hub.pop _ _, ?_, ?_, ?_, ?_, ok.results, ?_⟩
  · intro j k d e isD isE same
    rcases before isD with ⟨rfl, rfl⟩ | ⟨-, oldD⟩
    · rcases before isE with ⟨rfl, rfl⟩ | ⟨-, oldE⟩
      · rfl
      · exact ok.distinct found oldE same
    · rcases before isE with ⟨rfl, rfl⟩ | ⟨-, oldE⟩
      · exact ok.distinct oldD found same
      · exact ok.distinct oldD oldE same
  · intro j d isD
    have known : ∀ {k : Nat} {e : SendCall}, run.calls[k]? = some e →
        (∃ object, (run.leave i c result).hub.objects[e.session]? = some object) ∧
          ∃ future, (run.leave i c result).hub.futures[e.future]? = some future ∧
            future.session = e.session ∧ future.commandId = e.commandId := by
      intro k e old
      obtain ⟨⟨object, isOpen⟩, made⟩ := ok.made old
      obtain ⟨object', isOpen', -⟩ := evolves.objects isOpen
      exact ⟨⟨object', isOpen'⟩, made⟩
    rcases before isD with ⟨rfl, rfl⟩ | ⟨-, old⟩
    · exact known (e := c) found
    · exact known old
  · intro session object' isOpen id reference
    obtain ⟨object, wasOpen, -, -, pending⟩ := Hub.get_onPending isOpen
    rw [pending]
    have kept : (id, reference) ∈ (if c.session = session then
        object.pending.filter fun entry => entry.1 ≠ c.commandId else object.pending) ↔
        (id, reference) ∈ object.pending ∧ ¬ (c.session = session ∧ id = c.commandId) := by
      split_ifs with here <;> simp [here]
    rw [kept, ok.pending wasOpen id reference]
    constructor
    · rintro ⟨⟨j, d, old, inside, isSession, isId, isFuture⟩, other⟩
      have elsewhere : j ≠ i := by
        rintro rfl
        obtain rfl := Option.some.inj (old.symm.trans found)
        exact other ⟨isSession, isId.symm⟩
      refine ⟨j, d, ?_, inside, isSession, isId, isFuture⟩
      show (run.calls.set i _)[j]? = _
      rw [List.getElem?_set_ne elsewhere.symm, old]
    · rintro ⟨j, d, new, inside, rfl, rfl, rfl⟩
      rcases before new with ⟨rfl, rfl⟩ | ⟨elsewhere, old⟩
      · cases inside
      · refine ⟨⟨j, d, old, inside, rfl, rfl, rfl⟩, ?_⟩
        rintro ⟨-, same⟩
        exact elsewhere (ok.distinct old found same)
  · intro j d isD inside
    rcases before isD with ⟨rfl, rfl⟩ | ⟨-, old⟩
    · cases inside
    · rcases ok.live old inside with ⟨object, isOpen, current⟩ | done
      · obtain ⟨object', isOpen', -, code⟩ := evolves.objects isOpen
        exact .inl ⟨object', isOpen', by rw [code]; exact current⟩
      · exact .inr done
  · intro j d message isD isReturn
    rcases before isD with ⟨rfl, rfl⟩ | ⟨-, old⟩
    · exact returned message (SendStage.finished.inj isReturn)
    · exact ok.returned old isReturn

/-- A call begins: its id is new, and its session is the current one of its code. -/
theorem Ok.send (ok : run.Ok pyStr) {code : Text} {envelope : Dict} {reference : Nat}
    {future : Future} (fresh : ∀ (i : Nat) (c : SendCall), run.calls[i]? = some c →
      Hub.commandId? envelope ≠ some c.commandId)
    (enqueued : run.hub.enqueue code envelope = .ok (hub', reference))
    (isMade : hub'.futures[reference]? = some future) :
    Ok pyStr { run with
      hub := hub'
      calls := run.calls ++ [⟨future.session, future.commandId, reference, .sending⟩] } := by
  have evolves := Hub.enqueue_evolves enqueued
  have hubOk := ok.hub.enqueue enqueued
  obtain ⟨session, id, isCurrent, isId, rfl, rfl⟩ := Hub.enqueue_cases enqueued
  obtain rfl : future = ⟨session, id, .pending⟩ := by
    have last : (run.hub.futures ++ [⟨session, id, .pending⟩])[run.hub.futures.length]? =
        some ⟨session, id, .pending⟩ := List.getElem?_concat_length
    exact Option.some.inj (isMade.symm.trans last)
  have newId : ∀ (i : Nat) (c : SendCall), run.calls[i]? = some c → c.commandId ≠ id := by
    rintro i c found rfl
    exact fresh i c found isId
  obtain ⟨object, isOpen, isCode⟩ := ok.hub.sessions isCurrent
  have old : ∀ {j : Nat} {d : SendCall},
      (run.calls ++ [(⟨session, id, run.hub.futures.length, .sending⟩ : SendCall)])[j]? = some d →
        run.calls[j]? = some d ∨ j = run.calls.length ∧
          d = ⟨session, id, run.hub.futures.length, .sending⟩ := get_append_index_cases
  refine ⟨hubOk, ?_, ?_, ?_, ?_, ?_, ?_⟩
  · intro j k d e isD isE same
    rcases old isD with oldD | ⟨rfl, rfl⟩
    · rcases old isE with oldE | ⟨rfl, rfl⟩
      · exact ok.distinct oldD oldE same
      · exact absurd same (newId j d oldD)
    · rcases old isE with oldE | ⟨rfl, rfl⟩
      · exact absurd same.symm (newId k e oldE)
      · rfl
  · intro j d isD
    rcases old isD with oldD | ⟨rfl, rfl⟩
    · obtain ⟨⟨opened, isOpen⟩, future, isFuture, facts⟩ := ok.made oldD
      obtain ⟨opened', isOpen', -⟩ := evolves.objects isOpen
      exact ⟨⟨opened', isOpen'⟩, future, get_append_old isFuture, facts⟩
    · obtain ⟨object', isOpen', -⟩ := evolves.objects isOpen
      exact ⟨⟨object', isOpen'⟩, _, List.getElem?_concat_length, rfl, rfl⟩
  · intro index object' isOpen' name ref
    dsimp only at isOpen'
    obtain ⟨opened, wasOpen, -, -, pending⟩ := Hub.get_onPending isOpen'
    have waits := ok.pending wasOpen
    -- no call used the id before
    have unused : ∀ entry ∈ opened.pending, entry.1 ≠ id := by
      rintro ⟨key, value⟩ mem same
      obtain ⟨j, d, isD, -, -, isKey, -⟩ := (waits key value).mp mem
      exact newId j d isD (isKey.trans same)
    rw [pending]
    have mem : (name, ref) ∈ (if session = index then (id, run.hub.futures.length) ::
        opened.pending.filter fun entry => entry.1 ≠ id else opened.pending) ↔
        (name, ref) ∈ opened.pending ∨
          session = index ∧ name = id ∧ ref = run.hub.futures.length := by
      split_ifs with here
      · rw [List.filter_eq_self.mpr (by simpa using unused), List.mem_cons, Prod.mk.injEq]
        simp [here, or_comm]
      · simp [here]
    rw [mem, waits]
    constructor
    · rintro (⟨j, d, isD, facts⟩ | ⟨rfl, rfl, rfl⟩)
      · exact ⟨j, d, get_append_old isD, facts⟩
      · exact ⟨run.calls.length, _, List.getElem?_concat_length, rfl, rfl, rfl, rfl⟩
    · rintro ⟨j, d, isD, inside, rfl, rfl, rfl⟩
      rcases old isD with oldD | ⟨rfl, rfl⟩
      · exact .inl ⟨j, d, oldD, inside, rfl, rfl, rfl⟩
      · exact .inr ⟨rfl, rfl, rfl⟩
  · intro j d isD inside
    rcases old isD with oldD | ⟨rfl, rfl⟩
    · rcases ok.live oldD inside with ⟨opened, isOpen, current⟩ | ⟨future, isFuture, done⟩
      · obtain ⟨opened', isOpen', -, sameCode⟩ := evolves.objects isOpen
        exact .inl ⟨opened', isOpen', by rw [sameCode]; exact current⟩
      · exact .inr ⟨future, get_append_old isFuture, done⟩
    · obtain ⟨object', isOpen', -, sameCode⟩ := evolves.objects isOpen
      exact .inl ⟨object', isOpen', by rw [sameCode, isCode]; exact isCurrent⟩
  · intro ref future message isFuture isResult
    rcases get_append_cases isFuture with before | rfl
    · exact ok.results before isResult
    · cases isResult
  · intro j d message isD isReturn
    rcases old isD with oldD | ⟨rfl, rfl⟩
    · exact ok.returned oldD isReturn
    · cases isReturn

/-- **Every step keeps the invariant.** -/
theorem Ok.step (ok : run.Ok pyStr) {action : HubAction ρ} {run' : HubRun ρ}
    (fresh : run.unused action = true) (stepped : run.step pyStr action = some run') :
    run'.Ok pyStr := by
  cases action with
  | register remote code =>
      obtain rfl := Option.some.inj stepped
      exact ok.register remote code
  | unregister session =>
      obtain ⟨object, isOpen, rfl⟩ := Option.map_eq_some_iff.mp stepped
      exact ok.unregister isOpen
  | send code envelope =>
      simp only [HubRun.step] at stepped
      split at stepped
      · obtain rfl := Option.some.inj stepped
        exact ok
      · rename_i hub reference enqueued
        obtain ⟨future, isMade, rfl⟩ := Option.map_eq_some_iff.mp stepped
        refine ok.send ?_ enqueued isMade
        intro i c found
        exact of_decide_eq_true (List.all_eq_true.mp fresh c (List.mem_of_getElem? found))
  | sent i =>
      obtain ⟨c, found, atStage⟩ := Option.bind_eq_some_iff.mp stepped
      split at atStage
      · rename_i stage
        obtain rfl := Option.some.inj atStage
        exact ok.stageAt found (by rw [SendCall.inProgress, stage]) rfl
      · cases atStage
  | sendRaised i error =>
      obtain ⟨c, found, atStage⟩ := Option.bind_eq_some_iff.mp stepped
      split at atStage
      · obtain rfl := Option.some.inj atStage
        exact ok.leave found nofun
      · cases atStage
  | expire i =>
      obtain ⟨c, found, atStage⟩ := Option.bind_eq_some_iff.mp stepped
      split at atStage
      · rename_i stage
        obtain rfl := Option.some.inj atStage
        exact (ok.cancelFuture c).stageAt found (by rw [SendCall.inProgress, stage]) rfl
      · cases atStage
  | cancel i =>
      obtain ⟨c, found, atStage⟩ := Option.bind_eq_some_iff.mp stepped
      split at atStage
      · rename_i stage
        obtain rfl := Option.some.inj atStage
        exact ok.stageAt found (by rw [SendCall.inProgress, stage]) rfl
      · rename_i stage
        obtain rfl := Option.some.inj atStage
        exact (ok.cancelFuture c).stageAt found (by rw [SendCall.inProgress, stage]) rfl
      · rename_i stage
        obtain rfl := Option.some.inj atStage
        exact (ok.cancelFuture c).stageAt found (by rw [SendCall.inProgress, stage]) rfl
      · cases atStage
  | resume i =>
      obtain ⟨c, found, atStage⟩ := Option.bind_eq_some_iff.mp stepped
      split at atStage
      · -- the future is done
        obtain ⟨result, came, rfl⟩ := Option.map_eq_some_iff.mp atStage
        obtain ⟨future, isMade, isOutcome⟩ := Option.bind_eq_some_iff.mp came
        refine ok.leave found fun message isOk => ?_
        subst isOk
        unfold outcome? at isOutcome
        split at isOutcome
        · rename_i received state
          obtain rfl := Except.ok.inj (Option.some.inj isOutcome)
          obtain ⟨-, made, isMade', session, id⟩ := ok.made found
          obtain rfl := Option.some.inj (isMade.symm.trans isMade')
          rw [← session, ← id]
          exact ok.results isMade state
        · cases isOutcome
        · cases isOutcome
      · obtain rfl := Option.some.inj atStage
        exact ok.leave found nofun
      · obtain rfl := Option.some.inj atStage
        exact ok.leave found nofun
      · cases atStage
  | resolve session message =>
      obtain rfl := Option.some.inj stepped
      exact ok.resolve session message

/-- The invariant of every run. -/
theorem Reach.ok (reach : Reach pyStr empty run) : run.Ok pyStr := by
  induction reach with
  | start => exact ok_empty pyStr
  | step _ fresh stepped ih => exact ih.step fresh stepped

end Invariant

/-! ## A session that is gone -/

/-- The session that a step supersedes or unregisters, and what its calls are told. -/
def dropped (run : HubRun ρ) : HubAction ρ → Option (Nat × Text)
  | .register _ code => (run.hub.sessions code).map fun session => (session, text "superseded")
  | .unregister session => some (session, text "disconnected")
  | _ => none

/-- No code leads to the session. -/
def Gone (hub : Hub ρ) (session : Nat) : Prop :=
  session < hub.objects.length ∧ ∀ code, hub.sessions code ≠ some session

section Dropping

variable {pyStr : Json Text → Text} {run run' : HubRun ρ} {session : Nat} {message : Text}

/-- The future of every call that is in progress on the session is completed. -/
def Completes (run run' : HubRun ρ) (session : Nat) (message : Text) : Prop :=
  ∀ (i : Nat) (c : SendCall) (future : Future), run.calls[i]? = some c → c.inProgress = true →
    c.session = session → run.hub.futures[c.future]? = some future →
      run'.hub.futures[c.future]? = some (future.settle (.failed message))

theorem completes_of_dropped (ok : run.Ok pyStr) {action : HubAction ρ}
    (drops : run.dropped action = some (session, message))
    (stepped : run.step pyStr action = some run') : Completes run run' session message := by
  rintro i c future found progress rfl isMade
  have failed := failAll_future ok found progress isMade message
  cases action with
  | register remote code =>
      obtain ⟨existing, isCurrent, same⟩ := Option.map_eq_some_iff.mp drops
      obtain ⟨rfl, rfl⟩ := Prod.mk.inj same
      obtain rfl := Option.some.inj stepped
      dsimp only [Hub.register]
      rw [isCurrent]
      exact failed
  | unregister existing =>
      obtain ⟨rfl, rfl⟩ := Prod.mk.inj (Option.some.inj drops)
      obtain ⟨object, isOpen, rfl⟩ := Option.map_eq_some_iff.mp stepped
      dsimp only [Hub.unregister]
      split
      · exact failed
      · exact failed
  | _ => cases drops

theorem gone_of_dropped (ok : run.Ok pyStr) {action : HubAction ρ}
    (drops : run.dropped action = some (session, message))
    (stepped : run.step pyStr action = some run') : Gone run'.hub session := by
  cases action with
  | register remote code =>
      obtain ⟨existing, isCurrent, same⟩ := Option.map_eq_some_iff.mp drops
      obtain ⟨rfl, rfl⟩ := Prod.mk.inj same
      obtain rfl := Option.some.inj stepped
      obtain ⟨object, isOpen, isCode⟩ := ok.hub.sessions isCurrent
      obtain ⟨inside, -⟩ := List.getElem?_eq_some_iff.mp isOpen
      refine ⟨?_, fun name isName => ?_⟩
      · rw [register_objects, List.length_append]
        exact Nat.lt_add_right _ inside
      rw [register_sessions] at isName
      by_cases same : name = code
      · subst same
        rw [Function.update_self] at isName
        exact absurd (Option.some.inj isName) inside.ne'
      · rw [Function.update_of_ne same] at isName
        obtain ⟨object', isOpen', isName'⟩ := ok.hub.sessions isName
        obtain rfl := Option.some.inj (isOpen.symm.trans isOpen')
        exact same (isName'.symm.trans isCode)
  | unregister existing =>
      obtain ⟨rfl, rfl⟩ := Prod.mk.inj (Option.some.inj drops)
      obtain ⟨object, isOpen, rfl⟩ := Option.map_eq_some_iff.mp stepped
      obtain ⟨inside, -⟩ := List.getElem?_eq_some_iff.mp isOpen
      have other : ∀ name, run.hub.sessions name = some existing →
          name = object.controllerCode := by
        intro name isName
        obtain ⟨object', isOpen', isName'⟩ := ok.hub.sessions isName
        obtain rfl := Option.some.inj (isOpen.symm.trans isOpen')
        exact isName'.symm
      refine ⟨by rw [unregister_objects]; exact inside, fun name isName => ?_⟩
      rw [unregister_sessions] at isName
      split_ifs at isName with removed
      · by_cases same : name = object.controllerCode
        · rw [same, Function.update_self] at isName
          cases isName
        · rw [Function.update_of_ne same] at isName
          exact same (other name isName)
      · rw [other name isName] at isName
        exact removed isName
  | _ => cases drops

/-- What a step does to the sessions and to the calls: a session is an old one or comes in
anew, and a call that is new uses the current session of a code. -/
structure Advances (run run' : HubRun ρ) : Prop where
  objects : run.hub.objects.length ≤ run'.hub.objects.length
  sessions : ∀ name session, run'.hub.sessions name = some session →
    run.hub.sessions name = some session ∨ run.hub.objects.length ≤ session
  calls : ∀ (i : Nat) (c : SendCall), run'.calls[i]? = some c →
    (∃ d, run.calls[i]? = some d ∧ d.session = c.session) ∨
      run.calls.length ≤ i ∧ ∃ name, run.hub.sessions name = some c.session

/-- A step of a call that is there. -/
theorem advances_set {hub : Hub ρ} {i : Nat} {c d : SendCall} {resolved : List (Nat × Dict)}
    (found : run.calls[i]? = some d) (same : d.session = c.session)
    (objects : run.hub.objects.length ≤ hub.objects.length)
    (sessions : hub.sessions = run.hub.sessions) :
    Advances run ⟨hub, run.calls.set i c, resolved⟩ where
  objects := objects
  sessions name session isName := .inl (sessions ▸ isName)
  calls j e isCall := by
    rcases get_set_cases isCall with ⟨rfl, rfl⟩ | ⟨-, old⟩
    · exact .inl ⟨d, found, same⟩
    · exact .inl ⟨e, old, rfl⟩

/-- A step of the hub alone. -/
theorem advances_hub {hub : Hub ρ} {resolved : List (Nat × Dict)}
    (objects : run.hub.objects.length ≤ hub.objects.length)
    (sessions : ∀ name session, hub.sessions name = some session →
      run.hub.sessions name = some session ∨ run.hub.objects.length ≤ session) :
    Advances run ⟨hub, run.calls, resolved⟩ :=
  ⟨objects, sessions, fun _ c found => .inl ⟨c, found, rfl⟩⟩

theorem onPending_length (hub : Hub ρ) (session : Nat)
    (change : List (Text × Nat) → List (Text × Nat)) :
    hub.objects.length ≤ (hub.onPending session change).length := by
  unfold Hub.onPending
  rw [List.length_modify]

theorem advances_leave {i : Nat} {c : SendCall} (found : run.calls[i]? = some c)
    (result : Except PyError Dict) : Advances run (run.leave i c result) :=
  advances_set found rfl (onPending_length run.hub _ _) rfl

theorem advances_of_step {action : HubAction ρ} (stepped : run.step pyStr action = some run') :
    Advances run run' := by
  cases action with
  | register remote code =>
      obtain rfl := Option.some.inj stepped
      refine advances_hub ?_ fun name session isName => ?_
      · rw [register_objects, List.length_append]
        exact Nat.le_add_right _ _
      rw [register_sessions] at isName
      by_cases same : name = code
      · subst same
        rw [Function.update_self] at isName
        exact .inr (Option.some.inj isName).le
      · rw [Function.update_of_ne same] at isName
        exact .inl isName
  | unregister session =>
      obtain ⟨object, isOpen, rfl⟩ := Option.map_eq_some_iff.mp stepped
      refine advances_hub (by rw [unregister_objects]) fun name session isName => ?_
      rw [unregister_sessions] at isName
      split_ifs at isName
      · by_cases same : name = object.controllerCode
        · rw [same, Function.update_self] at isName
          cases isName
        · rw [Function.update_of_ne same] at isName
          exact .inl isName
      · exact .inl isName
  | send code envelope =>
      simp only [HubRun.step] at stepped
      split at stepped
      · obtain rfl := Option.some.inj stepped
        exact advances_hub le_rfl fun _ _ isName => .inl isName
      · rename_i hub reference enqueued
        obtain ⟨future, isMade, rfl⟩ := Option.map_eq_some_iff.mp stepped
        obtain ⟨session, id, isCurrent, -, rfl, rfl⟩ := Hub.enqueue_cases enqueued
        have longer := onPending_length run.hub session fun pending =>
          (id, run.hub.futures.length) :: pending.filter fun entry => entry.1 ≠ id
        refine ⟨longer, fun _ _ isName => .inl isName, fun i c found => ?_⟩
        rcases get_append_index_cases found with old | ⟨rfl, rfl⟩
        · exact .inl ⟨c, old, rfl⟩
        · have last : (run.hub.futures ++ [⟨session, id, .pending⟩])[run.hub.futures.length]? =
              some ⟨session, id, .pending⟩ := List.getElem?_concat_length
          obtain rfl := Option.some.inj (last.symm.trans isMade)
          exact .inr ⟨le_rfl, code, isCurrent⟩
  | resolve session message =>
      obtain rfl := Option.some.inj stepped
      unfold Hub.resolve
      split <;> exact advances_hub le_rfl fun _ _ isName => .inl isName
  | sent i =>
      obtain ⟨c, found, atStage⟩ := Option.bind_eq_some_iff.mp stepped
      split at atStage
      · obtain rfl := Option.some.inj atStage
        exact advances_set found rfl le_rfl rfl
      · cases atStage
  | sendRaised i error =>
      obtain ⟨c, found, atStage⟩ := Option.bind_eq_some_iff.mp stepped
      split at atStage
      · obtain rfl := Option.some.inj atStage
        exact advances_leave found _
      · cases atStage
  | expire i =>
      obtain ⟨c, found, atStage⟩ := Option.bind_eq_some_iff.mp stepped
      split at atStage
      · obtain rfl := Option.some.inj atStage
        exact advances_set found rfl le_rfl rfl
      · cases atStage
  | cancel i =>
      obtain ⟨c, found, atStage⟩ := Option.bind_eq_some_iff.mp stepped
      split at atStage
      · obtain rfl := Option.some.inj atStage
        exact advances_set found rfl le_rfl rfl
      · obtain rfl := Option.some.inj atStage
        exact advances_set found rfl le_rfl rfl
      · obtain rfl := Option.some.inj atStage
        exact advances_set found rfl le_rfl rfl
      · cases atStage
  | resume i =>
      obtain ⟨c, found, atStage⟩ := Option.bind_eq_some_iff.mp stepped
      split at atStage
      · obtain ⟨result, -, rfl⟩ := Option.map_eq_some_iff.mp atStage
        exact advances_leave found _
      · obtain rfl := Option.some.inj atStage
        exact advances_leave found _
      · obtain rfl := Option.some.inj atStage
        exact advances_leave found _
      · cases atStage

/-- A session that is gone does not come back, and no call that is new uses it. -/
theorem gone_of_reach (gone : Gone run.hub session) (reach : Reach pyStr run run') :
    Gone run'.hub session ∧ ∀ (i : Nat) (c : SendCall), run'.calls[i]? = some c →
      c.session = session → i < run.calls.length := by
  induction reach with
  | start => exact ⟨gone, fun i c found _ => (List.getElem?_eq_some_iff.mp found).1⟩
  | step _ _ stepped ih =>
      obtain ⟨⟨made, absent⟩, used⟩ := ih
      have advances := advances_of_step stepped
      refine ⟨⟨made.trans_le advances.objects, fun name isName => ?_⟩, fun i c found same => ?_⟩
      · rcases advances.sessions name session isName with old | new
        · exact absent name old
        · exact absurd made (Nat.not_lt.mpr new)
      · rcases advances.calls i c found with ⟨d, old, sameSession⟩ | ⟨-, name, isCurrent⟩
        · exact used i d old (sameSession.trans same)
        · exact absurd (same ▸ isCurrent) (absent name)

end Dropping

/-! ## The guarantees -/

/-- **The hub is consistent.** In every state of every run with distinct command ids:
`unregister` of a session that is not current leaves the current ones alone; when a session
is superseded or unregistered, every call in progress on it has its future completed then
and there, and no later call uses it, so that a call on a session that is not current never
waits; a message that is returned was passed to `resolve` on the call's own session and
bears its id; and what a session has pending are the ids of the calls in progress on it. -/
theorem hub_consistent (pyStr : Json Text → Text) (run : HubRun ρ) (reach : Reach pyStr empty run) :
    (∀ session object, run.hub.objects[session]? = some object →
      run.hub.sessions object.controllerCode ≠ some session →
        (run.hub.unregister session object.controllerCode).sessions = run.hub.sessions) ∧
    (∀ action session message run', run.dropped action = some (session, message) →
      run.step pyStr action = some run' → Completes run run' session message ∧
        ∀ run'', Reach pyStr run' run'' → ∀ (i : Nat) (c : SendCall),
          run''.calls[i]? = some c → c.session = session → i < run'.calls.length) ∧
    (∀ (i : Nat) (c : SendCall), run.calls[i]? = some c → c.inProgress = true →
      Current run.hub c.session ∨ Done run.hub c.future) ∧
    (∀ (i : Nat) (c : SendCall) (message : Dict), run.calls[i]? = some c →
      c.stage = .finished (.ok message) →
        (c.session, message) ∈ run.resolved ∧ Hub.ackId pyStr message = c.commandId) ∧
    ∀ session object, run.hub.objects[session]? = some object → ∀ id,
      id ∈ object.pending.map Prod.fst ↔ ∃ (i : Nat) (c : SendCall), run.calls[i]? = some c ∧
        c.inProgress = true ∧ c.session = session ∧ c.commandId = id := by
  have ok := reach.ok
  refine ⟨?_, ?_, fun i c found => ok.live found, fun i c message found => ok.returned found, ?_⟩
  · intro session object _ stale
    rw [unregister_sessions, if_neg stale]
  · intro action session message run' drops stepped
    refine ⟨completes_of_dropped ok drops stepped, fun run'' later => ?_⟩
    exact (gone_of_reach (gone_of_dropped ok drops stepped) later).2
  · intro session object isOpen id
    rw [List.mem_map]
    constructor
    · rintro ⟨⟨key, reference⟩, mem, rfl⟩
      obtain ⟨i, c, found, progress, isSession, isId, -⟩ := (ok.pending isOpen _ _).mp mem
      exact ⟨i, c, found, progress, isSession, isId⟩
    · rintro ⟨i, c, found, progress, isSession, isId⟩
      exact ⟨(id, c.future),
        (ok.pending isOpen _ _).mpr ⟨i, c, found, progress, isSession, isId, rfl⟩, rfl⟩

/-! ## A session that is superseded -/

/-- A schedule, if every step can be taken. -/
def run (pyStr : Json Text → Text) (start : HubRun ρ) : List (HubAction ρ) → Option (HubRun ρ)
  | [] => some start
  | action :: rest =>
      if start.unused action then (start.step pyStr action).bind fun next => next.run pyStr rest
      else none

theorem reach_of_run {pyStr : Json Text → Text} {start mid final : HubRun ρ}
    {actions : List (HubAction ρ)} (ran : mid.run pyStr actions = some final)
    (reached : Reach pyStr start mid) : Reach pyStr start final := by
  induction actions generalizing mid with
  | nil =>
      obtain rfl := Option.some.inj ran
      exact reached
  | cons action rest ih =>
      rw [run] at ran
      split_ifs at ran with fresh
      obtain ⟨next, stepped, more⟩ := Option.bind_eq_some_iff.mp ran
      exact ih more (.step reached fresh stepped)

def sampleEnvelope (id : String) : Dict :=
  [(text "payload", .obj [(text "command_id", .str (text id))])]

def sampleAck (id : String) : Dict := [(text "command_id", .str (text id))]

/-- The first command waits when the controller connects again, and its acknowledgement
comes too late; the second is acknowledged. -/
def supersededSchedule : List (HubAction Unit) :=
  [.register () (text "c"), .send (text "c") (sampleEnvelope "a"), .sent 0,
    .register () (text "c"), .resolve 0 (sampleAck "a"), .resume 0,
    .send (text "c") (sampleEnvelope "b"), .sent 1, .resolve 1 (sampleAck "b"), .resume 1]

def acked (c : SendCall) : Bool :=
  match c.stage with
  | .finished (.ok _) => true
  | _ => false

theorem hub_consistent_sample : ∃ run : HubRun Unit, Reach (fun _ => []) empty run ∧
    run.calls.map (fun c => (c.session, c.inProgress, acked c)) =
      [(0, false, false), (1, false, true)] ∧
    ∀ (i : Nat) (c : SendCall) (message : Dict), run.calls[i]? = some c →
      c.stage = .finished (.ok message) →
        (c.session, message) ∈ run.resolved ∧ Hub.ackId (fun _ => []) message = c.commandId := by
  have ran : (run (fun _ => []) empty supersededSchedule).map (fun run =>
      run.calls.map fun c => (c.session, c.inProgress, acked c)) =
        some [(0, false, false), (1, false, true)] := by
    decide +kernel
  obtain ⟨final, ran, seen⟩ := Option.map_eq_some_iff.mp ran
  have reach := reach_of_run ran .start
  exact ⟨final, reach, seen, (hub_consistent (fun _ => []) final reach).2.2.2.1⟩

end HubRun

end DoorsControl.Backend
