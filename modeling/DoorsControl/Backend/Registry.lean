import DoorsControl.Backend.SocketLoop

/-!
# Who is online

`hub.py`: "at most one live session per controller". The socket that is superseded stays open: its
loop goes on, and only the registry forgets it.

* `Registered` — **the invariant**: a code is online with the last connection that registered under
  it, as long as that one is in its loop, and what happens on the hub is a run of `HubRun`;
* `online_iff` — the registry in every state of every run, and **what a command can rely on**.
-/

namespace DoorsControl.Backend

open Kit (Reaches)

/-- What the registry knows of a connection. -/
def Link.view (link : Link) : Text × Bool := (link.controllerCode, link.stage.serving)

/-- The last connection under the code is this one, and it is in its loop. -/
def Serves (views : List (Text × Bool)) (code : Text) (i : Nat) : Prop :=
  views[i]? = some (code, true) ∧ ∀ j, i < j → views[j]?.map Prod.fst ≠ some code

section Views

variable {views : List (Text × Bool)} {code code' : Text} {i j : Nat}

theorem Serves.lt (serves : Serves views code i) : i < views.length :=
  (List.getElem?_eq_some_iff.mp serves.1).1

/-- There is one at most. -/
theorem Serves.unique (serves : Serves views code i) (serves' : Serves views code j) : i = j := by
  have first : ¬ i < j := by
    intro before
    exact serves.2 j before (by rw [serves'.1]; rfl)
  have second : ¬ j < i := by
    intro before
    exact serves'.2 i before (by rw [serves.1]; rfl)
  omega

/-- A connection that comes in serves its code, and no other one does. -/
theorem serves_append : Serves (views ++ [(code', true)]) code i ↔
    if code = code' then i = views.length else Serves views code i := by
  have last : (views ++ [(code', true)])[views.length]? = some (code', true) :=
    List.getElem?_concat_length
  have beyond : ∀ j, views.length < j → (views ++ [(code', true)])[j]? = none := by
    intro j after
    rw [List.getElem?_eq_none_iff, List.length_append, List.length_singleton]
    omega
  have old : ∀ j, j < views.length → (views ++ [(code', true)])[j]? = views[j]? :=
    fun j inside => List.getElem?_append_left inside
  split_ifs with same
  · subst same
    constructor
    · intro serves
      have inside := serves.lt
      rw [List.length_append, List.length_singleton] at inside
      by_contra other
      exact serves.2 views.length (by omega) (by rw [last]; rfl)
    · rintro rfl
      exact ⟨last, fun j after => by rw [beyond j after]; nofun⟩
  · constructor
    · intro serves
      have inside := serves.lt
      rw [List.length_append, List.length_singleton] at inside
      have notLast : i ≠ views.length := by
        rintro rfl
        exact same (Prod.mk.inj (Option.some.inj (serves.1.symm.trans last))).1
      have before : i < views.length := by omega
      refine ⟨(old i before) ▸ serves.1, fun j after isCode => ?_⟩
      have known : j < views.length := by
        by_contra out
        rw [List.getElem?_eq_none_iff.mpr (by omega)] at isCode
        cases isCode
      exact serves.2 j after ((old j known).symm ▸ isCode)
    · intro serves
      refine ⟨(old i serves.lt).symm ▸ serves.1, fun j after => ?_⟩
      rcases Nat.lt_trichotomy j views.length with known | rfl | out
      · rw [old j known]
        exact serves.2 j after
      · rw [last]
        exact fun isCode => same (Option.some.inj isCode).symm
      · rw [beyond j out]
        nofun

/-- A connection that leaves its loop serves no longer; nobody takes its place. -/
theorem serves_set (found : views[j]? = some (code', true)) :
    Serves (views.set j (code', false)) code i ↔ Serves views code i ∧ i ≠ j := by
  have inside := (List.getElem?_eq_some_iff.mp found).1
  have names : ∀ k : Nat, (views.set j (code', false))[k]?.map Prod.fst = views[k]?.map Prod.fst := by
    intro k
    by_cases same : j = k
    · subst same
      rw [List.getElem?_set_self inside, found]
      rfl
    · rw [List.getElem?_set_ne same]
  unfold Serves
  simp only [names]
  by_cases same : j = i
  · subst same
    rw [List.getElem?_set_self inside]
    simp
  · rw [List.getElem?_set_ne same]
    simp [Ne.symm same]

end Views

/-! ## The steps of the hub -/

theorem onPending_codes {ρ : Type} (hub : Hub ρ) (session : Nat)
    (change : List (Text × Nat) → List (Text × Nat)) :
    (hub.onPending session change).map Session.controllerCode =
      hub.objects.map Session.controllerCode := by
  refine List.ext_getElem? fun index => ?_
  rw [List.getElem?_map, List.getElem?_map]
  cases found : hub.objects[index]? with
  | some object =>
      rw [Hub.onPending_of_get found]
      rfl
  | none =>
      rw [Hub.onPending, List.getElem?_modify, found]
      rfl

/-- What `send_command` leaves alone. -/
structure Quiet (run run' : HubRun Nat) : Prop where
  sessions : run'.hub.sessions = run.hub.sessions
  codes : run'.hub.objects.map Session.controllerCode = run.hub.objects.map Session.controllerCode
  resolved : run'.resolved = run.resolved

theorem quiet_leave (run : HubRun Nat) (i : Nat) (c : SendCall) (result : Except PyError Dict) :
    Quiet run (run.leave i c result) := ⟨rfl, onPending_codes run.hub _ _, rfl⟩

theorem quiet_of_command {pyStr : Json Text → Text} {run run' : HubRun Nat}
    {action : HubAction Nat} (ofCommand : action.ofCommand = true)
    (stepped : run.step pyStr action = some run') : Quiet run run' := by
  cases action with
  | register | unregister | resolve => cases ofCommand
  | send code envelope =>
      simp only [HubRun.step] at stepped
      split at stepped
      · exact Option.some.inj stepped ▸ ⟨rfl, rfl, rfl⟩
      · rename_i hub reference enqueued
        obtain ⟨future, isMade, rfl⟩ := Option.map_eq_some_iff.mp stepped
        obtain ⟨session, id, -, -, -, rfl⟩ := Hub.enqueue_cases enqueued
        refine ⟨rfl, ?_, rfl⟩
        dsimp only
        exact onPending_codes run.hub _ _
  | sent i =>
      obtain ⟨c, -, atStage⟩ := Option.bind_eq_some_iff.mp stepped
      split at atStage
      · exact Option.some.inj atStage ▸ ⟨rfl, rfl, rfl⟩
      · cases atStage
  | sendRaised i error =>
      obtain ⟨c, -, atStage⟩ := Option.bind_eq_some_iff.mp stepped
      split at atStage
      · exact Option.some.inj atStage ▸ quiet_leave run i c _
      · cases atStage
  | expire i =>
      obtain ⟨c, -, atStage⟩ := Option.bind_eq_some_iff.mp stepped
      split at atStage
      · exact Option.some.inj atStage ▸ ⟨rfl, rfl, rfl⟩
      · cases atStage
  | cancel i =>
      obtain ⟨c, -, atStage⟩ := Option.bind_eq_some_iff.mp stepped
      split at atStage
      · exact Option.some.inj atStage ▸ ⟨rfl, rfl, rfl⟩
      · exact Option.some.inj atStage ▸ ⟨rfl, rfl, rfl⟩
      · exact Option.some.inj atStage ▸ ⟨rfl, rfl, rfl⟩
      · cases atStage
  | resume i =>
      obtain ⟨c, -, atStage⟩ := Option.bind_eq_some_iff.mp stepped
      split at atStage
      · obtain ⟨result, -, rfl⟩ := Option.map_eq_some_iff.mp atStage
        exact quiet_leave run i c _
      · exact Option.some.inj atStage ▸ quiet_leave run i c _
      · exact Option.some.inj atStage ▸ quiet_leave run i c _
      · cases atStage

theorem resolve_registry {ρ : Type} (hub : Hub ρ) (pyStr : Json Text → Text) (session : Nat)
    (message : Dict) : (hub.resolve pyStr session message).sessions = hub.sessions ∧
      (hub.resolve pyStr session message).objects = hub.objects := by
  unfold Hub.resolve
  split <;> exact ⟨rfl, rfl⟩

/-! ## The steps of a connection -/

namespace LinkRun

variable {settings : LinkSettings} {s s' : LinkRun} {i : Nat} {link : Link} {a : LinkAction}

/-- What a step of a connection is to the registry: it leaves its loop, or it stays where it is,
and may have passed an acknowledgement on. -/
inductive Moves (settings : LinkSettings) (s : LinkRun) (i : Nat) (link : Link) (s' : LinkRun) :
    Prop
  | left (link' : Link) (serving : link.stage.serving = true)
      (view : link'.view = (link.controllerCode, false))
      (links : s'.links = s.links.set i link')
      (run : s'.run = { s.run with hub := s.run.hub.unregister i link.controllerCode })
  | stayed (views : s'.links.map Link.view = s.links.map Link.view) (run : s'.run = s.run)
  | acked (raw : Text) (message : Dict) (views : s'.links.map Link.view = s.links.map Link.view)
      (received : (i, raw) ∈ s'.received) (isAck : readFrame settings raw = .ack message)
      (run : s'.run = { s.run with
        hub := s.run.hub.resolve settings.pyStr i message
        resolved := (i, message) :: s.run.resolved })

/-- Another stage of the loop or of the heartbeat. -/
theorem views_set (found : s.links[i]? = some link) {link' : Link} (same : link'.view = link.view) :
    (s.links.set i link').map Link.view = s.links.map Link.view := by
  rw [List.map_set, same]
  refine List.ext_getElem? fun j => ?_
  by_cases here : i = j
  · subst here
    have inside := (List.getElem?_eq_some_iff.mp found).1
    rw [List.getElem?_set_self (by simpa using inside), List.getElem?_map, found]
    rfl
  · rw [List.getElem?_set_ne here]

theorem moves_leave (serving : link.stage.serving = true) {rows : List (Nat × RecordedRow)}
    {received : List (Nat × Text)} :
    Moves settings s i link ({ s with rows, received }.leave i link) :=
  .left _ serving rfl rfl rfl

theorem moves_goOn (found : s.links[i]? = some link) (serving : link.stage.serving = true)
    (raised : Bool) {rows : List (Nat × RecordedRow)} :
    Moves settings s i link ({ s with rows }.goOn i link raised) := by
  cases raised with
  | true => exact moves_leave serving
  | false =>
      refine .stayed (views_set found ?_) rfl
      show (link.controllerCode, true) = (link.controllerCode, link.stage.serving)
      rw [serving]

theorem LinkStep.moves (found : s.links[i]? = some link) (h : LinkStep settings s i link a s') :
    Moves settings s i link s' := by
  have beats : ∀ (beat : BeatStage) (pingedAt : Option Int) (dropped : Bool),
      Moves settings s i link (s.setLink i { link with beat, pingedAt, dropped }) :=
    fun _ _ _ => .stayed (views_set found rfl) rfl
  cases h with
  | text raw isStage =>
      have serving : link.stage.serving = true := by rw [isStage]; rfl
      have stays : ∀ (stage : LoopStage) (lastPongAt : Int), stage.serving = true →
          Moves settings s i link ({ s with received := (i, raw) :: s.received }.setLink i
            { link with stage, lastPongAt }) := by
        intro stage lastPongAt still
        refine .stayed (views_set found ?_) rfl
        show (link.controllerCode, stage.serving) = (link.controllerCode, link.stage.serving)
        rw [still, serving]
      unfold receive
      cases read : readFrame settings raw with
      | leave => exact moves_leave serving
      | skip => exact .stayed rfl rfl
      | pong => exact stays _ _ rfl
      | ack message => exact .acked raw message rfl List.mem_cons_self read rfl
      | event eventType outcome detail => exact stays _ _ rfl
  | gone isStage => exact moves_leave (by rw [isStage]; rfl)
  | touched raised isStage => exact moves_goOn found (by rw [isStage]; rfl) raised
  | lost raised isStage => exact moves_goOn found (by rw [isStage]; rfl) raised
  | stored raised isStage isRow => exact moves_goOn found (by rw [isStage]; rfl) raised
  | left stored isStage =>
      refine .stayed (views_set found ?_) rfl
      show (link.controllerCode, false) = (link.controllerCode, link.stage.serving)
      rw [isStage]
      rfl
  | woken isBeat due =>
      unfold beat
      split_ifs
      · exact beats _ _ _
      · exact beats _ _ _
  | pinged raised isBeat => exact beats _ _ _
  | closed isBeat => exact beats _ _ _

/-- What came in stays. -/
theorem LinkStep.received (h : LinkStep settings s i link a s') : s.received ⊆ s'.received := by
  have goesOn : ∀ (raised : Bool) (rows : List (Nat × RecordedRow)),
      s.received ⊆ ({ s with rows }.goOn i link raised).received := by
    intro raised rows
    cases raised <;> exact List.Subset.refl _
  cases h with
  | text raw isStage =>
      have kept : s.received ⊆ (receive settings s i link raw).received := by
        unfold receive
        cases readFrame settings raw <;> exact List.subset_cons_self _ _
      exact kept
  | touched raised isStage => exact goesOn raised s.rows
  | lost raised isStage => exact goesOn raised s.rows
  | stored raised isStage isRow => exact goesOn raised _
  | woken isBeat due =>
      unfold beat
      split_ifs <;> exact List.Subset.refl _
  | gone | left | pinged | closed => exact List.Subset.refl _

/-! ## Every run -/

/-- Command ids are not used twice. -/
def unused (s : LinkRun) : LinkAction → Bool
  | .command action => s.run.unused action
  | _ => true

/-- What holds in every state. -/
structure Registered (settings : LinkSettings) (s : LinkRun) : Prop where
  run : HubRun.Reach settings.pyStr .empty s.run
  codes : s.run.hub.objects.map Session.controllerCode = s.links.map Link.controllerCode
  sessions : ∀ code i, s.run.hub.sessions code = some i ↔ Serves (s.links.map Link.view) code i
  acks : ∀ session message, (session, message) ∈ s.run.resolved → ∃ raw,
    (session, raw) ∈ s.received ∧ readFrame settings raw = .ack message

theorem codes_of_views {links links' : List Link}
    (same : links'.map Link.view = links.map Link.view) :
    links'.map Link.controllerCode = links.map Link.controllerCode := by
  have first : ∀ l : List Link, l.map Link.controllerCode = (l.map Link.view).map Prod.fst := by
    intro l
    rw [List.map_map]
    rfl
  rw [first, first, same]

theorem registered_moves (inv : Registered settings s) (found : s.links[i]? = some link)
    (kept : s.received ⊆ s'.received) (h : Moves settings s i link s') : Registered settings s' := by
  have known : ∃ object, s.run.hub.objects[i]? = some object ∧
      object.controllerCode = link.controllerCode := by
    have same := congrArg (fun l => l[i]?) inv.codes
    simp only [List.getElem?_map, found, Option.map_some] at same
    exact Option.map_eq_some_iff.mp same
  obtain ⟨object, isObject, isCode⟩ := known
  have acks : ∀ session message, (session, message) ∈ s.run.resolved → ∃ raw,
      (session, raw) ∈ s'.received ∧ readFrame settings raw = .ack message := by
    intro session message mem
    obtain ⟨raw, came, isAck⟩ := inv.acks session message mem
    exact ⟨raw, kept came, isAck⟩
  cases h with
  | left link' serving view links run =>
      have stepped : s.run.step settings.pyStr (.unregister i) = some s'.run := by
        rw [run, HubRun.step, isObject, Option.map_some, isCode]
      have names : s'.links.map Link.controllerCode = s.links.map Link.controllerCode := by
        have isName : link'.controllerCode = link.controllerCode := (Prod.mk.inj view).1
        rw [links, List.map_set, isName]
        refine List.ext_getElem? fun j => ?_
        by_cases here : i = j
        · subst here
          have inside := (List.getElem?_eq_some_iff.mp found).1
          rw [List.getElem?_set_self (by simpa using inside), List.getElem?_map, found]
          rfl
        · rw [List.getElem?_set_ne here]
      have wasServing : (s.links.map Link.view)[i]? = some (link.controllerCode, true) := by
        rw [List.getElem?_map, found, Option.map_some, Link.view, serving]
      refine ⟨inv.run.step rfl stepped, ?_, ?_, by rw [run]; exact acks⟩
      · rw [run, names, ← inv.codes]
        exact congrArg _ (HubRun.unregister_objects _ _ _)
      · intro code j
        rw [links, List.map_set, view, serves_set wasServing, ← inv.sessions, run]
        show (s.run.hub.unregister i link.controllerCode).sessions code = some j ↔ _
        rw [HubRun.unregister_sessions]
        split_ifs with current
        · by_cases same : code = link.controllerCode
          · subst same
            rw [Function.update_self, current]
            simp [eq_comm]
          · rw [Function.update_of_ne same]
            refine ⟨fun isCurrent => ⟨isCurrent, ?_⟩, And.left⟩
            rintro rfl
            have named := ((inv.sessions code j).mp isCurrent).1.symm.trans wasServing
            exact same (Prod.mk.inj (Option.some.inj named)).1
        · refine ⟨fun isCurrent => ⟨isCurrent, ?_⟩, And.left⟩
          rintro rfl
          have named := ((inv.sessions code j).mp isCurrent).1.symm.trans wasServing
          exact current ((Prod.mk.inj (Option.some.inj named)).1 ▸ isCurrent)
  | stayed views run =>
      refine ⟨run ▸ inv.run, ?_, ?_, run ▸ acks⟩
      · rw [run, codes_of_views views]
        exact inv.codes
      · rw [run, views]
        exact inv.sessions
  | acked raw message views received isAck run =>
      obtain ⟨sessions, objects⟩ := resolve_registry s.run.hub settings.pyStr i message
      have stepped : s.run.step settings.pyStr (.resolve i message) = some s'.run := by
        rw [run]
        rfl
      refine ⟨inv.run.step rfl stepped, ?_, ?_, ?_⟩
      · rw [run, codes_of_views views, ← inv.codes]
        exact congrArg _ objects
      · intro code j
        rw [run, views, ← inv.sessions]
        show (s.run.hub.resolve settings.pyStr i message).sessions code = some j ↔ _
        rw [sessions]
      · intro session other mem
        rw [run] at mem
        rcases List.mem_cons.mp mem with new | old
        · obtain ⟨rfl, rfl⟩ := Prod.mk.inj new
          exact ⟨raw, received, isAck⟩
        · exact acks session other old

theorem registered_empty (settings : LinkSettings) : Registered settings empty where
  run := .start
  codes := rfl
  sessions code i := by simp [empty, HubRun.empty, Hub.empty, Serves]
  acks session message mem := by simp [empty, HubRun.empty] at mem

/-- **Every step keeps the registry right.** -/
theorem registered_step (inv : Registered settings s) (fresh : s.unused a = true)
    (stepped : step settings s a = some s') : Registered settings s' := by
  rcases step_cases stepped with ⟨id, code, ip, rfl, rfl⟩ | ⟨i, link, found, taken⟩ |
    ⟨action, run, rfl, ofCommand, taken, rfl⟩ | ⟨time, rfl, rfl⟩
  · have length : s.run.hub.objects.length = s.links.length := by
      simpa using congrArg List.length inv.codes
    have registers : s.run.step settings.pyStr (.register s.links.length code) =
        some { s.run with hub := s.run.hub.register s.links.length code } := rfl
    refine ⟨inv.run.step rfl registers, ?_, ?_, inv.acks⟩
    · simp only [HubRun.register_objects, List.map_append, List.map_cons, List.map_nil, inv.codes]
      rfl
    · intro other i
      show (s.run.hub.register s.links.length code).sessions other = some i ↔ _
      rw [HubRun.register_sessions, List.map_append, List.map_singleton]
      show _ ↔ Serves (s.links.map Link.view ++ [(code, true)]) other i
      rw [serves_append, List.length_map, length]
      split_ifs with same
      · rw [same, Function.update_self, Option.some.injEq, eq_comm]
      · rw [Function.update_of_ne same]
        exact inv.sessions other i
  · exact registered_moves inv found taken.received (taken.moves found)
  · obtain ⟨sessions, codes, resolved⟩ := quiet_of_command ofCommand taken
    refine ⟨inv.run.step fresh taken, codes.trans inv.codes, ?_, ?_⟩
    · rw [sessions]
      exact inv.sessions
    · rw [resolved]
      exact inv.acks
  · exact ⟨inv.run, inv.codes, inv.sessions, inv.acks⟩

/-- The states that any interleaving with distinct command ids reaches. -/
abbrev LinkReach (settings : LinkSettings) (s : LinkRun) : Prop :=
  Reaches (step settings) unused empty s

theorem registered_of_reach (reach : LinkReach settings s) : Registered settings s :=
  reach.invariant (Registered settings) (registered_empty settings)
    fun _ _ _ _ inv fresh stepped => registered_step inv fresh stepped

/-- **The registry is right in every state of every run.** A code is online with the last
connection that registered under it, as long as that one is in its loop. A call of `send_command`
that goes on waiting waits on such a connection, and what it returns is an acknowledgement that
came in as a frame on the connection that the command was sent on. -/
theorem online_iff (reach : LinkReach settings s) :
    (∀ code i, s.run.hub.sessions code = some i ↔ Serves (s.links.map Link.view) code i) ∧
    (∀ (j : Nat) (c : SendCall), s.run.calls[j]? = some c → c.inProgress = true →
      (∃ code, Serves (s.links.map Link.view) code c.session) ∨
        HubRun.Done s.run.hub c.future) ∧
    ∀ (j : Nat) (c : SendCall) (message : Dict), s.run.calls[j]? = some c →
      c.stage = .finished (.ok message) → Hub.ackId settings.pyStr message = c.commandId ∧
        ∃ raw, (c.session, raw) ∈ s.received ∧ readFrame settings raw = .ack message := by
  have inv := registered_of_reach reach
  have ok := inv.run.ok
  refine ⟨inv.sessions, ?_, ?_⟩
  · intro j c found progress
    rcases ok.live found progress with ⟨object, -, current⟩ | done
    · exact .inl ⟨_, (inv.sessions _ _).mp current⟩
    · exact .inr done
  · intro j c message found returned
    obtain ⟨resolved, isId⟩ := ok.returned found returned
    exact ⟨isId, inv.acks _ _ resolved⟩

/-- The frame of an acknowledgement, as the other side writes it. -/
def sampleFrame (id : String) : Dict :=
  (text "type", .str (text "ack")) :: HubRun.sampleAck id

/-- `json.loads` on the frames of the schedule. -/
def sampleSettings : LinkSettings where
  handshakeTimeoutSeconds := 10
  heartbeatSeconds := 25
  heartbeatTimeoutSeconds := 60
  signerKeyId := text "signer-1"
  loads raw :=
    if raw = jsonDumps (.obj (sampleFrame "a")) then .ok (.obj (sampleFrame "a"))
    else if raw = jsonDumps (.obj (sampleFrame "b")) then .ok (.obj (sampleFrame "b"))
    else .error (.refused (text "JSONDecodeError"))
  pyStr _ := []
  b64decode _ := .ok []

/-- A controller connects again while a command is on its way, and acknowledges it on the old
connection; the next command goes out on the new one, which then breaks. -/
def twoConnections : List LinkAction :=
  [.connect 7 (text "c") none, .command (.send (text "c") (HubRun.sampleEnvelope "a")),
    .command (.sent 0), .connect 7 (text "c") none,
    .received 0 (some (jsonDumps (.obj (sampleFrame "a")))), .command (.resume 0),
    .command (.send (text "c") (HubRun.sampleEnvelope "b")), .command (.sent 1),
    .received 1 (some (jsonDumps (.obj (sampleFrame "b")))), .command (.resume 1),
    .received 1 none]

theorem online_iff_sample : ∃ s : LinkRun, LinkReach sampleSettings s ∧
    s.links.map Link.view = [(text "c", true), (text "c", false)] ∧
    s.run.calls.map (fun c => (c.session, HubRun.acked c)) = [(0, false), (1, true)] ∧
    ∀ code i, s.run.hub.sessions code = some i ↔ Serves (s.links.map Link.view) code i := by
  have ran : (Kit.schedule (step sampleSettings) unused empty twoConnections).map (fun s =>
      (s.links.map Link.view, s.run.calls.map fun c => (c.session, HubRun.acked c))) =
        some ([(text "c", true), (text "c", false)], [(0, false), (1, true)]) := by
    decide +kernel
  obtain ⟨final, ran, seen⟩ := Option.map_eq_some_iff.mp ran
  obtain ⟨views, calls⟩ := Prod.mk.inj seen
  have reach := Kit.reaches_of_schedule ran .start
  exact ⟨final, reach, views, calls, (online_iff reach).1⟩

end LinkRun

end DoorsControl.Backend
