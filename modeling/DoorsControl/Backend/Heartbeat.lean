import DoorsControl.Backend.Registry

/-!
# The heartbeat of a connection

"The server pings; a controller that stops answering is dropped and its doors report offline".
Tasks are not scheduled at once: a sleep may end later than it was asked to, and a ping takes time
to be sent. How late, is for the surroundings to say; a run is `prompt` where it is never more than
a given slack.

* `EachLink` — what is to be shown of a property of the connections;
* `silent_dropped` — **how long a silent controller stays**;
* `answering_kept` — **a controller that answers every ping is not dropped**.
-/

namespace DoorsControl.Backend.LinkRun

open Kit (Reaches)

variable {settings : LinkSettings}

/-- `ws_heartbeat_seconds`, in milliseconds. -/
def heartbeat (settings : LinkSettings) : Int := settings.heartbeatSeconds * 1000

/-- `ws_heartbeat_timeout_seconds`, in milliseconds. -/
def timeout (settings : LinkSettings) : Int := settings.heartbeatTimeoutSeconds * 1000

/-! ## One property of every connection -/

/-- A property of a connection and the time that every guarded step keeps. -/
structure EachLink (settings : LinkSettings) (ok : LinkRun → LinkAction → Bool)
    (P : Int → Link → Prop) : Prop where
  registered : ∀ id code ip now, P now (.registered id code ip now)
  staged : ∀ now link stage, P now link → P now { link with stage }
  left : ∀ now link stage, P now link → P now { link with stage, beat := .ended }
  pong : ∀ now link stage, P now link → P now { link with stage, lastPongAt := now }
  dropped : ∀ s i link since, ok s (.woken i) = true → s.links[i]? = some link →
    link.beat = .sleeping since → since + heartbeat settings ≤ s.now →
    timeout settings < s.now - link.lastPongAt → P s.now link →
      P s.now { link with beat := .closing, dropped := true }
  pinging : ∀ s i link since, ok s (.woken i) = true → s.links[i]? = some link →
    link.beat = .sleeping since → since + heartbeat settings ≤ s.now →
    s.now - link.lastPongAt ≤ timeout settings → P s.now link →
      P s.now { link with beat := .pinging s.now, pingedAt := some s.now }
  failed : ∀ now link, P now link → P now { link with beat := .ended }
  pinged : ∀ now link since, link.beat = .pinging since → P now link →
    P now { link with beat := .sleeping now }
  passed : ∀ s (time : Nat) link, ok s (.pass time) = true → link ∈ s.links → P s.now link →
    P (s.now + time) link

section Rule

variable {ok : LinkRun → LinkAction → Bool} {P : Int → Link → Prop} {s s' : LinkRun}

/-- Another connection in its place. -/
theorem mem_setLink {i : Nat} {link' : Link} (inv : ∀ link ∈ s.links, P s.now link)
    (own : P s.now link') : ∀ link ∈ s.links.set i link', P s.now link := by
  intro link mem
  rcases List.mem_or_eq_of_mem_set mem with old | rfl
  · exact inv link old
  · exact own

theorem EachLink.linkStep (each : EachLink settings ok P) (inv : ∀ link ∈ s.links, P s.now link)
    {i : Nat} {link : Link} {a : LinkAction} (allowed : ok s a = true)
    (found : s.links[i]? = some link) (h : LinkStep settings s i link a s') :
    ∀ link ∈ s'.links, P s'.now link := by
  have known := inv link (List.mem_of_getElem? found)
  have leaves : ∀ (rows : List (Nat × RecordedRow)) (received : List (Nat × Text)),
      ∀ other ∈ ({ s with rows, received }.leave i link).links, P s.now other :=
    fun _ _ => mem_setLink inv (each.left _ _ _ known)
  have goesOn : ∀ (rows : List (Nat × RecordedRow)) (raised : Bool),
      ∀ other ∈ ({ s with rows }.goOn i link raised).links,
        P ({ s with rows }.goOn i link raised).now other := by
    intro rows raised
    cases raised with
    | true => exact leaves rows s.received
    | false => exact mem_setLink inv (each.staged _ _ _ known)
  cases h with
  | text raw isStage =>
      unfold receive
      cases readFrame settings raw with
      | leave => exact leaves s.rows _
      | skip => exact inv
      | pong => exact mem_setLink inv (each.pong _ _ _ known)
      | ack message => exact inv
      | event => exact mem_setLink inv (each.staged _ _ _ known)
  | gone isStage => exact leaves s.rows s.received
  | touched raised isStage => exact goesOn s.rows raised
  | lost raised isStage => exact goesOn s.rows raised
  | stored raised isStage isRow => exact goesOn _ raised
  | left stored isStage => exact mem_setLink inv (each.staged _ _ _ known)
  | woken isBeat due =>
      unfold beat
      split_ifs with late
      · exact mem_setLink inv (each.dropped s i link _ allowed found isBeat due late known)
      · exact mem_setLink inv
          (each.pinging s i link _ allowed found isBeat due (Int.not_lt.mp late) known)
  | pinged raised isBeat =>
      cases raised with
      | true => exact mem_setLink inv (each.failed _ _ known)
      | false => exact mem_setLink inv (each.pinged _ _ _ isBeat known)
  | closed isBeat => exact mem_setLink inv (each.failed _ _ known)

/-- **What every guarded step keeps of a connection holds of all of them.** -/
theorem EachLink.reaches (each : EachLink settings ok P)
    (reach : Reaches (step settings) ok empty s) : ∀ link ∈ s.links, P s.now link := by
  refine reach.invariant (fun s => ∀ link ∈ s.links, P s.now link) (by simp [empty]) ?_
  intro s a s' _ inv allowed stepped
  rcases step_cases stepped with ⟨id, code, ip, rfl, rfl⟩ | ⟨i, link, found, taken⟩ |
    ⟨action, run, rfl, -, -, rfl⟩ | ⟨time, rfl, rfl⟩
  · intro link mem
    rcases List.mem_append.mp mem with old | new
    · exact inv link old
    · rw [List.mem_singleton.mp new]
      exact each.registered id code ip s.now
  · exact each.linkStep inv allowed found taken
  · exact inv
  · exact fun link mem => each.passed s time link allowed mem (inv link mem)

end Rule

/-! ## A silent controller -/

/-- No sleep of a heartbeat ends more than `slack` late, and no ping takes longer. -/
def prompt (settings : LinkSettings) (slack : Nat) (s : LinkRun) : LinkAction → Bool
  | .pass time => s.links.all fun link =>
      match link.beat with
      | .sleeping since => s.now + time ≤ since + heartbeat settings + slack
      | .pinging since => s.now + time ≤ since + slack
      | _ => true
  | a => s.unused a

/-- Where the heartbeat stands, by the last pong. -/
def Beating (settings : LinkSettings) (slack : Nat) (now : Int) (link : Link) : Prop :=
  link.lastPongAt ≤ now ∧
    match link.beat with
    | .sleeping since => now ≤ since + heartbeat settings + slack ∧
        since ≤ link.lastPongAt + timeout settings + slack
    | .pinging since => now ≤ since + slack ∧ since ≤ link.lastPongAt + timeout settings
    | .closing => link.dropped = true
    | .ended => True

section Silent

variable (heartbeatNonneg : 0 ≤ settings.heartbeatSeconds)
  (timeoutNonneg : 0 ≤ settings.heartbeatTimeoutSeconds) (slack : Nat)

include heartbeatNonneg timeoutNonneg

theorem beating_eachLink : EachLink settings (prompt settings slack) (Beating settings slack) where
  registered id code ip now := by
    have h : 0 ≤ heartbeat settings := by unfold heartbeat; omega
    have t : 0 ≤ timeout settings := by unfold timeout; omega
    refine ⟨le_rfl, ?_, ?_⟩
    · show now ≤ now + heartbeat settings + slack
      omega
    · show now ≤ now + timeout settings + slack
      omega
  staged now link stage known := known
  left now link stage known := ⟨known.1, trivial⟩
  pong now link stage known := by
    obtain ⟨past, stands⟩ := known
    refine ⟨le_rfl, ?_⟩
    -- the last pong is later than it was
    cases isBeat : link.beat with
    | sleeping since =>
        rw [isBeat] at stands
        have stands : now ≤ since + heartbeat settings + slack ∧
            since ≤ link.lastPongAt + timeout settings + slack := stands
        show now ≤ since + heartbeat settings + slack ∧ since ≤ now + timeout settings + slack
        omega
    | pinging since =>
        rw [isBeat] at stands
        have stands : now ≤ since + slack ∧ since ≤ link.lastPongAt + timeout settings := stands
        show now ≤ since + slack ∧ since ≤ now + timeout settings
        omega
    | closing =>
        rw [isBeat] at stands
        exact stands
    | ended => trivial
  dropped s i link since _ _ _ _ _ known := ⟨known.1, rfl⟩
  pinging s i link since _ _ _ _ heard known := by
    refine ⟨known.1, ?_⟩
    show s.now ≤ s.now + slack ∧ s.now ≤ link.lastPongAt + timeout settings
    omega
  failed now link known := ⟨known.1, trivial⟩
  pinged now link since isBeat known := by
    obtain ⟨past, stands⟩ := known
    rw [isBeat] at stands
    have stands : now ≤ since + slack ∧ since ≤ link.lastPongAt + timeout settings := stands
    have h : 0 ≤ heartbeat settings := by unfold heartbeat; omega
    refine ⟨past, ?_⟩
    show now ≤ now + heartbeat settings + slack ∧ now ≤ link.lastPongAt + timeout settings + slack
    omega
  passed s time link allowed mem known := by
    obtain ⟨past, stands⟩ := known
    have due := List.all_eq_true.mp allowed link mem
    refine ⟨by omega, ?_⟩
    cases isBeat : link.beat with
    | sleeping since =>
        rw [isBeat] at stands due
        exact ⟨of_decide_eq_true due, stands.2⟩
    | pinging since =>
        rw [isBeat] at stands due
        exact ⟨of_decide_eq_true due, stands.2⟩
    | closing =>
        rw [isBeat] at stands
        exact stands
    | ended => trivial

/-- **How long a silent controller stays.** In every prompt run, what has been silent for longer
than the timeout, one heartbeat and twice the slack has been dropped, unless a ping to it could not
be sent or it has left already. -/
theorem silent_dropped {s : LinkRun}
    (reach : Reaches (step settings) (prompt settings slack) empty s) (link : Link)
    (mem : link ∈ s.links)
    (silent : link.lastPongAt + timeout settings + heartbeat settings + 2 * slack < s.now) :
    link.dropped = true ∨ link.beat = .ended := by
  obtain ⟨past, stands⟩ :=
    (beating_eachLink heartbeatNonneg timeoutNonneg slack).reaches reach link mem
  cases isBeat : link.beat with
  | sleeping since =>
      rw [isBeat] at stands
      have stands : s.now ≤ since + heartbeat settings + slack ∧
          since ≤ link.lastPongAt + timeout settings + slack := stands
      omega
  | pinging since =>
      rw [isBeat] at stands
      have stands : s.now ≤ since + slack ∧ since ≤ link.lastPongAt + timeout settings := stands
      have h : 0 ≤ heartbeat settings := by unfold heartbeat; omega
      omega
  | closing =>
      rw [isBeat] at stands
      exact .inl stands
  | ended => exact .inr rfl

end Silent

/-! ## A controller that answers -/

/-- A pong has come in since the last ping, by the time the heartbeat wakes up. -/
def answered (settings : LinkSettings) (slack : Nat) (s : LinkRun) : LinkAction → Bool
  | .woken i =>
      match s.links[i]?.bind Link.pingedAt, s.links[i]?.map Link.lastPongAt with
      | some pinged, some heard => pinged ≤ heard
      | _, _ => true
  | a => prompt settings slack s a

/-- Where the heartbeat stands, by the last ping. -/
def Kept (settings : LinkSettings) (slack : Nat) (now : Int) (link : Link) : Prop :=
  link.dropped = false ∧ link.lastPongAt ≤ now ∧
    match link.beat with
    | .sleeping since => now ≤ since + heartbeat settings + slack ∧
        match link.pingedAt with
        | some pinged => since ≤ pinged + slack
        | none => since ≤ link.lastPongAt
    | .pinging since => link.pingedAt = some since ∧ now ≤ since + slack
    | .closing => False
    | .ended => True

section Answering

variable (heartbeatNonneg : 0 ≤ settings.heartbeatSeconds) (slack : Nat)
  (inTime : heartbeat settings + 2 * slack ≤ timeout settings)

include heartbeatNonneg inTime

theorem kept_eachLink : EachLink settings (answered settings slack) (Kept settings slack) where
  registered id code ip now := by
    have h : 0 ≤ heartbeat settings := by unfold heartbeat; omega
    refine ⟨rfl, le_rfl, ?_, le_rfl⟩
    show now ≤ now + heartbeat settings + slack
    omega
  staged now link stage known := known
  left now link stage known := ⟨known.1, known.2.1, trivial⟩
  pong now link stage known := by
    obtain ⟨undropped, past, stands⟩ := known
    refine ⟨undropped, le_rfl, ?_⟩
    cases isBeat : link.beat with
    | sleeping since =>
        rw [isBeat] at stands
        obtain ⟨due, asleep⟩ := stands
        refine ⟨due, ?_⟩
        show match link.pingedAt with
          | some pinged => since ≤ pinged + slack
          | none => since ≤ now
        cases isPing : link.pingedAt with
        | some pinged =>
            rw [isPing] at asleep
            exact asleep
        | none =>
            rw [isPing] at asleep
            exact le_trans asleep past
    | pinging since =>
        rw [isBeat] at stands
        exact stands
    | closing =>
        rw [isBeat] at stands
        exact stands
    | ended => trivial
  dropped s i link since allowed found isBeat _ late known := by
    -- it woke up in time, and the last ping was answered
    obtain ⟨-, past, stands⟩ := known
    rw [isBeat] at stands
    obtain ⟨due, asleep⟩ := stands
    rw [answered, found, Option.bind_some, Option.map_some] at allowed
    cases isPing : link.pingedAt with
    | some pinged =>
        rw [isPing] at asleep allowed
        have heard : pinged ≤ link.lastPongAt := of_decide_eq_true allowed
        have asleep : since ≤ pinged + slack := asleep
        omega
    | none =>
        rw [isPing] at asleep
        have asleep : since ≤ link.lastPongAt := asleep
        omega
  pinging s i link since _ _ _ _ _ known := by
    refine ⟨known.1, known.2.1, rfl, ?_⟩
    show s.now ≤ s.now + slack
    omega
  failed now link known := ⟨known.1, known.2.1, trivial⟩
  pinged now link since isBeat known := by
    obtain ⟨undropped, past, stands⟩ := known
    rw [isBeat] at stands
    obtain ⟨isPing, due⟩ := stands
    have h : 0 ≤ heartbeat settings := by unfold heartbeat; omega
    refine ⟨undropped, past, ?_, ?_⟩
    · show now ≤ now + heartbeat settings + slack
      omega
    · show match link.pingedAt with
        | some pinged => now ≤ pinged + slack
        | none => now ≤ link.lastPongAt
      rw [isPing]
      exact due
  passed s time link allowed mem known := by
    obtain ⟨undropped, past, stands⟩ := known
    have due := List.all_eq_true.mp allowed link mem
    refine ⟨undropped, by omega, ?_⟩
    cases isBeat : link.beat with
    | sleeping since =>
        rw [isBeat] at stands due
        exact ⟨of_decide_eq_true due, stands.2⟩
    | pinging since =>
        rw [isBeat] at stands due
        exact ⟨stands.1, of_decide_eq_true due⟩
    | closing =>
        rw [isBeat] at stands
        exact stands
    | ended => trivial

end Answering

/-! ## With the defaults -/

/-- `ws_heartbeat_seconds` and `ws_heartbeat_timeout_seconds` as `config.py` has them. -/
theorem default_times : heartbeat sampleSettings = 25000 ∧ timeout sampleSettings = 60000 := by
  decide

/-- Two pings that nobody answers, and a third one that is not sent. -/
def silentSchedule : List LinkAction :=
  [.connect 7 (text "c") none, .pass 25000, .woken 0, .pinged 0 false, .pass 25000, .woken 0,
    .pinged 0 false, .pass 25000, .woken 0, .pass 10001]

theorem silent_dropped_sample : ∃ s : LinkRun,
    Reaches (step sampleSettings) (prompt sampleSettings 0) empty s ∧ s.now = 85001 ∧
      ∀ link ∈ s.links, link.lastPongAt = 0 ∧ (link.dropped = true ∨ link.beat = .ended) := by
  have ran : (Kit.schedule (step sampleSettings) (prompt sampleSettings 0) empty
      silentSchedule).map (fun s => (s.now, s.links.map Link.lastPongAt)) =
        some (85001, [0]) := by
    decide +kernel
  obtain ⟨final, ran, seen⟩ := Option.map_eq_some_iff.mp ran
  obtain ⟨isNow, pongs⟩ := Prod.mk.inj seen
  have reach := Kit.reaches_of_schedule ran .start
  refine ⟨final, reach, isNow, fun link mem => ?_⟩
  have heard : link.lastPongAt = 0 := by
    have inside := List.mem_map_of_mem (f := Link.lastPongAt) mem
    rw [pongs] at inside
    exact List.mem_singleton.mp inside
  obtain ⟨isHeartbeat, isTimeout⟩ := default_times
  refine ⟨heard, silent_dropped (by decide) (by decide) 0 reach link mem ?_⟩
  rw [heard, isHeartbeat, isTimeout, isNow]
  decide

def pongFrame : Dict := [(text "type", .str (text "pong"))]

def answeringSettings : LinkSettings :=
  { sampleSettings with
    loads := fun raw =>
      if raw = jsonDumps (.obj pongFrame) then .ok (.obj pongFrame)
      else .error (.refused (text "JSONDecodeError")) }

/-- Three pings, each of them answered. -/
def answeringSchedule : List LinkAction :=
  .connect 7 (text "c") none :: (List.replicate 3 [.pass 25000, .woken 0, .pinged 0 false,
    .received 0 (some (jsonDumps (.obj pongFrame))), .touched 0 false]).flatten

end DoorsControl.Backend.LinkRun
