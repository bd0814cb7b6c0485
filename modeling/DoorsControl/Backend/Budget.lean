import DoorsControl.Backend.Attempts
import DoorsControl.Kit.Pool

/-!
# The unlock budget

Any number of unlock calls, interleaved statement by statement over one audit log.
`RateLimitRepository.unlock_count` counts the `door.unlock*` rows of a user in the last
minute of database time.

* `BudgetInv` — **the invariant**: what a count saw is a past state of the log with the
  call's own request in it, and whoever asked the signer had a count below the limit;
* `unlocks_within_budget` — the budget is an upper bound, for every interleaving.
-/

namespace DoorsControl.Backend

open DoorsControl.Audit (AuditCall AuditEvent Timestamp)
open Kit.Prog

/-! ## The log and the count -/

/-- A row of `acs.audit_log`, as far as it is counted, and the call that appended it. -/
structure LoggedRow where
  call : Nat
  actorId : Option Uuid
  eventType : Text
  occurredAt : Timestamp

/-- `event_type LIKE 'door.unlock%'` -/
def LoggedRow.isUnlock (row : LoggedRow) : Bool := (text "door.unlock").isPrefixOf row.eventType

def LoggedRow.isRequest (row : LoggedRow) : Bool :=
  row.eventType = AuditEvent.doorUnlockRequested.label

/-- `occurred_at > now() - make_interval(secs => seconds)` -/
def LoggedRow.isRecent (now : Timestamp) (seconds : Int) (row : LoggedRow) : Bool :=
  now - seconds * 1000000 < row.occurredAt

/-- The condition of the statement, with `actor_id = userId::uuid`. -/
def LoggedRow.isCounted (userId : Text) (seconds : Int) (now : Timestamp) (row : LoggedRow) : Bool :=
  row.actorId.any (fun id => uuidText id = userId) && row.isUnlock && row.isRecent now seconds

/-- `RateLimitRepository.unlock_count` at the time `now`. -/
def countUnlocks (rows : List LoggedRow) (userId : Text) (seconds : Int) (now : Timestamp) : Nat :=
  rows.countP (LoggedRow.isCounted userId seconds now)

/-- One execution of `unlock_count`: who asked, when, and the log it saw. -/
structure Reading where
  call : Nat
  now : Timestamp
  rows : List LoggedRow

/-- What the reading of a user's call comes to. -/
def Reading.attempts (reading : Reading) (user : Uuid) : Nat :=
  countUnlocks reading.rows (uuidText user) 60 reading.now

/-! ## Calls over one log -/

/-- The database time and the audit log, newest row first, with the counts that were made
and the calls that asked the signer, and when. -/
structure BudgetStore where
  clock : Timestamp
  rows : List LoggedRow
  readings : List Reading
  asked : List (Nat × Timestamp)

/-- What the environment decides: the time, the answer of what is not modelled here, and
whether an append that raised was committed nevertheless. -/
structure BudgetChoice where
  now : Timestamp
  answer : (o : UnlockOp) → o.Res
  committed : Bool := false

def succeeded {α : Type} : Except PyError α → Bool
  | .ok _ => true
  | .error _ => false

/-- What one statement does, in a store whose time is that of the statement. -/
def budgetStep (i : Nat) (o : UnlockOp) (choice : BudgetChoice) (s : BudgetStore) :
    o.Res × BudgetStore :=
  match o with
  | .audit record =>
      let answer := choice.answer (.audit record)
      let row := ⟨i, record.actorId, record.event.label, s.clock⟩
      (answer, if succeeded answer || choice.committed then { s with rows := row :: s.rows } else s)
  | .unlockCount userId seconds =>
      match choice.answer (.unlockCount userId seconds) with
      | .error error => (.error error, s)
      | .ok _ => (.ok (countUnlocks s.rows userId seconds s.clock),
          { s with readings := ⟨i, s.clock, s.rows⟩ :: s.readings })
  | .signCommand payload =>
      (choice.answer (.signCommand payload), { s with asked := (i, s.clock) :: s.asked })
  | o => (choice.answer o, s)

/-- Time does not run backwards. -/
def budgetServer : Kit.Server BudgetStore UnlockOp UnlockOp.Res BudgetChoice where
  exec i o choice s :=
    if choice.now < s.clock then none else some (budgetStep i o choice { s with clock := choice.now })

abbrev UnlockCall := Kit.Call UnlockArgs UnlockOp UnlockOp.Res (Except PyError (Option UnlockOutcome))
abbrev BudgetPool :=
  Kit.Pool BudgetStore UnlockArgs UnlockOp UnlockOp.Res (Except PyError (Option UnlockOutcome))
abbrev BudgetAction := Kit.Action UnlockArgs BudgetChoice

/-- Before the first call. -/
def quietPool : BudgetPool := ⟨⟨0, [], [], []⟩, []⟩

/-- The states that a guarded run of calls reaches. -/
abbrev BudgetReach (settings : UnlockSettings) (ok : BudgetPool → BudgetAction → Bool)
    (p : BudgetPool) : Prop :=
  Kit.Pool.Reach budgetServer (fun args => (unlock settings args).run) ok quietPool p

/-! ## The invariant -/

/-- A log that call `i` may have extended. -/
structure Extends (i : Nat) (s s' : BudgetStore) : Prop where
  clock : s.clock ≤ s'.clock
  rows : ∃ more, s'.rows = more ++ s.rows ∧ ∀ row ∈ more, row.call = i
  readings : ∃ more, s'.readings = more ++ s.readings ∧
    ∀ reading ∈ more, reading.call = i ∧ reading.now = s'.clock
  asked : ∃ more, s'.asked = more ++ s.asked ∧ ∀ entry ∈ more, entry.1 = i

theorem Extends.refl (i : Nat) (s : BudgetStore) : Extends i s s :=
  ⟨le_rfl, ⟨[], rfl, by simp⟩, ⟨[], rfl, by simp⟩, ⟨[], rfl, by simp⟩⟩

theorem budgetStep_extends (i : Nat) (o : UnlockOp) (choice : BudgetChoice) (s : BudgetStore) :
    Extends i s (budgetStep i o choice s).2 := by
  cases o with
  | audit record =>
      simp only [budgetStep]
      split_ifs
      · exact ⟨le_rfl, ⟨[_], rfl, by simp⟩, ⟨[], rfl, by simp⟩, ⟨[], rfl, by simp⟩⟩
      · exact .refl i s
  | unlockCount userId seconds =>
      simp only [budgetStep]
      split
      · exact .refl i s
      · exact ⟨le_rfl, ⟨[], rfl, by simp⟩, ⟨[_], rfl, by simp⟩, ⟨[], rfl, by simp⟩⟩
  | signCommand payload =>
      exact ⟨le_rfl, ⟨[], rfl, by simp⟩, ⟨[], rfl, by simp⟩, ⟨[_], rfl, by simp⟩⟩
  | _ => exact .refl i s

/-- A statement at its time. -/
theorem exec_eq {i : Nat} {o : UnlockOp} {choice : BudgetChoice} {s s' : BudgetStore}
    {r : o.Res} (answered : budgetServer.exec i o choice s = some (r, s')) :
    s.clock ≤ choice.now ∧ budgetStep i o choice { s with clock := choice.now } = (r, s') := by
  change (if choice.now < s.clock then none else some _) = _ at answered
  split_ifs at answered with late
  exact ⟨Int.not_lt.mp late, Option.some.inj answered⟩

/-- What a count of call `i` saw: a past state of the log, in which the call's request is,
and after which it made none. -/
structure Saw (rows : List LoggedRow) (i : Nat) (hist : List UnlockEvent) (user : Uuid)
    (reading : Reading) : Prop where
  past : ∃ newer, rows = newer ++ reading.rows ∧
    ∀ row ∈ newer, row.call = i → row.isRequest = false
  request : ∃ row ∈ reading.rows, row.call = i ∧ row.isRequest = true
  answer : ⟨.unlockCount (uuidText user) 60, .ok (reading.attempts user : Int)⟩ ∈ hist

/-- What holds of the store and of call `i`. -/
structure CallInv (settings : UnlockSettings) (s : BudgetStore) (i : Nat) (c : UnlockCall) :
    Prop where
  owned : ∀ row ∈ s.rows, row.call = i → row.actorId = some c.req.userId
  silent : c.hist = [] → ∀ row ∈ s.rows, row.call ≠ i
  begun : Requested c.hist → ∃ row ∈ s.rows, row.call = i ∧ row.isRequest = true
  counted : ∀ userId seconds (attempts : Int),
    ⟨.unlockCount userId seconds, .ok attempts⟩ ∈ c.hist →
      ∃ reading ∈ s.readings, reading.call = i ∧ attempts = reading.attempts c.req.userId
  saw : ∀ reading ∈ s.readings, reading.call = i → Saw s.rows i c.hist c.req.userId reading
  asked : ∀ time, (i, time) ∈ s.asked → ∃ reading ∈ s.readings, reading.call = i ∧
    reading.now ≤ time ∧ (reading.attempts c.req.userId : Int) < settings.rateMaxUnlocksPerMinute

/-- What holds in every state of every run. -/
structure BudgetInv (settings : UnlockSettings) (p : BudgetPool) : Prop where
  rows : ∀ row ∈ p.store.rows, row.call < p.calls.length
  readings : ∀ reading ∈ p.store.readings,
    reading.call < p.calls.length ∧ reading.now ≤ p.store.clock
  asked : ∀ entry ∈ p.store.asked, entry.1 < p.calls.length
  calls : ∀ i c, p.calls[i]? = some c → CallInv settings p.store i c

section Invariant

variable {settings : UnlockSettings} {s s' : BudgetStore} {i : Nat}

/-- A call does not notice what the others do. -/
theorem CallInv.frame {j : Nat} {c : UnlockCall} (inv : CallInv settings s j c)
    (other : j ≠ i) (ext : Extends i s s') : CallInv settings s' j c := by
  obtain ⟨-, ⟨rows, rowsEq, theirRows⟩, ⟨readings, readingsEq, theirReadings⟩,
    ⟨asked, askedEq, theirAsked⟩⟩ := ext
  have oldRow : ∀ row ∈ s'.rows, row.call = j → row ∈ s.rows := by
    intro row mem mine
    rw [rowsEq] at mem
    exact (List.mem_append.mp mem).resolve_left fun new => other (mine ▸ theirRows row new)
  have oldReading : ∀ reading ∈ s'.readings, reading.call = j → reading ∈ s.readings := by
    intro reading mem mine
    rw [readingsEq] at mem
    exact (List.mem_append.mp mem).resolve_left
      fun new => other (mine ▸ (theirReadings reading new).1)
  have keepRow : ∀ row ∈ s.rows, row ∈ s'.rows := fun row mem => by
    rw [rowsEq]
    exact List.mem_append_right _ mem
  have keepReading : ∀ reading ∈ s.readings, reading ∈ s'.readings := fun reading mem => by
    rw [readingsEq]
    exact List.mem_append_right _ mem
  refine ⟨fun row mem mine => inv.owned row (oldRow row mem mine) mine,
    fun fresh row mem mine => inv.silent fresh row (oldRow row mem mine) mine, ?_, ?_, ?_, ?_⟩
  · intro requested
    obtain ⟨row, mem, facts⟩ := inv.begun requested
    exact ⟨row, keepRow row mem, facts⟩
  · intro userId seconds attempts mem
    obtain ⟨reading, known, facts⟩ := inv.counted userId seconds attempts mem
    exact ⟨reading, keepReading reading known, facts⟩
  · intro reading mem mine
    obtain ⟨⟨newer, shape, quiet⟩, request, answer⟩ :=
      inv.saw reading (oldReading reading mem mine) mine
    refine ⟨⟨rows ++ newer, by rw [rowsEq, shape, List.append_assoc], ?_⟩, request, answer⟩
    intro row inside mine
    rcases List.mem_append.mp inside with new | old
    · exact absurd (mine ▸ theirRows row new) other
    · exact quiet row old mine
  · intro time mem
    rw [askedEq] at mem
    have known := (List.mem_append.mp mem).resolve_left fun new => other (theirAsked _ new)
    obtain ⟨reading, inside, facts⟩ := inv.asked time known
    exact ⟨reading, keepReading reading inside, facts⟩

/-- Only the request has its label. -/
theorem requested_of_label {event : AuditEvent}
    (same : event.label = AuditEvent.doorUnlockRequested.label) : event = .doorUnlockRequested := by
  cases event <;> first | rfl | exact absurd same (by decide)

/-- A request that was committed. -/
def isRequested : UnlockEvent → Bool
  | ⟨.audit record, .ok _⟩ => record.event = .doorUnlockRequested
  | _ => false

/-- A count that was answered. -/
def hasCounted : UnlockEvent → Bool
  | ⟨.unlockCount _ _, .ok _⟩ => true
  | _ => false

theorem requested_tail {e : UnlockEvent} {hist : List UnlockEvent} (other : isRequested e = false)
    (requested : Requested (e :: hist)) : Requested hist := by
  obtain ⟨record, seq, mem, isRequest⟩ := requested
  refine ⟨record, seq, (List.mem_cons.mp mem).resolve_left ?_, isRequest⟩
  rintro rfl
  simp [isRequested, isRequest] at other

theorem count_tail {e : UnlockEvent} {hist : List UnlockEvent} {userId : Text}
    {seconds attempts : Int} (other : hasCounted e = false)
    (mem : ⟨.unlockCount userId seconds, .ok attempts⟩ ∈ e :: hist) :
    ⟨.unlockCount userId seconds, .ok attempts⟩ ∈ hist := by
  refine (List.mem_cons.mp mem).resolve_left ?_
  rintro rfl
  exact absurd other (by simp [hasCounted])

/-- The time alone changes nothing. -/
theorem CallInv.onward {c : UnlockCall} (inv : CallInv settings s i c) (now : Timestamp) :
    CallInv settings { s with clock := now } i c :=
  ⟨inv.owned, inv.silent, inv.begun, inv.counted, inv.saw, inv.asked⟩

section Own

variable {req : UnlockArgs} {hist : List UnlockEvent} {o : UnlockOp}
  {next prog : Kit.Prog UnlockOp UnlockOp.Res (Except PyError (Option UnlockOutcome))}

/-- An operation that leaves the store alone, requests nothing and counts nothing. -/
theorem CallInv.same {r : o.Res} (inv : CallInv settings s i ⟨req, hist, next⟩)
    (noRequest : isRequested ⟨o, r⟩ = false) (noCount : hasCounted ⟨o, r⟩ = false) :
    CallInv settings s i ⟨req, ⟨o, r⟩ :: hist, prog⟩ where
  owned := inv.owned
  silent := fun empty => absurd empty (List.cons_ne_nil _ _)
  begun := fun requested => inv.begun (requested_tail noRequest requested)
  counted := fun userId seconds attempts mem =>
    inv.counted userId seconds attempts (count_tail noCount mem)
  saw := fun reading mem mine =>
    ⟨(inv.saw reading mem mine).past, (inv.saw reading mem mine).request,
      List.mem_cons_of_mem _ (inv.saw reading mem mine).answer⟩
  asked := inv.asked

/-- An append: the row is the call's own, and a request comes first. -/
theorem CallInv.audit {record : AuditCall} {row : Except PyError Int} {choice : BudgetChoice}
    (inv : CallInv settings s i ⟨req, hist, next⟩) (recorded : Recorded req hist (.audit record))
    (stepped : budgetStep i (.audit record) choice s = (row, s')) :
    CallInv settings s' i ⟨req, ⟨.audit record, row⟩ :: hist, prog⟩ := by
  obtain ⟨answer, shape⟩ := Prod.mk.inj stepped
  by_cases kept : (succeeded (choice.answer (.audit record)) || choice.committed) = true
  · rw [if_pos kept] at shape
    subst shape
    refine ⟨?_, fun empty => absurd empty (List.cons_ne_nil _ _), ?_, ?_, ?_, inv.asked⟩
    · intro entry mem mine
      rcases List.mem_cons.mp mem with rfl | old
      · exact recorded.1
      · exact inv.owned entry old mine
    · rintro ⟨record', seq, mem, isRequest⟩
      rcases List.mem_cons.mp mem with same | old
      · obtain ⟨same, -⟩ := Kit.Event.mk.inj same
        obtain rfl := UnlockOp.audit.inj same
        exact ⟨_, List.mem_cons_self, rfl, by simp [LoggedRow.isRequest, isRequest]⟩
      · obtain ⟨entry, inside, facts⟩ := inv.begun ⟨record', seq, old, isRequest⟩
        exact ⟨entry, List.mem_cons_of_mem _ inside, facts⟩
    · intro userId seconds attempts mem
      exact inv.counted userId seconds attempts (count_tail rfl mem)
    · intro reading mem mine
      obtain ⟨⟨newer, shape, quiet⟩, request, answer⟩ := inv.saw reading mem mine
      refine ⟨⟨_ :: newer, congrArg (_ :: ·) shape, ?_⟩, request, List.mem_cons_of_mem _ answer⟩
      intro entry inside mine
      rcases List.mem_cons.mp inside with rfl | old
      · -- the call has counted, so this is not its first row
        refine decide_eq_false fun isRequest => ?_
        have first := recorded.2 (requested_of_label isRequest)
        subst first
        cases answer
      · exact quiet entry old mine
  · rw [if_neg kept] at shape
    subst shape answer
    refine inv.same ?_ rfl
    cases answer : choice.answer (.audit record) with
    | ok value => simp [answer, succeeded] at kept
    | error error => rfl

/-- A count: what it sees is the log as it is, the call's request included. -/
theorem CallInv.count {userId : Text} {seconds : Int} {attempts : Except PyError Int}
    {choice : BudgetChoice} (inv : CallInv settings s i ⟨req, hist, next⟩)
    (recorded : Recorded req hist (.unlockCount userId seconds))
    (stepped : budgetStep i (.unlockCount userId seconds) choice s = (attempts, s')) :
    CallInv settings s' i ⟨req, ⟨.unlockCount userId seconds, attempts⟩ :: hist, prog⟩ := by
  obtain ⟨rfl, rfl, requested, -⟩ := recorded
  simp only [budgetStep] at stepped
  split at stepped
  · obtain ⟨rfl, rfl⟩ := Prod.mk.inj stepped
    exact inv.same rfl rfl
  · obtain ⟨rfl, rfl⟩ := Prod.mk.inj stepped
    refine ⟨inv.owned, fun empty => absurd empty (List.cons_ne_nil _ _),
      fun _ => inv.begun requested, ?_, ?_, ?_⟩
    · intro userId seconds attempts mem
      rcases List.mem_cons.mp mem with same | old
      · obtain ⟨same, value⟩ := Kit.Event.mk.inj same
        obtain ⟨rfl, rfl⟩ := UnlockOp.unlockCount.inj same
        exact ⟨_, List.mem_cons_self, rfl, Except.ok.inj (eq_of_heq value)⟩
      · obtain ⟨reading, known, facts⟩ := inv.counted userId seconds attempts old
        exact ⟨reading, List.mem_cons_of_mem _ known, facts⟩
    · intro reading mem mine
      rcases List.mem_cons.mp mem with rfl | old
      · exact ⟨⟨[], rfl, fun _ inside => absurd inside List.not_mem_nil⟩, inv.begun requested,
          List.mem_cons_self⟩
      · obtain ⟨past, request, answer⟩ := inv.saw reading old mine
        exact ⟨past, request, List.mem_cons_of_mem _ answer⟩
    · intro time mem
      obtain ⟨reading, known, facts⟩ := inv.asked time mem
      exact ⟨reading, List.mem_cons_of_mem _ known, facts⟩

/-- The signer is asked: the count was below the limit. -/
theorem CallInv.sign {payload : Dict} {answer : Except PyError (Bytes × Json Text)}
    {choice : BudgetChoice} (inv : CallInv settings s i ⟨req, hist, next⟩)
    (dated : ∀ reading ∈ s.readings, reading.now ≤ s.clock)
    (authorised : Authorised settings req hist (.signCommand payload))
    (stepped : budgetStep i (.signCommand payload) choice s = (answer, s')) :
    CallInv settings s' i ⟨req, ⟨.signCommand payload, answer⟩ :: hist, prog⟩ := by
  obtain ⟨-, rfl⟩ := Prod.mk.inj stepped
  have kept : CallInv settings s i ⟨req, ⟨.signCommand payload, answer⟩ :: hist, prog⟩ :=
    inv.same rfl rfl
  refine ⟨kept.owned, kept.silent, kept.begun, kept.counted, kept.saw, ?_⟩
  intro time mem
  rcases List.mem_cons.mp mem with same | old
  · obtain ⟨-, door, controller, commandId, issuedAt, nonce, checks, -⟩ := authorised
    obtain ⟨attempts, counted, allowed⟩ := checks.budget
    obtain ⟨reading, known, mine, rfl⟩ := inv.counted _ _ _ counted
    refine ⟨reading, known, mine, ?_, ?_⟩
    · rw [(Prod.mk.inj same).2]
      exact dated reading known
    · unfold checkUnlock at allowed
      split_ifs at allowed with reached
      exact Int.not_le.mp reached
  · exact inv.asked time old

theorem CallInv.step {r : o.Res} {choice : BudgetChoice}
    (inv : CallInv settings s i ⟨req, hist, next⟩)
    (dated : ∀ reading ∈ s.readings, reading.now ≤ s.clock) (recorded : Recorded req hist o)
    (authorised : Authorised settings req hist o) (stepped : budgetStep i o choice s = (r, s')) :
    CallInv settings s' i ⟨req, ⟨o, r⟩ :: hist, prog⟩ := by
  cases o with
  | audit record => exact inv.audit recorded stepped
  | unlockCount userId seconds => exact inv.count recorded stepped
  | signCommand payload => exact inv.sign dated authorised stepped
  | _ =>
      obtain ⟨-, rfl⟩ := Prod.mk.inj stepped
      exact inv.same rfl rfl

end Own

end Invariant

/-- The invariant of every run. -/
theorem budgetInv_of_reach {settings : UnlockSettings} {ok : BudgetPool → BudgetAction → Bool}
    {p : BudgetPool} (reach : BudgetReach settings ok p) : BudgetInv settings p := by
  refine reach.invariant (BudgetInv settings) ⟨by simp [quietPool], by simp [quietPool],
    by simp [quietPool], by simp [quietPool]⟩ ?_
  intro p a q reach inv _ stepped
  rcases Kit.Pool.step_cases stepped with
    ⟨req, rfl, rfl⟩ | ⟨i, choice, req, hist, o, next, r, store, rfl, found, answered, rfl⟩
  · -- a new call has no rows yet
    have longer : p.calls.length < (p.calls ++ [(⟨req, [], (unlock settings req).run⟩ : UnlockCall)]).length := by
      simp
    refine ⟨fun row mem => (inv.rows row mem).trans longer,
      fun reading mem => ⟨(inv.readings reading mem).1.trans longer, (inv.readings reading mem).2⟩,
      fun entry mem => (inv.asked entry mem).trans longer, ?_⟩
    intro i c found
    rcases Kit.Pool.get_append_index_cases found with known | ⟨rfl, rfl⟩
    · exact inv.calls i c known
    · have old : ¬ p.calls.length < p.calls.length := lt_irrefl _
      refine ⟨?_, ?_, ?_, ?_, ?_, ?_⟩
      · intro row mem mine
        exact absurd (mine ▸ inv.rows row mem) old
      · intro _ row mem mine
        exact absurd (mine ▸ inv.rows row mem) old
      · rintro ⟨_, _, mem, _⟩
        cases mem
      · intro _ _ _ mem
        cases mem
      · intro reading mem mine
        exact absurd (mine ▸ (inv.readings reading mem).1) old
      · intro time mem
        exact absurd (inv.asked _ mem) old
  · obtain ⟨onward, done⟩ := exec_eq answered
    have steps := reach.steps rfl _ (List.mem_of_getElem? found)
    have recorded := ((unlock_recorded settings req).along steps).1
    have authorised := ((unlock_sound settings req).along steps).1
    have ext := budgetStep_extends i o choice { p.store with clock := choice.now }
    rw [done] at ext
    obtain ⟨started, -⟩ := List.getElem?_eq_some_iff.mp found
    have dated : ∀ reading ∈ p.store.readings, reading.now ≤ choice.now :=
      fun reading mem => (inv.readings reading mem).2.trans onward
    refine ⟨?_, ?_, ?_, ?_⟩
    · obtain ⟨more, shape, mine⟩ := ext.rows
      intro row mem
      rw [List.length_set]
      rw [show store.rows = more ++ p.store.rows from shape] at mem
      rcases List.mem_append.mp mem with new | old
      · rw [mine row new]
        exact started
      · exact inv.rows row old
    · obtain ⟨more, shape, mine⟩ := ext.readings
      intro reading mem
      rw [List.length_set]
      rw [show store.readings = more ++ p.store.readings from shape] at mem
      rcases List.mem_append.mp mem with new | old
      · rw [(mine reading new).1, (mine reading new).2]
        exact ⟨started, le_rfl⟩
      · exact ⟨(inv.readings reading old).1, (dated reading old).trans ext.clock⟩
    · obtain ⟨more, shape, mine⟩ := ext.asked
      intro entry mem
      rw [List.length_set]
      rw [show store.asked = more ++ p.store.asked from shape] at mem
      rcases List.mem_append.mp mem with new | old
      · rw [mine entry new]
        exact started
      · exact inv.asked entry old
    · intro j c found'
      rcases Kit.Pool.get_set_cases found' with ⟨rfl, rfl⟩ | ⟨other, old⟩
      · exact ((inv.calls j _ found).onward choice.now).step dated recorded authorised done
      · exact ((inv.calls j c old).onward choice.now).frame other ext

/-! ## The upper bound -/

/-- The calls of one user. -/
def callsOf (p : BudgetPool) (user : Uuid) : List Nat :=
  (List.range p.calls.length).filter fun i => p.calls[i]?.any fun c => c.req.userId = user

/-- The request of call `i` was recorded in the period. -/
def beganIn (s : BudgetStore) (first last : Timestamp) (i : Nat) : Bool :=
  s.rows.any fun row =>
    row.call = i && row.isRequest && first ≤ row.occurredAt && row.occurredAt ≤ last

/-- Call `i` asked the signer in the period. -/
def askedIn (s : BudgetStore) (first last : Timestamp) (i : Nat) : Bool :=
  s.asked.any fun entry => entry.1 = i && first ≤ entry.2 && entry.2 ≤ last

/-- The calls of a user that begin and reach the signer in the period. -/
def unlocksIn (p : BudgetPool) (user : Uuid) (first last : Timestamp) : List Nat :=
  (callsOf p user).filter fun i => beganIn p.store first last i && askedIn p.store first last i

theorem mem_callsOf {p : BudgetPool} {user : Uuid} {i : Nat} :
    i ∈ callsOf p user ↔ ∃ c, p.calls[i]? = some c ∧ c.req.userId = user := by
  unfold callsOf
  rw [List.mem_filter, List.mem_range, Option.any_eq_true]
  constructor
  · rintro ⟨-, c, found, same⟩
    exact ⟨c, found, of_decide_eq_true same⟩
  · rintro ⟨c, found, same⟩
    exact ⟨(List.getElem?_eq_some_iff.mp found).1, c, found, decide_eq_true same⟩

theorem callsOf_nodup (p : BudgetPool) (user : Uuid) : (callsOf p user).Nodup :=
  List.nodup_range.filter _

theorem isUnlock_of_isRequest {row : LoggedRow} (request : row.isRequest = true) :
    row.isUnlock = true := by
  unfold LoggedRow.isUnlock
  rw [show row.eventType = _ from of_decide_eq_true request]
  decide

theorem isCounted_iff {user : Uuid} {now : Timestamp} {row : LoggedRow} :
    row.isCounted (uuidText user) 60 now = true ↔
      row.actorId = some user ∧ row.isUnlock = true ∧ row.isRecent now 60 = true := by
  unfold LoggedRow.isCounted
  rw [Bool.and_eq_true, Bool.and_eq_true, and_assoc, Option.any_eq_true]
  refine and_congr_left fun _ => ⟨?_, ?_⟩
  · rintro ⟨id, isId, same⟩
    rw [isId, uuidText_inj (of_decide_eq_true same)]
  · intro isUser
    exact ⟨user, isUser, decide_eq_true rfl⟩

/-- The call of the newest request: what has no later request of its own holds all of
them. -/
theorem exists_last_request {rows : List LoggedRow} {calls : List Nat}
    (requested : ∃ row ∈ rows, row.isRequest = true ∧ row.call ∈ calls) :
    ∃ k ∈ calls, ∀ newer older, rows = newer ++ older →
      (∀ row ∈ newer, row.call = k → row.isRequest = false) →
        ∀ row ∈ rows, row.isRequest = true → row.call ∈ calls → row ∈ older := by
  let among := fun row : LoggedRow => row.isRequest && decide (row.call ∈ calls)
  have split : ∀ row, among row = true ↔ row.isRequest = true ∧ row.call ∈ calls :=
    fun row => by simp [among]
  obtain ⟨some, inLog, request, theirs⟩ := requested
  obtain ⟨newest, isNewest⟩ := Option.isSome_iff_exists.mp
    (List.find?_isSome.mpr ⟨some, inLog, (split some).mpr ⟨request, theirs⟩⟩)
  have chosen := (split newest).mp (List.find?_some isNewest)
  refine ⟨newest.call, chosen.2, ?_⟩
  intro newer older shape quiet row mem request theirs
  rw [shape] at mem
  refine (List.mem_append.mp mem).resolve_left fun inNewer => ?_
  -- then the newest request lies in `newer` too
  obtain ⟨first, isFirst⟩ := Option.isSome_iff_exists.mp
    (List.find?_isSome.mpr ⟨row, inNewer, (split row).mpr ⟨request, theirs⟩⟩)
  rw [shape, List.find?_append, isFirst] at isNewest
  obtain rfl := Option.some.inj isNewest
  have none := quiet first (List.mem_of_find?_eq_some isFirst) rfl
  rw [chosen.1] at none
  cases none

theorem recent_in_period {now first last occurred : Int} (short : last - first < 60 * 1000000)
    (before : now ≤ last) (after : first ≤ occurred) : now - 60 * 1000000 < occurred := by
  omega

/-- **The budget is an upper bound.** In every run, in every period of less than 60 seconds,
the calls of a user that begin and reach the signer in it are within the limit. -/
theorem unlocks_within_budget (settings : UnlockSettings)
    (ok : BudgetPool → BudgetAction → Bool) (p : BudgetPool) (reach : BudgetReach settings ok p)
    (user : Uuid) (first last : Timestamp) (short : last - first < 60 * 1000000) :
    ((unlocksIn p user first last).length : Int) ≤ max settings.rateMaxUnlocksPerMinute 0 := by
  have inv := budgetInv_of_reach reach
  have inPeriod : ∀ i ∈ unlocksIn p user first last, ∃ c row time, p.calls[i]? = some c ∧
      c.req.userId = user ∧ row ∈ p.store.rows ∧ row.call = i ∧ row.isRequest = true ∧
        first ≤ row.occurredAt ∧ (i, time) ∈ p.store.asked ∧ time ≤ last := by
    intro i mem
    simp only [unlocksIn, List.mem_filter, mem_callsOf, beganIn, askedIn, Bool.and_eq_true,
      List.any_eq_true, decide_eq_true_eq] at mem
    obtain ⟨⟨c, found, isUser⟩, ⟨row, inLog, ⟨⟨mine, request⟩, after⟩, -⟩,
      ⟨j, time⟩, asked, ⟨rfl, -⟩, before⟩ := mem
    exact ⟨c, row, time, found, isUser, inLog, mine, request, after, asked, before⟩
  by_cases nobody : unlocksIn p user first last = []
  · rw [nobody]
    exact le_max_right _ _
  -- the call that requested last, and what its count saw
  obtain ⟨someone, isIn⟩ := List.exists_mem_of_ne_nil _ nobody
  obtain ⟨-, row, -, -, -, inLog, rfl, request, -⟩ := inPeriod someone isIn
  obtain ⟨k, kIn, holdsAll⟩ := exists_last_request ⟨row, inLog, request, isIn⟩
  obtain ⟨c, -, time, found, isUser, -, -, -, -, asked, before⟩ := inPeriod k kIn
  have own := inv.calls k c found
  obtain ⟨reading, known, mine, earlier, within⟩ := own.asked time asked
  obtain ⟨newer, shape, quiet⟩ := (own.saw reading known mine).past
  rw [isUser] at within
  -- it saw a row of every call
  let seen := reading.rows.filter (LoggedRow.isCounted (uuidText user) 60 reading.now)
  have covered : unlocksIn p user first last ⊆ seen.map LoggedRow.call := by
    intro i mem
    obtain ⟨c', row, -, found', isUser', inLog, rfl, request, after, -, -⟩ := inPeriod i mem
    refine List.mem_map.mpr ⟨row, List.mem_filter.mpr
      ⟨holdsAll newer reading.rows shape quiet row inLog request mem, ?_⟩, rfl⟩
    refine isCounted_iff.mpr ⟨?_, isUnlock_of_isRequest request, decide_eq_true ?_⟩
    · rw [(inv.calls _ c' found').owned row inLog rfl, isUser']
    · exact recent_in_period short (earlier.trans before) after
  have fits : (unlocksIn p user first last).length ≤ seen.length := by
    have := (List.subperm_of_subset ((callsOf_nodup p user).filter _) covered).length_le
    rwa [List.length_map] at this
  have counted : (seen.length : Int) = reading.attempts user := by
    rw [Reading.attempts, countUnlocks, List.countP_eq_length_filter]
  omega

def sampleChoice (second : Nat) : BudgetChoice := ⟨second * 1000000, sampleOracle [], false⟩

/-- One call, a statement a second, up to the signer. -/
def sampleSchedule : List BudgetAction :=
  .start sampleArgs :: (List.range 10).map fun second => .run 0 (sampleChoice second)

theorem unlocks_within_budget_sample : ∃ p, BudgetReach sampleSettings (fun _ _ => true) p ∧
    unlocksIn p 1 0 59000000 = [0] ∧ ((unlocksIn p 1 0 59000000).length : Int) ≤ max 6 0 := by
  have ran : (Kit.Pool.run budgetServer (fun args => (unlock sampleSettings args).run)
      (fun _ _ => true) quietPool sampleSchedule).map (fun p => unlocksIn p 1 0 59000000) =
      some [0] := by
    decide +kernel
  obtain ⟨p, reach, seen⟩ := Kit.Pool.reach_of_map_run sampleSchedule ran
  exact ⟨p, reach, seen, unlocks_within_budget sampleSettings _ p reach 1 0 59000000 (by decide)⟩

end DoorsControl.Backend
