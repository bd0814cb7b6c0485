import DoorsControl.Audit.Grants
import DoorsControl.Audit.Chain

/-!
# Where an appended row goes

`acs.audit_log` is partitioned by month. PostgreSQL looks for the partition of a new row
first and turns the row down if there is none; the `BEFORE INSERT` trigger is cloned to the
partitions and runs on the one that was found. It is in the trigger that
`ensure_audit_partition` is called "so a missed cron run can never turn into a lost audit
event".

* `utcCalendar` — the months of the Gregorian calendar in UTC;
* `append_stored_iff` — **when an append is stored**: if the partition is there already;
* `append_months`, `appends_months` — no sequence of appends adds a partition;
* `append_lost` — the first row of a month that nobody prepared.
-/

namespace DoorsControl.Audit

/-! ## Months -/

/-- The months of a session's time zone: when each begins, and which one an instant is in.
January of year 0 is month 0. -/
structure Calendar where
  begins : Int → Timestamp
  /-- `date_trunc('month', t::date)` -/
  monthOf : Timestamp → Int
  inMonth : ∀ t, begins (monthOf t) ≤ t ∧ t < begins (monthOf t + 1)
  ascending : ∀ m n, m ≤ n → begins m ≤ begins n

/-- Days from 1970-01-01 to the first of a month; years are counted from March. -/
def monthDays (month : Int) : Int :=
  let year := (month - 2) / 12
  let index := (month - 2) % 12
  365 * year + year / 4 - year / 100 + year / 400 + (153 * index + 2) / 5 - 719468

/-- 400 years have 4800 months and 146097 days, so this guess is right or one short. -/
def monthOfDay (day : Int) : Int :=
  let guess := (day + 719464) * 4800 / 146097 + 2
  if monthDays (guess + 1) ≤ day then guess + 1 else guess

/-- The first of a month is close to where months of equal length would put it. -/
theorem monthDays_bounds (month : Int) :
    146097 * (month - 2) - 11520 < 4800 * (monthDays month + 719468) ∧
      4800 * (monthDays month + 719468) < 146097 * (month - 2) + 15600 := by
  simp only [monthDays]
  omega

theorem monthOfDay_spec (day : Int) :
    monthDays (monthOfDay day) ≤ day ∧ day < monthDays (monthOfDay day + 1) := by
  have first := monthDays_bounds ((day + 719464) * 4800 / 146097 + 2)
  have third := monthDays_bounds ((day + 719464) * 4800 / 146097 + 2 + 1 + 1)
  unfold monthOfDay
  by_cases next : monthDays ((day + 719464) * 4800 / 146097 + 2 + 1) ≤ day
  · rw [if_pos next]
    omega
  · rw [if_neg next]
    omega

def microsPerDay : Int := 86400000000

theorem month_of_micros (t : Int) :
    monthDays (monthOfDay (t / microsPerDay)) * microsPerDay ≤ t ∧
      t < monthDays (monthOfDay (t / microsPerDay) + 1) * microsPerDay := by
  obtain ⟨begun, notOver⟩ := monthOfDay_spec (t / microsPerDay)
  unfold microsPerDay at begun notOver ⊢
  omega

theorem monthDays_succ (month : Int) : monthDays month ≤ monthDays (month + 1) := by
  simp only [monthDays]
  omega

theorem micros_ascending (m n : Int) (order : m ≤ n) :
    monthDays m * microsPerDay ≤ monthDays n * microsPerDay := by
  have days := monotone_int_of_le_succ monthDays_succ order
  unfold microsPerDay
  omega

/-- The Gregorian calendar in UTC. -/
def utcCalendar : Calendar where
  begins month := monthDays month * microsPerDay
  monthOf t := monthOfDay (t / microsPerDay)
  inMonth := month_of_micros
  ascending := micros_ascending

-- 2026-03-01
example : utcCalendar.begins (2026 * 12 + 2) = 1772323200000000 := by decide

/-! ## The table and its partitions -/

/-- A partition and its rows. -/
structure Leaf where
  month : Int
  rows : List AuditRow

/-- `FOR VALUES FROM (v_start) TO (v_end)` -/
def Leaf.covers (leaf : Leaf) (calendar : Calendar) (t : Timestamp) : Bool :=
  calendar.begins leaf.month ≤ t && t < calendar.begins (leaf.month + 1)

/-- `acs.audit_log` and the next value of `acs.audit_seq`, which every row has its `seq`
from. -/
structure PartitionedLog where
  leaves : List Leaf
  auditSeq : Int
  drawn : ∀ leaf ∈ leaves, ∀ row ∈ leaf.rows, row.seq < auditSeq

/-- What an `INSERT` raises. -/
inductive AppendError where
  /-- no partition of relation "audit_log" found for row -/
  | noPartition
  | uniqueViolation
  deriving DecidableEq, Repr

namespace PartitionedLog

variable (pg : Postgres) (calendar : Calendar) (log : PartitionedLog)

/-- `SELECT .. FROM acs.audit_log ORDER BY seq` -/
def scan : AuditLog := (log.leaves.flatMap Leaf.rows).foldl AuditLog.insert .empty

/-- `acs.ensure_audit_partition` -/
def ensureAuditPartition (month : Int) : PartitionedLog :=
  if log.leaves.any fun leaf => partitionName leaf.month = partitionName month then log
  else
    { leaves := log.leaves ++ [⟨month, []⟩]
      auditSeq := log.auditSeq
      drawn := by
        intro leaf mem row inside
        rcases List.mem_append.mp mem with old | new
        · exact log.drawn leaf old row inside
        · rw [List.mem_singleton.mp new] at inside
          cases inside }

/-- The number that `nextval` gave away is gone in any case. -/
def drawSeq : PartitionedLog where
  leaves := log.leaves
  auditSeq := log.auditSeq + 1
  drawn leaf mem row inside := by
    have := log.drawn leaf mem row inside
    omega

/-- `NEW` as `audit_hash_chain` returns it. -/
def chained (entry : AuditEntry) (t : Timestamp) : AuditRow :=
  auditHashChain pg log.scan { entry with seq := log.auditSeq, occurredAt := t }

theorem drawn_store (i : Nat) (entry : AuditEntry) (t : Timestamp) :
    ∀ leaf ∈ log.leaves.modify i fun leaf => { leaf with rows := leaf.rows ++ [log.chained pg entry t] },
      ∀ row ∈ leaf.rows, row.seq < log.auditSeq + 1 := by
  intro leaf mem row inside
  obtain ⟨j, found⟩ := List.mem_iff_getElem?.mp mem
  rw [List.getElem?_modify] at found
  obtain ⟨old, known, rfl⟩ := Option.map_eq_some_iff.mp found
  have before := log.drawn old (List.mem_of_getElem? known)
  split_ifs at inside
  · rcases List.mem_append.mp inside with earlier | new
    · have := before row earlier
      omega
    · rw [List.mem_singleton.mp new]
      show log.auditSeq < log.auditSeq + 1
      omega
  · have := before row inside
    omega

/-- The row goes to the partition it was routed to. -/
def store (i : Nat) (entry : AuditEntry) (t : Timestamp) : PartitionedLog where
  leaves := log.leaves.modify i fun leaf =>
    { leaf with rows := leaf.rows ++ [log.chained pg entry t] }
  auditSeq := log.auditSeq + 1
  drawn := log.drawn_store pg i entry t

/-- `AuditRepository.append` at the instant `t`: the table afterwards, and the `seq` of the
row or what was raised. What a statement that raised did is rolled back. -/
def append (entry : AuditEntry) (t : Timestamp) : PartitionedLog × Except AppendError Int :=
  match log.leaves.findIdx? fun leaf => leaf.covers calendar t with
  | none => (log.drawSeq, .error .noPartition)
  | some i =>
      -- the trigger, on the partition
      let ensured := log.ensureAuditPartition (calendar.monthOf t)
      let row := ensured.chained pg entry t
      -- PRIMARY KEY (seq, occurred_at)
      if ensured.leaves.any fun leaf =>
          leaf.rows.any fun r => r.seq = row.seq && r.occurredAt = row.occurredAt then
        (log.drawSeq, .error .uniqueViolation)
      else (ensured.store pg i entry t, .ok row.seq)

/-- The append succeeded, and the row is in a partition whose range contains `t`. -/
def Stored (entry : AuditEntry) (t : Timestamp) : Prop :=
  ∃ seq, (log.append pg calendar entry t).2 = .ok seq ∧
    ∃ leaf ∈ (log.append pg calendar entry t).1.leaves, leaf.covers calendar t = true ∧
      ∃ row ∈ leaf.rows, row.toAuditContent = { entry with seq := seq, occurredAt := t }

/-! ## What the trigger finds -/

/-- Months do not overlap: the partition that covers an instant is the one of its month. -/
theorem month_of_covers {leaf : Leaf} {t : Timestamp} (covers : leaf.covers calendar t = true) :
    leaf.month = calendar.monthOf t := by
  simp only [Leaf.covers, Bool.and_eq_true, decide_eq_true_eq] at covers
  obtain ⟨begun, notOver⟩ := calendar.inMonth t
  by_contra other
  rcases Int.lt_or_gt_of_ne other with earlier | later
  · have := calendar.ascending (leaf.month + 1) (calendar.monthOf t) earlier
    exact absurd (lt_of_lt_of_le covers.2 this) (not_lt_of_ge begun)
  · have := calendar.ascending (calendar.monthOf t + 1) leaf.month later
    exact absurd (lt_of_lt_of_le notOver this) (not_lt_of_ge covers.1)

variable {log calendar} in
/-- Once a row is routed, the partition that the trigger asks for is there. -/
theorem ensureAuditPartition_of_covers {leaf : Leaf} {t : Timestamp} (mem : leaf ∈ log.leaves)
    (covers : leaf.covers calendar t = true) :
    log.ensureAuditPartition (calendar.monthOf t) = log := by
  unfold ensureAuditPartition
  rw [if_pos]
  refine List.any_eq_true.mpr ⟨leaf, mem, ?_⟩
  rw [month_of_covers calendar covers]
  exact decide_eq_true rfl

/-- A number from the sequence is not in the table yet. -/
theorem seq_unused (entry : AuditEntry) (t : Timestamp) :
    (log.leaves.any fun leaf => leaf.rows.any fun r =>
      r.seq = (log.chained pg entry t).seq && r.occurredAt = (log.chained pg entry t).occurredAt) =
        false := by
  rw [List.any_eq_false]
  intro leaf mem
  rw [Bool.not_eq_true, List.any_eq_false]
  intro row inside
  have below := log.drawn leaf mem row inside
  have other : row.seq ≠ (log.chained pg entry t).seq := by
    show row.seq ≠ log.auditSeq
    omega
  simp [other]

/-- What an append does, by whether its partition is there. -/
theorem append_cases (entry : AuditEntry) (t : Timestamp) :
    (∃ i leaf, log.leaves[i]? = some leaf ∧ leaf.covers calendar t = true ∧
      log.append pg calendar entry t = (log.store pg i entry t, .ok log.auditSeq)) ∨
    (∀ leaf ∈ log.leaves, leaf.covers calendar t = false) ∧
      log.append pg calendar entry t = (log.drawSeq, .error .noPartition) := by
  cases routed : log.leaves.findIdx? fun leaf => leaf.covers calendar t with
  | none =>
      refine .inr ⟨List.findIdx?_eq_none_iff.mp routed, ?_⟩
      simp only [append, routed]
  | some i =>
      obtain ⟨inside, covers, -⟩ := List.findIdx?_eq_some_iff_getElem.mp routed
      have mem : log.leaves[i] ∈ log.leaves := List.getElem_mem inside
      refine .inl ⟨i, log.leaves[i], List.getElem?_eq_getElem inside, covers, ?_⟩
      simp only [append, routed, ensureAuditPartition_of_covers mem covers,
        log.seq_unused pg entry t]
      rfl

/-- **When an append is stored**: exactly if a partition for that instant is there before
the statement. -/
theorem append_stored_iff (entry : AuditEntry) (t : Timestamp) :
    log.Stored pg calendar entry t ↔ ∃ leaf ∈ log.leaves, leaf.covers calendar t = true := by
  rcases log.append_cases pg calendar entry t with ⟨i, leaf, found, covers, done⟩ | ⟨none, failed⟩
  · refine iff_of_true ?_ ⟨leaf, List.mem_of_getElem? found, covers⟩
    unfold Stored
    rw [done]
    refine ⟨_, rfl, { leaf with rows := leaf.rows ++ [log.chained pg entry t] }, ?_, covers,
      log.chained pg entry t, List.mem_append_right _ List.mem_cons_self, rfl⟩
    refine List.mem_of_getElem? (i := i) ?_
    show (log.leaves.modify i _)[i]? = _
    rw [List.getElem?_modify_eq, found]
    rfl
  · refine iff_of_false ?_ ?_
    · rintro ⟨seq, stored, -⟩
      rw [failed] at stored
      cases stored
    · rintro ⟨leaf, mem, covers⟩
      rw [none leaf mem] at covers
      cases covers

/-- The months that have a partition. -/
def months : List Int := log.leaves.map Leaf.month

/-- **An append adds no partition**: the trigger creates none. -/
theorem append_months (entry : AuditEntry) (t : Timestamp) :
    (log.append pg calendar entry t).1.months = log.months := by
  rcases log.append_cases pg calendar entry t with ⟨i, leaf, -, -, done⟩ | ⟨-, failed⟩
  · rw [done]
    show (log.leaves.modify i _).map Leaf.month = log.leaves.map Leaf.month
    apply List.ext_getElem?
    intro j
    rw [List.getElem?_map, List.getElem?_map, List.getElem?_modify]
    cases log.leaves[j]? with
    | none => rfl
    | some leaf =>
        show some (Leaf.month (if i = j then _ else leaf)) = some leaf.month
        split_ifs <;> rfl
  · rw [failed]
    rfl

/-- The table after appends, one after another. -/
def appends (calls : List (AuditEntry × Timestamp)) : PartitionedLog :=
  calls.foldl (fun log call => (log.append pg calendar call.1 call.2).1) log

/-- However many rows are lost, the partition is not created. -/
theorem appends_months (calls : List (AuditEntry × Timestamp)) :
    (log.appends pg calendar calls).months = log.months := by
  induction calls generalizing log with
  | nil => rfl
  | cons call rest ih => exact (ih _).trans (log.append_months pg calendar call.1 call.2)

end PartitionedLog

/-- Migration 005 in January 2026: `ensure_audit_partitions_ahead(2)` on a new table. -/
def bootstrapped : PartitionedLog :=
  ((⟨[], 1, nofun⟩ : PartitionedLog).ensureAuditPartition january).ensureAuditPartition (january + 1)

def doorOpened : AuditEntry where
  eventType := text "door.unlock_requested"
  outcome := .success
  actorType := .user
  actorId := some 1
  deviceId := none
  doorId := none
  controllerId := none
  clientIp := none
  detail := .obj []

/-- Cron did not run in February, and the first row is appended at the beginning of
March. -/
theorem append_lost :
    (bootstrapped.append samplePostgres utcCalendar doorOpened
      (utcCalendar.begins (january + 2))).2 = .error .noPartition ∧
    ¬ bootstrapped.Stored samplePostgres utcCalendar doorOpened
      (utcCalendar.begins (january + 2)) := by
  have lost : (bootstrapped.append samplePostgres utcCalendar doorOpened
      (utcCalendar.begins (january + 2))).2 = .error .noPartition := by
    decide +kernel
  refine ⟨lost, ?_⟩
  rintro ⟨seq, stored, -⟩
  rw [lost] at stored
  cases stored

end DoorsControl.Audit
