import DoorsControl.Audit.Tamper

/-!
# Inserts by the application

The application role holds `INSERT` on the whole table, so a statement of its own may
give any column. The trigger overwrites the two hashes; `seq` and `occurred_at` are
stored as given, and the hash the trigger reads is that of the greatest `seq`, wherever
the new row goes.

`ORDER BY seq` does not say how rows of equal `seq` are listed: a new row may be listed
before or after the ones it ties with.

* `rowsChecked_of_ok` — what the verifier counts;
* `insert_keeps_iff` — **the inserts that keep the chain**;
* `insert_breaks` — an insert below the head.
-/

namespace DoorsControl.Audit

/-- A statement that the table turns down. -/
def Refused (covered : Timestamp → Bool) (log : AuditLog) (given : AuditRow) : Prop :=
  -- no partition for that month
  covered given.occurredAt = false ∨
  -- PRIMARY KEY (seq, occurred_at)
  ∃ r ∈ log.rows, r.seq = given.seq ∧ r.occurredAt = given.occurredAt

/-- What becomes of an `INSERT` with the columns `given`: it is refused, or the row the
trigger makes of it takes a place in the order of `seq`. -/
inductive Inserts (pg : Postgres) (covered : Timestamp → Bool) (log : AuditLog)
    (given : AuditRow) : Option AuditLog → Prop
  | refused : Refused covered log given → Inserts pg covered log given none
  | stored {after : AuditLog} {pre post : List AuditRow} :
      ¬ Refused covered log given → log.rows = pre ++ post →
      after.rows = pre ++ auditHashChain pg log given.toAuditContent :: post →
      Inserts pg covered log given (some after)

/-- The insert is refused, or the table verifies with one more row. -/
def KeepsVerifying (pg : Postgres) (covered : Timestamp → Bool) (log : AuditLog)
    (given : AuditRow) : Prop :=
  ∀ outcome, Inserts pg covered log given outcome →
    match outcome with
    | none => True
    | some after =>
        (verifyAuditChain pg after 0).chainOk = true ∧
          (verifyAuditChain pg after 0).rowsChecked = (verifyAuditChain pg log 0).rowsChecked + 1

theorem linked_of_ok {pg : Postgres} {log : AuditLog}
    (ok : (verifyAuditChain pg log 0).chainOk = true) :
    (scheme pg).Linked auditGenesisHash (chainRows log) :=
  (verifyAuditChain_zero_iff pg log).mp ok

/-- The verifier counts the rows from `seq` 0 on. -/
theorem rowsChecked_of_ok {pg : Postgres} {log : AuditLog}
    (ok : (verifyAuditChain pg log 0).chainOk = true) :
    (verifyAuditChain pg log 0).rowsChecked = (chainRows log).length := by
  have linked := linked_of_ok ok
  have walk := walkChain_of_linked linked 0
  have status : verifyAuditChain pg log 0 = walkChain pg auditGenesisHash 0 (chainRows log) := by
    simp [verifyAuditChain, AuditLog.restrict, chainRows]
  rw [status, walk, Nat.zero_add]

/-- The hash that the trigger reads is the one the verifier ends with, if there is a row
for the verifier at all. -/
theorem lastHash_eq_tip_chainRows (pg : Postgres) {log : AuditLog}
    (some : ∃ r ∈ log.rows, 0 ≤ r.seq) :
    lastHash log.rows = (scheme pg).tip auditGenesisHash (chainRows log) := by
  obtain ⟨r, mem, nonneg⟩ := some
  cases isLast : log.rows.getLast? with
  | none =>
      rw [List.getLast?_eq_none_iff.mp isLast] at mem
      cases mem
  | some last =>
      have above : 0 ≤ last.seq := by
        by_contra negative
        have none := chainRows_eq_nil isLast (by omega)
        have inside : r ∈ chainRows log := mem_chainRows.mpr ⟨mem, nonneg⟩
        rw [none] at inside
        cases inside
      obtain ⟨init, shape⟩ := chainRows_eq_concat isLast above
      rw [shape, Kit.ChainScheme.tip_concat]
      simp [lastHash, isLast, scheme]

/-- What is listed after a row is not below it. -/
theorem above_of_placed {after : AuditLog} {row : AuditRow} {pre post : List AuditRow}
    (placed : after.rows = pre ++ row :: post) : ∀ r ∈ post, row.seq ≤ r.seq := by
  have order := after.ordered
  rw [placed, List.pairwise_append] at order
  intro r mem
  exact (List.pairwise_cons.mp order.2.1).1 r mem

section Placed

variable {pg : Postgres} {log after : AuditLog} {content : AuditContent}
  {pre post : List AuditRow} (split : log.rows = pre ++ post)
  (placed : after.rows = pre ++ auditHashChain pg log content :: post)

include placed

theorem filter_above (nonneg : 0 ≤ content.seq) : (post.filter fun r => 0 ≤ r.seq) = post := by
  rw [List.filter_eq_self]
  intro r mem
  have : content.seq ≤ r.seq := above_of_placed placed r mem
  simp only [decide_eq_true_eq]
  omega

theorem chainRows_after (nonneg : 0 ≤ content.seq) : chainRows after =
    (pre.filter fun r => 0 ≤ r.seq) ++ auditHashChain pg log content :: post := by
  have walked : decide (0 ≤ (auditHashChain pg log content).seq) = true := decide_eq_true nonneg
  rw [chainRows, placed, List.filter_append, List.filter_cons_of_pos (by exact walked),
    filter_above placed nonneg]

include split

theorem chainRows_before (nonneg : 0 ≤ content.seq) : chainRows log =
    (pre.filter fun r => 0 ≤ r.seq) ++ post := by
  rw [chainRows, split, List.filter_append, filter_above placed nonneg]

/-- A row below 0 is not walked, and so not counted. -/
theorem nonneg_of_counted
    (counted : (chainRows after).length = (chainRows log).length + 1) : 0 ≤ content.seq := by
  by_contra negative
  have unwalked : decide (0 ≤ (auditHashChain pg log content).seq) = false :=
    decide_eq_false negative
  have skipped : chainRows after = chainRows log := by
    rw [chainRows, chainRows, placed, split, List.filter_append, List.filter_append,
      List.filter_cons_of_neg (by rw [unwalked]; simp)]
  rw [skipped] at counted
  omega

/-- The verifier has a row to start from, or what the trigger reads is where the
verifier starts. -/
def Anchored (log : AuditLog) : Prop :=
  (∃ r ∈ log.rows, 0 ≤ r.seq) ∨ lastHash log.rows = auditGenesisHash

/-- A row that is listed before another one breaks the chain: otherwise two rows of the
old chain would have one hash. -/
theorem last_of_linked (hash : CollisionFree pg {r | r ∈ log.rows})
    (linked : (scheme pg).Linked auditGenesisHash (chainRows log)) (nonneg : 0 ≤ content.seq)
    (read : lastHash log.rows =
      (scheme pg).tip auditGenesisHash (pre.filter fun r => 0 ≤ r.seq)) : post = [] := by
  have before := chainRows_before split placed nonneg
  by_contra nonempty
  obtain ⟨r, inPost⟩ := List.exists_mem_of_ne_nil _ nonempty
  have above : 0 ≤ r.seq := by
    have : content.seq ≤ r.seq := above_of_placed placed r inPost
    omega
  rw [lastHash_eq_tip_chainRows pg ⟨r, by simp [split, inPost], above⟩, before] at read
  rw [before] at linked
  refine hash.sound.tip_append_ne ?_ linked nonempty read
  rw [← before]
  exact fun x mem => (mem_chainRows.mp mem).1

/-- One place for the new row: what has to hold for the table to verify. -/
theorem condition_of_placed (hash : CollisionFree pg {r | r ∈ log.rows})
    (accepted : (verifyAuditChain pg log 0).chainOk = true)
    (ok : (verifyAuditChain pg after 0).chainOk = true)
    (counted : (verifyAuditChain pg after 0).rowsChecked =
      (verifyAuditChain pg log 0).rowsChecked + 1) :
    0 ≤ content.seq ∧ post = [] ∧ Anchored log := by
  rw [rowsChecked_of_ok ok, rowsChecked_of_ok accepted] at counted
  have nonneg := nonneg_of_counted split placed counted
  have chain := linked_of_ok ok
  rw [chainRows_after placed nonneg, Kit.ChainScheme.linked_append] at chain
  have read : lastHash log.rows =
      (scheme pg).tip auditGenesisHash (pre.filter fun r => 0 ≤ r.seq) := chain.2.1.1
  refine ⟨nonneg, last_of_linked split placed hash (linked_of_ok accepted) nonneg read, ?_⟩
  by_cases some : ∃ r ∈ log.rows, 0 ≤ r.seq
  · exact .inl some
  · have none : (pre.filter fun r => 0 ≤ r.seq) = [] := by
      rw [List.filter_eq_nil_iff]
      intro r mem above
      exact some ⟨r, by simp [split, mem], by simpa using above⟩
    rw [none] at read
    exact .inr read

end Placed

/-- A row that is listed last keeps the chain. -/
theorem ok_of_last {pg : Postgres} {log after : AuditLog} {content : AuditContent}
    (accepted : (verifyAuditChain pg log 0).chainOk = true) (anchored : Anchored log)
    (nonneg : 0 ≤ content.seq)
    (placed : after.rows = log.rows ++ [auditHashChain pg log content]) :
    (verifyAuditChain pg after 0).chainOk = true ∧
      (verifyAuditChain pg after 0).rowsChecked = (verifyAuditChain pg log 0).rowsChecked + 1 := by
  have linked := linked_of_ok accepted
  have shape : chainRows after = chainRows log ++ [auditHashChain pg log content] :=
    chainRows_after placed nonneg
  have read : lastHash log.rows = (scheme pg).tip auditGenesisHash (chainRows log) := by
    by_cases some : ∃ r ∈ log.rows, 0 ≤ r.seq
    · exact lastHash_eq_tip_chainRows pg some
    · have none : chainRows log = [] := by
        rw [chainRows, List.filter_eq_nil_iff]
        intro r mem above
        exact some ⟨r, mem, by simpa using above⟩
      rw [none]
      exact anchored.resolve_left some
  have ok : (verifyAuditChain pg after 0).chainOk = true := by
    rw [verifyAuditChain_zero_iff, ← chainRows, shape, Kit.ChainScheme.linked_concat, ← read]
    exact ⟨linked, rfl, rfl⟩
  refine ⟨ok, ?_⟩
  rw [rowsChecked_of_ok ok, rowsChecked_of_ok accepted, shape, List.length_append,
    List.length_singleton]

/-! ## Where the new row can go -/

theorem split_at {rows : List AuditRow} (ordered : rows.Pairwise fun a b => a.seq ≤ b.seq)
    (seq : Int) :
    rows = (rows.filter fun r => r.seq < seq) ++ rows.filter fun r => seq ≤ r.seq := by
  induction rows with
  | nil => rfl
  | cons a rest ih =>
      rw [List.pairwise_cons] at ordered
      by_cases below : a.seq < seq
      · rw [List.filter_cons_of_pos (by simpa using below),
          List.filter_cons_of_neg (by simpa using below), List.cons_append, ← ih ordered.2]
      · have none : (rest.filter fun r => r.seq < seq) = [] := by
          rw [List.filter_eq_nil_iff]
          intro r mem
          have := ordered.1 r mem
          simp only [decide_eq_true_eq]
          omega
        have all := ih ordered.2
        rw [none, List.nil_append] at all
        rw [List.filter_cons_of_neg (by simpa using below), none, List.nil_append,
          List.filter_cons_of_pos (by simpa using below), ← all]

theorem insertFirst_ordered {rows : List AuditRow}
    (ordered : rows.Pairwise fun a b => a.seq ≤ b.seq) (row : AuditRow) :
    (rows.filter (fun r => r.seq < row.seq) ++
      row :: rows.filter (fun r => row.seq ≤ r.seq)).Pairwise fun a b => a.seq ≤ b.seq := by
  rw [List.pairwise_append]
  refine ⟨ordered.filter _, ?_, ?_⟩
  · rw [List.pairwise_cons]
    refine ⟨?_, ordered.filter _⟩
    intro r mem
    simpa using (List.mem_filter.mp mem).2
  · intro a memA b memB
    have before := (List.mem_filter.mp memA).2
    simp only [decide_eq_true_eq] at before
    rcases List.mem_cons.mp memB with rfl | memB
    · omega
    · have after := (List.mem_filter.mp memB).2
      simp only [decide_eq_true_eq] at after
      omega

/-- The table with the new row listed before the ones it ties with. -/
def AuditLog.insertFirst (log : AuditLog) (row : AuditRow) : AuditLog where
  rows := log.rows.filter (fun r => r.seq < row.seq) ++
    row :: log.rows.filter (fun r => row.seq ≤ r.seq)
  ordered := insertFirst_ordered log.ordered row

/-- **The inserts that keep the chain**: those that are refused, and those whose `seq`
is not negative and greater than every other, in a table whose last row the verifier
walks. -/
theorem insert_keeps_iff (pg : Postgres) (covered : Timestamp → Bool) (log : AuditLog)
    (given : AuditRow) (hash : CollisionFree pg {r | r ∈ log.rows})
    (accepted : (verifyAuditChain pg log 0).chainOk = true) :
    KeepsVerifying pg covered log given ↔
      Refused covered log given ∨
        0 ≤ given.seq ∧ (∀ r ∈ log.rows, r.seq < given.seq) ∧ Anchored log := by
  constructor
  · intro keeps
    by_cases refused : Refused covered log given
    · exact .inl refused
    · refine .inr ?_
      let row := auditHashChain pg log given.toAuditContent
      have split := split_at log.ordered given.seq
      obtain ⟨ok, counted⟩ := keeps (some (log.insertFirst row)) (.stored refused split rfl)
      obtain ⟨nonneg, last, anchored⟩ :=
        condition_of_placed split rfl hash accepted ok counted
      refine ⟨nonneg, ?_, anchored⟩
      intro r mem
      by_contra above
      have inside : r ∈ log.rows.filter fun r => given.seq ≤ r.seq :=
        List.mem_filter.mpr ⟨mem, by simpa using above⟩
      rw [last] at inside
      cases inside
  · rintro condition outcome inserts
    cases inserts with
    | refused _ => trivial
    | @stored after pre post notRefused split placed =>
        obtain ⟨nonneg, above, anchored⟩ := condition.resolve_left notRefused
        obtain rfl : post = [] := by
          rw [List.eq_nil_iff_forall_not_mem]
          intro r mem
          have notBelow : given.seq ≤ r.seq := above_of_placed placed r mem
          have below := above r (by simp [split, mem])
          omega
        rw [List.append_nil] at split
        rw [← split] at placed
        exact ok_of_last accepted anchored nonneg placed

/-- A row with hashes that somebody made up. -/
def forgedRow (seq : Int) : AuditRow :=
  { sampleContent seq "door.unlock_confirmed" with
    prevHash := auditGenesisHash, rowHash := auditGenesisHash }

theorem insert_keeps_sample :
    KeepsVerifying samplePostgres (fun _ => true) sampleLog (forgedRow 3) := by
  have hash : CollisionFree samplePostgres {r | r ∈ sampleLog.rows} :=
    collisionFree_of_nodup sampleLog.rows Kit.Sha256.sha256_length (fun _ mem => mem)
      (by decide +kernel)
  have above : (sampleLog.rows.all fun r => decide (r.seq < 3)) = true := by decide +kernel
  have walked : (sampleLog.rows.any fun r => decide (0 ≤ r.seq)) = true := by decide +kernel
  rw [List.all_eq_true] at above
  obtain ⟨r, mem, nonneg⟩ := List.any_eq_true.mp walked
  refine (insert_keeps_iff samplePostgres (fun _ => true) sampleLog (forgedRow 3) hash
    (by decide +kernel)).mpr (.inr ⟨by decide, ?_, .inl ⟨r, mem, of_decide_eq_true nonneg⟩⟩)
  exact fun r mem => of_decide_eq_true (above r mem)

/-- A row below the head is stored, and the table no longer verifies. -/
theorem insert_breaks : (verifyAuditChain samplePostgres sampleLog 0).chainOk = true ∧
    ¬ KeepsVerifying samplePostgres (fun _ => true) sampleLog (forgedRow 0) := by
  refine ⟨by decide +kernel, fun keeps => ?_⟩
  have other : (sampleLog.rows.all fun r => decide (0 < r.seq)) = true := by decide +kernel
  rw [List.all_eq_true] at other
  have accepted : ¬ Refused (fun _ => true) sampleLog (forgedRow 0) := by
    rintro (uncovered | ⟨r, mem, same, -⟩)
    · cases uncovered
    · have below := of_decide_eq_true (other r mem)
      rw [same] at below
      exact absurd below (by decide)
  have inserted : Inserts samplePostgres (fun _ => true) sampleLog (forgedRow 0)
      (some (sampleLog.insertFirst
        (auditHashChain samplePostgres sampleLog (forgedRow 0).toAuditContent))) :=
    .stored accepted (split_at sampleLog.ordered 0) rfl
  have broken : (verifyAuditChain samplePostgres (sampleLog.insertFirst
      (auditHashChain samplePostgres sampleLog (forgedRow 0).toAuditContent)) 0).chainOk =
        false := by
    decide +kernel
  rw [(keeps _ inserted).1] at broken
  cases broken

end DoorsControl.Audit
