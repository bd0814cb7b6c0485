import DoorsControl.Audit.Chain

/-!
# Retention: verifying what is left after a detach

`backend/db/README.md` promises that after old partitions are detached the rest
"stays verifiable from the first retained `seq` onward". The verifier takes its
starting hash from the row below `p_from_seq`; when that row is gone it falls back
to the genesis hash, which the first retained row does not store.

* **the exact condition** — `verify_retained_iff`: the retained table verifies iff
  no row of the chain was detached (and no row below `seq` 0, which
  `verify_audit_chain(0)` never looked at, is left in front of it);
* **the failing case** — `verify_retained_fails`: two rows, the first detached.
-/

namespace DoorsControl.Audit

/-- The table after the partitions with all rows below `k` were detached. -/
def detach (log : AuditLog) (k : Int) : AuditLog := log.restrict fun r => k ≤ r.seq

theorem mem_detach {log : AuditLog} {k : Int} {r : AuditRow} :
    r ∈ (detach log k).rows ↔ r ∈ log.rows ∧ k ≤ r.seq := by
  simp [detach, AuditLog.restrict]

/-- Rows below a bound stand before the others. -/
theorem split_at_seq (log : AuditLog) (k : Int) :
    log.rows = (log.rows.filter fun r => r.seq < k) ++ (log.rows.filter fun r => k ≤ r.seq) := by
  obtain ⟨rows, ordered⟩ := log
  induction rows with
  | nil => rfl
  | cons r rest ih =>
      obtain ⟨least, orderedRest⟩ := List.pairwise_cons.mp ordered
      by_cases below : r.seq < k
      · have notAbove : ¬ k ≤ r.seq := by omega
        simpa [below, notAbove] using ih orderedRest
      · have none : (rest.filter fun r => r.seq < k) = [] := by
          rw [List.filter_eq_nil_iff]
          intro x mem
          have := least x mem
          simp only [decide_eq_true_eq]
          omega
        have all : (rest.filter fun r => k ≤ r.seq) = rest := by
          rw [List.filter_eq_self]
          intro x mem
          have := least x mem
          simp only [decide_eq_true_eq]
          omega
        have above : k ≤ r.seq := by omega
        simp [below, above, none, all]

/-- From its first `seq` on, a table is walked from the genesis hash: there is no
row below to take another one from. -/
theorem verifyAuditChain_first (pg : Postgres) {log : AuditLog} {first : AuditRow}
    (isFirst : log.rows.head? = some first) :
    verifyAuditChain pg log first.seq = walkChain pg auditGenesisHash 0 log.rows := by
  obtain ⟨rest, shape⟩ := List.head?_eq_some_iff.mp isFirst
  have least : ∀ r ∈ log.rows, first.seq ≤ r.seq := by
    have order := log.ordered
    rw [shape] at order ⊢
    intro r mem
    rcases List.mem_cons.mp mem with rfl | later
    · exact le_refl _
    · exact (List.pairwise_cons.mp order).1 r later
  have below : (log.restrict fun r => r.seq < first.seq).rows = [] := by
    rw [AuditLog.restrict, List.filter_eq_nil_iff]
    intro r mem
    have := least r mem
    simp only [decide_eq_true_eq]
    omega
  have all : (log.restrict fun r => first.seq ≤ r.seq).rows = log.rows := by
    rw [AuditLog.restrict, List.filter_eq_self]
    intro r mem
    simpa using least r mem
  rw [verifyAuditChain, below, all]
  simp [lastHash]

/-- When the retained part of a table verifies: every row of the chain is still
there, and no row with a negative `seq` is, or there is nothing else and those
retained are a chain themselves. -/
def KeepsChain (pg : Postgres) (log : AuditLog) (k : Int) : Prop :=
  (∀ r ∈ log.rows, 0 ≤ r.seq → k ≤ r.seq) ∧
    ((∀ r ∈ log.rows, k ≤ r.seq → 0 ≤ r.seq) ∨
      ((∀ r ∈ log.rows, r.seq < 0) ∧
        (scheme pg).Linked auditGenesisHash (detach log k).rows))

section Retained

variable {pg : Postgres} {log : AuditLog} {k : Int}
  (noGenesis : ∀ r ∈ log.rows, pg.sha256 (hashInput pg r) ≠ auditGenesisHash)
  (chain : (scheme pg).Linked auditGenesisHash (log.rows.filter fun r => 0 ≤ r.seq))
  (kept : (scheme pg).Linked auditGenesisHash (detach log k).rows)

include noGenesis in
/-- Rows of the table that chain from the genesis hash do not end in it. -/
theorem tip_ne_genesis {rows : List AuditRow} (inside : ∀ r ∈ rows, r ∈ log.rows)
    (linked : (scheme pg).Linked auditGenesisHash rows) (nonempty : rows ≠ []) :
    (scheme pg).tip auditGenesisHash rows ≠ auditGenesisHash :=
  linked.tip_ne_start nonempty fun r mem => noGenesis r (inside r mem)

include noGenesis chain kept in
/-- A detached row of the chain leaves the rest without its starting hash. -/
theorem no_row_detached (nonempty : (detach log k).rows ≠ []) :
    ∀ r ∈ log.rows, 0 ≤ r.seq → k ≤ r.seq := by
  intro r mem nonneg
  by_contra below
  have split := split_at_seq (log.restrict fun r => 0 ≤ r.seq) k
  have retained : ((log.restrict fun r => 0 ≤ r.seq).rows.filter fun r => k ≤ r.seq) =
      (detach log k).rows := by
    simp only [AuditLog.restrict, detach, List.filter_filter]
    apply List.filter_congr
    intro x _
    rw [← Bool.decide_and, decide_eq_decide]
    omega
  rw [retained] at split
  change (log.rows.filter fun r => 0 ≤ r.seq) = _ at split
  rw [split, Kit.ChainScheme.linked_append] at chain
  refine tip_ne_genesis noGenesis ?_ chain.1 ?_ (chain.2.start_unique kept nonempty)
  · intro x inside
    exact (List.mem_filter.mp (List.mem_filter.mp inside).1).1
  · refine List.ne_nil_of_mem (a := r) ?_
    simpa [AuditLog.restrict, mem, nonneg] using below

include noGenesis chain kept in
/-- A retained row with a negative `seq` stands in front of a chain that starts at
the genesis hash: there is no such chain. -/
theorem all_negative_of_retained {r : AuditRow} (mem : r ∈ log.rows) (above : k ≤ r.seq)
    (negative : r.seq < 0) : ∀ x ∈ log.rows, x.seq < 0 := by
  intro x memX
  by_contra nonneg
  have split := split_at_seq (detach log k) 0
  have rest : ((detach log k).rows.filter fun r => 0 ≤ r.seq) =
      log.rows.filter fun r => 0 ≤ r.seq := by
    simp only [AuditLog.restrict, detach, List.filter_filter]
    apply List.filter_congr
    intro y _
    rw [← Bool.decide_and, decide_eq_decide]
    omega
  rw [rest] at split
  rw [split, Kit.ChainScheme.linked_append] at kept
  refine tip_ne_genesis noGenesis ?_ kept.1 ?_ (kept.2.start_unique chain ?_)
  · intro y inside
    exact (mem_detach.mp (List.mem_filter.mp inside).1).1
  · refine List.ne_nil_of_mem (a := r) ?_
    simp [mem_detach, mem, above, negative]
  · refine List.ne_nil_of_mem (a := x) ?_
    simpa [memX] using nonneg

end Retained

/-- **Exactly when retention keeps a table verifiable.** -/
theorem verify_retained_iff (pg : Postgres) (log : AuditLog) (k : Int) (first : AuditRow)
    (noGenesis : ∀ r ∈ log.rows, pg.sha256 (hashInput pg r) ≠ auditGenesisHash)
    (ok : (verifyAuditChain pg log 0).chainOk = true)
    (isFirst : (detach log k).rows.head? = some first) :
    ((verifyAuditChain pg (detach log k) first.seq).chainOk = true ∧
      (verifyAuditChain pg (detach log k) first.seq).rowsChecked = (detach log k).rows.length) ↔
      KeepsChain pg log k := by
  have chain := (verifyAuditChain_zero_iff pg log).mp ok
  have nonempty : (detach log k).rows ≠ [] := by
    intro none
    rw [none] at isFirst
    cases isFirst
  rw [verifyAuditChain_first pg isFirst]
  constructor
  · rintro ⟨verifies, -⟩
    have kept := (walkChain_ok_iff ..).mp verifies
    refine ⟨no_row_detached noGenesis chain kept nonempty, ?_⟩
    by_cases clean : ∀ r ∈ log.rows, k ≤ r.seq → 0 ≤ r.seq
    · exact .inl clean
    · push Not at clean
      obtain ⟨r, mem, above, negative⟩ := clean
      exact .inr ⟨all_negative_of_retained noGenesis chain kept mem above negative, kept⟩
  · rintro ⟨whole, clean | ⟨-, kept⟩⟩
    · have same : (detach log k).rows = log.rows.filter fun r => 0 ≤ r.seq := by
        apply List.filter_congr
        intro r mem
        rw [decide_eq_decide]
        exact ⟨clean r mem, whole r mem⟩
      rw [same, walkChain_of_linked chain]
      simp
    · rw [walkChain_of_linked kept]
      simp

theorem keepsChain_sample : KeepsChain samplePostgres sampleLog 1 :=
  (verify_retained_iff samplePostgres sampleLog 1
    (auditHashChain samplePostgres .empty (sampleContent 1 "door.created"))
    (by decide +kernel) (by decide +kernel) rfl).mp (by decide +kernel)

/-- The chain of two rows verifies; with the first one detached, what is left does
not verify from the first retained `seq`. -/
theorem verify_retained_fails :
    (verifyAuditChain samplePostgres sampleLog 0).chainOk = true ∧
      (detach sampleLog 2).rows.head?.map (fun r => r.seq) = some 2 ∧
      ¬ ((verifyAuditChain samplePostgres (detach sampleLog 2) 2).chainOk = true ∧
        (verifyAuditChain samplePostgres (detach sampleLog 2) 2).rowsChecked =
          (detach sampleLog 2).rows.length) := by
  decide +kernel

end DoorsControl.Audit
