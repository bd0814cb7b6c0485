import DoorsControl.Audit.Retention
import Mathlib.Order.Bounds.Basic

/-!
# Verification from any starting point

`verify_audit_chain(p)` starts from the hash of the row below `p`, which it has not checked. The
table is as it likes, with a `seq` of its own in every row.

* `verify_zero_first_bad` — the first bad row of a whole walk is the least `seq` whose row fails a
  check of its own;
* `verify_of_broken` — a walk that starts behind no bad row ends at the same one;
* `verify_consistent` — **runs with different starting points agree**.
-/

namespace DoorsControl.Audit

/-- The hash that the row of this `seq` has to store. -/
def hashBefore (log : AuditLog) (seq : Int) : Bytes :=
  lastHash (log.restrict fun r => r.seq < seq).rows

/-- A row fails the link check or the content check. -/
def Violates (pg : Postgres) (log : AuditLog) (r : AuditRow) : Prop :=
  r.prevHash ≠ hashBefore log r.seq ∨
    r.rowHash ≠ contentHash pg r.toAuditContent (hashBefore log r.seq)

theorem violates_iff (pg : Postgres) (log : AuditLog) (r : AuditRow) :
    Violates pg log r ↔ ¬ (scheme pg).Follows (hashBefore log r.seq) r := by
  rw [follows_iff, not_and_or]
  rfl

/-- The `seq` of the bad rows. -/
def badSeqs (pg : Postgres) (log : AuditLog) : Set Int :=
  {seq | ∃ r ∈ log.rows, r.seq = seq ∧ Violates pg log r}

/-- Every row has a `seq` of its own, and it is positive. -/
structure Numbered (log : AuditLog) : Prop where
  distinct : (log.rows.map fun r => r.seq).Nodup
  positive : ∀ r ∈ log.rows, 0 < r.seq

section Table

variable {pg : Postgres} {log : AuditLog} (numbered : Numbered log)

include numbered in
theorem Numbered.increasing : log.rows.Pairwise fun a b => a.seq < b.seq := by
  have distinct := List.pairwise_map.mp numbered.distinct
  exact (log.ordered.and distinct).imp fun both => lt_of_le_of_ne both.1 both.2

include numbered in
/-- What stands before a row is below it, and what stands behind it is above. -/
theorem Numbered.around {pre rest : List AuditRow} {r : AuditRow}
    (shape : log.rows = pre ++ r :: rest) :
    (∀ x ∈ pre, x.seq < r.seq) ∧ ∀ x ∈ rest, r.seq < x.seq := by
  have increasing := numbered.increasing
  rw [shape, List.pairwise_append, List.pairwise_cons] at increasing
  obtain ⟨-, ⟨after, -⟩, before⟩ := increasing
  exact ⟨fun x mem => before x mem r List.mem_cons_self, after⟩

/-- A condition that holds of a first part of the table, and of nothing else. -/
theorem restrict_eq {pre post : List AuditRow} {keep : AuditRow → Bool}
    (shape : log.rows = pre ++ post) (holds : ∀ x ∈ pre, keep x = true)
    (fails : ∀ x ∈ post, ¬ keep x = true) : (log.restrict keep).rows = pre := by
  show log.rows.filter keep = pre
  rw [shape, List.filter_append, List.filter_eq_self.mpr holds, List.filter_eq_nil_iff.mpr fails,
    List.append_nil]

include numbered in
/-- The rows below one of the rows are those before it. -/
theorem rows_below {pre rest : List AuditRow} {r : AuditRow} (shape : log.rows = pre ++ r :: rest) :
    (log.restrict fun x => x.seq < r.seq).rows = pre := by
  obtain ⟨before, after⟩ := numbered.around shape
  refine restrict_eq shape (fun x mem => decide_eq_true (before x mem)) fun x mem => ?_
  rw [decide_eq_true_eq]
  rcases List.mem_cons.mp mem with rfl | later
  · exact lt_irrefl _
  · have := after x later
    omega

include numbered in
theorem hashBefore_eq_tip {pre rest : List AuditRow} {r : AuditRow}
    (shape : log.rows = pre ++ r :: rest) :
    hashBefore log r.seq = (scheme pg).tip auditGenesisHash pre := by
  unfold hashBefore
  rw [rows_below numbered shape, lastHash_eq_tip pg]

include numbered in
/-- No row of a chain is bad. -/
theorem not_violates_of_linked {pre post : List AuditRow} (shape : log.rows = pre ++ post)
    (linked : (scheme pg).Linked auditGenesisHash pre) : ∀ r ∈ pre, ¬ Violates pg log r := by
  intro r mem
  obtain ⟨before, after, rfl⟩ := List.append_of_mem mem
  have split : log.rows = before ++ r :: (after ++ post) := by
    rw [shape, List.append_assoc, List.cons_append]
  obtain ⟨-, follows, -⟩ := ((scheme pg).linked_append _ _ _).mp linked
  rw [violates_iff, not_not, hashBefore_eq_tip numbered split]
  exact follows

include numbered in
/-- The first row that does not follow is the least that is bad. -/
theorem isLeast_of_broken {pre rest : List AuditRow} {r : AuditRow}
    (shape : log.rows = pre ++ r :: rest) (linked : (scheme pg).Linked auditGenesisHash pre)
    (broken : ¬ (scheme pg).Follows ((scheme pg).tip auditGenesisHash pre) r) :
    IsLeast (badSeqs pg log) r.seq := by
  have mem : r ∈ log.rows := by simp [shape]
  constructor
  · refine ⟨r, mem, rfl, (violates_iff pg log r).mpr ?_⟩
    rw [hashBefore_eq_tip numbered shape]
    exact broken
  · rintro seq ⟨x, inside, rfl, violates⟩
    rw [shape] at inside
    rcases List.mem_append.mp inside with before | later
    · exact absurd violates (not_violates_of_linked numbered shape linked x before)
    · rcases List.mem_cons.mp later with rfl | behind
      · exact le_refl _
      · exact ((numbered.around shape).2 x behind).le

/-! ## Runs -/

include numbered in
/-- A whole walk is over all rows. -/
theorem verify_of_nonpos {p : Int} (nonpos : p ≤ 0) :
    verifyAuditChain pg log p = walkChain pg auditGenesisHash 0 log.rows := by
  have all : (log.restrict fun r => p ≤ r.seq).rows = log.rows := by
    show log.rows.filter _ = log.rows
    rw [List.filter_eq_self]
    intro r mem
    have := numbered.positive r mem
    rw [decide_eq_true_eq]
    omega
  unfold verifyAuditChain
  rw [all, if_pos nonpos]

/-- A walk from a positive `seq` starts at the tip of what is below. -/
theorem verify_of_pos {p : Int} (positive : 0 < p) :
    verifyAuditChain pg log p =
      walkChain pg ((scheme pg).tip auditGenesisHash (log.restrict fun r => r.seq < p).rows) 0
        (log.restrict fun r => p ≤ r.seq).rows := by
  unfold verifyAuditChain
  rw [if_neg (by omega), lastHash_eq_tip pg]

include numbered in
/-- A chain verifies from anywhere. -/
theorem verify_of_linked (linked : (scheme pg).Linked auditGenesisHash log.rows) (p : Int) :
    (verifyAuditChain pg log p).chainOk = true := by
  by_cases nonpos : p ≤ 0
  · rw [verify_of_nonpos numbered nonpos, walkChain_ok_iff]
    exact linked
  · have split := split_at_seq log p
    rw [split, (scheme pg).linked_append] at linked
    rw [verify_of_pos (by omega), walkChain_ok_iff]
    exact linked.2

include numbered in
/-- A walk from a row before the first bad one, or from that, ends there. -/
theorem verify_of_broken {pre rest : List AuditRow} {r : AuditRow}
    (shape : log.rows = pre ++ r :: rest) (linked : (scheme pg).Linked auditGenesisHash pre)
    (broken : ¬ (scheme pg).Follows ((scheme pg).tip auditGenesisHash pre) r) {p : Int}
    (positive : 0 < p) (below : p ≤ r.seq) :
    (verifyAuditChain pg log p).firstBadSeq = some r.seq := by
  -- what is below `p` is a first part of `pre`, and the walk is over the rest
  have cut := split_at_seq ⟨pre, (List.pairwise_append.mp (shape ▸ log.ordered)).1⟩ p
  have above : ∀ x ∈ r :: rest, p ≤ x.seq := by
    intro x mem
    rcases List.mem_cons.mp mem with rfl | later
    · exact below
    · have := (numbered.around shape).2 x later
      omega
  have first : (log.restrict fun x => x.seq < p).rows = pre.filter fun x => x.seq < p := by
    show log.rows.filter _ = _
    have none : ((r :: rest).filter fun x => x.seq < p) = [] := by
      rw [List.filter_eq_nil_iff]
      intro x mem
      have := above x mem
      rw [decide_eq_true_eq]
      omega
    rw [shape, List.filter_append, none, List.append_nil]
  have second : (log.restrict fun x => p ≤ x.seq).rows =
      (pre.filter fun x => p ≤ x.seq) ++ r :: rest := by
    show log.rows.filter _ = _
    have all : ((r :: rest).filter fun x => p ≤ x.seq) = r :: rest := by
      rw [List.filter_eq_self]
      exact fun x mem => decide_eq_true (above x mem)
    rw [shape, List.filter_append, all]
  have cut : pre = (pre.filter fun x => x.seq < p) ++ pre.filter fun x => p ≤ x.seq := cut
  rw [cut, (scheme pg).linked_append] at linked
  rw [cut, (scheme pg).tip_append] at broken
  rw [verify_of_pos positive, first, second, walkChain_of_broken linked.2 broken]

variable (pg) in
include numbered in
/-- A whole walk finds nothing, or ends at the first row that does not follow. -/
theorem verify_zero_cases :
    ((scheme pg).Linked auditGenesisHash log.rows ∧
        verifyAuditChain pg log 0 = ⟨true, log.rows.length, none, none⟩) ∨
      ∃ pre r rest, log.rows = pre ++ r :: rest ∧ (scheme pg).Linked auditGenesisHash pre ∧
        ¬ (scheme pg).Follows ((scheme pg).tip auditGenesisHash pre) r ∧
        (verifyAuditChain pg log 0).chainOk = false ∧
        (verifyAuditChain pg log 0).rowsChecked = pre.length + 1 ∧
        (verifyAuditChain pg log 0).firstBadSeq = some r.seq := by
  rw [verify_of_nonpos numbered (le_refl 0)]
  rcases linked_or_broken pg auditGenesisHash log.rows with
    linked | ⟨pre, r, rest, shape, linked, broken⟩
  · left
    rw [walkChain_of_linked linked, Nat.zero_add]
    exact ⟨linked, rfl⟩
  · right
    refine ⟨pre, r, rest, shape, linked, broken, ?_⟩
    rw [shape, walkChain_of_broken linked broken, Nat.zero_add]
    exact ⟨rfl, rfl, rfl⟩

include numbered in
theorem verify_zero_first_bad (b : Int) :
    (verifyAuditChain pg log 0).firstBadSeq = some b ↔ IsLeast (badSeqs pg log) b := by
  rcases verify_zero_cases pg numbered with
    ⟨linked, status⟩ | ⟨pre, r, rest, shape, linked, broken, -, -, named⟩
  · refine iff_of_false ?_ ?_
    · rw [status]
      exact nofun
    · rintro ⟨⟨r, mem, -, violates⟩, -⟩
      exact not_violates_of_linked numbered (List.append_nil _).symm linked r mem violates
  · have least := isLeast_of_broken numbered shape linked broken
    rw [named]
    constructor
    · rintro ⟨⟩
      exact least
    · exact fun isLeast => congrArg some (least.unique isLeast)

include numbered in
theorem verify_zero_rows_checked {b : Int}
    (named : (verifyAuditChain pg log 0).firstBadSeq = some b) :
    (verifyAuditChain pg log 0).rowsChecked = (log.restrict fun r => r.seq ≤ b).rows.length := by
  rcases verify_zero_cases pg numbered with
    ⟨-, status⟩ | ⟨pre, r, rest, shape, -, -, -, checked, isBad⟩
  · rw [status] at named
    cases named
  · obtain rfl := Option.some.inj (isBad.symm.trans named)
    obtain ⟨before, after⟩ := numbered.around shape
    have upTo : (log.restrict fun x => x.seq ≤ r.seq).rows = pre ++ [r] := by
      refine restrict_eq (shape.trans (List.append_cons pre r rest)) (fun x mem => ?_)
        fun x mem => ?_
      · rw [decide_eq_true_eq]
        rcases List.mem_append.mp mem with first | last
        · exact (before x first).le
        · rw [List.mem_singleton.mp last]
      · have := after x mem
        rw [decide_eq_true_eq]
        omega
    rw [checked, upTo, List.length_append, List.length_singleton]

end Table

/-- **Runs with different starting points agree.** A whole walk names the least bad row and counts
the rows up to it. If it finds none, no other walk does, and if it finds one, so does every walk
that starts at or before that. -/
theorem verify_consistent (pg : Postgres) (log : AuditLog) (numbered : Numbered log) :
    ((verifyAuditChain pg log 0).chainOk = true ↔ (verifyAuditChain pg log 0).firstBadSeq = none) ∧
    (∀ b, (verifyAuditChain pg log 0).firstBadSeq = some b ↔ IsLeast (badSeqs pg log) b) ∧
    (∀ b, (verifyAuditChain pg log 0).firstBadSeq = some b →
      (verifyAuditChain pg log 0).rowsChecked = (log.restrict fun r => r.seq ≤ b).rows.length) ∧
    ((verifyAuditChain pg log 0).chainOk = true → ∀ p, (verifyAuditChain pg log p).chainOk = true) ∧
    ∀ b p, (verifyAuditChain pg log 0).firstBadSeq = some b → 0 < p → p ≤ b →
      (verifyAuditChain pg log p).firstBadSeq = some b := by
  refine ⟨?_, verify_zero_first_bad numbered, fun b => verify_zero_rows_checked numbered, ?_, ?_⟩
  · rcases verify_zero_cases pg numbered with
      ⟨-, status⟩ | ⟨pre, r, rest, -, -, -, bad, -, named⟩
    · rw [status]
      exact iff_of_true rfl rfl
    · rw [bad, named]
      exact iff_of_false nofun nofun
  · intro ok
    refine verify_of_linked numbered ?_
    rw [verify_of_nonpos numbered (le_refl 0)] at ok
    exact (walkChain_ok_iff pg _ _ _).mp ok
  · intro b p named positive below
    rcases verify_zero_cases pg numbered with
      ⟨-, status⟩ | ⟨pre, r, rest, shape, linked, broken, -, -, isBad⟩
    · rw [status] at named
      cases named
    · obtain rfl := Option.some.inj (isBad.symm.trans named)
      exact verify_of_broken numbered shape linked broken positive below

/-- The second of the two rows edited. -/
def editedLog : AuditLog where
  rows := sampleLog.rows.map fun r =>
    if r.seq = 2 then { r with eventType := text "auth.logout" } else r
  ordered := by decide +kernel

theorem verify_consistent_sample :
    IsLeast (badSeqs samplePostgres editedLog) 2 ∧
      (verifyAuditChain samplePostgres editedLog 1).firstBadSeq = some 2 := by
  have numbered : Numbered editedLog := ⟨by decide +kernel, by decide +kernel⟩
  have named : (verifyAuditChain samplePostgres editedLog 0).firstBadSeq = some 2 := by
    decide +kernel
  obtain ⟨-, least, -, -, same⟩ := verify_consistent samplePostgres editedLog numbered
  exact ⟨(least 2).mp named, same 2 1 named (by decide) (by decide)⟩

end DoorsControl.Audit
