import DoorsControl.Audit.Chain
import Mathlib.Order.Bounds.Basic

/-!
# What a tampered audit table cannot hide

* **anchored head** — `payloads_eq_of_anchored_head`: two tables that verify and
  have the same head `(seq, row_hash)` carry the same payloads, row by row;
* **edits and deletions** — `verify_altered`: a table that verified and was then
  edited by hand, with the stored hashes left as they were, still verifies only
  if a suffix was cut off, and otherwise the verifier names the first surviving
  row at or after the first one that was touched.
-/

namespace DoorsControl.Audit

/-- The `(seq, row_hash)` that an external witness records. -/
def anchor (log : AuditLog) : Option (Int × Bytes) :=
  (auditChainHead log).map fun (seq, _, hash) => (seq, hash)

/-- The rows that `verify_audit_chain(0)` walks. -/
def chainRows (log : AuditLog) : List AuditRow := log.rows.filter fun r => 0 ≤ r.seq

theorem mem_chainRows {log : AuditLog} {r : AuditRow} :
    r ∈ chainRows log ↔ r ∈ log.rows ∧ 0 ≤ r.seq := by
  simp [chainRows]

/-- A table whose last row has a negative `seq` has no row for the verifier. -/
theorem chainRows_eq_nil {log : AuditLog} {last : AuditRow}
    (isLast : log.rows.getLast? = some last) (negative : last.seq < 0) :
    chainRows log = [] := by
  obtain ⟨init, shape⟩ := List.getLast?_eq_some_iff.mp isLast
  rw [chainRows, List.filter_eq_nil_iff]
  intro r mem
  have order := log.ordered
  rw [shape] at order mem
  have below : r.seq ≤ last.seq := by
    rcases List.mem_append.mp mem with inside | here
    · exact (List.pairwise_append.mp order).2.2 r inside last (by simp)
    · rw [List.mem_singleton.mp here]
  simp only [decide_eq_true_eq]
  omega

/-- A last row with `seq` from 0 on is the last one the verifier walks. -/
theorem chainRows_eq_concat {log : AuditLog} {last : AuditRow}
    (isLast : log.rows.getLast? = some last) (nonneg : 0 ≤ last.seq) :
    ∃ init, chainRows log = init ++ [last] := by
  obtain ⟨init, shape⟩ := List.getLast?_eq_some_iff.mp isLast
  refine ⟨init.filter fun r => 0 ≤ r.seq, ?_⟩
  rw [chainRows, shape, List.filter_append]
  simp [nonneg]

/-- The rows the verifier walks end in the anchored hash, or there is none. -/
theorem tip_of_anchor (pg : Postgres) {log : AuditLog} {seq : Int} {hash : Bytes}
    (head : anchor log = some (seq, hash)) :
    (seq < 0 ∧ chainRows log = []) ∨
      (0 ≤ seq ∧ (scheme pg).tip auditGenesisHash (chainRows log) = hash) := by
  cases isLast : log.rows.getLast? with
  | none => simp [anchor, auditChainHead, isLast] at head
  | some last =>
      simp only [anchor, auditChainHead, isLast, Option.map_some, Option.some.injEq,
        Prod.mk.injEq] at head
      obtain ⟨rfl, rfl⟩ := head
      by_cases negative : last.seq < 0
      · exact .inl ⟨negative, chainRows_eq_nil isLast negative⟩
      · obtain ⟨init, shape⟩ := chainRows_eq_concat isLast (by omega)
        refine .inr ⟨by omega, ?_⟩
        rw [shape, Kit.ChainScheme.tip_concat, scheme_digest]

/-- **The anchored head pins the whole log.** Two tables that both verify and
publish the same head have the same payload bytes, row by row: no rewriting,
deletion, insertion or reordering keeps both, even with every hash recomputed. -/
theorem payloads_eq_of_anchored_head (pg : Postgres) (log₁ log₂ : AuditLog)
    (hash : CollisionFree pg {r | r ∈ log₁.rows ∨ r ∈ log₂.rows})
    (ok₁ : (verifyAuditChain pg log₁ 0).chainOk = true)
    (ok₂ : (verifyAuditChain pg log₂ 0).chainOk = true)
    (same : anchor log₁ = anchor log₂) :
    (chainRows log₁).map (fun r => auditPayload pg r.toAuditContent) =
      (chainRows log₂).map (fun r => auditPayload pg r.toAuditContent) := by
  rw [verifyAuditChain_zero_iff] at ok₁ ok₂
  cases head : anchor log₁ with
  | none =>
      have empty : ∀ log : AuditLog, anchor log = none → chainRows log = [] := by
        intro log none
        simp only [anchor, auditChainHead, Option.map_eq_none_iff,
          List.getLast?_eq_none_iff] at none
        simp [chainRows, none]
      rw [empty log₁ head, empty log₂ (same ▸ head)]
  | some key =>
      obtain ⟨seq, digest⟩ := key
      rcases tip_of_anchor pg head with ⟨negative, empty₁⟩ | ⟨nonneg, tip₁⟩
      · rcases tip_of_anchor pg (same ▸ head) with ⟨_, empty₂⟩ | ⟨nonneg, _⟩
        · rw [empty₁, empty₂]
        · omega
      · rcases tip_of_anchor pg (same ▸ head) with ⟨negative, _⟩ | ⟨_, tip₂⟩
        · omega
        · exact hash.sound.contents_eq_of_tip_eq
            (fun r mem => .inl (mem_chainRows.mp mem).1)
            (fun r mem => .inr (mem_chainRows.mp mem).1) ok₁ ok₂ (tip₁.trans tip₂.symm)

/-- The same with a third row in front that only a hand-written `seq` gives. -/
def samplePrefixed : AuditLog :=
  sampleLog.insert
    { sampleContent (-1) "x" with prevHash := auditGenesisHash, rowHash := auditGenesisHash }

theorem payloads_eq_of_prefixed :
    (chainRows sampleLog).map (fun r => auditPayload samplePostgres r.toAuditContent) =
      (chainRows samplePrefixed).map (fun r => auditPayload samplePostgres r.toAuditContent) := by
  have hash : CollisionFree samplePostgres {r | r ∈ sampleLog.rows ∨ r ∈ samplePrefixed.rows} := by
    refine collisionFree_of_nodup samplePrefixed.rows Kit.Sha256.sha256_length
      ?_ (by decide +kernel)
    rintro r (mem | mem)
    · exact List.mem_cons_of_mem _ mem
    · exact mem
  exact payloads_eq_of_anchored_head samplePostgres sampleLog samplePrefixed hash
    (by decide +kernel) (by decide +kernel) (by decide +kernel)

/-! ## Edits and deletions that leave the hashes alone -/

/-- What somebody with write access to the stored rows does to a table without
recomputing a hash: every row is deleted (`none`) or kept with its `seq` and its
hashes, either as it was or with a content that serialises differently. -/
structure Alteration (pg : Postgres) (log : AuditLog) where
  edit : AuditRow → Option AuditRow
  keeps_seq : ∀ r ∈ log.rows, ∀ r', edit r = some r' → r'.seq = r.seq
  keeps_hashes : ∀ r ∈ log.rows, ∀ r', edit r = some r' →
    r'.prevHash = r.prevHash ∧ r'.rowHash = r.rowHash
  changes_payload : ∀ r ∈ log.rows, ∀ r', edit r = some r' →
    r' = r ∨ auditPayload pg r'.toAuditContent ≠ auditPayload pg r.toAuditContent

namespace Alteration

variable {pg : Postgres} {log : AuditLog} (alt : Alteration pg log)

/-- The rows that are still there. -/
def survivors : List AuditRow := log.rows.filterMap alt.edit

theorem mem_survivors {r' : AuditRow} :
    r' ∈ alt.survivors ↔ ∃ r ∈ log.rows, alt.edit r = some r' := by
  simp [survivors]

/-- The table afterwards. -/
def result : AuditLog where
  rows := alt.survivors
  ordered := by
    rw [survivors, List.pairwise_filterMap]
    refine log.ordered.imp_of_mem ?_
    intro a b memA memB le a' editA b' editB
    rw [alt.keeps_seq a memA a' editA, alt.keeps_seq b memB b' editB]
    exact le

/-- A row that was deleted or changed. -/
def Touched (r : AuditRow) : Prop := alt.edit r ≠ some r

/-- Nothing but a suffix of the `seq` order was removed. -/
def CutsSuffix : Prop :=
  ∃ k : Int, ∀ r ∈ log.rows, alt.edit r = if r.seq < k then some r else none

/-- The `seq` values of the touched rows. -/
def touchedSeqs : Set Int := {s | ∃ r ∈ log.rows, alt.Touched r ∧ r.seq = s}

/-- The `seq` values of the surviving rows. -/
def survivingSeqs : Set Int := {s | ∃ r' ∈ alt.survivors, r'.seq = s}

end Alteration

/-- Every predicate holds throughout a list or fails at a first element. -/
theorem all_or_first {α : Type} (p : α → Prop) (xs : List α) :
    (∀ x ∈ xs, p x) ∨ ∃ pre x post, xs = pre ++ x :: post ∧ (∀ y ∈ pre, p y) ∧ ¬ p x := by
  induction xs with
  | nil => exact .inl (by simp)
  | cons a rest ih =>
      by_cases holds : p a
      · rcases ih with all | ⟨pre, x, post, shape, before, fails⟩
        · exact .inl (by simpa [holds] using all)
        · exact .inr ⟨a :: pre, x, post, by rw [shape]; rfl, by simpa [holds] using before, fails⟩
      · exact .inr ⟨[], a, rest, rfl, by simp, holds⟩

/-- Untouched rows pass through an alteration as they are. -/
theorem filterMap_untouched {α : Type} {f : α → Option α} {xs : List α}
    (same : ∀ x ∈ xs, f x = some x) : xs.filterMap f = xs := by
  induction xs with
  | nil => rfl
  | cons a rest ih =>
      rw [List.filterMap_cons_some (same a (by simp)), ih fun x mem => same x (by simp [mem])]

theorem exists_seq_above (rows : List AuditRow) : ∃ k : Int, ∀ r ∈ rows, r.seq < k := by
  induction rows with
  | nil => exact ⟨0, by simp⟩
  | cons r rest ih =>
      obtain ⟨k, above⟩ := ih
      refine ⟨max k (r.seq + 1), ?_⟩
      intro x mem
      rcases List.mem_cons.mp mem with rfl | inRest
      · omega
      · have := above x inRest
        omega

section Altered

variable {pg : Postgres} {log : AuditLog} (alt : Alteration pg log)
  (nonneg : ∀ r ∈ log.rows, 0 ≤ r.seq)
  (distinct : log.rows.Pairwise fun a b => a.seq < b.seq)
  (linked : (scheme pg).Linked auditGenesisHash log.rows)

include nonneg in
theorem chainRows_result : chainRows alt.result = alt.survivors := by
  change (alt.survivors.filter fun r => 0 ≤ r.seq) = alt.survivors
  rw [List.filter_eq_self]
  intro r' mem
  obtain ⟨r, inside, edit⟩ := alt.mem_survivors.mp mem
  have := nonneg r inside
  rw [← alt.keeps_seq r inside r' edit] at this
  simpa using this

/-- The three ways an alteration of a chain can go: nothing touched; or the first
touched row was changed and survives; or it was deleted. -/
theorem alteration_cases (alt : Alteration pg log) :
    (∀ r ∈ log.rows, alt.edit r = some r) ∨
      ∃ pre x post, log.rows = pre ++ x :: post ∧ (∀ r ∈ pre, alt.edit r = some r) ∧
        ((∃ x', alt.edit x = some x' ∧ x' ≠ x) ∨ alt.edit x = none) := by
  rcases all_or_first (fun r => alt.edit r = some r) log.rows with
    all | ⟨pre, x, post, shape, before, fails⟩
  · exact .inl all
  · refine .inr ⟨pre, x, post, shape, before, ?_⟩
    cases edit : alt.edit x with
    | none => exact .inr rfl
    | some x' => exact .inl ⟨x', rfl, fun same => fails (by rw [edit, same])⟩

include distinct in
/-- The first touched row has the least touched `seq`. -/
theorem isLeast_touched {pre post : List AuditRow} {x : AuditRow}
    (shape : log.rows = pre ++ x :: post) (before : ∀ r ∈ pre, alt.edit r = some r)
    (touched : alt.Touched x) : IsLeast alt.touchedSeqs x.seq := by
  refine ⟨⟨x, by simp [shape], touched, rfl⟩, ?_⟩
  rintro s ⟨r, mem, isTouched, rfl⟩
  rw [shape] at mem distinct
  rcases List.mem_append.mp mem with inPre | inRest
  · exact absurd (before r inPre) isTouched
  · rcases List.mem_cons.mp inRest with rfl | inPost
    · exact le_refl _
    · have := (List.pairwise_cons.mp (List.pairwise_append.mp distinct).2.1).1 r inPost
      omega

/-- The first surviving row at or after `a`, read off the listing. -/
theorem isLeast_surviving {pre rest : List AuditRow} {b : AuditRow} {a : Int}
    (shape : alt.survivors = pre ++ b :: rest) (below : ∀ r ∈ pre, r.seq < a)
    (above : a ≤ b.seq) : IsLeast {s | s ∈ alt.survivingSeqs ∧ a ≤ s} b.seq := by
  refine ⟨⟨⟨b, by simp [shape], rfl⟩, above⟩, ?_⟩
  rintro s ⟨⟨r, mem, rfl⟩, le⟩
  have order := alt.result.ordered
  change alt.survivors.Pairwise _ at order
  rw [shape] at mem order
  rcases List.mem_append.mp mem with inPre | inRest
  · have := below r inPre
    omega
  · rcases List.mem_cons.mp inRest with rfl | inRest
    · exact le_refl _
    · exact (List.pairwise_cons.mp (List.pairwise_append.mp order).2.1).1 r inRest

include nonneg in
/-- The verifier's answer when the surviving rows are a chain up to a row that
does not follow. -/
theorem verify_result_of_broken {pre rest : List AuditRow} {b : AuditRow}
    (shape : alt.survivors = pre ++ b :: rest)
    (linked : (scheme pg).Linked auditGenesisHash pre)
    (broken : ¬ (scheme pg).Follows ((scheme pg).tip auditGenesisHash pre) b) :
    (verifyAuditChain pg alt.result 0).chainOk = false ∧
      (verifyAuditChain pg alt.result 0).firstBadSeq = some b.seq := by
  have walk : verifyAuditChain pg alt.result 0 =
      walkChain pg auditGenesisHash 0 (pre ++ b :: rest) := by
    rw [← shape, ← chainRows_result alt nonneg]
    rfl
  rw [walk, walkChain_of_broken linked broken]
  exact ⟨rfl, rfl⟩

include nonneg distinct linked in
/-- A table in which no row was touched, or only a suffix deleted, verifies. -/
theorem verify_result_of_cut {pre : List AuditRow} {post : List AuditRow}
    (shape : log.rows = pre ++ post) (kept : ∀ r ∈ pre, alt.edit r = some r)
    (gone : ∀ r ∈ post, alt.edit r = none) :
    alt.CutsSuffix ∧ (verifyAuditChain pg alt.result 0).chainOk = true := by
  have left : alt.survivors = pre := by
    have none : post.filterMap alt.edit = [] := List.filterMap_eq_nil_iff.mpr gone
    rw [Alteration.survivors, shape, List.filterMap_append, filterMap_untouched kept, none,
      List.append_nil]
  refine ⟨?_, ?_⟩
  · -- cut at the first deleted row, or past the last one
    cases post with
    | nil =>
        rw [List.append_nil] at shape
        obtain ⟨k, above⟩ := exists_seq_above log.rows
        refine ⟨k, ?_⟩
        intro r mem
        rw [if_pos (above r mem)]
        exact kept r (shape ▸ mem)
    | cons x more =>
        refine ⟨x.seq, ?_⟩
        intro r mem
        rw [shape] at mem distinct
        obtain ⟨-, orderPost, across⟩ := List.pairwise_append.mp distinct
        rcases List.mem_append.mp mem with inPre | inPost
        · rw [if_pos (across r inPre x (by simp))]
          exact kept r inPre
        · have notBelow : ¬ r.seq < x.seq := by
            rcases List.mem_cons.mp inPost with rfl | later
            · omega
            · have := (List.pairwise_cons.mp orderPost).1 r later
              omega
          rw [if_neg notBelow]
          exact gone r inPost
  · rw [verifyAuditChain_zero_iff]
    change (scheme pg).Linked auditGenesisHash (chainRows alt.result)
    rw [chainRows_result alt nonneg, left]
    rw [shape, Kit.ChainScheme.linked_append] at linked
    exact linked.1

include linked in
/-- A changed row keeps its hash, which the new content does not have. -/
theorem broken_of_changed {pre post : List AuditRow} {x x' : AuditRow}
    (hash : CollisionFree pg {r | r ∈ log.rows ∨ r ∈ alt.survivors})
    (shape : log.rows = pre ++ x :: post) (edit : alt.edit x = some x') (ne : x' ≠ x) :
    ¬ (scheme pg).Follows ((scheme pg).tip auditGenesisHash pre) x' := by
  have mem : x ∈ log.rows := by simp [shape]
  have survives : x' ∈ alt.survivors := alt.mem_survivors.mpr ⟨x, mem, edit⟩
  obtain ⟨samePrev, sameHash⟩ := alt.keeps_hashes x mem x' edit
  have payload := (alt.changes_payload x mem x' edit).resolve_left ne
  -- the edit keeps both hashes, so the new row would be a second input of the old digest
  intro follows
  have digests : pg.sha256 (hashInput pg x') = pg.sha256 (hashInput pg x) := by
    have new : x'.rowHash = pg.sha256 (hashInput pg x') := follows.digest_eq
    have old : x.rowHash = pg.sha256 (hashInput pg x) := linked.digest_eq mem
    rw [← new, ← old, sameHash]
  have inputs : hashInput pg x' = hashInput pg x :=
    hash.injOn (Set.mem_image_of_mem _ (.inr survives)) (Set.mem_image_of_mem _ (.inl mem)) digests
  rw [hashInput, hashInput, samePrev] at inputs
  exact payload (List.append_cancel_right inputs)

include linked in
/-- A row whose predecessors were deleted points at a hash that is gone. -/
theorem broken_of_deleted {pre gone post : List AuditRow} {y y' : AuditRow}
    (hash : CollisionFree pg {r | r ∈ log.rows ∨ r ∈ alt.survivors})
    (shape : log.rows = (pre ++ gone) ++ y :: post) (nonempty : gone ≠ [])
    (edit : alt.edit y = some y') :
    ¬ (scheme pg).Follows ((scheme pg).tip auditGenesisHash pre) y' := by
  have mem : y ∈ log.rows := by simp [shape]
  have prefixLinked := linked
  rw [shape, Kit.ChainScheme.linked_append] at prefixLinked
  -- its stored hash is the tip after the deleted rows, which is no tip before them
  intro follows
  have stored : y'.prevHash = y.prevHash := (alt.keeps_hashes y mem y' edit).1
  have now : y'.prevHash = (scheme pg).tip auditGenesisHash pre := follows.1
  have before : y.prevHash = (scheme pg).tip auditGenesisHash (pre ++ gone) := prefixLinked.2.1.1
  exact hash.sound.tip_append_ne (fun r inside => .inl (by simp [shape]; simp at inside; tauto))
    prefixLinked.1 nonempty (by rw [← before, ← stored, now])

include distinct in
/-- After a suffix was cut off, no row follows a deleted one. -/
theorem not_cutsSuffix_of_survivor {pre gone post : List AuditRow} {x y y' : AuditRow}
    (shape : log.rows = pre ++ x :: (gone ++ y :: post)) (deleted : alt.edit x = none)
    (edit : alt.edit y = some y') : ¬ alt.CutsSuffix := by
  rintro ⟨k, cut⟩
  have cutX := cut x (by simp [shape])
  have cutY := cut y (by simp [shape])
  rw [shape] at distinct
  have before : x.seq < y.seq :=
    (List.pairwise_cons.mp (List.pairwise_append.mp distinct).2.1).1 y (by simp)
  rw [deleted] at cutX
  rw [edit] at cutY
  by_cases inside : x.seq < k
  · rw [if_pos inside] at cutX
    cases cutX
  · rw [if_neg (by omega)] at cutY
    cases cutY

/-- A suffix cut changes no row. -/
theorem not_cutsSuffix_of_changed {x x' : AuditRow} (mem : x ∈ log.rows)
    (edit : alt.edit x = some x') (ne : x' ≠ x) : ¬ alt.CutsSuffix := by
  rintro ⟨k, cut⟩
  have cutX := cut x mem
  rw [edit] at cutX
  split at cutX
  · exact ne (Option.some.inj cutX)
  · cases cutX

/-- The verifier refuses the altered table and names the first surviving row at or
after the first touched one. -/
def NamesFirst : Prop :=
  (verifyAuditChain pg alt.result 0).chainOk = false ∧
    ∃ a b : Int, IsLeast alt.touchedSeqs a ∧
      IsLeast {s | s ∈ alt.survivingSeqs ∧ a ≤ s} b ∧
      (verifyAuditChain pg alt.result 0).firstBadSeq = some b

include nonneg distinct linked in
/-- The first touched row was changed: it is the one that is named. -/
theorem namesFirst_of_changed {pre post : List AuditRow} {x x' : AuditRow}
    (hash : CollisionFree pg {r | r ∈ log.rows ∨ r ∈ alt.survivors})
    (shape : log.rows = pre ++ x :: post) (before : ∀ r ∈ pre, alt.edit r = some r)
    (edit : alt.edit x = some x') (ne : x' ≠ x) : NamesFirst alt := by
  have mem : x ∈ log.rows := by simp [shape]
  have left : alt.survivors = pre ++ x' :: post.filterMap alt.edit := by
    rw [Alteration.survivors, shape, List.filterMap_append, filterMap_untouched before,
      List.filterMap_cons_some edit]
  have linkedPre : (scheme pg).Linked auditGenesisHash pre := by
    rw [shape, Kit.ChainScheme.linked_append] at linked
    exact linked.1
  have sameSeq : x'.seq = x.seq := alt.keeps_seq x mem x' edit
  have touched : alt.Touched x := fun same => ne (Option.some.inj (edit.symm.trans same))
  have order := distinct
  rw [shape] at order
  have below : ∀ r ∈ pre, r.seq < x.seq :=
    fun r inside => (List.pairwise_append.mp order).2.2 r inside x (by simp)
  obtain ⟨refused, named⟩ := verify_result_of_broken alt nonneg left linkedPre
    (broken_of_changed alt linked hash shape edit ne)
  exact ⟨refused, x.seq, x'.seq, isLeast_touched alt distinct shape before touched,
    isLeast_surviving alt left below (le_of_eq sameSeq.symm), named⟩

include nonneg distinct linked in
/-- The first touched row was deleted: the next survivor is named. -/
theorem namesFirst_of_deleted {pre gone post : List AuditRow} {x y y' : AuditRow}
    (hash : CollisionFree pg {r | r ∈ log.rows ∨ r ∈ alt.survivors})
    (shape : log.rows = pre ++ x :: (gone ++ y :: post))
    (before : ∀ r ∈ pre, alt.edit r = some r) (deleted : alt.edit x = none)
    (between : ∀ r ∈ gone, alt.edit r = none) (edit : alt.edit y = some y') :
    NamesFirst alt := by
  have mem : y ∈ log.rows := by simp [shape]
  have left : alt.survivors = pre ++ y' :: post.filterMap alt.edit := by
    have none : gone.filterMap alt.edit = [] := List.filterMap_eq_nil_iff.mpr between
    rw [Alteration.survivors, shape, List.filterMap_append, filterMap_untouched before,
      List.filterMap_cons_none deleted, List.filterMap_append, none, List.nil_append,
      List.filterMap_cons_some edit]
  have linkedPre : (scheme pg).Linked auditGenesisHash pre := by
    rw [shape, Kit.ChainScheme.linked_append] at linked
    exact linked.1
  have touched : alt.Touched x := by
    intro same
    rw [deleted] at same
    cases same
  have order := distinct
  rw [shape] at order
  obtain ⟨-, orderRest, across⟩ := List.pairwise_append.mp order
  have below : ∀ r ∈ pre, r.seq < x.seq := fun r inside => across r inside x (by simp)
  have above : x.seq ≤ y'.seq := by
    have := (List.pairwise_cons.mp orderRest).1 y (by simp)
    rw [alt.keeps_seq y mem y' edit]
    omega
  have regroup : log.rows = (pre ++ x :: gone) ++ y :: post := by simp [shape]
  obtain ⟨refused, named⟩ := verify_result_of_broken alt nonneg left linkedPre
    (broken_of_deleted alt linked hash regroup (by simp) edit)
  exact ⟨refused, x.seq, y'.seq, isLeast_touched alt distinct shape before touched,
    isLeast_surviving alt left below above, named⟩

include nonneg distinct linked in
/-- Either nothing but a suffix is gone and the table verifies, or the damage is
named. -/
theorem cut_or_named (hash : CollisionFree pg {r | r ∈ log.rows ∨ r ∈ alt.survivors}) :
    (alt.CutsSuffix ∧ (verifyAuditChain pg alt.result 0).chainOk = true) ∨
      (¬ alt.CutsSuffix ∧ NamesFirst alt) := by
  rcases alteration_cases alt with
    all | ⟨pre, x, post, shape, before, ⟨x', edit, ne⟩ | deleted⟩
  · exact .inl (@verify_result_of_cut pg log alt nonneg distinct linked log.rows []
      (List.append_nil _).symm all (by simp))
  · exact .inr ⟨not_cutsSuffix_of_changed alt (by simp [shape]) edit ne,
      namesFirst_of_changed alt nonneg distinct linked hash shape before edit ne⟩
  · -- what follows the deleted row: nothing, or a first survivor
    rcases all_or_first (fun r => alt.edit r = none) post with
      gone | ⟨gone, y, rest, rfl, between, survives⟩
    · refine .inl (verify_result_of_cut alt nonneg distinct linked shape before ?_)
      intro r mem
      rcases List.mem_cons.mp mem with rfl | inPost
      · exact deleted
      · exact gone r inPost
    · obtain ⟨y', edit⟩ := Option.ne_none_iff_exists'.mp survives
      exact .inr ⟨not_cutsSuffix_of_survivor alt distinct shape deleted edit,
        namesFirst_of_deleted alt nonneg distinct linked hash shape before deleted between edit⟩

end Altered

/-- **Tampering without rehashing is named.** A table that verified and was then
altered by hand verifies again iff only a suffix of it is gone; otherwise the
verifier refuses it at the smallest surviving `seq` that is not below the smallest
altered one. -/
theorem verify_altered (pg : Postgres) (log : AuditLog) (alt : Alteration pg log)
    (nonneg : ∀ r ∈ log.rows, 0 ≤ r.seq)
    (distinct : log.rows.Pairwise fun a b => a.seq < b.seq)
    (ok : (verifyAuditChain pg log 0).chainOk = true)
    (hash : CollisionFree pg {r | r ∈ log.rows ∨ r ∈ alt.survivors}) :
    ((verifyAuditChain pg alt.result 0).chainOk = true ↔ alt.CutsSuffix) ∧
      (¬ alt.CutsSuffix →
        (verifyAuditChain pg alt.result 0).chainOk = false ∧
        ∃ a b : Int, IsLeast alt.touchedSeqs a ∧
          IsLeast {s | s ∈ alt.survivingSeqs ∧ a ≤ s} b ∧
          (verifyAuditChain pg alt.result 0).firstBadSeq = some b) := by
  have linked : (scheme pg).Linked auditGenesisHash log.rows := by
    have walked := (verifyAuditChain_zero_iff pg log).mp ok
    rwa [List.filter_eq_self.mpr (by simpa using nonneg)] at walked
  rcases cut_or_named alt nonneg distinct linked hash with ⟨cut, verifies⟩ | ⟨notCut, named⟩
  · exact ⟨⟨fun _ => cut, fun _ => verifies⟩, fun notCut => absurd cut notCut⟩
  · refine ⟨⟨fun verifies => ?_, fun cut => absurd cut notCut⟩, fun _ => named⟩
    rw [named.1] at verifies
    cases verifies

/-- The first of the two rows deleted. -/
def sampleDeletion : Alteration samplePostgres sampleLog where
  edit := fun r => if r.seq = 1 then none else some r
  keeps_seq := by
    intro r _ r' edit
    split at edit <;> simp_all
  keeps_hashes := by
    intro r _ r' edit
    split at edit <;> simp_all
  changes_payload := by
    intro r _ r' edit
    split at edit <;> simp_all

theorem verify_deletion :
    ¬ sampleDeletion.CutsSuffix ∧
      (verifyAuditChain samplePostgres sampleDeletion.result 0).chainOk = false := by
  have hash : CollisionFree samplePostgres
      {r | r ∈ sampleLog.rows ∨ r ∈ sampleDeletion.survivors} := by
    refine collisionFree_of_nodup sampleLog.rows Kit.Sha256.sha256_length
      ?_ (by decide +kernel)
    rintro r (mem | mem)
    · exact mem
    · exact List.mem_of_mem_tail mem
  have altered := verify_altered samplePostgres sampleLog sampleDeletion
    (by decide +kernel) (by decide +kernel) (by decide +kernel) hash
  have refused : (verifyAuditChain samplePostgres sampleDeletion.result 0).chainOk = false := by
    decide +kernel
  have notCut : ¬ sampleDeletion.CutsSuffix := by
    rw [← altered.1, refused]
    decide
  exact ⟨notCut, (altered.2 notCut).1⟩

end DoorsControl.Audit
