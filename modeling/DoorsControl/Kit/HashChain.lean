import Mathlib.Data.List.Induction
import Mathlib.Data.Set.Function

/-!
# Hash chains over arbitrary records

A record stores the digest of the record before it (`prev`) and its own digest
(`digest`), which is the hash of its content mixed with the previous digest.
`Linked g rows` says that `rows`, in order, form such a chain from the starting
digest `g`; `tip g rows` is the digest the next record has to store.

* **composition** — `linked_append`, `tip_append`: a chain is cut and joined at
  any record;
* **the tip determines the contents** — `contents_eq_of_tip_eq`: two chains from
  one start with one tip carry the same contents, record by record;
* **no digest returns** — `tip_append_ne`: going on along a chain never leads
  back to an earlier tip.

The hash is never assumed injective on all inputs: no function into digests of a
fixed length is. `Sound` asks it of the inputs of the records at hand only.
-/

namespace DoorsControl.Kit

/-- How records of type `ρ` with contents in `μ` are chained by digests in `δ`:
what a record stores, and how the hash input `ι` is put together. -/
structure ChainScheme (ρ μ δ ι : Type*) where
  content : ρ → μ
  prev : ρ → δ
  digest : ρ → δ
  mix : μ → δ → ι
  hash : ι → δ

namespace ChainScheme

variable {ρ μ δ ι : Type*} (S : ChainScheme ρ μ δ ι)

/-- A record that may follow the digest `g`: it stores `g`, and its own digest
covers its content and `g`. -/
def Follows (g : δ) (r : ρ) : Prop :=
  S.prev r = g ∧ S.digest r = S.hash (S.mix (S.content r) g)

/-- The records form a chain that starts at `g`. -/
def Linked : δ → List ρ → Prop
  | _, [] => True
  | g, r :: rest => S.Follows g r ∧ Linked (S.digest r) rest

/-- The digest a record appended to the chain has to store. -/
def tip : δ → List ρ → δ
  | g, [] => g
  | _, r :: rest => tip (S.digest r) rest

@[simp] theorem linked_nil (g : δ) : S.Linked g [] := trivial

@[simp] theorem linked_cons (g : δ) (r : ρ) (rest : List ρ) :
    S.Linked g (r :: rest) ↔ S.Follows g r ∧ S.Linked (S.digest r) rest := Iff.rfl

@[simp] theorem tip_nil (g : δ) : S.tip g [] = g := rfl

@[simp] theorem tip_cons (g : δ) (r : ρ) (rest : List ρ) :
    S.tip g (r :: rest) = S.tip (S.digest r) rest := rfl

theorem tip_append (g : δ) (xs ys : List ρ) :
    S.tip g (xs ++ ys) = S.tip (S.tip g xs) ys := by
  induction xs generalizing g with
  | nil => rfl
  | cons r rest ih => exact ih (S.digest r)

theorem linked_append (g : δ) (xs ys : List ρ) :
    S.Linked g (xs ++ ys) ↔ S.Linked g xs ∧ S.Linked (S.tip g xs) ys := by
  induction xs generalizing g with
  | nil => simp
  | cons r rest ih => simp [ih, and_assoc]

theorem tip_concat (g : δ) (xs : List ρ) (r : ρ) :
    S.tip g (xs ++ [r]) = S.digest r := by
  simp [tip_append]

theorem linked_concat (g : δ) (xs : List ρ) (r : ρ) :
    S.Linked g (xs ++ [r]) ↔ S.Linked g xs ∧ S.Follows (S.tip g xs) r := by
  simp [linked_append]

/-- What a record's digest is computed from when its link is right. -/
def input (r : ρ) : ι := S.mix (S.content r) (S.prev r)

theorem Follows.digest_eq {S : ChainScheme ρ μ δ ι} {g : δ} {r : ρ} (h : S.Follows g r) :
    S.digest r = S.hash (S.input r) := by
  rw [input, h.1, h.2]

/-- Every digest of a chain is a hash of that record's input. -/
theorem Linked.digest_eq {S : ChainScheme ρ μ δ ι} {g : δ} {rows : List ρ}
    (h : S.Linked g rows) {r : ρ} (mem : r ∈ rows) :
    S.digest r = S.hash (S.input r) := by
  induction rows generalizing g with
  | nil => simp at mem
  | cons head rest ih =>
      rcases List.mem_cons.mp mem with rfl | mem
      · exact h.1.digest_eq
      · exact ih h.2 mem

/-- A non-empty chain says where it starts. -/
theorem Linked.start_unique {S : ChainScheme ρ μ δ ι} {g g' : δ} {rows : List ρ}
    (h : S.Linked g rows) (h' : S.Linked g' rows) (nonempty : rows ≠ []) : g = g' := by
  obtain ⟨r, rest, rfl⟩ := List.exists_cons_of_ne_nil nonempty
  rw [← h.1.1, ← h'.1.1]

/-- A chain in which no record hashes to the starting digest does not end there. -/
theorem Linked.tip_ne_start {S : ChainScheme ρ μ δ ι} {g : δ} {rows : List ρ}
    (h : S.Linked g rows) (nonempty : rows ≠ [])
    (ne : ∀ r ∈ rows, S.hash (S.input r) ≠ g) : S.tip g rows ≠ g := by
  obtain ⟨init, r, rfl⟩ := (List.eq_nil_or_concat rows).resolve_left nonempty
  rw [List.concat_eq_append] at h ne ⊢
  rw [tip_concat, ((S.linked_concat ..).mp h).2.digest_eq]
  exact ne r (by simp)

/-- What is asked of the hash on the inputs of a set of records: no two of them
collide, none hashes to the starting digest `g`, and content and digest can be
told apart in the mixed input when the digests are well-formed. -/
structure Sound (g : δ) (valid : δ → Prop) (records : Set ρ) : Prop where
  valid_start : valid g
  valid_hash : ∀ x, valid (S.hash x)
  mix_inj : ∀ c c' d d', valid d → valid d' → S.mix c d = S.mix c' d' → c = c' ∧ d = d'
  inj : Set.InjOn S.hash (S.input '' records)
  ne_start : ∀ r ∈ records, S.hash (S.input r) ≠ g

variable {S} {g : δ} {valid : δ → Prop} {records : Set ρ}

theorem Sound.valid_tip (h : S.Sound g valid records) {rows : List ρ}
    (linked : S.Linked g rows) : valid (S.tip g rows) := by
  rcases List.eq_nil_or_concat rows with rfl | ⟨init, r, rfl⟩
  · exact h.valid_start
  · rw [List.concat_eq_append, linked_concat] at linked
    rw [List.concat_eq_append, tip_concat, linked.2.digest_eq]
    exact h.valid_hash _

/-- Two records with one digest, each at the end of a chain from `g`: they have
the same content and the chains before them end in the same tip. -/
theorem Sound.concat_inj (h : S.Sound g valid records) {xs ys : List ρ} {a b : ρ}
    (ha : a ∈ records) (hb : b ∈ records)
    (hx : S.Linked g (xs ++ [a])) (hy : S.Linked g (ys ++ [b]))
    (same : S.digest a = S.digest b) :
    S.content a = S.content b ∧ S.tip g xs = S.tip g ys := by
  rw [linked_concat] at hx hy
  have inputs : S.input a = S.input b := by
    apply h.inj (Set.mem_image_of_mem _ ha) (Set.mem_image_of_mem _ hb)
    rw [← hx.2.digest_eq, ← hy.2.digest_eq, same]
  rw [input, input, hx.2.1, hy.2.1] at inputs
  exact h.mix_inj _ _ _ _ (h.valid_tip hx.1) (h.valid_tip hy.1) inputs

/-- **The tip determines the contents.** Two chains from the same start that end
in the same digest have the same contents, one by one. -/
theorem Sound.contents_eq_of_tip_eq (h : S.Sound g valid records) {xs ys : List ρ}
    (inx : ∀ r ∈ xs, r ∈ records) (iny : ∀ r ∈ ys, r ∈ records)
    (hx : S.Linked g xs) (hy : S.Linked g ys) (same : S.tip g xs = S.tip g ys) :
    xs.map S.content = ys.map S.content := by
  -- backwards from the common tip; the shorter chain must not run out first
  induction xs using List.reverseRecOn generalizing ys with
  | nil =>
      rcases List.eq_nil_or_concat ys with rfl | ⟨init, b, rfl⟩
      · rfl
      · rw [List.concat_eq_append] at hy iny same
        exact absurd same.symm (hy.tip_ne_start (by simp) fun r mem => h.ne_start r (iny r mem))
  | append_singleton init a ih =>
      rcases List.eq_nil_or_concat ys with rfl | ⟨init', b, rfl⟩
      · exact absurd same (hx.tip_ne_start (by simp) fun r mem => h.ne_start r (inx r mem))
      · rw [List.concat_eq_append] at hy iny same ⊢
        rw [tip_concat, tip_concat] at same
        obtain ⟨contents, tips⟩ :=
          h.concat_inj (inx a (by simp)) (iny b (by simp)) hx hy same
        have before := ih (fun r mem => inx r (by simp [mem]))
          (fun r mem => iny r (by simp [mem]))
          ((S.linked_concat ..).mp hx).1 ((S.linked_concat ..).mp hy).1 tips
        simp [before, contents]

/-- Going on along a chain never leads back to an earlier tip. -/
theorem Sound.tip_append_ne (h : S.Sound g valid records) {pre mid : List ρ}
    (inside : ∀ r ∈ pre ++ mid, r ∈ records) (linked : S.Linked g (pre ++ mid))
    (nonempty : mid ≠ []) : S.tip g (pre ++ mid) ≠ S.tip g pre := by
  intro same
  have contents := h.contents_eq_of_tip_eq inside
    (fun r mem => inside r (by simp [mem])) linked ((S.linked_append ..).mp linked).1 same
  have lengths := congrArg List.length contents
  simp at lengths
  exact nonempty lengths

end ChainScheme

end DoorsControl.Kit
