import Mathlib.Data.List.Basic
import Mathlib.Data.List.Induction

/-!
# Fields joined by a separator

What a record that is written as `f₁ c f₂ c .. c fₙ` can be read back as, if nothing escapes the
separator in a field. A field without the separator is *clean*.

* `front_inj`, `back_inj` — a clean field at either end can be cut off;
* `intercalate_front_inj`, `intercalate_back_inj` — so can any number of them;
* `intercalate_around_inj` — **one field may be anything**, if all others are clean.
-/

namespace DoorsControl.Kit

variable {α : Type*} {c : α}

/-- What stands before the first separator. -/
theorem front_inj {x x' y y' : List α} (clean : c ∉ x) (clean' : c ∉ x')
    (same : x ++ c :: y = x' ++ c :: y') : x = x' ∧ y = y' := by
  induction x generalizing x' with
  | nil =>
      cases x' with
      | nil => exact ⟨rfl, (List.cons.inj same).2⟩
      | cons a rest =>
          rw [← (List.cons.inj same).1] at clean'
          exact absurd List.mem_cons_self clean'
  | cons a rest ih =>
      cases x' with
      | nil =>
          rw [(List.cons.inj same).1] at clean
          exact absurd List.mem_cons_self clean
      | cons a' rest' =>
          obtain ⟨head, tail⟩ := List.cons.inj same
          obtain ⟨front, back⟩ := ih (List.not_mem_of_not_mem_cons clean)
            (List.not_mem_of_not_mem_cons clean') tail
          exact ⟨by rw [head, front], back⟩

/-- What stands behind the last separator. -/
theorem back_inj {x x' y y' : List α} (clean : c ∉ y) (clean' : c ∉ y')
    (same : x ++ c :: y = x' ++ c :: y') : x = x' ∧ y = y' := by
  have reversed : y.reverse ++ c :: x.reverse = y'.reverse ++ c :: x'.reverse := by
    simpa using congrArg List.reverse same
  obtain ⟨back, front⟩ := front_inj (by simpa using clean) (by simpa using clean') reversed
  exact ⟨List.reverse_injective front, List.reverse_injective back⟩

theorem intercalate_cons (x : List α) {fields : List (List α)} (more : fields ≠ []) :
    List.intercalate [c] (x :: fields) = x ++ c :: List.intercalate [c] fields := by
  rw [List.intercalate_cons_of_ne_nil more, List.append_assoc, List.singleton_append]

theorem intercalate_concat {fields : List (List α)} (more : fields ≠ []) (y : List α) :
    List.intercalate [c] (fields ++ [y]) = List.intercalate [c] fields ++ c :: y := by
  induction fields with
  | nil => exact absurd rfl more
  | cons x rest ih =>
      by_cases last : rest = []
      · subst last
        rw [List.singleton_append, intercalate_cons x (List.cons_ne_nil y []),
          List.intercalate_singleton, List.intercalate_singleton]
      · rw [List.cons_append, intercalate_cons x (List.append_ne_nil_of_left_ne_nil last _),
          ih last, intercalate_cons x last, List.append_assoc, List.cons_append]

/-- Clean fields in front. -/
theorem intercalate_front_inj {xs xs' rest rest' : List (List α)} (length : xs.length = xs'.length)
    (clean : ∀ x ∈ xs, c ∉ x) (clean' : ∀ x ∈ xs', c ∉ x) (more : rest ≠ []) (more' : rest' ≠ [])
    (same : List.intercalate [c] (xs ++ rest) = List.intercalate [c] (xs' ++ rest')) :
    xs = xs' ∧ List.intercalate [c] rest = List.intercalate [c] rest' := by
  induction xs generalizing xs' with
  | nil =>
      obtain rfl := List.length_eq_zero_iff.mp length.symm
      exact ⟨rfl, same⟩
  | cons x xs ih =>
      cases xs' with
      | nil => cases length
      | cons x' xs' =>
          rw [List.cons_append, List.cons_append,
            intercalate_cons x (List.append_ne_nil_of_right_ne_nil xs more),
            intercalate_cons x' (List.append_ne_nil_of_right_ne_nil xs' more')] at same
          obtain ⟨head, tail⟩ := front_inj (clean x List.mem_cons_self)
            (clean' x' List.mem_cons_self) same
          obtain ⟨front, back⟩ := ih (Nat.succ.inj length)
            (fun y mem => clean y (List.mem_cons_of_mem _ mem))
            (fun y mem => clean' y (List.mem_cons_of_mem _ mem)) tail
          exact ⟨by rw [head, front], back⟩

/-- Clean fields at the end, behind one that may be anything. -/
theorem intercalate_back_inj {free free' : List α} {ys ys' : List (List α)}
    (length : ys.length = ys'.length) (clean : ∀ y ∈ ys, c ∉ y) (clean' : ∀ y ∈ ys', c ∉ y)
    (same : List.intercalate [c] (free :: ys) = List.intercalate [c] (free' :: ys')) :
    free = free' ∧ ys = ys' := by
  induction ys using List.reverseRecOn generalizing ys' with
  | nil =>
      obtain rfl := List.length_eq_zero_iff.mp length.symm
      rw [List.intercalate_singleton, List.intercalate_singleton] at same
      exact ⟨same, rfl⟩
  | append_singleton ys y ih =>
      rcases List.eq_nil_or_concat ys' with rfl | ⟨ys', y', rfl⟩
      · rw [List.length_append] at length
        cases length
      · rw [List.concat_eq_append] at length clean' same ⊢
        rw [← List.cons_append, ← List.cons_append, intercalate_concat (List.cons_ne_nil free ys),
          intercalate_concat (List.cons_ne_nil free' ys')] at same
        obtain ⟨front, last⟩ := back_inj (clean y (by simp)) (clean' y' (by simp)) same
        obtain ⟨first, middle⟩ := ih (by simpa using length)
          (fun x mem => clean x (List.mem_append_left _ mem))
          (fun x mem => clean' x (List.mem_append_left _ mem)) front
        exact ⟨first, by rw [middle, last]⟩

/-- **One field may be anything**, the separator included, if those around it are clean. -/
theorem intercalate_around_inj {xs xs' ys ys' : List (List α)} {free free' : List α}
    (before : xs.length = xs'.length) (after : ys.length = ys'.length)
    (clean : ∀ x ∈ xs ++ ys, c ∉ x) (clean' : ∀ x ∈ xs' ++ ys', c ∉ x)
    (same : List.intercalate [c] (xs ++ free :: ys) = List.intercalate [c] (xs' ++ free' :: ys')) :
    xs = xs' ∧ free = free' ∧ ys = ys' := by
  obtain ⟨front, rest⟩ := intercalate_front_inj before
    (fun x mem => clean x (List.mem_append_left _ mem))
    (fun x mem => clean' x (List.mem_append_left _ mem))
    (List.cons_ne_nil free ys) (List.cons_ne_nil free' ys') same
  exact ⟨front, intercalate_back_inj after (fun y mem => clean y (List.mem_append_right _ mem))
    (fun y mem => clean' y (List.mem_append_right _ mem)) rest⟩

end DoorsControl.Kit
