import Mathlib.Data.List.Basic
import Mathlib.Data.List.GetD

/-!
# Rings that keep the last values

A buffer of fixed size and the position that is overwritten next. After any number of
pushes it holds the most recent values, one for each slot, and blanks where there were
fewer pushes than slots.

* `Holds` — the buffer against the list of everything that was pushed;
* `Holds.push` — one more value;
* `Holds.exists_slot_iff` — what can be found in the buffer.
-/

namespace DoorsControl.Kit.Ring

variable {n : Nat} {α : Type*}

/-- How many values were pushed after the one in slot `i`. -/
def age (next i : Fin n) : Nat := if i < next then next - 1 - i else next + n - 1 - i

/-- Slot by slot, the values of `pushed`, which lists the most recent one first. -/
def Holds (blank : α) (slots : Fin n → α) (next : Fin n) (pushed : List α) : Prop :=
  ∀ i, slots i = pushed.getD (age next i) blank

theorem age_lt (next i : Fin n) : age next i < n := by
  unfold age
  split <;> omega

/-- Every age up to the size of the buffer is that of some slot. -/
theorem exists_age (next : Fin n) {k : Nat} (small : k < n) : ∃ i, age next i = k := by
  by_cases wraps : k < next
  · refine ⟨⟨next - 1 - k, by omega⟩, ?_⟩
    unfold age
    rw [if_pos (Fin.lt_def.mpr (by simp only; omega))]
    simp only
    omega
  · refine ⟨⟨next + n - 1 - k, by omega⟩, ?_⟩
    unfold age
    rw [if_neg (by rw [Fin.lt_def]; simp only; omega)]
    simp only
    omega

theorem holds_blank (blank : α) (next : Fin n) : Holds blank (fun _ => blank) next [] := by
  intro i
  rfl

/-- The slot that is overwritten is new, and every other value is one push older. -/
theorem Holds.push {blank a : α} {slots : Fin n → α} {next next' : Fin n} {pushed : List α}
    (holds : Holds blank slots next pushed) (advance : next'.val = (next.val + 1) % n) :
    Holds blank (fun i => if i = next then a else slots i) next' (a :: pushed) := by
  have bound := next.isLt
  have moved : next'.val = 0 ∧ next.val + 1 = n ∨ next'.val = next.val + 1 := by
    by_cases last : next.val + 1 = n
    · rw [last, Nat.mod_self] at advance
      exact .inl ⟨advance, last⟩
    · rw [Nat.mod_eq_of_lt (by omega)] at advance
      exact .inr advance
  intro i
  by_cases overwritten : i = next
  · have newest : age next' i = 0 := by
      subst overwritten
      unfold age
      simp only [Fin.lt_def]
      split <;> omega
    show (if i = next then a else slots i) = _
    rw [newest, if_pos overwritten]
    rfl
  · have distinct : i.val ≠ next.val := fun same => overwritten (Fin.ext same)
    have older : age next' i = age next i + 1 := by
      unfold age
      simp only [Fin.lt_def]
      split <;> split <;> omega
    simp [older, overwritten, holds i]

/-- The buffer has the last `n` values, and a blank as long as there were fewer. -/
theorem Holds.exists_slot_iff {blank : α} {slots : Fin n → α} {next : Fin n} {pushed : List α}
    (holds : Holds blank slots next pushed) {a : α} (filled : a ≠ blank) :
    (∃ i, slots i = a) ↔ a ∈ pushed.take n := by
  rw [List.mem_take_iff_getElem]
  constructor
  · rintro ⟨i, rfl⟩
    rw [holds i] at filled ⊢
    have present : age next i < pushed.length := by
      by_contra beyond
      exact filled (List.getD_eq_default _ _ (by omega))
    exact ⟨age next i, by have := age_lt next i; omega, (List.getD_eq_getElem _ _ present).symm⟩
  · rintro ⟨k, small, rfl⟩
    obtain ⟨i, rfl⟩ := exists_age next (Nat.lt_of_lt_of_le small (Nat.min_le_left _ _))
    exact ⟨i, by rw [holds i, List.getD_eq_getElem _ _ (by omega)]⟩

end DoorsControl.Kit.Ring
