import Mathlib.Data.List.Basic

/-!
# When two encoders can write the same text

Two sides write the same message symbol by symbol, each with its own code, and end
it with a stop symbol. If the codes agree on single symbols, equal texts come from
equal messages, and what follows them is equal too.

* `agree_of_prefix` — how to check that two codes agree;
* `Agree.flatMap_stop` — messages ended by a stop symbol;
* `span_unique` — runs of characters of one class, ended by any other character.
-/

namespace DoorsControl.Kit

variable {α β : Type*}

/-- No word of the first code begins like a word of the second one, unless both
are the words of one symbol and the same. -/
def Agree (enc enc' : α → List β) : Prop :=
  ∀ a b u v, enc a ++ u = enc' b ++ v → a = b ∧ u = v

/-- It is enough to compare words of which one begins with the other. -/
theorem agree_of_prefix {enc enc' : α → List β}
    (h : ∀ a b, (enc a <+: enc' b ∨ enc' b <+: enc a) → a = b ∧ enc a = enc' b) :
    Agree enc enc' := by
  intro a b u v same
  have left : enc a <+: enc' b ++ v := ⟨u, same⟩
  have right : enc' b <+: enc' b ++ v := List.prefix_append _ _
  obtain ⟨symbols, words⟩ := h a b (List.prefix_or_prefix_of_prefix left right)
  rw [words] at same
  exact ⟨symbols, List.append_cancel_left same⟩

/-- Every word is non-empty and begins with something else than `stop`. -/
def Avoids (enc : α → List β) (stop : β) : Prop :=
  ∀ a, ∃ c rest, enc a = c :: rest ∧ c ≠ stop

theorem Avoids.ne_stop {enc : α → List β} {stop : β} (h : Avoids enc stop) (a : α)
    (u v : List β) : enc a ++ u ≠ stop :: v := by
  obtain ⟨c, rest, shape, ne⟩ := h a
  rw [shape, List.cons_append]
  intro same
  exact ne (List.cons.inj same).1

/-- Two stopped messages with one text are one message. -/
theorem Agree.flatMap_stop {enc enc' : α → List β} {stop : β} (agree : Agree enc enc')
    (avoids : Avoids enc stop) (avoids' : Avoids enc' stop) {xs ys : List α} {r r' : List β}
    (h : xs.flatMap enc ++ stop :: r = ys.flatMap enc' ++ stop :: r') : xs = ys ∧ r = r' := by
  induction xs generalizing ys with
  | nil =>
      cases ys with
      | nil => exact ⟨rfl, (List.cons.inj h).2⟩
      | cons y ys =>
          rw [List.flatMap_cons, List.append_assoc] at h
          exact absurd h.symm (avoids'.ne_stop y _ _)
  | cons x xs ih =>
      cases ys with
      | nil =>
          rw [List.flatMap_cons, List.append_assoc] at h
          exact absurd h (avoids.ne_stop x _ _)
      | cons y ys =>
          rw [List.flatMap_cons, List.flatMap_cons, List.append_assoc, List.append_assoc] at h
          obtain ⟨rfl, rest⟩ := agree x y _ _ h
          obtain ⟨rfl, after⟩ := ih rest
          exact ⟨rfl, after⟩

/-- A text splits in one way into characters of a class and a first other one. -/
theorem span_unique {p : β → Bool} {xs ys r r' : List β} {a b : β}
    (inX : ∀ c ∈ xs, p c = true) (inY : ∀ c ∈ ys, p c = true)
    (notA : p a = false) (notB : p b = false) (h : xs ++ a :: r = ys ++ b :: r') :
    xs = ys ∧ a = b ∧ r = r' := by
  induction xs generalizing ys with
  | nil =>
      cases ys with
      | nil =>
          obtain ⟨rfl, rfl⟩ := List.cons.inj h
          exact ⟨rfl, rfl, rfl⟩
      | cons y ys =>
          obtain ⟨rfl, -⟩ := List.cons.inj h
          rw [inY a (by simp)] at notA
          cases notA
  | cons x xs ih =>
      cases ys with
      | nil =>
          obtain ⟨rfl, -⟩ := List.cons.inj h
          rw [inX x (by simp)] at notB
          cases notB
      | cons y ys =>
          obtain ⟨rfl, rest⟩ := List.cons.inj h
          obtain ⟨rfl, same⟩ := ih (fun c mem => inX c (by simp [mem]))
            (fun c mem => inY c (by simp [mem])) rest
          exact ⟨rfl, same⟩

end DoorsControl.Kit
