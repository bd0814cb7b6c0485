import Mathlib.Data.Option.Basic

/-!
# State machines and their runs

A machine is a function that takes an action or does not; a run is guarded by a condition on the
state and the action.

* `Reaches.invariant` — what holds at the start and is kept by every guarded step;
* `reaches_of_schedule` — a schedule that was run.
-/

namespace DoorsControl.Kit

variable {σ α : Type}

/-- The states that guarded steps reach. -/
inductive Reaches (step : σ → α → Option σ) (ok : σ → α → Bool) (start : σ) : σ → Prop
  | start : Reaches step ok start start
  | next {s s' : σ} {a : α} : Reaches step ok start s → ok s a = true → step s a = some s' →
      Reaches step ok start s'

variable {step : σ → α → Option σ} {ok : σ → α → Bool} {start s : σ}

/-- What holds at the start and is kept by every guarded step holds throughout. -/
theorem Reaches.invariant (Inv : σ → Prop) (initial : Inv start)
    (keep : ∀ s a s', Reaches step ok start s → Inv s → ok s a = true → step s a = some s' → Inv s')
    (h : Reaches step ok start s) : Inv s := by
  induction h with
  | start => exact initial
  | next reached allowed stepped ih => exact keep _ _ _ reached ih allowed stepped

/-- A schedule, if every step of it can be taken and passes the guard. -/
def schedule (step : σ → α → Option σ) (ok : σ → α → Bool) (s : σ) : List α → Option σ
  | [] => some s
  | a :: rest => if ok s a then (step s a).bind fun s' => schedule step ok s' rest else none

theorem reaches_of_schedule {actions : List α} {last : σ}
    (ran : schedule step ok s actions = some last) (reached : Reaches step ok start s) :
    Reaches step ok start last := by
  induction actions generalizing s with
  | nil =>
      obtain rfl := Option.some.inj ran
      exact reached
  | cons a rest ih =>
      rw [schedule] at ran
      split at ran
      · rename_i allowed
        obtain ⟨s', stepped, more⟩ := Option.bind_eq_some_iff.mp ran
        exact ih more (reached.next allowed stepped)
      · cases ran

end DoorsControl.Kit
