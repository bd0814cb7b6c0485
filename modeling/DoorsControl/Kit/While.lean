/-!
# Loops

Programs that may raise, and may go on for ever. A loop is given a number of turns, and if it is
not at its end by then there is nothing (`none`).

* `Advances` — what one turn has to do;
* `whileLoop_eq` — **a loop comes to what it is meant to**, if each turn is a step on the way and
  something gets less;
* `Ends` — it comes to an end, and what it returns has a property;
* `whileLoop_ends` — **a loop ends** if each turn does and something gets less.
-/

namespace DoorsControl.Kit

variable {ε σ α β : Type}

/-- It raises, it returns, or it does not come to an end. -/
abbrev Loops (ε : Type) := ExceptT ε Option

/-- What a turn is followed by. -/
inductive Turn (σ α : Type) where
  | again (state : σ)
  | leave (result : α)

/-- `while`, for so many turns at most. -/
def whileLoop (turn : σ → Loops ε (Turn σ α)) : Nat → σ → Loops ε α
  | 0, _ => ExceptT.mk none
  | turns + 1, state => do
      match ← turn state with
      | .again next => whileLoop turn turns next
      | .leave result => return result

/-- An end. -/
def ended (result : Except ε α) : Loops ε α := ExceptT.mk (some result)

theorem ended_ok_bind (a : α) (f : α → Loops ε β) : (ended (.ok a) >>= f) = f a := rfl

theorem ended_error_bind (e : ε) (f : α → Loops ε β) :
    (ended (.error e) >>= f) = ended (.error e) := rfl

/-- A turn that goes on. -/
theorem whileLoop_again {turn : σ → Loops ε (Turn σ α)} {turns : Nat} {state next : σ}
    (ran : turn state = ended (.ok (.again next))) :
    whileLoop turn (turns + 1) state = whileLoop turn turns next := by
  rw [whileLoop, ran, ended_ok_bind]

/-- A turn that leaves. -/
theorem whileLoop_leave {turn : σ → Loops ε (Turn σ α)} {turns : Nat} {state : σ} {result : α}
    (ran : turn state = ended (.ok (.leave result))) :
    whileLoop turn (turns + 1) state = ended (.ok result) := by
  rw [whileLoop, ran, ended_ok_bind]
  rfl

/-- A turn is a step towards what the loop is meant to come to: it raises that, or leaves with it,
or goes on from a state that is nearer to the end and is meant to come to the same. -/
inductive Advances (turn : σ → Loops ε (Turn σ α)) (meant : σ → Except ε α) (inv : σ → Prop)
    (measure : σ → Nat) (state : σ) : Prop
  | raises {e : ε} (ran : turn state = ended (.error e)) (same : meant state = .error e)
  | leaves {result : α} (ran : turn state = ended (.ok (.leave result)))
      (same : meant state = .ok result)
  | goesOn {next : σ} (ran : turn state = ended (.ok (.again next))) (kept : inv next)
      (nearer : measure next < measure state) (same : meant state = meant next)

/-- **A loop comes to what it is meant to**, given more turns than the measure. -/
theorem whileLoop_eq {turn : σ → Loops ε (Turn σ α)} {meant : σ → Except ε α} {inv : σ → Prop}
    {measure : σ → Nat} (advances : ∀ state, inv state → Advances turn meant inv measure state)
    {turns : Nat} {state : σ} (holds : inv state) (enough : measure state < turns) :
    whileLoop turn turns state = ended (meant state) := by
  induction turns generalizing state with
  | zero => exact absurd enough (Nat.not_lt_zero _)
  | succ turns ih =>
      unfold whileLoop
      cases advances state holds with
      | raises ran same => rw [ran, ended_error_bind, same]
      | leaves ran same =>
          rw [ran, ended_ok_bind, same]
          rfl
      | goesOn ran kept nearer same =>
          rw [ran, ended_ok_bind, same]
          exact ih kept (by omega)

/-! ## Programs that end -/

/-- It comes to an end, and what it returns, if it returns, has the property. -/
def Ends (good : α → Prop) (program : Loops ε α) : Prop :=
  ∃ result, program = ended result ∧ ∀ a, result = .ok a → good a

theorem Ends.ok {good : α → Prop} {a : α} (h : good a) :
    Ends good (ended (.ok a) : Loops ε α) := by
  refine ⟨.ok a, rfl, ?_⟩
  intro b same
  rw [← Except.ok.inj same]
  exact h

theorem Ends.pure {good : α → Prop} {a : α} (h : good a) : Ends good (pure a : Loops ε α) :=
  Ends.ok h

theorem Ends.error {good : α → Prop} (e : ε) : Ends good (ended (.error e) : Loops ε α) := by
  refine ⟨.error e, rfl, ?_⟩
  intro a same
  cases same

theorem Ends.bind {good : α → Prop} {good' : β → Prop} {program : Loops ε α}
    {next : α → Loops ε β} (first : Ends good program)
    (second : ∀ a, good a → Ends good' (next a)) : Ends good' (program >>= next) := by
  obtain ⟨result, rfl, holds⟩ := first
  cases result with
  | error e => exact Ends.error e
  | ok a => exact second a (holds a rfl)

theorem Ends.mono {good good' : α → Prop} {program : Loops ε α} (h : Ends good program)
    (weaker : ∀ a, good a → good' a) : Ends good' program := by
  obtain ⟨result, ran, holds⟩ := h
  exact ⟨result, ran, fun a same => weaker a (holds a same)⟩

/-- What it returned has the property. -/
theorem Ends.returned {good : α → Prop} {program : Loops ε α} {a : α} (h : Ends good program)
    (ran : program = ended (.ok a)) : good a := by
  obtain ⟨result, same, holds⟩ := h
  have eq : some (Except.ok a) = some result := ran.symm.trans same
  exact holds a (Option.some.inj eq).symm

/-- What a turn may come to: a state nearer to the end that keeps the invariant, or a result that
has the property. -/
def TurnGood (good : α → Prop) (inv : σ → Prop) (measure : σ → Nat) (state : σ) :
    Turn σ α → Prop
  | .again next => inv next ∧ measure next < measure state
  | .leave result => good result

/-- **A loop ends**, given more turns than the measure. -/
theorem whileLoop_ends {turn : σ → Loops ε (Turn σ α)} {good : α → Prop} {inv : σ → Prop}
    {measure : σ → Nat}
    (turns_end : ∀ state, inv state → Ends (TurnGood good inv measure state) (turn state))
    {turns : Nat} {state : σ} (holds : inv state) (enough : measure state < turns) :
    Ends good (whileLoop turn turns state) := by
  induction turns generalizing state with
  | zero => exact absurd enough (Nat.not_lt_zero _)
  | succ turns ih =>
      refine (turns_end state holds).bind ?_
      intro outcome after
      cases outcome with
      | leave result => exact Ends.pure after
      | again next => exact ih after.1 (by have := after.2; omega)

end DoorsControl.Kit
