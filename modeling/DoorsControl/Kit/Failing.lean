import DoorsControl.Kit.Pool

/-!
# Runs in which a statement fails

A program run alone over a store, where an operation may fail instead of being answered.
Nothing in the program catches that: the run ends there, and the store is as it was before the
operation. An operation is answered with the choice whose number is that of the operations
before it.

* `failing` — the run, with its history, the store it leaves and how it `Ended`; `Ends Q` says
  that it is over and as in `Q`;
* **rules** — `ends_op` and `ends_call` for an operation and what follows it, answered or not,
  `ends_seq` for a statement and what follows it, `ends_skip` and `ends_taken` for an `if`.
-/

namespace DoorsControl.Kit.Prog

variable {σ Op Choice α β ε : Type} {Res : Op → Type}

/-- How a run ends: with a value, or at the operation that failed. -/
inductive Ended (Op α : Type) where
  | value (a : α)
  | failed (o : Op)

/-- A run that is over. -/
structure Ran (σ Op : Type) (Res : Op → Type) (α : Type) where
  hist : List (Event Op Res)
  store : σ
  ended : Ended Op α

section Run

variable (server : Server σ Op Res Choice) (fails : Op → Bool) (choices : Nat → Choice)

/-- The run; `none` if an operation is neither answered nor fails. -/
def failing : List (Event Op Res) → σ → Prog Op Res α → Option (Ran σ Op Res α)
  | hist, s, .pure value => some ⟨hist, s, .value value⟩
  | hist, s, .op o next =>
      if fails o then some ⟨hist, s, .failed o⟩
      else
        match server.exec 0 o (choices hist.length) s with
        | none => none
        | some (r, s') => failing (⟨o, r⟩ :: hist) s' (next r)

end Run

variable {server : Server σ Op Res Choice} {fails : Op → Bool} {choices : Nat → Choice}
  {hist hist' : List (Event Op Res)} {s s' : σ}

/-- A statement that ends otherwise than with a value ends the whole run. -/
def Ran.andThen (ran : Ran σ Op Res (Except ε α))
    (rest : List (Event Op Res) → σ → α → Option (Ran σ Op Res (Except ε β))) :
    Option (Ran σ Op Res (Except ε β)) :=
  match ran.ended with
  | .value (.ok a) => rest ran.hist ran.store a
  | .value (.error e) => some ⟨ran.hist, ran.store, .value (.error e)⟩
  | .failed o => some ⟨ran.hist, ran.store, .failed o⟩

/-- A statement, and what follows it. -/
theorem failing_exceptBind (p : ExceptT ε (Prog Op Res) α) (f : α → ExceptT ε (Prog Op Res) β) :
    failing server fails choices hist s (p >>= f).run =
      (failing server fails choices hist s p.run).bind fun ran =>
        ran.andThen fun hist s a => failing server fails choices hist s (f a).run := by
  suffices any : ∀ (p : Prog Op Res (Except ε α)) hist s,
      failing server fails choices hist s (p.bind (ExceptT.bindCont f)) =
        (failing server fails choices hist s p).bind fun ran =>
          ran.andThen fun hist s a => failing server fails choices hist s (f a).run from
    any p hist s
  intro p
  induction p with
  | pure value =>
      intro hist s
      cases value <;> rfl
  | op o next ih =>
      intro hist s
      simp only [Prog.bind, failing]
      split_ifs with isFailing
      · rfl
      · cases server.exec 0 o (choices hist.length) s with
        | none => rfl
        | some answer => exact ih answer.1 _ answer.2

/-- The run is over, and as in `Q`. -/
def Ends (server : Server σ Op Res Choice) (fails : Op → Bool) (choices : Nat → Choice)
    (Q : Ran σ Op Res α → Prop) (hist : List (Event Op Res)) (s : σ) (p : Prog Op Res α) : Prop :=
  ∃ ran, failing server fails choices hist s p = some ran ∧ Q ran

theorem Ends.mono {Q Q' : Ran σ Op Res α → Prop} {p : Prog Op Res α}
    (h : Ends server fails choices Q hist s p) (weaker : ∀ ran, Q ran → Q' ran) :
    Ends server fails choices Q' hist s p := by
  obtain ⟨ran, isRun, holds⟩ := h
  exact ⟨ran, isRun, weaker ran holds⟩

/-- A run that is over and as in `Q` is any run that is over. -/
theorem Ends.holds {Q : Ran σ Op Res α → Prop} {p : Prog Op Res α} {ran : Ran σ Op Res α}
    (h : Ends server fails choices Q hist s p)
    (isRun : failing server fails choices hist s p = some ran) : Q ran := by
  obtain ⟨ran', isRun', holds⟩ := h
  rw [isRun] at isRun'
  exact Option.some.inj isRun' ▸ holds

/-- Nothing is left to do. -/
theorem ends_pure {Q : Ran σ Op Res α → Prop} {a : α} (holds : Q ⟨hist, s, .value a⟩) :
    Ends server fails choices Q hist s (.pure a) := ⟨_, rfl, holds⟩

/-- An operation fails, or is answered and the rest is run. -/
theorem ends_op {Q : Ran σ Op Res α → Prop} {o : Op} {next : Res o → Prog Op Res α}
    (failed : fails o = true → Q ⟨hist, s, .failed o⟩)
    (answered : fails o = false → ∃ r s', server.exec 0 o (choices hist.length) s = some (r, s') ∧
      Ends server fails choices Q (⟨o, r⟩ :: hist) s' (next r)) :
    Ends server fails choices Q hist s (.op o next) := by
  unfold Ends
  rw [failing]
  cases isFailing : fails o with
  | true => exact ⟨_, if_pos rfl, failed isFailing⟩
  | false =>
      obtain ⟨r, s', answer, rest⟩ := answered isFailing
      rw [if_neg (by decide), answer]
      exact rest

variable {Q : Ran σ Op Res (Except ε β) → Prop}

/-- The same in a program that raises. -/
theorem ends_call {o : Op} {f : Res o → ExceptT ε (Prog Op Res) β}
    (failed : fails o = true → Q ⟨hist, s, .failed o⟩)
    (answered : fails o = false → ∃ r s', server.exec 0 o (choices hist.length) s = some (r, s') ∧
      Ends server fails choices Q (⟨o, r⟩ :: hist) s' (f r).run) :
    Ends server fails choices Q hist s (call o >>= f).run := ends_op failed answered

/-- What follows a statement that returned is as in `rest`; otherwise the end is as in `Q`. -/
def Ran.Leads (Q : Ran σ Op Res (Except ε β) → Prop)
    (rest : List (Event Op Res) → σ → α → Prop) (ran : Ran σ Op Res (Except ε α)) : Prop :=
  match ran.ended with
  | .value (.ok a) => rest ran.hist ran.store a
  | .value (.error e) => Q ⟨ran.hist, ran.store, .value (.error e)⟩
  | .failed o => Q ⟨ran.hist, ran.store, .failed o⟩

/-- How a statement ends says how the whole run goes on. -/
theorem ends_seq {p : ExceptT ε (Prog Op Res) α} {f : α → ExceptT ε (Prog Op Res) β}
    (first : Ends server fails choices (Ran.Leads Q fun hist s a =>
      Ends server fails choices Q hist s (f a).run) hist s p.run) :
    Ends server fails choices Q hist s (p >>= f).run := by
  obtain ⟨ran, isRun, leads⟩ := first
  unfold Ends
  rw [failing_exceptBind, isRun, Option.bind_some]
  unfold Ran.Leads at leads
  unfold Ran.andThen
  split at leads
  · exact leads
  · exact ⟨_, rfl, leads⟩
  · exact ⟨_, rfl, leads⟩

/-- An `if` that is not taken. -/
theorem ends_skip {action : ExceptT ε (Prog Op Res) Unit} {f : Unit → ExceptT ε (Prog Op Res) β}
    {c : Bool} (skipped : c = false) (rest : Ends server fails choices Q hist s (f ()).run) :
    Ends server fails choices Q hist s (ifThen c action >>= f).run := by
  subst skipped
  exact rest

/-- An `if` that is taken. -/
theorem ends_taken {action : ExceptT ε (Prog Op Res) Unit} {f : Unit → ExceptT ε (Prog Op Res) β}
    {c : Bool} (taken : c = true)
    (first : Ends server fails choices (Ran.Leads Q fun hist s a =>
      Ends server fails choices Q hist s (f a).run) hist s action.run) :
    Ends server fails choices Q hist s (ifThen c action >>= f).run := by
  subst taken
  exact ends_seq first

end DoorsControl.Kit.Prog
