import DoorsControl.Kit.Pool

/-!
# Calls that run one at a time

A program run against a server without anything in between: `serial` answers its
operations one after the other, the next one with the next choice of the environment.

`Surely server ok Q s p` is the program logic: whatever the environment chooses within
`ok`, the program ends in a store and a value as `Q` says.

* **rules** — `surely_exceptBind`, `surely_exceptMap`, `surely_seq`, `surely_call`, `Surely.mono`;
* **soundness** — `Surely.serial`;
* **stores that answer by themselves** — `runIn`, with `runIn_bind` and `runIn_exceptBind`.
-/

namespace DoorsControl.Kit.Prog

variable {σ Op Choice α β ε : Type} {Res : Op → Type}

/-- The store and the value at the end; `none` if an operation is not answered. -/
def serial (server : Server σ Op Res Choice) :
    (Nat → Choice) → σ → Prog Op Res α → Option (σ × α)
  | _, s, .pure value => some (s, value)
  | choices, s, .op o next =>
      match server.exec 0 o (choices 0) s with
      | none => none
      | some (r, s') => serial server (fun n => choices (n + 1)) s' (next r)

def Surely (server : Server σ Op Res Choice) (ok : Choice → Prop) (Q : σ → α → Prop) :
    σ → Prog Op Res α → Prop
  | s, .pure value => Q s value
  | s, .op o next => ∀ choice r s', ok choice → server.exec 0 o choice s = some (r, s') →
      Surely server ok Q s' (next r)

variable {server : Server σ Op Res Choice} {ok : Choice → Prop} {s : σ}

theorem Surely.mono {Q Q' : σ → α → Prop} {p : Prog Op Res α} (h : Surely server ok Q s p)
    (weaker : ∀ s a, Q s a → Q' s a) : Surely server ok Q' s p := by
  induction p generalizing s with
  | pure value => exact weaker _ _ h
  | op o next ih =>
      intro choice r s' allowed answer
      exact ih r (h choice r s' allowed answer)

theorem surely_bind {Q : σ → β → Prop} (p : Prog Op Res α) (f : α → Prog Op Res β) :
    Surely server ok Q s (p >>= f) ↔
      Surely server ok (fun s a => Surely server ok Q s (f a)) s p := by
  induction p generalizing s with
  | pure value => exact Iff.rfl
  | op o next ih =>
      constructor
      · intro h choice r s' allowed answer
        exact (ih r).mp (h choice r s' allowed answer)
      · intro h choice r s' allowed answer
        exact (ih r).mpr (h choice r s' allowed answer)

/-- What a statement raises skips the rest. -/
theorem surely_exceptBind {Q : σ → Except ε β → Prop} (p : ExceptT ε (Prog Op Res) α)
    (f : α → ExceptT ε (Prog Op Res) β) :
    Surely server ok Q s (p >>= f).run ↔
      Surely server ok (fun s a => match a with
        | .ok value => Surely server ok Q s (f value).run
        | .error e => Q s (.error e)) s p.run := by
  change Surely server ok Q s (p.run >>= _) ↔ _
  rw [surely_bind]
  constructor
  · intro h
    refine h.mono ?_
    intro s a
    cases a <;> exact id
  · intro h
    refine h.mono ?_
    intro s a
    cases a <;> exact id

/-- A value is changed, what is raised is not. -/
theorem surely_exceptMap {Q : σ → Except ε β → Prop} (f : α → β) (p : ExceptT ε (Prog Op Res) α) :
    Surely server ok Q s (f <$> p).run ↔
      Surely server ok (fun s a => Q s (a.map f)) s p.run := by
  change Surely server ok Q s (p.run >>= _) ↔ _
  rw [surely_bind]
  constructor
  · intro h
    refine h.mono ?_
    intro s a
    cases a <;> exact id
  · intro h
    refine h.mono ?_
    intro s a
    cases a <;> exact id

/-- One operation and what follows it. -/
theorem surely_call {Q : σ → Except ε β → Prop} {o : Op} {f : Res o → ExceptT ε (Prog Op Res) β}
    (rest : ∀ choice r s', ok choice → server.exec 0 o choice s = some (r, s') →
      Surely server ok Q s' (f r).run) :
    Surely server ok Q s (call o >>= f).run := rest

/-- A postcondition of stores alone: a statement that keeps it may raise or go on. -/
theorem surely_seq {P : σ → Prop} {p : ExceptT ε (Prog Op Res) α}
    {f : α → ExceptT ε (Prog Op Res) β} (first : Surely server ok (fun s _ => P s) s p.run)
    (second : ∀ s a, P s → Surely server ok (fun s _ => P s) s (f a).run) :
    Surely server ok (fun s _ => P s) s (p >>= f).run := by
  refine (surely_exceptBind p f).mpr (first.mono ?_)
  intro s a holds
  cases a with
  | ok value => exact second s value holds
  | error e => exact holds

/-- The end of a run is as the logic says. -/
theorem Surely.serial {Q : σ → α → Prop} {p : Prog Op Res α} (h : Surely server ok Q s p)
    {choices : Nat → Choice} (allowed : ∀ n, ok (choices n)) {s' : σ} {value : α}
    (ran : Prog.serial server choices s p = some (s', value)) : Q s' value := by
  induction p generalizing s choices with
  | pure v =>
      obtain ⟨rfl, rfl⟩ := Prod.mk.inj (Option.some.inj ran)
      exact h
  | op o next ih =>
      unfold Prog.serial at ran
      split at ran
      · cases ran
      · rename_i r mid answer
        exact ih r (h _ r mid (allowed 0) answer) (fun n => allowed (n + 1)) ran

/-! ## A store that answers by itself -/

section Alone

variable {exec : (o : Op) → σ → Res o × σ}

/-- The run in a store that answers every operation. -/
def runIn (exec : (o : Op) → σ → Res o × σ) : σ → Prog Op Res α → σ × α
  | s, .pure value => (s, value)
  | s, .op o next => runIn exec (exec o s).2 (next (exec o s).1)

theorem runIn_bind (p : Prog Op Res α) (f : α → Prog Op Res β) :
    runIn exec s (p >>= f) = runIn exec (runIn exec s p).1 (f (runIn exec s p).2) := by
  induction p generalizing s with
  | pure value => rfl
  | op o next ih => exact ih _

/-- What a statement raises skips the rest. -/
theorem runIn_exceptBind (p : ExceptT ε (Prog Op Res) α) (f : α → ExceptT ε (Prog Op Res) β) :
    runIn exec s (p >>= f).run =
      match runIn exec s p.run with
      | (s', .ok value) => runIn exec s' (f value).run
      | (s', .error e) => (s', .error e) := by
  change runIn exec s (p.run >>= _) = _
  rw [runIn_bind]
  cases result : runIn exec s p.run with
  | mk s' r => cases r <;> rfl

/-- A statement that returned. -/
theorem runIn_seq {p : ExceptT ε (Prog Op Res) α} {f : α → ExceptT ε (Prog Op Res) β} {s' : σ}
    {value : α} (first : runIn exec s p.run = (s', .ok value)) :
    runIn exec s (p >>= f).run = runIn exec s' (f value).run := by
  rw [runIn_exceptBind, first]

end Alone

end DoorsControl.Kit.Prog
