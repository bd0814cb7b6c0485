import Mathlib.Data.List.Basic

/-!
# Programs as trees of operations

A `Prog Op Res α` is a sequential program that talks to its surroundings only
through operations `o : Op`, each answered by a value of `Res o`. What the answers
are is left open, so a fact about a program holds for every environment.

`Always ok post` is the program logic: every operation is allowed by `ok` at the
history it is performed in, and every result satisfies `post`.

* **rules** — `always_bind`, and for programs that raise, `always_exceptBind`,
  `always_seq`, `always_callBind`, `always_attemptBind`, `always_ifThenBind`;
* **soundness** — `Always.along`, `Always.past`: the facts hold at every point of
  every execution (`Steps`), and for every operation that was performed.

Histories list the most recent event first.
-/

namespace DoorsControl.Kit

/-- A program: finished, or about to perform an operation. -/
inductive Prog (Op : Type) (Res : Op → Type) (α : Type) where
  | pure (value : α)
  | op (o : Op) (next : Res o → Prog Op Res α)

/-- An operation that was performed, with the answer. -/
structure Event (Op : Type) (Res : Op → Type) where
  op : Op
  result : Res op

namespace Prog

variable {Op : Type} {Res : Op → Type} {α β ε : Type}

protected def bind : Prog Op Res α → (α → Prog Op Res β) → Prog Op Res β
  | .pure value, f => f value
  | .op o next, f => .op o fun r => (next r).bind f

instance : Monad (Prog Op Res) where
  pure := .pure
  bind := Prog.bind

/-- The program that performs one operation. -/
def perform (o : Op) : Prog Op Res (Res o) := .op o .pure

/-- Every operation performed from here on is allowed where it is performed, and
every result is as required. -/
def Always (ok : List (Event Op Res) → Op → Prop) (post : List (Event Op Res) → α → Prop) :
    List (Event Op Res) → Prog Op Res α → Prop
  | hist, .pure value => post hist value
  | hist, .op o next => ok hist o ∧ ∀ r, Always ok post (⟨o, r⟩ :: hist) (next r)

variable {ok : List (Event Op Res) → Op → Prop} {hist : List (Event Op Res)}

theorem always_bind {post : List (Event Op Res) → β → Prop} (p : Prog Op Res α)
    (f : α → Prog Op Res β) :
    Always ok post hist (p >>= f) ↔
      Always ok (fun hist a => Always ok post hist (f a)) hist p := by
  induction p generalizing hist with
  | pure value => exact Iff.rfl
  | op o next ih => exact and_congr_right fun _ => forall_congr' fun r => ih r

theorem Always.mono {post post' : List (Event Op Res) → α → Prop} {p : Prog Op Res α}
    (h : Always ok post hist p) (weaker : ∀ hist a, post hist a → post' hist a) :
    Always ok post' hist p := by
  induction p generalizing hist with
  | pure value => exact weaker _ _ h
  | op o next ih => exact ⟨h.1, fun r => ih r (h.2 r)⟩

/-- What is allowed may be put more weakly. -/
theorem Always.imp {ok' : List (Event Op Res) → Op → Prop}
    {post : List (Event Op Res) → α → Prop} {p : Prog Op Res α} (h : Always ok post hist p)
    (allowed : ∀ hist o, ok hist o → ok' hist o) : Always ok' post hist p := by
  induction p generalizing hist with
  | pure value => exact h
  | op o next ih => exact ⟨allowed _ _ h.1, fun r => ih r (h.2 r)⟩

/-! ## Programs of another interface -/

section Embed

variable {Op' : Type} {Res' : Op' → Type}

/-- A program whose operations are some of those of a larger interface. -/
def embed (f : Op → Op') (answer : ∀ o, Res' (f o) → Res o) : Prog Op Res α → Prog Op' Res' α
  | .pure value => .pure value
  | .op o next => .op (f o) fun r => embed f answer (next (answer o r))

/-- What always holds of it holds there, with `view` for what it sees of the history. -/
theorem Always.embed {f : Op → Op'} {answer : ∀ o, Res' (f o) → Res o}
    {view : List (Event Op' Res') → List (Event Op Res)}
    (sees : ∀ hist o r, view (⟨f o, r⟩ :: hist) = ⟨o, answer o r⟩ :: view hist)
    {ok' : List (Event Op' Res') → Op' → Prop} {post : List (Event Op Res) → α → Prop}
    {post' : List (Event Op' Res') → α → Prop}
    (allowed : ∀ hist o, ok (view hist) o → ok' hist (f o))
    (returns : ∀ hist a, post (view hist) a → post' hist a)
    {p : Prog Op Res α} {hist' : List (Event Op' Res')}
    (h : Always ok post (view hist') p) : Always ok' post' hist' (p.embed f answer) := by
  induction p generalizing hist' with
  | pure value => exact returns _ _ h
  | op o next ih =>
      refine ⟨allowed _ _ h.1, fun r => ih _ ?_⟩
      rw [sees]
      exact h.2 _

end Embed

/-! ## Programs that raise -/

/-- What a statement raises skips the rest. -/
theorem always_exceptBind {post : List (Event Op Res) → Except ε β → Prop}
    (p : ExceptT ε (Prog Op Res) α) (f : α → ExceptT ε (Prog Op Res) β) :
    Always ok post hist (p >>= f).run ↔
      Always ok (fun hist a => match a with
        | .ok value => Always ok post hist (f value).run
        | .error e => post hist (.error e)) hist p.run := by
  change Always ok post hist (p.run >>= _) ↔ _
  rw [always_bind]
  constructor
  · intro h
    refine h.mono ?_
    intro hist a
    cases a <;> exact id
  · intro h
    refine h.mono ?_
    intro hist a
    cases a <;> exact id

/-- A value is changed, what is raised is not. -/
theorem always_exceptMap {post : List (Event Op Res) → Except ε β → Prop} (f : α → β)
    (p : ExceptT ε (Prog Op Res) α) :
    Always ok post hist (f <$> p).run ↔
      Always ok (fun hist a => post hist (a.map f)) hist p.run := by
  change Always ok post hist (p.run >>= _) ↔ _
  rw [always_bind]
  constructor
  · intro h
    refine h.mono ?_
    intro hist a
    cases a <;> exact id
  · intro h
    refine h.mono ?_
    intro hist a
    cases a <;> exact id

/-- One operation in a program that raises. -/
def call (o : Op) : ExceptT ε (Prog Op Res) (Res o) := ExceptT.mk (.op o fun r => .pure (.ok r))

/-- An operation and what follows it. -/
@[simp] theorem always_callBind {post : List (Event Op Res) → Except ε β → Prop} (o : Op)
    (f : Res o → ExceptT ε (Prog Op Res) β) :
    Always ok post hist (call o >>= f).run ↔
      ok hist o ∧ ∀ r, Always ok post (⟨o, r⟩ :: hist) (f r).run := Iff.rfl

/-- One operation whose answer may be that it raised. -/
def attempt (o : Op) (answer : Res o → Except ε α) : ExceptT ε (Prog Op Res) α :=
  ExceptT.mk (.op o fun r => .pure (answer r))

/-- A postcondition that asks nothing of what is raised. -/
def OnOk (P : List (Event Op Res) → α → Prop) (hist : List (Event Op Res)) :
    Except ε α → Prop
  | .ok value => P hist value
  | .error _ => True

/-- Sequencing: the second part starts where the first one returned. -/
theorem always_seq {P : List (Event Op Res) → α → Prop} {Q : List (Event Op Res) → β → Prop}
    {p : ExceptT ε (Prog Op Res) α} {f : α → ExceptT ε (Prog Op Res) β}
    (first : Always ok (OnOk P) hist p.run)
    (second : ∀ hist' a, P hist' a → Always ok (OnOk Q) hist' (f a).run) :
    Always ok (OnOk Q) hist (p >>= f).run := by
  refine (always_exceptBind p f).mpr (first.mono ?_)
  intro hist' a holds
  cases a with
  | ok value => exact second hist' value holds
  | error e => trivial

/-- After an operation that may raise, the rest runs only if it did not. -/
theorem always_attemptBind {Q : List (Event Op Res) → β → Prop} {o : Op}
    {answer : Res o → Except ε α} {f : α → ExceptT ε (Prog Op Res) β} (allowed : ok hist o)
    (second : ∀ r value, answer r = .ok value →
      Always ok (OnOk Q) (⟨o, r⟩ :: hist) (f value).run) :
    Always ok (OnOk Q) hist (attempt o answer >>= f).run := by
  refine ⟨allowed, fun r => ?_⟩
  change Always ok (OnOk Q) _ (ExceptT.bindCont f (answer r))
  cases result : answer r with
  | ok value => exact second r value result
  | error e => trivial

/-- A result that is known, and is raised if it is an error. -/
theorem always_ofExcept (result : Except ε α) :
    Always ok (OnOk fun hist' value => hist' = hist ∧ result = .ok value) hist
      (MonadExcept.ofExcept result : ExceptT ε (Prog Op Res) α).run := by
  cases result with
  | error e => trivial
  | ok value => exact ⟨rfl, rfl⟩

/-- `if c: ..` -/
def ifThen (c : Bool) (action : ExceptT ε (Prog Op Res) Unit) : ExceptT ε (Prog Op Res) Unit :=
  if c then action else Pure.pure ()

/-- Past an `if` whose branch only raises, the condition is false. -/
theorem always_ifThenBind {Q : List (Event Op Res) → β → Prop} {c : Bool}
    {action : ExceptT ε (Prog Op Res) Unit} {f : Unit → ExceptT ε (Prog Op Res) β}
    (raises : Always ok (OnOk fun _ _ => False) hist action.run)
    (second : c = false → Always ok (OnOk Q) hist (f ()).run) :
    Always ok (OnOk Q) hist (ifThen c action >>= f).run := by
  cases c with
  | true => exact always_seq raises fun _ _ impossible => impossible.elim
  | false => exact second rfl

/-! ## Executions -/

/-- `Steps p hist q`: after the events `hist`, `p` has become `q`. -/
inductive Steps (p : Prog Op Res α) : List (Event Op Res) → Prog Op Res α → Prop
  | start : Steps p [] p
  | more {hist : List (Event Op Res)} {o : Op} {next : Res o → Prog Op Res α} (r : Res o) :
      Steps p hist (.op o next) → Steps p (⟨o, r⟩ :: hist) (next r)

variable {post : List (Event Op Res) → α → Prop} {p q : Prog Op Res α}

/-- What holds always holds at every point of an execution. -/
theorem Always.along (h : Always ok post [] p) (steps : Steps p hist q) :
    Always ok post hist q := by
  induction steps with
  | start => exact h
  | more r _ ih => exact ih.2 r

/-- Every operation in a history was allowed when it was performed. -/
theorem Always.past (h : Always ok post [] p) (steps : Steps p hist q)
    {later before : List (Event Op Res)} {e : Event Op Res}
    (shape : hist = later ++ e :: before) : ok before e.op := by
  induction steps generalizing later with
  | start => simp at shape
  | more r steps ih =>
      cases later with
      | nil =>
          obtain ⟨rfl, rfl⟩ := List.cons.inj shape
          exact (h.along steps).1
      | cons _ later => exact ih (List.cons.inj shape).2

/-- The execution in which every operation is answered by `oracle`, from a given
history on. -/
def runWith (oracle : List (Event Op Res) → (o : Op) → Res o) :
    List (Event Op Res) → Prog Op Res α → List (Event Op Res) × α
  | hist, .pure value => (hist, value)
  | hist, .op o next => runWith oracle (⟨o, oracle hist o⟩ :: hist) (next (oracle hist o))

theorem steps_runWith (oracle : List (Event Op Res) → (o : Op) → Res o)
    (reached : Steps p hist q) :
    Steps p (runWith oracle hist q).1 (.pure (runWith oracle hist q).2) := by
  induction q generalizing hist with
  | pure value => exact reached
  | op o next ih => exact ih _ (.more _ reached)

/-- What a statement returns goes on to the next, in the history it leaves. -/
theorem runWith_bind (oracle : List (Event Op Res) → (o : Op) → Res o) (p : Prog Op Res α)
    (f : α → Prog Op Res β) :
    runWith oracle hist (p >>= f) =
      runWith oracle (runWith oracle hist p).1 (f (runWith oracle hist p).2) := by
  induction p generalizing hist with
  | pure value => rfl
  | op o next ih => exact ih _

/-- What a statement raises skips the rest. -/
theorem runWith_exceptBind (oracle : List (Event Op Res) → (o : Op) → Res o)
    (p : ExceptT ε (Prog Op Res) α) (f : α → ExceptT ε (Prog Op Res) β) :
    runWith oracle hist (p >>= f).run =
      match runWith oracle hist p.run with
      | (hist', .ok value) => runWith oracle hist' (f value).run
      | (hist', .error e) => (hist', .error e) := by
  change runWith oracle hist (p.run >>= _) = _
  rw [runWith_bind]
  cases result : runWith oracle hist p.run with
  | mk hist' r => cases r <;> rfl

/-- Three statements in a row. -/
theorem runWith_assoc {γ : Type} (oracle : List (Event Op Res) → (o : Op) → Res o)
    (p : ExceptT ε (Prog Op Res) α) (f : α → ExceptT ε (Prog Op Res) β)
    (g : β → ExceptT ε (Prog Op Res) γ) :
    runWith oracle hist (p >>= f >>= g).run =
      runWith oracle hist (p >>= fun a => f a >>= g).run := by
  rw [runWith_exceptBind, runWith_exceptBind, runWith_exceptBind]
  cases runWith oracle hist p.run with
  | mk hist' r =>
      cases r with
      | error e => rfl
      | ok a => exact (runWith_exceptBind oracle (f a) g).symm

section Rules

variable {oracle : List (Event Op Res) → (o : Op) → Res o}
  {Q : List (Event Op Res) × Except ε β → Prop}

/-- One operation, and the rest with its answer. -/
theorem run_call {o : Op} {f : Res o → ExceptT ε (Prog Op Res) β}
    (rest : Q (runWith oracle (⟨o, oracle hist o⟩ :: hist) (f (oracle hist o)).run)) :
    Q (runWith oracle hist (call o >>= f).run) := rest

/-- An operation that did not raise. -/
theorem run_attempt {o : Op} {answer : Res o → Except ε α} {f : α → ExceptT ε (Prog Op Res) β}
    {value : α} (answered : answer (oracle hist o) = .ok value)
    (rest : Q (runWith oracle (⟨o, oracle hist o⟩ :: hist) (f value).run)) :
    Q (runWith oracle hist (attempt o answer >>= f).run) := by
  rw [runWith_exceptBind]
  simpa only [attempt, ExceptT.run, ExceptT.mk, runWith, answered] using rest

/-- A statement that returned. -/
theorem run_seq {p : ExceptT ε (Prog Op Res) α} {f : α → ExceptT ε (Prog Op Res) β}
    {hist' : List (Event Op Res)} {value : α}
    (first : runWith oracle hist p.run = (hist', .ok value))
    (rest : Q (runWith oracle hist' (f value).run)) :
    Q (runWith oracle hist (p >>= f).run) := by
  rw [runWith_exceptBind, first]
  exact rest

/-- A statement that raised. -/
theorem run_raise {p : ExceptT ε (Prog Op Res) α} {f : α → ExceptT ε (Prog Op Res) β}
    {hist' : List (Event Op Res)} {e : ε} (raised : runWith oracle hist p.run = (hist', .error e))
    (result : Q (hist', .error e)) : Q (runWith oracle hist (p >>= f).run) := by
  rw [runWith_exceptBind, raised]
  exact result

/-- An `if` that is not taken. -/
theorem run_skip {action : ExceptT ε (Prog Op Res) Unit} {f : Unit → ExceptT ε (Prog Op Res) β}
    {c : Bool} (skipped : c = false) (rest : Q (runWith oracle hist (f ()).run)) :
    Q (runWith oracle hist (ifThen c action >>= f).run) := by
  subst skipped
  exact rest

/-- An `if` whose branch raises. -/
theorem run_taken {action : ExceptT ε (Prog Op Res) Unit} {f : Unit → ExceptT ε (Prog Op Res) β}
    {c : Bool} (taken : c = true) {hist' : List (Event Op Res)} {e : ε}
    (raised : runWith oracle hist action.run = (hist', .error e)) (result : Q (hist', .error e)) :
    Q (runWith oracle hist (ifThen c action >>= f).run) := by
  subst taken
  exact run_raise raised result

end Rules

/-- Every operation performed by such an execution has the answer of the oracle. -/
theorem answers_runWith {oracle : (o : Op) → Res o} {e : Event Op Res}
    (mem : e ∈ (runWith (fun _ => oracle) hist q).1) : e ∈ hist ∨ e.result = oracle e.op := by
  induction q generalizing hist with
  | pure value => exact .inl mem
  | op o next ih =>
      rcases ih _ mem with earlier | answered
      · rcases List.mem_cons.mp earlier with rfl | earlier
        · exact .inr rfl
        · exact .inl earlier
      · exact .inr answered

end Prog

end DoorsControl.Kit
