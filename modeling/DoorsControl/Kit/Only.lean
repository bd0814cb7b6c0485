import DoorsControl.Kit.Prog

/-!
# What a program can do at all

A property that every operation of a program has, wherever it stands and whatever the answers were,
and how facts about one program are put together.

* **rules** — `only_bind`, `only_callBind`, `only_attemptBind`, `only_ofExceptBind`,
  `only_ifThenBind`;
* `Only.performed` — every operation that was performed has it;
* `Always.and`, `Always.keep` — two facts about one program, and what never ceases to hold.
-/

namespace DoorsControl.Kit.Prog

variable {Op : Type} {Res : Op → Type} {α β ε : Type} {allowed : Op → Prop}

/-- Every operation is allowed. -/
def Only (allowed : Op → Prop) : Prog Op Res α → Prop
  | .pure _ => True
  | .op o next => allowed o ∧ ∀ r, Only allowed (next r)

theorem Only.always {p : Prog Op Res α} (only : Only allowed p) (hist : List (Event Op Res)) :
    Always (fun _ o => allowed o) (fun _ _ => True) hist p := by
  induction p generalizing hist with
  | pure value => trivial
  | op o next ih => exact ⟨only.1, fun r => ih r (only.2 r) _⟩

/-- Every operation that was performed. -/
theorem Only.performed {p q : Prog Op Res α} (only : Only allowed p)
    {hist : List (Event Op Res)} (steps : Steps p hist q) : ∀ e ∈ hist, allowed e.op := by
  intro e mem
  obtain ⟨later, before, shape⟩ := List.append_of_mem mem
  exact (only.always []).past steps shape

/-! ## Rules -/

theorem only_progBind {p : Prog Op Res α} {f : α → Prog Op Res β} (first : Only allowed p)
    (rest : ∀ a, Only allowed (f a)) : Only allowed (p >>= f) := by
  induction p with
  | pure value => exact rest value
  | op o next ih => exact ⟨first.1, fun r => ih r (first.2 r)⟩

/-- What is raised skips the rest. -/
theorem only_bind {p : ExceptT ε (Prog Op Res) α} {f : α → ExceptT ε (Prog Op Res) β}
    (first : Only allowed p.run) (rest : ∀ a, Only allowed (f a).run) :
    Only allowed (p >>= f).run := by
  refine only_progBind first fun result => ?_
  cases result with
  | ok value => exact rest value
  | error e => trivial

theorem only_map {p : ExceptT ε (Prog Op Res) α} (f : α → β) (only : Only allowed p.run) :
    Only allowed (f <$> p).run := by
  refine only_progBind only fun result => ?_
  cases result <;> trivial

theorem only_callBind {o : Op} {f : Res o → ExceptT ε (Prog Op Res) β} (isAllowed : allowed o)
    (rest : ∀ r, Only allowed (f r).run) : Only allowed (call o >>= f).run :=
  ⟨isAllowed, rest⟩

theorem only_attempt {o : Op} {answer : Res o → Except ε α} (isAllowed : allowed o) :
    Only allowed (attempt o answer : ExceptT ε (Prog Op Res) α).run :=
  ⟨isAllowed, fun _ => trivial⟩

theorem only_attemptBind {o : Op} {answer : Res o → Except ε α}
    {f : α → ExceptT ε (Prog Op Res) β} (isAllowed : allowed o)
    (rest : ∀ value, Only allowed (f value).run) : Only allowed (attempt o answer >>= f).run :=
  only_bind (only_attempt isAllowed) rest

theorem only_ofExceptBind {result : Except ε α} {f : α → ExceptT ε (Prog Op Res) β}
    (rest : ∀ value, Only allowed (f value).run) :
    Only allowed (MonadExcept.ofExcept result >>= f).run := by
  cases result with
  | error e => trivial
  | ok value => exact rest value

theorem only_ifThenBind {c : Bool} {action : ExceptT ε (Prog Op Res) Unit}
    {f : Unit → ExceptT ε (Prog Op Res) β} (only : Only allowed action.run)
    (rest : Only allowed (f ()).run) : Only allowed (ifThen c action >>= f).run := by
  cases c with
  | true => exact only_bind only fun _ => rest
  | false => exact rest

/-! ## Facts about one program -/

variable {ok ok' : List (Event Op Res) → Op → Prop} {post post' : List (Event Op Res) → α → Prop}
  {p : Prog Op Res α} {hist : List (Event Op Res)}

/-- Two facts about one program. -/
theorem Always.and (first : Always ok post hist p) (second : Always ok' post' hist p) :
    Always (fun hist o => ok hist o ∧ ok' hist o) (fun hist a => post hist a ∧ post' hist a)
      hist p := by
  induction p generalizing hist with
  | pure value => exact ⟨first, second⟩
  | op o next ih => exact ⟨⟨first.1, second.1⟩, fun r => ih r (first.2 r) (second.2 r)⟩

/-- What more events leave true holds from there on. -/
theorem Always.keep (kept : List (Event Op Res) → Prop)
    (more : ∀ e hist, kept hist → kept (e :: hist)) (start : kept hist)
    (h : Always ok post hist p) :
    Always (fun hist o => kept hist ∧ ok hist o) (fun hist a => kept hist ∧ post hist a)
      hist p := by
  induction p generalizing hist with
  | pure value => exact ⟨start, h⟩
  | op o next ih => exact ⟨⟨start, h.1⟩, fun r => ih r (more _ _ start) (h.2 r)⟩

end DoorsControl.Kit.Prog
