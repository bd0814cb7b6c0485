import DoorsControl.Kit.Prog

/-!
# Calls that run interleaved over one store

Any number of calls, each a `Prog` made from its request, run against a shared
store. A step starts a call or lets one call perform its next operation; the
operation is atomic and everything around it may be interleaved. What the
environment decides (random draws, clocks, whether a transaction commits) comes
with the step as its `choice`, so that `step` is a function and a schedule can be
run.

* **reachability under a guard** — `Reach ok init`: the states reached by steps
  that all satisfy `ok`; `run` goes there on a given schedule;
* **rules** — `Reach.invariant`, `step_cases` for what one step does, and
  `Reach.localInvariant` for an invariant of the store and of every call with it;
* **each call is an execution of its program** — `Reach.steps`.
-/

namespace DoorsControl.Kit

/-- How a store answers operations: `exec caller o choice store`. No answer means
that the operation has to wait, or that the choice is not one it offers. -/
structure Server (σ Op : Type) (Res : Op → Type) (Choice : Type) where
  exec : Nat → (o : Op) → Choice → σ → Option (Res o × σ)

/-- A call: its request, what it has done, what is left to do. -/
structure Call (Req Op : Type) (Res : Op → Type) (α : Type) where
  req : Req
  hist : List (Event Op Res)
  prog : Prog Op Res α

/-- What a call returned, if it is finished. -/
def Call.result {Req Op α : Type} {Res : Op → Type} (c : Call Req Op Res α) : Option α :=
  match c.prog with
  | .pure value => some value
  | .op .. => none

@[simp] theorem Call.result_op {Req Op α : Type} {Res : Op → Type} (req : Req)
    (hist : List (Event Op Res)) (o : Op) (next : Res o → Prog Op Res α) :
    (⟨req, hist, .op o next⟩ : Call Req Op Res α).result = none := rfl

theorem Call.prog_of_result {Req Op α : Type} {Res : Op → Type} {c : Call Req Op Res α} {value : α}
    (h : c.result = some value) : c = ⟨c.req, c.hist, .pure value⟩ := by
  obtain ⟨req, hist, prog⟩ := c
  cases prog with
  | pure v =>
      obtain rfl := Option.some.inj h
      rfl
  | op o next => cases h

/-- The calls that were started, in the order of their start, and the store. -/
structure Pool (σ Req Op : Type) (Res : Op → Type) (α : Type) where
  store : σ
  calls : List (Call Req Op Res α)

/-- One step of a schedule. -/
inductive Action (Req Choice : Type) where
  | start (req : Req)
  | run (call : Nat) (choice : Choice)

namespace Pool

variable {σ Req Op Choice α : Type} {Res : Op → Type}
variable (server : Server σ Op Res Choice) (body : Req → Prog Op Res α)

/-- What an action does, if it can be taken. -/
def step (p : Pool σ Req Op Res α) : Action Req Choice → Option (Pool σ Req Op Res α)
  | .start req => some { p with calls := p.calls ++ [⟨req, [], body req⟩] }
  | .run i choice =>
      match p.calls[i]? with
      | none => none
      | some ⟨_, _, .pure _⟩ => none
      | some ⟨req, hist, .op o next⟩ =>
          match server.exec i o choice p.store with
          | none => none
          | some (r, store) => some ⟨store, p.calls.set i ⟨req, ⟨o, r⟩ :: hist, next r⟩⟩

/-- A schedule from a given state, if every step can be taken and passes `ok`. -/
def run (ok : Pool σ Req Op Res α → Action Req Choice → Bool) (p : Pool σ Req Op Res α) :
    List (Action Req Choice) → Option (Pool σ Req Op Res α)
  | [] => some p
  | a :: rest =>
      if ok p a then (step server body p a).bind fun q => run ok q rest else none

variable {server body} {p q : Pool σ Req Op Res α} {a : Action Req Choice}

/-- Everything a step can be: a new call, or one operation of one call. -/
theorem step_cases (h : step server body p a = some q) :
    (∃ req, a = .start req ∧ q = { p with calls := p.calls ++ [⟨req, [], body req⟩] }) ∨
      (∃ i choice req hist o next r store, a = .run i choice ∧
        p.calls[i]? = some ⟨req, hist, .op o next⟩ ∧
        server.exec i o choice p.store = some (r, store) ∧
        q = ⟨store, p.calls.set i ⟨req, ⟨o, r⟩ :: hist, next r⟩⟩) := by
  cases a with
  | start req => exact .inl ⟨req, rfl, by simpa [step] using h.symm⟩
  | run i choice =>
      simp only [step] at h
      split at h
      · cases h
      · cases h
      · rename_i req hist o next found
        split at h
        · cases h
        · rename_i r store answer
          exact .inr ⟨i, choice, req, hist, o, next, r, store, rfl, found, answer,
            (Option.some.inj h).symm⟩

/-- The states that a guarded schedule reaches. -/
inductive Reach (server : Server σ Op Res Choice) (body : Req → Prog Op Res α)
    (ok : Pool σ Req Op Res α → Action Req Choice → Bool) (init : Pool σ Req Op Res α) :
    Pool σ Req Op Res α → Prop
  | init : Reach server body ok init init
  | step {p q : Pool σ Req Op Res α} {a : Action Req Choice} :
      Reach server body ok init p → ok p a = true → step server body p a = some q →
        Reach server body ok init q

variable {ok : Pool σ Req Op Res α → Action Req Choice → Bool} {init : Pool σ Req Op Res α}

/-- What holds at the start and is kept by every guarded step holds throughout. -/
theorem Reach.invariant (Inv : Pool σ Req Op Res α → Prop) (start : Inv init)
    (keep : ∀ p a q, Reach server body ok init p → Inv p → ok p a = true →
      Pool.step server body p a = some q → Inv q)
    (h : Reach server body ok init p) : Inv p := by
  induction h with
  | init => exact start
  | step reach allowed stepped ih => exact keep _ _ _ reach ih allowed stepped

/-- A schedule that was run reaches its end. -/
theorem reach_of_run {actions : List (Action Req Choice)}
    (h : run server body ok p actions = some q) (reached : Reach server body ok init p) :
    Reach server body ok init q := by
  induction actions generalizing p with
  | nil =>
      obtain rfl := Option.some.inj h
      exact reached
  | cons a rest ih =>
      rw [run] at h
      split at h
      · rename_i allowed
        obtain ⟨mid, stepped, more⟩ := Option.bind_eq_some_iff.mp h
        exact ih more (.step reached allowed stepped)
      · cases h

/-- What a schedule shows at its end is reached. -/
theorem reach_of_map_run {β : Type} {f : Pool σ Req Op Res α → β} {value : β}
    (actions : List (Action Req Choice))
    (h : (run server body ok init actions).map f = some value) :
    ∃ p, Reach server body ok init p ∧ f p = value := by
  obtain ⟨p, ran, seen⟩ := Option.map_eq_some_iff.mp h
  exact ⟨p, reach_of_run ran .init, seen⟩

/-- Every call has done what its program does. -/
theorem Reach.steps (none : init.calls = []) (h : Reach server body ok init p) :
    ∀ c ∈ p.calls, (body c.req).Steps c.hist c.prog := by
  refine h.invariant (fun p => ∀ c ∈ p.calls, (body c.req).Steps c.hist c.prog) ?_ ?_
  · simp [none]
  · intro p a q _ inv _ stepped c mem
    rcases step_cases stepped with
      ⟨req, rfl, rfl⟩ | ⟨i, choice, req, hist, o, next, r, store, rfl, found, -, rfl⟩
    · rcases List.mem_append.mp mem with old | new
      · exact inv c old
      · rw [List.mem_singleton.mp new]
        exact .start
    · rcases List.mem_or_eq_of_mem_set mem with old | rfl
      · exact inv c old
      · exact .more r (inv _ (List.mem_of_getElem? found))

/-- After entry `i` was replaced, an entry is the new one or another old one. -/
theorem get_set_cases {β : Type} {entries : List β} {i j : Nat} {c c' : β}
    (h : (entries.set i c)[j]? = some c') :
    (j = i ∧ c' = c) ∨ (j ≠ i ∧ entries[j]? = some c') := by
  by_cases same : i = j
  · subst same
    rw [List.getElem?_set_self', Option.map_eq_map, Option.map_eq_some_iff] at h
    obtain ⟨_, -, rfl⟩ := h
    exact .inl ⟨rfl, rfl⟩
  · rw [List.getElem?_set_ne same] at h
    exact .inr ⟨Ne.symm same, h⟩

/-- An entry of an extended list is an old one or the new one. -/
theorem get_append_cases {β : Type} {entries : List β} {j : Nat} {c c' : β}
    (h : (entries ++ [c])[j]? = some c') : entries[j]? = some c' ∨ c' = c := by
  rw [List.getElem?_append] at h
  split at h
  · exact .inl h
  · refine .inr ?_
    simpa using List.mem_of_getElem? h

/-- The new entry is the last one. -/
theorem get_append_index_cases {β : Type} {entries : List β} {j : Nat} {c c' : β}
    (h : (entries ++ [c])[j]? = some c') :
    entries[j]? = some c' ∨ (j = entries.length ∧ c' = c) := by
  by_cases old : j < entries.length
  · rw [List.getElem?_append_left old] at h
    exact .inl h
  · obtain ⟨inside, same⟩ := List.getElem?_eq_some_iff.mp h
    rw [List.length_append, List.length_singleton] at inside
    obtain rfl : j = entries.length := by omega
    exact .inr ⟨rfl, by simpa using same.symm⟩

/-- The old entries keep their places. -/
theorem get_append_old {β : Type} {entries more : List β} {j : Nat} {c : β}
    (h : entries[j]? = some c) : (entries ++ more)[j]? = some c := by
  obtain ⟨inside, -⟩ := List.getElem?_eq_some_iff.mp h
  rw [List.getElem?_append_left inside]
  exact h

/-- An invariant `Global` of the store together with one `Local` of every call and
the store: a new call has it, and an operation of one call keeps the store's, its
own and that of all the others. -/
theorem Reach.localInvariant (Global : σ → Prop) (Local : σ → Nat → Call Req Op Res α → Prop)
    (none : init.calls = []) (start : Global init.store)
    (fresh : ∀ store i req, Global store → Local store i ⟨req, [], body req⟩)
    (keep : ∀ p i choice req hist o next r store, Reach server body ok init p →
      Global p.store → (∀ j c, p.calls[j]? = some c → Local p.store j c) →
      ok p (.run i choice) = true → p.calls[i]? = some ⟨req, hist, .op o next⟩ →
      server.exec i o choice p.store = some (r, store) →
      Global store ∧ Local store i ⟨req, ⟨o, r⟩ :: hist, next r⟩ ∧
        ∀ j c, j ≠ i → p.calls[j]? = some c → Local store j c)
    (h : Reach server body ok init p) :
    Global p.store ∧ ∀ j c, p.calls[j]? = some c → Local p.store j c := by
  refine h.invariant
    (fun p => Global p.store ∧ ∀ j c, p.calls[j]? = some c → Local p.store j c) ?_ ?_
  · refine ⟨start, ?_⟩
    intro j c found
    rw [none] at found
    cases found
  · intro p a q reach inv allowed stepped
    rcases step_cases stepped with
      ⟨req, rfl, rfl⟩ | ⟨i, choice, req, hist, o, next, r, store, rfl, found, answer, rfl⟩
    · refine ⟨inv.1, ?_⟩
      intro j c found
      rcases get_append_cases found with old | rfl
      · exact inv.2 j c old
      · exact fresh _ _ _ inv.1
    · obtain ⟨global, own, others⟩ :=
        keep p i choice req hist o next r store reach inv.1 inv.2 allowed found answer
      refine ⟨global, ?_⟩
      intro j c found'
      rcases get_set_cases found' with ⟨rfl, rfl⟩ | ⟨other, old⟩
      · exact own
      · exact others j c other old

end Pool

end DoorsControl.Kit
