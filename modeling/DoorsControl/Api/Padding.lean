import DoorsControl.Api.LoginBudget
import Mathlib.Data.Rat.Defs
import Mathlib.Tactic.Linarith

/-!
# The padding of a failed login

`login` of `app/api/auth.py`: "Every outcome below costs the same wall clock time. The progressive
delay earned by earlier failures is added on top". The delay is slept inside the block that
`fixed_duration` pads.

Times are exact numbers of milliseconds. What an operation takes is for the surroundings to say,
with the computing before it; only a sleep takes what it is asked for.

* `slept_of_failed` — a failed login sleeps its delay, once;
* `padding_iff` — **when two failures take the fixed time and the delay**;
* `padding_overlaps` — two failures, fifty milliseconds apart.
-/

namespace DoorsControl.Api

open DoorsControl.Auth (AuthError AuthOp)
open Kit.Prog

/-- `fixed_duration`: what the block takes, with its pad. -/
def fixedDuration (milliseconds : Int) (elapsedMs : ℚ) : ℚ :=
  let remaining := milliseconds - elapsedMs
  if remaining > 0 then elapsedMs + remaining else elapsedMs

/-- What `apply_delay` waits for. -/
def appliedDelay (decision : RateDecision) : ℚ :=
  if decision.delayMs > 0 then decision.delayMs else 0

/-- The time of the operations that are no sleeps. -/
def worked (took : List LoginEvent → LoginOp → ℚ) : List LoginEvent → ℚ
  | [] => 0
  | ⟨.sleep _, _⟩ :: before => worked took before
  | ⟨o, _⟩ :: before => took before o + worked took before

/-- The time of the sleeps. -/
def slept : List LoginEvent → ℚ
  | [] => 0
  | ⟨.sleep milliseconds, _⟩ :: before => milliseconds + slept before
  | _ :: before => slept before

/-- A request that was let through, with what its operations are answered and take. -/
structure Attempt where
  req : LoginRequest
  oracle : List LoginEvent → (o : LoginOp) → o.Res
  took : List LoginEvent → LoginOp → ℚ

namespace Attempt

variable (settings : LoginSettings) (decision : RateDecision) (attempt : Attempt)

def run : List LoginEvent × Except LoginError Auth.IssuedTokens :=
  runWith attempt.oracle [] (authenticate settings attempt.req decision).run

/-- It ends in an `AuthenticationError`. -/
def Failed : Prop :=
  ∃ reason, (attempt.run settings decision).2 = .error (.auth (.authentication reason))

/-- The work inside the block. -/
def workMs : ℚ := worked attempt.took (attempt.run settings decision).1

/-- The whole response. -/
def responseMs (authFixedResponseMs : Int) : ℚ :=
  fixedDuration authFixedResponseMs
    (attempt.workMs settings decision + slept (attempt.run settings decision).1)

end Attempt

/-! ## What is slept -/

/-- The time of the sleeps is still the same, and what is raised is no refusal. -/
def NoSleep {α : Type} (before : List LoginEvent) (hist : List LoginEvent) :
    Except LoginError α → Prop
  | .ok _ => slept hist = slept before
  | .error error => ∃ name, error = .other name

theorem fromAuth_noSleep {α : Type} (p : Kit.Prog AuthOp AuthOp.Res α)
    {before hist : List LoginEvent} (same : slept hist = slept before) :
    Always (fun _ _ => True) (NoSleep before) hist (fromAuth p) := by
  induction p generalizing hist with
  | pure value => exact same
  | op o next ih => exact ⟨trivial, fun r => ih r same⟩

/-- A statement that may raise, whose operation is no sleep. -/
theorem raising_noSleep {α : Type} {o : LoginOp} {answer : o.Res → Except Text α}
    {hist : List LoginEvent} (awake : ∀ r, slept (⟨o, r⟩ :: hist) = slept hist) :
    Always (fun _ _ => True) (NoSleep hist) hist
      (attempt o fun r => raising (answer r)).run := by
  refine ⟨trivial, fun r => ?_⟩
  show NoSleep hist (⟨o, r⟩ :: hist) (raising (answer r))
  cases answer r with
  | ok value => exact awake r
  | error name => exact ⟨name, rfl⟩

variable (settings : LoginSettings)

theorem recordLoginFailure_noSleep (username : Text) (clientIp : Option Text) (endpoint : Text)
    (hist : List LoginEvent) :
    Always (fun _ _ => True) (NoSleep hist) hist
      (recordLoginFailure settings username clientIp endpoint).run := by
  unfold recordLoginFailure
  refine (always_exceptBind _ _).mpr ((raising_noSleep fun _ => rfl).mono ?_)
  rintro hist' (error | ⟨⟩) same
  · exact same
  cases clientIp with
  | none => exact same
  | some ip =>
      dsimp only
      split_ifs
      · exact same
      · refine (raising_noSleep fun _ => rfl).mono ?_
        rintro hist'' (error | ⟨⟩) same'
        · exact same'
        · exact same'.trans same

/-- A failed login sleeps its delay, once. -/
theorem authenticate_sleeps (req : LoginRequest) (decision : RateDecision) :
    Always (fun _ _ => True) (fun hist result =>
      ∀ reason, result = .error (.auth (.authentication reason)) →
        slept hist = appliedDelay decision) []
      (authenticate settings req decision).run := by
  unfold authenticate
  refine (always_exceptBind _ _).mpr ((fromAuth_noSleep _ (show slept [] = slept [] from rfl)).mono ?_)
  rintro hist (error | (error | pair)) same
  · obtain ⟨name, rfl⟩ := same
    exact nofun
  · cases error with
    | database error => exact nofun
    | authentication reason =>
        refine (always_exceptBind _ _).mpr ((recordLoginFailure_noSleep settings _ _ _ _).mono ?_)
        rintro hist' (error | ⟨⟩) same'
        · obtain ⟨name, rfl⟩ := same'
          exact nofun
        refine (always_callBind _ _).mpr ⟨trivial, fun _ => ?_⟩
        have awake : slept hist' = 0 := same'.trans same
        unfold ifThen appliedDelay
        by_cases late : decision.delayMs > 0
        · rw [if_pos (decide_eq_true late), if_pos late]
          refine (always_callBind _ _).mpr ⟨trivial, fun _ _ _ => ?_⟩
          show decision.delayMs + slept hist' = (decision.delayMs : ℚ)
          rw [awake, add_zero]
        · rw [if_neg late, decide_eq_false late, if_neg Bool.false_ne_true]
          exact fun _ _ => awake
  · exact nofun

variable {settings}

theorem slept_of_failed {decision : RateDecision} {attempt : Attempt}
    (failed : attempt.Failed settings decision) :
    slept (attempt.run settings decision).1 = appliedDelay decision := by
  obtain ⟨reason, isResult⟩ := failed
  exact (authenticate_sleeps settings attempt.req decision).along
    (steps_runWith attempt.oracle .start) reason isResult

/-! ## What is padded -/

theorem appliedDelay_nonneg (decision : RateDecision) : 0 ≤ appliedDelay decision := by
  unfold appliedDelay
  split_ifs with late
  · exact_mod_cast late.le
  · exact le_rfl

/-- The longer of the fixed time and the work with its delay. -/
theorem responseMs_eq {decision : RateDecision} {attempt : Attempt}
    (failed : attempt.Failed settings decision) (authFixedResponseMs : Int) :
    attempt.responseMs settings decision authFixedResponseMs =
      max (authFixedResponseMs : ℚ) (attempt.workMs settings decision + appliedDelay decision) := by
  unfold Attempt.responseMs fixedDuration
  rw [slept_of_failed failed]
  dsimp only
  split_ifs with early
  · rw [max_eq_left (by linarith), add_sub_cancel]
  · rw [max_eq_right (by linarith)]

/-- The delay comes on top if there is none, or if the work fills the fixed time. -/
theorem added_iff {fixed work delay : ℚ} (fits : work ≤ fixed) (nonneg : 0 ≤ delay) :
    max fixed (work + delay) = fixed + delay ↔ delay = 0 ∨ work = fixed := by
  constructor
  · intro added
    rcases le_total fixed (work + delay) with longer | shorter
    · rw [max_eq_right longer] at added
      exact .inr (by linarith)
    · rw [max_eq_left shorter] at added
      exact .inl (by linarith)
  · rintro (rfl | rfl)
    · rw [add_zero, add_zero, max_eq_left fits]
    · exact max_eq_right (by linarith)

/-- **The padding.** Two failures under one decision, whose work fits the fixed time, both take
the fixed time and the delay exactly if there is no delay or both fill the fixed time. -/
theorem padding_iff (settings : LoginSettings) (authFixedResponseMs : Int) (decision : RateDecision)
    (first second : Attempt) (failed : first.Failed settings decision)
    (failed' : second.Failed settings decision)
    (fits : first.workMs settings decision ≤ authFixedResponseMs)
    (fits' : second.workMs settings decision ≤ authFixedResponseMs) :
    (first.responseMs settings decision authFixedResponseMs =
          second.responseMs settings decision authFixedResponseMs ∧
        first.responseMs settings decision authFixedResponseMs =
          authFixedResponseMs + appliedDelay decision) ↔
      appliedDelay decision = 0 ∨ (first.workMs settings decision = authFixedResponseMs ∧
        second.workMs settings decision = authFixedResponseMs) := by
  have nonneg := appliedDelay_nonneg decision
  rw [responseMs_eq failed, responseMs_eq failed', or_and_left, ← added_iff fits nonneg,
    ← added_iff fits' nonneg]
  constructor
  · rintro ⟨same, total⟩
    exact ⟨total, same.symm.trans total⟩
  · rintro ⟨total, total'⟩
    exact ⟨total.trans total'.symm, total⟩

/-! ## After one failure -/

/-- What the limiter says after one failure, at the default limits. -/
def secondTry : RateDecision := ⟨true, 250, 0, 1, .user⟩

/-- A guess whose lookup takes this long. -/
def guessIn (milliseconds : ℚ) : Attempt where
  req := sampleGuess
  oracle := fun _ => sampleAnswer
  took := fun _ o =>
    match o with
    | .auth _ => milliseconds
    | _ => 0

theorem guessIn_failed (milliseconds : ℚ) : (guessIn milliseconds).Failed sampleLogin secondTry :=
  ⟨"bad_password", rfl⟩

theorem guessIn_workMs (milliseconds : ℚ) :
    (guessIn milliseconds).workMs sampleLogin secondTry = milliseconds := by
  show 0 + (0 + (milliseconds + 0)) = milliseconds
  rw [zero_add, zero_add, add_zero]

theorem padding_iff_sample :
    (guessIn 400).responseMs sampleLogin secondTry 400 =
        (guessIn 400).responseMs sampleLogin secondTry 400 ∧
      (guessIn 400).responseMs sampleLogin secondTry 400 = 400 + appliedDelay secondTry := by
  have fits : (guessIn 400).workMs sampleLogin secondTry ≤ (400 : Int) := by
    rw [guessIn_workMs]
    norm_num
  exact_mod_cast (padding_iff sampleLogin 400 secondTry (guessIn 400) (guessIn 400)
    (guessIn_failed _) (guessIn_failed _) fits fits).mpr
      (.inr (by rw [guessIn_workMs]; norm_num))

/-- Work of 100 and of 200 milliseconds, a delay of 250: the responses take 400 and 450. -/
theorem padding_overlaps :
    ¬∀ (settings : LoginSettings) (authFixedResponseMs : Int) (decision : RateDecision)
      (first second : Attempt), first.Failed settings decision → second.Failed settings decision →
      first.workMs settings decision ≤ authFixedResponseMs →
      second.workMs settings decision ≤ authFixedResponseMs →
      first.responseMs settings decision authFixedResponseMs =
          second.responseMs settings decision authFixedResponseMs ∧
        first.responseMs settings decision authFixedResponseMs =
          authFixedResponseMs + appliedDelay decision := by
  intro hides
  have same := (hides sampleLogin 400 secondTry (guessIn 100) (guessIn 200) (guessIn_failed _)
    (guessIn_failed _) (by rw [guessIn_workMs]; norm_num) (by rw [guessIn_workMs]; norm_num)).1
  have delay : appliedDelay secondTry = 250 := by
    unfold appliedDelay secondTry
    norm_num
  rw [responseMs_eq (guessIn_failed _), responseMs_eq (guessIn_failed _), guessIn_workMs,
    guessIn_workMs, delay] at same
  norm_num at same

end DoorsControl.Api
