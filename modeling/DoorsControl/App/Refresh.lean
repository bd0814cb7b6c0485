import DoorsControl.App.Interceptor
import Mathlib.Data.List.Sublists

/-!
# Refreshing in the app

* `RefreshInv` — **the invariant** of the runs in which no thread takes the lock while
  another one has yet to clear the session;
* `spent_once` — in such a run no refresh token is sent twice, and no pair is erased for
  a refresh that failed before it was saved;
* `spent_twice` — two threads that do both.
-/

namespace DoorsControl.App

/-! ## The invariant -/

/-- Inside of the lock. -/
def Phase.critical : Phase → Bool
  | .idle | .losing => false
  | _ => true

/-- The thread sent the token that the store still has, and will save or clear. -/
def Phase.spends : Phase → Bool
  | .received _ | .failed | .losing => true
  | _ => false

/-- The thread will clear the session. -/
def Phase.fails : Phase → Bool
  | .failed | .losing => true
  | _ => false

/-- The token that the thread has and is about to send or to save. -/
def Phase.token? : Phase → Option Text
  | .read token | .received token => some token
  | _ => none

/-- What holds of the store and of the threads: the phases they are in, and whose refresh
has failed. -/
structure RefreshInv (s : AppStore) (phases : Nat → Phase) (lost : Nat → Bool) : Prop where
  holder : ∀ j, (phases j).critical = true ↔ s.holder = some j
  /-- nobody is inside of the lock while a session is to be cleared -/
  alone : ∀ j k, (phases j).critical = true → phases k ≠ .losing
  /-- a token that was sent is in the store only until its thread goes on -/
  spent : ∀ token, s.tokens.refreshToken = some token → token ∈ sentTokens s.log →
    ∃ j, (phases j).spends = true
  fresh : ∀ j token, (phases j).token? = some token → token ∉ sentTokens s.log ∧ token ∈ s.issued
  issued : ∀ token, token ∈ sentTokens s.log ∨ s.tokens.refreshToken = some token →
    token ∈ s.issued
  once : (sentTokens s.log).Nodup
  failed : ∀ j, .failed j ∈ s.log → lost j = true
  /-- no pair was saved since the refresh failed -/
  quiet : ∀ j, (phases j).fails = true → ∀ k token,
    ¬ [RefreshEvent.saved k token, .failed j].Sublist s.log
  kept : ∀ j k token, ¬ [RefreshEvent.cleared j, .saved k token, .failed j].Sublist s.log

section Steps

open Function (update forall_update_iff)

variable {s : AppStore} {phases : Nat → Phase} {lost : Nat → Bool} {i : Nat}

/-- Two threads are not inside of the lock. -/
theorem RefreshInv.exclusive (inv : RefreshInv s phases lost) {j : Nat}
    (mine : (phases i).critical = true) (theirs : (phases j).critical = true) : j = i :=
  Option.some.inj (((inv.holder j).mp theirs).symm.trans ((inv.holder i).mp mine))

theorem critical_of_spends {here : Phase} (spends : here.spends = true) (other : here ≠ .losing) :
    here.critical = true := by
  cases here <;> first | rfl | exact absurd rfl other | cases spends

theorem critical_of_token {here : Phase} {token : Text} (has : here.token? = some token) :
    here.critical = true := by
  cases here <;> first | rfl | cases has

theorem critical_of_fails {here : Phase} (fails : here.fails = true) (other : here ≠ .losing) :
    here.critical = true := by
  cases here <;> first | rfl | exact absurd rfl other | cases fails

/-- While a thread is inside of the lock, nobody else spends or fails or has a token. -/
theorem RefreshInv.others (inv : RefreshInv s phases lost) (mine : (phases i).critical = true)
    {j : Nat} (other : j ≠ i) :
    (phases j).spends = false ∧ (phases j).fails = false ∧ (phases j).token? = none := by
  have outside : (phases j).critical = false :=
    Bool.eq_false_iff.mpr fun theirs => other (inv.exclusive mine theirs)
  have notLosing := inv.alone i j mine
  refine ⟨Bool.eq_false_iff.mpr fun spends => ?_, Bool.eq_false_iff.mpr fun fails => ?_,
    Option.eq_none_iff_forall_ne_some.mpr fun token has => ?_⟩
  · rw [critical_of_spends spends notLosing] at outside
    cases outside
  · rw [critical_of_fails fails notLosing] at outside
    cases outside
  · rw [critical_of_token has] at outside
    cases outside

/-- A token that the store has while a thread is inside of the lock was not sent yet, unless
that thread did. -/
theorem RefreshInv.unsent (inv : RefreshInv s phases lost) (mine : (phases i).critical = true)
    (idle : (phases i).spends = false) {token : Text} (has : s.tokens.refreshToken = some token) :
    token ∉ sentTokens s.log := by
  intro sent
  obtain ⟨j, spends⟩ := inv.spent token has sent
  by_cases same : j = i
  · rw [same, idle] at spends
    cases spends
  · rw [(inv.others mine same).1] at spends
    cases spends

/-- Who is inside of the lock may go from one phase to another there. -/
theorem RefreshInv.holder_inside (inv : RefreshInv s phases lost)
    (mine : (phases i).critical = true) {here : Phase} (inside : here.critical = true) :
    ∀ j, (update phases i here j).critical = true ↔ s.holder = some j :=
  (forall_update_iff phases fun j there => there.critical = true ↔ s.holder = some j).mpr
    ⟨iff_of_true inside ((inv.holder i).mp mine), fun j _ => inv.holder j⟩

theorem RefreshInv.alone_inside (inv : RefreshInv s phases lost)
    (mine : (phases i).critical = true) {here : Phase} (inside : here.critical = true) :
    ∀ j k, (update phases i here j).critical = true → update phases i here k ≠ .losing := by
  intro j k _
  refine (forall_update_iff phases fun _ there => there ≠ .losing).mpr ⟨?_, ?_⟩ k
  · rintro rfl
    cases inside
  · exact fun k _ => inv.alone i k mine

/-- An event that is neither the last save nor the last clearing adds nothing to a chain. -/
theorem not_sublist_cons {a e : RefreshEvent} {rest log : List RefreshEvent} (other : a ≠ e)
    (old : ¬ (a :: rest).Sublist log) : ¬ (a :: rest).Sublist (e :: log) := by
  intro sub
  rcases List.sublist_cons_iff.mp sub with inLog | ⟨_, same, -⟩
  · exact old inLog
  · exact other (List.cons.inj same).1

/-- A thread fails once. -/
theorem lost_of_failed {log : List RefreshEvent}
    (failed : ∀ j, RefreshEvent.failed j ∈ log → lost j = true) :
    ∀ j, RefreshEvent.failed j ∈ .failed i :: log → update lost i true j = true := by
  intro j mem
  by_cases same : j = i
  · rw [same, Function.update_self]
  · rw [Function.update_of_ne same]
    refine failed j ((List.mem_cons.mp mem).resolve_left fun isNew => same ?_)
    exact RefreshEvent.failed.inj isNew

/-- Nothing was saved since it did. -/
theorem quiet_of_failed {log : List RefreshEvent}
    (failed : ∀ j, RefreshEvent.failed j ∈ log → lost j = true)
    (quiet : ∀ j, (phases j).fails = true → ∀ k token,
      ¬ [RefreshEvent.saved k token, .failed j].Sublist log) (first : lost i = false) :
    ∀ j, (update phases i .failed j).fails = true → ∀ k token,
      ¬ [RefreshEvent.saved k token, .failed j].Sublist (.failed i :: log) := by
  refine (forall_update_iff phases fun j there => there.fails = true → ∀ k token,
    ¬ [RefreshEvent.saved k token, .failed j].Sublist (.failed i :: log)).mpr
      ⟨fun _ k token => ?_, fun j _ fails k token => ?_⟩
  · refine not_sublist_cons (by simp) fun sub => ?_
    rw [failed i (sub.subset (by simp))] at first
    cases first
  · exact not_sublist_cons (by simp) (quiet j fails k token)

/-- Into the lock, when no session is to be cleared. -/
theorem RefreshInv.lock (inv : RefreshInv s phases lost) (free : s.holder = none)
    (settled : ∀ j, phases j ≠ .losing) :
    RefreshInv { s with holder := some i } (update phases i .locked) lost where
  holder := by
    refine (forall_update_iff phases fun j there => there.critical = true ↔ some i = some j).mpr
      ⟨iff_of_true rfl rfl, fun j other => iff_of_false ?_ ?_⟩
    · intro theirs
      rw [(inv.holder j).mp theirs] at free
      cases free
    · intro same
      exact other (Option.some.inj same).symm
  alone j k _ := (forall_update_iff phases fun _ there => there ≠ .losing).mpr
    ⟨by simp, fun k _ => settled k⟩ k
  spent token has sent := by
    obtain ⟨j, spends⟩ := inv.spent token has sent
    rw [(inv.holder j).mp (critical_of_spends spends (settled j))] at free
    cases free
  fresh := (forall_update_iff phases fun _ there => ∀ token, there.token? = some token →
    token ∉ sentTokens s.log ∧ token ∈ s.issued).mpr ⟨nofun, fun j _ => inv.fresh j⟩
  issued := inv.issued
  once := inv.once
  failed := inv.failed
  quiet := (forall_update_iff phases fun j there => there.fails = true → ∀ k token,
    ¬ [RefreshEvent.saved k token, .failed j].Sublist s.log).mpr
      ⟨nofun, fun j _ => inv.quiet j⟩
  kept := inv.kept

/-- There is no refresh token. -/
theorem RefreshInv.noToken (inv : RefreshInv s phases lost) (locked : phases i = .locked)
    (first : lost i = false) (absent : s.tokens.refreshToken = none) :
    RefreshInv { s with log := .failed i :: s.log } (update phases i .failed)
      (update lost i true) where
  holder := inv.holder_inside (by rw [locked]; rfl) rfl
  alone := inv.alone_inside (by rw [locked]; rfl) rfl
  spent token has := by
    rw [show s.tokens.refreshToken = some token from has] at absent
    cases absent
  fresh := (forall_update_iff phases fun _ there => ∀ token, there.token? = some token →
    token ∉ sentTokens s.log ∧ token ∈ s.issued).mpr ⟨nofun, fun j _ => inv.fresh j⟩
  issued := inv.issued
  once := inv.once
  failed := lost_of_failed inv.failed
  quiet := quiet_of_failed inv.failed inv.quiet first
  kept j k token := not_sublist_cons (by simp) (inv.kept j k token)

/-- The token is read: it was not sent yet. -/
theorem RefreshInv.readToken (inv : RefreshInv s phases lost) (locked : phases i = .locked)
    {token : Text} (has : s.tokens.refreshToken = some token) :
    RefreshInv s (update phases i (.read token)) lost where
  holder := inv.holder_inside (by rw [locked]; rfl) rfl
  alone := inv.alone_inside (by rw [locked]; rfl) rfl
  spent token' has' sent := by
    refine absurd sent (inv.unsent (i := i) ?_ ?_ has') <;> rw [locked] <;> rfl
  fresh := by
    refine (forall_update_iff phases fun _ there => ∀ token, there.token? = some token →
      token ∉ sentTokens s.log ∧ token ∈ s.issued).mpr ⟨?_, fun j _ => inv.fresh j⟩
    intro token' same
    obtain rfl := Option.some.inj same
    refine ⟨inv.unsent (i := i) ?_ ?_ has, inv.issued token (.inr has)⟩ <;> rw [locked] <;> rfl
  issued := inv.issued
  once := inv.once
  failed := inv.failed
  quiet := (forall_update_iff phases fun j there => there.fails = true → ∀ k token,
    ¬ [RefreshEvent.saved k token, .failed j].Sublist s.log).mpr ⟨nofun, fun j _ => inv.quiet j⟩
  kept := inv.kept

/-- The server answers with a new pair. -/
theorem RefreshInv.succeed (inv : RefreshInv s phases lost) {token refresh : Text}
    (read : phases i = .read token) (new : refresh ∉ s.issued) :
    RefreshInv { s with issued := refresh :: s.issued, log := .sent i token :: s.log }
      (update phases i (.received refresh)) lost where
  holder := inv.holder_inside (by rw [read]; rfl) rfl
  alone := inv.alone_inside (by rw [read]; rfl) rfl
  spent _ _ _ := ⟨i, by rw [Function.update_self]; rfl⟩
  fresh := by
    obtain ⟨unsent, made⟩ := inv.fresh i token (by rw [read]; rfl)
    refine (forall_update_iff phases fun _ there => ∀ t, there.token? = some t →
      t ∉ token :: sentTokens s.log ∧ t ∈ refresh :: s.issued).mpr ⟨?_, fun j other t has => ?_⟩
    · intro t same
      obtain rfl := Option.some.inj same
      refine ⟨fun mem => ?_, List.mem_cons_self⟩
      rcases List.mem_cons.mp mem with rfl | sent
      · exact new made
      · exact new (inv.issued _ (.inl sent))
    · rw [(inv.others (by rw [read]; rfl) other).2.2] at has
      cases has
  issued t := by
    obtain ⟨-, made⟩ := inv.fresh i token (by rw [read]; rfl)
    rintro (sent | has)
    · rcases List.mem_cons.mp sent with rfl | old
      · exact List.mem_cons_of_mem _ made
      · exact List.mem_cons_of_mem _ (inv.issued t (.inl old))
    · exact List.mem_cons_of_mem _ (inv.issued t (.inr has))
  once := List.nodup_cons.mpr ⟨(inv.fresh i token (by rw [read]; rfl)).1, inv.once⟩
  failed j mem := inv.failed j (by simpa using mem)
  quiet := (forall_update_iff phases fun j there => there.fails = true → ∀ k t,
    ¬ [RefreshEvent.saved k t, .failed j].Sublist (.sent i token :: s.log)).mpr
      ⟨nofun, fun j _ fails k t => not_sublist_cons (by simp) (inv.quiet j fails k t)⟩
  kept j k t := not_sublist_cons (by simp) (inv.kept j k t)

/-- The exchange fails. -/
theorem RefreshInv.fail (inv : RefreshInv s phases lost) {token : Text}
    (read : phases i = .read token) (first : lost i = false) :
    RefreshInv { s with log := .failed i :: .sent i token :: s.log } (update phases i .failed)
      (update lost i true) where
  holder := inv.holder_inside (by rw [read]; rfl) rfl
  alone := inv.alone_inside (by rw [read]; rfl) rfl
  spent _ _ _ := ⟨i, by rw [Function.update_self]; rfl⟩
  fresh := by
    refine (forall_update_iff phases fun _ there => ∀ t, there.token? = some t →
      t ∉ token :: sentTokens s.log ∧ t ∈ s.issued).mpr ⟨nofun, fun j other t has => ?_⟩
    rw [(inv.others (by rw [read]; rfl) other).2.2] at has
    cases has
  issued t := by
    rintro (sent | has)
    · rcases List.mem_cons.mp sent with rfl | old
      · exact (inv.fresh i t (by rw [read]; rfl)).2
      · exact inv.issued t (.inl old)
    · exact inv.issued t (.inr has)
  once := List.nodup_cons.mpr ⟨(inv.fresh i token (by rw [read]; rfl)).1, inv.once⟩
  failed := lost_of_failed fun j mem => inv.failed j (by simpa using mem)
  quiet := quiet_of_failed (fun j mem => inv.failed j (by simpa using mem))
    (fun j fails k t => not_sublist_cons (by simp) (inv.quiet j fails k t)) first
  kept j k t := not_sublist_cons (by simp) (not_sublist_cons (by simp) (inv.kept j k t))

/-- The new pair is saved. -/
theorem RefreshInv.save (inv : RefreshInv s phases lost) {access refresh : Text}
    (received : phases i = .received refresh) :
    RefreshInv { s with
      tokens := ⟨some access, some refresh⟩
      log := .saved i refresh :: s.log } (update phases i .saved) lost where
  holder := inv.holder_inside (by rw [received]; rfl) rfl
  alone := inv.alone_inside (by rw [received]; rfl) rfl
  spent token has sent := by
    obtain rfl := Option.some.inj has
    exact absurd sent (inv.fresh i refresh (by rw [received]; rfl)).1
  fresh := (forall_update_iff phases fun _ there => ∀ token, there.token? = some token →
    token ∉ sentTokens s.log ∧ token ∈ s.issued).mpr ⟨nofun, fun j _ => inv.fresh j⟩
  issued token := by
    rintro (sent | has)
    · exact inv.issued token (.inl sent)
    · obtain rfl := Option.some.inj has
      exact (inv.fresh i refresh (by rw [received]; rfl)).2
  once := inv.once
  failed j mem := inv.failed j (by simpa using mem)
  quiet := by
    refine (forall_update_iff phases fun j there => there.fails = true → ∀ k token,
      ¬ [RefreshEvent.saved k token, .failed j].Sublist (.saved i refresh :: s.log)).mpr
        ⟨nofun, fun j other fails => ?_⟩
    rw [(inv.others (by rw [received]; rfl) other).2.1] at fails
    cases fails
  kept j k token := not_sublist_cons (by simp) (inv.kept j k token)

/-- Out of the lock, with a session to clear or not. -/
theorem RefreshInv.unlock (inv : RefreshInv s phases lost) {here : Phase}
    (place : phases i = .failed ∧ here = .losing ∨ phases i = .saved ∧ here = .idle) :
    RefreshInv { s with holder := none } (update phases i here) lost where
  holder := by
    have mine : (phases i).critical = true := by
      rcases place with ⟨same, -⟩ | ⟨same, -⟩ <;> rw [same] <;> rfl
    refine (forall_update_iff phases fun j there => there.critical = true ↔ none = some j).mpr
      ⟨iff_of_false ?_ nofun, fun j other => iff_of_false ?_ nofun⟩
    · rcases place with ⟨-, rfl⟩ | ⟨-, rfl⟩ <;> exact nofun
    · exact fun theirs => other (inv.exclusive mine theirs)
  alone := by
    have mine : (phases i).critical = true := by
      rcases place with ⟨same, -⟩ | ⟨same, -⟩ <;> rw [same] <;> rfl
    intro j k theirs
    refine absurd theirs ((forall_update_iff phases fun j there => ¬ there.critical = true).mpr
      ⟨?_, fun j other theirs => other (inv.exclusive mine theirs)⟩ j)
    rcases place with ⟨-, rfl⟩ | ⟨-, rfl⟩ <;> exact nofun
  spent token has sent := by
    obtain ⟨j, spends⟩ := inv.spent token has sent
    by_cases same : j = i
    · subst same
      refine ⟨j, ?_⟩
      rw [Function.update_self]
      rcases place with ⟨-, rfl⟩ | ⟨isSaved, -⟩
      · rfl
      · rw [isSaved] at spends
        cases spends
    · exact ⟨j, by rw [Function.update_of_ne same, spends]⟩
  fresh := by
    refine (forall_update_iff phases fun _ there => ∀ token, there.token? = some token →
      token ∉ sentTokens s.log ∧ token ∈ s.issued).mpr ⟨?_, fun j _ => inv.fresh j⟩
    rcases place with ⟨-, rfl⟩ | ⟨-, rfl⟩ <;> exact nofun
  issued := inv.issued
  once := inv.once
  failed := inv.failed
  quiet := by
    refine (forall_update_iff phases fun j there => there.fails = true → ∀ k token,
      ¬ [RefreshEvent.saved k token, .failed j].Sublist s.log).mpr ⟨?_, fun j _ => inv.quiet j⟩
    rcases place with ⟨same, rfl⟩ | ⟨-, rfl⟩
    · exact fun _ => inv.quiet i (by rw [same]; rfl)
    · exact nofun
  kept := inv.kept

/-- The session is cleared: nothing was saved since the refresh failed. -/
theorem RefreshInv.clear (inv : RefreshInv s phases lost)
    (place : phases i = .losing ∨ phases i = .idle ∧ lost i = false) :
    RefreshInv { s with tokens := ⟨none, none⟩, log := .cleared i :: s.log }
      (update phases i .idle) lost where
  holder := by
    have outside : (phases i).critical = false := by
      rcases place with same | ⟨same, -⟩ <;> rw [same] <;> rfl
    refine (forall_update_iff phases fun j there => there.critical = true ↔ s.holder = some j).mpr
      ⟨?_, fun j _ => inv.holder j⟩
    rw [← inv.holder i, outside]
    exact Iff.rfl
  alone := by
    refine (forall_update_iff phases fun j there => ∀ k, there.critical = true →
      update phases i .idle k ≠ .losing).mpr ⟨nofun, fun j _ k theirs => ?_⟩
    refine (forall_update_iff phases fun _ there => there ≠ .losing).mpr ⟨?_, ?_⟩ k
    · simp
    · exact fun k _ => inv.alone j k theirs
  spent _ has := by cases has
  fresh := (forall_update_iff phases fun _ there => ∀ token, there.token? = some token →
    token ∉ sentTokens s.log ∧ token ∈ s.issued).mpr ⟨nofun, fun j _ => inv.fresh j⟩
  issued token := by
    rintro (sent | has)
    · exact inv.issued token (.inl sent)
    · cases has
  once := inv.once
  failed j mem := inv.failed j (by simpa using mem)
  quiet := (forall_update_iff phases fun j there => there.fails = true → ∀ k token,
    ¬ [RefreshEvent.saved k token, .failed j].Sublist (.cleared i :: s.log)).mpr
      ⟨nofun, fun j _ fails k token => not_sublist_cons (by simp) (inv.quiet j fails k token)⟩
  kept j k token sub := by
    rcases List.sublist_cons_iff.mp sub with inLog | ⟨rest, same, before⟩
    · exact inv.kept j k token inLog
    -- the clearing is this one: the call that clears has failed and holds the lock, or never failed
    · obtain ⟨isLast, rfl⟩ := List.cons.inj same
      obtain rfl := RefreshEvent.cleared.inj isLast
      rcases place with losing | ⟨-, never⟩
      · exact inv.quiet j (by rw [losing]; rfl) k token before
      · have known := inv.failed j (before.subset (by simp))
        rw [never] at known
        cases known

end Steps

/-! ## Runs -/

/-- The phase of a thread; one that is still to come is idle. -/
def phaseAt (p : AppPool) (j : Nat) : Phase := (p.calls[j]?.map fun c => phase c.hist).getD .idle

/-- The refresh of a thread failed. -/
def lostAt (p : AppPool) (j : Nat) : Bool := p.calls[j]?.any fun c => c.hist.any failure

/-- The guard: no thread takes the lock while another one has a session to clear. -/
def settled (p : AppPool) : AppAction → Bool
  | .start _ => true
  | .run i _ =>
      match p.calls[i]? with
      | some ⟨_, _, .op .lock _⟩ => p.calls.all fun c => phase c.hist ≠ .losing
      | _ => true

section Runs

variable {p : AppPool} {tokens : TokenStore} {i : Nat} {req : ApiRequest}
  {hist : List (Kit.Event RefreshOp RefreshOp.Res)} {o : RefreshOp}
  {next : o.Res → Intercept (Option Nat)} {prog : Intercept (Option Nat)}

theorem phaseAt_of_get {c : InterceptCall} (found : p.calls[i]? = some c) :
    phaseAt p i = phase c.hist := by
  unfold phaseAt
  rw [found]
  rfl

theorem lostAt_of_get {c : InterceptCall} (found : p.calls[i]? = some c) :
    lostAt p i = c.hist.any failure := by
  unfold lostAt
  rw [found]
  rfl

/-- A new thread is idle, as it was. -/
theorem phaseAt_start (p : AppPool) (req : ApiRequest) :
    phaseAt { p with calls := p.calls ++ [⟨req, [], intercept req⟩] } = phaseAt p ∧
      lostAt { p with calls := p.calls ++ [⟨req, [], intercept req⟩] } = lostAt p := by
  constructor <;> funext j
  · unfold phaseAt
    rw [List.getElem?_append]
    split_ifs with known
    · rfl
    · rw [List.getElem?_eq_none (Nat.not_lt.mp known)]
      cases j - p.calls.length <;> rfl
  · unfold lostAt
    rw [List.getElem?_append]
    split_ifs with known
    · rfl
    · rw [List.getElem?_eq_none (Nat.not_lt.mp known)]
      cases j - p.calls.length <;> rfl

/-- One thread goes on. -/
theorem phaseAt_set (found : p.calls[i]? = some ⟨req, hist, .op o next⟩) (store : AppStore)
    (hist' : List (Kit.Event RefreshOp RefreshOp.Res)) :
    phaseAt ⟨store, p.calls.set i ⟨req, hist', prog⟩⟩ = Function.update (phaseAt p) i (phase hist') ∧
      lostAt ⟨store, p.calls.set i ⟨req, hist', prog⟩⟩ =
        Function.update (lostAt p) i (hist'.any failure) := by
  constructor <;> funext j
  · by_cases same : j = i
    · subst same
      rw [Function.update_self]
      unfold phaseAt
      rw [List.getElem?_set_self', found]
      rfl
    · rw [Function.update_of_ne same]
      unfold phaseAt
      rw [List.getElem?_set_ne (Ne.symm same)]
  · by_cases same : j = i
    · subst same
      rw [Function.update_self]
      unfold lostAt
      rw [List.getElem?_set_self', found]
      rfl
    · rw [Function.update_of_ne same]
      unfold lostAt
      rw [List.getElem?_set_ne (Ne.symm same)]

/-- The invariant of a pool. -/
def Sound (p : AppPool) : Prop := RefreshInv p.store (phaseAt p) (lostAt p)

/-- An operation that the invariant does not see. -/
theorem RefreshInv.same {s : AppStore} {phases : Nat → Phase} {lost : Nat → Bool}
    (inv : RefreshInv s phases lost) (idle : phases i = .idle) :
    RefreshInv s (Function.update phases i .idle) lost := by
  rw [Function.update_eq_self_iff.mpr idle.symm]
  exact inv

/-- **One operation of one thread.** -/
theorem RefreshInv.step {s s' : AppStore} {phases : Nat → Phase} {lost : Nat → Bool}
    {choice : RefreshChoice} {r : o.Res} (inv : RefreshInv s phases lost)
    (here : phases i = phase hist) (mine : lost i = hist.any failure) (order : Order hist o)
    (ready : o = .lock → ∀ j, phases j ≠ .losing)
    (answered : appServer.exec i o choice s = some (r, s')) :
    RefreshInv s' (Function.update phases i (phase (⟨o, r⟩ :: hist)))
      (Function.update lost i (List.any (⟨o, r⟩ :: hist) failure)) := by
  have unlost : ∀ {b : Bool}, b = lost i → Function.update lost i b = lost := by
    rintro _ rfl
    exact Function.update_eq_self _ _
  cases o with
  | lock =>
      simp only [appServer] at answered
      split at answered
      · rename_i free
        obtain ⟨rfl, rfl⟩ := Prod.mk.inj (Option.some.inj answered)
        rw [unlost (by rw [mine]; rfl)]
        exact inv.lock free (ready rfl)
      · cases answered
  | unlock =>
      obtain ⟨rfl, rfl⟩ := Prod.mk.inj (Option.some.inj answered)
      rw [unlost (by rw [mine]; rfl)]
      refine inv.unlock ?_
      rcases order with failed | saved
      · exact .inl ⟨here.trans failed, if_pos failed⟩
      · exact .inr ⟨here.trans saved, if_neg (by rw [saved]; simp)⟩
  | refreshToken =>
      obtain ⟨locked, never⟩ := order
      simp only [appServer] at answered
      split at answered
      · rename_i absent
        obtain ⟨rfl, rfl⟩ := Prod.mk.inj (Option.some.inj answered)
        exact inv.noToken (here.trans locked) (mine.trans never) absent
      · rename_i token has
        obtain ⟨rfl, rfl⟩ := Prod.mk.inj (Option.some.inj answered)
        rw [unlost (by rw [mine]; rfl)]
        exact inv.readToken (here.trans locked) has
  | exchange token =>
      obtain ⟨read, never⟩ := order
      simp only [appServer] at answered
      split at answered
      · split_ifs at answered with made
        obtain ⟨rfl, rfl⟩ := Prod.mk.inj (Option.some.inj answered)
        rw [unlost (by rw [mine]; rfl)]
        exact inv.succeed (here.trans read) made
      · rename_i failed
        obtain ⟨rfl, rfl⟩ := Prod.mk.inj (Option.some.inj answered)
        have done := inv.fail (here.trans read) (mine.trans never)
        cases result : choice.exchange with
        | success access refresh => exact absurd result (failed access refresh)
        | _ => exact done
  | savePair access refresh =>
      obtain ⟨rfl, rfl⟩ := Prod.mk.inj (Option.some.inj answered)
      rw [unlost (by rw [mine]; rfl)]
      exact inv.save (here.trans order)
  | clearSession =>
      obtain ⟨rfl, rfl⟩ := Prod.mk.inj (Option.some.inj answered)
      rw [unlost (by rw [mine]; rfl)]
      refine inv.clear ?_
      rcases order with losing | ⟨idle, never⟩
      · exact .inl (here.trans losing)
      · exact .inr ⟨here.trans idle, mine.trans never⟩
  | proceed authorization =>
      obtain ⟨-, rfl⟩ := Prod.mk.inj (Option.some.inj answered)
      rw [unlost (by rw [mine]; rfl)]
      exact inv.same (here.trans order)
  | onSessionLost =>
      obtain ⟨-, rfl⟩ := Prod.mk.inj (Option.some.inj answered)
      rw [unlost (by rw [mine]; rfl)]
      exact inv.same (here.trans order)
  | accessToken =>
      obtain ⟨-, rfl⟩ := Prod.mk.inj (Option.some.inj answered)
      rw [unlost (by rw [mine]; rfl)]
      exact inv.same (here.trans order)

theorem sound_of_reach (reach : AppReach settled tokens p) : Sound p := by
  refine reach.invariant Sound ?_ ?_
  · exact {
      holder := fun j => iff_of_false nofun nofun
      alone := nofun
      spent := nofun
      fresh := nofun
      issued := fun token has => Option.mem_toList.mpr (has.resolve_left List.not_mem_nil)
      once := List.nodup_nil
      failed := nofun
      quiet := nofun
      kept := fun _ _ _ sub => by cases sub }
  intro p a q reach inv allowed stepped
  rcases Kit.Pool.step_cases stepped with
    ⟨req, rfl, rfl⟩ | ⟨i, choice, req, hist, o, next, r, store, rfl, found, answered, rfl⟩
  · obtain ⟨phases, lost⟩ := phaseAt_start p req
    unfold Sound
    rw [phases, lost]
    exact inv
  · obtain ⟨phases, lost⟩ : phaseAt ⟨store, p.calls.set i ⟨req, ⟨o, r⟩ :: hist, next r⟩⟩ = _ ∧ _ :=
      phaseAt_set found store (⟨o, r⟩ :: hist)
    unfold Sound
    rw [phases, lost]
    have steps := reach.steps rfl _ (List.mem_of_getElem? found)
    refine inv.step (phaseAt_of_get found) (lostAt_of_get found)
      ((intercept_order req).along steps).1 ?_ answered
    rintro rfl j
    simp only [settled, found, List.all_eq_true, decide_eq_true_eq] at allowed
    unfold phaseAt
    cases isCall : p.calls[j]? with
    | none => exact nofun
    | some c => exact allowed c (List.mem_of_getElem? isCall)

end Runs

/-- What the lock is there for: no token is sent twice, and no pair that was saved is erased
for a refresh that had failed before. -/
def KeepsSession (log : List RefreshEvent) : Prop :=
  (sentTokens log).Nodup ∧
    ∀ j k token, ¬ [RefreshEvent.cleared j, .saved k token, .failed j].Sublist log

/-- **Refreshing in the app.** In every run, for any number of threads and any outcome of
each exchange, as long as no thread takes the lock while another one, whose refresh failed,
has not cleared the session yet. -/
theorem spent_once (tokens : TokenStore) (p : AppPool) (reach : AppReach settled tokens p) :
    KeepsSession p.store.log :=
  ⟨(sound_of_reach reach).once, (sound_of_reach reach).kept⟩

/-! ## Two threads -/

def signedIn : TokenStore := ⟨some (text "a0"), some (text "r0")⟩

def doorsRequest : ApiRequest := ⟨text "/api/v1/me/doors", some (text "Bearer a0")⟩

/-- One thread, whose exchange succeeds. -/
def refreshSchedule : List AppAction :=
  [.start doorsRequest, .run 0 { response := some 401 }, .run 0 {}, .run 0 {},
    .run 0 { exchange := .success (text "a1") (text "r1") }, .run 0 {}, .run 0 {}]

theorem spent_once_sample : ∃ p, AppReach settled signedIn p ∧
    p.store.log = [.saved 0 (text "r1"), .sent 0 (text "r0")] ∧ KeepsSession p.store.log := by
  have ran : (Kit.Pool.run appServer intercept settled (idleApp signedIn) refreshSchedule).map
      (fun p => p.store.log) = some [.saved 0 (text "r1"), .sent 0 (text "r0")] := by
    decide +kernel
  obtain ⟨p, reach, seen⟩ := Kit.Pool.reach_of_map_run refreshSchedule ran
  exact ⟨p, reach, seen, spent_once signedIn p reach⟩

/-- The request of the first thread is lost. The second one takes the lock before the first
has cleared the session, sends the same token, and its new pair is erased. -/
def racingSchedule : List AppAction :=
  [.start doorsRequest, .start doorsRequest,
    .run 0 { response := some 401 }, .run 1 { response := some 401 },
    .run 0 {}, .run 0 {}, .run 0 { exchange := .requestLost }, .run 0 {},
    .run 1 {}, .run 1 {}, .run 1 { exchange := .success (text "a1") (text "r1") }, .run 1 {},
    .run 0 {}]

def racingLog : List RefreshEvent :=
  [.cleared 0, .saved 1 (text "r1"), .sent 1 (text "r0"), .failed 0, .sent 0 (text "r0")]

/-- Without the guard a token is sent twice, and a pair is erased. -/
theorem spent_twice :
    (¬ ∀ tokens p, AppReach (fun _ _ => true) tokens p → (sentTokens p.store.log).Nodup) ∧
      ¬ ∀ tokens p, AppReach (fun _ _ => true) tokens p → ∀ j k token,
        ¬ [RefreshEvent.cleared j, .saved k token, .failed j].Sublist p.store.log := by
  have ran : (Kit.Pool.run appServer intercept (fun _ _ => true) (idleApp signedIn)
      racingSchedule).map (fun p => p.store.log) = some racingLog := by
    decide +kernel
  obtain ⟨p, reach, seen⟩ := Kit.Pool.reach_of_map_run racingSchedule ran
  refine ⟨fun claim => ?_, fun claim => ?_⟩
  · have once := claim signedIn p reach
    rw [seen] at once
    exact absurd once (by decide)
  · refine claim signedIn p reach 0 1 (text "r1") ?_
    rw [seen]
    decide

end DoorsControl.App
