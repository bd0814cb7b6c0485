import DoorsControl.Api.LoginBudget
import DoorsControl.Data.Lowercase

/-!
# One account under several spellings

`users.py` looks a user up by PostgreSQL's `lower(username)`, `ratelimit.py` counts under Python's
`username.lower()`. The dotted capital I becomes `i` in one and two code points in the other.

* `subjects_eq` — every count and every failure of a login is under one subject;
* `subjects_eq_iff` — **when two spellings of one account share it**;
* `respelled` — `ivan`, and `ivan` with a dotted capital I.
-/

namespace DoorsControl.Api

open DoorsControl.Auth (AuthError AuthOp)
open Kit.Prog

/-! ## Names -/

/-- The white space of Unicode, which pydantic strips. -/
def isWhiteSpace (c : CodePoint) : Bool :=
  (9 ≤ c.val && c.val ≤ 13) || c.val = 32 || c.val = 0x85 || c.val = 0xA0 || c.val = 0x1680 ||
    (0x2000 ≤ c.val && c.val ≤ 0x200A) || c.val = 0x2028 || c.val = 0x2029 || c.val = 0x202F ||
    c.val = 0x205F || c.val = 0x3000

/-- `LoginRequest.username`, of what was sent. -/
def admitUsername (sent : Text) : Option Text :=
  let username := ((sent.dropWhile isWhiteSpace).reverse.dropWhile isWhiteSpace).reverse
  if 3 ≤ username.length ∧ username.length ≤ 64 then some username else none

/-- `users_username_shape` -/
def hasShape (username : Text) : Bool :=
  3 ≤ username.length && username.length ≤ 64 &&
    username.all (text "abcdefghijklmnopqrstuvwxyz0123456789._-").contains

/-- `UserRepository.by_username` over the names of the table. -/
def byUsername (stored : List Text) (username : Text) : Option Text :=
  stored.find? fun name => pgLower name = pgLower username

theorem byUsername_eq_some {stored : List Text} {username user : Text}
    (found : byUsername stored username = some user) :
    user ∈ stored ∧ pgLower user = pgLower username := by
  unfold byUsername at found
  have same := List.find?_some found
  exact ⟨List.mem_of_find?_eq_some found, of_decide_eq_true same⟩

/-- A name of the table is ASCII in lower case. -/
theorem ascii_of_hasShape {user : Text} (shape : hasShape user = true) :
    ∀ c ∈ pgLower user, c.val < 128 := by
  have allowed : (text "abcdefghijklmnopqrstuvwxyz0123456789._-").all
      (fun c => decide ((simpleLower c).val < 128)) = true := by
    decide +kernel
  unfold hasShape at shape
  rw [Bool.and_eq_true, List.all_eq_true] at shape
  intro c mem
  obtain ⟨d, inside, rfl⟩ := List.mem_map.mp mem
  have plain := List.contains_iff_mem.mp (shape.2 d inside)
  exact of_decide_eq_true (List.all_eq_true.mp allowed d plain)

/-! ## Subjects -/

/-- The name under which an operation counts or records failures. -/
def userSubject : LoginOp → Option Text
  | .failureCount .user subject _ => some subject
  | .recordFailure .user subject _ _ => some subject
  | _ => none

/-- The operation is under this name, or under none. -/
def Under (key : Text) (_ : List LoginEvent) (o : LoginOp) : Prop :=
  ∀ subject, userSubject o = some subject → subject = key

section Subjects

variable (settings : LoginSettings)

/-- Every name under which a request may count or record failures. -/
def subjects (req : LoginRequest) : Set Text :=
  fun subject => ∃ hist q e, Steps (login settings req).run hist q ∧ e ∈ hist ∧
    userSubject e.op = some subject

variable {settings} {key : Text}

theorem under_none {o : LoginOp} {hist : List LoginEvent} (none : userSubject o = none) :
    Under key hist o := by
  intro subject some
  rw [none] at some
  cases some

theorem fromAuth_under {α : Type} (p : Kit.Prog AuthOp AuthOp.Res α) {hist : List LoginEvent} :
    Always (Under key) (OnOk fun _ _ => True) hist (fromAuth p) := by
  induction p generalizing hist with
  | pure value => trivial
  | op o next ih => exact ⟨under_none rfl, fun r => ih r⟩

/-- What the address counts and records is under no name. -/
theorem byAddress_under {α : Type} {o : LoginOp} {answer : o.Res → Except LoginError α}
    (none : userSubject o = none) {hist : List LoginEvent} :
    Always (Under key) (OnOk fun _ _ => True) hist (attempt o answer).run := by
  refine ⟨under_none none, fun r => ?_⟩
  show OnOk _ _ (answer r)
  cases answer r <;> trivial

theorem checkLogin_under (username : Text) (clientIp : Option Text) {hist : List LoginEvent} :
    Always (Under (settings.lower username)) (OnOk fun _ _ => True) hist
      (checkLogin settings username clientIp).run := by
  unfold checkLogin
  refine always_attemptBind ?_ fun _ _ _ => ?_
  · exact fun subject same => (Option.some.inj same).symm
  refine always_seq (P := fun _ _ => True) ?_ fun _ _ _ => trivial
  cases clientIp with
  | none => trivial
  | some ip =>
      unfold countByIp
      dsimp only
      split_ifs
      · trivial
      · exact byAddress_under rfl

theorem recordLoginFailure_under (username : Text) (clientIp : Option Text) (endpoint : Text)
    {hist : List LoginEvent} :
    Always (Under (settings.lower username)) (OnOk fun _ _ => True) hist
      (recordLoginFailure settings username clientIp endpoint).run := by
  unfold recordLoginFailure
  refine always_attemptBind ?_ fun _ _ _ => ?_
  · exact fun subject same => (Option.some.inj same).symm
  cases clientIp with
  | none => trivial
  | some ip =>
      dsimp only
      split_ifs
      · trivial
      · exact byAddress_under rfl

theorem authenticate_under (req : LoginRequest) (decision : RateDecision)
    {hist : List LoginEvent} :
    Always (Under (settings.lower (text req.username))) (OnOk fun _ _ => True) hist
      (authenticate settings req decision).run := by
  unfold authenticate
  refine always_seq (P := fun _ _ => True) (fromAuth_under _) ?_
  intro hist' result _
  cases result with
  | ok pair => trivial
  | error error =>
      cases error with
      | database error => trivial
      | authentication reason =>
          refine always_seq (recordLoginFailure_under _ _ _) fun _ _ _ => ?_
          refine ⟨under_none rfl, fun _ => ?_⟩
          refine always_seq (P := fun _ _ => True) ?_ fun _ _ _ => trivial
          unfold ifThen
          split_ifs
          · exact ⟨under_none rfl, fun _ => trivial⟩
          · trivial

theorem login_under (req : LoginRequest) :
    Always (Under (settings.lower (text req.username))) (OnOk fun _ _ => True) []
      (login settings req).run := by
  unfold login
  refine always_seq (checkLogin_under _ _) fun _ decision _ => ?_
  refine always_ifThenBind ?_ fun _ => authenticate_under req decision
  exact ⟨under_none rfl, fun _ => trivial⟩

/-- Every count and every failure of a login is under one subject. -/
theorem subjects_eq (req : LoginRequest) :
    subjects settings req = {settings.lower (text req.username)} := by
  refine Set.eq_singleton_iff_unique_mem.mpr ⟨?_, ?_⟩
  · -- the failures of the name are counted first
    let counts : LoginOp :=
      .failureCount .user (settings.lower (text req.username)) settings.rateWindowSeconds
    have first : ∃ next, (login settings req).run = .op counts next := ⟨_, rfl⟩
    obtain ⟨next, isFirst⟩ := first
    have reached : Steps (login settings req).run [] (.op counts next) := isFirst ▸ .start
    exact ⟨_, _, _, .more (Except.ok 0) reached, List.mem_cons_self, rfl⟩
  · rintro subject ⟨hist, q, e, steps, mem, isSubject⟩
    obtain ⟨later, before, shape⟩ := List.append_of_mem mem
    exact (login_under req).past steps shape subject isSubject

end Subjects

/-- **Two spellings of one account** share their subject exactly if the dotted capital I stands at
the same places. -/
theorem subjects_eq_iff (settings : LoginSettings) (isFinal : Text → Text → Bool)
    (stored : List Text) (shaped : ∀ user ∈ stored, hasShape user = true) (user : Text)
    (first second : LoginRequest) (resolves : byUsername stored (text first.username) = some user)
    (resolves' : byUsername stored (text second.username) = some user) :
    subjects { settings with lower := strLower isFinal } first =
        subjects { settings with lower := strLower isFinal } second ↔
      (text first.username).map isDottedI = (text second.username).map isDottedI := by
  obtain ⟨mem, same⟩ := byUsername_eq_some resolves
  have same' := (byUsername_eq_some resolves').2
  have ascii := ascii_of_hasShape (shaped user mem)
  rw [subjects_eq, subjects_eq, Set.singleton_eq_singleton_iff]
  exact strLower_eq_iff (same.symm.trans same') (same ▸ ascii)

/-! ## Ivan -/

def asIvan (username : String) : LoginRequest := ⟨username, "guess", 3, none⟩

theorem subjects_eq_iff_sample :
    subjects { sampleLogin with lower := strLower fun _ _ => false } (asIvan "ivan") =
      subjects { sampleLogin with lower := strLower fun _ _ => false } (asIvan "IVAN") :=
  (subjects_eq_iff sampleLogin (fun _ _ => false) [text "ivan"] (by decide) (text "ivan")
    (asIvan "ivan") (asIvan "IVAN") (by decide +kernel) (by decide +kernel)).mpr (by decide)

/-- Both names are admitted and are Ivan's; they are counted apart. -/
theorem respelled :
    ¬∀ (settings : LoginSettings) (isFinal : Text → Text → Bool) (stored : List Text),
      (∀ user ∈ stored, hasShape user = true) → ∀ (user : Text) (first second : LoginRequest),
      admitUsername (text first.username) = some (text first.username) →
      admitUsername (text second.username) = some (text second.username) →
      byUsername stored (text first.username) = some user →
      byUsername stored (text second.username) = some user →
      subjects { settings with lower := strLower isFinal } first =
        subjects { settings with lower := strLower isFinal } second := by
  intro shared
  have same := shared sampleLogin (fun _ _ => false) [text "ivan"] (by decide) (text "ivan")
    (asIvan "ivan") (asIvan "\u0130van") (by decide +kernel) (by decide +kernel)
    (by decide +kernel) (by decide +kernel)
  rw [subjects_eq, subjects_eq, Set.singleton_eq_singleton_iff] at same
  exact absurd same (by decide +kernel)

end DoorsControl.Api
