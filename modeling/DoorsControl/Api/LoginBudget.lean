import DoorsControl.Api.Login
import Mathlib.Data.List.Perm.Subperm

/-!
# The budget of wrong passwords

`check_login` counts the failures of an account before a slow password check, and the failure
is recorded after it. Requests that are between the two are not in the count.

* `login_ordered` — what comes before what in one request;
* `atRisk` — the wrong passwords of a period together with **the requests on their way to a
  password check**;
* `wrong_within_budget` — the budget, in every run in which a count lets a request through
  only while what it does not see leaves room;
* `wrong_over_budget` — six requests that are counted before any of them is recorded.
-/

namespace DoorsControl.Api

open DoorsControl.Audit (AuditCall Timestamp)
open DoorsControl.Auth (AuthOp AuthSettings UserRecord)
open Kit.Prog

/-! ## One request -/

section Request

variable (settings : LoginSettings)

/-- A count reached the limit. -/
def isRefused (hist : List LoginEvent) : Bool :=
  hist.any fun e => match e with
    | ⟨.failureCount _ _ _, .ok failures⟩ => settings.rateMaxLoginFailures ≤ failures
    | _ => false

def looksUp : LoginEvent → Bool
  | ⟨.auth (.byUsername _), _⟩ => true
  | _ => false

/-- The user was looked up. -/
def isLooked (hist : List LoginEvent) : Bool := hist.any looksUp

/-- The password was verified, and it was wrong. -/
def isWrong (password : String) (hist : List LoginEvent) : Bool :=
  hist.any fun e => match e with
    | ⟨.auth (.byUsername _), some user⟩ => !settings.verifyPassword user.passwordHash password
    | _ => false

/-- A count of the failures of the user that was answered. -/
def countsUser : LoginEvent → Bool
  | ⟨.failureCount .user _ _, .ok _⟩ => true
  | _ => false

/-- The failures of the user were counted. -/
def isCounted (hist : List LoginEvent) : Bool := hist.any countsUser

/-- The failures of the user are counted first, and the user is looked up once, after counts
below the limit. -/
def Ordered (hist : List LoginEvent) : LoginOp → Prop
  | .failureCount .user _ _ => hist = []
  | .auth (.byUsername _) =>
      isCounted hist = true ∧ isRefused settings hist = false ∧ isLooked hist = false
  | _ => True

/-- The lookup of a user comes first. -/
def LookupFirst (past : List Auth.AuthEvent) : AuthOp → Prop
  | .byUsername _ => past = []
  | _ => True

theorem issuePair_lookupFirst (auth : AuthSettings) (userId deviceId : Uuid)
    (past : List Auth.AuthEvent) :
    Always LookupFirst (OnOk fun _ _ => True) past
      (Auth.issuePair auth userId deviceId none none).run := by
  have insert_lookupFirst : ∀ token past,
      Always LookupFirst (OnOk fun _ _ => True) past (Auth.insert token).run := by
    intro token past
    refine ⟨trivial, fun answer => ?_⟩
    cases answer <;> trivial
  refine ⟨trivial, fun family => ⟨trivial, fun access => ⟨trivial, fun refresh => ?_⟩⟩⟩
  refine always_seq (insert_lookupFirst _ _) fun _ _ _ => ?_
  refine always_seq (insert_lookupFirst _ _) fun _ _ _ => ?_
  trivial

theorem authLogin_lookupFirst (auth : AuthSettings) (username password : String)
    (deviceId : Uuid) (clientIp : Option Text) :
    Always LookupFirst (OnOk fun _ _ => True) []
      (Auth.login auth username password deviceId clientIp).run := by
  simp only [Auth.login, always_callBind]
  refine ⟨rfl, fun user => ?_⟩
  cases user with
  | none => trivial
  | some user =>
      dsimp only
      split_ifs
      · trivial
      · trivial
      · simp only [always_callBind]
        refine ⟨trivial, fun device => ?_⟩
        cases device with
        | none => trivial
        | some device =>
            dsimp only
            split_ifs
            · trivial
            · trivial
            · trivial
            · refine always_seq (issuePair_lookupFirst auth _ _ _) fun _ _ _ => ?_
              exact ⟨trivial, fun _ => ⟨trivial, fun _ => ⟨trivial, fun _ => trivial⟩⟩⟩

/-- A program of the authentication service, where its lookup is allowed. -/
theorem fromAuth_ordered {α : Type} {p : Kit.Prog AuthOp AuthOp.Res (Except Auth.AuthError α)}
    {past : List Auth.AuthEvent} {hist : List LoginEvent}
    (h : Always LookupFirst (OnOk fun _ _ => True) past p)
    (allowed : past = [] →
      isCounted hist = true ∧ isRefused settings hist = false ∧ isLooked hist = false) :
    Always (Ordered settings) (OnOk fun _ _ => True) hist (fromAuth p) := by
  induction p generalizing past hist with
  | pure value => trivial
  | op o next ih =>
      refine ⟨?_, fun r => ih r (h.2 r) fun empty => absurd empty (List.cons_ne_nil _ _)⟩
      cases o with
      | byUsername username => exact allowed h.1
      | _ => trivial

/-- What `checkLogin` leaves behind when it lets the request through. -/
def Allowed (hist : List LoginEvent) (decision : RateDecision) : Prop :=
  decision.allowed = true →
    isCounted hist = true ∧ isRefused settings hist = false ∧ isLooked hist = false

theorem eq_ok_of_raising {α : Type} {answer : Except Text α} {value : α}
    (h : raising answer = .ok value) : answer = .ok value := by
  cases answer with
  | ok other => exact congrArg _ (Except.ok.inj h)
  | error name => cases h

theorem checkLogin_allowed (username : Text) (clientIp : Option Text) :
    Always (Ordered settings) (OnOk (Allowed settings)) []
      (checkLogin settings username clientIp).run := by
  unfold checkLogin
  refine always_attemptBind rfl fun answer byUser userCount => ?_
  obtain rfl := eq_ok_of_raising userCount
  let Below := fun (hist : List LoginEvent) (byIp : Int) =>
    max byUser byIp < settings.rateMaxLoginFailures →
      isCounted hist = true ∧ isRefused settings hist = false ∧ isLooked hist = false
  refine always_seq (P := Below) ?_ ?_
  · have alone : ∀ subject seconds,
        Below [⟨.failureCount .user subject seconds, .ok byUser⟩] 0 := by
      intro subject seconds below
      have user := lt_of_le_of_lt (le_max_left byUser 0) below
      exact ⟨rfl, by simp [isRefused, user], rfl⟩
    cases clientIp with
    | none => exact alone _ _
    | some ip =>
        unfold countByIp
        dsimp only
        split_ifs
        · exact alone _ _
        · refine ⟨trivial, fun answer => ?_⟩
          cases answer with
          | error name => trivial
          | ok byIp =>
              intro below
              have user := lt_of_le_of_lt (le_max_left byUser byIp) below
              have address := lt_of_le_of_lt (le_max_right byUser byIp) below
              exact ⟨rfl,
                by simp [isRefused, user, address], rfl⟩
  · intro hist byIp below
    show Allowed settings hist (loginDecision settings byUser byIp)
    unfold Allowed loginDecision
    by_cases reached : max byUser byIp ≥ settings.rateMaxLoginFailures
    · intro allowed
      simp [reached] at allowed
    · intro _
      exact below (Int.not_le.mp reached)

theorem recordLoginFailure_ordered (username : Text) (clientIp : Option Text) (endpoint : Text)
    (hist : List LoginEvent) :
    Always (Ordered settings) (OnOk fun _ _ => True) hist
      (recordLoginFailure settings username clientIp endpoint).run := by
  unfold recordLoginFailure
  refine always_attemptBind trivial fun _ _ _ => ?_
  cases clientIp with
  | none => trivial
  | some ip =>
      dsimp only
      split_ifs
      · trivial
      · refine ⟨trivial, fun answer => ?_⟩
        cases answer <;> trivial

theorem authenticate_ordered (req : LoginRequest) (decision : RateDecision)
    {hist : List LoginEvent} (counted : isCounted hist = true)
    (allowed : isRefused settings hist = false) (first : isLooked hist = false) :
    Always (Ordered settings) (OnOk fun _ _ => True) hist
      (authenticate settings req decision).run := by
  unfold authenticate
  refine always_seq (P := fun _ _ => True)
    (fromAuth_ordered settings (authLogin_lookupFirst _ _ _ _ _) fun _ => ⟨counted, allowed, first⟩) ?_
  intro hist' result _
  cases result with
  | ok pair => trivial
  | error error =>
      cases error with
      | database error => trivial
      | authentication reason =>
          refine always_seq (recordLoginFailure_ordered settings _ _ _ _) fun _ _ _ => ?_
          refine ⟨trivial, fun _ => ?_⟩
          refine always_seq (P := fun _ _ => True) ?_ fun _ _ _ => trivial
          unfold ifThen
          split_ifs
          · exact ⟨trivial, fun _ => trivial⟩
          · trivial

/-- The order of the statements of a request. -/
theorem login_ordered (req : LoginRequest) :
    Always (Ordered settings) (OnOk fun _ _ => True) [] (login settings req).run := by
  unfold login
  refine always_seq (checkLogin_allowed settings _ _) fun hist decision allowed => ?_
  refine always_ifThenBind ⟨trivial, fun _ => trivial⟩ fun notDenied => ?_
  obtain ⟨counted, below, first⟩ := allowed (by simpa using notDenied)
  exact authenticate_ordered settings req decision counted below first

end Request

/-! ## Requests for one account -/

section Account

variable (settings : LoginSettings) (pgLower : Text → Text) (account : Text)

/-- `lower(username) = lower($1)` of `by_username`, for an account whose user name is
lower-case. -/
def isFor (req : LoginRequest) : Bool := pgLower (text req.username) = account

/-- A request that may still verify its password. -/
def isOpen (c : LoginCall) : Bool :=
  c.result.isNone && !isRefused settings c.hist && !isLooked c.hist

/-- The user of request `i` was looked up in the period, and its password is wrong. -/
def wrongAt (s : LoginStore) (first last : Timestamp) (i : Nat) (c : LoginCall) : Bool :=
  isWrong settings c.req.password c.hist &&
    s.looked.any fun entry => entry.1 = i && first ≤ entry.2 && entry.2 ≤ last

/-- The requests for the account that verify a wrong password in the period. -/
def wrongIn (p : LoginPool) (first last : Timestamp) : List Nat :=
  (List.range p.calls.length).filter fun i => p.calls[i]?.any fun c =>
    isFor pgLower account c.req && wrongAt settings p.store first last i c

/-- Or: a request that was counted by the end of the period and may become one. -/
def mayFail (s : LoginStore) (last : Timestamp) (i : Nat) (c : LoginCall) : Bool :=
  isOpen settings c && s.counted.any fun entry => entry.1 = i && entry.2 ≤ last

/-- A request for the account that is one or the other. -/
def atRisk (p : LoginPool) (first last : Timestamp) (i : Nat) : Bool :=
  p.calls[i]?.any fun c => isFor pgLower account c.req &&
    (wrongAt settings p.store first last i c || mayFail settings p.store last i c)

/-- The requests at risk in the last window that a count does not see: no failure of theirs
is in it. -/
def unseen (p : LoginPool) (subject : Text) (seconds : Int) (now : Timestamp) : List Nat :=
  (List.range p.calls.length).filter fun i =>
    atRisk settings pgLower account p (now - settings.rateWindowSeconds * 1000000 + 1) now i &&
      !p.store.rows.any fun row => row.call = i && row.isCounted .user subject seconds now

/-- A count lets a request for the account through only while what it does not see leaves
room. -/
def budgeted (p : LoginPool) : LoginAction → Bool
  | .start _ => true
  | .run i choice =>
      match p.calls[i]? with
      | some ⟨req, _, .op (.failureCount .user subject seconds) _⟩ =>
          let failures := countFailures p.store.rows .user subject seconds choice.now
          !isFor pgLower account req ||
            !succeeded (choice.answer (.failureCount .user subject seconds)) ||
            settings.rateMaxLoginFailures ≤ failures ||
            failures + (unseen settings pgLower account p subject seconds choice.now).length <
              settings.rateMaxLoginFailures
      | _ => true

end Account

/-! ## Every run -/

/-- What holds of the store and of request `i`. -/
structure LoginCallInv (s : LoginStore) (i : Nat) (c : LoginCall) : Prop where
  fresh : c.hist = [] → ∀ time, (i, time) ∉ s.counted
  counted : isCounted c.hist = true → ∃ time, (i, time) ∈ s.counted
  looked : isLooked c.hist = false → ∀ time, (i, time) ∉ s.looked

/-- What holds in every state of every run. -/
structure LoginInv (p : LoginPool) : Prop where
  counted : ∀ entry ∈ p.store.counted, entry.1 < p.calls.length ∧ entry.2 ≤ p.store.clock
  looked : ∀ entry ∈ p.store.looked, entry.1 < p.calls.length ∧ entry.2 ≤ p.store.clock
  calls : ∀ i c, p.calls[i]? = some c → LoginCallInv p.store i c

/-- What one statement of request `i` notes. -/
structure Notes (i : Nat) (e : LoginEvent) (s s' : LoginStore) : Prop where
  clock : s'.clock = s.clock
  counted : s'.counted = if countsUser e then (i, s.clock) :: s.counted else s.counted
  looked : s'.looked = if looksUp e then (i, s.clock) :: s.looked else s.looked

theorem loginStep_notes {i : Nat} {o : LoginOp} {choice : LoginChoice} {s s' : LoginStore}
    {r : o.Res} (stepped : loginStep i o choice s = (r, s')) : Notes i ⟨o, r⟩ s s' := by
  cases o with
  | failureCount subjectType subject seconds =>
      simp only [loginStep] at stepped
      split at stepped
      · obtain ⟨rfl, rfl⟩ := Prod.mk.inj stepped
        cases subjectType <;> exact ⟨rfl, rfl, rfl⟩
      · obtain ⟨rfl, rfl⟩ := Prod.mk.inj stepped
        cases subjectType <;> exact ⟨rfl, rfl, rfl⟩
  | recordFailure subjectType subject endpoint clientIp =>
      obtain ⟨rfl, rfl⟩ := Prod.mk.inj stepped
      split_ifs <;> exact ⟨rfl, rfl, rfl⟩
  | auth op =>
      cases op <;>
        · obtain ⟨rfl, rfl⟩ := Prod.mk.inj stepped
          exact ⟨rfl, rfl, rfl⟩
  | _ =>
      obtain ⟨rfl, rfl⟩ := Prod.mk.inj stepped
      exact ⟨rfl, rfl, rfl⟩

/-- A statement at its time. -/
theorem loginExec_eq {i : Nat} {o : LoginOp} {choice : LoginChoice} {s s' : LoginStore}
    {r : o.Res} (answered : loginServer.exec i o choice s = some (r, s')) :
    s.clock ≤ choice.now ∧ loginStep i o choice { s with clock := choice.now } = (r, s') := by
  change (if choice.now < s.clock then none else some _) = _ at answered
  split_ifs at answered with late
  exact ⟨Int.not_lt.mp late, Option.some.inj answered⟩

theorem mem_noted {noted : Bool} {i : Nat} {now : Timestamp} {entries : List (Nat × Timestamp)}
    {entry : Nat × Timestamp} : entry ∈ (if noted then (i, now) :: entries else entries) ↔
      (noted = true ∧ entry = (i, now)) ∨ entry ∈ entries := by
  cases noted <;> simp

/-- What request `i` notes is not about another one. -/
theorem mem_noted_other {noted : Bool} {i j : Nat} {now time : Timestamp}
    {entries : List (Nat × Timestamp)} (other : j ≠ i) :
    (j, time) ∈ (if noted then (i, now) :: entries else entries) ↔ (j, time) ∈ entries := by
  rw [mem_noted]
  refine or_iff_right ?_
  rintro ⟨-, mine⟩
  exact other (Prod.mk.inj mine).1

section Step

variable {i : Nat} {e : LoginEvent} {s s' : LoginStore}

/-- A request does not notice what the others do. -/
theorem LoginCallInv.frame {j : Nat} {c : LoginCall} (inv : LoginCallInv s j c) (other : j ≠ i)
    (notes : Notes i e s s') : LoginCallInv s' j c := by
  refine ⟨?_, ?_, ?_⟩
  · intro unstarted time
    rw [notes.counted, mem_noted_other other]
    exact inv.fresh unstarted time
  · intro counted
    obtain ⟨time, mem⟩ := inv.counted counted
    exact ⟨time, by rwa [notes.counted, mem_noted_other other]⟩
  · intro unlooked time
    rw [notes.looked, mem_noted_other other]
    exact inv.looked unlooked time

/-- What a request notes is what its history shows. -/
theorem LoginCallInv.step {req : LoginRequest} {hist : List LoginEvent}
    {prog next : LoginProg (Except LoginError Auth.IssuedTokens)}
    (inv : LoginCallInv s i ⟨req, hist, prog⟩) (notes : Notes i e s s') :
    LoginCallInv s' i ⟨req, e :: hist, next⟩ := by
  refine ⟨fun unstarted => absurd unstarted (List.cons_ne_nil _ _), ?_, ?_⟩
  · intro counted
    rw [notes.counted]
    rcases Bool.or_eq_true_iff.mp counted with now | before
    · exact ⟨s.clock, mem_noted.mpr (.inl ⟨now, rfl⟩)⟩
    · obtain ⟨time, mem⟩ := inv.counted before
      exact ⟨time, mem_noted.mpr (.inr mem)⟩
  · intro unlooked time mem
    rw [notes.looked] at mem
    obtain ⟨notNow, notBefore⟩ := Bool.or_eq_false_iff.mp unlooked
    rcases mem_noted.mp mem with ⟨now, -⟩ | before
    · rw [notNow] at now
      cases now
    · exact inv.looked notBefore time before

end Step

/-- The time alone changes nothing. -/
theorem LoginCallInv.onward {s : LoginStore} {i : Nat} {c : LoginCall}
    (inv : LoginCallInv s i c) (now : Timestamp) : LoginCallInv { s with clock := now } i c :=
  ⟨inv.fresh, inv.counted, inv.looked⟩

theorem loginInv_of_reach {settings : LoginSettings} {ok : LoginPool → LoginAction → Bool}
    {p : LoginPool} (reach : LoginReach settings ok p) : LoginInv p := by
  refine reach.invariant LoginInv ⟨by simp [quietLogin], by simp [quietLogin],
    by simp [quietLogin]⟩ ?_
  intro p a q _ inv _ stepped
  rcases Kit.Pool.step_cases stepped with
    ⟨req, rfl, rfl⟩ | ⟨i, choice, req, hist, o, next, r, store, rfl, found, answered, rfl⟩
  · have longer : p.calls.length <
        (p.calls ++ [(⟨req, [], (login settings req).run⟩ : LoginCall)]).length := by
      simp
    refine ⟨fun entry mem => ⟨(inv.counted entry mem).1.trans longer, (inv.counted entry mem).2⟩,
      fun entry mem => ⟨(inv.looked entry mem).1.trans longer, (inv.looked entry mem).2⟩, ?_⟩
    intro i c found
    rcases Kit.Pool.get_append_index_cases found with known | ⟨rfl, rfl⟩
    · exact inv.calls i c known
    · have old : ¬ p.calls.length < p.calls.length := lt_irrefl _
      refine ⟨fun _ time mem => old (inv.counted _ mem).1, ?_,
        fun _ time mem => old (inv.looked _ mem).1⟩
      intro counted
      cases counted
  · obtain ⟨onward, done⟩ := loginExec_eq answered
    have notes := loginStep_notes done
    obtain ⟨started, -⟩ := List.getElem?_eq_some_iff.mp found
    have dated : ∀ (noted : Bool) (entries : List (Nat × Timestamp)),
        (∀ entry ∈ entries, entry.1 < p.calls.length ∧ entry.2 ≤ p.store.clock) →
        ∀ entry ∈ (if noted then (i, choice.now) :: entries else entries),
          entry.1 < p.calls.length ∧ entry.2 ≤ choice.now := by
      intro noted entries old entry mem
      rcases mem_noted.mp mem with ⟨-, rfl⟩ | known
      · exact ⟨started, le_rfl⟩
      · exact ⟨(old entry known).1, (old entry known).2.trans onward⟩
    refine ⟨?_, ?_, ?_⟩
    · rw [show store.counted = _ from notes.counted, show store.clock = _ from notes.clock,
        List.length_set]
      exact dated _ _ inv.counted
    · rw [show store.looked = _ from notes.looked, show store.clock = _ from notes.clock,
        List.length_set]
      exact dated _ _ inv.looked
    · intro j c found'
      rcases Kit.Pool.get_set_cases found' with ⟨rfl, rfl⟩ | ⟨other, old⟩
      · exact ((inv.calls j _ found).onward choice.now).step notes
      · exact ((inv.calls j c old).onward choice.now).frame other notes

/-! ## What one step adds to the risk -/

section Risk

variable {settings : LoginSettings} {first last : Timestamp} {i : Nat} {c : LoginCall}
  {e : LoginEvent} {s s' : LoginStore}

theorem wrongAt_iff : wrongAt settings s first last i c = true ↔
    isWrong settings c.req.password c.hist = true ∧
      ∃ time, (i, time) ∈ s.looked ∧ first ≤ time ∧ time ≤ last := by
  simp only [wrongAt, Bool.and_eq_true, List.any_eq_true, decide_eq_true_eq]
  refine and_congr_right fun _ => ⟨?_, ?_⟩
  · rintro ⟨⟨j, time⟩, mem, ⟨rfl, after⟩, before⟩
    exact ⟨time, mem, after, before⟩
  · rintro ⟨time, mem, after, before⟩
    exact ⟨(i, time), mem, ⟨rfl, after⟩, before⟩

theorem mayFail_iff : mayFail settings s last i c = true ↔
    (c.result = none ∧ isRefused settings c.hist = false ∧ isLooked c.hist = false) ∧
      ∃ time, (i, time) ∈ s.counted ∧ time ≤ last := by
  simp only [mayFail, isOpen, Bool.and_eq_true, List.any_eq_true, decide_eq_true_eq,
    Bool.not_eq_true', Option.isNone_iff_eq_none, and_assoc]
  refine and_congr_right fun _ => and_congr_right fun _ => and_congr_right fun _ => ⟨?_, ?_⟩
  · rintro ⟨⟨j, time⟩, mem, rfl, before⟩
    exact ⟨time, mem, before⟩
  · rintro ⟨time, mem, before⟩
    exact ⟨(i, time), mem, rfl, before⟩

/-- Only a lookup makes a request wrong. -/
theorem isWrong_cons (password : String) (hist : List LoginEvent) (other : looksUp e = false) :
    isWrong settings password (e :: hist) = isWrong settings password hist := by
  obtain ⟨o, r⟩ := e
  cases o with
  | auth op =>
      cases op with
      | byUsername username => cases other
      | _ => rfl
  | _ => rfl

/-- The others are neither more nor less at risk. -/
theorem risk_frame {j : Nat} (other : j ≠ i) (notes : Notes i e s s') :
    (wrongAt settings s' first last j c || mayFail settings s' last j c) =
      (wrongAt settings s first last j c || mayFail settings s last j c) := by
  refine congrArg₂ _ ?_ ?_
  · rw [Bool.eq_iff_iff, wrongAt_iff, wrongAt_iff, notes.looked]
    simp only [mem_noted_other other]
  · rw [Bool.eq_iff_iff, mayFail_iff, mayFail_iff, notes.counted]
    simp only [mem_noted_other other]

theorem ordered_of_looksUp {hist : List LoginEvent} {o : LoginOp} {r : o.Res}
    (ordered : Ordered settings hist o) (looks : looksUp ⟨o, r⟩ = true) :
    isCounted hist = true ∧ isRefused settings hist = false ∧ isLooked hist = false := by
  cases o with
  | auth op =>
      cases op with
      | byUsername username => exact ordered
      | _ => cases looks
  | _ => cases looks

/-- A lookup turns a request that may fail into one that did or did not. Only a count puts a
request at risk. -/
theorem risk_step {req : LoginRequest} {hist : List LoginEvent} {o : LoginOp} {r : o.Res}
    {next : o.Res → LoginProg (Except LoginError Auth.IssuedTokens)}
    (inv : LoginCallInv s i ⟨req, hist, .op o next⟩) (ordered : Ordered settings hist o)
    (dated : ∀ entry ∈ s.counted, entry.2 ≤ s.clock) (notes : Notes i ⟨o, r⟩ s s')
    (risk : (wrongAt settings s' first last i ⟨req, ⟨o, r⟩ :: hist, next r⟩ ||
      mayFail settings s' last i ⟨req, ⟨o, r⟩ :: hist, next r⟩) = true) :
    (wrongAt settings s first last i ⟨req, hist, .op o next⟩ ||
        mayFail settings s last i ⟨req, hist, .op o next⟩) = true ∨
      (countsUser ⟨o, r⟩ = true ∧ isRefused settings [⟨o, r⟩] = false ∧ s.clock ≤ last) := by
  rcases Bool.or_eq_true_iff.mp risk with wrong | waiting
  · obtain ⟨wrong, time, mem, after, before⟩ := wrongAt_iff.mp wrong
    rw [notes.looked] at mem
    refine .inl (Bool.or_eq_true_iff.mpr ?_)
    by_cases looks : looksUp ⟨o, r⟩ = true
    · -- it was open until now
      obtain ⟨counted, allowed, first⟩ := ordered_of_looksUp ordered looks
      obtain ⟨-, rfl⟩ : _ ∧ time = s.clock := by
        rcases mem_noted.mp mem with ⟨-, same⟩ | old
        · exact Prod.mk.inj same
        · exact absurd old (inv.looked first time)
      obtain ⟨earlier, known⟩ := inv.counted counted
      exact .inr (mayFail_iff.mpr
        ⟨⟨rfl, allowed, first⟩, earlier, known, (dated _ known).trans before⟩)
    · have quiet := Bool.not_eq_true _ ▸ looks
      rw [isWrong_cons _ _ quiet] at wrong
      rw [quiet] at mem
      exact .inl (wrongAt_iff.mpr ⟨wrong, time, mem, after, before⟩)
  · obtain ⟨⟨-, allowed, unlooked⟩, time, mem, before⟩ := mayFail_iff.mp waiting
    obtain ⟨here, allowed⟩ := Bool.or_eq_false_iff.mp allowed
    obtain ⟨-, unlooked⟩ := Bool.or_eq_false_iff.mp unlooked
    rw [notes.counted] at mem
    rcases mem_noted.mp mem with ⟨counts, same⟩ | old
    · obtain rfl := (Prod.mk.inj same).2
      exact .inr ⟨counts, by simpa [isRefused] using here, before⟩
    · exact .inl (Bool.or_eq_true_iff.mpr
        (.inr (mayFail_iff.mpr ⟨⟨rfl, allowed, unlooked⟩, time, old, before⟩)))

end Risk

/-! ## The budget -/

section Budget

variable (settings : LoginSettings) (pgLower : Text → Text) (account : Text)

def atRiskIn (p : LoginPool) (first last : Timestamp) : List Nat :=
  (List.range p.calls.length).filter (atRisk settings pgLower account p first last)

variable {settings pgLower account}

theorem mem_atRiskIn {p : LoginPool} {first last : Timestamp} {i : Nat} :
    i ∈ atRiskIn settings pgLower account p first last ↔
      ∃ c, p.calls[i]? = some c ∧ isFor pgLower account c.req = true ∧
        (wrongAt settings p.store first last i c || mayFail settings p.store last i c) = true := by
  simp only [atRiskIn, atRisk, List.mem_filter, List.mem_range, Option.any_eq_true,
    Bool.and_eq_true]
  constructor
  · rintro ⟨-, c, facts⟩
    exact ⟨c, facts⟩
  · rintro ⟨c, found, facts⟩
    exact ⟨(List.getElem?_eq_some_iff.mp found).1, c, found, facts⟩

theorem atRiskIn_length_le {p : LoginPool} {first last : Timestamp} {others : List Nat}
    (inside : ∀ i ∈ atRiskIn settings pgLower account p first last, i ∈ others) :
    (atRiskIn settings pgLower account p first last).length ≤ others.length :=
  (List.subperm_of_subset (List.nodup_range.filter _) inside).length_le

/-- Who is at risk in a short period that is not over is at risk in the last window. -/
theorem risk_now {s : LoginStore} {first last now : Timestamp} {i : Nat} {c : LoginCall}
    (short : last - first < settings.rateWindowSeconds * 1000000) (notOver : now ≤ last)
    (counted : ∀ entry ∈ s.counted, entry.2 ≤ now) (looked : ∀ entry ∈ s.looked, entry.2 ≤ now)
    (risk : (wrongAt settings s first last i c || mayFail settings s last i c) = true) :
    (wrongAt settings s (now - settings.rateWindowSeconds * 1000000 + 1) now i c ||
      mayFail settings s now i c) = true := by
  rcases Bool.or_eq_true_iff.mp risk with wrong | waiting
  · obtain ⟨wrong, time, mem, after, -⟩ := wrongAt_iff.mp wrong
    refine Bool.or_eq_true_iff.mpr (.inl (wrongAt_iff.mpr ⟨wrong, time, mem, ?_, looked _ mem⟩))
    have recent : ∀ a b t u w : Int, b - a < w * 1000000 → t ≤ b → a ≤ u →
        t - w * 1000000 + 1 ≤ u := by
      intro a b t u w
      omega
    exact recent first last now time _ short notOver after
  · obtain ⟨facts, time, mem, -⟩ := mayFail_iff.mp waiting
    exact Bool.or_eq_true_iff.mpr (.inr (mayFail_iff.mpr ⟨facts, time, mem, counted _ mem⟩))

/-- A count that lets a request through under the guard leaves room for it. -/
theorem room_of_budgeted {p : LoginPool} {i : Nat} {choice : LoginChoice} {req : LoginRequest}
    {hist : List LoginEvent} {o : LoginOp} {r : o.Res} {store : LoginStore}
    {next : o.Res → LoginProg (Except LoginError Auth.IssuedTokens)}
    (found : p.calls[i]? = some ⟨req, hist, .op o next⟩)
    (allowed : budgeted settings pgLower account p (.run i choice) = true)
    (done : loginStep i o choice { p.store with clock := choice.now } = (r, store))
    (forAccount : isFor pgLower account req = true) (counts : countsUser ⟨o, r⟩ = true)
    (below : isRefused settings [⟨o, r⟩] = false) :
    ∃ subject seconds, (countFailures p.store.rows .user subject seconds choice.now : Int) +
      (unseen settings pgLower account p subject seconds choice.now).length <
        settings.rateMaxLoginFailures := by
  cases o with
  | failureCount subjectType subject seconds =>
      cases subjectType with
      | user =>
          refine ⟨subject, seconds, ?_⟩
          simp only [budgeted, found, forAccount] at allowed
          simp only [loginStep] at done
          split at done
          · obtain ⟨rfl, -⟩ := Prod.mk.inj done
            cases counts
          · rename_i failures answered
            obtain ⟨rfl, -⟩ := Prod.mk.inj done
            rw [answered] at allowed
            have notReached : ¬ settings.rateMaxLoginFailures ≤
                (countFailures p.store.rows .user subject seconds choice.now : Int) := by
              simpa [isRefused] using below
            simpa [succeeded, notReached] using allowed
      | _ => cases counts
  | _ => cases counts

/-- Who was at risk before a count is seen by it or not. -/
theorem seen_or_unseen {p : LoginPool} (inv : LoginInv p) {first last now : Timestamp}
    {subject : Text} {seconds : Int} (onward : p.store.clock ≤ now) (notOver : now ≤ last)
    (short : last - first < settings.rateWindowSeconds * 1000000) {i : Nat}
    (mem : i ∈ atRiskIn settings pgLower account p first last) :
    i ∈ unseen settings pgLower account p subject seconds now ++
      (p.store.rows.filter (FailureRow.isCounted .user subject seconds now)).map
        FailureRow.call := by
  obtain ⟨c, found, forAccount, risk⟩ := mem_atRiskIn.mp mem
  have now_risk := risk_now short notOver (fun entry mem => (inv.counted entry mem).2.trans onward)
    (fun entry mem => (inv.looked entry mem).2.trans onward) risk
  rw [List.mem_append]
  by_cases seen : (p.store.rows.any fun row =>
      row.call = i && row.isCounted .user subject seconds now) = true
  · obtain ⟨row, inLog, mine⟩ := List.any_eq_true.mp seen
    obtain ⟨same, counted⟩ := Bool.and_eq_true_iff.mp mine
    exact .inr (List.mem_map.mpr
      ⟨row, List.mem_filter.mpr ⟨inLog, counted⟩, of_decide_eq_true same⟩)
  · refine .inl (List.mem_filter.mpr
      ⟨List.mem_range.mpr (List.getElem?_eq_some_iff.mp found).1, ?_⟩)
    rw [Bool.and_eq_true, Bool.not_eq_true']
    refine ⟨?_, Bool.not_eq_true _ ▸ seen⟩
    rw [atRisk, found, Option.any_some, forAccount, now_risk]
    rfl

/-- The requests at risk stay within the limit. -/
theorem atRisk_within_budget {p : LoginPool}
    (reach : LoginReach settings (budgeted settings pgLower account) p) :
    ∀ first last, last - first < settings.rateWindowSeconds * 1000000 →
      ((atRiskIn settings pgLower account p first last).length : Int) ≤
        max settings.rateMaxLoginFailures 0 := by
  refine reach.invariant (fun p => ∀ first last,
    last - first < settings.rateWindowSeconds * 1000000 →
      ((atRiskIn settings pgLower account p first last).length : Int) ≤
        max settings.rateMaxLoginFailures 0) ?_ ?_
  · intro first last _
    exact le_max_right _ _
  · intro p a q reach within allowed stepped first last short
    have inv := loginInv_of_reach reach
    rcases Kit.Pool.step_cases stepped with
      ⟨req, rfl, rfl⟩ | ⟨i, choice, req, hist, o, next, r, store, rfl, found, answered, rfl⟩
    · -- a new request has counted nothing
      refine le_trans (Int.ofNat_le.mpr (atRiskIn_length_le ?_)) (within first last short)
      intro j mem
      obtain ⟨c, found, isFor, risk⟩ := mem_atRiskIn.mp mem
      rcases Kit.Pool.get_append_index_cases found with known | ⟨rfl, rfl⟩
      · exact mem_atRiskIn.mpr ⟨c, known, isFor, risk⟩
      · rcases Bool.or_eq_true_iff.mp risk with wrong | waiting
        · cases (wrongAt_iff.mp wrong).1
        · obtain ⟨-, time, counted, -⟩ := mayFail_iff.mp waiting
          exact absurd (inv.counted _ counted).1 (lt_irrefl _)
    · obtain ⟨onward, done⟩ := loginExec_eq answered
      have notes := loginStep_notes done
      have steps := reach.steps rfl _ (List.mem_of_getElem? found)
      have ordered := ((login_ordered settings req).along steps).1
      have counted : ∀ entry ∈ p.store.counted, entry.2 ≤ choice.now :=
        fun entry mem => (inv.counted entry mem).2.trans onward
      have looked : ∀ entry ∈ p.store.looked, entry.2 ≤ choice.now :=
        fun entry mem => (inv.looked entry mem).2.trans onward
      -- who is at risk now was so before, or was counted in this step
      have origin : ∀ j ∈ atRiskIn settings pgLower account
          ⟨store, p.calls.set i ⟨req, ⟨o, r⟩ :: hist, next r⟩⟩ first last,
          j ∈ atRiskIn settings pgLower account p first last ∨
            (j = i ∧ isFor pgLower account req = true ∧ countsUser ⟨o, r⟩ = true ∧
              isRefused settings [⟨o, r⟩] = false ∧ choice.now ≤ last) := by
        intro j mem
        obtain ⟨c, found', forAccount, risk⟩ := mem_atRiskIn.mp mem
        rcases Kit.Pool.get_set_cases found' with ⟨rfl, rfl⟩ | ⟨other, old⟩
        · rcases risk_step ((inv.calls _ _ found).onward choice.now) ordered counted notes risk with
            before | counts
          · exact .inl (mem_atRiskIn.mpr ⟨_, found, forAccount, before⟩)
          · exact .inr ⟨rfl, forAccount, counts⟩
        · rw [risk_frame other notes] at risk
          exact .inl (mem_atRiskIn.mpr ⟨c, old, forAccount, risk⟩)
      by_cases added : isFor pgLower account req = true ∧ countsUser ⟨o, r⟩ = true ∧
          isRefused settings [⟨o, r⟩] = false ∧ choice.now ≤ last
      · obtain ⟨forAccount, counts, below, notOver⟩ := added
        obtain ⟨subject, seconds, room⟩ :=
          room_of_budgeted found allowed done forAccount counts below
        have cover : ∀ j ∈ atRiskIn settings pgLower account
            ⟨store, p.calls.set i ⟨req, ⟨o, r⟩ :: hist, next r⟩⟩ first last,
            j ∈ i :: (unseen settings pgLower account p subject seconds choice.now ++
              (p.store.rows.filter (FailureRow.isCounted .user subject seconds choice.now)).map
                FailureRow.call) := by
          intro j mem
          rcases origin j mem with before | ⟨rfl, -⟩
          · exact List.mem_cons_of_mem _ (seen_or_unseen inv onward notOver short before)
          · exact List.mem_cons_self
        have fits := atRiskIn_length_le cover
        rw [List.length_cons, List.length_append, List.length_map,
          ← List.countP_eq_length_filter] at fits
        have limit := le_max_left settings.rateMaxLoginFailures 0
        unfold countFailures at room
        omega
      · refine le_trans (Int.ofNat_le.mpr (atRiskIn_length_le ?_)) (within first last short)
        intro j mem
        exact (origin j mem).resolve_right fun new => added new.2

/-- **The budget of wrong passwords.** In every run in which a count lets a request for the
account through only while what it does not see leaves room, at most the limit of them verify
a wrong password in a period shorter than the window. -/
theorem wrong_within_budget (settings : LoginSettings) (pgLower : Text → Text) (account : Text)
    (p : LoginPool) (reach : LoginReach settings (budgeted settings pgLower account) p)
    (first last : Timestamp) (short : last - first < settings.rateWindowSeconds * 1000000) :
    ((wrongIn settings pgLower account p first last).length : Int) ≤
      max settings.rateMaxLoginFailures 0 := by
  refine le_trans (Int.ofNat_le.mpr ?_) (atRisk_within_budget reach first last short)
  refine (List.monotone_filter_right _ fun i wrong => ?_).length_le
  obtain ⟨c, found, facts⟩ := (Option.any_eq_true _ _).mp wrong
  obtain ⟨forAccount, wrong⟩ := Bool.and_eq_true_iff.mp facts
  rw [atRisk, found, Option.any_some, forAccount, wrong]
  rfl

end Budget

/-! ## Six requests at once -/

/-- The default limits. The names used here are lower-case. -/
def sampleLogin : LoginSettings where
  pepperBytes := []
  accessTokenTtl := 900
  refreshTokenTtl := 2592000
  attestationStrict := true
  verifyPassword := fun stored password => stored = password
  isoformat := fun _ => []
  rateWindowSeconds := 900
  rateMaxLoginFailures := 5
  rateBaseDelayMs := 250
  rateMaxDelayMs := 8000
  lower := fun username => username

/-- A guess of the password of `ann`. -/
def sampleGuess : LoginRequest := ⟨"ann", "guess", 3, none⟩

/-- There is an `ann`, and every statement succeeds. -/
def sampleAnswer : (o : LoginOp) → o.Res
  | .failureCount _ _ _ => .ok 0
  | .recordFailure _ _ _ _ => .ok ()
  | .audit _ => 1
  | .sleep _ => ()
  | .auth o =>
      match o with
      | .byUsername _ => some ⟨2, "secret", true⟩
      | .deviceById _ => none
      | .touchLogin _ => ()
      | .touchSeen _ => ()
      | .lookup _ _ => none
      | .insert _ => .ok 5
      | .markUsed _ => ()
      | .revoke _ _ => ()
      | .revokeFamily _ _ => 0
      | .revokeDeviceSessions _ _ => 0
      | .utcNow => 0
      | .uuid4 => 6
      | .newToken => "t"
      | .audit _ => 1

def statementAt (i second : Nat) : LoginAction :=
  .run i ⟨second * 1000000, sampleAnswer, false⟩

/-- One guess after the other: the third is counted when two have failed. -/
def guessesInTurn : List LoginAction :=
  (List.range 3).flatMap fun i =>
    [.start sampleGuess, statementAt i i, statementAt i i, statementAt i i]

theorem wrong_within_budget_sample : ∃ p,
    LoginReach sampleLogin (budgeted sampleLogin (fun name => name) (text "ann")) p ∧
      wrongIn sampleLogin (fun name => name) (text "ann") p 0 2000000 = [0, 1, 2] ∧
      ((wrongIn sampleLogin (fun name => name) (text "ann") p 0 2000000).length : Int) ≤
        max 5 0 := by
  have ran : (Kit.Pool.run loginServer (fun req => (login sampleLogin req).run)
      (budgeted sampleLogin (fun name => name) (text "ann")) quietLogin guessesInTurn).map
        (fun p => wrongIn sampleLogin (fun name => name) (text "ann") p 0 2000000) =
      some [0, 1, 2] := by
    decide +kernel
  obtain ⟨p, reach, seen⟩ := Kit.Pool.reach_of_map_run guessesInTurn ran
  exact ⟨p, reach, seen, wrong_within_budget sampleLogin _ _ p reach 0 2000000 (by decide)⟩

/-- Six guesses are counted before the first of them is looked up. -/
def guessesAtOnce : List LoginAction :=
  List.replicate 6 (.start sampleGuess) ++ (List.range 6).map (statementAt · 0) ++
    (List.range 6).map (statementAt · 1)

/-- With a limit of five, six wrong passwords are verified in a second. -/
theorem wrong_over_budget : ¬ ∀ p, LoginReach sampleLogin (fun _ _ => true) p →
    ∀ first last, last - first < sampleLogin.rateWindowSeconds * 1000000 →
      ((wrongIn sampleLogin (fun name => name) (text "ann") p first last).length : Int) ≤
        max sampleLogin.rateMaxLoginFailures 0 := by
  intro claim
  have ran : (Kit.Pool.run loginServer (fun req => (login sampleLogin req).run)
      (fun _ _ => true) quietLogin guessesAtOnce).map
        (fun p => wrongIn sampleLogin (fun name => name) (text "ann") p 0 1000000) =
      some [0, 1, 2, 3, 4, 5] := by
    decide +kernel
  obtain ⟨p, reach, seen⟩ := Kit.Pool.reach_of_map_run guessesAtOnce ran
  have few := claim p reach 0 1000000 (by decide)
  rw [seen] at few
  exact absurd few (by decide)

end DoorsControl.Api
