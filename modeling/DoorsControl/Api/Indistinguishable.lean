import DoorsControl.Api.LoginBudget
import DoorsControl.Api.Responses
import DoorsControl.Enrollment.Accounts
import DoorsControl.Kit.Serial

/-!
# Failed logins say nothing about accounts

`app/core/errors.py`: "Whether the username exists, the password is wrong, the device is
unknown or the token has expired is information the caller does not get." Logins run here one
after the other over given tables of users and devices, from any table of failures.

What a login that does not authenticate answers with, and what it leaves in the table of
failures, is a function of that table and of the request alone:

* `turnedAway` — that function, which reads no account;
* `login_turnedAway` — one login is as it says;
* `logins_turnedAway` — a sequence of them is;
* `login_indistinguishable` — **two contents of the tables, one sequence of responses**.
-/

namespace DoorsControl.Api

open DoorsControl.Audit (AuditCall Timestamp)
open DoorsControl.Auth (AuthError AuthOp DeviceRecord IssuedTokens UserRecord)
open DoorsControl.Enrollment (DeviceRow DeviceTable UserRow UserTable)
open Kit.Prog (attempt call ifThen runIn)

/-! ## One login over given tables -/

/-- What a run of logins meets. The draws and the numbers of the audit rows are as they like. -/
structure Premises where
  users : UserTable
  devices : DeviceTable
  /-- `lower` of PostgreSQL -/
  pgLower : String → String
  seq : AuditCall → Int
  inserted : Auth.NewToken → Uuid
  drawn : (o : AuthOp) → o.Res

/-- `UserRepository.by_username` -/
def Premises.byUsername (world : Premises) (username : String) : Option UserRecord :=
  (world.users.rows.find? fun user => world.pgLower user.username = world.pgLower username).map
    UserRow.record

/-- `DeviceRepository.by_id` -/
def Premises.deviceById (world : Premises) (id : Uuid) : Option DeviceRecord :=
  (world.devices.get? id).map DeviceRow.record

/-- The answers: every statement succeeds. -/
def Premises.answer (world : Premises) : (o : LoginOp) → o.Res
  | .failureCount _ _ _ => .ok 0
  | .recordFailure _ _ _ _ => .ok ()
  | .audit record => world.seq record
  | .sleep _ => ()
  | .auth (.byUsername username) => world.byUsername username
  | .auth (.deviceById id) => world.deviceById id
  | .auth (.insert token) => .ok (world.inserted token)
  | .auth o => world.drawn o

/-- A request, and when each of its statements runs. -/
structure Arrival where
  req : LoginRequest
  moment : LoginOp → Timestamp

variable (settings : LoginSettings)

/-- A statement of the request with the number `i`. -/
def Premises.exec (world : Premises) (i : Nat) (arrival : Arrival) (o : LoginOp)
    (s : LoginStore) : o.Res × LoginStore :=
  loginStep i o { now := arrival.moment o, answer := world.answer } { s with clock := arrival.moment o }

/-- The request runs to its end. -/
def Premises.login (world : Premises) (i : Nat) (arrival : Arrival) (s : LoginStore) :
    LoginStore × Except LoginError IssuedTokens :=
  runIn (world.exec i arrival) s (Api.login settings arrival.req).run

/-- What the requests end in, one after the other; `i` is the number of the first. -/
def Premises.logins (world : Premises) :
    Nat → LoginStore → List Arrival → List (Except LoginError IssuedTokens)
  | _, _, [] => []
  | i, s, arrival :: rest =>
      (world.login settings i arrival s).2 ::
        world.logins (i + 1) (world.login settings i arrival s).1 rest

/-! ## Without the accounts -/

/-- The address, unless it is missing or empty. -/
def addressOf (req : LoginRequest) : Option Text := req.clientIp.filter fun ip => ip ≠ []

/-- What `check_login` decides over the given failures. -/
def decisionOver (arrival : Arrival) (rows : List FailureRow) : RateDecision :=
  let window := settings.rateWindowSeconds
  let user := settings.lower (text arrival.req.username)
  let count := fun subjectType subject => (countFailures rows subjectType subject window
    (arrival.moment (.failureCount subjectType subject window)) : Int)
  loginDecision settings (count .user user) ((addressOf arrival.req).elim 0 (count .ip))

/-- The failures after one more login failed. -/
def failuresAfter (i : Nat) (arrival : Arrival) (rows : List FailureRow) : List FailureRow :=
  let failed := fun subjectType subject => (⟨i, subjectType, subject, arrival.moment
    (.recordFailure subjectType subject (text "auth.login") arrival.req.clientIp)⟩ : FailureRow)
  let byUser := failed .user (settings.lower (text arrival.req.username)) :: rows
  (addressOf arrival.req).elim byUser fun ip => failed .ip ip :: byUser

/-- What is answered to a login that does not authenticate, and the failures it leaves. -/
def turnedAway (i : Nat) (arrival : Arrival) (rows : List FailureRow) :
    Response × List FailureRow :=
  let decision := decisionOver settings arrival rows
  if decision.allowed then (httpError (.authentication ""), failuresAfter settings i arrival rows)
  else (httpError (.rateLimited decision.retryAfterSeconds), rows)

/-- The responses to a sequence of them. -/
def turnedAways : Nat → List FailureRow → List Arrival → List Response
  | _, _, [] => []
  | i, rows, arrival :: rest =>
      (turnedAway settings i arrival rows).1 ::
        turnedAways (i + 1) (turnedAway settings i arrival rows).2 rest

/-! ## The statements of `AuthService.login` -/

section Service

variable (world : Premises) (i : Nat) (arrival : Arrival)

/-- A program of the authentication service that leaves the failures alone, and raises nothing
but an `AuthenticationError`. -/
def Settles {α : Type} (p : Auth.Py α) : Prop :=
  ∀ s, ∃ s' result, runIn (world.exec i arrival) s (fromAuth p.run) = (s', .ok result) ∧
    s'.rows = s.rows ∧ ∀ e, result = .error e → ∃ reason, e = .authentication reason

theorem exec_auth (o : AuthOp) (s : LoginStore) :
    (world.exec i arrival (.auth o) s).1 = world.answer (.auth o) ∧
      (world.exec i arrival (.auth o) s).2.rows = s.rows := by
  cases o <;> exact ⟨rfl, rfl⟩

variable {world i arrival} {α : Type}

theorem settles_pure (value : α) : Settles world i arrival (pure value) := by
  intro s
  refine ⟨s, .ok value, rfl, rfl, ?_⟩
  intro e impossible
  cases impossible

theorem settles_throw (reason : String) :
    Settles world i arrival (throw (.authentication reason) : Auth.Py α) := by
  intro s
  refine ⟨s, .error (.authentication reason), rfl, rfl, ?_⟩
  intro e raised
  exact ⟨reason, (Except.error.inj raised).symm⟩

/-- A statement, and what follows its answer. -/
theorem settles_call {o : AuthOp} {f : o.Res → Auth.Py α}
    (rest : Settles world i arrival (f (world.answer (.auth o)))) :
    Settles world i arrival (call o >>= f) := by
  intro s
  obtain ⟨answered, untouched⟩ := exec_auth world i arrival o s
  obtain ⟨s', result, ran, rows, raised⟩ := rest (world.exec i arrival (.auth o) s).2
  refine ⟨s', result, ?_, rows.trans untouched, raised⟩
  rw [← answered] at ran
  exact ran

/-- An insert succeeds. -/
theorem settles_insert (token : Auth.NewToken) :
    Settles world i arrival (Auth.insert token) :=
  settles_call (o := .insert token) (settles_pure _)

/-- What a program raises skips the rest. -/
theorem settles_seq {β : Type} {p : Auth.Py α} {f : α → Auth.Py β}
    (first : Settles world i arrival p) (rest : ∀ a, Settles world i arrival (f a)) :
    Settles world i arrival (p >>= f) := by
  have split : ∀ (p : Kit.Prog AuthOp AuthOp.Res (Except AuthError α)) s s' result,
      runIn (world.exec i arrival) s (fromAuth p) = (s', .ok result) →
        runIn (world.exec i arrival) s (fromAuth (p >>= ExceptT.bindCont f)) =
          runIn (world.exec i arrival) s' (fromAuth (ExceptT.bindCont f result)) := by
    intro p
    induction p with
    | pure value =>
        intro s s' result ran
        obtain ⟨rfl, same⟩ := Prod.mk.inj ran
        obtain rfl := Except.ok.inj same
        rfl
    | op o next ih => exact fun s => ih _ _
  intro s
  obtain ⟨mid, result, ran, rows, raised⟩ := first s
  have continued := split p s mid result ran
  cases result with
  | error e =>
      refine ⟨mid, .error e, continued, rows, fun e' same => ?_⟩
      obtain rfl := Except.error.inj same
      exact raised e rfl
  | ok value =>
      obtain ⟨s', result', ran', rows', raised'⟩ := rest value mid
      exact ⟨s', result', continued.trans ran', rows'.trans rows, raised'⟩

theorem issuePair_settles (auth : Auth.AuthSettings) (userId deviceId : Uuid) :
    Settles world i arrival (Auth.issuePair auth userId deviceId none none) := by
  refine settles_call (o := .uuid4) (settles_call (o := .newToken) ?_)
  refine settles_call (o := .newToken) (settles_seq (settles_insert _) fun _ => ?_)
  exact settles_seq (settles_insert _) fun _ => settles_pure _

theorem loginAccepted_settles (auth : Auth.AuthSettings) (userId deviceId : Uuid)
    (clientIp : Option Text) :
    Settles world i arrival (Auth.loginAccepted auth userId deviceId clientIp) := by
  refine settles_seq (issuePair_settles auth userId deviceId) fun pair => ?_
  refine settles_call (o := .touchLogin userId) (settles_call (o := .touchSeen deviceId) ?_)
  exact settles_call (o := .audit _) (settles_pure pair)

variable (world i arrival) in
/-- The six reasons for which it refuses, and the pair it issues otherwise. -/
theorem authLogin_settles (auth : Auth.AuthSettings) (username password : String)
    (deviceId : Uuid) (clientIp : Option Text) :
    Settles world i arrival (Auth.login auth username password deviceId clientIp) := by
  refine settles_call (o := .byUsername username) ?_
  cases world.answer (.auth (.byUsername username)) with
  | none => exact settles_throw _
  | some user =>
      dsimp only
      split_ifs
      · exact settles_throw _
      · exact settles_throw _
      · refine settles_call (o := .deviceById deviceId) ?_
        cases world.answer (.auth (.deviceById deviceId)) with
        | none => exact settles_throw _
        | some device =>
            dsimp only
            split_ifs
            · exact settles_throw _
            · exact settles_throw _
            · exact settles_throw _
            · exact loginAccepted_settles auth _ _ _

end Service

/-! ## The endpoint -/

section Endpoint

theorem address_cases (req : LoginRequest) :
    (addressOf req = none ∧ (req.clientIp = none ∨ req.clientIp = some [])) ∨
      ∃ ip, addressOf req = some ip ∧ req.clientIp = some ip ∧ ip ≠ [] := by
  unfold addressOf
  cases req.clientIp with
  | none => exact .inl ⟨rfl, .inl rfl⟩
  | some ip =>
      by_cases empty : ip = []
      · subst empty
        exact .inl ⟨rfl, .inr rfl⟩
      · exact .inr ⟨ip, by simp [empty], rfl, empty⟩

variable (world : Premises) (i : Nat) (arrival : Arrival)

/-- The limiter reads the failures and leaves them alone. -/
theorem checkLogin_reads (s : LoginStore) : ∃ s',
    runIn (world.exec i arrival) s
        (checkLogin settings (text arrival.req.username) arrival.req.clientIp).run =
      (s', .ok (decisionOver settings arrival s.rows)) ∧ s'.rows = s.rows := by
  unfold decisionOver checkLogin countByIp
  rcases address_cases arrival.req with ⟨nowhere, absent | absent⟩ | ⟨ip, somewhere, given, isSome⟩
  · rw [nowhere, absent]
    exact ⟨_, rfl, rfl⟩
  · rw [nowhere, absent]
    exact ⟨_, rfl, rfl⟩
  · rw [somewhere, given]
    simp only [isSome, if_false]
    exact ⟨_, rfl, rfl⟩

/-- A failure is recorded for the user, and for the address if there is one. -/
theorem recordLoginFailure_adds (s : LoginStore) : ∃ s',
    runIn (world.exec i arrival) s (recordLoginFailure settings (text arrival.req.username)
        arrival.req.clientIp (text "auth.login")).run = (s', .ok ()) ∧
      s'.rows = failuresAfter settings i arrival s.rows := by
  unfold failuresAfter recordLoginFailure
  rcases address_cases arrival.req with ⟨nowhere, absent | absent⟩ | ⟨ip, somewhere, given, isSome⟩
  · rw [nowhere, absent]
    exact ⟨_, rfl, rfl⟩
  · rw [nowhere, absent]
    exact ⟨_, rfl, rfl⟩
  · rw [somewhere, given]
    simp only [isSome, if_false]
    exact ⟨_, rfl, rfl⟩

/-- What is left to do after `AuthService.login` refused: the reason goes to the audit log. -/
theorem refusal_recorded (decision : RateDecision) (reason : String) (s : LoginStore) : ∃ s',
    runIn (world.exec i arrival) s (do
        recordLoginFailure settings (text arrival.req.username) arrival.req.clientIp
          (text "auth.login")
        let _ ← audit (failedCall arrival.req reason)
        ifThen (decision.delayMs > 0) (sleep decision.delayMs)
        throw (.auth (.authentication reason)) : Py IssuedTokens).run =
      (s', .error (.auth (.authentication reason))) ∧
        s'.rows = failuresAfter settings i arrival s.rows := by
  obtain ⟨mid, recorded, added⟩ := recordLoginFailure_adds settings world i arrival s
  rw [Kit.Prog.runIn_seq recorded]
  cases delayed : decide (decision.delayMs > 0) with
  | false => exact ⟨_, rfl, added⟩
  | true => exact ⟨_, rfl, added⟩

/-- Whatever the reason of a refusal, it ends in the same way. -/
theorem authenticate_refused (decision : RateDecision) (s : LoginStore)
    (refused : (runIn (world.exec i arrival) s
      (authenticate settings arrival.req decision).run).2.isOk = false) : ∃ s' reason,
    runIn (world.exec i arrival) s (authenticate settings arrival.req decision).run =
      (s', .error (.auth (.authentication reason))) ∧
        s'.rows = failuresAfter settings i arrival s.rows := by
  obtain ⟨mid, result, ran, rows, raised⟩ := authLogin_settles world i arrival
    settings.toAuthSettings arrival.req.username arrival.req.password arrival.req.deviceId
    arrival.req.clientIp s
  have returned : runIn (world.exec i arrival) s (ExceptT.mk (fromAuth
      (Auth.login settings.toAuthSettings arrival.req.username arrival.req.password
        arrival.req.deviceId arrival.req.clientIp).run) : Py (Except AuthError IssuedTokens)).run =
      (mid, .ok result) := ran
  unfold authenticate at refused ⊢
  rw [Kit.Prog.runIn_seq returned] at refused ⊢
  cases result with
  | ok pair => cases refused
  | error e =>
      obtain ⟨reason, rfl⟩ := raised e rfl
      rw [← rows]
      obtain ⟨s', ended, added⟩ := refusal_recorded settings world i arrival decision
        reason mid
      exact ⟨s', reason, ended, added⟩

/-- A login that does not authenticate is as `turnedAway` says. -/
theorem login_turnedAway (s : LoginStore)
    (refused : (world.login settings i arrival s).2.isOk = false) :
    loginResponse (world.login settings i arrival s).2 =
        (turnedAway settings i arrival s.rows).1 ∧
      (world.login settings i arrival s).1.rows = (turnedAway settings i arrival s.rows).2 := by
  unfold Premises.login Api.login at refused ⊢
  obtain ⟨read, decided, untouched⟩ := checkLogin_reads settings world i arrival s
  rw [Kit.Prog.runIn_seq decided] at refused ⊢
  -- the limiter decides from the failures alone, before any user is looked up
  cases allowed : (decisionOver settings arrival s.rows).allowed with
  | false =>
      have away : turnedAway settings i arrival s.rows =
          (httpError (.rateLimited (decisionOver settings arrival s.rows).retryAfterSeconds),
            s.rows) := by
        simp [turnedAway, allowed]
      rw [away]
      exact ⟨rfl, untouched⟩
  | true =>
      have away : turnedAway settings i arrival s.rows =
          (httpError (.authentication ""), failuresAfter settings i arrival s.rows) := by
        simp [turnedAway, allowed]
      rw [allowed] at refused
      obtain ⟨s', reason, ended, added⟩ := authenticate_refused settings world i arrival _ read refused
      rw [untouched] at added
      rw [away]
      exact ⟨congrArg (fun ran => loginResponse ran.2) ended, (congrArg (·.1.rows) ended).trans added⟩

/-- So is a sequence of them. -/
theorem logins_turnedAway (arrivals : List Arrival) : ∀ (i : Nat) (s : LoginStore),
    (∀ result ∈ world.logins settings i s arrivals, result.isOk = false) →
      (world.logins settings i s arrivals).map loginResponse =
        turnedAways settings i s.rows arrivals := by
  induction arrivals with
  | nil =>
      intro i s _
      rfl
  | cons arrival rest ih =>
      intro i s refused
      obtain ⟨first, others⟩ := List.forall_mem_cons.mp refused
      obtain ⟨response, rows⟩ := login_turnedAway settings world i arrival s first
      show loginResponse _ :: List.map loginResponse _ = _ :: _
      rw [response, ih _ _ others, rows]

end Endpoint

/-- **Failed logins are indistinguishable.** Over any two contents of the tables of users and
devices, a sequence of logins of which none authenticates gets the same responses. -/
theorem login_indistinguishable (settings : LoginSettings) (world world' : Premises)
    (s s' : LoginStore) (same : s.rows = s'.rows) (arrivals : List Arrival)
    (refused : ∀ result ∈ world.logins settings 0 s arrivals, result.isOk = false)
    (refused' : ∀ result ∈ world'.logins settings 0 s' arrivals, result.isOk = false) :
    (world.logins settings 0 s arrivals).map loginResponse =
      (world'.logins settings 0 s' arrivals).map loginResponse := by
  rw [logins_turnedAway settings world arrivals 0 s refused,
    logins_turnedAway settings world' arrivals 0 s' refused', same]

/-! ## A guess at an account, and at none -/

theorem annUnique : (["ann"].map fun _ => (2 : Uuid)).Nodup := by decide

/-- The user `ann`, without a device. -/
def annUsers : UserTable := ⟨[⟨2, "ann", "Ann", "secret", false, true⟩], annUnique⟩

def noUsers : UserTable := ⟨[], List.nodup_nil⟩
def noDevices : DeviceTable := ⟨[], List.nodup_nil⟩

def premisesOf (users : UserTable) : Premises where
  users := users
  devices := noDevices
  pgLower := fun name => name
  seq := fun _ => 1
  inserted := fun _ => 5
  drawn := fun o => sampleAnswer (.auth o)

/-- The limit is one failure. -/
def strictLogin : LoginSettings := { sampleLogin with rateMaxLoginFailures := 1 }

/-- Two guesses, a second apart. -/
def twoGuesses : List Arrival := [⟨sampleGuess, fun _ => 0⟩, ⟨sampleGuess, fun _ => 1000000⟩]

theorem login_indistinguishable_sample :
    ((premisesOf annUsers).logins strictLogin 0 ⟨0, [], [], []⟩ twoGuesses).map
        (fun result => (loginResponse result).status) = [401, 429] ∧
      ((premisesOf annUsers).logins strictLogin 0 ⟨0, [], [], []⟩ twoGuesses).map loginResponse =
        ((premisesOf noUsers).logins strictLogin 0 ⟨0, [], [], []⟩ twoGuesses).map loginResponse :=
  ⟨by decide, login_indistinguishable strictLogin _ _ _ _ rfl twoGuesses (by decide) (by decide)⟩

end DoorsControl.Api
