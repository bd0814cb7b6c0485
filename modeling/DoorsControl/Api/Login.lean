import DoorsControl.Auth.Service

/-!
# The login endpoint

`POST /auth/login` of `app/api/auth.py`: the limiter is asked first, `AuthService.login`
runs, and a failure is recorded afterwards. Every `await` is one operation, and requests run
interleaved over one table of failures.

* `checkLogin`, `recordLoginFailure` — `RateLimiter`;
* `login` — the endpoint;
* `loginServer` — the failures, under one clock that does not run backwards.
-/

namespace DoorsControl.Api

open DoorsControl.Audit (AuditCall Timestamp)
open DoorsControl.Auth (AuthError AuthOp AuthSettings IssuedTokens UserRecord)
open Kit.Prog (attempt call ifThen)

/-- `acs.rate_subject` -/
inductive RateSubject where
  | user
  | device
  | ip
  deriving DecidableEq

def RateSubject.label : RateSubject → Text
  | .user => text "user"
  | .device => text "device"
  | .ip => text "ip"

/-- What the endpoint uses of its settings, with `str.lower`. -/
structure LoginSettings extends AuthSettings where
  rateWindowSeconds : Int
  rateMaxLoginFailures : Int
  rateBaseDelayMs : Int
  rateMaxDelayMs : Int
  lower : Text → Text

/-- `LoginRequest`, and the address it came from. -/
structure LoginRequest where
  username : String
  password : String
  deviceId : Uuid
  clientIp : Option Text

/-- `RateDecision` -/
structure RateDecision where
  allowed : Bool
  delayMs : Int
  retryAfterSeconds : Int
  failures : Int
  subjectType : RateSubject

/-! ## What the endpoint calls -/

inductive LoginOp where
  /-- `failure_count`, for every endpoint -/
  | failureCount (subjectType : RateSubject) (subject : Text) (windowSeconds : Int)
  | recordFailure (subjectType : RateSubject) (subject endpoint : Text) (clientIp : Option Text)
  | audit (record : AuditCall)
  | sleep (milliseconds : Int)
  /-- a statement of `AuthService.login` -/
  | auth (op : AuthOp)

/- the exceptions of the driver are named -/
abbrev LoginOp.Res : LoginOp → Type
  | .failureCount _ _ _ => Except Text Int
  | .recordFailure _ _ _ _ => Except Text Unit
  | .audit _ => Int
  | .sleep _ => Unit
  | .auth op => op.Res

inductive LoginError where
  | rateLimited (retryAfterSeconds : Int)
  | auth (error : AuthError)
  | other (name : Text)

abbrev LoginEvent := Kit.Event LoginOp LoginOp.Res
abbrev LoginProg := Kit.Prog LoginOp LoginOp.Res
abbrev Py := ExceptT LoginError LoginProg

/-- What a statement raises. -/
def raising {α : Type} : Except Text α → Except LoginError α
  | .ok value => .ok value
  | .error name => .error (.other name)

abbrev failureCount (subjectType : RateSubject) (subject : Text) (windowSeconds : Int) : Py Int :=
  attempt (LoginOp.failureCount subjectType subject windowSeconds) raising
abbrev recordFailure (subjectType : RateSubject) (subject endpoint : Text)
    (clientIp : Option Text) : Py Unit :=
  attempt (LoginOp.recordFailure subjectType subject endpoint clientIp) raising
abbrev audit (record : AuditCall) : Py Int := call (LoginOp.audit record)
abbrev sleep (milliseconds : Int) : Py Unit := call (LoginOp.sleep milliseconds)

/-- A program of the authentication service: what it returns or raises. -/
def fromAuth {α : Type} : Kit.Prog AuthOp AuthOp.Res α → LoginProg (Except LoginError α)
  | .pure value => .pure (.ok value)
  | .op o next => .op (.auth o) fun answer => fromAuth (next answer)

/-! ## The limiter -/

section Limiter

variable (settings : LoginSettings)

/-- `_progressive_delay_ms` -/
def progressiveDelayMs (failures : Int) : Int :=
  if failures ≤ 0 then 0
  else
    let delay := settings.rateBaseDelayMs * (Nat.pow 2 (failures - 1).toNat : Nat)
    min delay settings.rateMaxDelayMs

/-- `by_ip` of `check_login`. An empty address is none. -/
def countByIp (clientIp : Option Text) : Py Int :=
  match clientIp with
  | none => return 0
  | some ip => if ip = [] then return 0 else failureCount .ip ip settings.rateWindowSeconds

/-- What `check_login` makes of its two counts. -/
def loginDecision (byUser byIp : Int) : RateDecision :=
  let failures := max byUser byIp
  let subjectType := if byUser ≥ byIp then .user else .ip
  if failures ≥ settings.rateMaxLoginFailures then
    ⟨false, settings.rateMaxDelayMs, settings.rateWindowSeconds, failures, subjectType⟩
  else ⟨true, progressiveDelayMs settings failures, 0, failures, subjectType⟩

/-- `RateLimiter.check_login` -/
def checkLogin (username : Text) (clientIp : Option Text) : Py RateDecision := do
  let byUser ← failureCount .user (settings.lower username) settings.rateWindowSeconds
  let byIp ← countByIp settings clientIp
  return loginDecision settings byUser byIp

/-- `RateLimiter.record_login_failure`. The buckets in memory are never read. -/
def recordLoginFailure (username : Text) (clientIp : Option Text) (endpoint : Text) : Py Unit := do
  recordFailure .user (settings.lower username) endpoint clientIp
  match clientIp with
  | none => return ()
  | some ip => if ip = [] then return () else recordFailure .ip ip endpoint clientIp

/-! ## The endpoint -/

/-- The row of a request that was not let through. -/
def trippedCall (req : LoginRequest) (decision : RateDecision) : AuditCall :=
  { event := .rateLimitTripped, outcome := .denied, actorType := .anonymous,
    clientIp := req.clientIp,
    detail := [(text "scope", .str (text "login")),
      (text "subject_type", .str decision.subjectType.label),
      (text "failures", .int decision.failures)] }

def failedCall (req : LoginRequest) (reason : String) : AuditCall :=
  { event := .authLoginFailed, outcome := .failure, actorType := .anonymous,
    deviceId := some req.deviceId, clientIp := req.clientIp,
    detail := [(text "reason", .str (text reason)), (text "username", .str (text req.username))] }

/-- The body of `fixed_duration`, which only lets time pass itself. -/
def authenticate (req : LoginRequest) (decision : RateDecision) : Py IssuedTokens := do
  let result : Except AuthError IssuedTokens ← ExceptT.mk (fromAuth
    (Auth.login settings.toAuthSettings req.username req.password req.deviceId req.clientIp).run)
  match result with
  | .ok pair => return pair
  | .error (.authentication reason) =>
      recordLoginFailure settings (text req.username) req.clientIp (text "auth.login")
      let _ ← audit (failedCall req reason)
      ifThen (decision.delayMs > 0) (sleep decision.delayMs)
      throw (.auth (.authentication reason))
  | .error error => throw (.auth error)

/-- `login` of `app/api/auth.py` -/
def login (req : LoginRequest) : Py IssuedTokens := do
  let decision ← checkLogin settings (text req.username) req.clientIp
  ifThen (!decision.allowed) do
    let _ ← audit (trippedCall req decision)
    throw (.rateLimited decision.retryAfterSeconds)
  authenticate settings req decision

end Limiter

/-! ## Requests over one table -/

/-- A row of `acs.failed_attempts`, as far as it is counted, and the request it is from. -/
structure FailureRow where
  call : Nat
  subjectType : RateSubject
  subject : Text
  occurredAt : Timestamp

/-- The condition of `failure_count` at the time `now`. -/
def FailureRow.isCounted (subjectType : RateSubject) (subject : Text) (windowSeconds : Int)
    (now : Timestamp) (row : FailureRow) : Bool :=
  row.subjectType = subjectType && row.subject = subject &&
    now - windowSeconds * 1000000 < row.occurredAt

def countFailures (rows : List FailureRow) (subjectType : RateSubject) (subject : Text)
    (windowSeconds : Int) (now : Timestamp) : Nat :=
  rows.countP (FailureRow.isCounted subjectType subject windowSeconds now)

/-- The database time and the failures, with the requests whose user's failures were counted
and those whose user was looked up, and when. -/
structure LoginStore where
  clock : Timestamp
  rows : List FailureRow
  counted : List (Nat × Timestamp)
  looked : List (Nat × Timestamp)

/-- What the environment decides: the time, the answers of what is not modelled here, and
whether an insert that raised was committed nevertheless. -/
structure LoginChoice where
  now : Timestamp
  answer : (o : LoginOp) → o.Res
  committed : Bool := false

def succeeded {α : Type} : Except Text α → Bool
  | .ok _ => true
  | .error _ => false

/-- What one statement does, in a store whose time is that of the statement. The password is
verified when its user was looked up. -/
def loginStep (i : Nat) (o : LoginOp) (choice : LoginChoice) (s : LoginStore) :
    o.Res × LoginStore :=
  match o with
  | .failureCount subjectType subject windowSeconds =>
      match choice.answer (.failureCount subjectType subject windowSeconds) with
      | .error name => (.error name, s)
      | .ok _ => (.ok (countFailures s.rows subjectType subject windowSeconds s.clock),
          if subjectType = .user then { s with counted := (i, s.clock) :: s.counted } else s)
  | .recordFailure subjectType subject endpoint clientIp =>
      let answer := choice.answer (.recordFailure subjectType subject endpoint clientIp)
      let row := ⟨i, subjectType, subject, s.clock⟩
      (answer, if succeeded answer || choice.committed then { s with rows := row :: s.rows } else s)
  | .auth (.byUsername username) =>
      (choice.answer (.auth (.byUsername username)), { s with looked := (i, s.clock) :: s.looked })
  | o => (choice.answer o, s)

/-- Time does not run backwards. -/
def loginServer : Kit.Server LoginStore LoginOp LoginOp.Res LoginChoice where
  exec i o choice s :=
    if choice.now < s.clock then none
    else some (loginStep i o choice { s with clock := choice.now })

abbrev LoginCall := Kit.Call LoginRequest LoginOp LoginOp.Res (Except LoginError IssuedTokens)
abbrev LoginPool :=
  Kit.Pool LoginStore LoginRequest LoginOp LoginOp.Res (Except LoginError IssuedTokens)
abbrev LoginAction := Kit.Action LoginRequest LoginChoice

/-- Before the first request. -/
def quietLogin : LoginPool := ⟨⟨0, [], [], []⟩, []⟩

/-- The states that a guarded run of requests reaches. -/
abbrev LoginReach (settings : LoginSettings) (ok : LoginPool → LoginAction → Bool)
    (p : LoginPool) : Prop :=
  Kit.Pool.Reach loginServer (fun req => (login settings req).run) ok quietLogin p

end DoorsControl.Api
