import DoorsControl.Data.Text
import DoorsControl.Kit.Pool

/-!
# The interceptor of the app

`RefreshInterceptor.intercept` of `ApiClient.kt` with `refreshOnce`, run by any number of
threads over one `TokenStore`. The lock covers the exchange, but not `clearSession` after
one that failed.

* `intercept` — the program of a thread;
* `appServer` — the token store, the lock and what the network can do;
* `phase`, `intercept_order` — where a thread is, and which operation comes where.
-/

namespace DoorsControl.App

open Kit.Prog

/-! ## The interceptor -/

/-- A request as it comes to the interceptor: `encodedPath`, and the header that
`AuthInterceptor` set. -/
structure ApiRequest where
  encodedPath : Text
  authorization : Option Text

/-- What `chain.proceed` of `/api/v1/auth/refresh` comes to. -/
inductive Exchange where
  | success (accessToken refreshToken : Text)
  /-- a code that is not successful, or a body that is no `TokenPair` -/
  | refused (code : Nat)
  /-- `IOException`, before the server saw the request -/
  | requestLost
  /-- `IOException`, after the server rotated the token -/
  | responseLost

inductive RefreshOp where
  | proceed (authorization : Option Text)
  /-- into and out of `synchronized(refreshLock)` -/
  | lock
  | unlock
  | refreshToken
  | exchange (refreshToken : Text)
  | savePair (access refresh : Text)
  | clearSession
  | onSessionLost
  | accessToken

abbrev RefreshOp.Res : RefreshOp → Type
  -- the code of the response, or an `IOException`
  | .proceed _ => Option Nat
  | .refreshToken => Option Text
  | .exchange _ => Exchange
  | .accessToken => Option Text
  | _ => Unit

abbrev Intercept := Kit.Prog RefreshOp RefreshOp.Res

/-- `HTTP_UNAUTHORIZED` -/
def httpUnauthorized : Nat := 401

/-- `encodedPath.contains("/auth/")` -/
def isAuthPath (path : Text) : Bool := path.tails.any fun rest => (text "/auth/").isPrefixOf rest

abbrev proceed (authorization : Option Text) : Intercept (Option Nat) :=
  perform (RefreshOp.proceed authorization)
abbrev lock : Intercept Unit := perform RefreshOp.lock
abbrev unlock : Intercept Unit := perform RefreshOp.unlock
abbrev refreshToken : Intercept (Option Text) := perform RefreshOp.refreshToken
abbrev exchange (refreshToken : Text) : Intercept Exchange :=
  perform (RefreshOp.exchange refreshToken)
abbrev savePair (access refresh : Text) : Intercept Unit :=
  perform (RefreshOp.savePair access refresh)
abbrev clearSession : Intercept Unit := perform RefreshOp.clearSession
abbrev onSessionLost : Intercept Unit := perform RefreshOp.onSessionLost
abbrev accessToken : Intercept (Option Text) := perform RefreshOp.accessToken

/-- `refreshOnce` -/
def refreshOnce : Intercept Bool := do
  match ← refreshToken with
  | none => return false
  | some token =>
      match ← exchange token with
      | .success access refresh =>
          savePair access refresh
          return true
      | _ => return false

/-- `"Bearer ${tokens.accessToken}"` -/
def bearer (accessToken : Option Text) : Text := text "Bearer " ++ accessToken.getD (text "null")

/-- `intercept`: the code of the response, or an `IOException`. -/
def intercept (request : ApiRequest) : Intercept (Option Nat) := do
  match ← proceed request.authorization with
  | none => return none
  | some code =>
      if code ≠ httpUnauthorized then return some code
      else if isAuthPath request.encodedPath then
        clearSession
        onSessionLost
        return some code
      else
        lock
        let refreshed ← refreshOnce
        unlock
        if !refreshed then
          clearSession
          onSessionLost
          proceed request.authorization
        else
          let access ← accessToken
          proceed (some (bearer access))

/-! ## Threads over one token store -/

/-- `TokenStore`, the two values of a session. -/
structure TokenStore where
  accessToken : Option Text
  refreshToken : Option Text

/-- What a thread did to the session. -/
inductive RefreshEvent where
  | sent (thread : Nat) (refreshToken : Text)
  /-- there is no refresh token, or the exchange failed -/
  | failed (thread : Nat)
  | saved (thread : Nat) (refreshToken : Text)
  | cleared (thread : Nat)
  deriving DecidableEq

/-- The token store, the thread inside of `refreshLock`, the refresh tokens that the server
has made, and what the threads did, the latest first. -/
structure AppStore where
  tokens : TokenStore
  holder : Option Nat
  issued : List Text
  log : List RefreshEvent

structure RefreshChoice where
  response : Option Nat := none
  exchange : Exchange := .requestLost

/-- The server never makes a refresh token twice. -/
def appServer : Kit.Server AppStore RefreshOp RefreshOp.Res RefreshChoice where
  exec
    | _, .proceed _, choice, s => some (choice.response, s)
    | i, .lock, _, s =>
        match s.holder with
        | none => some ((), { s with holder := some i })
        | some _ => none
    | _, .unlock, _, s => some ((), { s with holder := none })
    | i, .refreshToken, _, s =>
        match s.tokens.refreshToken with
        | none => some (none, { s with log := .failed i :: s.log })
        | some token => some (some token, s)
    | i, .exchange token, choice, s =>
        match choice.exchange with
        | .success access refresh =>
            if refresh ∈ s.issued then none
            else some (.success access refresh,
              { s with issued := refresh :: s.issued, log := .sent i token :: s.log })
        | result => some (result, { s with log := .failed i :: .sent i token :: s.log })
    | i, .savePair access refresh, _, s =>
        some ((), { s with tokens := ⟨some access, some refresh⟩, log := .saved i refresh :: s.log })
    | i, .clearSession, _, s =>
        some ((), { s with tokens := ⟨none, none⟩, log := .cleared i :: s.log })
    | _, .onSessionLost, _, s => some ((), s)
    | _, .accessToken, _, s => some (s.tokens.accessToken, s)

abbrev InterceptCall := Kit.Call ApiRequest RefreshOp RefreshOp.Res (Option Nat)
abbrev AppPool := Kit.Pool AppStore ApiRequest RefreshOp RefreshOp.Res (Option Nat)
abbrev AppAction := Kit.Action ApiRequest RefreshChoice

/-- No thread has called yet; the app may be signed in or not. -/
def idleApp (tokens : TokenStore) : AppPool := ⟨⟨tokens, none, tokens.refreshToken.toList, []⟩, []⟩

abbrev AppReach (ok : AppPool → AppAction → Bool) (tokens : TokenStore) (p : AppPool) : Prop :=
  Kit.Pool.Reach appServer intercept ok (idleApp tokens) p

/-- The refresh tokens that were sent to the server. -/
def sentTokens (log : List RefreshEvent) : List Text :=
  log.filterMap fun
    | .sent _ token => some token
    | _ => none

/-! ## Where a thread is -/

inductive Phase where
  /-- outside of the lock, with nothing to clear -/
  | idle
  | locked
  | read (token : Text)
  | received (token : Text)
  | saved
  /-- inside of the lock, with a refresh that failed -/
  | failed
  /-- outside of the lock, and the session is not cleared yet -/
  | losing
  deriving DecidableEq

def phase : List (Kit.Event RefreshOp RefreshOp.Res) → Phase
  | ⟨.lock, _⟩ :: _ => .locked
  | ⟨.refreshToken, some token⟩ :: _ => .read token
  | ⟨.refreshToken, none⟩ :: _ => .failed
  | ⟨.exchange _, .success _ refresh⟩ :: _ => .received refresh
  | ⟨.exchange _, _⟩ :: _ => .failed
  | ⟨.savePair _ _, _⟩ :: _ => .saved
  | ⟨.unlock, _⟩ :: before => if phase before = .failed then .losing else .idle
  | _ => .idle

/-- The refresh of a thread failed. -/
def failure : Kit.Event RefreshOp RefreshOp.Res → Bool
  | ⟨.refreshToken, none⟩ => true
  | ⟨.exchange _, .success _ _⟩ => false
  | ⟨.exchange _, _⟩ => true
  | _ => false

/-- The order of the operations. -/
def Order (hist : List (Kit.Event RefreshOp RefreshOp.Res)) : RefreshOp → Prop
  | .lock => phase hist = .idle
  | .refreshToken => phase hist = .locked ∧ hist.any failure = false
  | .exchange token => phase hist = .read token ∧ hist.any failure = false
  | .savePair _ refresh => phase hist = .received refresh
  | .unlock => phase hist = .failed ∨ phase hist = .saved
  | .clearSession => phase hist = .losing ∨ phase hist = .idle ∧ hist.any failure = false
  | _ => phase hist = .idle

/-- Every operation comes at its place. -/
theorem intercept_order (request : ApiRequest) :
    (intercept request).Always Order (fun hist _ => phase hist = .idle) [] := by
  refine ⟨rfl, fun response => ?_⟩
  cases response with
  | none => exact rfl
  | some code =>
      show Always _ _ _ (if code ≠ httpUnauthorized then _ else _)
      split_ifs with other final
      · exact rfl
      · exact ⟨.inr ⟨rfl, rfl⟩, fun _ => ⟨rfl, fun _ => rfl⟩⟩
      refine ⟨rfl, fun _ => ⟨⟨rfl, rfl⟩, fun token => ?_⟩⟩
      cases token with
      | none => exact ⟨.inl rfl, fun _ => ⟨.inl rfl, fun _ => ⟨rfl, fun _ => ⟨rfl, fun _ => rfl⟩⟩⟩⟩
      | some token =>
          refine ⟨⟨rfl, rfl⟩, fun result => ?_⟩
          cases result with
          | success access refresh =>
              exact ⟨rfl, fun _ => ⟨.inr rfl, fun _ => ⟨rfl, fun _ => ⟨rfl, fun _ => rfl⟩⟩⟩⟩
          | _ => exact ⟨.inl rfl, fun _ => ⟨.inl rfl, fun _ => ⟨rfl, fun _ => ⟨rfl, fun _ => rfl⟩⟩⟩⟩

end DoorsControl.App
