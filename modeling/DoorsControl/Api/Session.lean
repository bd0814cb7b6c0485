import DoorsControl.Auth.Service
import DoorsControl.Backend.Proximity
import DoorsControl.Data.Lowercase

/-!
# The session behind a request

`current_session` and `admin_session` of `app/api/deps.py`. An endpoint that depends on one of them
is a program of its own, and runs with the session that `resolve_access_token` has made of the
bearer token. Whatever is awaited may raise anything.

* `RouteOp`, `Route` — the statements of the session, and what the endpoint calls;
* `Holds` — **what stands behind a session**;
* `currentSession_holds`, `adminSession_holds` — no endpoint runs with any other.
-/

namespace DoorsControl.Api

open DoorsControl.Auth (AuthError AuthOp AuthSettings Session TokenRecord hashToken isLive)
open DoorsControl.Backend (strip)
open Kit.Prog (Always OnOk)

/-! ## Endpoints -/

/-- A statement of `AuthService`, or what the endpoint calls. -/
inductive RouteOp (Op : Type) where
  | session (op : AuthOp)
  | own (op : Op)

abbrev RouteOp.Res {Op : Type} (Res : Op → Type) : RouteOp Op → Type
  | .session op => Except Text op.Res
  | .own op => Res op

/-- What ends a request early. -/
inductive RouteError (ε : Type) where
  | auth (error : AuthError)
  | raised (name : Text)
  | own (error : ε)

section Route

variable {Op : Type} {Res : Op → Type} {ε α : Type}

abbrev RouteEvent (Res : Op → Type) := Kit.Event (RouteOp Op) (RouteOp.Res Res)

abbrev Route (Res : Op → Type) (ε : Type) :=
  ExceptT (RouteError ε) (Kit.Prog (RouteOp Op) (RouteOp.Res Res))

/-- What comes after a statement that may have raised. -/
def orRaise {β : Type} {Op : Type} {Res : Op → Type}
    (next : β → Kit.Prog Op Res (Except (RouteError ε) α)) :
    Except Text β → Kit.Prog Op Res (Except (RouteError ε) α)
  | .ok answer => next answer
  | .error name => .pure (.error (.raised name))

/-- A program of `AuthService`, run here. -/
def ofAuth : Kit.Prog AuthOp AuthOp.Res (Except AuthError α) →
    Kit.Prog (RouteOp Op) (RouteOp.Res Res) (Except (RouteError ε) α)
  | .pure (.ok value) => .pure (.ok value)
  | .pure (.error error) => .pure (.error (.auth error))
  | .op o next => .op (.session o) (orRaise fun answer => ofAuth (next answer))

/-- A program of another service, run here. -/
def ofService (p : ExceptT ε (Kit.Prog Op Res) α) : Route Res ε α :=
  ExceptT.mk (Except.mapError RouteError.own <$> p.run.embed .own fun _ answer => answer)

/-- What the endpoint has called. -/
def ownEvents (hist : List (RouteEvent Res)) : List (Kit.Event Op Res) :=
  hist.filterMap fun e =>
    match e with
    | ⟨.own o, answer⟩ => some ⟨o, answer⟩
    | ⟨.session _, _⟩ => none

@[simp] theorem ownEvents_own (hist : List (RouteEvent Res)) (o : Op) (answer : Res o) :
    ownEvents (⟨.own o, answer⟩ :: hist) = ⟨o, answer⟩ :: ownEvents hist := rfl

/-! ## The bearer token -/

/-- The `str` with these characters; the text of a header has no surrogates. -/
def str (s : Text) : String := String.ofList (s.map fun c => Char.ofNat c.val)

example : text (str (text "caf\u00e9")) = text "caf\u00e9" := by decide

/-- The token of the header. A text whose lower case begins like this has a blank. -/
def bearerToken (isFinal : Text → Text → Bool) (authorization : Option Text) : Option Text :=
  authorization.bind fun header =>
    if (text "bearer ").isPrefixOf (strLower isFinal header) then
      some (strip ((header.dropWhile fun c => c ≠ codePoint ' ').drop 1))
    else none

/-! ## The dependencies -/

variable (settings : AuthSettings) (isFinal : Text → Text → Bool) (authorization : Option Text)

/-- `current_session` -/
def currentSession : Route Res ε Session :=
  match bearerToken isFinal authorization with
  | none => throw (.auth (.authentication "missing_bearer"))
  | some token => ExceptT.mk (ofAuth (Auth.resolveAccessToken settings (str token)).run)

/-- `admin_session` -/
def adminSession : Route Res ε Session := do
  let session ← currentSession settings isFinal authorization
  if session.isAdmin then return session else throw (.auth (.authentication "not_admin"))

/-- What `resolve_access_token` asks. -/
def asksSession : AuthOp → Bool
  | .lookup _ .access | .utcNow => true
  | _ => false

/-- **What stands behind a session**: the row of the token in the header, as it was found, and live
when it was looked at. -/
structure Holds (hist : List (RouteEvent Res)) (session : Session) : Prop where
  found : ∃ token record now, bearerToken isFinal authorization = some token ∧
    ⟨.session (.lookup (hashToken settings (str token)) .access), .ok (some record)⟩ ∈ hist ∧
    ⟨.session .utcNow, .ok now⟩ ∈ hist ∧ isLive record now = true ∧
    (settings.attestationStrict = true → record.attestationStatus = .verified) ∧
    session = { userId := record.userId, deviceId := record.deviceId,
                username := record.username, displayName := record.displayName,
                isAdmin := record.userIsAdmin, tokenId := record.id,
                familyId := record.familyId }

variable {settings isFinal authorization}

theorem Holds.mono {hist hist' : List (RouteEvent Res)} {session : Session}
    (holds : Holds settings isFinal authorization hist session) (more : hist ⊆ hist') :
    Holds settings isFinal authorization hist' session := by
  obtain ⟨token, record, now, isToken, found, isNow, rest⟩ := holds.found
  exact ⟨token, record, now, isToken, more found, more isNow, rest⟩

/-- `current_session` has made its statements only, and what it returns holds. -/
def Begun (settings : AuthSettings) (isFinal : Text → Text → Bool) (authorization : Option Text)
    (hist : List (RouteEvent Res)) (session : Session) : Prop :=
  ownEvents hist = [] ∧ Holds settings isFinal authorization hist session

variable {ok : List (RouteEvent Res) → RouteOp Op → Prop}

/-- A statement of `AuthService`, and the rest if it did not raise. -/
theorem always_session {P : List (RouteEvent Res) → α → Prop} {hist : List (RouteEvent Res)}
    {o : AuthOp} {f : o.Res → Auth.Py α} (allowed : ok hist (.session o))
    (second : ∀ answer, Always ok (OnOk P) (⟨.session o, .ok answer⟩ :: hist)
      (ofAuth (f answer).run : Kit.Prog _ _ (Except (RouteError ε) α))) :
    Always ok (OnOk P) hist
      (ofAuth (Kit.Prog.call o >>= f).run : Kit.Prog _ _ (Except (RouteError ε) α)) := by
  refine And.intro allowed fun answer => ?_
  match answer with
  | .ok answer => exact second answer
  | .error name => trivial

theorem currentSession_holds
    (allowed : ∀ hist o, ownEvents hist = [] → asksSession o = true → ok hist (.session o)) :
    Always ok (OnOk (Begun settings isFinal authorization)) []
      (currentSession settings isFinal authorization : Route Res ε Session).run := by
  unfold currentSession
  cases isToken : bearerToken isFinal authorization with
  | none => trivial
  | some token =>
      refine always_session (allowed _ _ rfl rfl) fun found => ?_
      cases found with
      | none => trivial
      | some record =>
          refine always_session (allowed _ _ rfl rfl) fun now => ?_
          split_ifs with dead unattested
          · trivial
          · trivial
          · refine ⟨rfl, token, record, now, isToken, ?_, ?_, ?_, ?_, rfl⟩
            · simp
            · simp
            · simpa using dead
            · intro strict
              simpa [strict] using unattested

theorem adminSession_holds
    (allowed : ∀ hist o, ownEvents hist = [] → asksSession o = true → ok hist (.session o)) :
    Always ok (OnOk fun hist session =>
        Begun settings isFinal authorization hist session ∧ session.isAdmin = true) []
      (adminSession settings isFinal authorization : Route Res ε Session).run := by
  refine Kit.Prog.always_seq (currentSession_holds allowed) fun hist session begun => ?_
  split_ifs with isAdmin
  · exact ⟨begun, isAdmin⟩
  · trivial

end Route

end DoorsControl.Api
