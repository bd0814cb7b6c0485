import DoorsControl.Api.Login
import DoorsControl.Backend.Unlock

/-!
# What leaves the API

`ApiError` and `http_error` of `app/core/errors.py`: the status, the body and the headers that
an endpoint answers with. What is not an `ApiError` is answered by the framework.
-/

namespace DoorsControl.Api

open DoorsControl.Auth (IssuedTokens)
open DoorsControl.Backend (DenyReason PyError UnlockOutcome)

inductive Body where
  | json (value : Json Text)
  | plain (content : Text)

/-- A response, with the headers that its endpoint gives it. -/
structure Response where
  status : Int
  body : Body
  headers : List (Text × Text)

/-- The errors that the API turns into a response on purpose. -/
inductive ApiError where
  | authentication (internalReason : String)
  | unlockDenied (reason : DenyReason) (internalReason : Text)
  | rateLimited (retryAfterSeconds : Int)

namespace ApiError

/-- `status_code` -/
def statusCode : ApiError → Int
  | .authentication _ => 401
  | .unlockDenied _ _ => 403
  | .rateLimited _ => 429

/-- `DenyReason.value` -/
def denyCode : DenyReason → Text
  | .denied => text "denied"
  | .notPresent => text "not_present"
  | .controllerOffline => text "controller_offline"
  | .rateLimited => text "rate_limited"
  | .failed => text "failed"

/-- `code` -/
def code : ApiError → Text
  | .authentication _ => text "invalid_credentials"
  | .unlockDenied reason _ => denyCode reason
  | .rateLimited _ => text "rate_limited"

/-- `headers` of `http_error` -/
def headers : ApiError → List (Text × Text)
  | .authentication _ => [(text "WWW-Authenticate", text "Bearer")]
  | .unlockDenied _ _ => []
  | .rateLimited seconds => [(text "Retry-After", chars (decimal seconds))]

end ApiError

/-- `http_error`. The framework puts `detail` under its name. -/
def httpError (err : ApiError) : Response where
  status := err.statusCode
  body := .json (.obj [(text "detail", .obj [(text "error", .str err.code)])])
  headers := err.headers

/-- What is raised and not caught. -/
def internalServerError : Response := ⟨500, .plain (text "Internal Server Error"), []⟩

/-! ## The endpoints -/

/-- `TokenPair` -/
def tokenPair (pair : IssuedTokens) : Response where
  status := 200
  body := .json (.obj
    [(text "access_token", .str (text pair.accessToken)),
     (text "refresh_token", .str (text pair.refreshToken)),
     (text "token_type", .str (text "Bearer")),
     (text "expires_in", .int pair.expiresIn)])
  headers := []

/-- What `login` of `app/api/auth.py` answers with. -/
def loginResponse : Except LoginError IssuedTokens → Response
  | .ok pair => tokenPair pair
  | .error (.rateLimited seconds) => httpError (.rateLimited seconds)
  | .error (.auth (.authentication reason)) => httpError (.authentication reason)
  | .error (.auth (.database _)) => internalServerError
  | .error (.other _) => internalServerError

/-- `UnlockResponse` -/
def unlocked (doorId : Uuid) (outcome : UnlockOutcome) : Response where
  status := 200
  body := .json (.obj
    [(text "result", .str (text "opened")),
     (text "door_id", .str (uuidText doorId)),
     (text "command_id", .str (uuidText outcome.commandId)),
     (text "opened_for_ms", .int outcome.openedForMs),
     (text "proximity_age_seconds", .int outcome.proximityAgeSeconds)])
  headers := []

/-- What `unlock_door` of `app/api/doors.py` answers with. An outcome of `None` has no
`command_id`. -/
def unlockResponse (doorId : Uuid) : Except PyError (Option UnlockOutcome) → Response
  | .ok (some outcome) => unlocked doorId outcome
  | .ok none => internalServerError
  | .error (.unlockDenied reason internalReason) => httpError (.unlockDenied reason internalReason)
  | .error (.rateLimited seconds) => httpError (.rateLimited seconds)
  | .error _ => internalServerError

end DoorsControl.Api
