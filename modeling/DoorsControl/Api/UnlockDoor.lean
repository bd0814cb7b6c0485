import DoorsControl.Api.ClientIp
import DoorsControl.Api.Responses
import DoorsControl.Api.Session
import DoorsControl.Backend.Records
import DoorsControl.Kit.Only

/-!
# The unlock endpoint

`unlock_door` of `app/api/doors.py`, with `current_session` before it. Who asks is said by the
session and not by the request.

* `unlockDoor`, `unlockDoorResponse` — the endpoint;
* `unlockDoor_allowed` — what has to happen before each call that it makes;
* `unlock_guarded` — **what a request has done, wherever it stands**.
-/

namespace DoorsControl.Api

open DoorsControl.Auth (AuthSettings Session)
open DoorsControl.Backend (Authorised Backed Delivered PyError UnlockArgs UnlockOp UnlockOutcome
  UnlockSettings unlock unlock_backed unlock_sound)
open Kit.Prog (Always OnOk Steps always_bind always_seq)

/-- What the endpoint uses of its settings, and where a sigma ends a word. -/
structure DoorSettings where
  authSettings : AuthSettings
  unlockSettings : UnlockSettings
  trustedProxies : Text
  isFinal : Text → Text → Bool

/-- A request, with the peer of its connection and its `X-Forwarded-For`. -/
structure DoorRequest where
  authorization : Option Text
  peer : Option Text
  forwarded : Option Text
  doorId : Uuid
  proximityBeaconId : Text

/-- The arguments of `unlock`. -/
def DoorRequest.args (request : DoorRequest) (session : Session) (clientIp : Option Text) :
    UnlockArgs where
  userId := session.userId
  deviceId := session.deviceId
  doorId := request.doorId
  proximityBeaconId := request.proximityBeaconId
  clientIp := clientIp

/-- `unlock_door` -/
def unlockDoor (settings : DoorSettings) (request : DoorRequest) :
    Route UnlockOp.Res PyError (Option UnlockOutcome) := do
  let session ← currentSession settings.authSettings settings.isFinal request.authorization
  match clientIp settings.trustedProxies request.peer request.forwarded with
  | none => throw (.raised (text "ValueError"))
  | some address => ofService (unlock settings.unlockSettings (request.args session address))

/-- What the request is answered with. -/
def unlockDoorResponse (doorId : Uuid) :
    Except (RouteError PyError) (Option UnlockOutcome) → Response
  | .ok outcome => unlockResponse doorId (.ok outcome)
  | .error (.own error) => unlockResponse doorId (.error error)
  | .error (.auth (.authentication reason)) => httpError (.authentication reason)
  | .error (.auth (.database _)) | .error (.raised _) => internalServerError

/-! ## Programs of a service -/

section Service

variable {Op : Type} {Res : Op → Type} {ε α : Type}

/-- What is asked of the calls of a service, where the endpoint makes no statement itself. -/
def OwnOnly (ok : List (Kit.Event Op Res) → Op → Prop) (hist : List (RouteEvent Res)) :
    RouteOp Op → Prop
  | .own o => ok (ownEvents hist) o
  | .session _ => False

/-- A fact about a service holds where it is called. -/
theorem always_ofService {ok : List (Kit.Event Op Res) → Op → Prop}
    {P : List (Kit.Event Op Res) → α → Prop} {hist : List (RouteEvent Res)}
    {p : ExceptT ε (Kit.Prog Op Res) α} (h : Always ok (OnOk P) (ownEvents hist) p.run) :
    Always (OwnOnly ok) (OnOk fun hist a => P (ownEvents hist) a) hist
      (ofService p : Route Res ε α).run := by
  show Always _ _ hist (p.run.embed RouteOp.own (fun _ answer => answer) >>= fun a =>
    Kit.Prog.pure (a.mapError RouteError.own))
  rw [always_bind]
  have embedded : Always (OwnOnly ok) (fun hist => OnOk P (ownEvents hist)) hist
      (p.run.embed RouteOp.own fun _ answer => answer) := by
    refine Always.embed ownEvents_own ?_ ?_ h
    · exact fun hist o allowed => allowed
    · exact fun hist result returned => returned
  refine embedded.mono fun hist result returned => ?_
  cases result with
  | ok value => exact returned
  | error error => trivial

end Service

/-! ## What is behind the calls -/

section Guarded

variable (settings : DoorSettings) (request : DoorRequest)

/-- The arguments are those of a session with a live token. -/
def AskedBy (hist : List (RouteEvent UnlockOp.Res)) (args : UnlockArgs) : Prop :=
  ∃ session address,
    Holds settings.authSettings settings.isFinal request.authorization hist session ∧
    clientIp settings.trustedProxies request.peer request.forwarded = some address ∧
    args = request.args session address

/-- What has to be before a call. -/
def UnlockAllowed (hist : List (RouteEvent UnlockOp.Res)) : RouteOp UnlockOp → Prop
  | .session o => asksSession o = true ∧ ownEvents hist = []
  | .own o => ∃ args, AskedBy settings request hist args ∧
      Authorised settings.unlockSettings args (ownEvents hist) o ∧ Backed args (ownEvents hist) o

theorem unlockDoor_allowed :
    Always (UnlockAllowed settings request)
      (OnOk fun hist outcome => ∃ args, AskedBy settings request hist args ∧
        Delivered settings.unlockSettings args (ownEvents hist) outcome) []
      (unlockDoor settings request).run := by
  refine always_seq (currentSession_holds fun hist o first asks => ⟨asks, first⟩) ?_
  rintro hist session ⟨first, holds⟩
  cases isAddress : clientIp settings.trustedProxies request.peer request.forwarded with
  | none => trivial
  | some address =>
      let args := request.args session address
      have both : Always
          (fun hist o => Authorised settings.unlockSettings args hist o ∧ Backed args hist o)
          (OnOk (Delivered settings.unlockSettings args)) (ownEvents hist)
          (unlock settings.unlockSettings args).run := by
        rw [first]
        exact ((unlock_sound _ _).and (unlock_backed _ _)).mono fun _ _ returned => returned.1
      -- the session holds at every later point
      have kept := Always.keep
        (Holds settings.authSettings settings.isFinal request.authorization · session)
        (fun _ _ holds => holds.mono (List.subset_cons_self _ _)) holds (always_ofService both)
      refine (kept.imp ?_).mono ?_
      · rintro hist o ⟨holds, allowed⟩
        cases o with
        | session o => exact allowed.elim
        | own o => exact ⟨_, ⟨session, address, holds, isAddress, rfl⟩, allowed⟩
      · rintro hist result ⟨holds, returned⟩
        cases result with
        | ok outcome => exact ⟨_, ⟨session, address, holds, isAddress, rfl⟩, returned⟩
        | error error => trivial

/-- Status 200 stands for a door that was opened. -/
theorem outcome_of_opened {doorId : Uuid}
    {result : Except (RouteError PyError) (Option UnlockOutcome)}
    (opened : (unlockDoorResponse doorId result).status = 200) :
    ∃ outcome, result = .ok (some outcome) := by
  match result with
  | .ok (some outcome) => exact ⟨outcome, rfl⟩
  | .ok none => cases opened
  | .error (.own error) => cases error <;> cases opened
  | .error (.auth (.authentication reason)) => cases opened
  | .error (.auth (.database error)) => cases opened
  | .error (.raised name) => cases opened

/-- **What a request to unlock has done, wherever it stands.** It has asked for its session first,
and each call after that was made for the user and the device of a token that was live when it was
looked at: every row names them and the door and says what happened, the signer was asked at most
once and after every check, and the frame went to the controller of the door after the grant was
recorded. And status 200 stands for an acknowledgement of that frame. -/
theorem unlock_guarded {hist : List (RouteEvent UnlockOp.Res)}
    {q : Kit.Prog (RouteOp UnlockOp) (RouteOp.Res UnlockOp.Res)
      (Except (RouteError PyError) (Option UnlockOutcome))}
    (steps : Steps (unlockDoor settings request).run hist q) :
    (∀ later e before, hist = later ++ e :: before →
      UnlockAllowed settings request before e.op) ∧
    ∀ result, q = .pure result → (unlockDoorResponse request.doorId result).status = 200 →
      ∃ outcome args, result = .ok (some outcome) ∧ AskedBy settings request hist args ∧
        Delivered settings.unlockSettings args (ownEvents hist) (some outcome) := by
  have allowed := unlockDoor_allowed settings request
  refine ⟨fun later e before shape => allowed.past steps shape, ?_⟩
  rintro result rfl opened
  obtain ⟨outcome, rfl⟩ := outcome_of_opened opened
  obtain ⟨args, asked, delivered⟩ := allowed.along steps
  exact ⟨outcome, args, rfl, asked, delivered⟩

end Guarded

/-- The settings of the samples. -/
def sampleDoors : DoorSettings where
  authSettings :=
    { pepperBytes := [], accessTokenTtl := 900, refreshTokenTtl := 2592000,
      attestationStrict := true, verifyPassword _ _ := false, isoformat _ := [] }
  unlockSettings := Backend.sampleSettings
  trustedProxies := []
  isFinal _ _ := false

/-- The token is live, everything answers, and the controller opens. -/
def openingAnswer : (o : RouteOp UnlockOp) → RouteOp.Res UnlockOp.Res o
  | .session (.lookup _ _) => .ok (some
      { id := 1, familyId := 2, userId := 3, deviceId := 4, expiresAt := 900, usedAt := none,
        revokedAt := none, userActive := true, userIsAdmin := false, displayName := "Ada",
        username := "ada", deviceBlocked := false, attestationStatus := .verified })
  | .session .utcNow => .ok 0
  | .session _ => .error []
  | .own o => Backend.sampleOracle [] o

theorem unlock_guarded_sample :
    let request : DoorRequest := ⟨some (text "Bearer t"), none, none, 3,
      Backend.sampleArgs.proximityBeaconId⟩
    ∃ hist result, Steps (unlockDoor sampleDoors request).run hist (.pure result) ∧
      ∃ outcome args, result = .ok (some outcome) ∧ AskedBy sampleDoors request hist args ∧
        Delivered sampleDoors.unlockSettings args (ownEvents hist) (some outcome) := by
  intro request
  have steps := Kit.Prog.steps_runWith (p := (unlockDoor sampleDoors request).run)
    (fun _ => openingAnswer) .start
  refine ⟨_, _, steps, (unlock_guarded sampleDoors request steps).2 _ rfl ?_⟩
  decide +kernel

end DoorsControl.Api
