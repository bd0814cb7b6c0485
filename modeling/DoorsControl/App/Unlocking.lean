import DoorsControl.App.BeaconScanner
import DoorsControl.Data.Json
import DoorsControl.Kit.Machine
import Mathlib.Data.Int.Order.Basic
import Mathlib.Data.List.MinMax

/-!
# Unlocking, on the phone

`DoorListViewModel.kt`, with `DoorsRepository.unlock` and the sightings of `BeaconScanner.kt`. A
coroutine of `unlock` suspends in the prompt, on its way to another thread, in the request and on
its way back; taps, sightings, other coroutines and the end of the screen come in between.

* `freshest`, `unlockResult` — the scanner's answer, and what is made of the server's;
* `Phone.step` — one step of one of the coroutines, of the scanner, or of the clock;
* `Phone.step_cases` — **everything a step can be**.

Anything that is thrown and not caught ends the app, and so a run. Whether the screen shows a
beacon nearby is left out: `unlock` does not read it.
-/

namespace DoorsControl.App

/-! ## The scanner -/

/-- `BeaconScanner.Sighting` -/
structure Sighting where
  identifier : Text
  rssi : Int
  elapsedRealtimeMs : Int
  deriving DecidableEq

/-- `MAX_AGE_MS` -/
def maxAgeMs : Int := 55000

/-- `sightings[identifier] = sighting` -/
def remember (sighting : Sighting) (sightings : List Sighting) : List Sighting :=
  sighting :: sightings.filter fun old => old.identifier ≠ sighting.identifier

/-- `maxByOrNull { it.elapsedRealtimeMs }` -/
def newest (sightings : List Sighting) : Option Sighting :=
  @List.argmax _ _ Int.instLinearOrder.toPartialOrder.toPreorder Int.decLt
    Sighting.elapsedRealtimeMs sightings

/-- `freshest`, on the values of the map in the order in which it has them. -/
def freshest (values : List Sighting) (now : Int) : Option Text :=
  (newest (values.filter fun sighting => now - sighting.elapsedRealtimeMs ≤ maxAgeMs)).map
    Sighting.identifier

theorem newest_eq_none {sightings : List Sighting} : newest sightings = none ↔ sightings = [] :=
  List.argmax_eq_none

theorem newest_mem {sightings : List Sighting} {sighting : Sighting}
    (best : newest sightings = some sighting) : sighting ∈ sightings :=
  List.argmax_mem best

theorem newest_le {sightings : List Sighting} {sighting other : Sighting}
    (best : newest sightings = some sighting) (mem : other ∈ sightings) :
    other.elapsedRealtimeMs ≤ sighting.elapsedRealtimeMs :=
  List.le_of_mem_argmax mem best

/-! ## The repository -/

/-- `UnlockResult` -/
inductive UnlockResult where
  | opened (openedForMs : Int)
  | denied
  | notPresent
  | controllerOffline
  | rateLimited
  | failed
  | sessionLost
  | offline
  | biometricRefused
  deriving DecidableEq

/-- What `api.unlock` comes to. -/
inductive ApiEnd where
  | returned
  | httpException (code : Nat) (errorBody : Option Text)
  | ioException

/-- The `error` of an `ApiErrorBody`, unless decoding it throws. -/
def apiErrorBody : Json Text → Option Text
  | .obj fields =>
      match Json.get? fields (text "error") with
      | some (.str error) => some error
      | _ => none
  | _ => none

/-- `errorCode`; `parseToJsonElement` may throw. -/
def errorCode (parseToJsonElement : Text → Option (Json Text)) : Option Text → Text
  | none => text "denied"
  | some body =>
      let error := (parseToJsonElement body).bind fun root =>
        match root with
        | .obj fields =>
            match Json.get? fields (text "detail") with
            | some detail => apiErrorBody detail
            | none => apiErrorBody root
        | _ => apiErrorBody root
      error.getD (text "denied")

/-- What `DoorsRepository.unlock` makes of the end of its request. -/
def unlockResult (parseToJsonElement : Text → Option (Json Text)) : ApiEnd → UnlockResult
  | .returned => .opened 0
  | .httpException code errorBody =>
      if code = 401 then .sessionLost
      else if code = 429 then .rateLimited
      else if code = 403 then
        let error := errorCode parseToJsonElement errorBody
        if error = text "not_present" then .notPresent
        else if error = text "controller_offline" then .controllerOffline
        else if error = text "failed" then .failed
        else .denied
      else .failed
  | .ioException => .offline

/-! ## The view model -/

/-- `DoorListState` -/
structure DoorListState (δ : Type) where
  loading : Bool
  doors : List δ
  offline : Bool
  unlockingDoorId : Option Text
  lastResult : Option UnlockResult

/-- A new view model, with its first `refresh`. -/
def DoorListState.initial {δ : Type} : DoorListState δ := ⟨true, [], false, none, none⟩

/-- Where a coroutine of `unlock` stands. -/
inductive UnlockStage where
  /-- in `authenticate` -/
  | authenticating
  /-- on its way to the thread that reads the scanner -/
  | authenticated
  /-- in `api.unlock` -/
  | requesting
  /-- on its way back -/
  | answered (result : UnlockResult)
  | ended (result : UnlockResult)
  /-- with the scope of its view model -/
  | cancelled

def UnlockStage.live : UnlockStage → Bool
  | .ended _ | .cancelled => false
  | _ => true

/-- A coroutine of `unlock`. -/
structure Attempt where
  doorId : Text
  stage : UnlockStage

/-- A call of `freshest` by an attempt, with everything that had been heard by then. If there is a
beacon, it is sent at once, with a new request id. -/
structure BeaconRead where
  attempt : Nat
  doorId : Text
  readAt : Int
  heard : List Sighting
  beacon : Option Text
  clientRequestId : Text

/-- The screen, the coroutines of `unlock` in the order of their start, the map of the scanner and
`elapsedRealtime`; and what happened, the latest first: what was heard, whose prompt succeeded, who
read the scanner, what the requests came to, and the door lists of this screen. -/
structure Phone (δ : Type) where
  screen : DoorListState δ
  attempts : List Attempt
  sightings : List Sighting
  now : Int
  heard : List Sighting
  confirmed : List Nat
  reads : List BeaconRead
  answers : List (Nat × ApiEnd)
  fetched : List (Option (List δ))

inductive PhoneAction (δ : Type) where
  /-- `onScanResult` -/
  | sighted (manufacturerData : Bytes) (rssi : Int)
  /-- a tap on a door -/
  | unlock (doorId : Text)
  /-- `authenticate` returns -/
  | prompted (attempt : Nat) (succeeded : Bool)
  /-- `scanner.freshest()`, on the map in that order; and the request, if there is a beacon -/
  | read (attempt : Nat) (values : List Sighting) (uuid : Text)
  /-- `api.unlock` returns or throws -/
  | returned (attempt : Nat) (apiEnd : ApiEnd)
  /-- the coroutine is back on the main thread -/
  | resumed (attempt : Nat)
  | clearResult
  | refresh
  /-- `repository.doors()` returns -/
  | refreshed (doors : Option (List δ))
  /-- the view model is cleared, and there is a new one -/
  | cleared
  | pass (ms : Nat)

namespace Phone

variable {δ : Type}

def start (now : Int) : Phone δ := ⟨.initial, [], [], now, [], [], [], [], []⟩

def setStage (s : Phone δ) (i : Nat) (attempt : Attempt) (stage : UnlockStage) : Phone δ :=
  { s with attempts := s.attempts.set i { attempt with stage } }

/-- The last assignment of `unlock`. -/
def finish (s : Phone δ) (i : Nat) (attempt : Attempt) (result : UnlockResult) : Phone δ :=
  { s with
    screen := { s.screen with unlockingDoorId := none, lastResult := some result }
    attempts := s.attempts.set i { attempt with stage := .ended result } }

/-- `viewModelScope.cancel()` -/
def cancelled (attempt : Attempt) : Attempt :=
  if attempt.stage.live then { attempt with stage := .cancelled } else attempt

variable (parseToJsonElement : Text → Option (Json Text))

def step (s : Phone δ) : PhoneAction δ → Option (Phone δ)
  | .sighted data rssi =>
      match scannedIdentifier data with
      | none => some s
      | some identifier =>
          let sighting : Sighting := ⟨identifier, rssi, s.now⟩
          some { s with
            sightings := remember sighting s.sightings
            heard := sighting :: s.heard }
  | .unlock doorId =>
      if s.screen.unlockingDoorId.isSome then some s
      else some { s with
        screen := { s.screen with unlockingDoorId := some doorId, lastResult := none }
        attempts := s.attempts ++ [⟨doorId, .authenticating⟩] }
  | .prompted i succeeded =>
      s.attempts[i]?.bind fun attempt =>
        match attempt.stage with
        | .authenticating =>
            if succeeded then
              some ({ s with confirmed := i :: s.confirmed }.setStage i attempt .authenticated)
            else some (s.finish i attempt .biometricRefused)
        | _ => none
  | .read i values uuid =>
      s.attempts[i]?.bind fun attempt =>
        match attempt.stage with
        | .authenticated =>
            if values.isPerm s.sightings then
              let beacon := freshest values s.now
              let read : BeaconRead := ⟨i, attempt.doorId, s.now, s.heard, beacon, uuid⟩
              some ({ s with reads := read :: s.reads }.setStage i attempt
                (if beacon.isSome then .requesting else .answered .notPresent))
            else none
        | _ => none
  | .returned i apiEnd =>
      s.attempts[i]?.bind fun attempt =>
        match attempt.stage with
        | .requesting =>
            some ({ s with answers := (i, apiEnd) :: s.answers }.setStage i attempt
              (.answered (unlockResult parseToJsonElement apiEnd)))
        | _ => none
  | .resumed i =>
      s.attempts[i]?.bind fun attempt =>
        match attempt.stage with
        | .answered result => some (s.finish i attempt result)
        | _ => none
  | .clearResult => some { s with screen := { s.screen with lastResult := none } }
  | .refresh => some { s with screen := { s.screen with loading := true } }
  | .refreshed (some doors) => some { s with
      screen := { s.screen with loading := false, doors, offline := false }
      fetched := some doors :: s.fetched }
  | .refreshed none => some { s with
      screen := { s.screen with loading := false, offline := true }
      fetched := none :: s.fetched }
  | .cleared => some { s with
      screen := .initial
      attempts := s.attempts.map cancelled
      fetched := [] }
  | .pass ms => some { s with now := s.now + ms }

/-! ## What one step does -/

/-- A step of one coroutine. -/
inductive AttemptStep (s : Phone δ) (i : Nat) (attempt : Attempt) : Phone δ → Prop
  | confirmed (isStage : attempt.stage = .authenticating) :
      AttemptStep s i attempt
        ({ s with confirmed := i :: s.confirmed }.setStage i attempt .authenticated)
  | refused (isStage : attempt.stage = .authenticating) :
      AttemptStep s i attempt (s.finish i attempt .biometricRefused)
  | read (values : List Sighting) (uuid : Text) (isStage : attempt.stage = .authenticated)
      (perm : values.Perm s.sightings) :
      AttemptStep s i attempt
        ({ s with reads := ⟨i, attempt.doorId, s.now, s.heard, freshest values s.now, uuid⟩ ::
          s.reads }.setStage i attempt
            (if (freshest values s.now).isSome then .requesting else .answered .notPresent))
  | returned (apiEnd : ApiEnd) (isStage : attempt.stage = .requesting) :
      AttemptStep s i attempt ({ s with answers := (i, apiEnd) :: s.answers }.setStage i attempt
        (.answered (unlockResult parseToJsonElement apiEnd)))
  | resumed {result : UnlockResult} (isStage : attempt.stage = .answered result) :
      AttemptStep s i attempt (s.finish i attempt result)

/-- A step of the screen alone. -/
inductive ScreenStep (s : Phone δ) : Phone δ → Prop
  | clearResult : ScreenStep s { s with screen := { s.screen with lastResult := none } }
  | refresh : ScreenStep s { s with screen := { s.screen with loading := true } }
  | fetched (doors : List δ) : ScreenStep s { s with
      screen := { s.screen with loading := false, doors, offline := false }
      fetched := some doors :: s.fetched }
  | unreachable : ScreenStep s { s with
      screen := { s.screen with loading := false, offline := true }
      fetched := none :: s.fetched }

variable {parseToJsonElement} {s s' : Phone δ} {a : PhoneAction δ}

/-- **Everything a step can be.** -/
theorem step_cases (h : step parseToJsonElement s a = some s') :
    s' = s ∨
    (∃ identifier rssi, s' = { s with
      sightings := remember ⟨identifier, rssi, s.now⟩ s.sightings
      heard := ⟨identifier, rssi, s.now⟩ :: s.heard }) ∨
    (∃ doorId, s.screen.unlockingDoorId = none ∧ s' = { s with
      screen := { s.screen with unlockingDoorId := some doorId, lastResult := none }
      attempts := s.attempts ++ [⟨doorId, .authenticating⟩] }) ∨
    (∃ i attempt, s.attempts[i]? = some attempt ∧
      AttemptStep parseToJsonElement s i attempt s') ∨
    ScreenStep s s' ∨
    s' = { s with screen := .initial, attempts := s.attempts.map cancelled, fetched := [] } ∨
    ∃ ms : Nat, s' = { s with now := s.now + ms } := by
  cases a with
  | sighted data rssi =>
      rw [step] at h
      cases scanned : scannedIdentifier data with
      | none =>
          rw [scanned] at h
          exact .inl (Option.some.inj h).symm
      | some identifier =>
          rw [scanned] at h
          exact .inr (.inl ⟨identifier, rssi, (Option.some.inj h).symm⟩)
  | unlock doorId =>
      rw [step] at h
      split_ifs at h with busy
      · exact .inl (Option.some.inj h).symm
      · exact .inr (.inr (.inl ⟨doorId, Option.not_isSome_iff_eq_none.mp busy,
          (Option.some.inj h).symm⟩))
  | prompted i succeeded =>
      obtain ⟨attempt, found, taken⟩ := Option.bind_eq_some_iff.mp h
      refine .inr (.inr (.inr (.inl ⟨i, attempt, found, ?_⟩)))
      split at taken
      · rename_i isStage
        split_ifs at taken
        · exact Option.some.inj taken ▸ .confirmed isStage
        · exact Option.some.inj taken ▸ .refused isStage
      · cases taken
  | read i values uuid =>
      obtain ⟨attempt, found, taken⟩ := Option.bind_eq_some_iff.mp h
      refine .inr (.inr (.inr (.inl ⟨i, attempt, found, ?_⟩)))
      split at taken
      · rename_i isStage
        split_ifs at taken with perm
        exact Option.some.inj taken ▸ .read values uuid isStage (List.isPerm_iff.mp perm)
      · cases taken
  | returned i apiEnd =>
      obtain ⟨attempt, found, taken⟩ := Option.bind_eq_some_iff.mp h
      refine .inr (.inr (.inr (.inl ⟨i, attempt, found, ?_⟩)))
      split at taken
      · rename_i isStage
        exact Option.some.inj taken ▸ .returned apiEnd isStage
      · cases taken
  | resumed i =>
      obtain ⟨attempt, found, taken⟩ := Option.bind_eq_some_iff.mp h
      refine .inr (.inr (.inr (.inl ⟨i, attempt, found, ?_⟩)))
      split at taken
      · rename_i result isStage
        exact Option.some.inj taken ▸ .resumed isStage
      · cases taken
  | clearResult => exact .inr (.inr (.inr (.inr (.inl (Option.some.inj h ▸ .clearResult)))))
  | refresh => exact .inr (.inr (.inr (.inr (.inl (Option.some.inj h ▸ .refresh)))))
  | refreshed result =>
      cases result with
      | none => exact .inr (.inr (.inr (.inr (.inl (Option.some.inj h ▸ .unreachable)))))
      | some doors => exact .inr (.inr (.inr (.inr (.inl (Option.some.inj h ▸ .fetched doors)))))
  | cleared => exact .inr (.inr (.inr (.inr (.inr (.inl (Option.some.inj h).symm)))))
  | pass ms => exact .inr (.inr (.inr (.inr (.inr (.inr ⟨ms, (Option.some.inj h).symm⟩)))))

end Phone

end DoorsControl.App
