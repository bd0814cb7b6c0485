import DoorsControl.App.Unlocking
import DoorsControl.Kit.Pool

/-!
# One unlock at a time, and what is shown of it

"There is no path through the app that sends a value the scanner did not actually hear inside the
freshness window." And what the screen shows is about the attempt that was made last.

* `PhoneOk` — the invariant of a run, with `Stands` for each coroutine and `Scanned` for the map;
* `attempts_answered` — **one attempt at a time, one request for each, and its own result**.
-/

namespace DoorsControl.App

open Kit (Reaches)
open Phone

variable {δ : Type} {parseToJsonElement : Text → Option (Json Text)}

/-! ## The map of the scanner -/

/-- The map has what was heard last, and nothing that was not heard. -/
structure Scanned (sightings heard : List Sighting) (now : Int) : Prop where
  real : sightings ⊆ heard
  past : ∀ sighting ∈ heard, sighting.elapsedRealtimeMs ≤ now
  covered : ∀ sighting ∈ heard, ∃ kept ∈ sightings,
    sighting.elapsedRealtimeMs ≤ kept.elapsedRealtimeMs

theorem Scanned.sighted {sightings heard : List Sighting} {now : Int}
    (scanned : Scanned sightings heard now) (identifier : Text) (rssi : Int) :
    Scanned (remember ⟨identifier, rssi, now⟩ sightings) (⟨identifier, rssi, now⟩ :: heard) now where
  real := by
    intro sighting mem
    rcases List.mem_cons.mp mem with rfl | old
    · exact List.mem_cons_self
    · exact List.mem_cons_of_mem _ (scanned.real (List.mem_filter.mp old).1)
  past := by
    intro sighting mem
    rcases List.mem_cons.mp mem with rfl | old
    · exact le_rfl
    · exact scanned.past sighting old
  covered := by
    intro sighting mem
    refine ⟨_, List.mem_cons_self, ?_⟩
    rcases List.mem_cons.mp mem with rfl | old
    · exact le_rfl
    · exact scanned.past sighting old

/-- What a call of `freshest` returned, by what had been heard: the latest identifier, if it is not
too old. -/
def BeaconRead.Fresh (read : BeaconRead) : Prop :=
  match read.beacon with
  | some beacon => ∃ sighting ∈ read.heard, sighting.identifier = beacon ∧
      sighting.elapsedRealtimeMs ≤ read.readAt ∧
      read.readAt - sighting.elapsedRealtimeMs ≤ maxAgeMs ∧
      ∀ other ∈ read.heard, other.elapsedRealtimeMs ≤ sighting.elapsedRealtimeMs
  | none => ∀ sighting ∈ read.heard, maxAgeMs < read.readAt - sighting.elapsedRealtimeMs

theorem Scanned.fresh {sightings heard values : List Sighting} {now : Int}
    (scanned : Scanned sightings heard now) (perm : values.Perm sightings) (i : Nat) (doorId : Text)
    (uuid : Text) : BeaconRead.Fresh ⟨i, doorId, now, heard, freshest values now, uuid⟩ := by
  unfold BeaconRead.Fresh freshest
  cases best : newest (values.filter fun sighting => now - sighting.elapsedRealtimeMs ≤ maxAgeMs)
    with
  | none =>
      intro sighting mem
      obtain ⟨kept, isKept, later⟩ := scanned.covered sighting mem
      have nothing := List.filter_eq_nil_iff.mp (newest_eq_none.mp best) kept
        (perm.mem_iff.mpr isKept)
      rw [decide_eq_true_eq, not_le] at nothing
      show maxAgeMs < now - sighting.elapsedRealtimeMs
      omega
  | some sighting =>
      obtain ⟨inside, recent⟩ := List.mem_filter.mp (newest_mem best)
      have recent := of_decide_eq_true recent
      have real := scanned.real (perm.mem_iff.mp inside)
      refine ⟨sighting, real, rfl, scanned.past sighting real, recent, ?_⟩
      intro other mem
      obtain ⟨kept, isKept, later⟩ := scanned.covered other mem
      -- what is too old for the filter is older than what is not
      by_cases old : now - kept.elapsedRealtimeMs ≤ maxAgeMs
      · have among : kept ∈ values.filter fun sighting =>
            now - sighting.elapsedRealtimeMs ≤ maxAgeMs :=
          List.mem_filter.mpr ⟨perm.mem_iff.mpr isKept, by simpa using old⟩
        exact later.trans (newest_le best among)
      · show other.elapsedRealtimeMs ≤ sighting.elapsedRealtimeMs
        omega

/-! ## The coroutines -/

/-- The scanner had a beacon for the attempt, which was sent then, or had none. -/
def HasRead (reads : List BeaconRead) (i : Nat) (sent : Bool) : Prop :=
  ∃ read ∈ reads, read.attempt = i ∧ read.beacon.isSome = sent

/-- Where a result comes from, if the user confirmed: the scanner had nothing, or the one request
of the attempt came to it. -/
def Answered (parseToJsonElement : Text → Option (Json Text)) (reads : List BeaconRead)
    (answers : List (Nat × ApiEnd)) (i : Nat) (result : UnlockResult) : Prop :=
  (result = .notPresent ∧ HasRead reads i false) ∨
    ∃ apiEnd, (i, apiEnd) ∈ answers ∧ result = unlockResult parseToJsonElement apiEnd ∧
      HasRead reads i true

/-- Where an attempt stands, by what happened. -/
def Stands (parseToJsonElement : Text → Option (Json Text)) (confirmed : List Nat)
    (reads : List BeaconRead) (answers : List (Nat × ApiEnd)) (i : Nat) : UnlockStage → Prop
  | .authenticating =>
      i ∉ confirmed ∧ i ∉ reads.map BeaconRead.attempt ∧ i ∉ answers.map Prod.fst
  | .authenticated =>
      i ∈ confirmed ∧ i ∉ reads.map BeaconRead.attempt ∧ i ∉ answers.map Prod.fst
  | .requesting => i ∈ confirmed ∧ HasRead reads i true ∧ i ∉ answers.map Prod.fst
  | .answered result => i ∈ confirmed ∧ Answered parseToJsonElement reads answers i result
  | .ended result =>
      (result = .biometricRefused ∧ i ∉ confirmed ∧ i ∉ reads.map BeaconRead.attempt) ∨
        (i ∈ confirmed ∧ Answered parseToJsonElement reads answers i result)
  | .cancelled => True

/-- The state of a run. -/
structure PhoneOk (parseToJsonElement : Text → Option (Json Text)) (s : Phone δ) : Prop where
  busy : ∀ i attempt, s.attempts[i]? = some attempt → attempt.stage.live = true →
    i + 1 = s.attempts.length ∧ s.screen.unlockingDoorId = some attempt.doorId
  underWay : ∀ doorId, s.screen.unlockingDoorId = some doorId → s.screen.lastResult = none ∧
    ∃ attempt, s.attempts.getLast? = some attempt ∧ attempt.stage.live = true ∧
      attempt.doorId = doorId
  shown : ∀ result, s.screen.lastResult = some result →
    ∃ attempt, s.attempts.getLast? = some attempt ∧ attempt.stage = .ended result
  stands : ∀ i attempt, s.attempts[i]? = some attempt →
    Stands parseToJsonElement s.confirmed s.reads s.answers i attempt.stage
  once : (s.reads.map BeaconRead.attempt).Nodup
  answeredOnce : (s.answers.map Prod.fst).Nodup
  asked : ∀ i ∈ s.answers.map Prod.fst, i < s.attempts.length
  known : ∀ i ∈ s.confirmed, i < s.attempts.length
  own : ∀ read ∈ s.reads, read.attempt ∈ s.confirmed ∧ read.Fresh ∧
    ∃ attempt, s.attempts[read.attempt]? = some attempt ∧ attempt.doorId = read.doorId
  scanned : Scanned s.sightings s.heard s.now
  doors : s.screen.doors = ((s.fetched.filterMap id).head?).getD []
  offline : s.screen.offline = true ↔ s.fetched.head? = some none

section Step

variable {confirmed confirmed' : List Nat} {reads reads' : List BeaconRead}
  {answers answers' : List (Nat × ApiEnd)} {i j : Nat} {stage : UnlockStage}

theorem HasRead.mono {sent : Bool} (h : HasRead reads i sent) (more : reads ⊆ reads') :
    HasRead reads' i sent := by
  obtain ⟨read, mem, own, isSent⟩ := h
  exact ⟨read, more mem, own, isSent⟩

theorem Answered.mono {result : UnlockResult}
    (h : Answered parseToJsonElement reads answers i result) (moreReads : reads ⊆ reads')
    (moreAnswers : answers ⊆ answers') :
    Answered parseToJsonElement reads' answers' i result := by
  rcases h with ⟨isResult, read⟩ | ⟨apiEnd, mem, isResult, read⟩
  · exact .inl ⟨isResult, read.mono moreReads⟩
  · exact .inr ⟨apiEnd, moreAnswers mem, isResult, read.mono moreReads⟩

/-- What another attempt did changes nothing for this one. -/
theorem Stands.other (h : Stands parseToJsonElement confirmed reads answers j stage)
    (newConfirmed : confirmed' = confirmed ∨ confirmed' = i :: confirmed)
    (newReads : reads' = reads ∨ ∃ read, read.attempt = i ∧ reads' = read :: reads)
    (newAnswers : answers' = answers ∨ ∃ apiEnd, answers' = (i, apiEnd) :: answers)
    (apart : j ≠ i) : Stands parseToJsonElement confirmed' reads' answers' j stage := by
  have confirms : j ∈ confirmed' ↔ j ∈ confirmed := by
    rcases newConfirmed with rfl | rfl
    · exact Iff.rfl
    · rw [List.mem_cons, or_iff_right apart]
  have readBy : j ∈ reads'.map BeaconRead.attempt ↔ j ∈ reads.map BeaconRead.attempt := by
    rcases newReads with rfl | ⟨read, rfl, rfl⟩
    · exact Iff.rfl
    · rw [List.map_cons, List.mem_cons, or_iff_right apart]
  have moreReads : reads ⊆ reads' := by
    rcases newReads with rfl | ⟨read, -, rfl⟩
    · exact List.Subset.refl _
    · exact List.subset_cons_self _ _
  have answered : j ∈ answers'.map Prod.fst ↔ j ∈ answers.map Prod.fst := by
    rcases newAnswers with rfl | ⟨apiEnd, rfl⟩
    · exact Iff.rfl
    · rw [List.map_cons, List.mem_cons, or_iff_right apart]
  have moreAnswers : answers ⊆ answers' := by
    rcases newAnswers with rfl | ⟨apiEnd, rfl⟩
    · exact List.Subset.refl _
    · exact List.subset_cons_self _ _
  cases stage with
  | authenticating => exact ⟨mt confirms.mp h.1, mt readBy.mp h.2.1, mt answered.mp h.2.2⟩
  | authenticated => exact ⟨confirms.mpr h.1, mt readBy.mp h.2.1, mt answered.mp h.2.2⟩
  | requesting => exact ⟨confirms.mpr h.1, h.2.1.mono moreReads, mt answered.mp h.2.2⟩
  | answered result => exact ⟨confirms.mpr h.1, h.2.mono moreReads moreAnswers⟩
  | ended result =>
      rcases h with ⟨isResult, unconfirmed, unread⟩ | ⟨isConfirmed, isAnswered⟩
      · exact .inl ⟨isResult, mt confirms.mp unconfirmed, mt readBy.mp unread⟩
      · exact .inr ⟨confirms.mpr isConfirmed, isAnswered.mono moreReads moreAnswers⟩
  | cancelled => trivial

end Step

section Runs

variable {s s' : Phone δ}

theorem phoneOk_start (now : Int) : PhoneOk parseToJsonElement (start now : Phone δ) where
  busy := by simp [start]
  underWay := by simp [start, DoorListState.initial]
  shown := by simp [start, DoorListState.initial]
  stands := by simp [start]
  once := List.nodup_nil
  answeredOnce := List.nodup_nil
  asked := by simp [start]
  known := by simp [start]
  own := by simp [start]
  scanned := ⟨List.Subset.refl _, by simp [start], by simp [start]⟩
  doors := rfl
  offline := by simp [start, DoorListState.initial]

theorem getLast?_set {attempts : List Attempt} {i : Nat} (isLast : i + 1 = attempts.length)
    (attempt : Attempt) : (attempts.set i attempt).getLast? = some attempt := by
  rw [List.getLast?_eq_getElem?, List.length_set, ← isLast, Nat.add_sub_cancel,
    List.getElem?_set_self (by omega)]

/-- One coroutine goes on; at its end it puts its result on the screen. -/
theorem PhoneOk.moves (inv : PhoneOk parseToJsonElement s) {i : Nat} {attempt : Attempt}
    (found : s.attempts[i]? = some attempt) (live : attempt.stage.live = true)
    {stage : UnlockStage} {screen : DoorListState δ} {confirmed : List Nat}
    {reads : List BeaconRead} {answers : List (Nat × ApiEnd)}
    (newScreen : stage.live = true ∧ screen = s.screen ∨ ∃ result, stage = .ended result ∧
      screen = { s.screen with unlockingDoorId := none, lastResult := some result })
    (newConfirmed : confirmed = s.confirmed ∨ confirmed = i :: s.confirmed)
    (newReads : reads = s.reads ∨ ∃ read, read.attempt = i ∧ reads = read :: s.reads)
    (newAnswers : answers = s.answers ∨ ∃ apiEnd, answers = (i, apiEnd) :: s.answers)
    (stands : Stands parseToJsonElement confirmed reads answers i stage)
    (once : (reads.map BeaconRead.attempt).Nodup) (answeredOnce : (answers.map Prod.fst).Nodup)
    (own : ∀ read ∈ reads, read ∈ s.reads ∨ (read.attempt = i ∧ i ∈ confirmed ∧ read.Fresh ∧
      read.doorId = attempt.doorId)) :
    PhoneOk parseToJsonElement { s with
      screen, confirmed, reads, answers
      attempts := s.attempts.set i { attempt with stage } } := by
  obtain ⟨isLast, isDoor⟩ := inv.busy i attempt found live
  have quiet := (inv.underWay _ isDoor).1
  have inside : i < s.attempts.length := by omega
  have moreConfirmed : s.confirmed ⊆ confirmed := by
    rcases newConfirmed with rfl | rfl
    · exact List.Subset.refl _
    · exact List.subset_cons_self _ _
  refine ⟨?_, ?_, ?_, ?_, once, answeredOnce, ?_, ?_, ?_, inv.scanned, ?_, ?_⟩
  · intro j other isOther otherLive
    rw [List.length_set]
    rcases Kit.Pool.get_set_cases isOther with ⟨rfl, rfl⟩ | ⟨apart, old⟩
    · refine ⟨isLast, ?_⟩
      rcases newScreen with ⟨-, rfl⟩ | ⟨result, rfl, -⟩
      · exact isDoor
      · cases otherLive
    · have := (inv.busy j other old otherLive).1
      omega
  · intro doorId isId
    rcases newScreen with ⟨isLive, rfl⟩ | ⟨result, -, rfl⟩
    · refine ⟨quiet, _, getLast?_set isLast _, isLive, ?_⟩
      exact Option.some.inj (isDoor.symm.trans isId)
    · cases isId
  · intro result isResult
    rcases newScreen with ⟨-, rfl⟩ | ⟨last, rfl, rfl⟩
    · rw [quiet] at isResult
      cases isResult
    · obtain rfl := Option.some.inj isResult
      exact ⟨_, getLast?_set isLast _, rfl⟩
  · intro j other isOther
    rcases Kit.Pool.get_set_cases isOther with ⟨rfl, rfl⟩ | ⟨apart, old⟩
    · exact stands
    · exact (inv.stands j other old).other newConfirmed newReads newAnswers apart
  · intro j mem
    rw [List.length_set]
    rcases newAnswers with rfl | ⟨apiEnd, rfl⟩
    · exact inv.asked j mem
    · rcases List.mem_cons.mp mem with rfl | old
      · exact inside
      · exact inv.asked j old
  · intro j mem
    rw [List.length_set]
    rcases newConfirmed with rfl | rfl
    · exact inv.known j mem
    · rcases List.mem_cons.mp mem with rfl | old
      · exact inside
      · exact inv.known j old
  · intro read mem
    have renamed : ∀ (j : Nat) (other : Attempt), s.attempts[j]? = some other →
        ∃ other', (s.attempts.set i { attempt with stage })[j]? = some other' ∧
          other'.doorId = other.doorId := by
      intro j other isOther
      by_cases same : i = j
      · subst same
        obtain rfl := Option.some.inj (found.symm.trans isOther)
        exact ⟨_, List.getElem?_set_self inside, rfl⟩
      · exact ⟨other, (List.getElem?_set_ne same).trans isOther, rfl⟩
    rcases own read mem with old | ⟨rfl, isConfirmed, fresh, isId⟩
    · obtain ⟨isConfirmed, fresh, other, isOther, isId⟩ := inv.own read old
      obtain ⟨other', found', same⟩ := renamed _ _ isOther
      exact ⟨moreConfirmed isConfirmed, fresh, other', found', same.trans isId⟩
    · exact ⟨isConfirmed, fresh, _, List.getElem?_set_self inside, isId.symm⟩
  · rcases newScreen with ⟨-, rfl⟩ | ⟨result, -, rfl⟩
    · exact inv.doors
    · exact inv.doors
  · rcases newScreen with ⟨-, rfl⟩ | ⟨result, -, rfl⟩
    · exact inv.offline
    · exact inv.offline

theorem PhoneOk.attemptStep (inv : PhoneOk parseToJsonElement s) {i : Nat} {attempt : Attempt}
    (found : s.attempts[i]? = some attempt)
    (h : AttemptStep parseToJsonElement s i attempt s') : PhoneOk parseToJsonElement s' := by
  have known := inv.stands i attempt found
  have old : ∀ read ∈ s.reads, read ∈ s.reads ∨ (read.attempt = i ∧ i ∈ s.confirmed ∧ read.Fresh ∧
      read.doorId = attempt.doorId) := fun _ mem => .inl mem
  cases h with
  | confirmed isStage =>
      rw [isStage] at known
      exact inv.moves found (by rw [isStage]; rfl) (.inl ⟨rfl, rfl⟩) (.inr rfl) (.inl rfl)
        (.inl rfl) ⟨List.mem_cons_self, known.2⟩ inv.once inv.answeredOnce fun _ mem => .inl mem
  | refused isStage =>
      rw [isStage] at known
      exact inv.moves found (by rw [isStage]; rfl) (.inr ⟨_, rfl, rfl⟩) (.inl rfl) (.inl rfl)
        (.inl rfl) (.inl ⟨rfl, known.1, known.2.1⟩) inv.once inv.answeredOnce old
  | read values uuid isStage perm =>
      rw [isStage] at known
      obtain ⟨isConfirmed, unread, unanswered⟩ := known
      have fresh := inv.scanned.fresh perm i attempt.doorId uuid
      have once := List.nodup_cons.mpr ⟨unread, inv.once⟩
      have own : ∀ read ∈ (⟨i, attempt.doorId, s.now, s.heard, freshest values s.now, uuid⟩ ::
          s.reads : List BeaconRead), read ∈ s.reads ∨ (read.attempt = i ∧ i ∈ s.confirmed ∧
            read.Fresh ∧ read.doorId = attempt.doorId) := by
        intro read mem
        rcases List.mem_cons.mp mem with rfl | before
        · exact .inr ⟨rfl, isConfirmed, fresh, rfl⟩
        · exact .inl before
      cases isBeacon : freshest values s.now with
      | none =>
          rw [isBeacon] at own
          exact inv.moves found (by rw [isStage]; rfl) (.inl ⟨rfl, rfl⟩) (.inl rfl)
            (.inr ⟨_, rfl, rfl⟩) (.inl rfl)
            ⟨isConfirmed, .inl ⟨rfl, _, List.mem_cons_self, rfl, rfl⟩⟩ once inv.answeredOnce own
      | some beacon =>
          rw [isBeacon] at own
          exact inv.moves found (by rw [isStage]; rfl) (.inl ⟨rfl, rfl⟩) (.inl rfl)
            (.inr ⟨_, rfl, rfl⟩) (.inl rfl)
            ⟨isConfirmed, ⟨_, List.mem_cons_self, rfl, rfl⟩, unanswered⟩ once inv.answeredOnce own
  | returned apiEnd isStage =>
      rw [isStage] at known
      exact inv.moves found (by rw [isStage]; rfl) (.inl ⟨rfl, rfl⟩) (.inl rfl) (.inl rfl)
        (.inr ⟨apiEnd, rfl⟩) ⟨known.1, .inr ⟨apiEnd, List.mem_cons_self, rfl, known.2.1⟩⟩ inv.once
        (List.nodup_cons.mpr ⟨known.2.2, inv.answeredOnce⟩) old
  | resumed isStage =>
      rw [isStage] at known
      exact inv.moves found (by rw [isStage]; rfl) (.inr ⟨_, rfl, rfl⟩) (.inl rfl) (.inl rfl)
        (.inl rfl) (.inr known) inv.once inv.answeredOnce old

/-- A tap, when nothing is under way. -/
theorem PhoneOk.tapped (inv : PhoneOk parseToJsonElement s) (doorId : Text)
    (idle : s.screen.unlockingDoorId = none) : PhoneOk parseToJsonElement { s with
      screen := { s.screen with unlockingDoorId := some doorId, lastResult := none }
      attempts := s.attempts ++ [⟨doorId, .authenticating⟩] } where
  busy := by
    intro i attempt found live
    rw [List.length_append, List.length_singleton]
    rcases Kit.Pool.get_append_index_cases found with old | ⟨rfl, rfl⟩
    · rw [(inv.busy i attempt old live).2] at idle
      cases idle
    · exact ⟨rfl, rfl⟩
  underWay := by
    intro doorId' isId
    obtain rfl := Option.some.inj isId
    exact ⟨rfl, _, List.getLast?_concat, rfl, rfl⟩
  shown := nofun
  stands := by
    intro i attempt found
    rcases Kit.Pool.get_append_index_cases found with old | ⟨rfl, rfl⟩
    · exact inv.stands i attempt old
    · refine ⟨fun mem => absurd (inv.known _ mem) (lt_irrefl _), fun mem => ?_,
        fun mem => absurd (inv.asked _ mem) (lt_irrefl _)⟩
      obtain ⟨read, isRead, same⟩ := List.mem_map.mp mem
      have := inv.known _ (inv.own read isRead).1
      omega
  once := inv.once
  answeredOnce := inv.answeredOnce
  asked := by
    intro i mem
    rw [List.length_append]
    exact Nat.lt_add_right _ (inv.asked i mem)
  known := by
    intro i mem
    rw [List.length_append]
    exact Nat.lt_add_right _ (inv.known i mem)
  own := by
    intro read mem
    obtain ⟨isConfirmed, fresh, attempt, found, isId⟩ := inv.own read mem
    exact ⟨isConfirmed, fresh, attempt, Kit.Pool.get_append_old found, isId⟩
  scanned := inv.scanned
  doors := inv.doors
  offline := inv.offline

theorem PhoneOk.screenStep (inv : PhoneOk parseToJsonElement s) (h : ScreenStep s s') :
    PhoneOk parseToJsonElement s' := by
  cases h with
  | clearResult =>
      exact ⟨inv.busy, fun doorId isId => ⟨rfl, (inv.underWay doorId isId).2⟩, nofun, inv.stands,
        inv.once, inv.answeredOnce, inv.asked, inv.known, inv.own, inv.scanned, inv.doors, inv.offline⟩
  | refresh =>
      exact ⟨inv.busy, inv.underWay, inv.shown, inv.stands, inv.once, inv.answeredOnce,
        inv.asked, inv.known, inv.own, inv.scanned, inv.doors, inv.offline⟩
  | fetched doors =>
      exact ⟨inv.busy, inv.underWay, inv.shown, inv.stands, inv.once, inv.answeredOnce,
        inv.asked, inv.known, inv.own, inv.scanned, rfl, by simp⟩
  | unreachable =>
      exact ⟨inv.busy, inv.underWay, inv.shown, inv.stands, inv.once, inv.answeredOnce,
        inv.asked, inv.known, inv.own, inv.scanned, inv.doors, by simp⟩

theorem live_cancelled (attempt : Attempt) : (cancelled attempt).stage.live = false := by
  unfold cancelled
  split_ifs with live
  · rfl
  · exact Bool.not_eq_true _ ▸ live

/-- The end of a view model. -/
theorem PhoneOk.cleared (inv : PhoneOk parseToJsonElement s) : PhoneOk parseToJsonElement
    ({ s with screen := .initial, attempts := s.attempts.map cancelled, fetched := [] } :
      Phone δ) where
  busy := by
    intro i attempt found live
    rw [List.getElem?_map, Option.map_eq_some_iff] at found
    obtain ⟨old, -, rfl⟩ := found
    rw [live_cancelled] at live
    cases live
  underWay := nofun
  shown := nofun
  stands := by
    intro i attempt found
    rw [List.getElem?_map, Option.map_eq_some_iff] at found
    obtain ⟨old, isOld, rfl⟩ := found
    unfold cancelled
    split_ifs
    · trivial
    · exact inv.stands i old isOld
  once := inv.once
  answeredOnce := inv.answeredOnce
  asked := by
    intro i mem
    rw [List.length_map]
    exact inv.asked i mem
  known := by
    intro i mem
    rw [List.length_map]
    exact inv.known i mem
  own := by
    intro read mem
    obtain ⟨isConfirmed, fresh, attempt, found, isId⟩ := inv.own read mem
    refine ⟨isConfirmed, fresh, cancelled attempt, ?_, ?_⟩
    · rw [List.getElem?_map, found, Option.map_some]
    · rw [← isId]
      unfold cancelled
      split_ifs <;> rfl
  scanned := inv.scanned
  doors := rfl
  offline := by simp [DoorListState.initial]

theorem PhoneOk.step {a : PhoneAction δ} (inv : PhoneOk parseToJsonElement s)
    (stepped : step parseToJsonElement s a = some s') : PhoneOk parseToJsonElement s' := by
  rcases step_cases stepped with rfl | ⟨identifier, rssi, rfl⟩ | ⟨doorId, idle, rfl⟩ |
    ⟨i, attempt, found, taken⟩ | taken | rfl | ⟨ms, rfl⟩
  · exact inv
  · exact ⟨inv.busy, inv.underWay, inv.shown, inv.stands, inv.once, inv.answeredOnce,
      inv.asked, inv.known, inv.own, inv.scanned.sighted identifier rssi, inv.doors, inv.offline⟩
  · exact inv.tapped doorId idle
  · exact inv.attemptStep found taken
  · exact inv.screenStep taken
  · exact inv.cleared
  · have past : ∀ sighting ∈ s.heard, sighting.elapsedRealtimeMs ≤ s.now + ms := by
      intro sighting mem
      have := inv.scanned.past sighting mem
      omega
    exact ⟨inv.busy, inv.underWay, inv.shown, inv.stands, inv.once, inv.answeredOnce,
      inv.asked, inv.known, inv.own, ⟨inv.scanned.real, past, inv.scanned.covered⟩, inv.doors, inv.offline⟩

/-- A run of the phone from a boot on. -/
abbrev PhoneReach (parseToJsonElement : Text → Option (Json Text)) (boot : Int) (s : Phone δ) :
    Prop := Reaches (step parseToJsonElement) (fun _ _ => true) (start boot) s

theorem phoneOk_of_reach {boot : Int} (reach : PhoneReach parseToJsonElement boot s) :
    PhoneOk parseToJsonElement s :=
  reach.invariant (PhoneOk parseToJsonElement) (phoneOk_start boot)
    fun _ _ _ _ inv _ stepped => inv.step stepped

/-- Two boards are heard, the prompt succeeds, and the request is refused. -/
def refusedSchedule : List (PhoneAction Unit) :=
  [.sighted (0xff :: 0xff :: List.replicate 16 1) (-60), .pass 2000,
    .sighted (0xff :: 0xff :: List.replicate 16 2) (-70), .unlock (text "attic"),
    .unlock (text "cellar"), .prompted 0 true, .pass 50000,
    .read 0 [⟨chars (urlsafeNoPad (List.replicate 16 1)), -60, 0⟩,
      ⟨chars (urlsafeNoPad (List.replicate 16 2)), -70, 2000⟩] (text "id"),
    .returned 0 (.httpException 403 none), .resumed 0]

end Runs

end DoorsControl.App
