import DoorsControl.Api.Responses
import DoorsControl.Backend.DoorList

/-!
# An unlock without a grant is no oracle

`app/core/errors.py`: "Every denial of an unlock produces a coarse machine readable reason from
a fixed set." A user who has no live grant for a door inside its window gets one answer,
whatever the doors, the controllers, the beacon keys, the sessions and the counters are, and
whatever identifier is presented.

* `unlock_denied` — the answer to such an unlock;
* `unlock_indistinguishable` — **two systems, two identifiers, one answer**.
-/

namespace DoorsControl.Api

open DoorsControl.Backend
open Kit.Prog

variable {ρ : Type}

/-- No live grant of the user for the door is inside its window. -/
def NoGrant (world : Snapshot ρ) (userId doorId : Uuid) : Prop :=
  ∀ row ∈ world.db.permissions.rows, row.isFor userId doorId world.now = true →
    ∀ localTime, world.zones row.timeZone world.now = some localTime →
      row.isWithin localTime = false

/-- PostgreSQL knows the time zones of the live grants, so that the query succeeds. -/
def ZonesKnown (world : Snapshot ρ) (userId doorId : Uuid) : Prop :=
  ∀ row ∈ world.db.permissions.rows, row.isFor userId doorId world.now = true →
    (world.zones row.timeZone world.now).isSome = true

/-- What `unlock_door` answers in such a system. -/
def unlockAnswer (settings : UnlockSettings) (world : Snapshot ρ) (args : UnlockArgs) : Response :=
  unlockResponse args.doorId
    (runWith (fun _ => world.answer) [] (unlock settings args).run).2

/-- The run ended in an `UnlockDenied` that is told as `denied`. -/
def IsDenied {α : Type} (run : List UnlockEvent × Except PyError α) : Prop :=
  ∃ internalReason, run.2 = .error (.unlockDenied .denied internalReason)

section Run

variable {world : Snapshot ρ} {args : UnlockArgs}

/-- `effective` finds nothing, or a grant outside its window. -/
theorem effective_of_noGrant (noGrant : NoGrant world args.userId args.doorId)
    (known : ZonesKnown world args.userId args.doorId) : ∃ permission,
    world.db.permissions.effective world.zones world.now args.userId args.doorId =
      .ok permission ∧ ∀ record ∈ permission, record.withinWindow = false := by
  unfold PermissionTable.effective
  cases found : world.db.permissions.rows.find?
      (PermissionRow.isFor args.userId args.doorId world.now) with
  | none => exact ⟨none, rfl, nofun⟩
  | some row =>
      have mem := List.mem_of_find?_eq_some found
      have isRow := List.find?_some found
      obtain ⟨localTime, isLocal⟩ := Option.isSome_iff_exists.mp (known row mem isRow)
      refine ⟨some (row.record localTime), by simp only [isLocal], ?_⟩
      intro record isRecord
      obtain rfl := Option.some.inj isRecord
      exact noGrant row mem isRow localTime isLocal

/-- The first two checks refuse, and both are told alike. -/
theorem checkDoor_denied (noGrant : NoGrant world args.userId args.doorId)
    (known : ZonesKnown world args.userId args.doorId) (hist : List UnlockEvent) :
    IsDenied (runWith (fun _ => world.answer) hist (checkDoor args).run) := by
  obtain ⟨permission, answered, outside⟩ := effective_of_noGrant noGrant known
  refine run_attempt (Q := IsDenied) rfl ?_
  cases available : doorUnavailable (world.db.doorById args.doorId) with
  | true => exact run_taken (Q := IsDenied) rfl rfl ⟨_, rfl⟩
  | false =>
      refine run_skip (Q := IsDenied) rfl (run_attempt answered ?_)
      cases permission with
      | none => exact run_taken (Q := IsDenied) rfl rfl ⟨_, rfl⟩
      | some record =>
          refine run_skip (Q := IsDenied) rfl (run_seq rfl (run_taken ?_ rfl ⟨_, rfl⟩))
          rw [outside record rfl]
          rfl

/-- What is answered to an unlock without a grant. -/
theorem unlock_denied (settings : UnlockSettings)
    (noGrant : NoGrant world args.userId args.doorId)
    (known : ZonesKnown world args.userId args.doorId) :
    unlockAnswer settings world args = httpError (.unlockDenied .denied []) := by
  have denied : IsDenied (runWith (fun _ => world.answer) [] (unlock settings args).run) := by
    refine run_attempt (Q := IsDenied) rfl ?_
    obtain ⟨internalReason, raised⟩ := checkDoor_denied noGrant known _
    exact run_raise (Q := IsDenied) (Prod.ext rfl raised) ⟨internalReason, rfl⟩
  obtain ⟨internalReason, raised⟩ := denied
  unfold unlockAnswer
  rw [raised]
  rfl

end Run

/-- **No oracle.** In any two systems in which the user has no live grant for the door inside
its window, with any two identifiers, an unlock gets the same answer. -/
theorem unlock_indistinguishable (settings settings' : UnlockSettings) {ρ ρ' : Type}
    (world : Snapshot ρ) (world' : Snapshot ρ') (args : UnlockArgs) (beaconId : Text)
    (noGrant : NoGrant world args.userId args.doorId)
    (noGrant' : NoGrant world' args.userId args.doorId)
    (known : ZonesKnown world args.userId args.doorId)
    (known' : ZonesKnown world' args.userId args.doorId) :
    unlockAnswer settings world args =
      unlockAnswer settings' world' { args with proximityBeaconId := beaconId } := by
  have other : unlockAnswer settings' world' { args with proximityBeaconId := beaconId } =
      httpError (.unlockDenied .denied []) := unlock_denied settings' noGrant' known'
  rw [unlock_denied settings noGrant known, other]

/-! ## A grant out of hours, and no door at all -/

theorem noDoors_known : ∀ row ∈ PermissionTable.empty.rows,
    ((⟨[], List.nodup_nil⟩ : Kit.Table DoorRow DoorRow.id).get? row.doorId).isSome = true := nofun

/-- A system without doors. -/
def bareSnapshot : Snapshot Unit := { labSnapshot mondayNoon with
  db := ⟨⟨[], List.nodup_nil⟩, ⟨[], List.nodup_nil⟩, PermissionTable.empty, nofun, noDoors_known⟩ }

theorem sunday_noGrant : NoGrant (labSnapshot sundayNoon) 1 3 := by
  intro row mem _ localTime isLocal
  obtain rfl := List.mem_singleton.mp mem
  obtain rfl := Option.some.inj isLocal
  decide

theorem unlock_indistinguishable_sample :
    doorUnavailable ((labSnapshot sundayNoon).db.doorById 3) = false ∧
      unlockAnswer sampleSettings (labSnapshot sundayNoon) sampleArgs =
        unlockAnswer sampleSettings bareSnapshot { sampleArgs with proximityBeaconId := [] } :=
  ⟨rfl, unlock_indistinguishable sampleSettings sampleSettings _ _ sampleArgs [] sunday_noGrant
    nofun (fun _ _ _ => rfl) nofun⟩

end DoorsControl.Api
