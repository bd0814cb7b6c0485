import DoorsControl.System.Authenticity

/-!
# How long a signature is of use

`README.md`: whoever owns the API "gets nothing that outlives that access". The signer
bounds the life of a command, `expires_at - issued_at`, and the board compares both
ends with its clock. Neither compares `issued_at` with the time of signing, so the
access is outlived by a command that is dated ahead.

* `opens_in_time` — **what is needed for the sentence to hold**: no command that the
  signer accepts in a period expires later than a full life after its end;
* `opens_late` — a run without it.
-/

namespace DoorsControl.System

open Firmware (Clock SocketEvent UnlockCommand)
open Signer (Dict)

variable {ι : Type}

/-- Whatever a board is shown next: it opens no later than `MAX_COMMAND_TTL_SECONDS` and
its clock skew after `finish`, if the bytes it verified were signed from `start` to
`finish`. -/
def OpensInTime (installation : Installation ι) (world : World ι) (start finish : Int) : Prop :=
  ∀ board clock event, Unforged installation world (.event board clock event) →
    ∀ command relayMs, .pulse command relayMs ∈ effects installation world board clock event →
      ∀ record ∈ world.issued,
        record.message = Firmware.commandDomain ++ Firmware.canonicalBody command →
        start ≤ record.time → record.time ≤ finish →
        clock.unix ≤ finish + Signer.maxCommandTtlSeconds + (installation.config board).maxClockSkewS

/-- A request from `start` to `finish` for a command that a board can read expires no
later than a full life after `finish`, or is refused. -/
def ExpiresInTime (start finish : Int) : Input ι → Prop
  | .request now request => start ≤ now → now ≤ finish →
      ∀ payload, Json.get? request (text "payload") = some (.obj payload) →
        Signer.validateCommand payload = .ok () →
        ∀ command, Carries payload command →
          command.expiresAt.toInt ≤ finish + Signer.maxCommandTtlSeconds
  | _ => True

/-- **Signatures that do not outlive the access.** In every run whose requests all meet
the condition, every state reached opens in time. -/
theorem opens_in_time [DecidableEq ι] (installation : Installation ι) (start finish : Int)
    (world : World ι) (reachable : Reachable installation (ExpiresInTime start finish) world) :
    OpensInTime installation world start finish := by
  -- the condition on requests, read off the record
  have expires : ∀ record ∈ world.issued, start ≤ record.time → record.time ≤ finish →
      ∀ command, Carries record.payload command →
        command.expiresAt.toInt ≤ finish + Signer.maxCommandTtlSeconds := by
    refine reachable.issued_all fun now request record inTime time signed => ?_
    obtain ⟨sent, valid, -⟩ := Signer.signed_of_handle signed
    intro after before
    rw [time] at after before
    exact inTime after before record.payload sent valid
  intro board clock event unforged command relayMs pulsed record mem message after before
  have carries : Carries record.payload command :=
    carries_of_canonicalBytes (reachable.signed record mem).2 message
  have soon := expires record mem after before command carries
  obtain ⟨-, -, -, notExpired⟩ := issued_of_pulse reachable unforged pulsed
  omega

/-- A request dated when it is made. -/
theorem expiresInTime_now : @ExpiresInTime Unit 1750000000 1750000000
    (.request 1750000000 (sampleRequest (samplePayload 1750000000 1))) := by
  intro _ _ payload sent valid command carries
  obtain rfl : payload = samplePayload 1750000000 1 := (Json.obj.inj (Option.some.inj sent)).symm
  have expires : (1750000030 : Int) = command.expiresAt.toInt :=
    @Carries.pyInt _ _ carries "expires_at" _ _ (by decide) (by simp [commandFields]) rfl
  rw [← expires]
  decide

theorem opens_in_time_sample :
    OpensInTime (sampleInstallation (samplePayload 1750000000 1))
      (sampleWorld (samplePayload 1750000000 1) 1750000000) 1750000000 1750000000 :=
  opens_in_time _ _ _ _ (sampleWorld_reachable _ _ expiresInTime_now)

/-- **A command for later.** It is signed at 1750000000, dated 10000000 seconds ahead,
and opens the door then. -/
theorem opens_late :
    Reachable (sampleInstallation (samplePayload 1760000000 1)) anyInput
      (sampleWorld (samplePayload 1760000000 1) 1750000000) ∧
    ¬ OpensInTime (sampleInstallation (samplePayload 1760000000 1))
      (sampleWorld (samplePayload 1760000000 1) 1750000000) 1750000000 1750000000 := by
  have canonical : Signer.canonicalBytes (samplePayload 1760000000 1) = _ :=
    sampleMessage_eq (by decide +kernel)
  refine ⟨sampleWorld_reachable _ _ trivial, fun inTime => ?_⟩
  have recorded : (sampleWorld (samplePayload 1760000000 1) 1750000000).issued = _ :=
    sampleWorld_issued rfl canonical
  have late := inTime () ⟨1760000000, 0⟩ (.text (sampleText (samplePayload 1760000000 1)))
    (sample_unforged rfl canonical) (sampleCommand 1760000000 1) _
    (sample_pulsed (by decide +kernel) (by decide +kernel)) ⟨⟨_, _⟩, 1750000000⟩
    (by rw [recorded]; exact List.mem_singleton.mpr rfl) (by decide +kernel) (by decide) (by decide)
  exact absurd late (by decide)

end DoorsControl.System
