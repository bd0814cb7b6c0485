import DoorsControl.Firmware.Ceiling

/-!
# When a pulse ends

`acs_relay.cpp`: "Unsigned subtraction, so this stays correct across the millis() wrap." Here
the counter may stand anywhere when the pulse is called, and the ticks come when they come.

* `due_iff` — the sign of the wrapped difference says whether the pulse is over;
* `pulse_ends` — **the first tick that finds the pulse over ends it**, and no earlier one.
-/

namespace DoorsControl.Firmware

open Timeline (isOn_written pulseDuration_le)

/-- A call of `tick` for each of these times, in milliseconds since `start`. -/
def ticks (config : Config) (start : UInt32) (elapsed : List Nat) (state : Relay × Pins) :
    Relay × Pins :=
  elapsed.foldl (fun (relay, pins) e => relay.tick config pins (start + UInt32.ofNat e)) state

/-- The counter and the deadline are the same distance apart wherever the pulse began. -/
theorem sub_start (start duration elapsed : UInt32) :
    (start + elapsed) - (start + duration) = elapsed - duration := by
  refine UInt32.toNat_inj.mp ?_
  rw [UInt32.toNat_sub, UInt32.toNat_sub, UInt32.toNat_add, UInt32.toNat_add]
  have bounds := And.intro duration.toNat_lt elapsed.toNat_lt
  omega

/-- The sign of the difference, up to half the range of the counter. -/
theorem due_iff (start : UInt32) {duration : UInt32} {e : Nat} (short : duration.toNat ≤ 2147483648)
    (below : e < 2147483648) :
    ((start + UInt32.ofNat e) - (start + duration)).toInt32 ≥ 0 ↔ duration.toNat ≤ e := by
  rw [sub_start, nonneg_iff, UInt32.toNat_sub, UInt32.toNat_ofNat']
  omega

section Pulse

variable {config : Config} {start requestedMs : UInt32}

theorem pulseDuration_toNat (config : Config) (requestedMs : UInt32) :
    (pulseDuration config requestedMs).toNat = min requestedMs.toNat config.relayMaxMs.toNat := by
  unfold pulseDuration
  split_ifs with longer
  · exact (Nat.min_eq_right (UInt32.lt_iff_toNat_lt.mp longer).le).symm
  · exact (Nat.min_eq_left (UInt32.le_iff_toNat_le.mp (UInt32.not_lt.mp longer))).symm

/-- A relay during a pulse: its output is as it says, and its deadline is that of the pulse. -/
structure Pulsing (config : Config) (start requestedMs : UInt32) (state : Relay × Pins) :
    Prop where
  output : config.isOn state.2 config.pinRelay = state.1.energised
  deadline : state.1.offAtMs = start + pulseDuration config requestedMs

theorem pulsing_pulse (config : Config) (start requestedMs : UInt32) (pins : Pins) :
    Pulsing config start requestedMs (Relay.pulse config pins start requestedMs) :=
  ⟨(isOn_written pins).1, rfl⟩

/-- One tick: what is on stays on exactly if the pulse is not over. -/
theorem Pulsing.tick {state : Relay × Pins} (pulsing : Pulsing config start requestedMs state)
    (ceiling : config.relayMaxMs.toNat ≤ 2147483648) {e : Nat} (below : e < 2147483648) :
    Pulsing config start requestedMs (state.1.tick config state.2 (start + UInt32.ofNat e)) ∧
      ((state.1.tick config state.2 (start + UInt32.ofNat e)).1.energised = true ↔
        state.1.energised = true ∧ e < min requestedMs.toNat config.relayMaxMs.toNat) := by
  have due := due_iff start ((pulseDuration_le config requestedMs).trans ceiling) below
  rw [← pulsing.deadline, pulseDuration_toNat] at due
  unfold Relay.tick
  cases energised : state.1.energised with
  | false =>
      simp only [Bool.not_false, if_true, energised]
      exact ⟨pulsing, by simp⟩
  | true =>
      simp only [Bool.not_true, Bool.false_eq_true, if_false]
      split_ifs with ended
      · have late := due.mp ended
        exact ⟨⟨(isOn_written state.2).2, pulsing.deadline⟩, nofun, fun both => by omega⟩
      · have early := Nat.not_le.mp (mt due.mpr ended)
        exact ⟨pulsing, fun _ => ⟨trivial, early⟩, fun _ => energised⟩

/-- Any number of them. -/
theorem Pulsing.ticks (ceiling : config.relayMaxMs.toNat ≤ 2147483648) {elapsed : List Nat}
    (below : ∀ e ∈ elapsed, e < 2147483648) {state : Relay × Pins}
    (pulsing : Pulsing config start requestedMs state) :
    Pulsing config start requestedMs (ticks config start elapsed state) ∧
      ((ticks config start elapsed state).1.energised = true ↔ state.1.energised = true ∧
        ∀ e ∈ elapsed, e < min requestedMs.toNat config.relayMaxMs.toNat) := by
  induction elapsed generalizing state with
  | nil => exact ⟨pulsing, by simp [Firmware.ticks]⟩
  | cons e rest ih =>
      obtain ⟨pulsing', one⟩ := pulsing.tick ceiling (below e List.mem_cons_self)
      obtain ⟨pulsing'', more⟩ := ih (fun e mem => below e (List.mem_cons_of_mem _ mem)) pulsing'
      refine ⟨pulsing'', more.trans ?_⟩
      rw [one, List.forall_mem_cons, and_assoc]

end Pulse

/-- **A pulse ends on time.** Wherever the counter stands: the output is on after the pulse, and
after each tick it is on if and only if that tick came before the end of the pulse. So the first
that does not switches it off, and no earlier one. -/
theorem pulse_ends (config : Config) (ceiling : config.relayMaxMs.toNat ≤ 2147483648) (pins : Pins)
    (start requestedMs : UInt32) (elapsed : List Nat) (increasing : elapsed.Pairwise (· ≤ ·))
    (below : ∀ e ∈ elapsed, e < 2147483648) :
    config.isOn (Relay.pulse config pins start requestedMs).2 config.pinRelay = true ∧
      ∀ (k : Nat) (inside : k < elapsed.length),
        config.isOn (ticks config start (elapsed.take (k + 1))
            (Relay.pulse config pins start requestedMs)).2 config.pinRelay = true ↔
          elapsed[k] < min requestedMs.toNat config.relayMaxMs.toNat := by
  refine ⟨(isOn_written pins).1, ?_⟩
  intro k inside
  obtain ⟨pulsing, on⟩ := (pulsing_pulse config start requestedMs pins).ticks ceiling
    fun e mem => below e (List.mem_of_mem_take (i := k + 1) mem)
  have energised : (Relay.pulse config pins start requestedMs).1.energised = true := rfl
  rw [pulsing.output, on, and_iff_right energised]
  constructor
  · intro early
    exact early _ (List.mem_take_iff_getElem.mpr ⟨k, by omega, rfl⟩)
  · intro early e mem
    obtain ⟨i, here, rfl⟩ := List.mem_take_iff_getElem.mp mem
    rcases Nat.lt_or_eq_of_le (show i ≤ k by omega) with before | rfl
    · exact (List.pairwise_iff_getElem.mp increasing i k _ inside before).trans_lt early
    · exact early

/-- A pulse of a second and a half, one second before the counter wraps. -/
theorem pulse_ends_sample :
    (exampleConfig.isOn (ticks exampleConfig 4294966296 [500, 1499]
        (Relay.pulse exampleConfig (fun _ => false) 4294966296 1500)).2 26 = true ↔ 1499 < 1500) ∧
      (exampleConfig.isOn (ticks exampleConfig 4294966296 [500, 1499, 1600]
        (Relay.pulse exampleConfig (fun _ => false) 4294966296 1500)).2 26 = true ↔
          1600 < 1500) := by
  obtain ⟨-, after⟩ := pulse_ends exampleConfig (by decide) (fun _ => false) 4294966296 1500
    [500, 1499, 1600] (by decide) (by decide)
  exact ⟨after 1 (by decide), after 2 (by decide)⟩

end DoorsControl.Firmware
