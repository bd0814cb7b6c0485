import DoorsControl.Firmware.Relay
import Mathlib.Tactic.Common

/-!
# How long the door may be open

`config.example.h`: "Hard ceiling on how long the relay may be energised, whatever a command
asks for." A pulse is clamped on its own, and a pulse that arrives while the relay is energised
sets the deadline anew.

Time runs here in milliseconds since the boot, of which `millis()` shows the low 32 bits.
Commands arrive whenever they like, any number of them in a millisecond, before and after its
ticks, and no millisecond ends before `Relay::tick` ran in it.

* `ceilingInv_of_reach` — the deadline lies within the ceiling of the start;
* `ceiling_kept` — **no interval is longer**, as long as every pulse ends within the ceiling of
  the interval it falls into;
* `ceiling_exceeded` — two pulses of the full length, two seconds apart.
-/

namespace DoorsControl.Firmware

/-- The relay with its pin, the time, and whether it was looked at in this millisecond; with
the time at which the output was last switched on. -/
structure Timeline where
  relay : Relay
  pins : Pins
  now : Nat
  ticked : Bool
  since : Nat

/-- `millis()` -/
def Timeline.millis (s : Timeline) : UInt32 := UInt32.ofNat s.now

inductive RelayEvent where
  /-- `relay.pulse(command.durationMs)` of a command that is honoured -/
  | pulse (requestedMs : UInt32)
  /-- `relay.tick()` of the main loop -/
  | tick
  /-- the next millisecond -/
  | elapse

variable (config : Config)

/-- The output that drives the lock. -/
def Timeline.isOn (s : Timeline) : Bool := config.isOn s.pins config.pinRelay

namespace Timeline

/-- The output after a call of the driver. -/
def after (s : Timeline) (result : Relay × Pins) : Timeline :=
  { s with
    relay := result.1
    pins := result.2
    since := if s.isOn config then s.since else s.now }

def step (s : Timeline) : RelayEvent → Option Timeline
  | .pulse requestedMs => some (s.after config (Relay.pulse config s.pins s.millis requestedMs))
  | .tick => some { s.after config (s.relay.tick config s.pins s.millis) with ticked := true }
  | .elapse => if s.ticked then some { s with now := s.now + 1, ticked := false } else none

/-- At `Relay::begin`. -/
def boot (pins : Pins) : Timeline :=
  let (relay, pins) := Relay.begin config pins
  ⟨relay, pins, 0, false, 0⟩

/-- The states that events within `ok` lead to. -/
inductive Reach (ok : Timeline → RelayEvent → Prop) : Timeline → Prop
  | boot (pins : Pins) : Reach ok (boot config pins)
  | step {s s' : Timeline} (event : RelayEvent) :
      Reach ok s → ok s event → s.step config event = some s' → Reach ok s'

/-- A pulse that finds the output on ends within the ceiling of the interval. -/
def EndsInTime (s : Timeline) : RelayEvent → Prop
  | .pulse requestedMs => s.isOn config = true →
      s.now + (pulseDuration config requestedMs).toNat ≤ s.since + config.relayMaxMs.toNat
  | _ => True

/-! ## The deadline -/

/-- While the output is on, the deadline is ahead, or was missed by less than a tick, and lies
within the ceiling. -/
structure CeilingInv (s : Timeline) : Prop where
  output : s.isOn config = s.relay.energised
  deadline : s.relay.energised = true → ∃ offAt : Nat, s.relay.offAtMs = UInt32.ofNat offAt ∧
    offAt ≤ s.since + config.relayMaxMs.toNat ∧
    s.now ≤ offAt + 1 ∧ (s.ticked = true → s.now ≤ offAt)
  within : s.relay.energised = true → s.now ≤ s.since + config.relayMaxMs.toNat ∧
    (s.ticked = true → s.now < s.since + config.relayMaxMs.toNat)

variable {config}

theorem isOn_written (pins : Pins) :
    config.isOn (digitalWrite pins config.pinRelay config.relayActiveHigh) config.pinRelay = true ∧
      config.isOn (digitalWrite pins config.pinRelay (!config.relayActiveHigh)) config.pinRelay =
        false := by
  unfold Config.isOn digitalWrite
  cases config.relayActiveHigh <;> simp

/-- A clamped pulse is no longer than the ceiling. -/
theorem pulseDuration_le (config : Config) (requestedMs : UInt32) :
    (pulseDuration config requestedMs).toNat ≤ config.relayMaxMs.toNat := by
  unfold pulseDuration
  split_ifs with longer
  · exact Nat.le_refl _
  · exact UInt32.le_iff_toNat_le.mp (UInt32.not_lt.mp longer)

/-- A relay that a tick leaves on is looked at before its deadline. -/
theorem before_of_kept {now offAt : Nat} (near : now ≤ offAt + 1)
    (kept : ¬ (UInt32.ofNat now - UInt32.ofNat offAt).toInt32 ≥ 0) : now < offAt := by
  by_contra late
  apply kept
  rcases Nat.eq_or_lt_of_le (Nat.le_of_not_lt late) with same | later
  · rw [same, UInt32.sub_self]
    decide
  · have next : now = offAt + 1 := by omega
    rw [next, UInt32.ofNat_add, UInt32.add_comm, UInt32.add_sub_cancel]
    decide

theorem ceilingInv_boot (pins : Pins) : CeilingInv config (boot config pins) where
  output := (isOn_written pins).2
  deadline := nofun
  within := nofun

theorem since_after_off {s : Timeline} (off : s.isOn config = false) (result : Relay × Pins) :
    (s.after config result).since = s.now := by
  simp [after, off]

theorem since_after_on {s : Timeline} (on : s.isOn config = true) (result : Relay × Pins) :
    (s.after config result).since = s.since := by
  simp [after, on]

/-- A pulse starts an interval, or moves the deadline of the one it falls into. -/
theorem CeilingInv.pulse {s : Timeline} (inv : CeilingInv config s)
    (positive : 0 < config.relayMaxMs) {requestedMs : UInt32}
    (inTime : s.EndsInTime config (.pulse requestedMs)) :
    CeilingInv config (s.after config (Relay.pulse config s.pins s.millis requestedMs)) := by
  have duration := pulseDuration_le config requestedMs
  have room : 0 < config.relayMaxMs.toNat := UInt32.lt_iff_toNat_lt.mp positive
  have offAt : s.millis + pulseDuration config requestedMs =
      UInt32.ofNat (s.now + (pulseDuration config requestedMs).toNat) := by
    rw [UInt32.ofNat_add, UInt32.ofNat_toNat]
    rfl
  refine ⟨(isOn_written s.pins).1, fun _ => ⟨_, offAt, ?_⟩, fun _ => ?_⟩
  · show _ ∧ s.now ≤ _ ∧ (_ → s.now ≤ _)
    cases on : s.isOn config with
    | false =>
        rw [since_after_off on]
        omega
    | true =>
        have ends := inTime on
        rw [since_after_on on]
        omega
  · show s.now ≤ _ ∧ (s.ticked = true → s.now < _)
    cases on : s.isOn config with
    | false =>
        rw [since_after_off on]
        omega
    | true =>
        rw [since_after_on on]
        exact inv.within (inv.output.symm.trans on)

/-- A tick leaves everything as it is, or switches the output off. -/
theorem tick_cases (relay : Relay) (pins : Pins) (now : UInt32) :
    (relay.tick config pins now = (relay, pins) ∧
        (relay.energised = true → ¬ (now - relay.offAtMs).toInt32 ≥ 0)) ∨
      relay.tick config pins now = relay.forceOff config pins := by
  unfold Relay.tick
  cases energised : relay.energised with
  | false => exact .inl ⟨rfl, nofun⟩
  | true =>
      by_cases due : (now - relay.offAtMs).toInt32 ≥ 0
      · exact .inr (if_pos due)
      · exact .inl ⟨if_neg due, fun _ => due⟩

/-- A tick at the deadline switches the output off. -/
theorem CeilingInv.tick {s : Timeline} (inv : CeilingInv config s) :
    CeilingInv config
      { s.after config (s.relay.tick config s.pins s.millis) with ticked := true } := by
  rcases tick_cases s.relay s.pins s.millis with ⟨same, early⟩ | off
  · rw [same]
    -- what is still energised has its deadline ahead
    have ahead : s.relay.energised = true → ∃ offAt : Nat,
        s.relay.offAtMs = UInt32.ofNat offAt ∧ s.now < offAt ∧
          (s.after config (s.relay, s.pins)).since = s.since ∧
            offAt ≤ s.since + config.relayMaxMs.toNat := by
      intro energised
      obtain ⟨offAt, isOffAt, inside, near, -⟩ := inv.deadline energised
      have kept := early energised
      rw [isOffAt] at kept
      exact ⟨offAt, isOffAt, before_of_kept near kept,
        since_after_on (inv.output.trans energised) _, inside⟩
    refine ⟨inv.output, fun energised => ?_, fun energised => ?_⟩
    · obtain ⟨offAt, isOffAt, before, since, inside⟩ := ahead energised
      refine ⟨offAt, isOffAt, ?_⟩
      show offAt ≤ (s.after config (s.relay, s.pins)).since + _ ∧ s.now ≤ _ ∧ (_ → s.now ≤ _)
      omega
    · obtain ⟨offAt, -, before, since, inside⟩ := ahead energised
      show s.now ≤ (s.after config (s.relay, s.pins)).since + _ ∧
        (_ → s.now < (s.after config (s.relay, s.pins)).since + _)
      omega
  · rw [off]
    exact ⟨(isOn_written s.pins).2, nofun, nofun⟩

/-- A millisecond ends after its tick. -/
theorem CeilingInv.elapse {s : Timeline} (inv : CeilingInv config s) (ticked : s.ticked = true) :
    CeilingInv config { s with now := s.now + 1, ticked := false } where
  output := inv.output
  deadline := by
    intro energised
    obtain ⟨offAt, isOffAt, inside, -, ahead⟩ := inv.deadline energised
    have now := ahead ticked
    refine ⟨offAt, isOffAt, inside, ?_, nofun⟩
    show s.now + 1 ≤ offAt + 1
    omega
  within := by
    intro energised
    have early := (inv.within energised).2 ticked
    refine ⟨?_, nofun⟩
    show s.now + 1 ≤ s.since + config.relayMaxMs.toNat
    omega

theorem ceilingInv_of_reach (positive : 0 < config.relayMaxMs) {s : Timeline}
    (reach : Reach config (EndsInTime config) s) : CeilingInv config s := by
  induction reach with
  | boot pins => exact ceilingInv_boot pins
  | @step s s' event _ inTime stepped inv =>
      cases event with
      | pulse requestedMs =>
          obtain rfl := Option.some.inj stepped
          exact inv.pulse positive inTime
      | tick =>
          obtain rfl := Option.some.inj stepped
          exact inv.tick
      | elapse =>
          unfold step at stepped
          split_ifs at stepped with ticked
          obtain rfl := Option.some.inj stepped
          exact inv.elapse ticked

end Timeline

open Timeline

/-- **The ceiling.** In every run in which a pulse that finds the output on ends within the
ceiling of the interval it falls into, the output is never on for longer. -/
theorem ceiling_kept (config : Config) (positive : 0 < config.relayMaxMs) (s : Timeline)
    (reach : Reach config (EndsInTime config) s) (on : s.isOn config = true) :
    s.now - s.since ≤ config.relayMaxMs.toNat := by
  have inv := ceilingInv_of_reach positive reach
  have inside := (inv.within (inv.output.symm.trans on)).1
  omega

/-- The settings of `config.example.h`. -/
def exampleConfig : Config where
  controllerCode := ascii "ctrl-example-01"
  firmwareVersion := ascii "1.0.0"
  signerPublicKey := List.replicate 32 0
  pinRelay := 26
  relayActiveHigh := true
  relayMaxMs := 3000
  heartbeatTimeoutS := 60
  maxClockSkewS := 5

/-- A pulse of half a second, and one of a second in the millisecond after. -/
theorem ceiling_kept_sample : ∃ s, Reach exampleConfig (EndsInTime exampleConfig) s ∧
    s.now = 1 ∧ s.isOn exampleConfig = true ∧ s.now - s.since ≤ 3000 := by
  have booted : Reach exampleConfig (EndsInTime exampleConfig) _ := .boot fun _ => false
  have first := booted.step (.pulse 500) (fun on => absurd on (by decide)) rfl
  have looked := (first.step .tick trivial rfl).step .elapse trivial rfl
  have second := looked.step (.pulse 1000) (fun _ => by decide) rfl
  exact ⟨_, second, rfl, rfl, ceiling_kept exampleConfig (by decide) _ second rfl⟩

/-! ## Two pulses -/

/-- A signed number is nonnegative in the lower half of the range. -/
theorem nonneg_iff (difference : UInt32) :
    difference.toInt32 ≥ 0 ↔ difference.toNat < 2147483648 := by
  have signed : difference.toInt32 ≥ 0 ↔ 0 ≤ difference.toBitVec.toInt := Int32.le_iff_toInt_le
  have unsigned : difference.toBitVec.toNat = difference.toNat := rfl
  rw [signed, BitVec.toInt_eq_toNat_cond, unsigned]
  have bound := difference.toNat_lt
  split_ifs <;> omega

/-- Before the deadline the difference is negative, as a signed number. -/
theorem negative_of_early {now ahead : Nat} (positive : 0 < ahead) (small : ahead < 2147483648) :
    ¬ (UInt32.ofNat now - UInt32.ofNat (now + ahead)).toInt32 ≥ 0 := by
  rw [nonneg_iff, UInt32.toNat_sub, UInt32.toNat_ofNat', UInt32.toNat_ofNat']
  omega

theorem after_kept {config : Config} {s : Timeline} (on : s.isOn config = true) :
    s.after config (s.relay, s.pins) = s := by
  unfold after
  rw [on]
  rfl

/-- Until the deadline a relay stays on, if nothing arrives. -/
theorem wait_reaches {config : Config} {s : Timeline} (ahead : Nat)
    (reach : Reach config (fun _ _ => True) s) (on : s.isOn config = true)
    (unticked : s.ticked = false) (deadline : s.relay.offAtMs = UInt32.ofNat (s.now + ahead))
    (small : ahead < 2147483648) : ∀ k ≤ ahead,
      Reach config (fun _ _ => True) { s with now := s.now + k } := by
  intro k
  induction k with
  | zero => exact fun _ => reach
  | succ k ih =>
      intro inside
      have here := ih (by omega)
      have early : ¬ ((UInt32.ofNat (s.now + k)) - s.relay.offAtMs).toInt32 ≥ 0 := by
        have split : s.now + ahead = s.now + k + (ahead - k) := by omega
        rw [deadline, split]
        exact negative_of_early (by omega) (by omega)
      have kept : s.relay.tick config s.pins (UInt32.ofNat (s.now + k)) = (s.relay, s.pins) := by
        unfold Relay.tick
        split_ifs
        · rfl
        · rfl
      have ticked : Reach config (fun _ _ => True) { s with now := s.now + k, ticked := true } := by
        refine here.step .tick trivial ?_
        show some { after config { s with now := s.now + k }
          (s.relay.tick config s.pins (UInt32.ofNat (s.now + k))) with ticked := true } = _
        have same : after config { s with now := s.now + k } (s.relay, s.pins) =
            { s with now := s.now + k } := after_kept on
        rw [kept, same]
      refine ticked.step .elapse trivial ?_
      show some _ = some _
      rw [← unticked]
      rfl

/-- The relay on, three seconds before its deadline. -/
def opened (now : Nat) : Timeline :=
  ⟨⟨true, UInt32.ofNat (now + 3000)⟩,
    digitalWrite (digitalWrite (fun _ => false) 26 false) 26 true, now, false, 0⟩

theorem opened_isOn (now : Nat) : (opened now).isOn exampleConfig = true := rfl

theorem opened_reached : Reach exampleConfig (fun _ _ => True) (opened 0) :=
  (Reach.boot fun _ => false).step (.pulse 3000) trivial rfl

/-- Two seconds after the boot it is opened once more. -/
theorem reopened_reached : Reach exampleConfig (fun _ _ => True)
    { opened 2000 with pins := digitalWrite (opened 0).pins 26 true } := by
  have waited := wait_reaches 3000 opened_reached (opened_isOn 0) rfl rfl (by decide)
    2000 (by decide)
  exact waited.step (.pulse 3000) trivial rfl

/-- Four seconds after the first pulse the output is on, and was on all the time. -/
theorem ceiling_exceeded : ¬ ∀ s, Reach exampleConfig (fun _ _ => True) s →
    s.isOn exampleConfig = true → s.now - s.since ≤ exampleConfig.relayMaxMs.toNat := by
  intro claim
  have waited := wait_reaches 3000 reopened_reached rfl rfl rfl (by decide)
    2000 (by decide)
  have inside := claim _ waited rfl
  exact absurd inside (by decide)

end DoorsControl.Firmware
