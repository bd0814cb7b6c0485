import DoorsControl.Data.Text

/-!
# The relay driver

`acs_relay.cpp`. `millis()` is a 32-bit counter that wraps; a pin is at a level,
and it is energised when the level is the active one.
-/

namespace DoorsControl.Firmware

/-- What `config.h` sets, as far as the command path reads it. -/
structure Config where
  controllerCode : Bytes
  firmwareVersion : Bytes
  signerPublicKey : Bytes
  pinRelay : Nat
  relayActiveHigh : Bool
  relayMaxMs : UInt32
  heartbeatTimeoutS : UInt32
  maxClockSkewS : Int

/-- The level of every output pin; `true` is HIGH. -/
abbrev Pins := Nat → Bool

def digitalWrite (pins : Pins) (pin : Nat) (level : Bool) : Pins :=
  fun p => if p = pin then level else pins p

structure Relay where
  energised : Bool
  offAtMs : UInt32

/-- A pin that drives its relay. -/
def Config.isOn (config : Config) (pins : Pins) (pin : Nat) : Bool :=
  pins pin == config.relayActiveHigh

/-- `Relay::begin` -/
def Relay.begin (config : Config) (pins : Pins) : Relay × Pins :=
  (⟨false, 0⟩, digitalWrite pins config.pinRelay (!config.relayActiveHigh))

/-- The clamped length of a pulse. -/
def pulseDuration (config : Config) (requestedMs : UInt32) : UInt32 :=
  if requestedMs > config.relayMaxMs then config.relayMaxMs else requestedMs

/-- `Relay::pulse` at `millis() = now` -/
def Relay.pulse (config : Config) (pins : Pins) (now requestedMs : UInt32) : Relay × Pins :=
  (⟨true, now + pulseDuration config requestedMs⟩,
    digitalWrite pins config.pinRelay config.relayActiveHigh)

/-- `Relay::forceOff` -/
def Relay.forceOff (config : Config) (relay : Relay) (pins : Pins) : Relay × Pins :=
  ({ relay with energised := false },
    digitalWrite pins config.pinRelay (!config.relayActiveHigh))

/-- `Relay::tick`: the subtraction wraps, and its sign is the answer. -/
def Relay.tick (config : Config) (relay : Relay) (pins : Pins) (now : UInt32) : Relay × Pins :=
  if !relay.energised then (relay, pins)
  else if (now - relay.offAtMs).toInt32 ≥ 0 then relay.forceOff config pins
  else (relay, pins)

end DoorsControl.Firmware
