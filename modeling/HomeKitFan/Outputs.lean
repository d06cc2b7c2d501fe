import HomeKitFan.Gpio

/-!
# Relays and LEDs

`relay.c` and `led.c`.  `Relay_write_speed` and `Led_write_speed` share one body after
their guards: they set the four speed outputs to their inactive level, then drive the one
output that the `switch` picks for the speed.  The relays are active-low, the LEDs
active-high, so the two differ in the levels and in the guard: the relay write returns
early when the fan already runs at that speed, the LED write when the LEDs are disabled.
-/

namespace HomeKitFan

/-- The `switch` of `Relay_write_speed` and `Led_write_speed`: the output of `speed` among
four, and none for `SPEED_OFF` or for a value outside the enumeration. -/
def speedGpio (gpio1 gpio2 gpio3 gpio4 : Nat) (speed : UInt32) : Option Nat :=
  if speed = speed1 then some gpio1
  else if speed = speed2 then some gpio2
  else if speed = speed3 then some gpio3
  else if speed = speed4 then some gpio4
  else none

/-- Set each output of `bank` to `clear`, then drive the output `gpioOf speed` to `drive`. -/
def writeSpeedBank (bank : List Nat) (gpioOf : UInt32 → Option Nat) (clear drive : Bool)
    (speed : UInt32) (g : Globals) : Globals :=
  let g := writeEach bank clear g
  match gpioOf speed with
  | none => g
  | some gpio => gpioSetLevel gpio drive g

section Bank

variable (bank : List Nat) (gpioOf : UInt32 → Option Nat) (clear drive : Bool)
  (speed : UInt32) (g : Globals)

@[simp]
theorem writeSpeedBank_fanState :
  (writeSpeedBank bank gpioOf clear drive speed g).fanState = g.fanState
  := by
  unfold writeSpeedBank; split <;> simp

@[simp]
theorem writeSpeedBank_ledEnable :
  (writeSpeedBank bank gpioOf clear drive speed g).ledEnable = g.ledEnable
  := by
  unfold writeSpeedBank; split <;> simp

@[simp]
theorem writeSpeedBank_chars :
  (writeSpeedBank bank gpioOf clear drive speed g).chars = g.chars
  := by
  unfold writeSpeedBank; split <;> simp

theorem writeSpeedBank_setChars (chars : HapChars) :
  writeSpeedBank bank gpioOf clear drive speed { g with chars := chars }
    = { writeSpeedBank bank gpioOf clear drive speed g with chars := chars }
  := by
  unfold writeSpeedBank; rw [writeEach_setChars]; split <;> rfl

theorem writeSpeedBank_pinLevel (pin : Nat) :
  pinLevel (writeSpeedBank bank gpioOf clear drive speed g).gpio pin
    = if gpioOf speed = some pin then drive
      else if pin ∈ bank then clear else pinLevel g.gpio pin
  := by
  unfold writeSpeedBank
  split <;> simp_all

theorem writeSpeedBank_writesWithin (hin : ∀ p, gpioOf speed = some p → p ∈ bank) :
  WritesWithin bank g (writeSpeedBank bank gpioOf clear drive speed g)
  := by
  unfold writeSpeedBank
  split
  · exact writeEach_writesWithin ..
  · rename_i gpio h
    exact (writeEach_writesWithin ..).trans
      ((gpioSetLevel_writesWithin ..).mono (by simpa using hin gpio h))

/-- At every write of the bank, at most one of its outputs is at the driven level. -/
theorem writeSpeedBank_always {start : List GpioWrite} (hcd : clear ≠ drive)
    (h : Always (AtMostOneAt bank drive) start g.gpio) (hs : start <+: g.gpio) :
  Always (AtMostOneAt bank drive) start (writeSpeedBank bank gpioOf clear drive speed g).gpio
  := by
  obtain ⟨hclear, -⟩ := h.append hs (bank.map fun p => ⟨p, clear⟩) fun w hw => by
    obtain ⟨p, -, rfl⟩ := List.mem_map.mp hw
    exact keeps_atMostOneAt (.inl hcd)
  unfold writeSpeedBank
  rw [writeEach_eq]
  split
  · exact hclear
  · rename_i gpio _
    refine hclear.snoc _ fun p hp q hq hlp hlq => ?_
    simp only [pinLevel_append_write, pinLevel_append_map, hp, hq, if_true] at hlp hlq
    split_ifs at hlp hlq <;> simp_all

end Bank

/-! ### Relays -/

/-- `NUM_SPEED_RELAY`. -/
def numSpeedRelay : Nat := 4

/-- `NUM_TOTAL_RELAY`. -/
def numTotalRelay : Nat := 5

/-- `relays`, the GPIO numbers of the four speed relays and the oscillation relay. -/
def relays : List Nat :=
  [fanSpeed1RelayGpio, fanSpeed2RelayGpio, fanSpeed3RelayGpio, fanSpeed4RelayGpio,
    fanOscRelayGpio]

/-- The speed relays, the first `NUM_SPEED_RELAY` entries of `relays`. -/
def speedRelays : List Nat := relays.take numSpeedRelay

/-- The relay the `switch` of `Relay_write_speed` picks. -/
def relayGpio : UInt32 → Option Nat :=
  speedGpio fanSpeed1RelayGpio fanSpeed2RelayGpio fanSpeed3RelayGpio fanSpeed4RelayGpio

theorem relayGpio_mem {speed : UInt32} {p : Nat} (h : relayGpio speed = some p) :
  p ∈ speedRelays
  := by
  unfold relayGpio speedGpio at h
  split_ifs at h <;> cases h <;> decide

/-- `Relay_write_speed`: nothing when the fan already runs at `speed`, else release the
speed relays and energize the one for `speed`. -/
def relayWriteSpeed (speed : UInt32) (g : Globals) : Globals :=
  if g.fanState.speed = speed ∧ true = g.fanState.isOn then g
  else writeSpeedBank speedRelays relayGpio gpioHigh gpioLow speed g

/-- `Relay_write_oscillate`. -/
def relayWriteOscillate (oscillate : Bool) (g : Globals) : Globals :=
  gpioSetLevel fanOscRelayGpio (if oscillate then gpioLow else gpioHigh) g

section Frame

variable (g : Globals)

@[simp]
theorem relayWriteSpeed_fanState (speed : UInt32) :
  (relayWriteSpeed speed g).fanState = g.fanState
  := by
  unfold relayWriteSpeed; split_ifs <;> simp

@[simp]
theorem relayWriteSpeed_ledEnable (speed : UInt32) :
  (relayWriteSpeed speed g).ledEnable = g.ledEnable
  := by
  unfold relayWriteSpeed; split_ifs <;> simp

@[simp]
theorem relayWriteSpeed_chars (speed : UInt32) :
  (relayWriteSpeed speed g).chars = g.chars
  := by
  unfold relayWriteSpeed; split_ifs <;> simp

@[simp]
theorem relayWriteOscillate_fanState (oscillate : Bool) :
  (relayWriteOscillate oscillate g).fanState = g.fanState
  := rfl

@[simp]
theorem relayWriteOscillate_ledEnable (oscillate : Bool) :
  (relayWriteOscillate oscillate g).ledEnable = g.ledEnable
  := rfl

@[simp]
theorem relayWriteOscillate_chars (oscillate : Bool) :
  (relayWriteOscillate oscillate g).chars = g.chars
  := rfl

theorem relayWriteSpeed_setChars (speed : UInt32) (chars : HapChars) :
  relayWriteSpeed speed { g with chars := chars } = { relayWriteSpeed speed g with chars := chars }
  := by
  unfold relayWriteSpeed; split_ifs <;> simp [writeSpeedBank_setChars]

theorem relayWriteOscillate_setChars (oscillate : Bool) (chars : HapChars) :
  relayWriteOscillate oscillate { g with chars := chars }
    = { relayWriteOscillate oscillate g with chars := chars }
  := rfl

theorem relayWriteSpeed_writesWithin (speed : UInt32) :
  WritesWithin speedRelays g (relayWriteSpeed speed g)
  := by
  unfold relayWriteSpeed
  split_ifs
  · exact .refl _ rfl
  · exact writeSpeedBank_writesWithin _ _ _ _ _ _ fun _ => relayGpio_mem

theorem relayWriteOscillate_writesWithin (oscillate : Bool) :
  WritesWithin [fanOscRelayGpio] g (relayWriteOscillate oscillate g)
  := gpioSetLevel_writesWithin ..

@[simp]
theorem relayWriteOscillate_pinLevel_osc (oscillate : Bool) :
  pinLevel (relayWriteOscillate oscillate g).gpio fanOscRelayGpio = !oscillate
  := by
  cases oscillate <;> simp [relayWriteOscillate]

end Frame

/-- `Relay_init`: every relay released. -/
def relayInit (g : Globals) : Globals :=
  writeEach (relays.take numTotalRelay) gpioHigh g

theorem relayInit_setChars (g : Globals) (chars : HapChars) :
  relayInit { g with chars := chars } = { relayInit g with chars := chars }
  := writeEach_setChars ..

/-! ### LEDs -/

/-- `NUM_SPEED_LED`. -/
def numSpeedLed : Nat := 4

/-- `NUM_TOTAL_LED`. -/
def numTotalLed : Nat := 5

/-- `leds`, the GPIO numbers of the four speed LEDs and the built-in LED. -/
def leds : List Nat :=
  [fanSpeed1LedGpio, fanSpeed2LedGpio, fanSpeed3LedGpio, fanSpeed4LedGpio,
    fanBuiltinLedGpio]

/-- The speed LEDs, the first `NUM_SPEED_LED` entries of `leds`. -/
def speedLeds : List Nat := leds.take numSpeedLed

/-- The LED the `switch` of `Led_write_speed` picks. -/
def ledGpio : UInt32 → Option Nat :=
  speedGpio fanSpeed1LedGpio fanSpeed2LedGpio fanSpeed3LedGpio fanSpeed4LedGpio

theorem ledGpio_mem {speed : UInt32} {p : Nat} (h : ledGpio speed = some p) :
  p ∈ speedLeds
  := by
  unfold ledGpio speedGpio at h
  split_ifs at h <;> cases h <;> decide

/-- `Led_write_enable`: record the flag, and turn the speed LEDs off when disabling. -/
def ledWriteEnable (enable : Bool) (g : Globals) : Globals :=
  let g := { g with ledEnable := enable }
  if !g.ledEnable then writeEach speedLeds gpioLow g else g

/-- `Led_write_speed`: nothing while disabled, else turn the speed LEDs off and light the
one for `speed`. -/
def ledWriteSpeed (speed : UInt32) (g : Globals) : Globals :=
  if !g.ledEnable then g
  else writeSpeedBank speedLeds ledGpio gpioLow gpioHigh speed g

/-- `Led_write_builtin`. -/
def ledWriteBuiltin (state : Bool) (g : Globals) : Globals :=
  gpioSetLevel fanBuiltinLedGpio (if state then gpioHigh else gpioLow) g

section Frame

variable (g : Globals)

@[simp]
theorem ledWriteEnable_fanState (enable : Bool) :
  (ledWriteEnable enable g).fanState = g.fanState
  := by
  unfold ledWriteEnable; cases enable <;> simp

@[simp]
theorem ledWriteEnable_ledEnable (enable : Bool) :
  (ledWriteEnable enable g).ledEnable = enable
  := by
  unfold ledWriteEnable; cases enable <;> simp

@[simp]
theorem ledWriteEnable_chars (enable : Bool) :
  (ledWriteEnable enable g).chars = g.chars
  := by
  unfold ledWriteEnable; cases enable <;> simp

@[simp]
theorem ledWriteSpeed_fanState (speed : UInt32) :
  (ledWriteSpeed speed g).fanState = g.fanState
  := by
  unfold ledWriteSpeed; split_ifs <;> simp

@[simp]
theorem ledWriteSpeed_ledEnable (speed : UInt32) :
  (ledWriteSpeed speed g).ledEnable = g.ledEnable
  := by
  unfold ledWriteSpeed; split_ifs <;> simp

@[simp]
theorem ledWriteSpeed_chars (speed : UInt32) :
  (ledWriteSpeed speed g).chars = g.chars
  := by
  unfold ledWriteSpeed; split_ifs <;> simp

@[simp]
theorem ledWriteBuiltin_fanState (state : Bool) :
  (ledWriteBuiltin state g).fanState = g.fanState
  := rfl

@[simp]
theorem ledWriteBuiltin_ledEnable (state : Bool) :
  (ledWriteBuiltin state g).ledEnable = g.ledEnable
  := rfl

@[simp]
theorem ledWriteBuiltin_chars (state : Bool) :
  (ledWriteBuiltin state g).chars = g.chars
  := rfl

theorem ledWriteEnable_setChars (enable : Bool) (chars : HapChars) :
  ledWriteEnable enable { g with chars := chars } = { ledWriteEnable enable g with chars := chars }
  := by
  unfold ledWriteEnable; cases enable <;> simp [writeEach_eq]

theorem ledWriteSpeed_setChars (speed : UInt32) (chars : HapChars) :
  ledWriteSpeed speed { g with chars := chars } = { ledWriteSpeed speed g with chars := chars }
  := by
  unfold ledWriteSpeed; split_ifs <;> simp [writeSpeedBank_setChars]

theorem ledWriteBuiltin_setChars (state : Bool) (chars : HapChars) :
  ledWriteBuiltin state { g with chars := chars } = { ledWriteBuiltin state g with chars := chars }
  := rfl

theorem ledWriteEnable_writesWithin (enable : Bool) :
  WritesWithin speedLeds g (ledWriteEnable enable g)
  := by
  unfold ledWriteEnable
  cases enable
  · exact writeEach_writesWithin ..
  · exact .refl _ rfl

theorem ledWriteSpeed_writesWithin (speed : UInt32) :
  WritesWithin speedLeds g (ledWriteSpeed speed g)
  := by
  unfold ledWriteSpeed
  split_ifs
  · exact .refl _ rfl
  · exact writeSpeedBank_writesWithin _ _ _ _ _ _ fun _ => ledGpio_mem

theorem ledWriteBuiltin_writesWithin (state : Bool) :
  WritesWithin [fanBuiltinLedGpio] g (ledWriteBuiltin state g)
  := gpioSetLevel_writesWithin ..

end Frame

/-- `Led_init`: every LED off, and the speed LEDs enabled. -/
def ledInit (g : Globals) : Globals :=
  { writeEach (leds.take numTotalLed) gpioLow g with ledEnable := true }

theorem ledInit_setChars (g : Globals) (chars : HapChars) :
  ledInit { g with chars := chars } = { ledInit g with chars := chars }
  := by
  rw [ledInit, writeEach_setChars]; rfl

end HomeKitFan
