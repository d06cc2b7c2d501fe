import Mathlib.Data.List.Basic

/-!
# Events, fan state and globals

The data of `main.h`: the sources and identifiers of control events, the event record
that travels through `g_Fan_event_queue`, the speed levels of `enum State_speed`, the fan
state `g_Fan_state` and the GPIO numbers of the relays and LEDs.  A speed is the 32-bit
value of the enumeration, not a five-element type, because `handle_homekit` stores a
`uint32_t` argument into it and `handle_button` computes the next speed in unsigned
arithmetic.

`Globals` gathers the state the event handlers share: `g_Fan_state`, `g_Led_enable`, the
writes made to the GPIO output pins, and the values the HAP core holds for the three fan
characteristics.  The output pins are observed through the list of every `gpio_set_level`
call in order, so that a property can speak of the pins after each single write.
-/

namespace HomeKitFan

/-- The sources of incoming events (`enum Event_source`). -/
inductive EventSource where
  | homekit
  | remote
  | button
  deriving DecidableEq, Repr

/-- The identifiers of incoming events (`enum Event_id`). -/
inductive EventId where
  | power
  | oscillate
  | time
  | speed
  | temperature
  deriving DecidableEq, Repr

/-- A control event (`Fan_event_t`). -/
structure FanEvent where
  source : EventSource
  id : EventId
  arg : UInt32
  deriving DecidableEq, Repr

/-! ### Speeds -/

/-- `SPEED_OFF`. -/
def speedOff : UInt32 := 0

/-- `SPEED_1`, the lowest speed. -/
def speed1 : UInt32 := 1

/-- `SPEED_2`. -/
def speed2 : UInt32 := 2

/-- `SPEED_3`. -/
def speed3 : UInt32 := 3

/-- `SPEED_4`, the highest speed. -/
def speed4 : UInt32 := 4

/-- `NUM_SPEED`, one past the last speed. -/
def numSpeed : UInt32 := 5

/-- The speeds at which the fan can spin, `SPEED_1` to `SPEED_4`. -/
def ValidSpeed (speed : UInt32) : Prop :=
  speed ∈ [speed1, speed2, speed3, speed4]

instance (speed : UInt32) : Decidable (ValidSpeed speed) :=
  inferInstanceAs (Decidable (speed ∈ _))

/-- A valid speed is one of the four values. -/
theorem ValidSpeed.cases {speed : UInt32} (h : ValidSpeed speed) :
  speed = 1 ∨ speed = 2 ∨ speed = 3 ∨ speed = 4
  := by
  simpa [ValidSpeed, speed1, speed2, speed3, speed4] using h

/-- A value of the enumeration other than `SPEED_OFF` is a valid speed. -/
theorem ValidSpeed.of_mem {speed : UInt32}
    (h : speed ∈ [speedOff, speed1, speed2, speed3, speed4]) (hne : speedOff ≠ speed) :
  ValidSpeed speed
  := by
  simpa [ValidSpeed, Ne.symm hne] using h

theorem ValidSpeed.ne_off {speed : UInt32} (h : ValidSpeed speed) :
  speed ≠ speedOff
  := by
  rcases h.cases with rfl | rfl | rfl | rfl <;> decide

/-- The current state of the fan (`Fan_state_t`). -/
structure FanState where
  isOn : Bool
  oscillate : Bool
  speed : UInt32
  deriving DecidableEq, Repr

/-! ### GPIO -/

/-- `GPIO_LOW`. -/
@[simp] def gpioLow : Bool := false

/-- `GPIO_HIGH`. -/
@[simp] def gpioHigh : Bool := true

/-- `FAN_SPEED1_RELAY_GPIO`. -/
def fanSpeed1RelayGpio : Nat := 3

/-- `FAN_SPEED2_RELAY_GPIO`. -/
def fanSpeed2RelayGpio : Nat := 4

/-- `FAN_SPEED3_RELAY_GPIO`. -/
def fanSpeed3RelayGpio : Nat := 5

/-- `FAN_SPEED4_RELAY_GPIO`. -/
def fanSpeed4RelayGpio : Nat := 6

/-- `FAN_OSC_RELAY_GPIO`. -/
def fanOscRelayGpio : Nat := 7

/-- `FAN_SPEED1_LED_GPIO`. -/
def fanSpeed1LedGpio : Nat := 8

/-- `FAN_SPEED2_LED_GPIO`. -/
def fanSpeed2LedGpio : Nat := 9

/-- `FAN_SPEED3_LED_GPIO`. -/
def fanSpeed3LedGpio : Nat := 10

/-- `FAN_SPEED4_LED_GPIO`. -/
def fanSpeed4LedGpio : Nat := 13

/-- `FAN_BUILTIN_LED_GPIO`. -/
def fanBuiltinLedGpio : Nat := 12

/-- One call `gpio_set_level(pin, level)`. -/
structure GpioWrite where
  pin : Nat
  level : Bool
  deriving DecidableEq, Repr

/-! ### Globals -/

/-- The values the HAP core holds for `on_char`, `oscillate_char` and `speed_char`.  The
rotation speed is kept as the integer percentage it carries. -/
structure HapChars where
  onChar : Bool
  oscillateChar : Bool
  speedChar : Int
  deriving DecidableEq, Repr

/-- The state shared by the event handlers: `g_Fan_state`, `g_Led_enable`, every
`gpio_set_level` call so far (oldest first) and the HAP characteristic values. -/
structure Globals where
  fanState : FanState
  ledEnable : Bool
  gpio : List GpioWrite
  chars : HapChars

/-- `gpio_set_level(pin, level)`. -/
def gpioSetLevel (pin : Nat) (level : Bool) (g : Globals) : Globals :=
  { g with gpio := g.gpio ++ [⟨pin, level⟩] }

end HomeKitFan
