import HomeKitFan.RelayInvariant

/-!
# The speed LEDs follow the fan state

After every turn of `Lasko_event_handler`, the four speed LEDs show `g_Fan_state` while
`g_Led_enable` holds, the LED of the speed when the fan is on and none when it is off,
and stay dark while it does not.  Three facts of `led.c` and `main.c` combine:
`Led_write_speed` does nothing while the LEDs are disabled, `Led_write_enable(false)` is
the only write that clears them, and after `Led_write_enable(true)` it is the
`Led_write_speed` at the end of the same turn that lights them again.  The handlers
themselves write only the relays, apart from the remote's Time and Temperature buttons.
-/

namespace HomeKitFan

/-- The speed LEDs light `target` and no other. -/
def SpeedLedsAt (target : Option Nat) (ws : List GpioWrite) : Prop :=
  ∀ p ∈ speedLeds, pinLevel ws p = gpioHigh ↔ target = some p

instance (target : Option Nat) (ws : List GpioWrite) : Decidable (SpeedLedsAt target ws) :=
  inferInstanceAs (Decidable (∀ p ∈ speedLeds, _))

/-- The speed LED a fan state calls for: the one for its speed when on, none when off. -/
def FanState.led (fanState : FanState) : Option Nat :=
  if fanState.isOn then ledGpio fanState.speed else none

@[simp]
theorem ledGpio_speedOff :
  ledGpio speedOff = none
  := rfl

/-- The speed LEDs show `g_Fan_state` while enabled, and are dark while disabled. -/
structure LedsMatch (g : Globals) : Prop where
  enabled : g.ledEnable = true → SpeedLedsAt g.fanState.led g.gpio
  disabled : g.ledEnable = false → SpeedLedsAt none g.gpio

section Steps

variable {g g' : Globals}

theorem SpeedLedsAt.of_writesWithin {target : Option Nat} {pins : List Nat}
    (h : SpeedLedsAt target g.gpio) (hw : WritesWithin pins g g')
    (hd : ∀ p ∈ speedLeds, p ∉ pins) :
  SpeedLedsAt target g'.gpio
  := fun p hp => hw.pinLevel (hd p hp) ▸ h p hp

/-- Handlers write the relays only. -/
theorem setOscillate_writesWithin (oscillate : Bool) :
  WritesWithin relays g (setOscillate oscillate g)
  := by
  unfold setOscillate
  split_ifs
  · exact (relayWriteOscillate_writesWithin g _).mono (by decide)
  · exact .refl _ rfl

theorem relayWrites_writesWithin (speed : UInt32) (oscillate : Bool) :
  WritesWithin relays g (relayWriteOscillate oscillate (relayWriteSpeed speed g))
  := ((relayWriteSpeed_writesWithin g speed).mono (by decide)).trans
    ((relayWriteOscillate_writesWithin _ _).mono (by decide))

theorem handleHomekit_writesWithin (event : FanEvent) :
  WritesWithin relays g (handleHomekit event g)
  := by
  rcases event with ⟨source, id, arg⟩
  cases id
  case power =>
    simp only [handleHomekit]
    split_ifs
    · exact .refl _ rfl
    all_goals exact relayWrites_writesWithin _ _
  case oscillate => exact setOscillate_writesWithin _
  case speed =>
    simp only [handleHomekit]
    split_ifs
    · exact .refl _ rfl
    · exact (relayWriteSpeed_writesWithin g _).mono (by decide)
    · exact .refl _ rfl
  all_goals exact .refl _ rfl

theorem handleButton_writesWithin (event : FanEvent) :
  WritesWithin relays g (handleButton event g)
  := by
  rcases event with ⟨source, id, arg⟩
  cases id
  case power => exact relayWrites_writesWithin _ _
  case oscillate => exact setOscillate_writesWithin _
  all_goals exact .refl _ rfl

theorem handleRemote_writesWithin {event : FanEvent}
    (h : event.id ≠ .time ∧ event.id ≠ .temperature) :
  WritesWithin relays g (handleRemote event g)
  := by
  rcases event with ⟨source, id, arg⟩
  cases id
  case power => exact relayWrites_writesWithin _ _
  case oscillate => exact setOscillate_writesWithin _
  case speed =>
    simp only [handleRemote]
    split_ifs
    · exact .refl _ rfl
    · exact (relayWriteSpeed_writesWithin g _).mono (by decide)
  all_goals simp at h

/-- `Led_write_enable(false)` clears the speed LEDs. -/
theorem ledWriteEnable_dark (enable : Bool) :
  (ledWriteEnable enable g).ledEnable = false → SpeedLedsAt none (ledWriteEnable enable g).gpio
  := by
  intro hoff p hp
  simp only [ledWriteEnable_ledEnable] at hoff
  subst hoff
  simp [ledWriteEnable, hp]

/-- After the handler, the LEDs are dark whenever they are disabled. -/
theorem dispatch_dark {event : FanEvent} (h : g.ledEnable = false → SpeedLedsAt none g.gpio) :
  (dispatch event g).ledEnable = false → SpeedLedsAt none (dispatch event g).gpio
  := by
  have relays_only : WritesWithin relays g (dispatch event g) →
      (dispatch event g).ledEnable = g.ledEnable →
      (dispatch event g).ledEnable = false → SpeedLedsAt none (dispatch event g).gpio :=
    fun hw he hoff => (h (he ▸ hoff)).of_writesWithin hw (by decide)
  rcases event with ⟨source, id, arg⟩
  cases source
  case homekit => exact relays_only (handleHomekit_writesWithin _) (by simp [dispatch])
  case button => exact relays_only (handleButton_writesWithin _) (by simp [dispatch])
  case remote =>
    by_cases hid : id ≠ .time ∧ id ≠ .temperature
    · exact relays_only (handleRemote_writesWithin hid)
        (by simp [dispatch, handleRemote_ledEnable, hid.1, hid.2])
    · have hid : id = .time ∨ id = .temperature := by tauto
      rcases hid with rfl | rfl <;> exact ledWriteEnable_dark _

/-- `Led_write_speed` with the LEDs enabled lights the LED of the speed it is given. -/
theorem ledWriteSpeed_speedLedsAt (speed : UInt32) (h : g.ledEnable = true) :
  SpeedLedsAt (ledGpio speed) (ledWriteSpeed speed g).gpio
  := by
  intro p hp
  simp only [ledWriteSpeed, h, Bool.not_true, Bool.false_eq_true, if_false,
    writeSpeedBank_pinLevel, hp, if_true]
  by_cases hl : ledGpio speed = some p <;> simp [hl]

/-- One turn of the loop keeps the speed LEDs on `g_Fan_state`. -/
theorem laskoEventHandler_ledsMatch (event : FanEvent) (h : LedsMatch g) :
  LedsMatch (laskoEventHandler event g)
  := by
  unfold laskoEventHandler
  set g₁ := dispatch event (ledWriteBuiltin true g)
  have hdark : g₁.ledEnable = false → SpeedLedsAt none g₁.gpio :=
    dispatch_dark fun hoff =>
      (h.disabled (by simpa using hoff)).of_writesWithin (ledWriteBuiltin_writesWithin ..)
        (by decide)
  have hb := fun {g₂ : Globals} {t : Option Nat} (ht : SpeedLedsAt t g₂.gpio) =>
    ht.of_writesWithin (ledWriteBuiltin_writesWithin g₂ false) (by decide)
  constructor
  · intro hon
    simp only [ledWriteBuiltin_ledEnable, ledWriteSpeed_ledEnable] at hon
    refine hb ?_
    simpa [FanState.led, apply_ite ledGpio, ledGpio_speedOff] using
      ledWriteSpeed_speedLedsAt (if g₁.fanState.isOn then g₁.fanState.speed else speedOff) hon
  · intro hoff
    simp only [ledWriteBuiltin_ledEnable, ledWriteSpeed_ledEnable] at hoff
    refine hb ?_
    simpa [ledWriteSpeed, hoff] using hdark hoff

theorem runEvents_ledsMatch (events : List FanEvent) (h : LedsMatch g) :
  LedsMatch (runEvents events g)
  := by
  induction events generalizing g with
  | nil => exact h
  | cons event events ih => exact ih (laskoEventHandler_ledsMatch event h)

theorem boot_ledsMatch :
  LedsMatch boot
  := ⟨fun _ => by decide, fun h => absurd h (by decide)⟩

end Steps

/-- From `boot`, after every turn of the loop the speed is one of the four, and the speed
LEDs show it while enabled and are dark while disabled, however the enable toggles and
the speed and power changes interleave. -/
theorem leds_follow_fan_state (events : List FanEvent)
    (hb : ∀ event ∈ events, event.Binned) (n : Nat) :
  ValidSpeed (runEvents (events.take n) boot).fanState.speed ∧
    LedsMatch (runEvents (events.take n) boot)
  := ⟨(runEvents_relays (fun e he => hb e (List.mem_of_mem_take he)) boot_relaysMatch
      boot_relaysSafe).1.valid, runEvents_ledsMatch _ boot_ledsMatch⟩

/-- Power on, disable the LEDs, change speed while they are dark, enable them again. -/
theorem leds_follow_fan_state_dark_speed_change :
  (∀ event ∈ [⟨.button, .power, 0⟩, ⟨.remote, .time, 0⟩, ⟨.remote, .speed, 0⟩,
      ⟨.remote, .temperature, 0⟩], FanEvent.Binned event) ∧
    ValidSpeed (runEvents ([⟨.button, .power, 0⟩, ⟨.remote, .time, 0⟩, ⟨.remote, .speed, 0⟩,
      ⟨.remote, .temperature, 0⟩].take 3) boot).fanState.speed ∧
    LedsMatch (runEvents ([⟨.button, .power, 0⟩, ⟨.remote, .time, 0⟩, ⟨.remote, .speed, 0⟩,
      ⟨.remote, .temperature, 0⟩].take 3) boot)
  := ⟨by decide, leds_follow_fan_state _ (by decide) 3⟩

end HomeKitFan
