import HomeKitFan.EventLoop

/-!
# The relays follow the fan state

From `boot`, along any sequence of events the producers can send, two things hold.  At
every single GPIO write, at most one of the four active-low speed relays is energized
(`RelaysSafe`).  After every event, the relays show `g_Fan_state` (`RelaysMatch`): the
speed is one of `SPEED_1` to `SPEED_4`, the energized speed relay is the one for the speed
when the fan is on and there is none when it is off, and the oscillation relay is
energized exactly when the fan is on and oscillating.

The speed must never be `SPEED_OFF`: the early return of `Relay_write_speed` compares the
requested speed with the stored one, and the power button's `% NUM_SPEED` arithmetic only
cycles through the four speeds, so both rely on the stored speed being one of them.
-/

namespace HomeKitFan

/-- The speed relays energize `target` and no other. -/
def SpeedRelaysAt (target : Option Nat) (ws : List GpioWrite) : Prop :=
  ∀ p ∈ speedRelays, pinLevel ws p = gpioLow ↔ target = some p

instance (target : Option Nat) (ws : List GpioWrite) : Decidable (SpeedRelaysAt target ws) :=
  inferInstanceAs (Decidable (∀ p ∈ speedRelays, _))

/-- The speed relay a fan state calls for: the one for its speed when on, none when off. -/
def FanState.relay (fanState : FanState) : Option Nat :=
  if fanState.isOn then relayGpio fanState.speed else none

/-- The relays show `g_Fan_state`. -/
structure RelaysMatch (g : Globals) : Prop where
  valid : ValidSpeed g.fanState.speed
  speed : SpeedRelaysAt g.fanState.relay g.gpio
  oscillate : pinLevel g.gpio fanOscRelayGpio = !(g.fanState.isOn && g.fanState.oscillate)

/-- Every write since `start` left at most one speed relay energized. -/
def RelaysSafe (start ws : List GpioWrite) : Prop :=
  start <+: ws ∧ Always (AtMostOneAt speedRelays gpioLow) start ws

/-! ### The outputs -/

section Outputs

variable {g g' : Globals} {start : List GpioWrite}

theorem SpeedRelaysAt.of_writesWithin {target : Option Nat} {pins : List Nat}
    (h : SpeedRelaysAt target g.gpio) (hw : WritesWithin pins g g')
    (hd : ∀ p ∈ speedRelays, p ∉ pins) :
  SpeedRelaysAt target g'.gpio
  := fun p hp => hw.pinLevel (hd p hp) ▸ h p hp

theorem RelaysSafe.of_writesWithin {pins : List Nat} (h : RelaysSafe start g.gpio)
    (hw : WritesWithin pins g g') (hd : ∀ p ∈ pins, p ∉ speedRelays) :
  RelaysSafe start g'.gpio
  := ⟨h.1.trans hw.grows, hw.always hd h.2 h.1⟩

/-- `Relay_write_speed` energizes the relay of the speed it is given: when it returns
early, that relay is already the one energized. -/
theorem relayWriteSpeed_speedRelaysAt (speed : UInt32)
    (h : SpeedRelaysAt g.fanState.relay g.gpio) :
  SpeedRelaysAt (relayGpio speed) (relayWriteSpeed speed g).gpio
  := by
  unfold relayWriteSpeed
  split_ifs with he
  · obtain ⟨rfl, hon⟩ := he
    simpa [FanState.relay, ← hon] using h
  · intro p hp
    rw [writeSpeedBank_pinLevel]
    by_cases hr : relayGpio speed = some p <;> simp [hr, hp]

@[simp]
theorem relayWriteSpeed_pinLevel_osc (speed : UInt32) :
  pinLevel (relayWriteSpeed speed g).gpio fanOscRelayGpio = pinLevel g.gpio fanOscRelayGpio
  := (relayWriteSpeed_writesWithin g speed).pinLevel (by decide)

@[simp]
theorem relayWriteOscillate_speedRelaysAt {target : Option Nat} (oscillate : Bool) :
  SpeedRelaysAt target (relayWriteOscillate oscillate g).gpio ↔ SpeedRelaysAt target g.gpio
  := by
  simp only [SpeedRelaysAt]
  refine forall₂_congr fun p hp => ?_
  rw [(relayWriteOscillate_writesWithin g oscillate).pinLevel (by revert p; decide)]

@[simp]
theorem relayWriteSpeed_relaysSafe (speed : UInt32) (h : RelaysSafe start g.gpio) :
  RelaysSafe start (relayWriteSpeed speed g).gpio
  := by
  unfold relayWriteSpeed
  split_ifs
  · exact h
  · exact ⟨h.1.trans (writeSpeedBank_writesWithin _ _ _ _ _ _ fun _ => relayGpio_mem).grows,
      writeSpeedBank_always _ _ _ _ _ _ (by decide) h.2 h.1⟩

@[simp]
theorem relayWriteOscillate_relaysSafe (oscillate : Bool) (h : RelaysSafe start g.gpio) :
  RelaysSafe start (relayWriteOscillate oscillate g).gpio
  := h.of_writesWithin (relayWriteOscillate_writesWithin ..) (by decide)

@[simp]
theorem ledWriteEnable_relaysSafe (enable : Bool) (h : RelaysSafe start g.gpio) :
  RelaysSafe start (ledWriteEnable enable g).gpio
  := h.of_writesWithin (ledWriteEnable_writesWithin ..) (by decide)

@[simp]
theorem ledWriteSpeed_relaysSafe (speed : UInt32) (h : RelaysSafe start g.gpio) :
  RelaysSafe start (ledWriteSpeed speed g).gpio
  := h.of_writesWithin (ledWriteSpeed_writesWithin ..) (by decide)

@[simp]
theorem ledWriteBuiltin_relaysSafe (state : Bool) (h : RelaysSafe start g.gpio) :
  RelaysSafe start (ledWriteBuiltin state g).gpio
  := h.of_writesWithin (ledWriteBuiltin_writesWithin ..) (by decide)

/-- The LED writes leave the relays as they are. -/
theorem RelaysMatch.of_led_writesWithin {pins : List Nat} (h : RelaysMatch g)
    (hw : WritesWithin pins g g') (hd : ∀ p ∈ relays, p ∉ pins)
    (hf : g'.fanState = g.fanState) :
  RelaysMatch g'
  := by
  refine ⟨hf ▸ h.valid, hf ▸ h.speed.of_writesWithin hw fun p hp => hd p ?_, ?_⟩
  · revert p; decide
  · rw [hf, hw.pinLevel (hd _ (by decide)), h.oscillate]

theorem RelaysMatch.congr (h : RelaysMatch g) (hf : g'.fanState = g.fanState)
    (hg : g'.gpio = g.gpio) :
  RelaysMatch g'
  := ⟨hf ▸ h.valid, hf ▸ hg ▸ h.speed, hf ▸ hg ▸ h.oscillate⟩

end Outputs

/-! ### The handlers -/

section Handlers

variable {g : Globals} {start : List GpioWrite}

@[simp]
theorem relayGpio_speedOff :
  relayGpio speedOff = none
  := rfl

@[simp]
theorem setOscillate_relaysSafe (oscillate : Bool) (h : RelaysSafe start g.gpio) :
  RelaysSafe start (setOscillate oscillate g).gpio
  := by
  unfold setOscillate; split_ifs <;> simp [h]

theorem handleHomekit_relaysSafe (event : FanEvent) (h : RelaysSafe start g.gpio) :
  RelaysSafe start (handleHomekit event g).gpio
  := by
  rcases event with ⟨source, id, arg⟩
  cases id <;> simp only [handleHomekit] <;> (try split_ifs) <;> simp [h]

theorem handleButton_relaysSafe (event : FanEvent) (h : RelaysSafe start g.gpio) :
  RelaysSafe start (handleButton event g).gpio
  := by
  rcases event with ⟨source, id, arg⟩
  cases id <;> simp [handleButton, h]

theorem handleRemote_relaysSafe (event : FanEvent) (h : RelaysSafe start g.gpio) :
  RelaysSafe start (handleRemote event g).gpio
  := by
  rcases event with ⟨source, id, arg⟩
  cases id <;> simp only [handleRemote] <;> (try split_ifs) <;> simp [h]

@[simp]
theorem relaysMatch_homeKitUpdateChar :
  RelaysMatch (homeKitUpdateChar g) ↔ RelaysMatch g
  := ⟨fun h => h.congr rfl rfl, fun h => h.congr rfl rfl⟩

theorem setOscillate_relaysMatch (oscillate : Bool) (h : RelaysMatch g) :
  RelaysMatch (setOscillate oscillate g)
  := by
  unfold setOscillate
  split_ifs with hon
  · exact ⟨by simpa using h.valid, by simpa [FanState.relay, hon] using h.speed, by simp [hon]⟩
  · exact ⟨h.valid, by simpa [FanState.relay, hon] using h.speed,
      by simpa [hon] using h.oscillate⟩

theorem handleHomekit_relaysMatch {event : FanEvent} (h : RelaysMatch g)
    (hb : event.id = .speed → event.arg ∈ [speedOff, speed1, speed2, speed3, speed4]) :
  RelaysMatch (handleHomekit event g)
  := by
  rcases event with ⟨source, id, arg⟩
  cases id
  case power =>
    simp only [handleHomekit]
    split_ifs with hsame hv
    · exact h
    · refine ⟨by simpa using h.valid, ?_, by simp [hv]⟩
      simpa [FanState.relay, hv] using relayWriteSpeed_speedRelaysAt g.fanState.speed h.speed
    · refine ⟨by simpa using h.valid, ?_, by simp [hv]⟩
      simpa [FanState.relay, hv] using relayWriteSpeed_speedRelaysAt speedOff h.speed
  case oscillate => exact setOscillate_relaysMatch _ h
  case speed =>
    simp only [handleHomekit]
    split_ifs with hoff hon
    · exact h
    · refine ⟨by simpa using ValidSpeed.of_mem (hb rfl) hoff, ?_, by simpa using h.oscillate⟩
      simpa [FanState.relay, hon] using relayWriteSpeed_speedRelaysAt arg h.speed
    · exact ⟨ValidSpeed.of_mem (hb rfl) hoff, by simpa [FanState.relay, hon] using h.speed,
        h.oscillate⟩
  all_goals exact h

theorem handleButton_relaysMatch (event : FanEvent) (h : RelaysMatch g) :
  RelaysMatch (handleButton event g)
  := by
  rcases event with ⟨source, id, arg⟩
  simp only [handleButton, relaysMatch_homeKitUpdateChar]
  cases id <;> dsimp only
  case power =>
    have hn := relayWriteSpeed_speedRelaysAt (buttonNextSpeed g.fanState) h.speed
    by_cases hoff : speedOff = buttonNextSpeed g.fanState
    · rw [← hoff, relayGpio_speedOff] at hn
      exact ⟨by simpa [hoff] using (by decide : ValidSpeed speed4),
        by simpa [FanState.relay, hoff] using hn, by simp [hoff]⟩
    · refine ⟨by simpa [hoff] using buttonNextSpeed_valid h.valid hoff, ?_, by simp [hoff]⟩
      simpa [FanState.relay, hoff] using hn
  case oscillate => exact setOscillate_relaysMatch _ h
  all_goals exact h

theorem handleRemote_relaysMatch (event : FanEvent) (h : RelaysMatch g) :
  RelaysMatch (handleRemote event g)
  := by
  rcases event with ⟨source, id, arg⟩
  simp only [handleRemote, relaysMatch_homeKitUpdateChar]
  cases id <;> dsimp only
  case power =>
    cases hon : g.fanState.isOn
    · refine ⟨by simpa using h.valid, ?_, by simp [hon]⟩
      simpa [FanState.relay, hon] using relayWriteSpeed_speedRelaysAt g.fanState.speed h.speed
    · refine ⟨by simpa using h.valid, ?_, by simp [hon]⟩
      simpa [FanState.relay, hon] using relayWriteSpeed_speedRelaysAt speedOff h.speed
  case oscillate => exact setOscillate_relaysMatch _ h
  case speed =>
    split_ifs with hoff
    · exact h
    · have hon : g.fanState.isOn = true := by simpa using hoff
      refine ⟨by simpa using remoteNextSpeed_valid h.valid, ?_, by simpa using h.oscillate⟩
      simpa [FanState.relay, hon] using
        relayWriteSpeed_speedRelaysAt (remoteNextSpeed g.fanState.speed) h.speed
  all_goals exact h.of_led_writesWithin (ledWriteEnable_writesWithin ..) (by decide) (by simp)

end Handlers

/-! ### The event loop -/

section Loop

variable {g : Globals} {start : List GpioWrite}

theorem dispatch_relaysMatch {event : FanEvent} (h : RelaysMatch g) (hb : event.Binned) :
  RelaysMatch (dispatch event g)
  := by
  unfold dispatch
  split
  · exact handleHomekit_relaysMatch h (hb ‹_›)
  · exact handleButton_relaysMatch _ h
  · exact handleRemote_relaysMatch _ h

theorem dispatch_relaysSafe (event : FanEvent) (h : RelaysSafe start g.gpio) :
  RelaysSafe start (dispatch event g).gpio
  := by
  unfold dispatch
  split
  · exact handleHomekit_relaysSafe _ h
  · exact handleButton_relaysSafe _ h
  · exact handleRemote_relaysSafe _ h

/-- One turn of the loop keeps the relays on `g_Fan_state`. -/
theorem laskoEventHandler_relaysMatch {event : FanEvent} (h : RelaysMatch g)
    (hb : event.Binned) :
  RelaysMatch (laskoEventHandler event g)
  := by
  unfold laskoEventHandler
  have h₁ := h.of_led_writesWithin (ledWriteBuiltin_writesWithin g true) (by decide) rfl
  have h₂ := dispatch_relaysMatch h₁ hb
  refine RelaysMatch.of_led_writesWithin ?_ (ledWriteBuiltin_writesWithin _ false) (by decide) rfl
  exact h₂.of_led_writesWithin (ledWriteSpeed_writesWithin _ _) (by decide) (by simp)

/-- One turn of the loop never energizes two speed relays at once. -/
theorem laskoEventHandler_relaysSafe (event : FanEvent) (h : RelaysSafe start g.gpio) :
  RelaysSafe start (laskoEventHandler event g).gpio
  := ledWriteBuiltin_relaysSafe _ <| ledWriteSpeed_relaysSafe _ <| dispatch_relaysSafe _ <|
    ledWriteBuiltin_relaysSafe _ h

theorem runEvents_relays {events : List FanEvent} (hb : ∀ event ∈ events, event.Binned)
    (h : RelaysMatch g) (hs : RelaysSafe start g.gpio) :
  RelaysMatch (runEvents events g) ∧ RelaysSafe start (runEvents events g).gpio
  := by
  induction events generalizing g with
  | nil => exact ⟨h, hs⟩
  | cons event events ih =>
    exact ih (fun e he => hb e (.tail _ he)) (laskoEventHandler_relaysMatch h (hb event (.head _)))
      (laskoEventHandler_relaysSafe event hs)

theorem boot_relaysMatch :
  RelaysMatch boot
  := ⟨by decide, by decide, by decide⟩

theorem boot_relaysSafe :
  RelaysSafe boot.gpio boot.gpio
  := ⟨List.prefix_refl _, .of_start (by decide)⟩

/-- From `boot`, along any sequence of events the producers can send, no GPIO write ever
leaves two speed relays energized, and after every event the relays show `g_Fan_state`. -/
theorem relays_follow_fan_state (events : List FanEvent)
    (hb : ∀ event ∈ events, event.Binned) :
  RelaysSafe boot.gpio (runEvents events boot).gpio ∧
    ∀ n, RelaysMatch (runEvents (events.take n) boot)
  := ⟨(runEvents_relays hb boot_relaysMatch boot_relaysSafe).2, fun _ =>
    (runEvents_relays (fun e he => hb e (List.mem_of_mem_take he)) boot_relaysMatch
      boot_relaysSafe).1⟩

/-- Power on from the button, set a speed from HomeKit, step it down from the remote. -/
theorem relays_follow_fan_state_three_sources :
  (∀ event ∈ [⟨.button, .power, 0⟩, ⟨.homekit, .speed, 2⟩, ⟨.remote, .speed, 0⟩],
      FanEvent.Binned event) ∧
    RelaysSafe boot.gpio
        (runEvents [⟨.button, .power, 0⟩, ⟨.homekit, .speed, 2⟩, ⟨.remote, .speed, 0⟩] boot).gpio ∧
    ∀ n, RelaysMatch
      (runEvents ([⟨.button, .power, 0⟩, ⟨.homekit, .speed, 2⟩, ⟨.remote, .speed, 0⟩].take n) boot)
  := ⟨by decide, relays_follow_fan_state _ (by decide)⟩

end Loop

end HomeKitFan
