import HomeKitFan.Outputs
import HomeKitFan.HomeKit

/-!
# Event handlers

`event_handlers.c`: the transition rules of the fan, one handler per event source.  Each
handler writes the relays from the state before the event and updates `g_Fan_state`
afterwards.  The Button and Remote handlers end by publishing the new state with
`HomeKit_update_char`; the HomeKit handler does not, since HomeKit already holds the
written value.

The speed arithmetic follows the C types.  `handle_button` computes in `unsigned int`, the
type of the enumeration, so its `% NUM_SPEED` is taken of a wrapped difference.
`handle_remote` first casts the speed to `int` and computes with a truncating `%`.
-/

namespace HomeKitFan

/-- The `ID_OSCILLATE` branches of the three handlers: write `oscillate` to the relay at
once when the fan is on, and store it either way for the next power-on. -/
def setOscillate (oscillate : Bool) (g : Globals) : Globals :=
  let g := if g.fanState.isOn then relayWriteOscillate oscillate g else g
  { g with fanState := { g.fanState with oscillate := oscillate } }

/-- `handle_homekit`. -/
def handleHomekit (event : FanEvent) (g : Globals) : Globals :=
  match event.id with
  | .power =>
    if g.fanState.isOn = (event.arg != 0) then g
    else
      let g := relayWriteSpeed (if event.arg != 0 then g.fanState.speed else speedOff) g
      let g := relayWriteOscillate (if event.arg != 0 then g.fanState.oscillate else false) g
      { g with fanState := { g.fanState with isOn := event.arg != 0 } }
  | .oscillate => setOscillate (event.arg != 0) g
  | .speed =>
    if speedOff = event.arg then g
    else
      let g := if g.fanState.isOn then relayWriteSpeed event.arg g else g
      { g with fanState := { g.fanState with speed := event.arg } }
  | _ => g

/-- The speed the power button switches to: `((speed - 1) % NUM_SPEED) + !on`, in
`unsigned int`. -/
def buttonNextSpeed (fanState : FanState) : UInt32 :=
  (fanState.speed - 1) % numSpeed + (if !fanState.isOn then 1 else 0)

/-- `handle_button`. -/
def handleButton (event : FanEvent) (g : Globals) : Globals :=
  let g := match event.id with
    | .power =>
      let nextSpeed := buttonNextSpeed g.fanState
      let g := relayWriteSpeed nextSpeed g
      let g := relayWriteOscillate (if speedOff ≠ nextSpeed then g.fanState.oscillate else false) g
      let g := { g with fanState :=
        { g.fanState with speed := if speedOff ≠ nextSpeed then nextSpeed else speed4 } }
      { g with fanState := { g.fanState with isOn := decide (speedOff ≠ nextSpeed) } }
    | .oscillate => setOscillate (!g.fanState.oscillate) g
    | _ => g
  homeKitUpdateChar g

/-- `(int) x` for a 32-bit unsigned `x`: its two's complement reading. -/
def toInt32 (x : UInt32) : Int :=
  if x.toNat < 0x80000000 then x.toNat else x.toNat - 0x100000000

/-- The conversion of an `int` to the unsigned enumeration, modulo `2^32`. -/
def ofInt32 (i : Int) : UInt32 :=
  UInt32.ofNat (i % 0x100000000).toNat

/-- The speed the remote's speed button switches to:
`((((int) speed - 1) - 1 + SPEED_4) % SPEED_4) + 1`.  Signed overflow, possible only for
the two values nearest `INT_MIN`, is taken in `ℤ`. -/
def remoteNextSpeed (speed : UInt32) : UInt32 :=
  ofInt32 (((toInt32 speed - 1) - 1 + speed4.toNat).tmod speed4.toNat + 1)

/-- `handle_remote`. -/
def handleRemote (event : FanEvent) (g : Globals) : Globals :=
  let g := match event.id with
    | .power =>
      let g := relayWriteSpeed (if g.fanState.isOn then speedOff else g.fanState.speed) g
      let g := relayWriteOscillate (if g.fanState.isOn then false else g.fanState.oscillate) g
      { g with fanState := { g.fanState with isOn := !g.fanState.isOn } }
    | .oscillate => setOscillate (!g.fanState.oscillate) g
    | .speed =>
      if !g.fanState.isOn then g
      else
        let nextSpeed := remoteNextSpeed g.fanState.speed
        let g := relayWriteSpeed nextSpeed g
        { g with fanState := { g.fanState with speed := nextSpeed } }
    | .time | .temperature => ledWriteEnable (!g.ledEnable) g
  homeKitUpdateChar g

/-! ### The speed arithmetic on the four speeds -/

theorem buttonNextSpeed_of_on {fanState : FanState} (hv : ValidSpeed fanState.speed)
    (hon : fanState.isOn = true) :
  buttonNextSpeed fanState = fanState.speed - 1
  := by
  rcases hv.cases with h | h | h | h <;> simp [buttonNextSpeed, numSpeed, hon, h]

theorem buttonNextSpeed_of_off {fanState : FanState} (hv : ValidSpeed fanState.speed)
    (hon : fanState.isOn = false) :
  buttonNextSpeed fanState = fanState.speed
  := by
  rcases hv.cases with h | h | h | h <;> simp [buttonNextSpeed, numSpeed, hon, h]

theorem buttonNextSpeed_valid {fanState : FanState} (hv : ValidSpeed fanState.speed)
    (hn : speedOff ≠ buttonNextSpeed fanState) :
  ValidSpeed (buttonNextSpeed fanState)
  := by
  cases hon : fanState.isOn
  · rwa [buttonNextSpeed_of_off hv hon]
  · rw [buttonNextSpeed_of_on hv hon] at hn ⊢
    revert hn
    rcases hv.cases with h | h | h | h <;> rw [h] <;> decide

theorem remoteNextSpeed_valid {speed : UInt32} (hv : ValidSpeed speed) :
  ValidSpeed (remoteNextSpeed speed)
  := by
  rcases hv.cases with rfl | rfl | rfl | rfl <;> decide

/-! ### Effect on the fan state -/

section Spec

variable (event : FanEvent) (g : Globals)

@[simp]
theorem setOscillate_fanState (oscillate : Bool) :
  (setOscillate oscillate g).fanState = { g.fanState with oscillate := oscillate }
  := by
  unfold setOscillate; split_ifs <;> simp

@[simp]
theorem setOscillate_ledEnable (oscillate : Bool) :
  (setOscillate oscillate g).ledEnable = g.ledEnable
  := by
  unfold setOscillate; split_ifs <;> simp

@[simp]
theorem setOscillate_chars (oscillate : Bool) :
  (setOscillate oscillate g).chars = g.chars
  := by
  unfold setOscillate; split_ifs <;> simp

theorem handleHomekit_isOn :
  (handleHomekit event g).fanState.isOn
    = if event.id = .power then event.arg != 0 else g.fanState.isOn
  := by
  rcases event with ⟨source, id, arg⟩
  cases id <;> simp only [handleHomekit] <;> split_ifs <;> simp_all

theorem handleHomekit_oscillate :
  (handleHomekit event g).fanState.oscillate
    = if event.id = .oscillate then event.arg != 0 else g.fanState.oscillate
  := by
  rcases event with ⟨source, id, arg⟩
  cases id <;> simp only [handleHomekit] <;> split_ifs <;> simp_all

theorem handleHomekit_speed :
  (handleHomekit event g).fanState.speed
    = if event.id = .speed ∧ speedOff ≠ event.arg then event.arg else g.fanState.speed
  := by
  rcases event with ⟨source, id, arg⟩
  cases id <;> simp only [handleHomekit] <;> split_ifs <;> simp_all

@[simp]
theorem handleHomekit_ledEnable :
  (handleHomekit event g).ledEnable = g.ledEnable
  := by
  rcases event with ⟨source, id, arg⟩
  cases id <;> simp only [handleHomekit] <;> (try split_ifs) <;> simp

@[simp]
theorem handleHomekit_chars :
  (handleHomekit event g).chars = g.chars
  := by
  rcases event with ⟨source, id, arg⟩
  cases id <;> simp only [handleHomekit] <;> (try split_ifs) <;> simp

/-- The Button handler publishes the state it leaves. -/
theorem handleButton_chars :
  (handleButton event g).chars = charsOf (handleButton event g).fanState
  := rfl

@[simp]
theorem handleButton_ledEnable :
  (handleButton event g).ledEnable = g.ledEnable
  := by
  rcases event with ⟨source, id, arg⟩
  cases id <;> simp [handleButton]

/-- The Remote handler publishes the state it leaves. -/
theorem handleRemote_chars :
  (handleRemote event g).chars = charsOf (handleRemote event g).fanState
  := rfl

theorem handleRemote_ledEnable :
  (handleRemote event g).ledEnable
    = if event.id = .time ∨ event.id = .temperature then !g.ledEnable else g.ledEnable
  := by
  rcases event with ⟨source, id, arg⟩
  cases id <;> simp [handleRemote, apply_ite Globals.ledEnable]

/-! ### The characteristic values reach nothing else

The handlers read `g_Fan_state` and `g_Led_enable` and never the values the HAP core holds:
run on globals that differ in those values only, they make the same writes and leave the
same state.  The Button and Remote handlers then overwrite the values with the state they
publish. -/

theorem setOscillate_setChars (oscillate : Bool) (chars : HapChars) :
  setOscillate oscillate { g with chars := chars }
    = { setOscillate oscillate g with chars := chars }
  := by
  unfold setOscillate; split_ifs <;> rfl

theorem handleHomekit_setChars (chars : HapChars) :
  handleHomekit event { g with chars := chars } = { handleHomekit event g with chars := chars }
  := by
  rcases event with ⟨source, id, arg⟩
  cases id <;> simp only [handleHomekit] <;> (try split_ifs) <;>
    simp [relayWriteSpeed_setChars, setOscillate_setChars, relayWriteOscillate]

theorem handleButton_setChars (chars : HapChars) :
  handleButton event { g with chars := chars } = handleButton event g
  := by
  rcases event with ⟨source, id, arg⟩
  cases id <;> simp [handleButton, relayWriteSpeed_setChars, setOscillate_setChars,
    relayWriteOscillate, homeKitUpdateChar]

theorem handleRemote_setChars (chars : HapChars) :
  handleRemote event { g with chars := chars } = handleRemote event g
  := by
  rcases event with ⟨source, id, arg⟩
  cases id <;> cases hon : g.fanState.isOn <;>
    simp [handleRemote, hon, relayWriteSpeed_setChars, setOscillate_setChars, relayWriteOscillate,
      ledWriteEnable_setChars, homeKitUpdateChar]

end Spec

end HomeKitFan
