import HomeKitFan.EventHandlers

/-!
# The event loop

`Lasko_event_handler` in `main.c`.  Each turn of its loop takes one event from
`g_Fan_event_queue`, lights the built-in LED, hands the event to the handler of its
source, refreshes the speed LEDs from `g_Fan_state` and turns the built-in LED off again.
`boot` is the state in which the loop starts, once `app_main` has initialised the outputs
and the fan state.
-/

namespace HomeKitFan

/-- The `switch (event.source)` of `Lasko_event_handler`. -/
def dispatch (event : FanEvent) (g : Globals) : Globals :=
  match event.source with
  | .homekit => handleHomekit event g
  | .button => handleButton event g
  | .remote => handleRemote event g

/-- One turn of the loop of `Lasko_event_handler`, for the event `xQueueReceive` returns. -/
def laskoEventHandler (event : FanEvent) (g : Globals) : Globals :=
  let g := ledWriteBuiltin true g
  let g := dispatch event g
  let g := ledWriteSpeed (if g.fanState.isOn then g.fanState.speed else speedOff) g
  ledWriteBuiltin false g

/-- The loop run over a sequence of events, one turn each. -/
def runEvents (events : List FanEvent) (g : Globals) : Globals :=
  events.foldl (fun g event => laskoEventHandler event g) g

@[simp]
theorem runEvents_nil (g : Globals) :
  runEvents [] g = g
  := rfl

@[simp]
theorem runEvents_append_event (events : List FanEvent) (event : FanEvent) (g : Globals) :
  runEvents (events ++ [event]) g = laskoEventHandler event (runEvents events g)
  := by
  simp [runEvents]

/-- The globals before `app_main`: C zero-initialisation, no pin written yet, and the
values `HomeKit_init` gives the characteristics. -/
def Globals.initial : Globals :=
  ⟨⟨false, false, speedOff⟩, false, [], ⟨false, false, 0⟩⟩

/-- The globals when `Lasko_event_handler` starts: `Relay_init` and `Led_init` have run
and `app_main` has set the fan off, not oscillating, at `SPEED_4`. -/
def boot : Globals :=
  let g := ledInit (relayInit Globals.initial)
  { g with fanState := ⟨false, false, speed4⟩ }

/-- The LED writes around the handler leave the fan state and the characteristics alone. -/
@[simp]
theorem laskoEventHandler_fanState (event : FanEvent) (g : Globals) :
  (laskoEventHandler event g).fanState = (dispatch event (ledWriteBuiltin true g)).fanState
  := by
  simp [laskoEventHandler]

@[simp]
theorem laskoEventHandler_chars (event : FanEvent) (g : Globals) :
  (laskoEventHandler event g).chars = (dispatch event (ledWriteBuiltin true g)).chars
  := by
  simp [laskoEventHandler]

theorem dispatch_setChars (event : FanEvent) (g : Globals) (chars : HapChars) :
  ∃ chars', dispatch event { g with chars := chars } = { dispatch event g with chars := chars' }
  := by
  unfold dispatch
  split
  · exact ⟨chars, handleHomekit_setChars ..⟩
  · exact ⟨_, handleButton_setChars ..⟩
  · exact ⟨_, handleRemote_setChars ..⟩

/-- A turn reads nothing of the HAP characteristic values: on globals that differ in those
values only, it makes the same writes and leaves the same state. -/
theorem laskoEventHandler_setChars (event : FanEvent) (g : Globals) (chars : HapChars) :
  ∃ chars', laskoEventHandler event { g with chars := chars }
    = { laskoEventHandler event g with chars := chars' }
  := by
  obtain ⟨chars', h⟩ := dispatch_setChars event (ledWriteBuiltin true g) chars
  exact ⟨chars', by simp only [laskoEventHandler, ledWriteBuiltin_setChars, h,
    ledWriteSpeed_setChars]⟩

@[simp]
theorem dispatch_ledEnable_of_ne_remote {event : FanEvent} (h : event.source ≠ .remote)
    (g : Globals) :
  (dispatch event g).ledEnable = g.ledEnable
  := by
  unfold dispatch
  split <;> simp_all

end HomeKitFan
