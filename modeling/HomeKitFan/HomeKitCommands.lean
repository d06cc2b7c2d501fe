import HomeKitFan.EventHandlers

/-!
# HomeKit commands: the last write wins

HomeKit sends the writes of one change in no fixed order (the comment on `handle_homekit`
says power and speed arrive "in a semi-random order").  Whatever the order, processing a
sequence of HomeKit events with `handle_homekit` leaves each field of `g_Fan_state` at the
value of the last event of its kind: `on` from the last Power event, `oscillate` from the
last Oscillate event, `speed` from the last Speed event whose speed is not `SPEED_OFF`.
The redundant-power and `SPEED_OFF` branches that return early do not break this, since
each leaves the field at the value the last event asks for.  Two sequences that interleave
the kinds differently, keeping the order within each kind, therefore end in the same state.
-/

namespace HomeKitFan

/-- `handle_homekit` applied to each event in turn. -/
def runHomekit (events : List FanEvent) (g : Globals) : Globals :=
  events.foldl (fun g event => handleHomekit event g) g

@[simp]
theorem runHomekit_nil (g : Globals) :
  runHomekit [] g = g
  := rfl

theorem runHomekit_cons (event : FanEvent) (events : List FanEvent) (g : Globals) :
  runHomekit (event :: events) g = runHomekit events (handleHomekit event g)
  := rfl

theorem runHomekit_append (events events' : List FanEvent) (g : Globals) :
  runHomekit (events ++ events') g = runHomekit events' (runHomekit events g)
  := List.foldl_append ..

@[simp]
theorem runHomekit_append_event (events : List FanEvent) (event : FanEvent) (g : Globals) :
  runHomekit (events ++ [event]) g = handleHomekit event (runHomekit events g)
  := by
  simp [runHomekit]

/-- The argument of the last event of `events` that satisfies `p`. -/
def lastArg (p : FanEvent → Bool) (events : List FanEvent) : Option UInt32 :=
  (events.filter p).getLast?.map (·.arg)

@[simp]
theorem lastArg_nil (p : FanEvent → Bool) :
  lastArg p [] = none
  := rfl

@[simp]
theorem lastArg_append_event (p : FanEvent → Bool) (events : List FanEvent)
    (event : FanEvent) :
  lastArg p (events ++ [event]) = if p event then some event.arg else lastArg p events
  := by
  by_cases h : p event <;> simp [lastArg, h]

/-- Events of the Speed kind that carry a speed, not `SPEED_OFF`. -/
def IsSpeedOn (event : FanEvent) : Bool :=
  event.id == .speed && speedOff != event.arg

theorem lastArg_congr {p : FanEvent → Bool} {events events' : List FanEvent}
    (h : events.filter p = events'.filter p) :
  lastArg p events = lastArg p events'
  := by
  rw [lastArg, h, lastArg]

theorem filter_isSpeedOn (events : List FanEvent) :
  events.filter IsSpeedOn = (events.filter (·.id == .speed)).filter (speedOff != ·.arg)
  := by
  rw [List.filter_filter]
  congr 1
  funext event
  exact Bool.and_comm ..

variable (g : Globals)

theorem runHomekit_isOn (events : List FanEvent) :
  (runHomekit events g).fanState.isOn
    = ((lastArg (·.id == .power) events).map (· != 0)).getD g.fanState.isOn
  := by
  induction events using List.reverseRecOn with
  | nil => rfl
  | append_singleton events event ih =>
    rw [runHomekit_append_event, handleHomekit_isOn, ih, lastArg_append_event]
    by_cases h : event.id = .power <;> simp [h]

theorem runHomekit_oscillate (events : List FanEvent) :
  (runHomekit events g).fanState.oscillate
    = ((lastArg (·.id == .oscillate) events).map (· != 0)).getD g.fanState.oscillate
  := by
  induction events using List.reverseRecOn with
  | nil => rfl
  | append_singleton events event ih =>
    rw [runHomekit_append_event, handleHomekit_oscillate, ih, lastArg_append_event]
    by_cases h : event.id = .oscillate <;> simp [h]

theorem runHomekit_speed (events : List FanEvent) :
  (runHomekit events g).fanState.speed = (lastArg IsSpeedOn events).getD g.fanState.speed
  := by
  induction events using List.reverseRecOn with
  | nil => rfl
  | append_singleton events event ih =>
    rw [runHomekit_append_event, handleHomekit_speed, ih, lastArg_append_event]
    by_cases h : event.id = .speed ∧ speedOff ≠ event.arg
    · simp [h, IsSpeedOn]
    · have hs : IsSpeedOn event = false := by simpa [IsSpeedOn] using h
      simp [h, hs]

/-- The fan state after a sequence of HomeKit events, field by field. -/
theorem runHomekit_fanState (events : List FanEvent) :
  (runHomekit events g).fanState
    = ⟨((lastArg (·.id == .power) events).map (· != 0)).getD g.fanState.isOn,
      ((lastArg (·.id == .oscillate) events).map (· != 0)).getD g.fanState.oscillate,
      (lastArg IsSpeedOn events).getD g.fanState.speed⟩
  := by
  rw [← runHomekit_isOn, ← runHomekit_oscillate, ← runHomekit_speed]

/-- The fan state HomeKit events leave depends on the fan state they start from only. -/
theorem runHomekit_fanState_congr {g g' : Globals} (h : g.fanState = g'.fanState)
    (events : List FanEvent) :
  (runHomekit events g).fanState = (runHomekit events g').fanState
  := by
  rw [runHomekit_fanState, runHomekit_fanState, h]

/-- HomeKit commands do not read the published characteristic values. -/
@[simp]
theorem runHomekit_fanState_chars (events : List FanEvent) (chars : HapChars) :
  (runHomekit events { g with chars := chars }).fanState = (runHomekit events g).fanState
  := by
  rw [runHomekit_fanState, runHomekit_fanState]

/-- Each field of `g_Fan_state` ends at the value of the last HomeKit event of its kind,
so sequences that agree kind by kind end in the same fan state. -/
theorem homekit_last_write_wins (events : List FanEvent) :
  (runHomekit events g).fanState
      = ⟨((lastArg (·.id == .power) events).map (· != 0)).getD g.fanState.isOn,
        ((lastArg (·.id == .oscillate) events).map (· != 0)).getD g.fanState.oscillate,
        (lastArg IsSpeedOn events).getD g.fanState.speed⟩ ∧
    ∀ events' : List FanEvent, (∀ id, events.filter (·.id == id) = events'.filter (·.id == id)) →
      (runHomekit events g).fanState = (runHomekit events' g).fanState
  := by
  refine ⟨runHomekit_fanState g events, fun events' h => ?_⟩
  have hs : lastArg IsSpeedOn events = lastArg IsSpeedOn events' :=
    lastArg_congr (by rw [filter_isSpeedOn, filter_isSpeedOn, h])
  rw [runHomekit_fanState, runHomekit_fanState, lastArg_congr (h .power),
    lastArg_congr (h .oscillate), hs]

end HomeKitFan
