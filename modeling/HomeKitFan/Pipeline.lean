import HomeKitFan.EventLoop
import HomeKitFan.HomeKitCommands

/-!
# The command pipeline and the published state

The producers and the consumer of `g_Fan_event_queue` as one system of atomic steps.  A
HomeKit write runs `HomeKit_write_callback`, which stores each written value in the HAP
core at once and sends the command to the queue; `handle_homekit` applies it later and does
not publish the state again.  The buttons and the remote send their commands, and
`handle_button` and `handle_remote` end by publishing the state they leave with
`HomeKit_update_char`.  A command sent to a full queue is dropped: the queue holds ten
events, and nothing leaves it during a producer's step.

Once the queue is empty, the published On and SwingMode values need not show `g_Fan_state`.
A HomeKit write that lands behind a queued Button or Remote command is overwritten when that
command publishes its own state, and is then applied without being published.  They do show
it in every run in which each HomeKit write finds only HomeKit commands in the queue and room
for the commands it sends.
-/

namespace HomeKitFan

/-- The length `xQueueCreate` gives `g_Fan_event_queue`. -/
def queueLength : Nat := 10

/-- `xQueueSend` and `xQueueSendFromISR`: the event joins the back of the queue, or is
dropped when the queue is full. -/
def xQueueSend (queue : List FanEvent) (event : FanEvent) : List FanEvent :=
  if queue.length < queueLength then queue ++ [event] else queue

/-- The globals together with the contents of `g_Fan_event_queue`, oldest first. -/
structure System where
  globals : Globals
  queue : List FanEvent

/-- The atomic steps of the producers and of the consumer. -/
inductive Step where
  /-- A call of `HomeKit_write_callback` on a batch of writes. -/
  | homekitWrite (writes : List HapWrite)
  /-- `power_interrupt` or `oscillate_interrupt` sending a Button command. -/
  | button (id : EventId)
  /-- `parse_ir_code` sending a Remote command. -/
  | remote (id : EventId)
  /-- One turn of `Lasko_event_handler`, which waits while the queue is empty. -/
  | consume

/-- The effect of one step. -/
def System.step (s : System) : Step → System
  | .homekitWrite writes =>
    let out := homeKitWriteCallback writes s.globals.chars
    ⟨{ s.globals with chars := out.chars }, out.sent.foldl xQueueSend s.queue⟩
  | .button id => { s with queue := xQueueSend s.queue ⟨.button, id, 0⟩ }
  | .remote id => { s with queue := xQueueSend s.queue ⟨.remote, id, 0⟩ }
  | .consume =>
    match s.queue with
    | [] => s
    | event :: queue => ⟨laskoEventHandler event s.globals, queue⟩

/-- A sequence of steps, one after the other. -/
def System.run (s : System) (steps : List Step) : System :=
  steps.foldl System.step s

/-- The system when `Lasko_event_handler` starts, with an empty queue. -/
def System.boot : System :=
  ⟨HomeKitFan.boot, []⟩

/-- The published On and SwingMode values show the power and oscillation of a fan state. -/
def HapChars.Shows (chars : HapChars) (fanState : FanState) : Prop :=
  chars.onChar = fanState.isOn ∧ chars.oscillateChar = fanState.oscillate

instance (chars : HapChars) (fanState : FanState) : Decidable (chars.Shows fanState) :=
  inferInstanceAs (Decidable (_ ∧ _))

/-- A HomeKit write that lands behind a Button power command: the Button handler publishes
On, and the HomeKit command then turns the fan off without publishing. -/
theorem published_state_raced :
  ¬ ∀ steps : List Step, (System.boot.run steps).queue = [] →
    (System.boot.run steps).globals.chars.Shows (System.boot.run steps).globals.fanState
  := fun h => absurd
    (h [.button .power, .homekitWrite [⟨.uuidOn, ⟨false, 0⟩⟩], .consume, .consume] (by decide))
    (by decide)

/-! ### Unraced runs -/

/-- A HomeKit write finds only HomeKit commands in the queue, and room for every command it
sends. -/
def Step.Unraced (s : System) : Step → Prop
  | .homekitWrite writes =>
    (∀ event ∈ s.queue, event.source = .homekit) ∧
      s.queue.length + (homeKitWriteCallback writes s.globals.chars).sent.length ≤ queueLength
  | _ => True

instance (s : System) : (step : Step) → Decidable (step.Unraced s)
  | .homekitWrite _ => inferInstanceAs (Decidable (_ ∧ _))
  | .button _ | .remote _ | .consume => isTrue trivial

/-- Every HomeKit write of a run is unraced. -/
def System.Unraced (s : System) : List Step → Prop
  | [] => True
  | step :: steps => step.Unraced s ∧ (s.step step).Unraced steps

instance System.decUnraced : (s : System) → (steps : List Step) → Decidable (s.Unraced steps)
  | _, [] => isTrue trivial
  | s, step :: steps =>
    have := System.decUnraced (s.step step) steps
    inferInstanceAs (Decidable (_ ∧ _))

/-- The invariant of unraced runs: the queued HomeKit commands all precede the queued Button
and Remote commands, and while only HomeKit commands are queued, On and SwingMode show the
state those commands will leave. -/
structure Published (s : System) : Prop where
  ordered : ∃ hk br, s.queue = hk ++ br ∧ (∀ event ∈ hk, event.source = .homekit) ∧
    ∀ event ∈ br, event.source ≠ .homekit
  shows : (∀ event ∈ s.queue, event.source = .homekit) →
    s.globals.chars.Shows (runHomekit s.queue s.globals).fanState

section Steps

variable {s : System}

theorem foldl_xQueueSend_of_room {queue : List FanEvent} {events : List FanEvent}
    (h : queue.length + events.length ≤ queueLength) :
  events.foldl xQueueSend queue = queue ++ events
  := by
  induction events generalizing queue with
  | nil => simp
  | cons event events ih =>
    simp only [List.length_cons] at h
    rw [List.foldl_cons, xQueueSend, if_pos (by omega), ih (by simpa using by omega)]
    simp

/-- The value a HomeKit write stores is the one its command will set. -/
theorem hapCharUpdateVal_shows {write : HapWrite} {event : FanEvent} {chars : HapChars}
    {g : Globals} (hw : writeEvent write = some event) (h : chars.Shows g.fanState) :
  (hapCharUpdateVal write.hc write.val chars).Shows (handleHomekit event g).fanState
  := by
  rcases write with ⟨hc, b, f⟩
  obtain ⟨hon, hosc⟩ := h
  cases hc <;> simp only [writeEvent] at hw <;> cases hw
  all_goals cases b <;>
    simp [HapChars.Shows, hapCharUpdateVal, handleHomekit_isOn, handleHomekit_oscillate, hon, hosc]

/-- After a HomeKit write, On and SwingMode show the state its commands will leave. -/
theorem homeKitWriteCallback_shows (writes : List HapWrite) {chars : HapChars} {g : Globals}
    (h : chars.Shows g.fanState) :
  (homeKitWriteCallback writes chars).chars.Shows
    (runHomekit (homeKitWriteCallback writes chars).sent g).fanState
  := by
  induction writes generalizing chars g with
  | nil => exact h
  | cons write writes ih =>
    simp only [homeKitWriteCallback]
    split
    · exact h
    · rename_i event hw
      exact ih (hapCharUpdateVal_shows hw h)

theorem published_xQueueSend {event : FanEvent} (hp : Published s)
    (he : event.source ≠ .homekit) :
  Published { s with queue := xQueueSend s.queue event }
  := by
  unfold xQueueSend
  split_ifs
  · obtain ⟨hk, br, hq, hhk, hbr⟩ := hp.ordered
    refine ⟨⟨hk, br ++ [event], by simp [hq], hhk, ?_⟩,
      fun hall => absurd (hall event (by simp)) he⟩
    simp only [List.mem_append, List.mem_singleton]
    rintro e (h | rfl)
    exacts [hbr e h, he]
  · exact hp

theorem published_homekitWrite {writes : List HapWrite} (hp : Published s)
    (hu : (Step.homekitWrite writes).Unraced s) :
  Published (s.step (.homekitWrite writes))
  := by
  obtain ⟨hall, hroom⟩ := hu
  have hsent := homeKitWriteCallback_binned writes s.globals.chars
  simp only [System.step, foldl_xQueueSend_of_room hroom]
  refine ⟨⟨_, [], (List.append_nil _).symm, ?_, by simp⟩, fun _ => ?_⟩
  · exact fun e he => (List.mem_append.1 he).elim (hall e) fun h => (hsent e h).1
  · rw [runHomekit_append]
    exact homeKitWriteCallback_shows writes (by simpa using hp.shows hall)

/-- The consumer publishes the state a Button or Remote command leaves. -/
theorem laskoEventHandler_shows {event : FanEvent} (he : event.source ≠ .homekit)
    (g : Globals) :
  (laskoEventHandler event g).chars.Shows (laskoEventHandler event g).fanState
  := by
  cases hs : event.source <;>
    simp_all [HapChars.Shows, dispatch, charsOf, handleButton_chars, handleRemote_chars]

/-- The consumer applies a HomeKit command as `handle_homekit` does. -/
theorem laskoEventHandler_fanState_homekit {event : FanEvent} (he : event.source = .homekit)
    (g : Globals) :
  (laskoEventHandler event g).fanState = (handleHomekit event g).fanState
  := by
  simp only [laskoEventHandler_fanState, dispatch, he]
  exact @runHomekit_fanState_congr (ledWriteBuiltin true g) _ (by simp) [event]

theorem published_consume (hp : Published s) :
  Published (s.step .consume)
  := by
  obtain ⟨g, queue⟩ := s
  obtain ⟨hk, br, hq, hhk, hbr⟩ := hp.ordered
  cases queue with
  | nil => exact hp
  | cons event queue =>
    simp only [System.step]
    cases hk with
    | nil =>
      -- a Button or Remote command: its handler publishes the state it leaves
      simp only [List.nil_append] at hq
      subst hq
      refine ⟨⟨[], queue, rfl, by simp, fun e h => hbr e (by simp [h])⟩, fun hall => ?_⟩
      obtain rfl : queue = [] :=
        List.eq_nil_iff_forall_not_mem.2 fun e h => hbr e (by simp [h]) (hall e h)
      exact laskoEventHandler_shows (hbr event (by simp)) g
    | cons event' hk =>
      -- a HomeKit command: applied without publishing, as the published values foresaw
      simp only [List.cons_append, List.cons.injEq] at hq
      obtain ⟨rfl, rfl⟩ := hq
      have he := hhk event (by simp)
      refine ⟨⟨hk, br, rfl, fun e h => hhk e (by simp [h]), hbr⟩, fun hall => ?_⟩
      have hshows := hp.shows (by simpa [he] using hall)
      rw [runHomekit_cons] at hshows
      rw [runHomekit_fanState_congr (laskoEventHandler_fanState_homekit he g)]
      simpa [dispatch, he] using hshows

/-- One unraced step keeps the invariant. -/
theorem published_step {step : Step} (hp : Published s) (hu : step.Unraced s) :
  Published (s.step step)
  := by
  cases step with
  | homekitWrite writes => exact published_homekitWrite hp hu
  | button id => exact published_xQueueSend hp (by simp)
  | remote id => exact published_xQueueSend hp (by simp)
  | consume => exact published_consume hp

theorem published_run (steps : List Step) (hu : s.Unraced steps) (hp : Published s) :
  Published (s.run steps)
  := by
  induction steps generalizing s with
  | nil => exact hp
  | cons step steps ih => exact ih hu.2 (published_step hp hu.1)

theorem published_boot :
  Published System.boot
  := ⟨⟨[], [], rfl, by simp, by simp⟩, fun _ => by decide⟩

end Steps

/-- From boot, in every run whose HomeKit writes find only HomeKit commands in the queue and
room for the commands they send, On and SwingMode show `g_Fan_state` whenever the queue is
empty. -/
theorem published_state_of_unraced (steps : List Step) (hu : System.boot.Unraced steps)
    (hq : (System.boot.run steps).queue = []) :
  (System.boot.run steps).globals.chars.Shows (System.boot.run steps).globals.fanState
  := by
  have hp := published_run steps hu published_boot
  simpa [hq] using hp.shows (by simp [hq])

/-- A HomeKit write into an empty queue, then a Button press, both applied. -/
theorem published_state_of_unraced_write_then_press :
  System.boot.Unraced [.homekitWrite [⟨.uuidOn, ⟨true, 0⟩⟩], .button .power, .consume,
      .consume] ∧
    (System.boot.run [.homekitWrite [⟨.uuidOn, ⟨true, 0⟩⟩], .button .power, .consume,
      .consume]).queue = [] ∧
    (System.boot.run [.homekitWrite [⟨.uuidOn, ⟨true, 0⟩⟩], .button .power, .consume,
      .consume]).globals.chars.Shows
      (System.boot.run [.homekitWrite [⟨.uuidOn, ⟨true, 0⟩⟩], .button .power, .consume,
        .consume]).globals.fanState
  := ⟨by decide, by decide, published_state_of_unraced _ (by decide) (by decide)⟩

end HomeKitFan
