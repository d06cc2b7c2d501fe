import HomeKitFan.Pipeline
import HomeKitFan.Button
import HomeKitFan.LedInvariant
import HomeKitFan.RemoteWindows

/-!
# The firmware

The whole program from power-on, as one system of steps.  `app_main` runs its statements one
by one, and each initialiser starts a producer of commands.  After `HomeKit_init` the HAP core
calls `HomeKit_write_callback` on batches of writes, and the callback handles each write in
two steps: it stores the value with `hap_char_update_val`, then sends the command it built.
After `Button_init` the two button interrupts run on edges and share `prev_time_us`.
`Remote_init` starts `Remote_task`, whose first statement arms a reception of the RMT
receiver; the driver completes it into `raw_symbols`, `rmt_rx_callback` puts it in
`receive_queue`, and `Remote_task` takes it, runs `parse_ir_code` and arms the next reception.
Once `xTaskCreate` has started `Lasko_event_handler`, the consumer takes the commands of
`g_Fan_event_queue` in turn.  The turn of a Button or Remote command ends in
`HomeKit_update_char`, whose three updates of the characteristic values are steps of their
own, so that the HAP core may run between the state update and each of them.  The LED writes
after the handler are made with the state update: no other task reads the GPIO or writes
`g_Fan_state`, so where they fall among the other tasks' steps changes nothing another task
sees.

A step whose behaviour is undefined ends the run: a send to `g_Fan_event_queue` before
`xQueueCreate` has created it, and the undefined shift of `parse_ir_code`.  A run is a list
of steps that are each enabled and defined.  `Button_init` ends by reading the clock into
`prev_time_us`; here `prev_time_us` keeps its zero initialisation until an edge is accepted.
The clock reads at least zero, so every edge the code accepts is accepted here too, once the
edges the code ignores, which change nothing, are left out of the run.

The state carries four histories that no step reads: the commands the queue accepted and
those the consumer took, and the receptions completed and those parsed.  Along every run the
commands taken, followed by those still queued, are the commands accepted, in order, and the
globals are those of the sequential loop `runEvents` over the commands taken, apart from the
values the HAP core holds.  The relays and LEDs therefore keep the invariants of the event
loop in every interleaving of the producers.  `receive_queue` never holds more than one
reception, since `Remote_task` arms the next one only after parsing: no reception is lost,
and none waits while another could be written over it.  A call of `HomeKit_write_callback`,
and a turn of `Lasko_event_handler`, that no other step interrupts end as the atomic steps of
the command pipeline.

The published On and SwingMode values show `g_Fan_state` whenever the queue is empty and
neither the callback nor the consumer is between two of its steps, in every run that keeps
each HomeKit write apart from the Button and Remote commands: the write stores its value while
none is queued or being published, none is sent until its own command is, and the queue has
room for it.  A HomeKit write that lands between the state update of a Button command and its
`HomeKit_update_char` is published over, and then applied unpublished.
-/

namespace HomeKitFan

/-! ### `app_main` -/

/-- The statements of `app_main`. -/
inductive InitStep where
  | relayInit
  | ledInit
  | homeKitInit
  | vTaskDelay
  | buttonInit
  | remoteInit
  | fanStateInit
  | xQueueCreate
  | xTaskCreate
  deriving DecidableEq, Repr

/-- The statements of `app_main`, in the order it runs them. -/
def appMain : List InitStep :=
  [.relayInit, .ledInit, .homeKitInit, .vTaskDelay, .buttonInit, .remoteInit, .fanStateInit,
    .xQueueCreate, .xTaskCreate]

/-- The effect of a statement of `app_main` on the globals.  `HomeKit_init` creates the
characteristics with the values `Globals.initial` holds, and `Button_init` leaves
`prev_time_us` at zero; the other statements start a producer or the consumer and leave the
globals alone. -/
def InitStep.run : InitStep → Globals → Globals
  | .relayInit => HomeKitFan.relayInit
  | .ledInit => HomeKitFan.ledInit
  | .fanStateInit => fun g => { g with fanState := ⟨false, false, speed4⟩ }
  | _ => id

/-- The globals once `app_main` has run its first `n` statements, before any handler. -/
def appMainGlobals (n : Nat) : Globals :=
  (appMain.take n).foldl (fun g step => step.run g) Globals.initial

theorem InitStep.run_setChars (step : InitStep) (g : Globals) (chars : HapChars) :
  step.run { g with chars := chars } = { step.run g with chars := chars }
  := by
  cases step
  case relayInit => exact relayInit_setChars g chars
  case ledInit => exact ledInit_setChars g chars
  all_goals rfl

theorem appMainGlobals_succ {n : Nat} {step : InitStep} (h : appMain[n]? = some step) :
  appMainGlobals (n + 1) = step.run (appMainGlobals n)
  := by
  rw [appMainGlobals, List.take_succ, h, List.foldl_append]
  rfl

/-- The length `Remote_init` gives `receive_queue` with `xQueueCreate`. -/
def receiveQueueLength : Nat := 10

/-- The firmware: how far `app_main` has got, the globals, `g_Fan_event_queue` (oldest
first), `prev_time_us`, the writes of the batch `HomeKit_write_callback` is handling and the
command it has built for the first of them and not yet sent, the characteristics
`HomeKit_update_char` has still to update in the consumer's turn, whether a reception is
armed, and `receive_queue`; then the histories, which no step reads. -/
structure Firmware where
  done : Nat
  globals : Globals
  queue : List FanEvent
  prevTimeUs : Int
  batch : List HapWrite
  pending : Option FanEvent
  publishing : List HapCharType
  armed : Bool
  frames : List (List RmtSymbolWord)
  /-- History: the commands `g_Fan_event_queue` accepted, in order. -/
  accepted : List FanEvent
  /-- History: the commands `Lasko_event_handler` took, in order. -/
  taken : List FanEvent
  /-- History: the receptions the RMT driver completed, in order. -/
  received : List (List RmtSymbolWord)
  /-- History: the receptions `Remote_task` parsed, in order. -/
  parsed : List (List RmtSymbolWord)

/-- Power-on: C zero-initialisation, nothing run, nothing queued. -/
def Firmware.initial : Firmware :=
  ⟨0, Globals.initial, [], 0, [], none, [], false, [], [], [], [], []⟩

/-- `app_main` has run the statement `step`. -/
def Firmware.Ran (fw : Firmware) (step : InitStep) : Prop :=
  step ∈ appMain.take fw.done

instance (fw : Firmware) (step : InitStep) : Decidable (fw.Ran step) :=
  inferInstanceAs (Decidable (_ ∈ _))

/-- `xQueueSend` or `xQueueSendFromISR` on `g_Fan_event_queue`, undefined before
`xQueueCreate` has created it. -/
def Firmware.send (fw : Firmware) (event : FanEvent) : Option Firmware :=
  if fw.Ran .xQueueCreate then
    some { fw with
      queue := xQueueSend fw.queue event
      accepted := if fw.queue.length < queueLength then fw.accepted ++ [event] else fw.accepted }
  else none

/-- A step of the firmware. -/
inductive Action where
  /-- The next statement of `app_main`. -/
  | appMain
  /-- The HAP core calls `HomeKit_write_callback` on a batch of writes. -/
  | hapWrite (writes : List HapWrite)
  /-- `HomeKit_write_callback` stores the value of the next write of its batch, or sends the
  command it has built for it. -/
  | hapNext
  /-- A rising edge runs `power_interrupt` or `oscillate_interrupt`. -/
  | buttonEdge (edge : Edge)
  /-- The RMT driver completes the armed reception and calls `rmt_rx_callback`. -/
  | rmtRecvDone (symbols : List RmtSymbolWord)
  /-- `Remote_task` takes a reception, runs `parse_ir_code` and arms the next one. -/
  | remoteTask
  /-- `Lasko_event_handler` takes a command and handles it up to `HomeKit_update_char`, or
  makes the next update of `HomeKit_update_char`. -/
  | consume

/-- The effect of a step: none when it is not enabled, or when its behaviour is undefined.
A turn of `Lasko_event_handler` whose handler ends in `HomeKit_update_char`, that of a Button
or Remote command, leaves its three updates to the next steps of the consumer. -/
def Firmware.step (fw : Firmware) : Action → Option Firmware
  | .appMain =>
    match appMain[fw.done]? with
    | none => none
    | some statement =>
      some { fw with
        done := fw.done + 1
        globals := statement.run fw.globals
        armed := fw.armed || decide (statement = .remoteInit) }
  | .hapWrite writes =>
    if fw.Ran .homeKitInit ∧ fw.batch = [] then some { fw with batch := writes, pending := none }
    else none
  | .hapNext =>
    match fw.batch, fw.pending with
    | [], _ => none
    | _ :: writes, some event => { fw with batch := writes, pending := none }.send event
    | write :: _, none =>
      match writeEvent write with
      | none => some { fw with batch := [] }
      | some event =>
        some { fw with
          globals :=
            { fw.globals with chars := hapCharUpdateVal write.hc write.val fw.globals.chars }
          pending := some event }
  | .buttonEdge edge =>
    if fw.Ran .buttonInit then
      match edge.interrupt fw.prevTimeUs with
      | (none, prevTimeUs) => some { fw with prevTimeUs := prevTimeUs }
      | (some event, prevTimeUs) => { fw with prevTimeUs := prevTimeUs }.send event
    else none
  | .rmtRecvDone symbols =>
    if fw.armed ∧ symbols.length ≤ rmtMaxMemSymbols then
      some { fw with
        armed := false
        frames := if fw.frames.length < receiveQueueLength then fw.frames ++ [symbols]
          else fw.frames
        received := fw.received ++ [symbols] }
    else none
  | .remoteTask =>
    match fw.frames with
    | [] => none
    | frame :: frames =>
      match (parseIrCode frame).ending with
      | .undefinedShift _ => none
      | .returned =>
        (parseIrCode frame).sent.foldlM Firmware.send
          { fw with frames := frames, armed := true, parsed := fw.parsed ++ [frame] }
  | .consume =>
    if fw.Ran .xTaskCreate then
      match fw.publishing, fw.queue with
      | hc :: publishing, _ =>
        some { fw with
          globals := { fw.globals with
            chars := hapCharUpdateVal hc (updateCharVal fw.globals.fanState hc) fw.globals.chars }
          publishing := publishing }
      | [], [] => none
      | [], event :: queue =>
        some { fw with
          globals := { laskoEventHandler event fw.globals with chars := fw.globals.chars }
          queue := queue
          taken := fw.taken ++ [event]
          publishing := if event.source = .homekit then [] else updateCharOrder }
    else none

/-- A sequence of steps, none when one of them is not enabled or not defined. -/
def Firmware.run (fw : Firmware) : List Action → Option Firmware
  | [] => some fw
  | action :: actions => (fw.step action).bind (·.run actions)

theorem Firmware.run_cons_of_step {fw fw₁ : Firmware} {action : Action} {actions : List Action}
    (h : fw.step action = some fw₁) :
  fw.run (action :: actions) = fw₁.run actions
  := by
  rw [Firmware.run, h, Option.some_bind]

/-! ### A HomeKit write during the boot delay -/

/-- A paired controller turns the fan on while `app_main` waits in `vTaskDelay`: the callback
stores the value and builds its command, and its `xQueueSend`, the step it must take next, is
undefined, since `xQueueCreate` has not yet created `g_Fan_event_queue`. -/
theorem boot_homekit_write_before_queue :
  ∃ fw, Firmware.initial.run [.appMain, .appMain, .appMain, .hapWrite [⟨.uuidOn, ⟨true, 0⟩⟩],
      .hapNext] = some fw ∧
    fw.globals.chars.onChar = true ∧ fw.pending = some ⟨.homekit, .power, 1⟩ ∧
    ¬ fw.Ran .xQueueCreate ∧ fw.step .hapNext = none
  := ⟨_, rfl, rfl, rfl, by decide, rfl⟩

/-! ### Statements run once, in order -/

/-- The statements run so far, once `app_main` has run one more. -/
theorem mem_take_succ {n : Nat} {statement : InitStep} (h : appMain[n]? = some statement)
    (step : InitStep) :
  step ∈ appMain.take (n + 1) ↔ step ∈ appMain.take n ∨ step = statement
  := by
  rw [List.take_succ, h]
  simp

/-- No statement of `app_main` runs twice: the next one has not run yet. -/
theorem not_mem_take_of_getElem? {n : Nat} {statement : InitStep}
    (h : appMain[n]? = some statement) :
  statement ∉ appMain.take n
  := by
  have hn : n < 9 := (List.getElem?_eq_some_iff.1 h).1
  obtain _ | _ | _ | _ | _ | _ | _ | _ | _ | n := n <;> first | omega | (cases h; decide)

/-- `xTaskCreate` is the last statement of `app_main`. -/
theorem length_le_of_xTaskCreate {n : Nat} (h : .xTaskCreate ∈ appMain.take n) :
  appMain.length ≤ n
  := by
  by_contra hn
  exact (by decide : ∀ n < 9, .xTaskCreate ∉ appMain.take n) n (by simpa using hn) h

/-- A function of the globals that reads none of the characteristic values keeps two states
equal up to those values. -/
theorem map_eq_setChars (f : Globals → Globals)
    (hf : ∀ g chars, ∃ chars', f { g with chars := chars } = { f g with chars := chars' })
    {g g' : Globals} (h : g = { g' with chars := g.chars }) :
  f g = { f g' with chars := (f g).chars }
  := by
  obtain ⟨chars', hc⟩ := hf g' g.chars
  rw [← h] at hc
  rw [hc]

/-! ### The invariant of runs -/

/-- What holds along every run from power-on.  `g_Fan_event_queue` holds the commands it
accepted and the consumer has not taken, in order; every command accepted is binned; nothing
is taken or published before `xTaskCreate`; and the globals are those of the sequential loop
over the commands taken, up to the characteristic values.  A command the callback has built
and not sent is a binned HomeKit command, for a write still in its batch.  `receive_queue`
holds the receptions completed and not parsed, at most one of them and none while a reception
is armed; nothing is received or armed before `Remote_init`. -/
structure Firmware.Inv (fw : Firmware) : Prop where
  done_le : fw.done ≤ appMain.length
  fifo : fw.taken ++ fw.queue = fw.accepted
  binned : ∀ event ∈ fw.accepted, event.Binned
  taken_nil : ¬ fw.Ran .xTaskCreate → fw.taken = []
  publishing_nil : ¬ fw.Ran .xTaskCreate → fw.publishing = []
  globals : fw.globals =
    { runEvents fw.taken (appMainGlobals fw.done) with chars := fw.globals.chars }
  pending : ∀ event ∈ fw.pending, event.source = .homekit ∧ event.Binned
  pending_batch : fw.batch = [] → fw.pending = none
  received : fw.parsed ++ fw.frames = fw.received
  frames_le : fw.frames.length ≤ 1
  armed_frames : fw.armed = true → fw.frames = []
  before_remote : ¬ fw.Ran .remoteInit → fw.received = [] ∧ fw.armed = false

section Inv

variable {fw fw' : Firmware}

theorem Firmware.inv_initial :
  Firmware.initial.Inv
  := ⟨by decide, rfl, (fun _ h => nomatch h), fun _ => rfl, fun _ => rfl, rfl,
    (fun e he => absurd he (Option.not_mem_none e)), fun _ => rfl, rfl, by decide, nofun,
    fun _ => ⟨rfl, rfl⟩⟩

/-- A send keeps the invariant: the queue and its history grow together, or neither does. -/
theorem Firmware.Inv.send {event : FanEvent} (h : fw.Inv) (he : event.Binned)
    (hs : fw.send event = some fw') :
  fw'.Inv
  := by
  unfold Firmware.send at hs
  split_ifs at hs with _ hroom <;> cases hs
  · exact { h with
      fifo := by rw [xQueueSend, if_pos hroom, ← List.append_assoc, h.fifo]
      binned := fun e he' => (List.mem_append.1 he').elim (h.binned e)
        fun he'' => List.mem_singleton.1 he'' ▸ he }
  · exact { h with fifo := by rw [xQueueSend, if_neg hroom, h.fifo] }

theorem Firmware.Inv.foldlM_send {events : List FanEvent} (h : fw.Inv)
    (he : ∀ event ∈ events, event.Binned) (hs : events.foldlM Firmware.send fw = some fw') :
  fw'.Inv
  := by
  induction events generalizing fw with
  | nil => cases hs; exact h
  | cons event events ih =>
    obtain ⟨fw₁, h₁, hs⟩ := Option.bind_eq_some.1 hs
    exact ih (h.send (he event (.head _)) h₁) (fun e he' => he e (.tail _ he')) hs

theorem Firmware.Inv.step_appMain (h : fw.Inv) (hs : fw.step .appMain = some fw') :
  fw'.Inv
  := by
  simp only [Firmware.step] at hs
  split at hs
  · cases hs
  rename_i statement hget
  cases hs
  have hlt : fw.done < appMain.length := (List.getElem?_eq_some_iff.1 hget).1
  have hconsumer : ¬ fw.Ran .xTaskCreate := fun hx => by
    have := length_le_of_xTaskCreate hx; omega
  have htaken : fw.taken = [] := h.taken_nil hconsumer
  have hran := mem_take_succ hget
  refine ⟨hlt, h.fifo, h.binned, fun _ => htaken, fun _ => h.publishing_nil hconsumer, ?_,
    h.pending, h.pending_batch, h.received, h.frames_le, ?_, ?_⟩
  · have hg := h.globals
    rw [htaken, runEvents_nil] at hg
    simpa only [htaken, runEvents_nil, appMainGlobals_succ hget] using
      map_eq_setChars _ (fun g chars => ⟨chars, statement.run_setChars g chars⟩) hg
  · intro harmed
    rcases Bool.or_eq_true _ _ ▸ harmed with harmed | hremote
    · exact h.armed_frames harmed
    · have hnot := not_mem_take_of_getElem? hget
      rw [of_decide_eq_true hremote] at hnot
      exact (List.append_eq_nil.1 (h.received.trans (h.before_remote hnot).1)).2
  · intro hnot
    simp only [Firmware.Ran, hran, not_or] at hnot
    obtain ⟨hreceived, harmed⟩ := h.before_remote hnot.1
    simp [hreceived, harmed, Ne.symm hnot.2]

theorem Firmware.Inv.step_hapNext (h : fw.Inv) (hs : fw.step .hapNext = some fw') :
  fw'.Inv
  := by
  simp only [Firmware.step] at hs
  split at hs
  · cases hs
  · -- the send of the command built for the first write
    rename_i writes event _ hpending
    have h₁ : Firmware.Inv { fw with batch := writes, pending := none } :=
      { h with
        pending := fun e he => absurd he (Option.not_mem_none e)
        pending_batch := fun _ => rfl }
    exact h₁.send (h.pending event hpending).2 hs
  rename_i write writes hbatch hpending
  split at hs
  · cases hs
    exact { h with pending_batch := fun _ => hpending }
  rename_i event hw
  cases hs
  exact { h with
    globals := map_eq_setChars
      (fun g => { g with chars := hapCharUpdateVal write.hc write.val fw.globals.chars })
      (fun _ _ => ⟨_, rfl⟩) h.globals
    pending := fun _ he => Option.some_inj.1 he ▸ writeEvent_binned hw
    pending_batch := fun hnil => absurd (hbatch.symm.trans hnil) (List.cons_ne_nil _ _) }

theorem Firmware.Inv.step_buttonEdge {edge : Edge} (h : fw.Inv)
    (hs : fw.step (.buttonEdge edge) = some fw') :
  fw'.Inv
  := by
  simp only [Firmware.step] at hs
  split_ifs at hs
  split at hs
  · cases hs; exact { h with }
  rename_i event _ hi
  refine Firmware.Inv.send ?_ (fun hh => ?_) hs
  · exact { h with }
  · rw [edge.interrupt_source _ (congrArg Prod.fst hi)] at hh
    cases hh

theorem Firmware.Inv.step_rmtRecvDone {symbols : List RmtSymbolWord} (h : fw.Inv)
    (hs : fw.step (.rmtRecvDone symbols) = some fw') :
  fw'.Inv
  := by
  simp only [Firmware.step] at hs
  split_ifs at hs with hen hroom <;> cases hs
  · have hnil := h.armed_frames hen.1
    refine { h with
      received := ?_
      frames_le := by simp [hnil]
      armed_frames := nofun
      before_remote := fun hnot => ?_ }
    · simp [← h.received, hnil]
    · simp [(h.before_remote hnot).2] at hen
  · simp [h.armed_frames hen.1, receiveQueueLength] at hroom

theorem Firmware.Inv.step_remoteTask (h : fw.Inv) (hs : fw.step .remoteTask = some fw') :
  fw'.Inv
  := by
  simp only [Firmware.step] at hs
  split at hs
  · cases hs
  rename_i frame frames hframes
  split at hs
  · cases hs
  refine Firmware.Inv.foldlM_send ?_ (fun event he hh => ?_) hs
  · have hnil : frames = [] := by simpa [hframes] using h.frames_le
    have hreceived := h.received
    rw [hframes, hnil] at hreceived
    refine { h with
      received := by simpa [hnil] using hreceived
      frames_le := by simp [hnil]
      armed_frames := fun _ => hnil
      before_remote := fun hnot => ?_ }
    simpa [← hreceived] using (h.before_remote hnot).1
  · rw [parseIrCode_source frame event he] at hh
    cases hh

theorem Firmware.Inv.step_consume (h : fw.Inv) (hs : fw.step .consume = some fw') :
  fw'.Inv
  := by
  simp only [Firmware.step] at hs
  split_ifs at hs with hran
  split at hs
  · -- one update of `HomeKit_update_char`
    cases hs
    exact { h with
      publishing_nil := (absurd hran ·)
      globals := map_eq_setChars (fun g => { g with chars := _ }) (fun _ _ => ⟨_, rfl⟩) h.globals }
  · cases hs
  · -- a new turn, up to `HomeKit_update_char`
    rename_i event queue _ hqueue
    cases hs
    refine { h with
      fifo := ?_
      taken_nil := (absurd hran ·)
      publishing_nil := (absurd hran ·)
      globals := ?_ }
    · rw [List.append_assoc, List.singleton_append, ← hqueue, h.fifo]
    · simpa only [runEvents_append_event] using
        congrArg (fun g => { g with chars := fw.globals.chars })
          (map_eq_setChars _ (laskoEventHandler_setChars event) h.globals)

/-- Every step keeps the invariant. -/
theorem Firmware.Inv.step (h : fw.Inv) {action : Action} (hs : fw.step action = some fw') :
  fw'.Inv
  := by
  cases action with
  | appMain => exact h.step_appMain hs
  | hapWrite writes =>
    simp only [Firmware.step] at hs
    split_ifs at hs
    cases hs
    exact { h with
      pending := fun e he => absurd he (Option.not_mem_none e)
      pending_batch := fun _ => rfl }
  | hapNext => exact h.step_hapNext hs
  | buttonEdge edge => exact h.step_buttonEdge hs
  | rmtRecvDone symbols => exact h.step_rmtRecvDone hs
  | remoteTask => exact h.step_remoteTask hs
  | consume => exact h.step_consume hs

theorem Firmware.Inv.run (h : fw.Inv) {actions : List Action} (hr : fw.run actions = some fw') :
  fw'.Inv
  := by
  induction actions generalizing fw with
  | nil => cases hr; exact h
  | cons action actions ih =>
    obtain ⟨fw₁, h₁, hr⟩ := Option.bind_eq_some.1 hr
    exact ih (h.step h₁) hr

/-- The invariant holds in every state a run from power-on reaches. -/
theorem Firmware.inv_of_run {actions : List Action} (h : Firmware.initial.run actions = some fw) :
  fw.Inv
  := Firmware.inv_initial.run h

end Inv

/-! ### `app_main` and the outputs -/

/-- In every run, each reception the RMT driver completes is parsed, once and in order: the
receptions `Remote_task` parsed, followed by the one waiting in `receive_queue`, are those
completed.  `receive_queue` holds at most one reception, and none while a reception is armed,
so `rmt_rx_callback` never finds it full. -/
theorem firmware_receptions_parsed_in_order (actions : List Action) {fw : Firmware}
    (h : Firmware.initial.run actions = some fw) :
  fw.parsed ++ fw.frames = fw.received ∧ fw.frames.length ≤ 1 ∧
    (fw.armed = true → fw.frames = [])
  := by
  have hi := Firmware.inv_of_run h
  exact ⟨hi.received, hi.frames_le, hi.armed_frames⟩

/-- Two receptions after `app_main`: a frame of the wrong length, then none yet parsed. -/
theorem firmware_receptions_parsed_in_order_two_frames :
  ∃ fw, Firmware.initial.run (List.replicate 9 .appMain ++
      [.rmtRecvDone [⟨400, 1200⟩], .remoteTask, .rmtRecvDone []]) = some fw ∧
    (fw.parsed ++ fw.frames = fw.received ∧ fw.frames.length ≤ 1 ∧
      (fw.armed = true → fw.frames = []))
  := Exists.imp (fun _ h => ⟨h, firmware_receptions_parsed_in_order _ h⟩) ⟨_, rfl⟩

/-! ### One call of `HomeKit_write_callback` -/

/-- `HomeKit_init` runs before `xQueueCreate`. -/
theorem homeKitInit_mem_take {n : Nat} (h : .xQueueCreate ∈ appMain.take n) :
  .homeKitInit ∈ appMain.take n
  := by
  obtain hn | hn := Nat.lt_or_ge n 9
  · exact (by decide : ∀ n < 9, .xQueueCreate ∈ appMain.take n → .homeKitInit ∈ appMain.take n)
      n hn h
  · rw [List.take_of_length_le (show appMain.length ≤ n from hn)]
    decide

/-- The rest of a batch, handled write by write with no other step in between, ends as
`HomeKit_write_callback` on it does: the same values stored and the same commands sent. -/
theorem Firmware.run_hapNext (writes : List HapWrite) {fw : Firmware}
    (hq : fw.Ran .xQueueCreate) (hb : fw.batch = writes) (hp : fw.pending = none) :
  ∃ n fw', fw.run (List.replicate n .hapNext) = some fw' ∧ fw'.batch = [] ∧
    fw'.globals =
      { fw.globals with chars := (homeKitWriteCallback writes fw.globals.chars).chars } ∧
    fw'.queue = (homeKitWriteCallback writes fw.globals.chars).sent.foldl xQueueSend fw.queue
  := by
  induction writes generalizing fw with
  | nil => exact ⟨0, fw, rfl, hb, rfl, rfl⟩
  | cons write writes ih =>
    have hq' : InitStep.xQueueCreate ∈ appMain.take fw.done := hq
    cases hw : writeEvent write with
    | none =>
      refine ⟨1, { fw with batch := [] }, ?_, rfl, ?_, ?_⟩
      · simp only [List.replicate, Firmware.run, Firmware.step, hb, hp, hw]
        rfl
      · simp [homeKitWriteCallback, hw]
      · simp [homeKitWriteCallback, hw]
    | some event =>
      -- the value is stored, then the command is sent
      obtain ⟨n, fw', hr, hb', hg, hqueue⟩ := @ih { fw with
        globals := { fw.globals with chars := hapCharUpdateVal write.hc write.val fw.globals.chars }
        batch := writes
        pending := none
        queue := xQueueSend fw.queue event
        accepted := if fw.queue.length < queueLength then fw.accepted ++ [event] else fw.accepted }
        hq rfl rfl
      refine ⟨n + 2, fw', ?_, hb', ?_, ?_⟩
      · simp only [List.replicate, Firmware.run, Firmware.step, hb, hp, hw, Firmware.send,
          Firmware.Ran, hq', if_true, Option.some_bind]
        exact hr
      · rw [hg]
        simp [homeKitWriteCallback, hw]
      · rw [hqueue]
        simp [homeKitWriteCallback, hw]

/-- Once `g_Fan_event_queue` exists, a call of `HomeKit_write_callback` that the firmware
handles write by write, with no other step in between, ends as the atomic step of the
command pipeline does: with the same globals and the same queue. -/
theorem firmware_homekit_write_refines_pipeline (writes : List HapWrite) {fw : Firmware}
    (hq : fw.Ran .xQueueCreate) (hb : fw.batch = []) :
  ∃ n fw', fw.run (.hapWrite writes :: List.replicate n .hapNext) = some fw' ∧ fw'.batch = [] ∧
    (⟨fw'.globals, fw'.queue⟩ : System) = System.step ⟨fw.globals, fw.queue⟩ (.homekitWrite writes)
  := by
  obtain ⟨n, fw', hr, hb', hg, hqueue⟩ :=
    @Firmware.run_hapNext writes { fw with batch := writes, pending := none } hq rfl rfl
  refine ⟨n, fw', ?_, hb', ?_⟩
  · have hen : fw.Ran .homeKitInit ∧ fw.batch = [] := ⟨homeKitInit_mem_take hq, hb⟩
    rw [Firmware.run, Firmware.step, if_pos hen]
    exact hr
  · rw [System.step, hg, hqueue]

/-- After `app_main`, a batch that turns the fan on and then names an unknown
characteristic. -/
theorem firmware_homekit_write_refines_pipeline_after_boot :
  ∃ fw, Firmware.initial.run (List.replicate 9 .appMain) = some fw ∧ fw.Ran .xQueueCreate ∧
    fw.batch = [] ∧
    ∃ n fw', fw.run (.hapWrite [⟨.uuidOn, ⟨true, 0⟩⟩, ⟨.other, ⟨false, 0⟩⟩] ::
        List.replicate n .hapNext) = some fw' ∧ fw'.batch = [] ∧
      (⟨fw'.globals, fw'.queue⟩ : System) = System.step ⟨fw.globals, fw.queue⟩
        (.homekitWrite [⟨.uuidOn, ⟨true, 0⟩⟩, ⟨.other, ⟨false, 0⟩⟩])
  := ⟨_, rfl, by decide, rfl, firmware_homekit_write_refines_pipeline _ (by decide) rfl⟩

/-! ### One turn of `Lasko_event_handler` -/

/-- The three updates of `HomeKit_update_char`, made with no other step in between, publish
the fan state. -/
theorem Firmware.run_publish {fw : Firmware} (hran : fw.Ran .xTaskCreate)
    (hp : fw.publishing = updateCharOrder) :
  fw.run (List.replicate 3 .consume) =
    some { fw with
      globals := homeKitUpdateChar fw.globals
      publishing := [] }
  := by
  have hran' : InitStep.xTaskCreate ∈ appMain.take fw.done := hran
  simp only [List.replicate, Firmware.run, Firmware.step, Firmware.Ran, hran', if_true, hp,
    updateCharOrder, Option.some_bind]
  rfl

/-- A Button or Remote handler publishes the state it leaves; the LED writes around it touch
neither. -/
theorem laskoEventHandler_chars_of_ne_homekit {event : FanEvent}
    (he : event.source ≠ .homekit) (g : Globals) :
  (laskoEventHandler event g).chars = charsOf (laskoEventHandler event g).fanState
  := by
  cases hs : event.source
  · exact absurd hs he
  all_goals simp [dispatch, hs, handleButton_chars, handleRemote_chars]

/-- Once `Lasko_event_handler` runs, a turn that no other step interrupts ends as the atomic
turn of the command pipeline does: with the same globals and the same queue. -/
theorem firmware_turn_refines_pipeline {fw : Firmware} (hran : fw.Ran .xTaskCreate)
    (hp : fw.publishing = []) (hq : fw.queue ≠ []) :
  ∃ n fw', fw.run (List.replicate n .consume) = some fw' ∧ fw'.publishing = [] ∧
    (⟨fw'.globals, fw'.queue⟩ : System) = System.step ⟨fw.globals, fw.queue⟩ .consume
  := by
  obtain ⟨event, queue, hqueue⟩ := List.exists_cons_of_ne_nil hq
  have hstep : fw.step .consume = some { fw with
      globals := { laskoEventHandler event fw.globals with chars := fw.globals.chars }
      queue := queue
      taken := fw.taken ++ [event]
      publishing := if event.source = .homekit then [] else updateCharOrder } := by
    simp only [Firmware.step, if_pos hran, hp, hqueue]
  by_cases he : event.source = .homekit
  · -- a HomeKit command: `handle_homekit` publishes nothing
    refine ⟨1, _, Firmware.run_cons_of_step hstep, by simp [he], ?_⟩
    have hchars : (laskoEventHandler event fw.globals).chars = fw.globals.chars := by
      simp [dispatch, he, handleHomekit_chars]
    have hg : { laskoEventHandler event fw.globals with chars := fw.globals.chars }
        = laskoEventHandler event fw.globals := by
      rw [← hchars]
    simp only [System.step, hqueue, hg]
  · -- a Button or Remote command: the turn, then the three updates
    refine ⟨4, _, (Firmware.run_cons_of_step hstep).trans (Firmware.run_publish hran (if_neg he)),
      rfl, ?_⟩
    simp only [System.step, hqueue, homeKitUpdateChar_setChars,
      homeKitUpdateChar_of_chars (laskoEventHandler_chars_of_ne_homekit he fw.globals)]

/-- After `app_main`, the power button is pressed and the consumer handles the command. -/
theorem firmware_turn_refines_pipeline_after_press :
  ∃ fw, Firmware.initial.run (List.replicate 9 .appMain ++ [.buttonEdge ⟨.power, 300000⟩]) =
      some fw ∧ fw.Ran .xTaskCreate ∧ fw.publishing = [] ∧ fw.queue ≠ [] ∧
    ∃ n fw', fw.run (List.replicate n .consume) = some fw' ∧ fw'.publishing = [] ∧
      (⟨fw'.globals, fw'.queue⟩ : System) = System.step ⟨fw.globals, fw.queue⟩ .consume
  := ⟨_, rfl, by decide, rfl, by decide, firmware_turn_refines_pipeline (by decide) rfl (by decide)⟩

/-! ### The published state in every interleaving -/

/-- The values of On and SwingMode that `HomeKit_update_char` no longer has to update in this
turn show the fan state. -/
def HapChars.ShowsExcept (chars : HapChars) (fanState : FanState)
    (publishing : List HapCharType) : Prop :=
  (.uuidOn ∉ publishing → chars.onChar = fanState.isOn) ∧
    (.uuidSwingMode ∉ publishing → chars.oscillateChar = fanState.oscillate)

theorem HapChars.showsExcept_nil {chars : HapChars} {fanState : FanState} :
  chars.ShowsExcept fanState [] ↔ chars.Shows fanState
  := by
  simp [HapChars.ShowsExcept, HapChars.Shows]

/-- An update of `HomeKit_update_char` shows the fan state in the characteristic it
updates. -/
theorem HapChars.ShowsExcept.update {chars : HapChars} {fanState : FanState} {hc : HapCharType}
    {publishing : List HapCharType} (h : chars.ShowsExcept fanState (hc :: publishing)) :
  (hapCharUpdateVal hc (updateCharVal fanState hc) chars).ShowsExcept fanState publishing
  := by
  obtain ⟨hon, hosc⟩ := h
  cases hc <;> simp_all [HapChars.ShowsExcept, hapCharUpdateVal, updateCharVal]

/-- On and SwingMode after HomeKit commands depend on the power and oscillation they start
from only. -/
theorem shows_runHomekit_congr {g g' : Globals} (events : List FanEvent)
    (hchars : g'.chars = g.chars) (hon : g'.fanState.isOn = g.fanState.isOn)
    (hosc : g'.fanState.oscillate = g.fanState.oscillate)
    (h : g.chars.Shows (runHomekit events g).fanState) :
  g'.chars.Shows (runHomekit events g').fanState
  := by
  obtain ⟨h₁, h₂⟩ := h
  refine ⟨?_, ?_⟩
  · rw [hchars, h₁, runHomekit_isOn, runHomekit_isOn, hon]
  · rw [hchars, h₂, runHomekit_oscillate, runHomekit_oscillate, hosc]

/-- A step keeps HomeKit writes apart from Button and Remote commands.  The callback stores
the value of a write while no Button or Remote command is queued or being published, and
sends its command into a queue with room; no Button or Remote command is sent while the
callback has a command built and not sent. -/
def Action.Unraced (fw : Firmware) : Action → Prop
  | .hapNext =>
    (fw.pending.isSome → fw.queue.length < queueLength) ∧
      (fw.pending.isNone → ∀ write ∈ fw.batch.take 1, (writeEvent write).isSome →
        fw.publishing = [] ∧ ∀ event ∈ fw.queue, event.source = .homekit)
  | .buttonEdge edge => fw.pending.isSome → (edge.interrupt fw.prevTimeUs).1 = none
  | .remoteTask =>
    fw.pending.isSome → ∀ frame ∈ fw.frames.take 1, (parseIrCode frame).sent = []
  | _ => True

instance (fw : Firmware) : (action : Action) → Decidable (action.Unraced fw)
  | .hapNext => inferInstanceAs (Decidable (_ ∧ _))
  | .buttonEdge _ => inferInstanceAs (Decidable (_ → _))
  | .remoteTask => inferInstanceAs (Decidable (_ → _))
  | .appMain | .hapWrite _ | .rmtRecvDone _ | .consume => isTrue trivial

/-- Every step of a run keeps HomeKit writes apart from Button and Remote commands. -/
def Firmware.Unraced (fw : Firmware) : List Action → Prop
  | [] => True
  | action :: actions => action.Unraced fw ∧ (fw.step action).elim True (·.Unraced actions)

instance Firmware.decUnraced : (fw : Firmware) → (actions : List Action) →
    Decidable (fw.Unraced actions)
  | _, [] => isTrue trivial
  | fw, action :: actions =>
    have : Decidable ((fw.step action).elim True (·.Unraced actions)) :=
      match fw.step action with
      | some fw' => Firmware.decUnraced fw' actions
      | none => isTrue trivial
    inferInstanceAs (Decidable (_ ∧ _))

/-- The invariant of unraced runs.  The queued HomeKit commands all precede the queued Button
and Remote commands.  While the consumer publishes a turn, no HomeKit command is queued or
built, and the characteristics already updated show the fan state.  While the callback has a
command built, only HomeKit commands are queued.  Between turns, while only HomeKit commands
are queued, On and SwingMode show the state those commands and the one built will leave. -/
structure Firmware.Published (fw : Firmware) : Prop where
  ordered : ∃ hk br, fw.queue = hk ++ br ∧ (∀ event ∈ hk, event.source = .homekit) ∧
    ∀ event ∈ br, event.source ≠ .homekit
  turn : fw.publishing ≠ [] → (∀ event ∈ fw.queue, event.source ≠ .homekit) ∧
    fw.pending = none ∧ fw.globals.chars.ShowsExcept fw.globals.fanState fw.publishing
  pending : fw.pending.isSome → ∀ event ∈ fw.queue, event.source = .homekit
  shows : fw.publishing = [] → (∀ event ∈ fw.queue, event.source = .homekit) →
    fw.globals.chars.Shows (runHomekit (fw.queue ++ fw.pending.toList) fw.globals).fanState

/-- `Relay_init` and `Led_init` leave the fan state alone, which is off and not oscillating until
`app_main` sets it. -/
theorem appMainGlobals_fanState {n : Nat} (h : n ≤ 6) :
  (appMainGlobals n).fanState = Globals.initial.fanState
  := by
  obtain _ | _ | _ | _ | _ | _ | _ | n := n <;> first | rfl | omega

/-- In a queue whose HomeKit commands precede the others, the first command is a HomeKit one,
behind which the order holds, or no HomeKit command is queued. -/
theorem queue_head_cases {event : FanEvent} {queue hk br : List FanEvent}
    (hq : event :: queue = hk ++ br) (hhk : ∀ e ∈ hk, e.source = .homekit)
    (hbr : ∀ e ∈ br, e.source ≠ .homekit) :
  (event.source = .homekit ∧ ∃ hk', queue = hk' ++ br ∧ ∀ e ∈ hk', e.source = .homekit) ∨
    ∀ e ∈ event :: queue, e.source ≠ .homekit
  := by
  cases hk with
  | nil => exact .inr fun e h => hbr e (by simpa [hq] using h)
  | cons e hk =>
    obtain ⟨rfl, rfl⟩ := List.cons.inj hq
    exact .inl ⟨hhk _ (.head _), hk, rfl, fun e h => hhk e (.tail _ h)⟩

section Published

variable {fw fw' : Firmware}

theorem Firmware.pending_of_send {event : FanEvent} (hs : fw.send event = some fw') :
  fw'.pending = fw.pending
  := by
  unfold Firmware.send at hs
  split_ifs at hs <;> cases hs <;> rfl

/-- A send of a Button or Remote command, while the callback has no command built, keeps the
invariant. -/
theorem Firmware.Published.send {event : FanEvent} (hp : fw.Published)
    (hpend : fw.pending = none) (he : event.source ≠ .homekit) (hs : fw.send event = some fw') :
  fw'.Published
  := by
  obtain ⟨hk, br, hq, hhk, hbr⟩ := hp.ordered
  unfold Firmware.send at hs
  split_ifs at hs with _ hroom <;> cases hs
  · -- the command joins the queue, behind every HomeKit command
    have hq' : xQueueSend fw.queue event = hk ++ (br ++ [event]) := by
      rw [xQueueSend, if_pos hroom, hq, List.append_assoc]
    have hbr' : ∀ e ∈ br ++ [event], e.source ≠ .homekit := by
      simpa [or_imp, forall_and] using ⟨hbr, he⟩
    refine ⟨⟨hk, br ++ [event], hq', hhk, hbr'⟩, fun hne => ?_, by simp [hpend],
      fun _ hall => absurd (hall event (by simp [hq'])) he⟩
    obtain ⟨hqueue, _, hshows⟩ := hp.turn hne
    refine ⟨fun e h => ?_, hpend, hshows⟩
    rw [hq', ← List.append_assoc, ← hq] at h
    exact (List.mem_append.1 h).elim (hqueue e) fun h => List.mem_singleton.1 h ▸ he
  · -- the queue is full: the command is dropped
    rw [show xQueueSend fw.queue event = fw.queue from if_neg hroom]
    exact { hp with }

theorem Firmware.Published.foldlM_send {events : List FanEvent} (hp : fw.Published)
    (hpend : fw.pending = none) (he : ∀ event ∈ events, event.source ≠ .homekit)
    (hs : events.foldlM Firmware.send fw = some fw') :
  fw'.Published
  := by
  induction events generalizing fw with
  | nil => cases hs; exact hp
  | cons event events ih =>
    obtain ⟨fw₁, h₁, hs⟩ := Option.bind_eq_some.1 hs
    exact ih (hp.send hpend (he event (.head _)) h₁) ((Firmware.pending_of_send h₁).trans hpend)
      (fun e he' => he e (.tail _ he')) hs

/-- A statement of `app_main` keeps the characteristic values, and the power and oscillation
of the fan state: `app_main` sets the fan state off and not oscillating, as it was. -/
theorem Firmware.Published.step_appMain (hi : fw.Inv) (hp : fw.Published)
    (hs : fw.step .appMain = some fw') :
  fw'.Published
  := by
  simp only [Firmware.step] at hs
  split at hs
  · cases hs
  rename_i statement hget
  cases hs
  have hlt : fw.done < 9 := (List.getElem?_eq_some_iff.1 hget).1
  have hconsumer : ¬ fw.Ran .xTaskCreate := fun hx => by
    have : 9 ≤ fw.done := length_le_of_xTaskCreate hx
    omega
  have hpub := hi.publishing_nil hconsumer
  have hkeep : (statement.run fw.globals).chars = fw.globals.chars ∧
      (statement.run fw.globals).fanState.isOn = fw.globals.fanState.isOn ∧
      (statement.run fw.globals).fanState.oscillate = fw.globals.fanState.oscillate := by
    cases statement
    case relayInit => simp [InitStep.run, relayInit, writeEach_chars, writeEach_fanState]
    case ledInit => simp [InitStep.run, ledInit, writeEach_chars, writeEach_fanState]
    case fanStateInit =>
      have hd : fw.done ≤ 6 :=
        (by decide : ∀ n < 9, appMain[n]? = some .fanStateInit → n ≤ 6) _ hlt hget
      have hfan : fw.globals.fanState = Globals.initial.fanState := by
        rw [hi.globals, hi.taken_nil hconsumer]
        exact appMainGlobals_fanState hd
      simp [InitStep.run, hfan, Globals.initial]
    all_goals exact ⟨rfl, rfl, rfl⟩
  obtain ⟨hchars, hon, hosc⟩ := hkeep
  exact ⟨hp.ordered, fun h => absurd hpub h, hp.pending,
    fun _ hall => shows_runHomekit_congr _ hchars hon hosc (hp.shows hpub hall)⟩

/-- The callback stores an unraced write's value, which its command will set, or sends its
command behind HomeKit commands only. -/
theorem Firmware.Published.step_hapNext (hi : fw.Inv) (hp : fw.Published)
    (hu : Action.hapNext.Unraced fw) (hs : fw.step .hapNext = some fw') :
  fw'.Published
  := by
  simp only [Firmware.step] at hs
  split at hs
  · cases hs
  · -- the send of the command built, into room and behind HomeKit commands only
    rename_i writes event _ hpending
    have hpub : fw.publishing = [] := by
      by_contra hne
      simp [(hp.turn hne).2.1] at hpending
    have hall := hp.pending (by simp [hpending])
    have he := (hi.pending event hpending).1
    have hroom := hu.1 (by simp [hpending])
    unfold Firmware.send at hs
    split_ifs at hs
    cases hs
    have hq' : xQueueSend fw.queue event = fw.queue ++ [event] := if_pos hroom
    refine ⟨⟨fw.queue ++ [event], [], by simp [hq'], ?_, by simp⟩, fun h => absurd hpub h,
      by simp, fun _ _ => ?_⟩
    · simpa [or_imp, forall_and] using ⟨hall, he⟩
    · simpa [hq', hpending] using hp.shows hpub hall
  rename_i write writes hbatch hpending
  split at hs
  · cases hs
    exact { hp with }
  · -- the value is stored, while only HomeKit commands are queued and none is published
    rename_i event hw
    cases hs
    obtain ⟨hpub, hall⟩ := hu.2 (by simp [hpending]) write (by simp [hbatch]) (by simp [hw])
    refine ⟨hp.ordered, fun h => absurd hpub h, fun _ => hall, fun _ _ => ?_⟩
    have hshows := hp.shows hpub hall
    rw [hpending, Option.toList_none, List.append_nil] at hshows
    dsimp only
    rw [Option.toList_some, runHomekit_fanState_chars, runHomekit_append_event]
    exact hapCharUpdateVal_shows hw hshows

/-- An update of `HomeKit_update_char` shows the fan state in one more characteristic; a new
turn applies a HomeKit command as the published values foresaw, or starts to publish a Button
or Remote command while no HomeKit command is queued or built. -/
theorem Firmware.Published.step_consume (hp : fw.Published) (hs : fw.step .consume = some fw') :
  fw'.Published
  := by
  simp only [Firmware.step] at hs
  split_ifs at hs
  split at hs
  · -- one update of `HomeKit_update_char`
    rename_i hc publishing hpub
    cases hs
    obtain ⟨hbr, hpend, hshows⟩ := hp.turn (by simp [hpub])
    rw [hpub] at hshows
    refine ⟨hp.ordered, fun _ => ⟨hbr, hpend, hshows.update⟩, by simp [hpend], fun hnil hall => ?_⟩
    -- the last update: no HomeKit command is queued, so nothing is
    have hq : fw.queue = [] := List.eq_nil_iff_forall_not_mem.2 fun e h => hbr e h (hall e h)
    have hdone := hshows.update
    rw [show publishing = [] from hnil, HapChars.showsExcept_nil] at hdone
    simpa [hq, hpend] using hdone
  · cases hs
  · -- a new turn
    rename_i event queue hpub hqueue
    cases hs
    obtain ⟨hk, br, hq, hhk, hbr⟩ := hp.ordered
    rw [hqueue] at hq
    rcases queue_head_cases hq hhk hbr with ⟨he, hk, hq', hhk'⟩ | hbr'
    · -- a HomeKit command, first of the queued ones, applied without publishing
      refine ⟨⟨hk, br, hq', hhk', hbr⟩, by simp [he],
        fun h e he' => hp.pending h e (by simp [hqueue, he']), fun _ hall => ?_⟩
      have hshows := hp.shows hpub (by simpa [hqueue, he] using hall)
      rw [hqueue, List.cons_append, runHomekit_cons] at hshows
      have hfan : ({ laskoEventHandler event fw.globals with chars := fw.globals.chars } :
          Globals).fanState = (handleHomekit event fw.globals).fanState :=
        laskoEventHandler_fanState_homekit he fw.globals
      dsimp only
      rw [runHomekit_fanState_congr hfan]
      exact hshows
    · -- a Button or Remote command: no HomeKit command is queued or built
      have he := hbr' event (.head _)
      have hpend : fw.pending = none := Option.not_isSome_iff_eq_none.1 fun h =>
        he (hp.pending h event (by simp [hqueue]))
      refine ⟨⟨[], queue, rfl, by simp, fun e h => hbr' e (.tail _ h)⟩,
        fun _ => ⟨fun e h => hbr' e (.tail _ h), hpend, ?_⟩, by simp [hpend],
        fun h => by simp [he, updateCharOrder] at h⟩
      simp [he, HapChars.ShowsExcept, updateCharOrder]

/-- Every step of an unraced run keeps the invariant. -/
theorem Firmware.Published.step (hi : fw.Inv) (hp : fw.Published) {action : Action}
    (hu : action.Unraced fw) (hs : fw.step action = some fw') :
  fw'.Published
  := by
  cases action with
  | appMain => exact hp.step_appMain hi hs
  | hapNext => exact hp.step_hapNext hi hu hs
  | consume => exact hp.step_consume hs
  | hapWrite writes =>
    simp only [Firmware.step] at hs
    split_ifs at hs with hen
    cases hs
    -- the previous call has returned, with no command built
    rw [← hi.pending_batch hen.2]
    exact { hp with }
  | buttonEdge edge =>
    simp only [Firmware.step] at hs
    split_ifs at hs
    split at hs
    · cases hs
      exact { hp with }
    rename_i event _ hint
    have hpend : fw.pending = none := Option.not_isSome_iff_eq_none.1 fun h => by
      simpa [hu h] using congrArg Prod.fst hint
    refine Firmware.Published.send ?_ ?_ ?_ hs
    · exact { hp with }
    · exact hpend
    · rw [edge.interrupt_source _ (congrArg Prod.fst hint)]
      decide
  | remoteTask =>
    simp only [Firmware.step] at hs
    split at hs
    · cases hs
    rename_i frame frames hframes
    split at hs
    · cases hs
    cases hpend : fw.pending with
    | none =>
      refine Firmware.Published.foldlM_send ?_ ?_ (fun event he => ?_) hs
      · exact { hp with }
      · exact hpend
      · rw [parseIrCode_source frame event he]
        decide
    | some _ =>
      -- a reception parsed while a HomeKit command is built sends nothing
      rw [hu (by simp [hpend]) frame (by simp [hframes]), List.foldlM_nil] at hs
      cases hs
      exact { hp with }
  | rmtRecvDone symbols =>
    simp only [Firmware.step] at hs
    split_ifs at hs <;> cases hs <;> exact { hp with }

theorem Firmware.Published.run (hi : fw.Inv) (hp : fw.Published) {actions : List Action}
    (hu : fw.Unraced actions) (hr : fw.run actions = some fw') :
  fw'.Published
  := by
  induction actions generalizing fw with
  | nil => cases hr; exact hp
  | cons action actions ih =>
    obtain ⟨fw₁, h₁, hr⟩ := Option.bind_eq_some.1 hr
    rw [Firmware.Unraced, h₁] at hu
    exact ih (hi.step h₁) (hp.step hi hu.1 h₁) hu.2 hr

end Published

end HomeKitFan
