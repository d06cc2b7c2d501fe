import HomeKitFan.Basic

/-!
# Button debouncing

`button.c`.  `power_interrupt` and `oscillate_interrupt` run on the rising edges of the two
buttons.  Each reads the time in microseconds and takes the edge for a bounce when less than
`MIN_TIME_BETWEEN_PRESS` has passed since `prev_time_us`; otherwise it sends its command to
`g_Fan_event_queue` and stores the time.  There is one `prev_time_us`, zero at boot, for
both interrupts: the debounce runs between presses of either button.

Any two accepted edges are therefore at least 250 ms apart, whatever their buttons.  An edge
that comes 250 ms or more after the last accepted edge of its own button is still rejected
when an edge of the other button was accepted less than 250 ms before it.
-/

namespace HomeKitFan

/-- `MIN_TIME_BETWEEN_PRESS`: 250 ms, in microseconds. -/
def minTimeBetweenPress : Int := 250 * 1000

/-- The body shared by the two interrupts, for the command `id`: the event it sends with
`xQueueSendFromISR`, if any, and `prev_time_us` after it.  Times are the `int64_t`
microseconds of `gettimeofday`, taken in `ℤ`. -/
def buttonInterrupt (id : EventId) (timeUs prevTimeUs : Int) : Option FanEvent × Int :=
  if timeUs - prevTimeUs < minTimeBetweenPress then (none, prevTimeUs)
  else (some ⟨.button, id, 0⟩, timeUs)

/-- `power_interrupt`. -/
def powerInterrupt (timeUs prevTimeUs : Int) : Option FanEvent × Int :=
  buttonInterrupt .power timeUs prevTimeUs

/-- `oscillate_interrupt`. -/
def oscillateInterrupt (timeUs prevTimeUs : Int) : Option FanEvent × Int :=
  buttonInterrupt .oscillate timeUs prevTimeUs

/-- The buttons `Button_init` attaches an interrupt to. -/
inductive Button where
  | power
  | oscillate
  deriving DecidableEq, Repr

/-- A rising edge on a button, at the time its interrupt reads. -/
structure Edge where
  button : Button
  time : Int
  deriving DecidableEq, Repr

/-- The interrupt of the button an edge is on. -/
def Edge.interrupt (edge : Edge) (prevTimeUs : Int) : Option FanEvent × Int :=
  match edge.button with
  | .power => powerInterrupt edge.time prevTimeUs
  | .oscillate => oscillateInterrupt edge.time prevTimeUs

/-- `prev_time_us` after the interrupts of a sequence of edges. -/
def runInterrupts (edges : List Edge) (prevTimeUs : Int) : Int :=
  edges.foldl (fun prevTimeUs edge => (edge.interrupt prevTimeUs).2) prevTimeUs

/-- After the edges `before`, from boot, the interrupt of `edge` reaches
`xQueueSendFromISR`. -/
def Edge.AcceptedAfter (edge : Edge) (before : List Edge) : Prop :=
  (edge.interrupt (runInterrupts before 0)).1.isSome = true

instance (edge : Edge) (before : List Edge) : Decidable (edge.AcceptedAfter before) :=
  inferInstanceAs (Decidable (_ = true))

/-! ### One interrupt -/

section Interrupt

variable (edge : Edge) (prevTimeUs : Int)

theorem Edge.interrupt_of_le (h : prevTimeUs + minTimeBetweenPress ≤ edge.time) :
  (edge.interrupt prevTimeUs).1.isSome = true ∧ (edge.interrupt prevTimeUs).2 = edge.time
  := by
  have : ¬edge.time - prevTimeUs < minTimeBetweenPress := by omega
  cases h : edge.button <;>
    simp [Edge.interrupt, h, powerInterrupt, oscillateInterrupt, buttonInterrupt, this]

theorem Edge.interrupt_of_lt (h : edge.time < prevTimeUs + minTimeBetweenPress) :
  (edge.interrupt prevTimeUs).1.isSome = false ∧ (edge.interrupt prevTimeUs).2 = prevTimeUs
  := by
  have : edge.time - prevTimeUs < minTimeBetweenPress := by omega
  cases h : edge.button <;>
    simp [Edge.interrupt, h, powerInterrupt, oscillateInterrupt, buttonInterrupt, this]

/-- An edge is accepted exactly when it comes `MIN_TIME_BETWEEN_PRESS` after
`prev_time_us`. -/
theorem Edge.interrupt_isSome_iff :
  (edge.interrupt prevTimeUs).1.isSome = true ↔ prevTimeUs + minTimeBetweenPress ≤ edge.time
  := by
  refine ⟨fun h => ?_, fun h => (edge.interrupt_of_le prevTimeUs h).1⟩
  by_contra hlt
  simp [(edge.interrupt_of_lt prevTimeUs (by omega)).1] at h

/-- An accepted edge stores its time in `prev_time_us`. -/
theorem Edge.interrupt_snd_of_isSome (h : (edge.interrupt prevTimeUs).1.isSome = true) :
  (edge.interrupt prevTimeUs).2 = edge.time
  := (edge.interrupt_of_le prevTimeUs ((edge.interrupt_isSome_iff prevTimeUs).1 h)).2

/-- The interrupts send Button commands only. -/
theorem Edge.interrupt_source {event : FanEvent} (h : (edge.interrupt prevTimeUs).1 = some event) :
  event.source = .button
  := by
  cases hb : edge.button <;>
    simp only [Edge.interrupt, hb, powerInterrupt, oscillateInterrupt, buttonInterrupt] at h <;>
    split_ifs at h <;> cases h <;> rfl

theorem Edge.le_interrupt_snd :
  prevTimeUs ≤ (edge.interrupt prevTimeUs).2
  := by
  by_cases h : prevTimeUs + minTimeBetweenPress ≤ edge.time
  · rw [(edge.interrupt_of_le prevTimeUs h).2]
    have : (0 : Int) < minTimeBetweenPress := by decide
    omega
  · simp [(edge.interrupt_of_lt prevTimeUs (by omega)).2]

end Interrupt

/-! ### Runs of edges -/

theorem runInterrupts_append (edges edges' : List Edge) (prevTimeUs : Int) :
  runInterrupts (edges ++ edges') prevTimeUs
    = runInterrupts edges' (runInterrupts edges prevTimeUs)
  := List.foldl_append ..

@[simp]
theorem runInterrupts_append_edge (edges : List Edge) (edge : Edge) (prevTimeUs : Int) :
  runInterrupts (edges ++ [edge]) prevTimeUs = (edge.interrupt (runInterrupts edges prevTimeUs)).2
  := by
  simp [runInterrupts]

/-- `prev_time_us` never decreases. -/
theorem le_runInterrupts (edges : List Edge) (prevTimeUs : Int) :
  prevTimeUs ≤ runInterrupts edges prevTimeUs
  := by
  induction edges using List.reverseRecOn with
  | nil => exact Int.le_refl _
  | append_singleton edges edge ih =>
    rw [runInterrupts_append_edge]
    exact Int.le_trans ih (edge.le_interrupt_snd _)

/-- After a run, `prev_time_us` is where it started or the time of the last accepted edge. -/
theorem runInterrupts_eq_or_last (edges : List Edge) (prevTimeUs : Int) :
  runInterrupts edges prevTimeUs = prevTimeUs ∨
    ∃ before edge after, edges = before ++ edge :: after ∧
      (edge.interrupt (runInterrupts before prevTimeUs)).1.isSome = true ∧
      runInterrupts edges prevTimeUs = edge.time
  := by
  induction edges using List.reverseRecOn with
  | nil => exact .inl rfl
  | append_singleton edges edge ih =>
    rw [runInterrupts_append_edge]
    by_cases hle : runInterrupts edges prevTimeUs + minTimeBetweenPress ≤ edge.time
    · have hacc := edge.interrupt_of_le _ hle
      exact .inr ⟨edges, edge, [], rfl, hacc.1, hacc.2⟩
    · rw [(edge.interrupt_of_lt (runInterrupts edges prevTimeUs) (by omega)).2]
      exact ih.imp_right fun ⟨before, e, after, he, hacc, htime⟩ =>
        ⟨before, e, after ++ [edge], by simp [he], hacc, htime⟩

/-- A later accepted edge comes at least 250 ms after an accepted one; a later edge 250 ms
or more after an accepted one is accepted, unless an edge in between was accepted less
than 250 ms before it. -/
theorem button_debounce (pre : List Edge) (e₁ : Edge) (mid : List Edge) (e₂ : Edge)
    (h₁ : e₁.AcceptedAfter pre) :
  (e₂.AcceptedAfter (pre ++ e₁ :: mid) → e₁.time + minTimeBetweenPress ≤ e₂.time) ∧
    (e₁.time + minTimeBetweenPress ≤ e₂.time → e₂.AcceptedAfter (pre ++ e₁ :: mid) ∨
      ∃ mid₁ e mid₂, mid = mid₁ ++ e :: mid₂ ∧ e.AcceptedAfter (pre ++ e₁ :: mid₁) ∧
        e₂.time < e.time + minTimeBetweenPress)
  := by
  have hprev : ∀ mid, runInterrupts (pre ++ e₁ :: mid) 0 = runInterrupts mid e₁.time := by
    intro mid
    rw [← List.singleton_append, ← List.append_assoc, runInterrupts_append,
      runInterrupts_append_edge, e₁.interrupt_snd_of_isSome _ h₁]
  simp only [Edge.AcceptedAfter, Edge.interrupt_isSome_iff, hprev]
  refine ⟨fun h₂ => by have := le_runInterrupts mid e₁.time; omega, fun h₂ => ?_⟩
  rcases runInterrupts_eq_or_last mid e₁.time with h | ⟨mid₁, e, mid₂, rfl, he, h⟩
  · exact .inl (by rw [h]; exact h₂)
  · by_cases h₃ : runInterrupts (mid₁ ++ e :: mid₂) e₁.time + minTimeBetweenPress ≤ e₂.time
    · exact .inl h₃
    · exact .inr ⟨mid₁, e, mid₂, rfl, (Edge.interrupt_isSome_iff ..).1 he, by omega⟩

/-- The power button accepted at 250 ms, the oscillate button at 500 ms: the next power edge,
at 600 ms, comes 350 ms after the last accepted power edge and is rejected. -/
theorem button_debounce_shared :
  ¬ ∀ (pre : List Edge) (e₁ : Edge) (mid : List Edge) (e₂ : Edge),
    ((pre ++ e₁ :: mid ++ [e₂]).map (·.time)).Pairwise (· ≤ ·) →
    e₂.button = e₁.button → (∀ e ∈ mid, e.button ≠ e₁.button) →
    e₁.AcceptedAfter pre → e₁.time + minTimeBetweenPress ≤ e₂.time →
    e₂.AcceptedAfter (pre ++ e₁ :: mid)
  := fun h => absurd
    (h [] ⟨.power, 250000⟩ [⟨.oscillate, 500000⟩] ⟨.power, 600000⟩ (by decide) rfl (by decide)
      (by decide) (by decide))
    (by decide)

/-- The same three edges: the oscillate edge, accepted between the two power edges, accounts
for the rejection. -/
theorem button_debounce_power_oscillate_power :
  (⟨.power, 250000⟩ : Edge).AcceptedAfter [] ∧
    ((⟨.power, 600000⟩ : Edge).AcceptedAfter [⟨.power, 250000⟩, ⟨.oscillate, 500000⟩] →
      (250000 : Int) + minTimeBetweenPress ≤ 600000) ∧
    ((250000 : Int) + minTimeBetweenPress ≤ 600000 →
      (⟨.power, 600000⟩ : Edge).AcceptedAfter [⟨.power, 250000⟩, ⟨.oscillate, 500000⟩] ∨
      ∃ (mid₁ : List Edge) (e : Edge) (mid₂ : List Edge),
        [⟨.oscillate, 500000⟩] = mid₁ ++ e :: mid₂ ∧
          e.AcceptedAfter (⟨.power, 250000⟩ :: mid₁) ∧ 600000 < e.time + minTimeBetweenPress)
  := ⟨by decide, button_debounce [] ⟨.power, 250000⟩ [⟨.oscillate, 500000⟩] ⟨.power, 600000⟩
    (by decide)⟩

end HomeKitFan
