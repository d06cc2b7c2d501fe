import HomeKitFan.Basic

/-!
# Output pins

The level of an output pin after a sequence of writes is the level of the last write to
it, and `GPIO_LOW` for a pin never written.  `Always P start ws` says that `P` holds of the
pins after every single write of `ws` from the prefix `start` on: this is how a property
that must hold "at every GPIO write" is stated, as opposed to one that holds only once a
function has returned.
-/

namespace HomeKitFan

/-- The level of `pin` after the writes `ws`. -/
def pinLevel (ws : List GpioWrite) (pin : Nat) : Bool :=
  ws.foldl (fun l w => if w.pin = pin then w.level else l) gpioLow

@[simp]
theorem pinLevel_append_write (ws : List GpioWrite) (w : GpioWrite) (pin : Nat) :
  pinLevel (ws ++ [w]) pin = if w.pin = pin then w.level else pinLevel ws pin
  := by
  simp [pinLevel]

/-- Writing `level` to each pin of `pins` in turn, as the `for` loops of `relay.c` and
`led.c` do. -/
def writeEach (pins : List Nat) (level : Bool) (g : Globals) : Globals :=
  pins.foldl (fun g pin => gpioSetLevel pin level g) g

@[simp]
theorem gpioSetLevel_fanState (pin : Nat) (level : Bool) (g : Globals) :
  (gpioSetLevel pin level g).fanState = g.fanState
  := rfl

@[simp]
theorem gpioSetLevel_ledEnable (pin : Nat) (level : Bool) (g : Globals) :
  (gpioSetLevel pin level g).ledEnable = g.ledEnable
  := rfl

@[simp]
theorem gpioSetLevel_chars (pin : Nat) (level : Bool) (g : Globals) :
  (gpioSetLevel pin level g).chars = g.chars
  := rfl

@[simp]
theorem gpioSetLevel_gpio (pin : Nat) (level : Bool) (g : Globals) :
  (gpioSetLevel pin level g).gpio = g.gpio ++ [⟨pin, level⟩]
  := rfl

/-- The loop writes one write per pin and touches nothing else. -/
theorem writeEach_eq (pins : List Nat) (level : Bool) (g : Globals) :
  writeEach pins level g = { g with gpio := g.gpio ++ pins.map (fun pin => ⟨pin, level⟩) }
  := by
  induction pins generalizing g with
  | nil => simp [writeEach]
  | cons pin pins ih =>
    simp only [writeEach, List.foldl_cons] at ih ⊢
    rw [ih]
    simp [gpioSetLevel]

@[simp]
theorem writeEach_fanState (pins : List Nat) (level : Bool) (g : Globals) :
  (writeEach pins level g).fanState = g.fanState
  := by
  rw [writeEach_eq]

@[simp]
theorem writeEach_ledEnable (pins : List Nat) (level : Bool) (g : Globals) :
  (writeEach pins level g).ledEnable = g.ledEnable
  := by
  rw [writeEach_eq]

@[simp]
theorem writeEach_chars (pins : List Nat) (level : Bool) (g : Globals) :
  (writeEach pins level g).chars = g.chars
  := by
  rw [writeEach_eq]

theorem writeEach_setChars (pins : List Nat) (level : Bool) (g : Globals) (chars : HapChars) :
  writeEach pins level { g with chars := chars } = { writeEach pins level g with chars := chars }
  := by
  rw [writeEach_eq, writeEach_eq]

theorem pinLevel_append_map (ws : List GpioWrite) (pins : List Nat) (level : Bool)
    (pin : Nat) :
  pinLevel (ws ++ pins.map (fun p => ⟨p, level⟩)) pin
    = if pin ∈ pins then level else pinLevel ws pin
  := by
  induction pins using List.reverseRecOn with
  | nil => simp
  | append_singleton pins p ih =>
    rw [List.map_append, ← List.append_assoc, List.map_singleton, pinLevel_append_write, ih]
    by_cases h : p = pin
    · simp [h]
    · simp [h, Ne.symm h]

@[simp]
theorem writeEach_pinLevel (pins : List Nat) (level : Bool) (g : Globals) (pin : Nat) :
  pinLevel (writeEach pins level g).gpio pin
    = if pin ∈ pins then level else pinLevel g.gpio pin
  := by
  rw [writeEach_eq, pinLevel_append_map]

/-- `g'` extends the writes of `g` with writes to `pins` only. -/
def WritesWithin (pins : List Nat) (g g' : Globals) : Prop :=
  ∃ ws, g'.gpio = g.gpio ++ ws ∧ ∀ w ∈ ws, w.pin ∈ pins

theorem WritesWithin.refl (pins : List Nat) {g g' : Globals} (h : g'.gpio = g.gpio) :
  WritesWithin pins g g'
  := ⟨[], by simp [h], by simp⟩

theorem WritesWithin.trans {pins : List Nat} {g g' g'' : Globals}
    (h : WritesWithin pins g g') (h' : WritesWithin pins g' g'') :
  WritesWithin pins g g''
  := by
  obtain ⟨ws, hws, hp⟩ := h
  obtain ⟨ws', hws', hp'⟩ := h'
  exact ⟨ws ++ ws', by simp [hws', hws], by simp only [List.mem_append]; aesop⟩

theorem WritesWithin.mono {pins pins' : List Nat} {g g' : Globals}
    (h : WritesWithin pins g g') (hsub : pins ⊆ pins') :
  WritesWithin pins' g g'
  := by
  obtain ⟨ws, hws, hp⟩ := h
  exact ⟨ws, hws, fun w hw => hsub (hp w hw)⟩

theorem WritesWithin.grows {pins : List Nat} {g g' : Globals} (h : WritesWithin pins g g') :
  g.gpio <+: g'.gpio
  := by
  obtain ⟨ws, hws, -⟩ := h
  exact ⟨ws, hws.symm⟩

theorem pinLevel_append_of_not_mem (ws ws' : List GpioWrite) {pin : Nat}
    (h : ∀ w ∈ ws', w.pin ≠ pin) :
  pinLevel (ws ++ ws') pin = pinLevel ws pin
  := by
  induction ws' using List.reverseRecOn with
  | nil => simp
  | append_singleton ws' w ih =>
    rw [← List.append_assoc, pinLevel_append_write,
      if_neg (h w (by simp)), ih fun v hv => h v (by simp [hv])]

/-- A pin outside `pins` keeps its level. -/
theorem WritesWithin.pinLevel {pins : List Nat} {g g' : Globals} (h : WritesWithin pins g g')
    {pin : Nat} (hpin : pin ∉ pins) :
  pinLevel g'.gpio pin = pinLevel g.gpio pin
  := by
  obtain ⟨ws, hws, hp⟩ := h
  rw [hws, pinLevel_append_of_not_mem]
  exact fun w hw heq => hpin (heq ▸ hp w hw)

theorem writeEach_writesWithin (pins : List Nat) (level : Bool) (g : Globals) :
  WritesWithin pins g (writeEach pins level g)
  := ⟨_, by rw [writeEach_eq], by simp⟩

theorem gpioSetLevel_writesWithin (pin : Nat) (level : Bool) (g : Globals) :
  WritesWithin [pin] g (gpioSetLevel pin level g)
  := ⟨_, rfl, by simp⟩

/-! ### Properties at every write -/

/-- `P` holds after each write of `ws` made from `start` on. -/
def Always (P : List GpioWrite → Prop) (start ws : List GpioWrite) : Prop :=
  ∀ pre, start <+: pre → pre <+: ws → P pre

variable {P : List GpioWrite → Prop} {start ws : List GpioWrite}

theorem Always.of_start (h : P start) :
  Always P start start
  := by
  intro pre h₁ h₂
  rwa [h₂.eq_of_length (le_antisymm h₂.length_le h₁.length_le)]

theorem Always.last (h : Always P start ws) (hs : start <+: ws) :
  P ws
  := h ws hs (List.prefix_refl ws)

theorem Always.snoc (h : Always P start ws) (w : GpioWrite) (hw : P (ws ++ [w])) :
  Always P start (ws ++ [w])
  := by
  intro pre h₁ h₂
  rcases List.prefix_concat_iff.mp h₂ with rfl | h₂
  · exact hw
  · exact h pre h₁ h₂

/-- A write that keeps `P`. -/
def Keeps (P : List GpioWrite → Prop) (w : GpioWrite) : Prop :=
  ∀ ws, P ws → P (ws ++ [w])

/-- Writes that each keep `P` keep it at every step. -/
theorem Always.append (h : Always P start ws) (hs : start <+: ws) (ws' : List GpioWrite)
    (hk : ∀ w ∈ ws', Keeps P w) :
  Always P start (ws ++ ws') ∧ P (ws ++ ws')
  := by
  induction ws' using List.reverseRecOn with
  | nil => simpa using ⟨h, h.last hs⟩
  | append_singleton ws' w ih =>
    have ⟨h', hp⟩ := ih fun v hv => hk v (List.mem_append_left _ hv)
    have hw : P (ws ++ ws' ++ [w]) := hk w (by simp) _ hp
    rw [← List.append_assoc]
    exact ⟨h'.snoc w hw, hw⟩

/-- At most one pin of `pins` is at `level`. -/
def AtMostOneAt (pins : List Nat) (level : Bool) (ws : List GpioWrite) : Prop :=
  ∀ p ∈ pins, ∀ q ∈ pins, pinLevel ws p = level → pinLevel ws q = level → p = q

instance (pins : List Nat) (level : Bool) (ws : List GpioWrite) :
    Decidable (AtMostOneAt pins level ws) :=
  inferInstanceAs (Decidable (∀ p ∈ pins, ∀ q ∈ pins, _))

/-- Driving a pin away from `level`, or driving a pin outside `pins`, keeps at most one
pin of `pins` at `level`. -/
theorem keeps_atMostOneAt {pins : List Nat} {level : Bool} {w : GpioWrite}
    (hw : w.level ≠ level ∨ w.pin ∉ pins) :
  Keeps (AtMostOneAt pins level) w
  := by
  intro ws h p hp q hq hlp hlq
  simp only [pinLevel_append_write] at hlp hlq
  split_ifs at hlp hlq with h₁ h₂ h₂
  · exact h₁.symm.trans h₂
  · exact absurd hlp (by rcases hw with hw | hw <;> [exact hw; exact absurd (h₁ ▸ hp) hw])
  · exact absurd hlq (by rcases hw with hw | hw <;> [exact hw; exact absurd (h₂ ▸ hq) hw])
  · exact h p hp q hq hlp hlq

/-- Writes to pins outside `pins` keep `AtMostOneAt pins level` at every step. -/
theorem WritesWithin.always {pins others : List Nat} {level : Bool} {g g' : Globals}
    (h : WritesWithin others g g') (hdisj : ∀ p ∈ others, p ∉ pins)
    (ha : Always (AtMostOneAt pins level) start g.gpio) (hs : start <+: g.gpio) :
  Always (AtMostOneAt pins level) start g'.gpio
  := by
  obtain ⟨ws, hws, hp⟩ := h
  rw [hws]
  exact (ha.append hs ws fun w hw => keeps_atMostOneAt (.inr (hdisj _ (hp w hw)))).1

end HomeKitFan
