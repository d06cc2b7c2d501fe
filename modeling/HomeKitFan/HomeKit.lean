import HomeKitFan.Gpio

/-!
# The HomeKit component

`homekit.c`.  `HomeKit_update_char` publishes `g_Fan_state` to the three characteristics
of the fan service.  `HomeKit_write_callback` receives a batch of writes from the HAP core:
for each write it identifies the characteristic by its type UUID, builds a
`SOURCE_HOMEKIT` event (binning a rotation speed into `SPEED_OFF` to `SPEED_4`), stores the
written value, marks the write successful and sends the event to `g_Fan_event_queue`.  A
write naming any other characteristic is marked `HAP_STATUS_RES_ABSENT` and ends the
callback with `HAP_FAIL`, so the writes after it in the batch are never handled.

The HAP core itself is outside the model.  A characteristic value is kept in the member of
`hap_val_t` the code reads: `b` for On and SwingMode, and for RotationSpeed the integer
percentage `(int) write->val.f`.
-/

namespace HomeKitFan

/-- The characteristic values `HomeKit_update_char` publishes for a fan state; the rotation
speed is `25.0f * g_Fan_state.speed`. -/
def charsOf (fanState : FanState) : HapChars :=
  ⟨fanState.isOn, fanState.oscillate, 25 * fanState.speed.toNat⟩

/-- `HomeKit_update_char`. -/
def homeKitUpdateChar (g : Globals) : Globals :=
  { g with chars := charsOf g.fanState }

@[simp]
theorem homeKitUpdateChar_fanState (g : Globals) :
  (homeKitUpdateChar g).fanState = g.fanState
  := rfl

@[simp]
theorem homeKitUpdateChar_ledEnable (g : Globals) :
  (homeKitUpdateChar g).ledEnable = g.ledEnable
  := rfl

@[simp]
theorem homeKitUpdateChar_gpio (g : Globals) :
  (homeKitUpdateChar g).gpio = g.gpio
  := rfl

@[simp]
theorem homeKitUpdateChar_chars (g : Globals) :
  (homeKitUpdateChar g).chars = charsOf g.fanState
  := rfl

theorem homeKitUpdateChar_setChars (g : Globals) (chars : HapChars) :
  homeKitUpdateChar { g with chars := chars } = homeKitUpdateChar g
  := rfl

/-- Publishing a state already published changes nothing. -/
theorem homeKitUpdateChar_of_chars {g : Globals} (h : g.chars = charsOf g.fanState) :
  homeKitUpdateChar g = g
  := by
  rw [homeKitUpdateChar, ← h]

/-! ### Writes from the HAP core -/

/-- The characteristic a write names, by the type UUID `hap_char_get_type_uuid` returns. -/
inductive HapCharType where
  | uuidOn
  | uuidSwingMode
  | uuidRotationSpeed
  | other
  deriving DecidableEq, Repr

/-- The members of `hap_val_t` the callback reads. -/
structure HapVal where
  b : Bool
  f : Int
  deriving DecidableEq, Repr

/-- One entry of `write_data[]`. -/
structure HapWrite where
  hc : HapCharType
  val : HapVal
  deriving DecidableEq, Repr

/-- The statuses the callback stores through `write->status`. -/
inductive HapStatus where
  | success
  | resAbsent
  deriving DecidableEq, Repr

/-- The values the callback returns. -/
inductive HapResult where
  | success
  | fail
  deriving DecidableEq, Repr

/-- The binning of `integer_speed` in `HomeKit_write_callback`. -/
def binSpeed (integerSpeed : Int) : UInt32 :=
  if 0 = integerSpeed then speedOff
  else if integerSpeed ≤ 25 then speed1
  else if integerSpeed ≤ 50 then speed2
  else if integerSpeed ≤ 75 then speed3
  else speed4

/-- The event the callback builds for a write, none for an unknown characteristic. -/
def writeEvent (write : HapWrite) : Option FanEvent :=
  match write.hc with
  | .uuidOn => some ⟨.homekit, .power, if write.val.b then 1 else 0⟩
  | .uuidSwingMode => some ⟨.homekit, .oscillate, if write.val.b then 1 else 0⟩
  | .uuidRotationSpeed => some ⟨.homekit, .speed, binSpeed write.val.f⟩
  | .other => none

/-- `hap_char_update_val(write->hc, &(write->val))`. -/
def hapCharUpdateVal (hc : HapCharType) (val : HapVal) (chars : HapChars) : HapChars :=
  match hc with
  | .uuidOn => { chars with onChar := val.b }
  | .uuidSwingMode => { chars with oscillateChar := val.b }
  | .uuidRotationSpeed => { chars with speedChar := val.f }
  | .other => chars

/-- The characteristics `HomeKit_update_char` updates, in its order. -/
def updateCharOrder : List HapCharType :=
  [.uuidOn, .uuidSwingMode, .uuidRotationSpeed]

/-- The value `HomeKit_update_char` gives a characteristic: `new_val`, cleared by `memset` and
set from `g_Fan_state`. -/
def updateCharVal (fanState : FanState) : HapCharType → HapVal
  | .uuidOn => ⟨fanState.isOn, 0⟩
  | .uuidSwingMode => ⟨fanState.oscillate, 0⟩
  | .uuidRotationSpeed => ⟨false, 25 * fanState.speed.toNat⟩
  | .other => ⟨false, 0⟩

/-- `HomeKit_update_char` is its three calls of `hap_char_update_val`, one after the other. -/
theorem homeKitUpdateChar_chars_eq_foldl (g : Globals) :
  updateCharOrder.foldl (fun chars hc => hapCharUpdateVal hc (updateCharVal g.fanState hc) chars)
    g.chars = (homeKitUpdateChar g).chars
  := rfl

/-- What a call of `HomeKit_write_callback` leaves behind: the characteristic values, the
events passed to `xQueueSend` in order, the status stored for each write (`none` where it
is left unset) and the value returned. -/
structure WriteOutcome where
  chars : HapChars
  sent : List FanEvent
  status : List (Option HapStatus)
  result : HapResult
  deriving DecidableEq, Repr

/-- `HomeKit_write_callback` on the batch `writes`. -/
def homeKitWriteCallback : List HapWrite → HapChars → WriteOutcome
  | [], chars => ⟨chars, [], [], .success⟩
  | write :: writes, chars =>
    match writeEvent write with
    | none => ⟨chars, [], some .resAbsent :: writes.map (fun _ => none), .fail⟩
    | some event =>
      let rest := homeKitWriteCallback writes (hapCharUpdateVal write.hc write.val chars)
      { rest with sent := event :: rest.sent, status := some .success :: rest.status }

/-- A HomeKit speed event carries a value of `enum State_speed`, as the callback bins it. -/
def FanEvent.Binned (event : FanEvent) : Prop :=
  event.source = .homekit → event.id = .speed →
    event.arg ∈ [speedOff, speed1, speed2, speed3, speed4]

instance (event : FanEvent) : Decidable event.Binned :=
  inferInstanceAs (Decidable (_ → _ → _))

theorem binSpeed_mem (integerSpeed : Int) :
  binSpeed integerSpeed ∈ [speedOff, speed1, speed2, speed3, speed4]
  := by
  unfold binSpeed
  split_ifs <;> simp

theorem writeEvent_binned {write : HapWrite} {event : FanEvent}
    (h : writeEvent write = some event) :
  event.source = .homekit ∧ event.Binned
  := by
  unfold writeEvent at h
  split at h <;> cases h <;> refine ⟨rfl, fun _ hid => ?_⟩
  all_goals first | exact binSpeed_mem _ | cases hid

/-- Every event the callback sends is a binned HomeKit event. -/
theorem homeKitWriteCallback_binned (writes : List HapWrite) (chars : HapChars) :
  ∀ event ∈ (homeKitWriteCallback writes chars).sent, event.source = .homekit ∧ event.Binned
  := by
  induction writes generalizing chars with
  | nil => simp [homeKitWriteCallback]
  | cons write writes ih =>
    simp only [homeKitWriteCallback]
    split
    · simp
    · rename_i event h
      simpa [writeEvent_binned h] using ih _

/-! ### A write naming an unknown characteristic -/

/-- The characteristic values after `hap_char_update_val` has stored each write of `writes`
in turn. -/
def updateVals (writes : List HapWrite) (chars : HapChars) : HapChars :=
  writes.foldl (fun chars write => hapCharUpdateVal write.hc write.val chars) chars

/-- `HomeKit_write_callback` handles the writes in batch order up to the first that names an
unknown characteristic.  A batch of known writes is stored, sent and marked successful whole.
Otherwise the writes before the first unknown one are; that one is marked
`HAP_STATUS_RES_ABSENT` and the callback returns `HAP_FAIL` at once, so the writes after it
are neither stored nor sent, and their status is left unset. -/
theorem homeKitWriteCallback_stops_at_unknown (writes : List HapWrite) (chars : HapChars) :
  ((∀ write ∈ writes, writeEvent write ≠ none) ∧
      homeKitWriteCallback writes chars = ⟨updateVals writes chars, writes.filterMap writeEvent,
        writes.map fun _ => some .success, .success⟩) ∨
    ∃ pre write post, writes = pre ++ write :: post ∧ (∀ known ∈ pre, writeEvent known ≠ none) ∧
      writeEvent write = none ∧
      homeKitWriteCallback writes chars = ⟨updateVals pre chars, pre.filterMap writeEvent,
        pre.map (fun _ => some .success) ++ some .resAbsent :: post.map fun _ => none, .fail⟩
  := by
  induction writes generalizing chars with
  | nil => exact .inl ⟨by simp, rfl⟩
  | cons write writes ih =>
    cases hw : writeEvent write with
    | none =>
      -- the first write is unknown: the callback returns before the others
      exact .inr ⟨[], write, writes, rfl, by simp, hw,
        by simp [homeKitWriteCallback, hw, updateVals]⟩
    | some event =>
      -- the first write is known: stored, sent and marked before the rest of the batch
      rcases ih (hapCharUpdateVal write.hc write.val chars) with
        ⟨hall, hout⟩ | ⟨pre, bad, post, rfl, hpre, hbad, hout⟩
      · exact .inl ⟨by simpa [hw] using hall, by simp [homeKitWriteCallback, hw, hout, updateVals]⟩
      · exact .inr ⟨write :: pre, bad, post, rfl, by simpa [hw] using hpre, hbad,
          by simp [homeKitWriteCallback, hw, hout, updateVals]⟩

/-- An unknown write is not rejected on its own: in a batch of an unknown write and then a
known one, the known write is dropped and its status is left unset. -/
theorem homeKitWriteCallback_unknown_drops_rest :
  ¬ ∀ (writes : List HapWrite) (chars : HapChars),
    (homeKitWriteCallback writes chars).status.length = writes.length ∧
      (∀ status ∈ (homeKitWriteCallback writes chars).status, status ≠ none) ∧
      (homeKitWriteCallback writes chars).chars
        = updateVals (writes.filter fun write => (writeEvent write).isSome) chars ∧
      (homeKitWriteCallback writes chars).sent = writes.filterMap writeEvent ∧
      ((homeKitWriteCallback writes chars).result = .fail ↔
        ∃ write ∈ writes, writeEvent write = none)
  := fun h => absurd (h [⟨.other, ⟨false, 0⟩⟩, ⟨.uuidOn, ⟨true, 0⟩⟩] ⟨false, false, 0⟩).2.1
    (by decide)

end HomeKitFan
