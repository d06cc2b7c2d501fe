import HomeKitFan.HomeKit

/-!
# The first accessory: `lasko_homekit_fan`

`lasko.c` of the repository's earlier HAP project.  `lasko_thread_entry` builds a fan service
with the characteristics Name, SwingMode and RotationSpeed beside the service's own On, and
registers `fan_write` and `fan_read` for it.  `fan_write` handles every write of a batch,
unlike `HomeKit_write_callback`: it stores an On value; it stores a RotationDirection value of
at most 1 and marks a larger one `HAP_STATUS_VAL_INVALID`, which makes the call return
`HAP_FAIL`; it marks a RotationSpeed write successful without storing it; and it marks any
other characteristic `HAP_STATUS_RES_ABSENT` without failing the call.  `fan_read` toggles a
RotationDirection value between 0 and 1 and leaves every other characteristic to the HAP core.

The service has no RotationDirection characteristic.  On the accessory as built, every batch
of writes therefore succeeds and stores the On values only: a SwingMode write is refused as
absent, and a RotationSpeed write is acknowledged and dropped.
-/

namespace HomeKitFan.Lasko

/-- The characteristic a write or a read names, by the type UUID `hap_char_get_type_uuid`
returns. -/
inductive HapCharType where
  | uuidOn
  | uuidRotationDirection
  | uuidRotationSpeed
  | uuidSwingMode
  | uuidName
  | other
  deriving DecidableEq, Repr

/-- The members of `hap_val_t` the callbacks read: `b`, `i`, and the float `f` as the `(int)`
cast `fan_write` takes of it. -/
structure HapVal where
  b : Bool
  i : Int
  f : Int
  deriving DecidableEq, Repr

/-- One entry of `write_data[]`. -/
structure HapWrite where
  hc : HapCharType
  val : HapVal
  deriving DecidableEq, Repr

/-- The statuses the callbacks store. -/
inductive HapStatus where
  | success
  | valInvalid
  | resAbsent
  deriving DecidableEq, Repr

/-! ### `fan_write` -/

/-- What a call of `fan_write` leaves behind: its calls of `hap_char_update_val` in order, the
status stored for each write, and the value returned. -/
structure FanWriteOutcome where
  updates : List (HapCharType × HapVal)
  status : List HapStatus
  result : HapResult
  deriving DecidableEq, Repr

/-- One turn of the loop of `fan_write`.  The binning of a rotation speed only logs, and both
of its paths mark the write successful. -/
def fanWriteStep (out : FanWriteOutcome) (write : HapWrite) : FanWriteOutcome :=
  match write.hc with
  | .uuidOn =>
    { out with
      updates := out.updates ++ [(write.hc, write.val)]
      status := out.status ++ [.success] }
  | .uuidRotationDirection =>
    if write.val.i > 1 then
      { out with
        status := out.status ++ [.valInvalid]
        result := .fail }
    else
      { out with
        updates := out.updates ++ [(write.hc, write.val)]
        status := out.status ++ [.success] }
  | .uuidRotationSpeed => { out with status := out.status ++ [.success] }
  | _ => { out with status := out.status ++ [.resAbsent] }

/-- `fan_write` on the batch `writes`: `ret` starts at `HAP_SUCCESS`, and the loop visits
every write. -/
def fanWrite (writes : List HapWrite) : FanWriteOutcome :=
  writes.foldl fanWriteStep ⟨[], [], .success⟩

/-- The status `fan_write` stores for a write. -/
def HapWrite.status (write : HapWrite) : HapStatus :=
  match write.hc with
  | .uuidOn | .uuidRotationSpeed => .success
  | .uuidRotationDirection => if 1 < write.val.i then .valInvalid else .success
  | _ => .resAbsent

/-- `fan_write` stores the value of the write. -/
def HapWrite.Stored (write : HapWrite) : Prop :=
  write.hc = .uuidOn ∨ write.hc = .uuidRotationDirection ∧ write.val.i ≤ 1

instance (write : HapWrite) : Decidable write.Stored :=
  inferInstanceAs (Decidable (_ ∨ _))

/-- The write is a RotationDirection value above 1. -/
def HapWrite.Invalid (write : HapWrite) : Prop :=
  write.hc = .uuidRotationDirection ∧ 1 < write.val.i

instance (write : HapWrite) : Decidable write.Invalid :=
  inferInstanceAs (Decidable (_ ∧ _))

/-- One turn of the loop: the value it stores, the status it stores, and `ret` after it. -/
theorem fanWriteStep_eq (out : FanWriteOutcome) (write : HapWrite) :
  fanWriteStep out write =
    ⟨out.updates ++ (if write.Stored then [(write.hc, write.val)] else []),
      out.status ++ [write.status], if write.Invalid then .fail else out.result⟩
  := by
  rcases write with ⟨hc, b, i, f⟩
  cases hc
  case uuidRotationDirection =>
    by_cases hi : 1 < i
    · simp [fanWriteStep, HapWrite.Stored, HapWrite.Invalid, HapWrite.status, hi, Int.not_le.2 hi]
    · simp [fanWriteStep, HapWrite.Stored, HapWrite.Invalid, HapWrite.status, hi, Int.not_lt.1 hi]
  all_goals simp [fanWriteStep, HapWrite.Stored, HapWrite.Invalid, HapWrite.status]

/-- The loop of `fan_write` from any outcome so far. -/
theorem fanWrite_from (writes : List HapWrite) (out : FanWriteOutcome) :
  writes.foldl fanWriteStep out =
    ⟨out.updates ++ (writes.filter (decide ·.Stored)).map (fun write => (write.hc, write.val)),
      out.status ++ writes.map HapWrite.status,
      if writes.any (decide ·.Invalid) then .fail else out.result⟩
  := by
  induction writes generalizing out with
  | nil => simp
  | cons write writes ih =>
    rw [List.foldl_cons, ih, fanWriteStep_eq]
    by_cases hs : write.Stored <;> by_cases hv : write.Invalid <;> simp [hs, hv, List.filter_cons]

/-- `fan_write` handles every write of a batch, whatever it names: each write gets its status,
the values stored are those of the On writes and of the RotationDirection writes of at most
1, in order, and the call fails exactly when a RotationDirection write is above 1. -/
theorem fanWrite_handles_every_write (writes : List HapWrite) :
  fanWrite writes =
    ⟨(writes.filter (decide ·.Stored)).map (fun write => (write.hc, write.val)),
      writes.map HapWrite.status,
      if writes.any (decide ·.Invalid) then .fail else .success⟩
  := by
  rw [fanWrite, fanWrite_from]
  rfl

/-! ### The accessory `lasko_thread_entry` builds -/

/-- The characteristics of the fan service that a controller can write: On, SwingMode and
RotationSpeed.  Name is read-only, and there is no RotationDirection. -/
def fanServiceWritable : List HapCharType :=
  [.uuidOn, .uuidSwingMode, .uuidRotationSpeed]

/-- On the fan service as built, every batch of writes succeeds and stores the On values
only: each SwingMode write is marked `HAP_STATUS_RES_ABSENT`, and each RotationSpeed write is
marked successful and dropped. -/
theorem fanWrite_on_fan_service (writes : List HapWrite)
    (h : ∀ write ∈ writes, write.hc ∈ fanServiceWritable) :
  fanWrite writes =
    ⟨(writes.filter (·.hc = .uuidOn)).map (fun write => (write.hc, write.val)),
      writes.map (fun write => if write.hc = .uuidSwingMode then .resAbsent else .success),
      .success⟩
  := by
  have hcases : ∀ write ∈ writes, write.hc = .uuidOn ∨ write.hc = .uuidSwingMode ∨
      write.hc = .uuidRotationSpeed := by
    simpa [fanServiceWritable] using h
  rw [fanWrite_handles_every_write]
  congr 1
  · congr 1
    refine List.filter_congr fun write hw => ?_
    rcases hcases write hw with hc | hc | hc <;> simp [HapWrite.Stored, hc]
  · refine List.map_congr_left fun write hw => ?_
    rcases hcases write hw with hc | hc | hc <;> simp [HapWrite.status, hc]
  · rw [if_neg]
    simp only [List.any_eq_true, decide_eq_true_eq, not_exists, not_and]
    intro write hw hinv
    rcases hcases write hw with hc | hc | hc <;> simp [HapWrite.Invalid, hc] at hinv

/-- An On write, a SwingMode write and a RotationSpeed write of 50 %. -/
theorem fanWrite_on_fan_service_on_swing_speed :
  (∀ write ∈ [⟨.uuidOn, ⟨true, 0, 0⟩⟩, ⟨.uuidSwingMode, ⟨true, 1, 0⟩⟩,
      ⟨.uuidRotationSpeed, ⟨false, 0, 50⟩⟩], HapWrite.hc write ∈ fanServiceWritable) ∧
    fanWrite [⟨.uuidOn, ⟨true, 0, 0⟩⟩, ⟨.uuidSwingMode, ⟨true, 1, 0⟩⟩,
        ⟨.uuidRotationSpeed, ⟨false, 0, 50⟩⟩] =
      ⟨([⟨.uuidOn, ⟨true, 0, 0⟩⟩, ⟨.uuidSwingMode, ⟨true, 1, 0⟩⟩,
          ⟨.uuidRotationSpeed, ⟨false, 0, 50⟩⟩].filter (·.hc = .uuidOn)).map
          (fun write : HapWrite => (write.hc, write.val)),
        [⟨.uuidOn, ⟨true, 0, 0⟩⟩, ⟨.uuidSwingMode, ⟨true, 1, 0⟩⟩,
          ⟨.uuidRotationSpeed, ⟨false, 0, 50⟩⟩].map
          (fun write : HapWrite => if write.hc = .uuidSwingMode then .resAbsent else .success),
        .success⟩
  := ⟨by decide, fanWrite_on_fan_service _ (by decide)⟩

/-! ### `fan_read` -/

/-- What a call of `fan_read` leaves behind: the member `i` of the `new_val` it stores with
`hap_char_update_val`, the status it stores (none where it stores nothing), and the value
returned. -/
structure FanReadOutcome where
  update : Option Int
  status : Option HapStatus
  result : HapResult
  deriving DecidableEq, Repr

/-- `fan_read` on the characteristic `hc`, whose current value is `cur`. -/
def fanRead (hc : HapCharType) (cur : HapVal) : FanReadOutcome :=
  if hc = .uuidRotationDirection then
    ⟨some (if cur.i = 1 then 0 else 1), some .success, .success⟩
  else ⟨none, none, .success⟩

end HomeKitFan.Lasko
