import Mathlib.Tactic.Ring
import Mathlib.Tactic.Linarith
import HomeKitFan.Remote

/-!
# The IR decoder reads aligned windows

What `parse_ir_code` sends, stated without its loop.  The frame is read in aligned windows of
eleven pairs.  A window whose pairs are all bits has a value, read most significant bit
first; the first window whose value is a code of the remote sends that code's command, and
a window with another value is forgotten.  A pair that is neither bit, in or before that
window, ends the parse with nothing sent, and the pairs after a sent command send nothing
more.  `decodeWindows` says this, and `parseIrCode_sent` proves that the loop sends exactly
the command `decodeWindows` finds.  `decodeFrame` adds how the parse ends: after a sent
command a logic 0 moves `bit_index` on, and a logic 1 reaches the undefined shift.
`parseIrCode_eq_decodeFrame` proves the loop computes exactly this result, so that the
undefined shift comes only after a command has been sent.

The proof follows the loop one window at a time.  Inside a window, `WindowState` says that
`bit_index` counts the bits read and that `ir_code` holds their value shifted to the top of
the eleven bits, where the `|=` of a new bit is an addition.  After a sent command,
`bit_index` grows past eleven and never meets `NUM_SYMBOL_EXPECTED` again.
-/

namespace HomeKitFan

/-! ### Bits, values and the table -/

/-- The bit a pair stands for: 1 when `parse_logic1` holds, 0 when only `parse_logic0`
does, none when neither holds. -/
def symbolBit (symbol : RmtSymbolWord) : Option Bool :=
  if parseLogic1 symbol then some true else if parseLogic0 symbol then some false else none

/-- The value of the bits `bits` read most significant first after the value `acc`. -/
def bitsValueFrom (acc : Nat) (bits : List Bool) : Nat :=
  bits.foldl (fun acc bit => 2 * acc + bit.toNat) acc

/-- The value of a list of bits read most significant first. -/
def bitsValue (bits : List Bool) : Nat :=
  bitsValueFrom 0 bits

/-- The codes of the remote and the commands they stand for, as the spec lists them. -/
def irCodes : List (Nat × EventId) :=
  [(0x13F, .power), (0x13B, .oscillate), (0x13D, .speed), (0x13E, .time), (0x12F, .temperature)]

/-- The event a command of the remote is sent as. -/
def remoteEvent (id : EventId) : FanEvent :=
  ⟨.remote, id, 0⟩

/-- The window decoder: the command of the first of `n` aligned windows whose pairs are all
bits and whose value is in the table, provided no pair before it is neither bit. -/
def decodeWindows : Nat → List RmtSymbolWord → Option EventId
  | 0, _ => none
  | n + 1, symbols =>
    match (symbols.take 11).mapM symbolBit with
    | none => none
    | some bits =>
      match irCodes.lookup (bitsValue bits) with
      | some id => some id
      | none => decodeWindows n (symbols.drop 11)

/-- How the pairs after a sent command end the parse: a logic 0 moves `bit_index` on, a logic 1
reaches the undefined shift at the `bit_index` it finds, and a pair that is neither bit, or
the end of the frame, returns. -/
def afterCommand (bitIndex : UInt32) : List RmtSymbolWord → ParseEnd
  | [] => .returned
  | symbol :: symbols =>
    match symbolBit symbol with
    | some true => .undefinedShift bitIndex
    | some false => afterCommand (bitIndex + 1) symbols
    | none => .returned

/-- The window decoder with the end of the parse: the command of the first of `n` aligned
windows whose value is in the table, and how the pairs after that window end the parse. -/
def decodeFrame : Nat → List RmtSymbolWord → ParseResult
  | 0, _ => ⟨[], .returned⟩
  | n + 1, symbols =>
    match (symbols.take 11).mapM symbolBit with
    | none => ⟨[], .returned⟩
    | some bits =>
      match irCodes.lookup (bitsValue bits) with
      | some id => ⟨[remoteEvent id], afterCommand 11 (symbols.drop 11)⟩
      | none => decodeFrame n (symbols.drop 11)

/-- The commands of the two decoders agree. -/
theorem decodeFrame_sent (n : Nat) (symbols : List RmtSymbolWord) :
  (decodeFrame n symbols).sent = ((decodeWindows n symbols).map remoteEvent).toList
  := by
  induction n generalizing symbols with
  | zero => rfl
  | succ n ih =>
    rw [decodeFrame, decodeWindows]
    cases (symbols.take 11).mapM symbolBit with
    | none => rfl
    | some bits =>
      dsimp only
      cases irCodes.lookup (bitsValue bits) with
      | some id => rfl
      | none => exact ih _

theorem bitsValueFrom_eq (acc : Nat) (bits : List Bool) :
  bitsValueFrom acc bits = acc * 2 ^ bits.length + bitsValue bits
  := by
  induction bits generalizing acc with
  | nil => simp [bitsValueFrom, bitsValue]
  | cons bit bits ih =>
    simp only [bitsValue, bitsValueFrom, List.foldl_cons] at ih ⊢
    rw [ih, ih (2 * 0 + bit.toNat), List.length_cons, Nat.pow_succ]
    ring

theorem bitsValue_cons (bit : Bool) (bits : List Bool) :
  bitsValue (bit :: bits) = bit.toNat * 2 ^ bits.length + bitsValue bits
  := by
  rw [bitsValue, bitsValueFrom, List.foldl_cons, ← bitsValueFrom, bitsValueFrom_eq]
  simp

theorem bitsValue_lt (bits : List Bool) :
  bitsValue bits < 2 ^ bits.length
  := by
  induction bits with
  | nil => decide
  | cons bit bits ih =>
    have hb := Bool.toNat_le bit
    rw [bitsValue_cons, List.length_cons, Nat.pow_succ]
    nlinarith

theorem bitsValue_append_bit (bits : List Bool) (bit : Bool) :
  bitsValue (bits ++ [bit]) = 2 * bitsValue bits + bit.toNat
  := by
  simp [bitsValue, bitsValueFrom]

/-- `is_command` looks its code up in the table of the spec. -/
theorem isCommand_eq (irCode : UInt16) :
  isCommand irCode = (irCodes.lookup irCode.toNat).map remoteEvent
  := by
  unfold isCommand
  generalize irCode.toNat = n
  simp only [irCodes, irCodePower, irCodeOscillate, irCodeSpeed, irCodeTime,
    irCodeTemperature, List.lookup_cons, List.lookup_nil]
  split_ifs <;> simp [*, remoteEvent, beq_eq_false_iff_ne.mpr]

/-! ### One pair -/

/-- Inside a window after `b` bits of value `acc`: `bit_index` is `b` and `ir_code` holds
`acc` in its top bits. -/
structure WindowState (st : ParseState) (b acc : Nat) : Prop where
  bitIndex : st.bitIndex.toNat = b
  irCode : st.irCode.toNat = 2 ^ (11 - b) * acc
  acc_lt : acc < 2 ^ b

theorem WindowState.fresh (sent : List FanEvent) :
  WindowState ⟨0, 0, sent⟩ 0 0
  := ⟨rfl, rfl, by decide⟩

theorem parseStep_of_symbolBit_none {symbol : RmtSymbolWord} (h : symbolBit symbol = none)
    (st : ParseState) :
  parseStep st symbol = .error ⟨st.sent, .returned⟩
  := by
  unfold symbolBit at h
  split_ifs at h with h₁ h₀
  simp [parseStep, h₁, h₀]

theorem parseStep_of_logic0 {symbol : RmtSymbolWord} (h : symbolBit symbol = some false)
    (st : ParseState) :
  parseStep st symbol = .ok (countBit st)
  := by
  unfold symbolBit at h
  split_ifs at h with h₁ h₀ <;> cases h
  simp [parseStep, h₁, h₀]

theorem parseStep_of_logic1 {symbol : RmtSymbolWord} (h : symbolBit symbol = some true)
    (st : ParseState) :
  parseStep st symbol = match setBit st.irCode (shiftCount st.bitIndex) with
    | some irCode => .ok (countBit { st with irCode := irCode })
    | none => .error ⟨st.sent, .undefinedShift st.bitIndex⟩
  := by
  unfold symbolBit at h
  split_ifs at h with h₁ <;> cases h
  exact if_pos h₁

/-- A bit read inside a window: `|=` adds it at place `10 - b`. -/
theorem parseStep_of_symbolBit {symbol : RmtSymbolWord} {bit : Bool} {st : ParseState}
    {b acc : Nat} (h : symbolBit symbol = some bit) (hw : WindowState st b acc) (hb : b ≤ 10) :
  ∃ st', parseStep st symbol = .ok (countBit st') ∧ st'.bitIndex = st.bitIndex ∧
    st'.sent = st.sent ∧ st'.irCode.toNat = 2 ^ (10 - b) * (2 * acc + bit.toNat)
  := by
  have hpow : 2 ^ (11 - b) = 2 * 2 ^ (10 - b) := by
    rw [show 11 - b = (10 - b) + 1 by omega, Nat.pow_succ, Nat.mul_comm]
  have hsmall : 2 ^ (10 - b) * (2 * acc + 1) < 2 ^ 16 :=
    calc 2 ^ (10 - b) * (2 * acc + 1) ≤ 2 ^ (10 - b) * 2 ^ (b + 1) :=
          Nat.mul_le_mul_left _ (by have := hw.acc_lt; rw [Nat.pow_succ]; omega)
      _ = 2 ^ 11 := by rw [← Nat.pow_add]; congr 1; omega
      _ < 2 ^ 16 := by decide
  unfold symbolBit at h
  split_ifs at h with h₁ h₀ <;> cases h
  · -- logic 1: the shift is defined and sets bit `10 - b`
    have hcount := shiftCount_toNat_of_le (hw.bitIndex ▸ hb)
    rw [hw.bitIndex] at hcount
    refine ⟨{ st with irCode := UInt16.ofNat (st.irCode.toNat ||| 1 <<< (10 - b)) },
      by simp [parseStep, h₁, setBit, hcount, show 10 - b < 31 by omega], rfl, rfl, ?_⟩
    have hor : st.irCode.toNat ||| 1 <<< (10 - b) = 2 ^ (10 - b) * (2 * acc + 1) := by
      rw [hw.irCode, Nat.one_shiftLeft,
        ← Nat.mul_add_lt_is_or (Nat.pow_lt_pow_right (by decide) (by omega)), hpow]
      ring
    show (UInt16.ofNat _).toNat = _
    rw [hor, UInt16.toNat_ofNat_of_lt hsmall]
    rfl
  · -- logic 0: `ir_code` keeps its value
    refine ⟨st, by simp [parseStep, h₁, h₀], rfl, rfl, ?_⟩
    rw [hw.irCode, hpow]
    simp only [Bool.toNat_false, Nat.add_zero]
    ring

theorem countBit_of_lt {st : ParseState} (h : st.bitIndex.toNat < 10) :
  countBit st = { st with bitIndex := st.bitIndex + 1 }
  := by
  have hne : numSymbolExpected ≠ st.bitIndex + 1 := fun he => by
    have := congrArg UInt32.toNat he
    rw [bitIndex_add_one_toNat (by omega), numSymbolExpected_toNat] at this
    omega
  simp [countBit, hne]

theorem countBit_of_eq {st : ParseState} (h : st.bitIndex.toNat = 10) :
  countBit st = match isCommand st.irCode with
    | some event => ⟨st.irCode, st.bitIndex + 1, st.sent ++ [event]⟩
    | none => ⟨0, 0, st.sent⟩
  := by
  have he : numSymbolExpected = st.bitIndex + 1 :=
    UInt32.toNat.inj (by rw [bitIndex_add_one_toNat (by omega), h]; rfl)
  exact if_pos he

theorem countBit_of_gt {st : ParseState} (h₁ : 10 < st.bitIndex.toNat)
    (h₂ : st.bitIndex.toNat < 4294967295) :
  countBit st = { st with bitIndex := st.bitIndex + 1 }
  := by
  have hne : numSymbolExpected ≠ st.bitIndex + 1 := fun he => by
    have := congrArg UInt32.toNat he
    rw [bitIndex_add_one_toNat h₂, numSymbolExpected_toNat] at this
    omega
  simp [countBit, hne]

/-- A bit read before the last of a window keeps the window's invariant and sends nothing. -/
theorem parseStep_inside_window {symbol : RmtSymbolWord} {bit : Bool} {st : ParseState}
    {b acc : Nat} (h : symbolBit symbol = some bit) (hw : WindowState st b acc) (hb : b < 10) :
  ∃ st', parseStep st symbol = .ok st' ∧ st'.sent = st.sent ∧
    WindowState st' (b + 1) (2 * acc + bit.toNat)
  := by
  obtain ⟨st₁, hstep, hidx, hsent, hir⟩ := parseStep_of_symbolBit h hw (by omega)
  have hlt : st₁.bitIndex.toNat < 10 := by rw [hidx, hw.bitIndex]; omega
  rw [countBit_of_lt hlt] at hstep
  refine ⟨_, hstep, hsent, ?_, ?_, ?_⟩
  · show (st₁.bitIndex + 1).toNat = b + 1
    rw [bitIndex_add_one_toNat (by omega), hidx, hw.bitIndex]
  · show st₁.irCode.toNat = 2 ^ (11 - (b + 1)) * _
    rw [show 11 - (b + 1) = 10 - b by omega, hir]
  · have := hw.acc_lt; have := Bool.toNat_le bit; rw [Nat.pow_succ]; omega

/-! ### Runs of pairs -/

theorem parseLoop_cons (symbol : RmtSymbolWord) (symbols : List RmtSymbolWord)
    (st : ParseState) :
  parseLoop (symbol :: symbols) st = match parseStep st symbol with
    | .ok st' => parseLoop symbols st'
    | .error result => result
  := by
  unfold parseLoop
  rw [List.foldlM_cons]
  cases parseStep st symbol <;> rfl

theorem parseLoop_append (symbols symbols' : List RmtSymbolWord) (st : ParseState) :
  parseLoop (symbols ++ symbols') st = match symbols.foldlM parseStep st with
    | .ok st' => parseLoop symbols' st'
    | .error result => result
  := by
  unfold parseLoop
  rw [List.foldlM_append]
  cases symbols.foldlM parseStep st <;> rfl

/-- Inside a window the loop reads bits and sends nothing; a pair that is neither bit ends
the run. -/
theorem foldlM_parseStep_window (symbols : List RmtSymbolWord) {st : ParseState}
    {b acc : Nat} (hw : WindowState st b acc) (hlen : b + symbols.length ≤ 10) :
  (∀ bits, symbols.mapM symbolBit = some bits → ∃ st', symbols.foldlM parseStep st = .ok st' ∧
    st'.sent = st.sent ∧ WindowState st' (b + symbols.length) (bitsValueFrom acc bits)) ∧
  (symbols.mapM symbolBit = none → symbols.foldlM parseStep st = .error ⟨st.sent, .returned⟩)
  := by
  induction symbols generalizing st b acc with
  | nil => exact ⟨fun bits h => by cases h; exact ⟨st, rfl, rfl, hw⟩, fun h => by cases h⟩
  | cons symbol symbols ih =>
    simp only [List.length_cons] at hlen
    rw [List.mapM_cons, List.foldlM_cons]
    cases hbit : symbolBit symbol with
    | none =>
      rw [parseStep_of_symbolBit_none hbit]
      exact ⟨fun _ h => (by cases h), fun _ => rfl⟩
    | some bit =>
      obtain ⟨st₁, hstep, hsent₁, hw₁⟩ := parseStep_inside_window hbit hw (by omega)
      obtain ⟨ih₁, ih₂⟩ := ih hw₁ (by omega)
      rw [hstep]
      cases hm : symbols.mapM symbolBit with
      | none => exact ⟨fun _ h => (by cases h), fun _ => by rw [← hsent₁]; exact ih₂ hm⟩
      | some bits =>
        obtain ⟨st', h', hs', hw'⟩ := ih₁ bits hm
        refine ⟨fun _ h => ?_, fun h => by cases h⟩
        cases h
        rw [List.length_cons, ← Nat.add_assoc, Nat.add_right_comm]
        exact ⟨st', h', hs'.trans hsent₁, hw'⟩

/-- Fewer than eleven pairs from a fresh accumulator send nothing and return. -/
theorem parseLoop_short (symbols : List RmtSymbolWord) (h : symbols.length ≤ 10)
    (sent : List FanEvent) :
  parseLoop symbols ⟨0, 0, sent⟩ = ⟨sent, .returned⟩
  := by
  obtain ⟨hsome, hnone⟩ := foldlM_parseStep_window symbols (WindowState.fresh sent) (by omega)
  unfold parseLoop
  cases hm : symbols.mapM symbolBit with
  | none => rw [hnone hm]
  | some bits =>
    obtain ⟨st', h', hs', -⟩ := hsome bits hm
    rw [h']
    exact congrArg (ParseResult.mk · .returned) hs'

/-- After a command has been sent, `bit_index` is past eleven and never meets
`NUM_SYMBOL_EXPECTED` again: logic-0 pairs move it on, and the first other pair ends the
parse, at the undefined shift when it is a logic 1. -/
theorem parseLoop_after_command (symbols : List RmtSymbolWord) {st : ParseState}
    (h₁ : 10 < st.bitIndex.toNat) (h₂ : st.bitIndex.toNat + symbols.length < 4294967275) :
  parseLoop symbols st = ⟨st.sent, afterCommand st.bitIndex symbols⟩
  := by
  induction symbols generalizing st with
  | nil => rfl
  | cons symbol symbols ih =>
    simp only [List.length_cons] at h₂
    rw [parseLoop_cons]
    cases hbit : symbolBit symbol with
    | none => rw [parseStep_of_symbolBit_none hbit, afterCommand, hbit]
    | some bit =>
      cases bit
      · -- logic 0: `bit_index` moves on past eleven
        have hidx := @bitIndex_add_one_toNat st.bitIndex (by omega)
        rw [parseStep_of_logic0 hbit, countBit_of_gt h₁ (by omega)]
        dsimp only
        rw [ih (by dsimp only; omega) (by dsimp only; omega), afterCommand, hbit]
      · -- logic 1: the shift count has wrapped and the shift is undefined
        have := shiftCount_toNat_of_gt h₁ (by omega)
        simp [parseStep_of_logic1 hbit, setBit, afterCommand, hbit,
          show ¬(shiftCount st.bitIndex).toNat < 31 by omega]

/-! ### Whole windows -/

/-- One aligned window from a fresh accumulator: a pair that is neither bit ends the run with
nothing sent; eleven bits send the command of their value when it has one, after which the
rest of the frame ends the parse as `afterCommand` says, and otherwise the loop starts afresh
on the next window. -/
theorem parseLoop_window (window rest : List RmtSymbolWord) (hw : window.length = 11)
    (hrest : rest.length < 4294967000) (sent : List FanEvent) :
  parseLoop (window ++ rest) ⟨0, 0, sent⟩ =
    match window.mapM symbolBit with
    | none => ⟨sent, .returned⟩
    | some bits =>
      match irCodes.lookup (bitsValue bits) with
      | some id => ⟨sent ++ [remoteEvent id], afterCommand 11 rest⟩
      | none => parseLoop rest ⟨0, 0, sent⟩
  := by
  rcases List.eq_nil_or_concat window with rfl | ⟨pre, last, rfl⟩
  · simp at hw
  rw [List.concat_eq_append] at hw ⊢
  have hpre : pre.length = 10 := by simpa using hw
  obtain ⟨hsome, hnone⟩ := foldlM_parseStep_window pre (WindowState.fresh sent) (by omega)
  rw [List.append_assoc, parseLoop_append, List.mapM_append]
  cases hp : pre.mapM symbolBit with
  | none => rw [hnone hp]; rfl
  | some bits =>
    obtain ⟨st, hst, hsent, hwst⟩ := hsome bits hp
    rw [Nat.zero_add, hpre] at hwst
    rw [hst]
    dsimp only
    rw [List.singleton_append, parseLoop_cons]
    cases hb : symbolBit last with
    | none =>
      rw [parseStep_of_symbolBit_none hb, List.mapM_cons, hb, hsent]
      rfl
    | some bit =>
      obtain ⟨st₁, hstep, hidx, hsent₁, hir⟩ := parseStep_of_symbolBit hb hwst (by omega)
      have hcode : st₁.irCode.toNat = bitsValue (bits ++ [bit]) := by
        rw [hir, bitsValue_append_bit, bitsValue]
        simp
      have hidx₁ : st₁.bitIndex.toNat = 10 := by rw [hidx, hwst.bitIndex]
      have hnext : (st₁.bitIndex + 1).toNat = 11 := by
        rw [bitIndex_add_one_toNat (by omega), hidx₁]
      rw [hstep, countBit_of_eq hidx₁, isCommand_eq, hcode]
      simp only [hb, List.mapM_cons, List.mapM_nil, Option.pure_def, Option.bind_eq_bind,
        Option.some_bind]
      cases irCodes.lookup (bitsValue (bits ++ [bit])) with
      | none => simp [hsent₁, hsent]
      | some id =>
        simp only [Option.map_some']
        have h11 : st₁.bitIndex + 1 = 11 := UInt32.toNat.inj hnext
        rw [parseLoop_after_command rest (by dsimp only; omega) (by dsimp only; omega), hsent₁,
          hsent, h11]

/-- From a fresh accumulator the loop computes the window decoder's result. -/
theorem parseLoop_eq_decodeFrame (symbols : List RmtSymbolWord)
    (h : symbols.length < 4294967000) (sent : List FanEvent) :
  parseLoop symbols ⟨0, 0, sent⟩
    = ⟨sent ++ (decodeFrame (symbols.length / 11) symbols).sent,
      (decodeFrame (symbols.length / 11) symbols).ending⟩
  := by
  obtain ⟨n, hn⟩ : ∃ n, symbols.length / 11 = n := ⟨_, rfl⟩
  rw [hn]
  induction n generalizing symbols with
  | zero => simp [decodeFrame, parseLoop_short symbols (by omega)]
  | succ n ih =>
    have hlen : (symbols.take 11).length = 11 := by simp; omega
    conv_lhs => rw [← List.take_append_drop 11 symbols]
    rw [parseLoop_window _ _ hlen (by simp; omega), decodeFrame]
    cases (symbols.take 11).mapM symbolBit with
    | none => simp
    | some bits =>
      cases hl : irCodes.lookup (bitsValue bits) with
      | some id => simp [hl]
      | none =>
        simp only [hl]
        exact ih _ (by rw [List.length_drop]; omega) (by rw [List.length_drop]; omega)

/-- `parse_ir_code` sends the command the window decoder finds in the four windows of a frame
of 48 pairs, and nothing for a frame of any other length. -/
theorem parseIrCode_sent (symbols : List RmtSymbolWord) :
  (parseIrCode symbols).sent
    = if symbols.length = 48 then ((decodeWindows 4 symbols).map remoteEvent).toList else []
  := by
  unfold parseIrCode
  split_ifs with h₁ h₂
  · simp [rmtMaxMemSymbols] at h₁; omega
  · rfl
  · simp only [rmtMaxMemSymbols, ne_eq, not_not] at h₁
    rw [parseLoop_eq_decodeFrame symbols (by omega), decodeFrame_sent, ← h₁]
    rfl
  · simp [rmtMaxMemSymbols] at h₁; omega

/-- `parse_ir_code` sends Remote commands only. -/
theorem parseIrCode_source (symbols : List RmtSymbolWord) :
  ∀ event ∈ (parseIrCode symbols).sent, event.source = .remote
  := by
  rw [parseIrCode_sent]
  split_ifs
  · cases decodeWindows 4 symbols <;> simp [remoteEvent]
  · simp

/-! ### Where the parse ends -/

/-- After a command, the undefined shift comes at a `bit_index` no smaller than the one the
command left. -/
theorem le_of_afterCommand {bitIndex bitIndex' : UInt32} {rest : List RmtSymbolWord}
    (h : afterCommand bitIndex rest = .undefinedShift bitIndex')
    (hlen : bitIndex.toNat + rest.length < 4294967295) :
  bitIndex.toNat ≤ bitIndex'.toNat
  := by
  induction rest generalizing bitIndex with
  | nil => cases h
  | cons symbol rest ih =>
    simp only [List.length_cons] at hlen
    rw [afterCommand] at h
    split at h
    · cases h; exact le_refl _
    · have := ih h (by rw [bitIndex_add_one_toNat (by omega)]; omega)
      rw [bitIndex_add_one_toNat (by omega)] at this
      omega
    · cases h

/-- The window decoder reaches the undefined shift only after the command of a window. -/
theorem decodeFrame_undefinedShift {n : Nat} {symbols : List RmtSymbolWord} {bitIndex : UInt32}
    (h : (decodeFrame n symbols).ending = .undefinedShift bitIndex) :
  (decodeFrame n symbols).sent.length = 1 ∧
    ∃ rest : List RmtSymbolWord, rest.length ≤ symbols.length ∧
      afterCommand 11 rest = .undefinedShift bitIndex
  := by
  induction n generalizing symbols with
  | zero => cases h
  | succ n ih =>
    rw [decodeFrame] at h ⊢
    revert h
    cases (symbols.take 11).mapM symbolBit with
    | none => exact fun h => by cases h
    | some bits =>
      dsimp only
      cases irCodes.lookup (bitsValue bits) with
      | some id => exact fun h => ⟨rfl, _, by simp, h⟩
      | none =>
        intro h
        obtain ⟨hsent, rest, hrest, hafter⟩ := ih h
        exact ⟨hsent, rest, hrest.trans (by simp), hafter⟩

/-- `parse_ir_code` is the window decoder: on a frame of 48 pairs it sends the command the
decoder finds and ends where the decoder says, returning or at the undefined shift with the
`bit_index` it reaches there; on a frame of any other length it sends nothing and returns. -/
theorem parseIrCode_eq_decodeFrame (symbols : List RmtSymbolWord) :
  parseIrCode symbols = if symbols.length = 48 then decodeFrame 4 symbols else ⟨[], .returned⟩
  := by
  unfold parseIrCode
  split_ifs with h₁ h₂
  · simp [rmtMaxMemSymbols] at h₁; omega
  · rfl
  · simp only [rmtMaxMemSymbols, ne_eq, not_not] at h₁
    rw [parseLoop_eq_decodeFrame symbols (by omega), ← h₁]
    rfl
  · simp [rmtMaxMemSymbols] at h₁; omega

/-- Every shift `parse_ir_code` makes while it reads a code is defined: it reaches the
undefined shift only once it has sent a command, with `bit_index` past the eleventh bit. -/
theorem parseIrCode_undefinedShift (symbols : List RmtSymbolWord) {bitIndex : UInt32}
    (h : (parseIrCode symbols).ending = .undefinedShift bitIndex) :
  (parseIrCode symbols).sent.length = 1 ∧ 11 ≤ bitIndex.toNat
  := by
  unfold parseIrCode at h ⊢
  by_cases hlen : rmtMaxMemSymbols = symbols.length
  · rw [if_neg (not_not.2 hlen)] at h ⊢
    rw [parseLoop_eq_decodeFrame symbols (by rw [← hlen]; decide)] at h ⊢
    obtain ⟨hsent, rest, hrest, hafter⟩ := decodeFrame_undefinedShift h
    have hbound : (11 : UInt32).toNat + rest.length < 4294967295 := by
      show 11 + rest.length < _
      simp only [rmtMaxMemSymbols] at hlen
      omega
    exact ⟨by simpa using hsent, le_of_afterCommand hafter hbound⟩
  · rw [if_pos hlen] at h
    cases h

/-- The power code `0b00100111111`, a logic 1, then logic 0s: the shift after the sent
command is undefined, at `bit_index` eleven. -/
theorem parseIrCode_undefinedShift_power_then_one :
  (parseIrCode ([⟨1200, 400⟩, ⟨1200, 400⟩, ⟨400, 1200⟩, ⟨1200, 400⟩, ⟨1200, 400⟩] ++
      List.replicate 7 ⟨400, 1200⟩ ++ List.replicate 36 ⟨1200, 400⟩)).ending
      = .undefinedShift 11 ∧
    (parseIrCode ([⟨1200, 400⟩, ⟨1200, 400⟩, ⟨400, 1200⟩, ⟨1200, 400⟩, ⟨1200, 400⟩] ++
      List.replicate 7 ⟨400, 1200⟩ ++ List.replicate 36 ⟨1200, 400⟩)).sent.length = 1 ∧
    11 ≤ (11 : UInt32).toNat
  := ⟨by decide, parseIrCode_undefinedShift _ (by decide)⟩

end HomeKitFan
