import HomeKitFan.Basic

/-!
# The IR remote decoder

`remote.c`.  The RMT receiver hands `Remote_task` a frame of symbols, each a pair of pulse
durations in microseconds.  `parse_ir_code` keeps frames of exactly `RMT_MAX_MEM_SYMBOLS`
pairs, reads a pair as logic 1 when it is (short, long) and as logic 0 when it is
(long, short), and accumulates the bits most significant first into `ir_code`.  After eleven
bits it hands the code to `is_command`, which sends the command when the code is in its
table; a code outside the table resets `ir_code` and `bit_index`, and a pair that is
neither bit ends the parse.

Nothing resets `bit_index` after a command has been sent, so it stays at eleven or more for
the rest of the frame.  A later logic 1 then shifts by `NUM_SYMBOL_EXPECTED - bit_index - 1`
computed in the 32-bit `size_t`, a count of billions, and `1 << count` on an `int` is
undefined.  The model stops there, with the outcome `undefinedShift`.
-/

namespace HomeKitFan

/-! ### Constants -/

/-- `IR_CODE_POWER`. -/
def irCodePower : Nat := 0x13F

/-- `IR_CODE_OSCILLATE`. -/
def irCodeOscillate : Nat := 0x13B

/-- `IR_CODE_SPEED`. -/
def irCodeSpeed : Nat := 0x13D

/-- `IR_CODE_TIME`. -/
def irCodeTime : Nat := 0x13E

/-- `IR_CODE_TEMPERATURE`. -/
def irCodeTemperature : Nat := 0x12F

/-- `NUM_SYMBOL_EXPECTED`, the pairs of one code. -/
def numSymbolExpected : UInt32 := 11

/-- `RMT_MAX_MEM_SYMBOLS`, the pairs of a frame. -/
def rmtMaxMemSymbols : Nat := 48

/-- `DURATION_ERROR_MARGIN`. -/
def durationErrorMargin : UInt32 := 200

/-- `DURATION_SHORT`. -/
def durationShort : UInt32 := 400

/-- `DURATION_LONG`. -/
def durationLong : UInt32 := 1200

/-! ### Classifying pairs -/

/-- `rmt_symbol_word_t`: the two 15-bit durations of a pair, which is all the parser reads
of it. -/
structure RmtSymbolWord where
  duration0 : Fin 32768
  duration1 : Fin 32768
  deriving DecidableEq, Repr

/-- `check_in_range`, in `uint32_t`. -/
def checkInRange (signalDuration specDuration : UInt32) : Bool :=
  signalDuration < specDuration + durationErrorMargin &&
    signalDuration > specDuration - durationErrorMargin

/-- `parse_logic0`: a long pulse, then a short one. -/
def parseLogic0 (symbol : RmtSymbolWord) : Bool :=
  checkInRange (UInt32.ofNat symbol.duration0.val) durationLong &&
    checkInRange (UInt32.ofNat symbol.duration1.val) durationShort

/-- `parse_logic1`: a short pulse, then a long one. -/
def parseLogic1 (symbol : RmtSymbolWord) : Bool :=
  checkInRange (UInt32.ofNat symbol.duration0.val) durationShort &&
    checkInRange (UInt32.ofNat symbol.duration1.val) durationLong

/-- `is_command`: the event it sends to `g_Fan_event_queue` for a code of its table, none
for any other code. -/
def isCommand (irCode : UInt16) : Option FanEvent :=
  if irCode.toNat = irCodePower then some ⟨.remote, .power, 0⟩
  else if irCode.toNat = irCodeOscillate then some ⟨.remote, .oscillate, 0⟩
  else if irCode.toNat = irCodeSpeed then some ⟨.remote, .speed, 0⟩
  else if irCode.toNat = irCodeTime then some ⟨.remote, .time, 0⟩
  else if irCode.toNat = irCodeTemperature then some ⟨.remote, .temperature, 0⟩
  else none

/-! ### The parse loop -/

/-- `NUM_SYMBOL_EXPECTED - bit_index - 1`, in the 32-bit `size_t`. -/
def shiftCount (bitIndex : UInt32) : UInt32 :=
  numSymbolExpected - bitIndex - 1

/-- `ir_code |= (1 << count)`: the shift of the `int` 1 is defined for counts below 31
only, and the result is converted back to `uint16_t`. -/
def setBit (irCode : UInt16) (count : UInt32) : Option UInt16 :=
  if count.toNat < 31 then some (UInt16.ofNat (irCode.toNat ||| 1 <<< count.toNat)) else none

/-- The variables of the loop of `parse_ir_code`, with the events sent so far. -/
structure ParseState where
  irCode : UInt16
  bitIndex : UInt32
  sent : List FanEvent
  deriving DecidableEq, Repr

/-- How a run of `parse_ir_code` ends: it returns, or reaches the undefined shift with the
given `bit_index`. -/
inductive ParseEnd where
  | returned
  | undefinedShift (bitIndex : UInt32)
  deriving DecidableEq, Repr

/-- The events a run of `parse_ir_code` sends, in order, and how it ends. -/
structure ParseResult where
  sent : List FanEvent
  ending : ParseEnd
  deriving DecidableEq, Repr

/-- The end of an iteration: `bit_index += 1`, then the check for a command, which resets
the accumulator when the code is not one. -/
def countBit (st : ParseState) : ParseState :=
  let bitIndex := st.bitIndex + 1
  if numSymbolExpected = bitIndex then
    match isCommand st.irCode with
    | some event => ⟨st.irCode, bitIndex, st.sent ++ [event]⟩
    | none => ⟨0, 0, st.sent⟩
  else { st with bitIndex := bitIndex }

/-- One iteration of the loop of `parse_ir_code`: the next state, or how the run ends. -/
def parseStep (st : ParseState) (symbol : RmtSymbolWord) : Except ParseResult ParseState :=
  if parseLogic1 symbol then
    match setBit st.irCode (shiftCount st.bitIndex) with
    | some irCode => .ok (countBit { st with irCode := irCode })
    | none => .error ⟨st.sent, .undefinedShift st.bitIndex⟩
  else if !parseLogic0 symbol then .error ⟨st.sent, .returned⟩
  else .ok (countBit st)

/-- The loop of `parse_ir_code` over the pairs, from a state. -/
def parseLoop (symbols : List RmtSymbolWord) (st : ParseState) : ParseResult :=
  match symbols.foldlM parseStep st with
  | .ok st => ⟨st.sent, .returned⟩
  | .error result => result

/-- `parse_ir_code` on the `num_symbols` pairs of a frame. -/
def parseIrCode (symbols : List RmtSymbolWord) : ParseResult :=
  if rmtMaxMemSymbols ≠ symbols.length then ⟨[], .returned⟩
  else parseLoop symbols ⟨0, 0, []⟩

/-! ### The arithmetic of the loop -/

theorem numSymbolExpected_toNat :
  numSymbolExpected.toNat = 11
  := rfl

/-- For the two durations of the remote, the `uint32_t` sums and differences of
`check_in_range` do not wrap: it is the open interval of half-width `DURATION_ERROR_MARGIN`. -/
theorem checkInRange_iff (d : Fin 32768) {spec : UInt32} (h₁ : 200 ≤ spec.toNat)
    (h₂ : spec.toNat < 4000) :
  checkInRange (UInt32.ofNat d.val) spec = true
    ↔ spec.toNat < d.val + 200 ∧ d.val < spec.toNat + 200
  := by
  have hd := d.isLt
  simp only [checkInRange, durationErrorMargin, Bool.and_eq_true, decide_eq_true_eq,
    UInt32.lt_def, BitVec.lt_def, UInt32.add_def, UInt32.sub_def, BitVec.toNat_add,
    BitVec.toNat_sub, UInt32.toBitVec_ofNat, BitVec.toNat_ofNat, UInt32.ofNat,
    UInt32.toNat] at *
  omega

theorem bitIndex_add_one_toNat {bitIndex : UInt32} (h : bitIndex.toNat < 4294967295) :
  (bitIndex + 1).toNat = bitIndex.toNat + 1
  := by
  simp only [UInt32.toNat, UInt32.add_def, BitVec.toNat_add, UInt32.toBitVec_ofNat,
    BitVec.toNat_ofNat] at *
  omega

/-- Inside a window, the count is the place of the bit read, most significant first. -/
theorem shiftCount_toNat_of_le {bitIndex : UInt32} (h : bitIndex.toNat ≤ 10) :
  (shiftCount bitIndex).toNat = 10 - bitIndex.toNat
  := by
  simp only [shiftCount, numSymbolExpected, UInt32.toNat, UInt32.sub_def, BitVec.toNat_sub,
    UInt32.toBitVec_ofNat, BitVec.toNat_ofNat] at *
  omega

/-- Past the eleventh bit, the count wraps around to a value far beyond the width of
`int`. -/
theorem shiftCount_toNat_of_gt {bitIndex : UInt32} (h₁ : 10 < bitIndex.toNat)
    (h₂ : bitIndex.toNat < 4294967275) :
  31 ≤ (shiftCount bitIndex).toNat
  := by
  simp only [shiftCount, numSymbolExpected, UInt32.toNat, UInt32.sub_def, BitVec.toNat_sub,
    UInt32.toBitVec_ofNat, BitVec.toNat_ofNat] at *
  omega

end HomeKitFan
