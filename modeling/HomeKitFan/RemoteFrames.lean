import HomeKitFan.RemoteWindows

/-!
# What a frame of the remote sends

The window decoder of `RemoteWindows` answers the questions about whole frames.  A frame of
48 pairs whose leading windows are bits with values outside the table, followed by a window
near the templates of a code, sends that code's command and nothing else, whatever follows.
Whatever the frame, `parse_ir_code` sends at most one command, and only when some aligned
window of a 48-pair frame reads as a code of the table.

A pair that matches neither template ends the parse where it stands.  Corrupted after the
window of the code, it changes nothing; corrupted in an earlier window, it stops the parse
before the code is read.

Sending a command leaves `bit_index` at eleven, and a logic 1 later in the frame reaches the
undefined shift.
-/

namespace HomeKitFan

/-! ### Templates and codes -/

/-- The eleven bits of a code, most significant first: bit `10 - i` at place `i`. -/
def codeBits (code : Nat) : List Bool :=
  (List.range 11).map fun i => code.testBit (10 - i)

/-- The pair the remote sends for a bit, at the centre of its template. -/
def templatePair (bit : Bool) : RmtSymbolWord :=
  if bit then ⟨400, 1200⟩ else ⟨1200, 400⟩

/-- A pair lies strictly within `DURATION_ERROR_MARGIN` of the durations `(d0, d1)`. -/
def WithinTemplate (d0 d1 : Nat) (symbol : RmtSymbolWord) : Prop :=
  d0 < symbol.duration0.val + 200 ∧ symbol.duration0.val < d0 + 200 ∧
    d1 < symbol.duration1.val + 200 ∧ symbol.duration1.val < d1 + 200

/-- A pair near the template of a bit: `(400, 1200)` for 1, `(1200, 400)` for 0. -/
def NearTemplate (bit : Bool) (symbol : RmtSymbolWord) : Prop :=
  if bit then WithinTemplate 400 1200 symbol else WithinTemplate 1200 400 symbol

instance (bit : Bool) (symbol : RmtSymbolWord) : Decidable (NearTemplate bit symbol) := by
  unfold NearTemplate WithinTemplate; infer_instance

/-- An aligned window of eleven bits whose value is not a code of the table. -/
def MissWindow (window : List RmtSymbolWord) : Prop :=
  window.length = 11 ∧ ∃ bits ∈ window.mapM symbolBit, irCodes.lookup (bitsValue bits) = none

instance (window : List RmtSymbolWord) : Decidable (MissWindow window) :=
  inferInstanceAs (Decidable (_ ∧ _))

theorem irCodes_bitsValue_codeBits :
  ∀ entry ∈ irCodes, bitsValue (codeBits entry.1) = entry.1
  := by decide

theorem irCodes_lookup :
  ∀ entry ∈ irCodes, irCodes.lookup entry.1 = some entry.2
  := by decide

theorem mem_irCodes_of_lookup {value : Nat} {id : EventId}
    (h : irCodes.lookup value = some id) :
  (value, id) ∈ irCodes
  := by
  obtain ⟨l₁, l₂, hl, -⟩ := List.lookup_eq_some_iff.1 h
  rw [hl]
  exact List.mem_append_right _ (List.mem_cons_self _ _)

/-- Bits of one length are told apart by their value. -/
theorem bitsValue_inj {bits bits' : List Bool} (hlen : bits.length = bits'.length)
    (h : bitsValue bits = bitsValue bits') :
  bits = bits'
  := by
  induction bits generalizing bits' with
  | nil => cases bits' <;> simp_all
  | cons bit bits ih =>
    cases bits' with
    | nil => simp at hlen
    | cons bit' bits' =>
      simp only [List.length_cons, Nat.add_right_cancel_iff] at hlen
      have hv := bitsValue_lt bits
      have hv' := bitsValue_lt bits'
      rw [bitsValue_cons, bitsValue_cons, ← hlen] at h
      rw [← hlen] at hv'
      have hbit : bit = bit' := by
        cases bit <;> cases bit' <;> simp at h ⊢ <;> omega
      subst hbit
      rw [ih hlen (by omega)]

theorem mapM_symbolBit_length {window : List RmtSymbolWord} {bits : List Bool}
    (h : window.mapM symbolBit = some bits) :
  bits.length = window.length
  := by
  induction window generalizing bits with
  | nil => cases h; rfl
  | cons symbol window ih =>
    rw [List.mapM_cons] at h
    simp only [Option.pure_def, Option.bind_eq_bind, Option.bind_eq_some, Option.some.injEq] at h
    obtain ⟨_, -, bits', hm, rfl⟩ := h
    simp [ih hm]

theorem parseLogic1_iff (symbol : RmtSymbolWord) :
  parseLogic1 symbol = true ↔ WithinTemplate 400 1200 symbol
  := by
  simp only [parseLogic1, Bool.and_eq_true, checkInRange_iff _ (show 200 ≤ durationShort.toNat
    by decide) (by decide), checkInRange_iff _ (show 200 ≤ durationLong.toNat by decide)
    (by decide), WithinTemplate]
  exact ⟨fun ⟨⟨a, b⟩, c, d⟩ => ⟨a, b, c, d⟩, fun ⟨a, b, c, d⟩ => ⟨⟨a, b⟩, c, d⟩⟩

theorem parseLogic0_iff (symbol : RmtSymbolWord) :
  parseLogic0 symbol = true ↔ WithinTemplate 1200 400 symbol
  := by
  simp only [parseLogic0, Bool.and_eq_true, checkInRange_iff _ (show 200 ≤ durationShort.toNat
    by decide) (by decide), checkInRange_iff _ (show 200 ≤ durationLong.toNat by decide)
    (by decide), WithinTemplate]
  exact ⟨fun ⟨⟨a, b⟩, c, d⟩ => ⟨a, b, c, d⟩, fun ⟨a, b, c, d⟩ => ⟨⟨a, b⟩, c, d⟩⟩

/-- A pair near the template of a bit reads as that bit. -/
theorem symbolBit_of_nearTemplate {bit : Bool} {symbol : RmtSymbolWord}
    (h : NearTemplate bit symbol) :
  symbolBit symbol = some bit
  := by
  cases bit
  · have hw : WithinTemplate 1200 400 symbol := h
    have h₁ : parseLogic1 symbol = false := by
      rw [← Bool.not_eq_true, parseLogic1_iff]
      unfold WithinTemplate at hw ⊢
      omega
    simp [symbolBit, h₁, (parseLogic0_iff symbol).2 hw]
  · simp [symbolBit, (parseLogic1_iff symbol).2 h]

theorem mapM_symbolBit_of_forall₂ {bits : List Bool} {window : List RmtSymbolWord}
    (h : List.Forall₂ NearTemplate bits window) :
  window.mapM symbolBit = some bits
  := by
  induction h with
  | nil => rfl
  | cons hnear _ ih => rw [List.mapM_cons, symbolBit_of_nearTemplate hnear, ih]; rfl

/-! ### The window decoder on frames -/

/-- Windows of bits outside the table are passed over. -/
theorem decodeWindows_of_miss (ws : List (List RmtSymbolWord)) (rest : List RmtSymbolWord)
    (hmiss : ∀ w ∈ ws, MissWindow w) (n : Nat) :
  decodeWindows (ws.length + n) (ws.flatten ++ rest) = decodeWindows n rest
  := by
  induction ws with
  | nil => simp
  | cons w ws ih =>
    obtain ⟨hlen, bits, hbits, hlookup⟩ := hmiss w (List.mem_cons_self _ _)
    rw [List.length_cons, Nat.add_right_comm, decodeWindows, List.flatten_cons,
      List.append_assoc, List.take_left' hlen, List.drop_left' hlen]
    simp only [Option.mem_def] at hbits
    simp only [hbits, hlookup]
    exact ih fun w' hw' => hmiss w' (List.mem_cons_of_mem _ hw')

/-- The window decoder finds the code of the first window of the table's bits. -/
theorem decodeWindows_of_code (ws : List (List RmtSymbolWord)) (window rest : List RmtSymbolWord)
    {c : Nat} {id : EventId} (hc : (c, id) ∈ irCodes) (hmiss : ∀ w ∈ ws, MissWindow w)
    (hwindow : window.mapM symbolBit = some (codeBits c)) (n : Nat) :
  decodeWindows (ws.length + n + 1) (ws.flatten ++ window ++ rest) = some id
  := by
  have hlen : window.length = 11 := by
    rw [← mapM_symbolBit_length hwindow]; rfl
  rw [List.append_assoc, Nat.add_assoc, decodeWindows_of_miss ws _ hmiss, decodeWindows,
    List.take_left' hlen, hwindow]
  simp only [irCodes_bitsValue_codeBits _ hc, irCodes_lookup _ hc]

theorem length_flatten_of_miss {ws : List (List RmtSymbolWord)} (hmiss : ∀ w ∈ ws, MissWindow w) :
  ws.flatten.length = 11 * ws.length
  := by
  induction ws with
  | nil => rfl
  | cons w ws ih =>
    rw [List.flatten_cons, List.length_append, (hmiss w (List.mem_cons_self _ _)).1,
      ih fun w' hw' => hmiss w' (List.mem_cons_of_mem _ hw'), List.length_cons]
    ring

/-- A frame whose windows before the code miss sends the code's command. -/
theorem parseIrCode_of_code (ws : List (List RmtSymbolWord)) (window rest : List RmtSymbolWord)
    {c : Nat} {id : EventId} (hc : (c, id) ∈ irCodes) (hmiss : ∀ w ∈ ws, MissWindow w)
    (hwindow : window.mapM symbolBit = some (codeBits c))
    (hlen : (ws.flatten ++ window ++ rest).length = 48) :
  (parseIrCode (ws.flatten ++ window ++ rest)).sent = [remoteEvent id]
  := by
  have hw : window.length = 11 := by rw [← mapM_symbolBit_length hwindow]; rfl
  have hk : ws.length ≤ 3 := by
    simp only [List.length_append, length_flatten_of_miss hmiss, hw] at hlen
    omega
  rw [parseIrCode_sent, if_pos hlen,
    show 4 = ws.length + (3 - ws.length) + 1 by omega,
    decodeWindows_of_code ws window rest hc hmiss hwindow]
  rfl

/-- The window decoder finds a command only in a window whose pairs read as the bits of the
command's code. -/
theorem decodeWindows_eq_some {n : Nat} {symbols : List RmtSymbolWord} {id : EventId}
    (hlen : 11 * n ≤ symbols.length) (h : decodeWindows n symbols = some id) :
  ∃ k < n, ∃ c, (c, id) ∈ irCodes ∧
    ((symbols.drop (11 * k)).take 11).mapM symbolBit = some (codeBits c)
  := by
  induction n generalizing symbols with
  | zero => cases h
  | succ n ih =>
    rw [decodeWindows] at h
    cases hm : (symbols.take 11).mapM symbolBit with
    | none => rw [hm] at h; cases h
    | some bits =>
      cases hl : irCodes.lookup (bitsValue bits) with
      | some id' =>
        simp only [hm, hl, Option.some.injEq] at h
        subst h
        have hmem := mem_irCodes_of_lookup hl
        have hbits : bits.length = (codeBits (bitsValue bits)).length := by
          rw [mapM_symbolBit_length hm]
          simp [codeBits]
          omega
        refine ⟨0, by omega, bitsValue bits, hmem, ?_⟩
        rw [Nat.mul_zero, List.drop_zero, hm]
        exact congrArg some (bitsValue_inj hbits (irCodes_bitsValue_codeBits _ hmem).symm)
      | none =>
        simp only [hm, hl] at h
        obtain ⟨k, hk, c, hc, hwindow⟩ := ih (by simp; omega) h
        refine ⟨k + 1, by omega, c, hc, ?_⟩
        rwa [List.drop_drop, show 11 + 11 * k = 11 * (k + 1) by ring] at hwindow

theorem mapM_symbolBit_set_none {window : List RmtSymbolWord} {p : Nat} {bad : RmtSymbolWord}
    (hp : p < window.length) (hbad : symbolBit bad = none) :
  (window.set p bad).mapM symbolBit = none
  := by
  induction window generalizing p with
  | nil => cases hp
  | cons symbol window ih =>
    cases p with
    | zero => rw [List.set_cons_zero, List.mapM_cons, hbad]; rfl
    | succ p =>
      rw [List.set_cons_succ, List.mapM_cons,
        ih (by simpa using hp)]
      cases symbolBit symbol <;> rfl

/-- A pair that is neither bit in a window before the code stops the decoder there. -/
theorem decodeWindows_of_corrupted (ws : List (List RmtSymbolWord)) (rest : List RmtSymbolWord)
    (hmiss : ∀ w ∈ ws, MissWindow w) {p : Nat} (hp : p < 11 * ws.length) {bad : RmtSymbolWord}
    (hbad : symbolBit bad = none) {n : Nat} (hn : ws.length ≤ n) :
  decodeWindows n (ws.flatten.set p bad ++ rest) = none
  := by
  induction ws generalizing p n with
  | nil => simp at hp
  | cons w ws ih =>
    obtain ⟨hlen, bits, hbits, hlookup⟩ := hmiss w (List.mem_cons_self _ _)
    obtain ⟨n, rfl⟩ : ∃ n', n = n' + 1 := ⟨n - 1, by simp at hn; omega⟩
    rw [decodeWindows, List.flatten_cons]
    by_cases hp₁ : p < 11
    · rw [List.set_append_left _ _ (by omega), List.append_assoc,
        List.take_left' (by rw [List.length_set, hlen]),
        mapM_symbolBit_set_none (by omega) hbad]
    · rw [List.set_append_right _ _ (by omega), List.append_assoc, List.take_left' hlen,
        List.drop_left' hlen]
      simp only [Option.mem_def] at hbits
      simp only [hbits, hlookup, hlen]
      exact ih (fun w' hw' => hmiss w' (List.mem_cons_of_mem _ hw'))
        (by simp at hp; omega) (by simp at hn; omega)

/-! ### What a frame of the remote sends -/

/-- A frame of 48 pairs whose first aligned windows are bits with values outside the table,
and whose next window lies near the templates of a code of the table, sends exactly that
code's command, whatever the later pairs. -/
theorem parseIrCode_decodes_code (ws : List (List RmtSymbolWord)) (window rest : List RmtSymbolWord)
    (c : Nat) (id : EventId) (hc : (c, id) ∈ irCodes) (hmiss : ∀ w ∈ ws, MissWindow w)
    (hwindow : List.Forall₂ NearTemplate (codeBits c) window)
    (hlen : (ws.flatten ++ window ++ rest).length = 48) :
  (parseIrCode (ws.flatten ++ window ++ rest)).sent = [⟨.remote, id, 0⟩]
  := parseIrCode_of_code ws window rest hc hmiss (mapM_symbolBit_of_forall₂ hwindow) hlen

/-- A window of zeros, then the speed code `0b00100111101` with pairs near the edges of
their templates, then noise. -/
theorem parseIrCode_decodes_code_speed :
  ((0x13D : Nat), EventId.speed) ∈ irCodes ∧
    (∀ w ∈ [List.replicate 11 (templatePair false)], MissWindow w) ∧
    List.Forall₂ NearTemplate (codeBits 0x13D)
      ([⟨1390, 210⟩, ⟨1010, 590⟩, ⟨590, 1010⟩, ⟨1390, 210⟩, ⟨1010, 590⟩, ⟨590, 1010⟩,
        ⟨210, 1390⟩, ⟨590, 1390⟩, ⟨210, 1010⟩, ⟨1390, 590⟩, ⟨210, 1390⟩] : List RmtSymbolWord) ∧
    ([List.replicate 11 (templatePair false)].flatten ++
      ([⟨1390, 210⟩, ⟨1010, 590⟩, ⟨590, 1010⟩, ⟨1390, 210⟩, ⟨1010, 590⟩, ⟨590, 1010⟩,
        ⟨210, 1390⟩, ⟨590, 1390⟩, ⟨210, 1010⟩, ⟨1390, 590⟩, ⟨210, 1390⟩] : List RmtSymbolWord) ++
      List.replicate 26 (⟨3000, 20⟩ : RmtSymbolWord)).length = 48 ∧
    (parseIrCode ([List.replicate 11 (templatePair false)].flatten ++
      ([⟨1390, 210⟩, ⟨1010, 590⟩, ⟨590, 1010⟩, ⟨1390, 210⟩, ⟨1010, 590⟩, ⟨590, 1010⟩,
        ⟨210, 1390⟩, ⟨590, 1390⟩, ⟨210, 1010⟩, ⟨1390, 590⟩, ⟨210, 1390⟩] : List RmtSymbolWord) ++
      List.replicate 26 (⟨3000, 20⟩ : RmtSymbolWord))).sent = [⟨.remote, .speed, 0⟩]
  := ⟨by decide, by decide, by decide, by decide,
    parseIrCode_decodes_code _ _ _ 0x13D _ (by decide) (by decide) (by decide) (by decide)⟩

/-- Whatever the frame, `parse_ir_code` sends at most one command, and a command it sends
comes from a frame of 48 pairs with an aligned window `k < 4` whose pairs read, in order,
as the bits of a code of the table that stands for the command. -/
theorem parseIrCode_sound (symbols : List RmtSymbolWord) :
  (parseIrCode symbols).sent.length ≤ 1 ∧
    ∀ event ∈ (parseIrCode symbols).sent, symbols.length = 48 ∧ ∃ k < 4, ∃ c id,
      (c, id) ∈ irCodes ∧ event = ⟨.remote, id, 0⟩ ∧
      ((symbols.drop (11 * k)).take 11).mapM symbolBit = some (codeBits c)
  := by
  rw [parseIrCode_sent]
  split_ifs with hlen
  · cases hd : decodeWindows 4 symbols with
    | none => simp
    | some id =>
      obtain ⟨k, hk, c, hc, hwindow⟩ := decodeWindows_eq_some (by omega) hd
      simp only [Option.map_some', Option.toList_some, List.length_singleton, le_refl,
        List.mem_singleton, forall_eq, true_and]
      exact ⟨hlen, k, hk, c, id, hc, rfl, hwindow⟩
  · simp

/-- The code of the power button, then a logic 1: the shift runs with `bit_index` at 11. -/
theorem parseIrCode_shift_after_command :
  parseIrCode ((codeBits irCodePower).map templatePair ++ [templatePair true] ++
      List.replicate 36 (templatePair false))
    = ⟨[⟨.remote, .power, 0⟩], .undefinedShift 11⟩
  := by decide

/-- A pair corrupted in the window before the code: the parse returns there and the code is
never read. -/
theorem parseIrCode_corrupted_before_code :
  ¬ ∀ (ws : List (List RmtSymbolWord)) (window rest : List RmtSymbolWord) (c : Nat)
      (id : EventId) (p : Nat) (bad : RmtSymbolWord), (c, id) ∈ irCodes →
      (∀ w ∈ ws, MissWindow w) → window.mapM symbolBit = some (codeBits c) →
      (ws.flatten ++ window ++ rest).length = 48 → p < 48 →
      (p < 11 * ws.length ∨ 11 * ws.length + 11 ≤ p) →
      parseLogic0 bad = false → parseLogic1 bad = false →
      (parseIrCode ((ws.flatten ++ window ++ rest).set p bad)).sent = [⟨.remote, id, 0⟩]
  := fun h => absurd
    (h [List.replicate 11 (templatePair false)] ((codeBits irCodePower).map templatePair)
      (List.replicate 26 (templatePair false)) irCodePower .power 0 ⟨0, 0⟩ (by decide) (by decide)
      (by decide) (by decide) (by decide) (.inl (by decide)) (by decide) (by decide))
    (by decide)

/-- A pair that matches neither template, put in place of a pair outside the window of the
code: after that window the command is still sent; before it, nothing is. -/
theorem parseIrCode_corrupted_pair (ws : List (List RmtSymbolWord))
    (window rest : List RmtSymbolWord) (c : Nat) (id : EventId) (hc : (c, id) ∈ irCodes)
    (hmiss : ∀ w ∈ ws, MissWindow w) (hwindow : window.mapM symbolBit = some (codeBits c))
    (hlen : (ws.flatten ++ window ++ rest).length = 48) (p : Nat) (bad : RmtSymbolWord)
    (hbad : parseLogic0 bad = false ∧ parseLogic1 bad = false) :
  (11 * ws.length + 11 ≤ p →
      (parseIrCode ((ws.flatten ++ window ++ rest).set p bad)).sent = [⟨.remote, id, 0⟩]) ∧
    (p < 11 * ws.length → (parseIrCode ((ws.flatten ++ window ++ rest).set p bad)).sent = [])
  := by
  have hw : window.length = 11 := by rw [← mapM_symbolBit_length hwindow]; rfl
  have hflat := length_flatten_of_miss hmiss
  have hnone : symbolBit bad = none := by simp [symbolBit, hbad.1, hbad.2]
  refine ⟨fun hp => ?_, fun hp => ?_⟩
  · rw [List.set_append_right _ _ (by simp [hflat, hw]; omega)]
    exact parseIrCode_of_code ws window _ hc hmiss hwindow (by simpa using hlen)
  · rw [List.append_assoc, List.set_append_left _ _ (by omega), parseIrCode_sent,
      if_pos (by simpa using hlen), decodeWindows_of_corrupted ws _ hmiss hp hnone
        (by simp only [List.length_append, hflat, hw] at hlen; omega)]
    rfl

/-- The frame of a window of zeros, the power code and zeros, with a pair that matches
neither template put before the code, at 0, and after it, at 30. -/
theorem parseIrCode_corrupted_pair_before_after :
  (irCodePower, EventId.power) ∈ irCodes ∧
    (∀ w ∈ [List.replicate 11 (templatePair false)], MissWindow w) ∧
    ((codeBits irCodePower).map templatePair).mapM symbolBit = some (codeBits irCodePower) ∧
    ([List.replicate 11 (templatePair false)].flatten ++ (codeBits irCodePower).map templatePair ++
      List.replicate 26 (templatePair false)).length = 48 ∧
    (parseLogic0 ⟨0, 0⟩ = false ∧ parseLogic1 ⟨0, 0⟩ = false) ∧
    (0 < 11 * [List.replicate 11 (templatePair false)].length ∧
      (parseIrCode (([List.replicate 11 (templatePair false)].flatten ++
        (codeBits irCodePower).map templatePair ++ List.replicate 26 (templatePair false)).set 0
          ⟨0, 0⟩)).sent = []) ∧
    (11 * [List.replicate 11 (templatePair false)].length + 11 ≤ 30 ∧
      (parseIrCode (([List.replicate 11 (templatePair false)].flatten ++
        (codeBits irCodePower).map templatePair ++ List.replicate 26 (templatePair false)).set 30
          ⟨0, 0⟩)).sent = [⟨.remote, .power, 0⟩])
  := ⟨by decide, by decide, by decide, by decide, by decide,
    ⟨by decide, (parseIrCode_corrupted_pair _ _ _ irCodePower .power (by decide) (by decide)
      (by decide) (by decide) 0 ⟨0, 0⟩ (by decide)).2 (by decide)⟩,
    ⟨by decide, (parseIrCode_corrupted_pair _ _ _ irCodePower .power (by decide) (by decide)
      (by decide) (by decide) 30 ⟨0, 0⟩ (by decide)).1 (by decide)⟩⟩

end HomeKitFan
