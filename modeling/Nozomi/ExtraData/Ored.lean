import Nozomi.ExtraData.Message

/-!
# What `e_u` leaves of the buffer

`e_u` ors the bits of a symbol into `rbsp_buf`, whatever the buffer holds. A symbol that is too large for its width is
also ored into the bits in front of it, up to the start of their byte; one whose width is more than 32 bits behind its
first byte is not written at all. So a bit is set behind a message if it was set before, or if an element sets it.
-/

namespace Nozomi

namespace ExtraDataHandler

variable {handler : ExtraDataHandler} {position symbol numBits : Nat} {elements : List (Descriptor × Nat)}

structure WritesAt (handler : ExtraDataHandler) (position : Nat) : Prop where
  bytePtr : handler.bytePtr = position / 8
  bitPtr : handler.bitPtr = 8 - position % 8

def Ors (position symbol numBits other : Nat) : Bool :=
  decide (0 < numBits ∧ numBits ≤ 32 + (8 - position % 8) ∧ position / 8 ≤ other / 8 ∧ other < position + numBits) &&
    symbol.testBit (position + numBits - 1 - other)

/-- The handler has gone on to a position and has ored bits. -/
structure HasOred (handler after : ExtraDataHandler) (position : Nat) (ors : Nat → Bool) : Prop where
  writesAt : after.WritesAt position
  bit : ∀ other, after.bit other = (handler.bit other || ors other)

theorem testBit_congr {first second : Prop} [Decidable first] [Decidable second] {index other : Nat}
    (hiff : first ↔ second) (hindex : first → index = other) :
    (decide first && symbol.testBit index) = (decide second && symbol.testBit other) := by
  by_cases hfirst : first
  · rw [decide_eq_true hfirst, decide_eq_true (hiff.mp hfirst), hindex hfirst]
  · rw [decide_eq_false hfirst, decide_eq_false (hiff.not.mp hfirst), Bool.false_and, Bool.false_and]

theorem HasOred.trans {first second third : ExtraDataHandler} {middle : Nat} {ors orsNext : Nat → Bool}
    (hfirst : first.HasOred second middle ors) (hsecond : second.HasOred third position orsNext) :
    first.HasOred third position fun other => ors other || orsNext other :=
  ⟨hsecond.writesAt, fun other => by rw [hsecond.bit, hfirst.bit, Bool.or_assoc]⟩

theorem HasOred.congr {after : ExtraDataHandler} {ors orsToo : Nat → Bool} (hored : handler.HasOred after position ors)
    (hsame : ∀ other, ors other = orsToo other) : handler.HasOred after position orsToo :=
  ⟨hored.writesAt, fun other => by rw [hored.bit, hsame]⟩

theorem WritesAt.eURest (hwrites : handler.WritesAt position) (hshort : numBits < handler.bitPtr) :
    handler.HasOred (handler.eURest symbol numBits) (position + numBits) (Ors position symbol numBits) := by
  have hbitPtr := hwrites.bitPtr
  have hbytePtr := hwrites.bytePtr
  rw [ExtraDataHandler.eURest]
  split
  · obtain rfl : numBits = 0 := ‹_›
    exact ⟨hwrites, fun other => by simp [Ors]⟩
  have hleft : ¬handler.bitPtr - numBits = 0 := by omega
  dsimp only
  rw [if_neg hleft]
  refine ⟨⟨?_, ?_⟩, fun other => ?_⟩
  · change handler.bytePtr = _
    omega
  · dsimp only
    omega
  · change (handler.orByte _).bit other = _
    rw [bit_orByte]
    congr 1
    have hshift : handler.bitPtr - numBits < 32 := by omega
    rw [Ors, shiftLeft32, if_pos hshift, Nat.testBit_mod_two_pow, Nat.testBit_shiftLeft, ← Bool.and_assoc,
      ← Bool.and_assoc, ← Bool.decide_and, ← Bool.decide_and]
    apply testBit_congr <;> omega

theorem WritesAt.round {shift : Nat} (hwrites : handler.WritesAt position)
    (hsymbol : symbol < 2 ^ 32 ∨ shift < 32) :
    handler.HasOred { handler.orByte (shiftRight32 symbol shift) with bytePtr := handler.bytePtr + 1, bitPtr := 8 }
      (position + handler.bitPtr)
      (fun other =>
        decide (position / 8 = other / 8) && symbol.testBit (position + handler.bitPtr + shift - 1 - other)) := by
  have hbitPtr := hwrites.bitPtr
  have hbytePtr := hwrites.bytePtr
  refine ⟨⟨?_, ?_⟩, fun other => ?_⟩
  · dsimp only
    omega
  · dsimp only
    omega
  · change (handler.orByte _).bit other = _
    have hright : shiftRight32 symbol shift = symbol >>> shift := by
      rcases hsymbol with hsmall | hfew
      · exact shiftRight32_eq hsmall shift
      · rw [shiftRight32, if_pos hfew]
    rw [bit_orByte, hright, Nat.testBit_shiftRight]
    congr 1
    apply testBit_congr <;> omega

theorem WritesAt.eUFrom {rounds remBits : Nat} (hwrites : handler.WritesAt position)
    (hsymbol : symbol < 2 ^ 32 ∨ remBits ≤ 32) (hrounds : remBits ≤ rounds) (hsmall : remBits < 2 ^ 32) :
    let last := eULoop rounds symbol remBits handler
    handler.HasOred (last.2.2.eURest last.1 last.2.1) (position + remBits) (Ors position symbol remBits) := by
  induction rounds generalizing handler position symbol remBits with
  | zero =>
    obtain rfl : remBits = 0 := Nat.le_zero.mp hrounds
    have hpositive : 0 < handler.bitPtr := by
      have hbitPtr := hwrites.bitPtr
      omega
    exact hwrites.eURest hpositive
  | succ rounds ih =>
    have hbitPtr := hwrites.bitPtr
    rw [eULoop]
    split
    · obtain ⟨shift, rfl⟩ := Nat.exists_eq_add_of_le ‹handler.bitPtr ≤ remBits›
      dsimp only
      rw [Nat.add_sub_cancel_left, lowSymbol_eq (by omega)]
      have hround := hwrites.round (show symbol < 2 ^ 32 ∨ shift < 32 by omega)
      have hword : (if shift ≤ 32 then symbol % 2 ^ shift else 0) < 2 ^ 32 ∨ shift ≤ 32 := by
        by_cases hkept : shift ≤ 32
        · exact .inr hkept
        · rw [if_neg hkept]
          exact .inl (Nat.two_pow_pos 32)
      have hlast := hround.trans (ih hround.writesAt hword (by omega) (by omega))
      rw [Nat.add_assoc] at hlast
      apply hlast.congr
      intro other
      rw [Ors, Ors, Nat.add_assoc]
      by_cases hkept : shift ≤ 32
      · -- The same bit of the symbol, in the first byte or in the bytes behind it
        rw [if_pos hkept, Nat.testBit_mod_two_pow, ← Bool.and_assoc, ← Bool.decide_and, ← Bool.and_or_distrib_right,
          ← Bool.decide_or]
        apply testBit_congr <;> omega
      have hword : symbol < 2 ^ 32 := by omega
      have hnone : ¬(0 < handler.bitPtr + shift ∧ handler.bitPtr + shift ≤ 32 + (8 - position % 8) ∧
          position / 8 ≤ other / 8 ∧ other < position + (handler.bitPtr + shift)) := by
        omega
      rw [if_neg hkept, Nat.zero_testBit, Bool.and_false, Bool.or_false, decide_eq_false hnone, Bool.false_and]
      by_cases hbyte : position / 8 = other / 8
      · have hpow : 2 ^ 32 ≤ 2 ^ (position + (handler.bitPtr + shift) - 1 - other) :=
          Nat.pow_le_pow_right Nat.zero_lt_two (by omega)
        rw [Nat.testBit_lt_two_pow (hword.trans_le hpow), Bool.and_false]
      · rw [decide_eq_false hbyte, Bool.false_and]
    · exact hwrites.eURest (Nat.lt_of_not_le ‹_›)

theorem WritesAt.eU (hwrites : handler.WritesAt position) (hsymbol : symbol < 2 ^ 32 ∨ numBits ≤ 32)
    (hsmall : numBits < 2 ^ 32) :
    handler.HasOred (handler.eU symbol numBits) (position + numBits) (Ors position symbol numBits) :=
  hwrites.eUFrom hsymbol (Nat.le_refl _) hsmall

/-! ### Elements -/

def symbolOf : Descriptor × Nat → Nat × Nat
  | (.u n, value) => (value, n)
  | (.ue, value) => (max ((value + 1) % 2 ^ 32) 1, 2 * Nat.log 2 ((value + 1) % 2 ^ 32) + 1)

def width (elements : List (Descriptor × Nat)) : Nat := (elements.map fun element => (symbolOf element).2).sum

def Sets : (position : Nat) → List (Descriptor × Nat) → Nat → Bool
  | _, [], _ => false
  | position, element :: elements, other =>
    Ors position (symbolOf element).1 (symbolOf element).2 other ||
      Sets (position + (symbolOf element).2) elements other

theorem eUe_eq (handler : ExtraDataHandler) (value : Nat) :
    handler.eUe value = handler.eU (symbolOf (.ue, value)).1 (symbolOf (.ue, value)).2 := by
  have hcongr : ∀ other, (other + 1) % 2 ^ 32 = (value + 1) % 2 ^ 32 → handler.eUe value = handler.eUe other := by
    intro other hother
    rw [eUe, eUe, hother]
  rcases Nat.eq_zero_or_pos ((value + 1) % 2 ^ 32) with hzero | hpositive
  · rw [symbolOf, hcongr (2 ^ 32 - 1) (by omega), hzero]
    rfl
  · have hvalue : (value + 1) % 2 ^ 32 - 1 + 1 = (value + 1) % 2 ^ 32 := Nat.sub_add_cancel hpositive
    have hsmall : (value + 1) % 2 ^ 32 < 2 ^ 32 := Nat.mod_lt _ (Nat.two_pow_pos 32)
    rw [hcongr ((value + 1) % 2 ^ 32 - 1) (by omega), eUe_eq_eU handler (by omega), leadingZeros, hvalue, symbolOf,
      Nat.max_eq_left hpositive]

theorem symbolOf_fits {element : Descriptor × Nat} (hwidth : ∀ n, element.1 = .u n → n ≤ 32) :
    ((symbolOf element).1 < 2 ^ 32 ∨ (symbolOf element).2 ≤ 32) ∧ (symbolOf element).2 < 2 ^ 32 := by
  obtain ⟨descriptor, value⟩ := element
  cases descriptor with
  | u n =>
    have hn := hwidth n rfl
    exact ⟨.inr hn, show n < 2 ^ 32 by omega⟩
  | ue =>
    have hlog := Nat.log_le_self 2 ((value + 1) % 2 ^ 32)
    have hsmall : Nat.log 2 ((value + 1) % 2 ^ 32) < 32 := by
      apply Nat.log_lt_of_lt_pow'
      · decide
      · exact Nat.mod_lt _ (Nat.two_pow_pos 32)
    refine ⟨.inl (Nat.max_lt.mpr ⟨Nat.mod_lt _ (Nat.two_pow_pos 32), by decide⟩), ?_⟩
    change 2 * Nat.log 2 ((value + 1) % 2 ^ 32) + 1 < 2 ^ 32
    omega

theorem WritesAt.put {element : Descriptor × Nat} (hwrites : handler.WritesAt position)
    (hwidth : ∀ n, element.1 = .u n → n ≤ 32) :
    handler.HasOred (handler.put element) (position + (symbolOf element).2)
      (Ors position (symbolOf element).1 (symbolOf element).2) := by
  obtain ⟨hfits, hsmall⟩ := symbolOf_fits hwidth
  have hput : handler.put element = handler.eU (symbolOf element).1 (symbolOf element).2 := by
    obtain ⟨descriptor, value⟩ := element
    cases descriptor with
    | u n => rfl
    | ue => exact eUe_eq handler value
  rw [hput]
  exact hwrites.eU hfits hsmall

theorem WritesAt.putAll (hwrites : handler.WritesAt position)
    (hwidth : ∀ element ∈ elements, ∀ n, element.1 = .u n → n ≤ 32) :
    handler.HasOred (elements.foldl ExtraDataHandler.put handler) (position + width elements)
      (Sets position elements) := by
  induction elements generalizing handler position with
  | nil => exact ⟨hwrites, fun other => (Bool.or_false _).symm⟩
  | cons element elements ih =>
    obtain ⟨hfirst, hrest⟩ := List.forall_mem_cons.mp hwidth
    have hput := hwrites.put hfirst
    have hlast := hput.trans (ih hput.writesAt hrest)
    rw [Nat.add_assoc] at hlast
    exact hlast

/-! ### The message -/

def trailing (count : Nat) : List (Descriptor × Nat) :=
  (if count % 8 = 0 then [] else [(.u 1, 1), (.u (7 - count % 8), 0)]) ++ [(.u 1, 1), (.u 7, 0)]

theorem createFramePack_eq (handler : ExtraDataHandler) :
    handler.createFramePack = handler.framePackingArrangement.elements.foldl put handler := by
  have hkept : ((handler.eUe handler.framePackingArrangement.id).eU
      handler.framePackingArrangement.cancelFlag 1).framePackingArrangement = handler.framePackingArrangement :=
    ((keeps_eUe handler _).trans (keeps_eU _ _ _)).framePackingArrangement
  rw [createFramePack, FramePackArrangement.elements, FramePackArrangement.details]
  by_cases hzero : handler.framePackingArrangement.cancelFlag = 0
  · simp only [if_pos hzero, createArrangement_eq, hkept, List.foldl_append, List.foldl_cons, List.foldl_nil, put]
  · simp only [if_neg hzero, List.foldl_append, List.foldl_cons, List.foldl_nil, put]

theorem createTrailingBits_eq (hwrites : handler.WritesAt position) :
    handler.createTrailingBits = (trailing position).foldl put handler := by
  have hbitPtr := hwrites.bitPtr
  have hone : (handler.eU 1 1).bitPtr = 8 - (position + 1) % 8 :=
    (hwrites.eU (.inr (by decide)) (by decide)).writesAt.bitPtr
  have hnone : ∀ after : ExtraDataHandler, after.eU 0 0 = after := fun _ => rfl
  have hput : ∀ (after : ExtraDataHandler) (n value : Nat), after.put (.u n, value) = after.eU value n :=
    fun _ _ _ => rfl
  rw [createTrailingBits, trailing]
  by_cases hwhole : position % 8 = 0
  · rw [if_pos hwhole, if_neg (by omega)]
    simp only [List.nil_append, List.foldl_cons, List.foldl_nil, hput]
  · have hcount : ¬7 - position % 8 = 0 → (handler.eU 1 1).bitPtr = 7 - position % 8 := by omega
    rw [if_neg hwhole, if_pos (by omega)]
    simp only [List.cons_append, List.nil_append, List.foldl_cons, List.foldl_nil, hput]
    by_cases hlast : 7 - position % 8 = 0
    · rw [hlast, if_neg (by omega), hnone]
    · rw [hcount hlast, if_pos (by omega)]

end ExtraDataHandler

namespace FramePackArrangement

def message (pack : FramePackArrangement) : List (Descriptor × Nat) :=
  pack.elements ++ ExtraDataHandler.trailing (ExtraDataHandler.width pack.elements)

theorem message_width (pack : FramePackArrangement) : ∀ element ∈ pack.message, ∀ n, element.1 = .u n → n ≤ 32 := by
  rw [message, elements, details, arrangement, flags, grid, ExtraDataHandler.trailing]
  split_ifs <;> simp <;> omega

end FramePackArrangement

namespace ExtraDataHandler

variable {handler : ExtraDataHandler}

theorem hasOred_message (hwrites : handler.WritesAt 0) :
    handler.HasOred handler.createFramePack.createTrailingBits (width handler.framePackingArrangement.message)
      (Sets 0 handler.framePackingArrangement.message) := by
  have hmessage := hwrites.putAll handler.framePackingArrangement.message_width
  have helements : ∀ element ∈ handler.framePackingArrangement.elements, ∀ n, element.1 = .u n → n ≤ 32 :=
    fun element helement => handler.framePackingArrangement.message_width element (List.mem_append_left _ helement)
  have hfront := hwrites.putAll helements
  rw [Nat.zero_add] at hmessage hfront
  rw [← createFramePack_eq] at hfront
  rw [createTrailingBits_eq hfront.writesAt, createFramePack_eq, ← List.foldl_append]
  exact hmessage

end ExtraDataHandler

end Nozomi
