import Nozomi.ExtraData.Reading

/-!
# Fields that are written and read back

Fields are put into a buffer of zeros by `e_u` and `e_ue`, and taken from its start by `d_u` and `d_ue`. The writer
loses codes that are too long for its first shift, the reader the bits in front of the last whole byte of a field.
-/

namespace Nozomi

namespace ExtraDataHandler

variable {handler : ExtraDataHandler} {bits : List Bool} {position : Nat} {elements : List (Descriptor × Nat)}

/-! ### Writing -/

def zeroed (handler : ExtraDataHandler) : ExtraDataHandler :=
  { handler with
    rbspBuf := fun _ => 0
    bitPtr := 8
    bytePtr := 0 }

def rewound (handler : ExtraDataHandler) : ExtraDataHandler :=
  { handler with
    bitPtr := 8
    bytePtr := 0 }

def putAll (handler : ExtraDataHandler) (elements : List (Descriptor × Nat)) : ExtraDataHandler :=
  elements.foldl put handler

/-- A width of 1 to 32 bits that the value fits, or a value that has an Exp-Golomb code of 32 bits at most. -/
def Writable (element : Descriptor × Nat) : Prop :=
  element.1.Fits element.2 ∧ ∀ n, element.1 = .u n → 1 ≤ n ∧ n ≤ 32

structure Storable (elements : List (Descriptor × Nat)) : Prop where
  writable : ∀ element ∈ elements, Writable element
  fits : (codes elements).length ≤ 8 * rbspSize

def stored (position : Nat) : Descriptor × Nat → List Bool
  | (.u n, value) => natBits n value
  | (.ue, value) => appended (8 - position % 8) (value + 1) (2 * leadingZeros value + 1)

def storedAll : (position : Nat) → List (Descriptor × Nat) → List Bool
  | _, [] => []
  | position, element :: elements =>
    stored position element ++ storedAll (position + (element.1.code element.2).length) elements

theorem stored_length (position : Nat) (element : Descriptor × Nat) :
    (stored position element).length = (element.1.code element.2).length := by
  obtain ⟨descriptor, value⟩ := element
  cases descriptor with
  | u n => rfl
  | ue =>
    simp only [stored, appended, Descriptor.code, expGolomb_length]
    split
    · exact natBits_length _ _
    · exact List.length_replicate

theorem storedAll_length (position : Nat) (elements : List (Descriptor × Nat)) :
    (storedAll position elements).length = (codes elements).length := by
  induction elements generalizing position with
  | nil => rfl
  | cons element elements ih =>
    rw [storedAll, List.length_append, stored_length, ih, codes_cons, List.length_append]

theorem zeroed_written (handler : ExtraDataHandler) : handler.zeroed.Written [] := by
  refine ⟨rfl, rfl, fun position => ?_⟩
  rw [bit, List.getD_nil]
  exact Nat.zero_testBit _

theorem Written.put {element : Descriptor × Nat} (hwritten : handler.Written bits) (hwritable : Writable element) :
    (handler.put element).Written (bits ++ stored bits.length element) := by
  obtain ⟨descriptor, value⟩ := element
  obtain ⟨hfits, hwidth⟩ := hwritable
  cases descriptor with
  | u n => exact hwritten.field hfits (hwidth n rfl).2
  | ue =>
    have hcode := hwritten.eUe hfits
    rw [hwritten.bitPtr] at hcode
    exact hcode

theorem Written.putAll (hwritten : handler.Written bits) (hwritable : ∀ element ∈ elements, Writable element) :
    (handler.putAll elements).Written (bits ++ storedAll bits.length elements) := by
  induction elements generalizing handler bits with
  | nil => rwa [storedAll, List.append_nil]
  | cons element elements ih =>
    obtain ⟨hfirst, hrest⟩ := List.forall_mem_cons.mp hwritable
    have hlast := ih (hwritten.put hfirst) hrest
    rwa [List.length_append, stored_length, List.append_assoc] at hlast

theorem Written.bitsFrom_eq {first second third : List Bool} (hwritten : handler.Written (first ++ (second ++ third))) :
    handler.bitsFrom first.length second.length = second := by
  apply List.ext_getElem bitsFrom_length
  intro index hindex hsecond
  have hbit := hwritten.bit (first.length + index)
  rw [List.getD_append_right _ _ _ _ (Nat.le_add_right _ _), Nat.add_sub_cancel_left,
    List.getD_append _ _ _ _ hsecond, List.getD_eq_getElem _ _ hsecond] at hbit
  simp only [bitsFrom, List.getElem_map, List.getElem_range]
  exact hbit

/-! ### Reading -/

def get (handler : ExtraDataHandler) : Descriptor → Option (Nat × ExtraDataHandler)
  | .u n => some (handler.dU n)
  | .ue => handler.dUe

def getAll (handler : ExtraDataHandler) : List Descriptor → Option (List Nat × ExtraDataHandler)
  | [] => some ([], handler)
  | descriptor :: descriptors => do
    let (value, handler) ← handler.get descriptor
    let (values, handler) ← handler.getAll descriptors
    some (value :: values, handler)

/-- A field at a position comes back: the code is not too long for the writer, and the value, or the suffix of the
code, fits the last whole byte and the bits behind it. -/
def Survives (position : Nat) : Descriptor × Nat → Prop
  | (.u n, value) => value < 2 ^ (8 + (position + n) % 8)
  | (.ue, value) =>
    2 * leadingZeros value + 1 ≤ 32 + (8 - position % 8) ∧
      (value + 1) % 2 ^ leadingZeros value < 2 ^ (8 + (position + (2 * leadingZeros value + 1)) % 8)

def AllSurvive : (position : Nat) → List (Descriptor × Nat) → Prop
  | _, [] => True
  | position, element :: elements =>
    Survives position element ∧ AllSurvive (position + (element.1.code element.2).length) elements

theorem le_dUeZeros {rounds leadZeros zeros lead : Nat} {after : ExtraDataHandler}
    (hzeros : ∀ index < zeros, handler.bit (position + index) = false)
    (hloop : dUeZeros rounds leadZeros (handler.seek position) = some (lead, after)) :
    leadZeros + zeros ≤ lead ∧ ∃ last, after = handler.seek last := by
  induction rounds generalizing position leadZeros zeros with
  | zero => cases hloop
  | succ rounds ih =>
    rw [dUeZeros, dU_one] at hloop
    dsimp only at hloop
    split at hloop
    · have hnext : ∀ index < zeros - 1, handler.bit (position + 1 + index) = false := by
        intro index hindex
        rw [Nat.add_assoc, Nat.add_comm 1]
        exact hzeros (index + 1) (by omega)
      obtain ⟨hle, hlast⟩ := ih hnext hloop
      exact ⟨by omega, hlast⟩
    have hone : ¬(handler.bit position).toNat = 0 := ‹_›
    obtain rfl : zeros = 0 := by
      by_contra hsome
      have hfirst := hzeros 0 (Nat.pos_of_ne_zero hsome)
      rw [Nat.add_zero] at hfirst
      rw [hfirst] at hone
      exact hone rfl
    cases hloop
    exact ⟨Nat.le_refl _, position + 1, rfl⟩

theorem dUe_lost {value read : Nat} {after : ExtraDataHandler} (hvalue : value + 1 < 2 ^ 32)
    (hlong : 33 < 2 * leadingZeros value + 1)
    (hlost : handler.bitsFrom position (2 * leadingZeros value + 1) =
      List.replicate (2 * leadingZeros value + 1) false)
    (hread : (handler.seek position).dUe = some (read, after)) : read ≠ value := by
  have hzeros : ∀ index < 2 * leadingZeros value + 1, handler.bit (position + index) = false := by
    intro index hindex
    apply (List.eq_replicate_iff.mp hlost).2
    exact List.mem_map.mpr ⟨index, List.mem_range.mpr hindex, rfl⟩
  rw [dUe, Option.bind_eq_bind, Option.bind_eq_some_iff] at hread
  obtain ⟨⟨lead, behind⟩, hloop, hread⟩ := hread
  obtain ⟨hle, last, rfl⟩ := le_dUeZeros hzeros hloop
  obtain ⟨suffix, hdU, hlt, -⟩ := handler.dU_seek last lead
  simp only [hdU, Option.some.injEq, Prod.mk.injEq] at hread
  -- The shift of the one is by more than 32, and the suffix has 15 bits at most
  have hshift : shiftLeft32 1 lead = 0 := if_neg (by omega)
  have hsmall : suffix < 2 ^ 15 := by
    apply hlt.trans_le
    apply Nat.pow_le_pow_right Nat.zero_lt_two
    omega
  have hlarge : 2 ^ 17 ≤ value + 1 := by
    apply le_trans _ (two_pow_leadingZeros_le value)
    apply Nat.pow_le_pow_right Nat.zero_lt_two
    omega
  have hvalue' := hread.1
  rw [hshift, sub32] at hvalue'
  omega

theorem get_stored {element : Descriptor × Nat} (hwritable : Writable element)
    (hbits : handler.bitsFrom position (element.1.code element.2).length = stored position element) :
    (Survives position element → (handler.seek position).get element.1 =
        some (element.2, handler.seek (position + (element.1.code element.2).length))) ∧
      ∀ after, (handler.seek position).get element.1 = some (element.2, after) → Survives position element := by
  obtain ⟨descriptor, value⟩ := element
  obtain ⟨hfits, hwidth⟩ := hwritable
  cases descriptor with
  | u n =>
    simp only [Descriptor.code, natBits_length, stored] at hbits ⊢
    have hnumber : handler.numberFrom position n = value := by
      rw [numberFrom, hbits, bitsValue_natBits]
      exact Nat.mod_eq_of_lt hfits
    have hiff := handler.dU_seek_eq_iff position n
    obtain ⟨read, hdU, -⟩ := handler.dU_seek position n
    rw [hnumber, hdU] at hiff
    dsimp only at hiff
    rw [get, hdU, Survives, ← hiff]
    refine ⟨fun hsame => by rw [hsame], fun after hread => ?_⟩
    exact congrArg Prod.fst (Option.some.inj hread)
  | ue =>
    have hvalue : value + 1 < 2 ^ 32 := hfits
    simp only [Descriptor.code, expGolomb_length, stored] at hbits ⊢
    rw [get, Survives]
    by_cases hkept : 2 * leadingZeros value + 1 ≤ 32 + (8 - position % 8)
    · rw [appended, if_pos hkept] at hbits
      obtain ⟨read, hdUe, hiff⟩ := dUe_seek hvalue hbits
      rw [hdUe, ← hiff]
      refine ⟨fun hsame => by rw [hsame.2], fun after hread => ⟨hkept, ?_⟩⟩
      exact congrArg Prod.fst (Option.some.inj hread)
    · rw [appended, if_neg hkept] at hbits
      refine ⟨fun hsurvives => absurd hsurvives.1 hkept, fun after hread => ?_⟩
      exact absurd rfl (dUe_lost hvalue (by omega) hbits hread)

theorem getAll_storedAll {first : List Bool} (hwritable : ∀ element ∈ elements, Writable element)
    (hwritten : handler.Written (first ++ storedAll first.length elements)) :
    (AllSurvive first.length elements → (handler.seek first.length).getAll (elements.map Prod.fst) =
        some (elements.map Prod.snd, handler.seek (first.length + (codes elements).length))) ∧
      ∀ after, (handler.seek first.length).getAll (elements.map Prod.fst) =
        some (elements.map Prod.snd, after) → AllSurvive first.length elements := by
  induction elements generalizing first with
  | nil => exact ⟨fun _ => rfl, fun _ _ => trivial⟩
  | cons element elements ih =>
    obtain ⟨hfirst, hrest⟩ := List.forall_mem_cons.mp hwritable
    rw [storedAll] at hwritten
    have hbits := hwritten.bitsFrom_eq
    rw [stored_length] at hbits
    obtain ⟨hget, hsurvives⟩ := get_stored hfirst hbits
    rw [← List.append_assoc, ← stored_length first.length, ← List.length_append] at hwritten
    obtain ⟨hgetAll, hsurvive⟩ := ih hrest hwritten
    rw [List.length_append, stored_length] at hgetAll hsurvive
    rw [AllSurvive, List.map_cons, List.map_cons, getAll]
    refine ⟨fun ⟨hone, hall⟩ => ?_, fun after hread => ?_⟩
    · simp only [hget hone, Option.bind_eq_bind, Option.bind_some, hgetAll hall, codes_cons, List.length_append,
        ← Nat.add_assoc]
    · obtain ⟨⟨value, behind⟩, hvalue, hread⟩ := Option.bind_eq_some_iff.mp hread
      obtain ⟨⟨values, last⟩, hvalues, hread⟩ := Option.bind_eq_some_iff.mp hread
      cases hread
      have hone := hsurvives _ hvalue
      rw [hget hone] at hvalue
      cases hvalue
      exact ⟨hone, hsurvive _ hvalues⟩

/-! ### The round trip -/

/-- The fields are read back from the start with their values, up to the place where the writer is. -/
def ReadsBack (handler : ExtraDataHandler) (elements : List (Descriptor × Nat)) : Prop :=
  ∃ after, (handler.zeroed.putAll elements).rewound.getAll (elements.map Prod.fst) =
      some (elements.map Prod.snd, after) ∧
    after.bytePtr = (handler.zeroed.putAll elements).bytePtr ∧
    after.bitPtr = (handler.zeroed.putAll elements).bitPtr

/-- Fields are read back if and only if all of them survive. -/
theorem readsBack_iff (handler : ExtraDataHandler) (hstorable : Storable elements) :
    handler.ReadsBack elements ↔ AllSurvive 0 elements := by
  have hwritten := handler.zeroed_written.putAll hstorable.writable
  obtain ⟨hgetAll, hsurvive⟩ := getAll_storedAll hstorable.writable hwritten
  constructor
  · rintro ⟨after, hread, -⟩
    exact hsurvive after hread
  · intro hall
    refine ⟨_, hgetAll hall, ?_, ?_⟩
    · rw [hwritten.bytePtr, List.nil_append, storedAll_length, seek, List.length_nil, Nat.zero_add]
    · rw [hwritten.bitPtr, List.nil_append, storedAll_length, seek, List.length_nil, Nat.zero_add]

/-- A field of 12 bits and one of 8 that comes back, in front of one of 16 bits. -/
theorem readsBack_iff_widths :
    Storable [(.u 12, 0x9), (.u 8, 0x5A), (.ue, 6), (.u 16, 0x0102)] ∧
      (new.ReadsBack [(.u 12, 0x9), (.u 8, 0x5A), (.ue, 6), (.u 16, 0x0102)] ↔
        AllSurvive 0 [(.u 12, 0x9), (.u 8, 0x5A), (.ue, 6), (.u 16, 0x0102)]) := by
  have hstorable : Storable [(.u 12, 0x9), (.u 8, 0x5A), (.ue, 6), (.u 16, 0x0102)] := by
    refine ⟨?_, by decide⟩
    simp [Writable, Descriptor.Fits]
  exact ⟨hstorable, readsBack_iff new hstorable⟩

/-- Of two whole bytes the reader makes one, and a long code is not written. -/
theorem readsBack_counterexample :
    (Storable [(.u 16, 0x0101)] ∧ ¬new.ReadsBack [(.u 16, 0x0101)]) ∧
      Storable [(.ue, 2 ^ 20)] ∧ ¬new.ReadsBack [(.ue, 2 ^ 20)] := by
  have hbytes : ((new.zeroed.putAll [(.u 16, 0x0101)]).rewound.getAll [.u 16]).map Prod.fst = some [1] := by decide
  have hcode : ((new.zeroed.putAll [(.ue, 2 ^ 20)]).rewound.getAll [.ue]).map Prod.fst = none := by
    decide +kernel
  refine ⟨⟨⟨?_, by decide⟩, ?_⟩, ⟨?_, by decide +kernel⟩, ?_⟩
  · simp [Writable, Descriptor.Fits]
  · rintro ⟨after, hread, -⟩
    have hvalues : some [1] = some [0x0101] := hbytes.symm.trans (congrArg (Option.map Prod.fst) hread)
    exact absurd hvalues (by decide)
  · simp [Writable, Descriptor.Fits]
  · rintro ⟨after, hread, -⟩
    have hvalues : none = some [2 ^ 20] := hcode.symm.trans (congrArg (Option.map Prod.fst) hread)
    exact absurd hvalues (by decide)

end ExtraDataHandler

end Nozomi
