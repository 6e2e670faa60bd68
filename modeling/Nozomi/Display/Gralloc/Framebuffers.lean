import Mathlib.Data.Finset.Card
import Mathlib.Data.Finset.Range
import Nozomi.Base.Run
import Nozomi.Display.Gralloc.Handle

/-!
# The slots of the framebuffer

The allocator hands out the buffers of the framebuffer by a mask of the slots that are taken. A handle does not
name its slot: freeing finds it again from the address, by a division.
-/

namespace Nozomi.Gralloc

/-- `private_module_t`: the framebuffer and the slots that are taken. -/
structure PrivateModule where
  framebuffer : Option PrivateHandle
  fbFormat : BitVec 32
  numBuffers : BitVec 32
  bufferMask : BitVec 32
  /-- `finfo.line_length` -/
  lineLength : BitVec 32
  /-- `info.xres` and `info.yres` -/
  xres : BitVec 32
  yres : BitVec 32
  deriving DecidableEq, Repr

def slotBit (i : Nat) : BitVec 32 := 1#32 <<< i

def shiftOne (count : BitVec 32) : Option (BitVec 32) :=
  if count.toNat < 32 then some (slotBit count.toNat) else none

def findSlot (bufferSize bufferMask : BitVec 32) :
    Nat → Nat → BitVec 32 → Nat × BitVec 32 × BitVec 32
  | 0, i, vaddr => (i, bufferMask, vaddr)
  | rounds + 1, i, vaddr =>
    if bufferMask &&& slotBit i = 0 then (i, bufferMask ||| slotBit i, vaddr)
    else findSlot bufferSize bufferMask rounds (i + 1) (vaddr + bufferSize)

/-- What an allocation gives: an error, a call for a regular buffer, or the handle of a slot. -/
inductive FramebufferAlloc where
  | failed (status : Int)
  | regular (size usage : BitVec 32)
  | slot (slot : Nat) (hnd : PrivateHandle)
  deriving DecidableEq, Repr

namespace PrivateModule

def bufferSize (m : PrivateModule) : BitVec 32 := m.lineLength * m.yres

def fakeHandle (m : PrivateModule) (framebuffer : PrivateHandle) (fd bufferSize vaddr : BitVec 32) :
    PrivateHandle :=
  let flags := flagUsesPmem ||| flagFramebuffer
  { PrivateHandle.new fd bufferSize flags bufferTypeUi m.fbFormat m.xres m.yres with
    base := vaddr
    offset := vaddr - framebuffer.base }

theorem fakeHandle_hasFlag (m : PrivateModule) (framebuffer : PrivateHandle) (fd bufferSize vaddr : BitVec 32) :
    (m.fakeHandle framebuffer fd bufferSize vaddr).hasFlag flagFramebuffer = true := by
  change ((flagUsesPmem ||| flagFramebuffer) &&& flagFramebuffer != 0) = true
  decide

def grallocAllocFramebufferLocked (m : PrivateModule) (usage fd : BitVec 32) :
    Option (FramebufferAlloc × PrivateModule) :=
  -- we don't support framebuffer allocations with graphics heap flags
  if usage &&& heapMask ≠ 0 then some (.failed invalidArgument, m)
  else
    match m.framebuffer with
    | none => some (.failed invalidArgument, m)
    | some framebuffer =>
      -- adreno needs FB size to be page aligned
      let bufferSize := roundUpToPageSize m.bufferSize
      if m.numBuffers = 1 then
        some (.regular bufferSize ((usage &&& ~~~usageHwFb) ||| usageHw2d), m)
      else
        match shiftOne m.numBuffers with
        | none => none
        | some limit =>
          if limit - 1 ≤ m.bufferMask then some (.failed outOfMemory, m)
          else
            let (slot, bufferMask, vaddr) :=
              findSlot bufferSize m.bufferMask m.numBuffers.toNat 0 framebuffer.base
            some (.slot slot (m.fakeHandle framebuffer fd bufferSize vaddr), { m with bufferMask :=
              bufferMask })

def freeImpl (m : PrivateModule) (hnd : PrivateHandle) : Option PrivateModule :=
  if hnd.hasFlag flagFramebuffer then
    match m.framebuffer with
    | none => none
    | some framebuffer =>
      if m.bufferSize = 0 then none
      else
        let index := (hnd.base - framebuffer.base) / m.bufferSize
        (shiftOne index).map fun bit => { m with bufferMask := m.bufferMask &&& ~~~bit }
  else some m

end PrivateModule

/-! ### Histories -/

/-- The module and the framebuffer handles that are live, with the slots they were given. -/
structure FramebufferState where
  device : PrivateModule
  live : List (Nat × PrivateHandle)
  deriving DecidableEq, Repr

inductive FramebufferCall where
  | alloc (usage fd : BitVec 32)
  /-- Frees a live handle, by its position. -/
  | free (position : Nat)
  deriving DecidableEq, Repr

def framebufferStep (state : FramebufferState) : FramebufferCall → Option FramebufferState
  | .alloc usage fd =>
    match state.device.grallocAllocFramebufferLocked usage fd with
    | none => none
    | some (.slot slot hnd, device) => some ⟨device, state.live ++ [(slot, hnd)]⟩
    | some (_, device) => some ⟨device, state.live⟩
  | .free position =>
    match state.live[position]? with
    | none => some state
    | some (_, hnd) => (state.device.freeImpl hnd).map fun device => ⟨device, state.live.eraseIdx position⟩

namespace FramebufferState

def slots (state : FramebufferState) : List Nat := state.live.map Prod.fst

/-- No two live handles share a slot, and the set bits of the mask are the slots of the live handles. -/
structure SlotsSound (state : FramebufferState) : Prop where
  nodup : state.slots.Nodup
  mask : ∀ slot, state.device.bufferMask.getLsbD slot = true ↔ slot ∈ state.slots

/-- The call is defined, and is refused for want of memory only when all slots are live. -/
def ActsSoundly (state : FramebufferState) (call : FramebufferCall) : Prop :=
  framebufferStep state call ≠ none ∧
    ∀ usage fd device, call = .alloc usage fd →
      state.device.grallocAllocFramebufferLocked usage fd = some (.failed outOfMemory, device) →
      ∀ slot < state.device.numBuffers.toNat, slot ∈ state.slots

/-- In every history from the state the calls act soundly, and every state that is reached has sound slots. -/
def AlwaysSound (state : FramebufferState) : Prop :=
  ∀ calls, RunMeets framebufferStep ActsSoundly state calls ∧
    ∀ last, runSteps framebufferStep state calls = some last → last.SlotsSound

end FramebufferState

/-- The slots fit the mask and the address space, and the bytes that rounding leaves between them stay below one
buffer. -/
def PrivateModule.GeometryFits (m : PrivateModule) : Prop :=
  let size := m.bufferSize.toNat
  let gap := padding pageSize.toNat size
  m.numBuffers.toNat < 32 ∧ (m.numBuffers.toNat - 1) * (size + gap) < 2 ^ 32 ∧
    (m.numBuffers.toNat - 1) * gap < size

instance (m : PrivateModule) : Decidable m.GeometryFits := by
  unfold PrivateModule.GeometryFits
  infer_instance

/-! ### The mask -/

section

variable {mask : BitVec 32} {slot other count : Nat}

theorem and_bit_eq_zero (hslot : slot < 32) : mask &&& slotBit slot = 0 ↔ mask.getLsbD slot = false := by
  rw [slotBit, ← BitVec.twoPow_eq, BitVec.and_twoPow]
  have hbit : BitVec.twoPow 32 slot ≠ 0#32 := by
    intro hzero
    have hset := congrArg (fun word => word.getLsbD slot) hzero
    simp [hslot] at hset
  split <;> simp_all

theorem getLsbD_or_bit (hslot : slot < 32) :
    (mask ||| slotBit slot).getLsbD other = true ↔ mask.getLsbD other = true ∨ other = slot := by
  rw [slotBit, ← BitVec.twoPow_eq, BitVec.getLsbD_or, BitVec.getLsbD_twoPow]
  simp [hslot, @eq_comm _ other slot]

theorem getLsbD_and_not_bit (hslot : slot < 32) :
    (mask &&& ~~~slotBit slot).getLsbD other = true ↔ mask.getLsbD other = true ∧ other ≠ slot := by
  rw [slotBit, ← BitVec.twoPow_eq, BitVec.getLsbD_and, BitVec.getLsbD_not, BitVec.getLsbD_twoPow]
  by_cases hother : other < 32
  · simp [hslot, hother, @eq_comm _ other slot]
  · simp [BitVec.getLsbD_of_ge mask other (by omega)]

theorem toNat_bit_sub_one (hcount : count < 32) : (slotBit count - 1).toNat = 2 ^ count - 1 := by
  have hpow : (slotBit count).toNat = 2 ^ count := by
    rw [slotBit, ← BitVec.twoPow_eq, BitVec.toNat_twoPow,
      Nat.mod_eq_of_lt (Nat.pow_lt_pow_right (by decide) hcount)]
  rw [BitVec.toNat_sub_of_le, hpow]
  · rfl
  · rw [BitVec.le_def, hpow]
    exact Nat.one_le_two_pow

theorem exists_clear (hmask : mask.toNat < 2 ^ count - 1) : ∃ slot < count, mask.getLsbD slot = false := by
  by_contra hnone
  push Not at hnone
  have hlow : mask.toNat % 2 ^ count = 2 ^ count - 1 := by
    apply Nat.eq_of_testBit_eq
    intro slot
    rw [Nat.testBit_mod_two_pow, Nat.testBit_two_pow_sub_one]
    by_cases hslot : slot < count
    · have hset : mask.toNat.testBit slot = true := by simpa [BitVec.getLsbD] using hnone slot hslot
      simp [hslot, hset]
    · simp [hslot]
  have hle := Nat.mod_le mask.toNat (2 ^ count)
  omega

theorem getLsbD_of_full (hmask : 2 ^ count - 1 ≤ mask.toNat)
    (hhigh : ∀ slot, mask.getLsbD slot = true → slot < count) (hslot : slot < count) :
    mask.getLsbD slot = true := by
  have hlt : mask.toNat < 2 ^ count := by
    apply Nat.lt_pow_two_of_testBit
    intro other hother
    by_contra hset
    have hbit := hhigh other (by simpa [BitVec.getLsbD] using hset)
    omega
  have hfull : mask.toNat = 2 ^ count - 1 := by omega
  rw [BitVec.getLsbD, hfull, Nat.testBit_two_pow_sub_one, decide_eq_true hslot]

theorem findSlot_spec (size : BitVec 32) :
    ∀ rounds i vaddr, i + rounds ≤ 32 → (∃ slot, i ≤ slot ∧ slot < i + rounds ∧ mask.getLsbD slot = false) →
      ∃ slot, i ≤ slot ∧ slot < i + rounds ∧ mask.getLsbD slot = false ∧
        findSlot size mask rounds i vaddr = (slot, mask ||| slotBit slot, vaddr + BitVec.ofNat 32
          (slot - i) * size)
  | 0, i, vaddr, _, ⟨slot, hle, hlt, _⟩ => absurd hlt (by omega)
  | rounds + 1, i, vaddr, hrounds, ⟨slot, hle, hlt, hclear⟩ => by
    by_cases hfree : mask.getLsbD i = false
    · refine ⟨i, le_rfl, by omega, hfree, ?_⟩
      rw [findSlot, if_pos ((and_bit_eq_zero (by omega)).mpr hfree), Nat.sub_self]
      simp
    have hne : slot ≠ i := by
      rintro rfl
      exact hfree hclear
    obtain ⟨found, hlow, hhigh, hfound, heq⟩ :=
      findSlot_spec size rounds (i + 1) (vaddr + size) (by omega) ⟨slot, by omega, by omega, hclear⟩
    refine ⟨found, by omega, by omega, hfound, ?_⟩
    rw [findSlot, if_neg (fun h => hfree ((and_bit_eq_zero (by omega)).mp h)), heq,
      show found - i = found - (i + 1) + 1 by omega, BitVec.ofNat_add, BitVec.add_mul]
    simp [BitVec.add_assoc, BitVec.add_comm size]

end

/-! ### Calls -/

/-- What every history keeps whose slots are found again: the geometry, the slots and the addresses. -/
structure FramebufferState.Serves (m : PrivateModule) (framebuffer : PrivateHandle) (state : FramebufferState) :
    Prop where
  device_eq : state.device = { m with bufferMask := state.device.bufferMask }
  sound : state.SlotsSound
  slot_lt : ∀ entry ∈ state.live, entry.1 < m.numBuffers.toNat
  hasFlag : ∀ entry ∈ state.live, entry.2.hasFlag flagFramebuffer = true
  base_eq : ∀ entry ∈ state.live,
    entry.2.base = framebuffer.base + BitVec.ofNat 32 entry.1 * roundUpToPageSize m.bufferSize

section

variable {m : PrivateModule} {framebuffer : PrivateHandle} {state : FramebufferState}

theorem serves_opened (hmask : m.bufferMask = 0) : FramebufferState.Serves m framebuffer ⟨m, []⟩ where
  device_eq := rfl
  sound := ⟨List.nodup_nil, fun slot => by simp [FramebufferState.slots, hmask]⟩
  slot_lt := by simp
  hasFlag := by simp
  base_eq := by simp

theorem FramebufferState.Serves.slot_lt_of_mem (hserves : state.Serves m framebuffer) {slot : Nat}
    (hslot : slot ∈ state.slots) : slot < m.numBuffers.toNat := by
  obtain ⟨entry, hentry, rfl⟩ := List.mem_map.mp hslot
  exact hserves.slot_lt entry hentry

theorem FramebufferState.Serves.push (hserves : state.Serves m framebuffer) {slot : Nat} {hnd : PrivateHandle}
    (hcount : m.numBuffers.toNat < 32) (hslot : slot < m.numBuffers.toNat)
    (hclear : state.device.bufferMask.getLsbD slot = false) (hflag : hnd.hasFlag flagFramebuffer = true)
    (hbase : hnd.base = framebuffer.base + BitVec.ofNat 32 slot * roundUpToPageSize m.bufferSize) :
    FramebufferState.Serves m framebuffer
      ⟨{ state.device with bufferMask := state.device.bufferMask ||| slotBit slot },
        state.live ++ [(slot, hnd)]⟩ := by
  have hnew : slot ∉ state.slots := by
    rw [← hserves.sound.mask, hclear]
    decide
  refine ⟨by rw [hserves.device_eq], ⟨?_, fun other => ?_⟩, ?_, ?_, ?_⟩
  · rw [FramebufferState.slots, List.map_append]
    exact List.nodup_append'.mpr ⟨hserves.sound.nodup, List.nodup_singleton _,
      List.disjoint_singleton.mpr hnew⟩
  · rw [getLsbD_or_bit (by omega), hserves.sound.mask]
    simp [FramebufferState.slots]
  all_goals
    intro entry hentry
    rcases List.mem_append.mp hentry with hold | hlast
  · exact hserves.slot_lt entry hold
  · rw [List.mem_singleton.mp hlast]
    exact hslot
  · exact hserves.hasFlag entry hold
  · rw [List.mem_singleton.mp hlast]
    exact hflag
  · exact hserves.base_eq entry hold
  · rw [List.mem_singleton.mp hlast]
    exact hbase

theorem ne_one_of_several {count : BitVec 32} (hseveral : 2 ≤ count.toNat) : count ≠ 1 := by
  rintro rfl
  exact absurd hseveral (by decide)

theorem grallocAllocFramebufferLocked_eq (hframebuffer : m.framebuffer = some framebuffer)
    (hseveral : 2 ≤ m.numBuffers.toNat) (hcount : m.numBuffers.toNat < 32) (usage fd : BitVec 32) :
    m.grallocAllocFramebufferLocked usage fd =
      if usage &&& heapMask ≠ 0 then some (.failed invalidArgument, m)
      else if 2 ^ m.numBuffers.toNat - 1 ≤ m.bufferMask.toNat then some (.failed outOfMemory, m)
      else
        let size := roundUpToPageSize m.bufferSize
        let found := findSlot size m.bufferMask m.numBuffers.toNat 0 framebuffer.base
        some (.slot found.1 (m.fakeHandle framebuffer fd size found.2.2), { m with bufferMask :=
          found.2.1 }) := by
  have hone := ne_one_of_several hseveral
  have hlimit : shiftOne m.numBuffers = some (slotBit m.numBuffers.toNat) := if_pos hcount
  simp only [PrivateModule.grallocAllocFramebufferLocked, hframebuffer, hone, hlimit, BitVec.le_def,
    toNat_bit_sub_one hcount, if_false]

theorem alloc_undefined (hframebuffer : m.framebuffer = some framebuffer)
    (hseveral : 2 ≤ m.numBuffers.toNat) (hcount : ¬ m.numBuffers.toNat < 32) (fd : BitVec 32) :
    m.grallocAllocFramebufferLocked 0 fd = none := by
  have hone := ne_one_of_several hseveral
  have hlimit : shiftOne m.numBuffers = none := if_neg hcount
  have husage : ¬ (0 : BitVec 32) &&& heapMask ≠ 0 := by decide
  simp only [PrivateModule.grallocAllocFramebufferLocked, husage, hframebuffer, hone, hlimit, if_false]

theorem alloc_cases (hframebuffer : m.framebuffer = some framebuffer) (hseveral : 2 ≤ m.numBuffers.toNat)
    (hcount : m.numBuffers.toNat < 32) (hserves : state.Serves m framebuffer) (usage fd : BitVec 32) :
    (usage &&& heapMask ≠ 0 ∧ state.device.grallocAllocFramebufferLocked usage fd =
        some (.failed invalidArgument, state.device)) ∨
      ((∀ slot < m.numBuffers.toNat, slot ∈ state.slots) ∧
        state.device.grallocAllocFramebufferLocked usage fd = some (.failed outOfMemory, state.device)) ∨
      ∃ slot hnd device, state.device.grallocAllocFramebufferLocked usage fd = some (.slot slot hnd, device) ∧
        FramebufferState.Serves m framebuffer ⟨device, state.live ++ [(slot, hnd)]⟩ := by
  have hnumBuffers : state.device.numBuffers = m.numBuffers := by rw [hserves.device_eq]
  have hsize : state.device.bufferSize = m.bufferSize := by
    rw [hserves.device_eq]
    rfl
  have hbase : state.device.framebuffer = some framebuffer := by rw [hserves.device_eq, hframebuffer]
  rw [grallocAllocFramebufferLocked_eq hbase (hnumBuffers ▸ hseveral) (hnumBuffers ▸ hcount)]
  by_cases husage : usage &&& heapMask = 0
  · rw [if_neg (not_not.mpr husage)]
    right
    by_cases hfull : 2 ^ state.device.numBuffers.toNat - 1 ≤ state.device.bufferMask.toNat
    · left
      refine ⟨fun slot hslot => ?_, if_pos hfull⟩
      rw [hnumBuffers] at hfull
      rw [← hserves.sound.mask]
      apply getLsbD_of_full hfull _ hslot
      intro other hother
      exact hserves.slot_lt_of_mem ((hserves.sound.mask other).mp hother)
    · right
      obtain ⟨clear, hclearLt, hclear⟩ := exists_clear (hnumBuffers ▸ not_le.mp hfull)
      obtain ⟨slot, -, hslot, hfound, heq⟩ := @findSlot_spec state.device.bufferMask
        (roundUpToPageSize m.bufferSize) m.numBuffers.toNat 0 framebuffer.base (by omega)
        ⟨clear, Nat.zero_le _, by omega, hclear⟩
      rw [Nat.sub_zero] at heq
      refine ⟨slot, state.device.fakeHandle framebuffer fd (roundUpToPageSize m.bufferSize) _,
        { state.device with bufferMask := state.device.bufferMask ||| slotBit slot }, ?_,
        hserves.push hcount (by omega) hfound (PrivateModule.fakeHandle_hasFlag _ _ _ _ _) rfl⟩
      rw [if_neg hfull]
      simp only [hnumBuffers, hsize, heq]
  · left
    exact ⟨husage, if_pos husage⟩

/-! ### Freeing -/

def PrivateModule.FindsSlot (m : PrivateModule) (slot : Nat) : Prop :=
  m.bufferSize ≠ 0 ∧
    (BitVec.ofNat 32 slot * roundUpToPageSize m.bufferSize / m.bufferSize).toNat = slot

variable {position : Nat} {entry : Nat × PrivateHandle}

theorem framebufferStep_free (hframebuffer : m.framebuffer = some framebuffer)
    (hserves : state.Serves m framebuffer) (hentry : state.live[position]? = some entry) :
    framebufferStep state (.free position) =
      if m.bufferSize = 0 then none
      else
        (shiftOne (BitVec.ofNat 32 entry.1 * roundUpToPageSize m.bufferSize / m.bufferSize)).map fun bit =>
          ⟨{ state.device with bufferMask := state.device.bufferMask &&& ~~~bit },
            state.live.eraseIdx position⟩ := by
  have hmem := List.mem_of_getElem? hentry
  have hsize : state.device.bufferSize = m.bufferSize := by
    rw [hserves.device_eq]
    rfl
  have hbase : state.device.framebuffer = some framebuffer := by rw [hserves.device_eq, hframebuffer]
  have hcancel : ∀ x y : BitVec 32, x + y - x = y := fun x y => by rw [BitVec.add_comm, BitVec.add_sub_cancel]
  simp only [framebufferStep, hentry, PrivateModule.freeImpl, hserves.hasFlag entry hmem, if_true, hbase, hsize,
    hserves.base_eq entry hmem, hcancel]
  by_cases hzero : m.bufferSize = 0
  · rw [if_pos hzero, if_pos hzero]
    rfl
  · rw [if_neg hzero, if_neg hzero, Option.map_map]
    rfl

theorem mem_slots_eraseIdx (hnodup : state.slots.Nodup) {slot : Nat} (hentry : state.live[position]? = some entry) :
    slot ∈ (state.live.eraseIdx position).map Prod.fst ↔ slot ∈ state.slots ∧ slot ≠ entry.1 := by
  obtain ⟨hlt, rfl⟩ := List.getElem?_eq_some_iff.mp hentry
  unfold FramebufferState.slots at hnodup ⊢
  have hlength : position < (state.live.map Prod.fst).length := by rwa [List.length_map]
  rw [← List.eraseIdx_map, ← hnodup.erase_getElem position hlength, hnodup.mem_erase_iff, and_comm,
    List.getElem_map]

theorem shiftOne_of_lt {count : BitVec 32} (hcount : count.toNat < 32) :
    shiftOne count = some (slotBit count.toNat) := if_pos hcount

theorem FramebufferState.Serves.free (hframebuffer : m.framebuffer = some framebuffer)
    (hcount : m.numBuffers.toNat < 32) (hserves : state.Serves m framebuffer)
    (hentry : state.live[position]? = some entry) (hfinds : m.FindsSlot entry.1) :
    ∃ next, framebufferStep state (.free position) = some next ∧ next.Serves m framebuffer := by
  obtain ⟨hsize, hindex⟩ := hfinds
  have hlt := hserves.slot_lt entry (List.mem_of_getElem? hentry)
  rw [framebufferStep_free hframebuffer hserves hentry, if_neg hsize, shiftOne_of_lt (by omega), hindex]
  refine ⟨_, rfl, by rw [hserves.device_eq], ⟨?_, fun other => ?_⟩, ?_, ?_, ?_⟩
  · rw [FramebufferState.slots, ← List.eraseIdx_map]
    exact hserves.sound.nodup.eraseIdx position
  · rw [getLsbD_and_not_bit (by omega), hserves.sound.mask]
    exact (mem_slots_eraseIdx hserves.sound.nodup hentry).symm
  all_goals
    intro other hother
    have hold := List.mem_of_mem_eraseIdx hother
  · exact hserves.slot_lt other hold
  · exact hserves.hasFlag other hold
  · exact hserves.base_eq other hold

theorem findsSlot_of_free (hframebuffer : m.framebuffer = some framebuffer) (hserves : state.Serves m framebuffer)
    (hentry : state.live[position]? = some entry) {next : FramebufferState}
    (hnext : framebufferStep state (.free position) = some next) (hsound : next.SlotsSound) :
    m.FindsSlot entry.1 := by
  rw [framebufferStep_free hframebuffer hserves hentry] at hnext
  by_cases hsize : m.bufferSize = 0
  · rw [if_pos hsize] at hnext
    exact absurd hnext (by simp)
  rw [if_neg hsize] at hnext
  obtain ⟨bit, hbit, rfl⟩ := Option.map_eq_some_iff.mp hnext
  obtain ⟨hindex, hbit⟩ := Option.ite_none_right_eq_some.mp hbit
  obtain rfl := Option.some.inj hbit
  refine ⟨hsize, ?_⟩
  by_contra hne
  have hslot : entry.1 ∈ state.slots := List.mem_map_of_mem (List.mem_of_getElem? hentry)
  have hset := (hsound.mask entry.1).mp
    ((getLsbD_and_not_bit hindex).mpr ⟨(hserves.sound.mask _).mpr hslot, Ne.symm hne⟩)
  exact ((mem_slots_eraseIdx hserves.sound.nodup hentry).mp hset).2 rfl

end

/-! ### The geometry -/

theorem toNat_roundUpToPageSize (x : BitVec 32) :
    (roundUpToPageSize x).toNat = (x.toNat + padding pageSize.toNat x.toNat) % 2 ^ 32 := by
  have hsub : pageSize - 1 = 4095#32 := by decide
  rw [roundUpToPageSize, isPowerOfTwo_pageSize.toNat_and_not, hsub, BitVec.toNat_add]
  simp only [padding, show pageSize.toNat = 4096 from rfl, show (4095#32).toNat = 4095 from rfl]
  have hlt := x.isLt
  omega

variable {m : PrivateModule} {slot : Nat}

theorem PrivateModule.findsSlot_iff (hslot : slot < 2 ^ 32) :
    m.FindsSlot slot ↔ m.bufferSize.toNat ≠ 0 ∧
      slot * (m.bufferSize.toNat + padding pageSize.toNat m.bufferSize.toNat) % 2 ^ 32 / m.bufferSize.toNat =
        slot := by
  have hzero : m.bufferSize ≠ 0 ↔ m.bufferSize.toNat ≠ 0 :=
    not_congr ⟨fun h => by rw [h]; rfl, fun h => BitVec.eq_of_toNat_eq h⟩
  rw [PrivateModule.FindsSlot, hzero, BitVec.toNat_udiv, BitVec.toNat_mul, toNat_roundUpToPageSize,
    BitVec.toNat_ofNat, Nat.mod_eq_of_lt hslot, Nat.mul_mod_mod]

theorem PrivateModule.GeometryFits.findsSlot (hfits : m.GeometryFits) (hslot : slot < m.numBuffers.toNat) :
    m.FindsSlot slot := by
  obtain ⟨hcount, hspace, hgaps⟩ := hfits
  rw [PrivateModule.findsSlot_iff (by omega)]
  generalize m.bufferSize.toNat = size at hspace hgaps ⊢
  generalize padding pageSize.toNat size = gap at hspace hgaps ⊢
  have hle : slot ≤ m.numBuffers.toNat - 1 := by omega
  have hplace : slot * (size + gap) < 2 ^ 32 := lt_of_le_of_lt (Nat.mul_le_mul_right _ hle) hspace
  have hgap : slot * gap < size := lt_of_le_of_lt (Nat.mul_le_mul_right _ hle) hgaps
  refine ⟨by omega, ?_⟩
  rw [Nat.mod_eq_of_lt hplace, Nat.mul_add, Nat.add_comm, Nat.add_mul_div_right _ _ (by omega),
    Nat.div_eq_of_lt hgap, Nat.zero_add]

theorem PrivateModule.geometryFits_of_findsSlot (hcount : m.numBuffers.toNat < 32)
    (hfinds : m.FindsSlot (m.numBuffers.toNat - 1)) : m.GeometryFits := by
  rw [PrivateModule.findsSlot_iff (by omega)] at hfinds
  obtain ⟨hsize, hfinds⟩ := hfinds
  have hgap : padding pageSize.toNat m.bufferSize.toNat < 4096 := Nat.mod_lt _ (by decide)
  rw [PrivateModule.GeometryFits]
  generalize m.bufferSize.toNat = size at hsize hfinds hgap ⊢
  generalize padding pageSize.toNat size = gap at hfinds hgap ⊢
  generalize hlast : m.numBuffers.toNat - 1 = last at hfinds ⊢
  have hgaps : last * gap ≤ 31 * 4096 := Nat.mul_le_mul (by omega) hgap.le
  have hpos : 0 < size := Nat.pos_of_ne_zero hsize
  have hlow := (Nat.le_div_iff_mul_le hpos).mp hfinds.ge
  have hhigh := (Nat.div_lt_iff_lt_mul hpos).mp (Nat.lt_succ_of_le hfinds.le)
  rw [Nat.mul_add] at hlow hhigh ⊢
  -- a place that wraps would lie below the buffers in front of it
  have hspace : last * size + last * gap < 2 ^ 32 := by omega
  rw [Nat.mod_eq_of_lt hspace, Nat.succ_mul] at hhigh
  exact ⟨hcount, hspace, by omega⟩

/-! ### Histories that take all slots -/

variable {framebuffer : PrivateHandle} {state : FramebufferState}

theorem FramebufferState.AlwaysSound.of_run (halways : state.AlwaysSound) {calls : List FramebufferCall}
    {last : FramebufferState} (hrun : runSteps framebufferStep state calls = some last) : last.AlwaysSound := by
  induction calls generalizing state with
  | nil =>
    obtain rfl := Option.some.inj hrun
    exact halways
  | cons call calls ih =>
    obtain ⟨next, hnext, hlast⟩ := runSteps_cons hrun
    refine ih (fun rest => ?_) hlast
    obtain ⟨hmeets, hsound⟩ := halways (call :: rest)
    rw [runSteps, hnext] at hsound
    exact ⟨hmeets.2 next hnext, hsound⟩

theorem runs_allocs (hframebuffer : m.framebuffer = some framebuffer) (hseveral : 2 ≤ m.numBuffers.toNat)
    (hcount : m.numBuffers.toNat < 32) (rounds : Nat) :
    ∀ state : FramebufferState, state.Serves m framebuffer →
      state.live.length + rounds ≤ m.numBuffers.toNat →
      ∃ last, runSteps framebufferStep state (List.replicate rounds (.alloc 0 0)) = some last ∧
        last.Serves m framebuffer ∧ last.live.length = state.live.length + rounds := by
  induction rounds with
  | zero => exact fun state hserves _ => ⟨state, rfl, hserves, rfl⟩
  | succ rounds ih =>
    intro state hserves hroom
    have hfree : ¬ ∀ slot < m.numBuffers.toNat, slot ∈ state.slots := by
      intro hall
      have hle := (List.nodup_range.subperm fun slot hslot => hall slot (List.mem_range.mp hslot)).length_le
      rw [List.length_range, FramebufferState.slots, List.length_map] at hle
      omega
    rcases alloc_cases hframebuffer hseveral hcount hserves 0 0 with
      ⟨husage, -⟩ | ⟨hall, -⟩ | ⟨slot, hnd, device, halloc, hnext⟩
    · exact absurd (BitVec.zero_and : 0#32 &&& heapMask = 0#32) husage
    · exact absurd hall hfree
    · obtain ⟨last, hrun, hlast, hlength⟩ := ih _ hnext (by simp; omega)
      refine ⟨last, ?_, hlast, by simp at hlength; omega⟩
      rw [List.replicate_succ, runSteps, framebufferStep, halloc]
      exact hrun

theorem FramebufferState.Serves.mem_of_full (hserves : state.Serves m framebuffer)
    (hfull : state.live.length = m.numBuffers.toNat) (hslot : slot < m.numBuffers.toNat) :
    slot ∈ state.slots := by
  have hsub : state.slots.Subperm (List.range m.numBuffers.toNat) :=
    hserves.sound.nodup.subperm fun other hother => List.mem_range.mpr (hserves.slot_lt_of_mem hother)
  have hperm := hsub.perm_of_length_le (by simp [FramebufferState.slots, hfull])
  exact hperm.mem_iff.mpr (List.mem_range.mpr hslot)

theorem FramebufferState.Serves.step (hframebuffer : m.framebuffer = some framebuffer)
    (hseveral : 2 ≤ m.numBuffers.toNat) (hfits : m.GeometryFits) (hserves : state.Serves m framebuffer)
    (call : FramebufferCall) :
    state.ActsSoundly call ∧ ∃ next, framebufferStep state call = some next ∧ next.Serves m framebuffer := by
  cases call with
  | alloc usage fd =>
    rcases alloc_cases hframebuffer hseveral hfits.1 hserves usage fd with
      ⟨-, halloc⟩ | ⟨hall, halloc⟩ | ⟨slot, hnd, device, halloc, hnext⟩
    · have hstep : framebufferStep state (.alloc usage fd) = some state := by rw [framebufferStep, halloc]
      refine ⟨⟨by simp [hstep], ?_⟩, state, hstep, hserves⟩
      rintro usage fd device ⟨⟩ hrefused
      exact absurd (halloc.symm.trans hrefused) (by simp [invalidArgument, outOfMemory])
    · have hstep : framebufferStep state (.alloc usage fd) = some state := by rw [framebufferStep, halloc]
      refine ⟨⟨by simp [hstep], ?_⟩, state, hstep, hserves⟩
      rintro usage fd device ⟨⟩ - slot hslot
      rw [hserves.device_eq] at hslot
      exact hall slot hslot
    · have hstep : framebufferStep state (.alloc usage fd) = some ⟨device, state.live ++ [(slot, hnd)]⟩ := by
        rw [framebufferStep, halloc]
      refine ⟨⟨by simp [hstep], ?_⟩, _, hstep, hnext⟩
      rintro usage fd device ⟨⟩ hrefused
      exact absurd (halloc.symm.trans hrefused) (by simp)
  | free position =>
    have hsteps : ∃ next, framebufferStep state (.free position) = some next ∧ next.Serves m framebuffer := by
      cases hentry : state.live[position]? with
      | none => exact ⟨state, by rw [framebufferStep, hentry], hserves⟩
      | some entry =>
        have hslot := hserves.slot_lt entry (List.mem_of_getElem? hentry)
        exact hserves.free hframebuffer hfits.1 hentry (hfits.findsSlot hslot)
    refine ⟨⟨?_, fun _ _ _ hcall => nomatch hcall⟩, hsteps⟩
    obtain ⟨next, hnext, -⟩ := hsteps
    simp [hnext]

/-- All histories of an opened framebuffer with several buffers have sound slots exactly where the geometry
fits. -/
theorem framebuffer_slots_sound_iff (m : PrivateModule) (framebuffer : PrivateHandle)
    (hframebuffer : m.framebuffer = some framebuffer) (hmask : m.bufferMask = 0)
    (hseveral : 2 ≤ m.numBuffers.toNat) :
    FramebufferState.AlwaysSound ⟨m, []⟩ ↔ m.GeometryFits := by
  have hopened : FramebufferState.Serves m framebuffer ⟨m, []⟩ := serves_opened hmask
  constructor
  · intro halways
    by_cases hcount : m.numBuffers.toNat < 32
    · -- all slots are taken, and the last one is freed
      obtain ⟨last, hrun, hlast, hlength⟩ :=
        runs_allocs hframebuffer hseveral hcount m.numBuffers.toNat ⟨m, []⟩ hopened (by simp)
      have hfull := hlast.mem_of_full (by simpa using hlength) (show m.numBuffers.toNat - 1 < _ by omega)
      obtain ⟨entry, hmem, hslot⟩ := List.mem_map.mp hfull
      obtain ⟨position, hentry⟩ := List.getElem?_of_mem hmem
      obtain ⟨hmeets, hsound⟩ := halways.of_run hrun [.free position]
      obtain ⟨next, hnext⟩ := Option.ne_none_iff_exists'.mp hmeets.1.1
      have hfinds := findsSlot_of_free hframebuffer hlast hentry hnext
        (hsound next (by rw [runSteps, hnext]; rfl))
      exact PrivateModule.geometryFits_of_findsSlot hcount (hslot ▸ hfinds)
    · have hdefined := (halways [.alloc 0 0]).1.1.1
      rw [framebufferStep, alloc_undefined hframebuffer hseveral hcount] at hdefined
      exact absurd rfl hdefined
  · intro hfits calls
    have hsteps := fun (state : FramebufferState) call (hserves : state.Serves m framebuffer) =>
      (hserves.step hframebuffer hseveral hfits call).2
    have hkept : ∀ (state : FramebufferState) call next, state.Serves m framebuffer →
        framebufferStep state call = some next → next.Serves m framebuffer := by
      intro state call next hserves hnext
      obtain ⟨other, hother, hkept⟩ := hsteps state call hserves
      rwa [Option.some.inj (hnext.symm.trans hother)]
    constructor
    · exact RunMeets.imp_of_invariant _ hkept
        (fun state call hserves _ => (hserves.step hframebuffer hseveral hfits call).1) _ hopened
        (runMeets_true calls _)
    · intro last hrun
      obtain ⟨other, hother, hlast⟩ := runSteps_exists hsteps calls _ hopened
      rw [Option.some.inj (hrun.symm.trans hother)]
      exact hlast.sound

def smallFramebuffer : PrivateModule where
  framebuffer := some { PrivateHandle.new 3 8192 flagUsesIon bufferTypeUi 4 50 20 with base := 0x10000000 }
  fbFormat := 4
  numBuffers := 2
  bufferMask := 0
  lineLength := 100
  xres := 50
  yres := 20

/-- The second slot is not given back, and a later allocation is refused. -/
theorem smallFramebuffer_refused :
    2 ≤ smallFramebuffer.numBuffers.toNat ∧
      (runSteps framebufferStep ⟨smallFramebuffer, []⟩ [.alloc 0 5, .alloc 0 6, .free 1]).map (fun last =>
        (last.slots, last.device.bufferMask, (last.device.grallocAllocFramebufferLocked 0 7).map Prod.fst)) =
          some ([0], 3, some (.failed outOfMemory)) ∧
      ¬ FramebufferState.AlwaysSound ⟨smallFramebuffer, []⟩ := by
  have hrun : (runSteps framebufferStep ⟨smallFramebuffer, []⟩ [.alloc 0 5, .alloc 0 6, .free 1]).map
      (fun last =>
        (last.slots, last.device.bufferMask, (last.device.grallocAllocFramebufferLocked 0 7).map Prod.fst)) =
        some ([0], 3, some (.failed outOfMemory)) := by decide
  refine ⟨by decide, hrun, fun halways => ?_⟩
  obtain ⟨last, hlast, hvalues⟩ := Option.map_eq_some_iff.mp hrun
  simp only [Prod.mk.injEq] at hvalues
  obtain ⟨hslots, hmask, -⟩ := hvalues
  have hone := (((halways _).2 last hlast).mask 1).mp (by rw [hmask]; decide)
  rw [hslots] at hone
  exact absurd hone (by decide)

/-- The same with full lines. -/
theorem framebuffer_slots_sound_large :
    let m := { smallFramebuffer with lineLength := 1920, yres := 1080 }
    FramebufferState.AlwaysSound ⟨m, []⟩ ↔ m.GeometryFits :=
  framebuffer_slots_sound_iff _ _ rfl rfl (by decide)

end Nozomi.Gralloc
