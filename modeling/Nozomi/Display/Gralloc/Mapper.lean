import Nozomi.Display.Gralloc.Handle

/-!
# Mapping and locking

The mapper maps a buffer and its metadata one behind the other, and locking cleans the buffer behind the
mapping. What the allocator answers to each call is given to the model. A call through a missing allocator is
undefined.
-/

namespace Nozomi.Gralloc

def mapFailed : BitVec 32 := -1

/-- What `map_buffer` returns, the address that is stored behind it, and `errno`. -/
structure MapOutcome where
  err : Int
  mappedAddress : BitVec 32
  errno : Int
  deriving DecidableEq, Repr

def MapOutcome.Mapped (outcome : MapOutcome) : Prop := outcome.err = 0 ∧ outcome.mappedAddress ≠ mapFailed

instance (outcome : MapOutcome) : Decidable outcome.Mapped := by
  unfold MapOutcome.Mapped
  infer_instance

/-- What a call returns, the handle behind it, and the mappings it made, each with its size. -/
structure Mapping where
  status : Int
  hnd : PrivateHandle
  mappings : List (BitVec 32 × BitVec 32)
  deriving DecidableEq, Repr

def metadataSize : BitVec 32 := roundUpToPageSize 1592

namespace PrivateHandle

def hasAllocator (hnd : PrivateHandle) : Bool := hnd.hasFlag flagUsesIon

def grallocMap (hnd : PrivateHandle) (main metadata : MapOutcome) : Option Mapping :=
  if hnd.hasFlag flagFramebuffer || hnd.hasFlag flagSecureBuffer then some ⟨0, hnd, []⟩
  else if !hnd.hasAllocator then none
  else if main.err ≠ 0 ∨ main.mappedAddress = mapFailed then
    some ⟨-main.errno, { hnd with base := 0 }, []⟩
  else
    let mapped := { hnd with base := main.mappedAddress + hnd.offset }
    if metadata.err ≠ 0 ∨ metadata.mappedAddress = mapFailed then
      some ⟨-metadata.errno, { mapped with baseMetadata := 0 }, [(main.mappedAddress, hnd.size)]⟩
    else
      some ⟨0, { mapped with baseMetadata := metadata.mappedAddress + hnd.offsetMetadata },
        [(main.mappedAddress, hnd.size), (metadata.mappedAddress, metadataSize)]⟩

def unmapped (hnd : PrivateHandle) : PrivateHandle := { hnd with base := 0, baseMetadata := 0 }

def grallocRegisterBuffer (hnd : PrivateHandle) (main metadata : MapOutcome) : Option Mapping :=
  if !hnd.validate then some ⟨invalidArgument, hnd, []⟩
  else hnd.unmapped.grallocMap main metadata

def grallocMapAndInvalidate (hnd : PrivateHandle) (usage : BitVec 32) (main metadata : MapOutcome)
    (clean : Int) : Option Mapping :=
  if !hnd.validate then some ⟨invalidArgument, hnd, []⟩
  else if usage &&& (usageSwReadMask ||| usageSwWriteMask) ≠ 0 then
    -- we need to map for real
    let mapped := if hnd.base = 0 then hnd.grallocMap main metadata else some ⟨0, hnd, []⟩
    match mapped with
    | none => none
    | some mapped =>
      if !mapped.hnd.hasAllocator then none
      else
        -- mark the buffer to be flushed after cpu read/write
        let flags :=
          if usage &&& usageSwWriteMask ≠ 0 ∧ mapped.hnd.hasFlag flagFramebuffer = false then
            mapped.hnd.flags ||| flagNeedsFlush
          else mapped.hnd.flags
        some { mapped with status := clean, hnd := { mapped.hnd with flags := flags } }
  else some ⟨0, { hnd with flags := hnd.flags ||| flagDoNotFlush }, []⟩

def grallocLock (hnd : PrivateHandle) (usage : BitVec 32) (main metadata : MapOutcome) (clean : Int) :
    Option (Mapping × Option (BitVec 32)) :=
  match hnd.grallocMapAndInvalidate usage main metadata clean with
  | none => none
  | some mapped => some (mapped, if mapped.status = 0 then some mapped.hnd.base else none)

/-! ### Atomic outcomes -/

/-- A handle of a buffer that `gralloc_map` maps. -/
structure Mappable (hnd : PrivateHandle) : Prop where
  valid : hnd.validate = true
  usesIon : hnd.hasFlag flagUsesIon = true
  notFramebuffer : hnd.hasFlag flagFramebuffer = false
  notSecure : hnd.hasFlag flagSecureBuffer = false

instance (hnd : PrivateHandle) : Decidable hnd.Mappable :=
  decidable_of_iff (hnd.validate = true ∧ hnd.hasFlag flagUsesIon = true ∧
    hnd.hasFlag flagFramebuffer = false ∧ hnd.hasFlag flagSecureBuffer = false)
    ⟨fun ⟨hvalid, hion, hframebuffer, hsecure⟩ => ⟨hvalid, hion, hframebuffer, hsecure⟩,
      fun ⟨hvalid, hion, hframebuffer, hsecure⟩ => ⟨hvalid, hion, hframebuffer, hsecure⟩⟩

def LocksMapped (hnd : PrivateHandle) (usage : BitVec 32) (main metadata : MapOutcome) (clean : Int) : Prop :=
  ∃ locked vaddr, hnd.grallocLock usage main metadata clean = some (locked, vaddr) ∧
    (locked.status = 0 → locked.hnd.base ≠ 0 ∧ vaddr = some locked.hnd.base)

def RegistersAtomically (hnd : PrivateHandle) (main metadata : MapOutcome) : Prop :=
  ∀ registered, hnd.grallocRegisterBuffer main metadata = some registered → registered.status ≠ 0 →
    registered.hnd.base = 0 ∧ registered.hnd.baseMetadata = 0 ∧ registered.mappings = []

end PrivateHandle

/-! ### Where the outcomes are atomic -/

section

variable {hnd : PrivateHandle} {usage : BitVec 32} {main metadata : MapOutcome} {clean : Int}

theorem MapOutcome.not_mapped_iff {outcome : MapOutcome} :
    outcome.err ≠ 0 ∨ outcome.mappedAddress = mapFailed ↔ ¬ outcome.Mapped := by
  rw [MapOutcome.Mapped, not_and_or, not_not]

theorem grallocMap_eq (hion : hnd.hasFlag flagUsesIon = true)
    (hframebuffer : hnd.hasFlag flagFramebuffer = false)
    (hsecure : hnd.hasFlag flagSecureBuffer = false) (main metadata : MapOutcome) :
    hnd.grallocMap main metadata =
      if ¬ main.Mapped then some ⟨-main.errno, { hnd with base := 0 }, []⟩
      else if ¬ metadata.Mapped then
        some ⟨-metadata.errno, { hnd with base := main.mappedAddress + hnd.offset, baseMetadata := 0 },
          [(main.mappedAddress, hnd.size)]⟩
      else
        some ⟨0, { hnd with
          base := main.mappedAddress + hnd.offset
          baseMetadata := metadata.mappedAddress + hnd.offsetMetadata },
          [(main.mappedAddress, hnd.size), (metadata.mappedAddress, metadataSize)]⟩ := by
  simp only [PrivateHandle.grallocMap, PrivateHandle.hasAllocator, hion, hframebuffer, hsecure, Bool.or_self,
    Bool.not_true, Bool.false_eq_true, if_false, MapOutcome.not_mapped_iff]

theorem grallocMap_base (hmappable : hnd.Mappable) (main metadata : MapOutcome) :
    ∃ mapped, hnd.grallocMap main metadata = some mapped ∧ mapped.hnd.flags = hnd.flags ∧
      mapped.hnd.base = if main.Mapped then main.mappedAddress + hnd.offset else 0 := by
  rw [grallocMap_eq hmappable.usesIon hmappable.notFramebuffer hmappable.notSecure]
  by_cases hmain : main.Mapped
  · rw [if_neg (not_not.mpr hmain), if_pos hmain]
    by_cases hmetadata : metadata.Mapped
    · rw [if_neg (not_not.mpr hmetadata)]
      exact ⟨_, rfl, rfl, rfl⟩
    · rw [if_pos hmetadata]
      exact ⟨_, rfl, rfl, rfl⟩
  · rw [if_pos hmain, if_neg hmain]
    exact ⟨_, rfl, rfl, rfl⟩

theorem grallocLock_software (hmappable : hnd.Mappable)
    (hsoftware : usage &&& (usageSwReadMask ||| usageSwWriteMask) ≠ 0) :
    ∃ locked, hnd.grallocLock usage main metadata clean =
        some (locked, if clean = 0 then some locked.hnd.base else none) ∧ locked.status = clean ∧
      locked.hnd.base =
        if hnd.base ≠ 0 then hnd.base else if main.Mapped then main.mappedAddress + hnd.offset else 0 := by
  have hfirst : ∃ mapped, (if hnd.base = 0 then hnd.grallocMap main metadata else some ⟨0, hnd, []⟩) =
      some mapped ∧ mapped.hnd.flags = hnd.flags ∧ mapped.hnd.base =
        if hnd.base ≠ 0 then hnd.base else if main.Mapped then main.mappedAddress + hnd.offset else 0 := by
    by_cases hbase : hnd.base = 0
    · rw [if_pos hbase, if_neg (not_not.mpr hbase)]
      exact grallocMap_base hmappable main metadata
    · rw [if_neg hbase, if_pos hbase]
      exact ⟨_, rfl, rfl, rfl⟩
  obtain ⟨mapped, hmapped, hflags, hbase⟩ := hfirst
  have hallocator : mapped.hnd.hasAllocator = true := by
    rw [PrivateHandle.hasAllocator, PrivateHandle.hasFlag, hflags]
    exact hmappable.usesIon
  simp only [PrivateHandle.grallocLock, PrivateHandle.grallocMapAndInvalidate, hmappable.valid, hsoftware,
    hmapped, hallocator, Bool.not_true, Bool.false_eq_true, if_false, if_true, ne_eq, not_false_eq_true]
  exact ⟨_, rfl, rfl, hbase⟩

theorem locksMapped_iff (hmappable : hnd.Mappable)
    (hsoftware : usage &&& (usageSwReadMask ||| usageSwWriteMask) ≠ 0) :
    hnd.LocksMapped usage main metadata clean ↔
      hnd.base ≠ 0 ∨ (main.Mapped ∧ main.mappedAddress + hnd.offset ≠ 0) ∨ clean ≠ 0 := by
  obtain ⟨locked, hlock, hstatus, hbase⟩ :=
    @grallocLock_software hnd usage main metadata clean hmappable hsoftware
  have hmeans : hnd.LocksMapped usage main metadata clean ↔ (clean = 0 → locked.hnd.base ≠ 0) := by
    constructor
    · rintro ⟨other, vaddr, hother, hsound⟩ hclean
      obtain ⟨rfl, rfl⟩ := Prod.mk.inj (Option.some.inj (hlock.symm.trans hother))
      exact (hsound (hstatus.trans hclean)).1
    · intro hsound
      refine ⟨locked, _, hlock, fun hzero => ?_⟩
      have hclean := hstatus.symm.trans hzero
      exact ⟨hsound hclean, if_pos hclean⟩
  rw [hmeans, hbase]
  by_cases hmapped : hnd.base ≠ 0
  · rw [if_pos hmapped]
    exact iff_of_true (fun _ => hmapped) (.inl hmapped)
  · rw [if_neg hmapped]
    by_cases hmain : main.Mapped
    · rw [if_pos hmain]
      tauto
    · rw [if_neg hmain]
      tauto

theorem grallocMap_status (hmappable : ¬ hnd.Mappable) (hvalid : hnd.validate = true)
    {mapped : Mapping} (hmap : hnd.unmapped.grallocMap main metadata = some mapped) : mapped.status = 0 := by
  have hflag : ∀ flag, hnd.unmapped.hasFlag flag = hnd.hasFlag flag := fun _ => rfl
  rw [PrivateHandle.grallocMap, PrivateHandle.hasAllocator, hflag, hflag, hflag] at hmap
  by_cases hskipped : (hnd.hasFlag flagFramebuffer || hnd.hasFlag flagSecureBuffer) = true
  · rw [if_pos hskipped] at hmap
    obtain rfl := Option.some.inj hmap
    rfl
  · rw [if_neg hskipped] at hmap
    obtain ⟨hframebuffer, hsecure⟩ := Bool.or_eq_false_iff.mp (Bool.not_eq_true _ ▸ hskipped)
    have hion : hnd.hasFlag flagUsesIon = false := by
      by_contra hion
      exact hmappable ⟨hvalid, Bool.not_eq_false _ ▸ hion, hframebuffer, hsecure⟩
    rw [hion] at hmap
    exact absurd hmap (by simp)

theorem registersAtomically_iff :
    hnd.RegistersAtomically main metadata ↔
      (hnd.validate = false → hnd.base = 0 ∧ hnd.baseMetadata = 0) ∧
        ¬ (hnd.Mappable ∧ main.Mapped ∧ ¬ metadata.Mapped ∧ metadata.errno ≠ 0) := by
  by_cases hvalid : hnd.validate = true
  · have hregister : hnd.grallocRegisterBuffer main metadata = hnd.unmapped.grallocMap main metadata := by
      rw [PrivateHandle.grallocRegisterBuffer, hvalid]
      rfl
    rw [PrivateHandle.RegistersAtomically, hregister]
    by_cases hmappable : hnd.Mappable
    · have hmap := @grallocMap_eq hnd.unmapped hmappable.usesIon hmappable.notFramebuffer hmappable.notSecure
        main metadata
      rw [hmap]
      by_cases hmain : main.Mapped <;> by_cases hmetadata : metadata.Mapped <;>
        simp [hvalid, hmappable, hmain, hmetadata, PrivateHandle.unmapped]
    · apply iff_of_true
      · intro registered hmap hstatus
        exact absurd (grallocMap_status hmappable hvalid hmap) hstatus
      · exact ⟨fun hinvalid => absurd hvalid (by simp [hinvalid]), fun h => hmappable h.1⟩
  · have hinvalid : hnd.validate = false := Bool.not_eq_true _ ▸ hvalid
    have hregister : hnd.grallocRegisterBuffer main metadata = some ⟨invalidArgument, hnd, []⟩ := by
      rw [PrivateHandle.grallocRegisterBuffer, hinvalid]
      rfl
    have hmappable : ¬ hnd.Mappable := fun h => hvalid h.valid
    simp [PrivateHandle.RegistersAtomically, hregister, hinvalid, hmappable, invalidArgument]

end

/-- A lock for software is sound, and a registration atomic, exactly where the result of the mapping that is
dropped, and the mapping that is kept, do no harm. -/
theorem lock_register_atomic_iff (hnd registered : PrivateHandle) (hmappable : hnd.Mappable) (usage : BitVec 32)
    (hsoftware : usage &&& (usageSwReadMask ||| usageSwWriteMask) ≠ 0) (main metadata : MapOutcome)
    (clean : Int) :
    (hnd.LocksMapped usage main metadata clean ↔
        hnd.base ≠ 0 ∨ (main.Mapped ∧ main.mappedAddress + hnd.offset ≠ 0) ∨ clean ≠ 0) ∧
      (registered.RegistersAtomically main metadata ↔
        (registered.validate = false → registered.base = 0 ∧ registered.baseMetadata = 0) ∧
          ¬ (registered.Mappable ∧ main.Mapped ∧ ¬ metadata.Mapped ∧ metadata.errno ≠ 0)) :=
  ⟨locksMapped_iff hmappable hsoftware, registersAtomically_iff⟩

def pageHandle : PrivateHandle := PrivateHandle.new 5 4096 flagUsesIon bufferTypeUi 1 32 32

/-- A lock whose mapping fails with the cache operation behind it succeeding, and a registration whose second
mapping fails. -/
theorem pageHandle_not_atomic :
    pageHandle.Mappable ∧
      pageHandle.grallocLock usageSwReadMask ⟨-12, mapFailed, 12⟩ ⟨0, 0x40000000, 0⟩ 0 =
        some (⟨0, pageHandle, []⟩, some 0) ∧
      pageHandle.grallocRegisterBuffer ⟨0, 0x40000000, 0⟩ ⟨-12, mapFailed, 12⟩ =
        some ⟨-12, { pageHandle with base := 0x40000000 }, [(0x40000000, 4096)]⟩ ∧
      ¬ pageHandle.LocksMapped usageSwReadMask ⟨-12, mapFailed, 12⟩ ⟨0, 0x40000000, 0⟩ 0 ∧
      ¬ pageHandle.RegistersAtomically ⟨0, 0x40000000, 0⟩ ⟨-12, mapFailed, 12⟩ := by
  have hlock : pageHandle.grallocLock usageSwReadMask ⟨-12, mapFailed, 12⟩ ⟨0, 0x40000000, 0⟩ 0 =
      some (⟨0, pageHandle, []⟩, some 0) := by decide
  have hregister : pageHandle.grallocRegisterBuffer ⟨0, 0x40000000, 0⟩ ⟨-12, mapFailed, 12⟩ =
      some ⟨-12, { pageHandle with base := 0x40000000 }, [(0x40000000, 4096)]⟩ := by decide
  refine ⟨by decide, hlock, hregister, ?_, ?_⟩
  · rintro ⟨locked, vaddr, hlocked, hsound⟩
    obtain ⟨rfl, rfl⟩ := Prod.mk.inj (Option.some.inj (hlock.symm.trans hlocked))
    exact (hsound rfl).1 rfl
  · intro hatomic
    exact absurd (hatomic _ hregister (by decide)).2.2 (by simp)

/-- A lock whose mapping succeeds, and a registration whose first mapping fails. -/
theorem pageHandle_atomic :
    pageHandle.LocksMapped usageSwReadMask ⟨0, 0x40000000, 0⟩ ⟨-12, mapFailed, 12⟩ 0 ∧
      pageHandle.RegistersAtomically ⟨-12, mapFailed, 12⟩ ⟨0, 0x40000000, 0⟩ :=
  ⟨(lock_register_atomic_iff pageHandle pageHandle (by decide) usageSwReadMask (by decide) _ _ _).1.mpr
      (.inr (.inl (by decide))),
    (lock_register_atomic_iff pageHandle pageHandle (by decide) usageSwReadMask (by decide) _ _ 0).2.mpr
      (by decide)⟩

end Nozomi.Gralloc
