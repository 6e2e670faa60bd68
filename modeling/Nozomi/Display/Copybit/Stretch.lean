import Nozomi.Display.Copybit.Code

/-!
# The phases of a stretch

Rules for the phases of `stretch_copybit_internal`: what each of them hands to the next one, and where it
leaves early. How far a stretch gets is said by predicates on its images, on the outcomes of the calls under it
and on the temporary buffers of the device.
-/

namespace Nozomi.Copybit

variable {dst src image : CopybitImage} {outcome : SetImageOutcome} {outcomes : StretchOutcomes}
  {flags : C2dFlags} {surface : SurfaceId} {ctx : CopybitContext}

/-! ### What the phases ask for -/

/-- The checks in front of a stretch pass, with the type of the destination. -/
structure ImagesChecked (dst src : CopybitImage) (type : SurfaceType) : Prop where
  src_le : src.w ≤ maxDimension ∧ src.h ≤ maxDimension
  dst_le : dst.w ≤ maxDimension ∧ dst.h ≤ maxDimension
  not_tiled : dst.format ≠ .ycbcr420SpTiled
  type_eq : surfaceTypeOf dst.format = some type

instance instDecidableImagesChecked (dst src : CopybitImage) (type : SurfaceType) :
    Decidable (ImagesChecked dst src type) :=
  decidable_of_iff ((src.w ≤ maxDimension ∧ src.h ≤ maxDimension) ∧
      (dst.w ≤ maxDimension ∧ dst.h ≤ maxDimension) ∧ dst.format ≠ .ycbcr420SpTiled ∧
      surfaceTypeOf dst.format = some type)
    ⟨fun ⟨h₁, h₂, h₃, h₄⟩ => ⟨h₁, h₂, h₃, h₄⟩, fun ⟨h₁, h₂, h₃, h₄⟩ => ⟨h₁, h₂, h₃, h₄⟩⟩

def PrivateHandle.hasAddress (handle : PrivateHandle) (map : Option Nat) : Bool :=
  handle.gpuaddr != 0 || handle.hasMemtype && map.isSome

namespace CopybitImage

def handleRead (image : CopybitImage) : Bool := isSupportedRgbFormat image.format || image.handle.isSome

def needsTemp (image : CopybitImage) : Bool :=
  !isSupportedRgbFormat image.format &&
    match image.handle with
    | none => false
    | some handle =>
      handle.width.srem 32 != 0 ||
        getNumPlanes image.format == some 3 && (handle.width.sdiv 2).srem 32 != 0

def canBeSet (image : CopybitImage) (outcome : SetImageOutcome) : Bool :=
  image.format != .other && outcome.update &&
    match image.handle with
    | none => false
    | some handle => handle.hasAddress outcome.map

end CopybitImage

def TempBuffer.ready (temp : TempBuffer) (size : BitVec 32) (alloc : Option (BitVec 32)) : Bool :=
  size == temp.size || alloc.isSome

namespace CopybitContext

def tempFor (ctx : CopybitContext) (temp : TempBuffer) (image : CopybitImage) (alloc : Option (BitVec 32)) :
    TempBuffer :=
  (ctx.getTempBuffer (getSize image) temp alloc).1.2

def destinationImage (ctx : CopybitContext) (dst : CopybitImage) (alloc : Option (BitVec 32)) : CopybitImage :=
  if dst.needsTemp then (ctx.tempFor ctx.tempDstBuffer dst alloc).imageOf dst else dst

def sourceImage (ctx : CopybitContext) (src : CopybitImage) (alloc : Option (BitVec 32)) : CopybitImage :=
  if src.needsTemp then (ctx.tempFor ctx.tempSrcBuffer src alloc).imageOf src else src

def setsDestination (ctx : CopybitContext) (dst : CopybitImage) (outcomes : StretchOutcomes) : Bool :=
  dst.handleRead && (!dst.needsTemp || ctx.tempDstBuffer.ready (getSize dst) outcomes.allocDst) &&
    (ctx.destinationImage dst outcomes.allocDst).canBeSet outcomes.dst

def copiesSource (ctx : CopybitContext) (src : CopybitImage) (outcomes : StretchOutcomes) : Bool :=
  ctx.tempSrcBuffer.ready (getSize src) outcomes.allocSrc &&
    (src.handle.any fun handle =>
      copyImage handle.buffer (ctx.tempFor ctx.tempSrcBuffer src outcomes.allocSrc).buffer src.format) &&
    outcomes.cleanSrc

def setsSource (ctx : CopybitContext) (src : CopybitImage) (outcomes : StretchOutcomes) : Bool :=
  src.handleRead && (!src.needsTemp || ctx.copiesSource src outcomes) &&
    (ctx.sourceImage src outcomes.allocSrc).canBeSet outcomes.src

end CopybitContext

theorem getFormat_eq_none {format : PixelFormat} : getFormat format = none ↔ format = .other := by
  cases format <;> simp [getFormat]

theorem getC2dFormatForYuvDestination_eq_none {format : PixelFormat} :
    getC2dFormatForYuvDestination format = none ↔ format = .other := by
  cases format <;> simp [getC2dFormatForYuvDestination, getFormat]

theorem pictureOf_eq_none {buffer : MemoryBuffer} {format : BitVec 32} :
    pictureOf image buffer flags format = none ↔ image.format = .other := by
  unfold pictureOf
  cases image.format <;> simp [isSupportedRgbFormat, calculateYuvOffsetAndStride]

/-! ### What the operations leave alone -/

namespace CopybitContext

def Remaps (ctx next : CopybitContext) : Prop :=
  ∃ c2d table, next = { ctx with c2d := c2d, mappedGpuAddr := table }

theorem Remaps.refl (ctx : CopybitContext) : ctx.Remaps ctx := ⟨ctx.c2d, ctx.mappedGpuAddr, rfl⟩

theorem Remaps.trans {first second third : CopybitContext} (h : first.Remaps second)
    (h' : second.Remaps third) : first.Remaps third := by
  obtain ⟨c2d, table, rfl⟩ := h
  obtain ⟨c2d', table', rfl⟩ := h'
  exact ⟨c2d', table', rfl⟩

theorem c2dGetGpuaddr_remaps (ctx : CopybitContext) (handle : PrivateHandle) (map : Option Nat) :
    ctx.Remaps (ctx.c2dGetGpuaddr handle map).2 := by
  unfold c2dGetGpuaddr
  split
  · exact ⟨_, _, rfl⟩
  · exact Remaps.refl ctx

theorem unmapGpuaddr_remaps (ctx : CopybitContext) (mappedIdx : MappedIdx) :
    ctx.Remaps (ctx.unmapGpuaddr mappedIdx) := by
  cases mappedIdx with
  | none => exact Remaps.refl ctx
  | some index =>
    unfold unmapGpuaddr
    dsimp only
    split
    · exact Remaps.refl ctx
    · exact ⟨_, _, rfl⟩

theorem foldl_unmapGpuaddr_remaps (mapped : List MappedIdx) :
    ∀ ctx : CopybitContext, ctx.Remaps (mapped.foldl unmapGpuaddr ctx) := by
  induction mapped with
  | nil => exact Remaps.refl
  | cons mappedIdx mapped ih =>
    exact fun ctx => (ctx.unmapGpuaddr_remaps mappedIdx).trans (ih _)

theorem imageAddress_remaps (ctx : CopybitContext) (handle : PrivateHandle) (map : Option Nat) :
    ctx.Remaps (ctx.imageAddress handle map).2 := by
  unfold imageAddress
  split
  · exact ctx.c2dGetGpuaddr_remaps handle map
  · exact Remaps.refl ctx

theorem imageAddress_isSome (ctx : CopybitContext) (handle : PrivateHandle) (map : Option Nat) :
    (ctx.imageAddress handle map).1.1.isSome = handle.hasAddress map := by
  unfold imageAddress c2dGetGpuaddr PrivateHandle.hasAddress
  by_cases hgiven : handle.gpuaddr = 0
  · rw [if_pos hgiven, bne_eq_false_iff_eq.mpr hgiven, Bool.false_or]
    cases handle.hasMemtype with
    | false => rfl
    | true => cases map <;> rfl
  · rw [if_neg hgiven, bne_iff_ne.mpr hgiven]
    rfl

theorem imageAddress_of_none {handle : PrivateHandle} {map : Option Nat} {mappedIdx : MappedIdx}
    {next : CopybitContext} (haddress : ctx.imageAddress handle map = ((none, mappedIdx), next)) :
    next = ctx := by
  unfold imageAddress c2dGetGpuaddr at haddress
  split at haddress
  · split at haddress
    · cases haddress
    · exact (Prod.mk.inj haddress).2.symm
  · cases haddress

theorem setImage_cases (ctx : CopybitContext) (surface : SurfaceId) (image : CopybitImage) (flags : C2dFlags)
    (outcome : SetImageOutcome) :
    (∃ status, status ≠ copybitSuccess ∧ image.canBeSet outcome = false ∧
      ctx.setImage surface image flags outcome = ((status, none), ctx)) ∨
    (∃ handle gpuaddr mappedIdx mapped, image.handle = some handle ∧ image.format ≠ .other ∧
      image.canBeSet outcome = false ∧
      ctx.imageAddress handle outcome.map = ((some gpuaddr, mappedIdx), mapped) ∧
      ctx.setImage surface image flags outcome =
        ((copybitFailure, mappedIdx), mapped.unmapGpuaddr mappedIdx)) ∨
    ∃ handle format picture gpuaddr mappedIdx mapped, image.handle = some handle ∧
      image.canBeSet outcome = true ∧
      (if flags.yuvDestination then getC2dFormatForYuvDestination image.format else getFormat image.format) =
        some format ∧
      pictureOf image handle.buffer flags format = some picture ∧
      ctx.imageAddress handle outcome.map = ((some gpuaddr, mappedIdx), mapped) ∧
      ctx.setImage surface image flags outcome =
        ((copybitSuccess, mappedIdx),
          { mapped with c2d := mapped.c2d.updateSurface surface ⟨picture, gpuaddr⟩ }) := by
  have hEinval : invalidArgument ≠ copybitSuccess := by decide
  have hFailure : copybitFailure ≠ copybitSuccess := by decide
  unfold setImage CopybitImage.canBeSet
  generalize hformat : (if flags.yuvDestination = true then getC2dFormatForYuvDestination image.format
    else getFormat image.format) = c2dFormat
  cases c2dFormat with
  | none =>
    have hother : image.format = .other := by
      split at hformat
      · exact getC2dFormatForYuvDestination_eq_none.mp hformat
      · exact getFormat_eq_none.mp hformat
    exact .inl ⟨_, hEinval, by simp [hother], rfl⟩
  | some format =>
    have hother : image.format ≠ .other := by
      intro hother
      split at hformat
      · rw [getC2dFormatForYuvDestination_eq_none.mpr hother] at hformat
        cases hformat
      · rw [getFormat_eq_none.mpr hother] at hformat
        cases hformat
    cases hhandle : image.handle with
    | none => exact .inl ⟨_, hEinval, by simp, rfl⟩
    | some handle =>
      dsimp only
      obtain ⟨picture, hpicture⟩ : ∃ picture, pictureOf image handle.buffer flags format = some picture :=
        Option.ne_none_iff_exists'.mp fun h => hother (pictureOf_eq_none.mp h)
      rw [hpicture]
      rcases haddress : ctx.imageAddress handle outcome.map with ⟨⟨gpuaddr, mappedIdx⟩, mapped⟩
      have haddressed := ctx.imageAddress_isSome handle outcome.map
      rw [haddress] at haddressed
      cases gpuaddr with
      | none =>
        obtain rfl : mapped = ctx := by
          have hsame := ctx.imageAddress_of_none haddress
          exact hsame
        refine .inl ⟨_, hFailure, ?_, rfl⟩
        rw [← haddressed]
        exact Bool.and_false _
      | some gpuaddr =>
        by_cases hupdate : outcome.update = true
        · refine .inr (.inr ⟨handle, format, picture, gpuaddr, mappedIdx, mapped, rfl, ?_, rfl, hpicture,
            haddress, ?_⟩)
          · rw [← haddressed]
            simp [hother, hupdate]
          · dsimp only
            rw [if_pos hupdate]
        · refine .inr (.inl ⟨handle, gpuaddr, mappedIdx, mapped, rfl, hother, ?_, haddress, ?_⟩)
          · simp [hupdate]
          · dsimp only
            rw [if_neg hupdate]

theorem setImage_status (ctx : CopybitContext) (surface : SurfaceId) (image : CopybitImage) (flags : C2dFlags)
    (outcome : SetImageOutcome) :
    (ctx.setImage surface image flags outcome).1.1 = copybitSuccess ↔ image.canBeSet outcome = true := by
  rcases ctx.setImage_cases surface image flags outcome with
    ⟨status, hstatus, hset, heq⟩ | ⟨_, _, _, _, -, -, hset, -, heq⟩ | ⟨_, _, _, _, _, _, -, hset, -, -, -, heq⟩
  · simp [heq, hset, hstatus]
  · simp [heq, hset, copybitFailure, copybitSuccess]
  · simp [heq, hset]

theorem setImage_remaps (ctx : CopybitContext) (surface : SurfaceId) (image : CopybitImage) (flags : C2dFlags)
    (outcome : SetImageOutcome) : ctx.Remaps (ctx.setImage surface image flags outcome).2 := by
  rcases ctx.setImage_cases surface image flags outcome with
    ⟨_, -, -, heq⟩ | ⟨handle, _, mappedIdx, mapped, -, -, -, haddress, heq⟩ |
      ⟨handle, _, _, _, _, mapped, -, -, -, -, haddress, heq⟩
  · rw [heq]
    exact Remaps.refl ctx
  · have hmapped := ctx.imageAddress_remaps handle outcome.map
    rw [haddress] at hmapped
    rw [heq]
    exact hmapped.trans (mapped.unmapGpuaddr_remaps mappedIdx)
  · have hmapped := ctx.imageAddress_remaps handle outcome.map
    rw [haddress] at hmapped
    rw [heq]
    obtain ⟨c2d, table, rfl⟩ := hmapped
    exact ⟨_, _, rfl⟩

theorem msmCopybit_eq (ctx : CopybitContext) (draw : Bool) :
    ∃ c2d, (ctx.msmCopybit draw).2 = { ctx with c2d := c2d } := by
  unfold msmCopybit
  split
  · exact ⟨_, rfl⟩
  · split
    · exact ⟨_, rfl⟩
    · exact ⟨_, rfl⟩

theorem finishCopybitInternal_eq (ctx : CopybitContext) (outcome : FinishOutcome) :
    ∃ c2d table, (ctx.finishCopybitInternal outcome).2 =
      { ctx with
        c2d := c2d
        mappedGpuAddr := table
        blitCount := if outcome.finish then fun _ => 0 else ctx.blitCount
        blitList := if outcome.finish then [] else ctx.blitList } := by
  obtain ⟨c2d, hdrawn⟩ := ctx.msmCopybit_eq outcome.draw
  unfold finishCopybitInternal
  dsimp only
  rw [hdrawn]
  cases outcome.finish with
  | false => exact ⟨_, _, rfl⟩
  | true => exact ⟨_, _, rfl⟩

def emptiesEarly (ctx : CopybitContext) (dstType : SurfaceType) (outcome : FinishOutcome) : Bool :=
  ctx.finishesEarly dstType && outcome.finish

def earlyFinished (ctx : CopybitContext) (dstType : SurfaceType) (outcome : FinishOutcome) : CopybitContext :=
  { (if ctx.finishesEarly dstType then (ctx.finishCopybitInternal outcome).2 else ctx) with
    dstSurfaceType := dstType }

theorem earlyFinished_eq (ctx : CopybitContext) (dstType : SurfaceType) (outcome : FinishOutcome) :
    ∃ c2d table, ctx.earlyFinished dstType outcome =
      { ctx with
        c2d := c2d
        mappedGpuAddr := table
        blitCount := if ctx.emptiesEarly dstType outcome then fun _ => 0 else ctx.blitCount
        blitList := if ctx.emptiesEarly dstType outcome then [] else ctx.blitList
        dstSurfaceType := dstType } := by
  obtain ⟨c2d, table, heq⟩ := ctx.finishCopybitInternal_eq outcome
  unfold earlyFinished emptiesEarly
  cases ctx.finishesEarly dstType with
  | false => exact ⟨_, _, rfl⟩
  | true =>
    rw [if_pos rfl, heq, Bool.true_and]
    exact ⟨_, _, rfl⟩

end CopybitContext

/-! ### Rules for the phases -/

section

variable {α : Type} {value : α} {post : PUnit → CopybitContext → Prop}
  {exit : CopybitExit → CopybitContext → Prop}

@[simp] theorem ends_exitIf (failed : Bool) (status : Int) :
    Ends (exitIf failed status) post exit ctx ↔
      (failed = true → exit (.returned status) ctx) ∧ (failed = false → post ⟨⟩ ctx) := by
  cases failed <;> simp [exitIf]

@[simp] theorem ends_exitUnmappingIf (failed : Bool) (status : Int) (mapped : List MappedIdx) :
    Ends (exitUnmappingIf failed status mapped) post exit ctx ↔
      (failed = true → exit (.returned status) (mapped.foldl CopybitContext.unmapGpuaddr ctx)) ∧
        (failed = false → post ⟨⟩ ctx) := by
  cases failed <;> simp [exitUnmappingIf]

theorem ends_deref {pointer : Option α} {post : α → CopybitContext → Prop}
    (hpost : ∀ value, pointer = some value → post value ctx)
    (hexit : pointer = none → exit .nullHandle ctx) : Ends (deref pointer) post exit ctx := by
  cases pointer with
  | none => exact hexit rfl
  | some value => exact hpost value rfl

theorem ends_checkImages {post : SurfaceType → CopybitContext → Prop}
    (hpost : ∀ type, ImagesChecked dst src type → post type ctx)
    (hexit : ∀ status, status ≠ copybitSuccess → (∀ type, ¬ ImagesChecked dst src type) →
      exit (.returned status) ctx) :
    Ends (checkImages dst src) post exit ctx := by
  have hEinval := hexit invalidArgument (by decide)
  have hFailure := hexit copybitFailure (by decide)
  have hsize {first second : BitVec 32} :
      (decide (maxDimension < first) || decide (maxDimension < second)) = false ↔
        first ≤ maxDimension ∧ second ≤ maxDimension := by
    rw [Bool.or_eq_false_iff, decide_eq_false_iff_not, decide_eq_false_iff_not, BitVec.not_lt, BitVec.not_lt]
  have hlarge {first second : BitVec 32}
      (hlarge : (decide (maxDimension < first) || decide (maxDimension < second)) = true) :
      ¬ (first ≤ maxDimension ∧ second ≤ maxDimension) := by
    rw [← hsize, hlarge]
    exact Bool.noConfusion
  unfold checkImages
  simp only [ends_bind, ends_exitIf]
  refine ⟨fun hsrc => hEinval fun type hchecked => hlarge hsrc hchecked.src_le, fun hsrc => ?_⟩
  refine ⟨fun hdst => hEinval fun type hchecked => hlarge hdst hchecked.dst_le, fun hdst => ?_⟩
  refine ⟨fun htiled => hFailure fun type hchecked => hchecked.not_tiled (beq_iff_eq.mp htiled),
    fun htiled => ?_⟩
  cases htype : surfaceTypeOf dst.format with
  | none =>
    apply hFailure
    intro type hchecked
    cases htype.symm.trans hchecked.type_eq
  | some type => exact hpost type ⟨hsize.mp hsrc, hsize.mp hdst, by simpa using htiled, htype⟩

theorem ends_finishEarly {type : SurfaceType} {outcome : FinishOutcome}
    (hpost : post ⟨⟩ (ctx.earlyFinished type outcome)) :
    Ends (finishEarly type outcome) post exit ctx :=
  hpost

theorem ends_needTempBuffer {post : Bool → CopybitContext → Prop}
    (hpost : image.handleRead = true → post image.needsTemp ctx)
    (hexit : image.handleRead = false → exit .nullHandle ctx) :
    Ends (needTempBuffer image) post exit ctx := by
  unfold needTempBuffer
  rw [ends_ite]
  constructor
  · intro hrgb
    have hpost := hpost (by simp [CopybitImage.handleRead, hrgb])
    rwa [CopybitImage.needsTemp, hrgb] at hpost
  · intro hrgb
    rw [ends_bind]
    apply ends_deref
    · intro handle hhandle
      have hpost := hpost (by simp [CopybitImage.handleRead, hhandle])
      rw [CopybitImage.needsTemp, hhandle, Bool.eq_false_of_not_eq_true hrgb] at hpost
      exact hpost
    · intro hhandle
      exact hexit (by simp [CopybitImage.handleRead, hhandle, hrgb])

theorem getTempBuffer_failed (ctx : CopybitContext) (size : BitVec 32) (temp : TempBuffer)
    (alloc : Option (BitVec 32)) : (ctx.getTempBuffer size temp alloc).1.1 = !temp.ready size alloc := by
  unfold CopybitContext.getTempBuffer TempBuffer.ready
  by_cases hsize : size = temp.size
  · simp [hsize]
  · cases alloc <;> simp [hsize]

theorem getTempBuffer_eq (ctx : CopybitContext) (size : BitVec 32) (temp : TempBuffer)
    (alloc : Option (BitVec 32)) :
    ∃ allocated, (ctx.getTempBuffer size temp alloc).2 = { ctx with allocated := allocated } := by
  unfold CopybitContext.getTempBuffer
  split
  · exact ⟨_, rfl⟩
  · split <;> exact ⟨_, rfl⟩

theorem ends_useTempDst {alloc : Option (BitVec 32)} {post : CopybitImage → CopybitContext → Prop}
    (hpost : ∀ allocated, ctx.tempDstBuffer.ready (getSize dst) alloc = true →
      (ctx.getTempBuffer (getSize dst) ctx.tempDstBuffer alloc).2 = { ctx with allocated := allocated } →
      post ((ctx.tempFor ctx.tempDstBuffer dst alloc).imageOf dst)
        { ctx with tempDstBuffer := ctx.tempFor ctx.tempDstBuffer dst alloc, allocated := allocated })
    (hexit : ∀ allocated, ctx.tempDstBuffer.ready (getSize dst) alloc = false →
      (ctx.getTempBuffer (getSize dst) ctx.tempDstBuffer alloc).2 = { ctx with allocated := allocated } →
      exit (.returned copybitFailure)
        { ctx with tempDstBuffer := ctx.tempFor ctx.tempDstBuffer dst alloc, allocated := allocated }) :
    Ends (useTempDst dst alloc) post exit ctx := by
  obtain ⟨allocated, hallocated⟩ := getTempBuffer_eq ctx (getSize dst) ctx.tempDstBuffer alloc
  unfold useTempDst
  simp only [ends_bind, ends_modifyGet, ends_exitIf, ends_get, ends_pure]
  rw [hallocated, getTempBuffer_failed, Bool.not_eq_true', Bool.not_eq_false']
  exact ⟨fun hready => hexit allocated hready hallocated, fun hready => hpost allocated hready hallocated⟩

variable {mappedDstIdx : MappedIdx}

theorem ends_useTempSrc {post : CopybitImage → CopybitContext → Prop} (hneeds : src.needsTemp = true)
    (hpost : ∀ allocated, ctx.copiesSource src outcomes = true →
      (ctx.getTempBuffer (getSize src) ctx.tempSrcBuffer outcomes.allocSrc).2 =
        { ctx with allocated := allocated } →
      post ((ctx.tempFor ctx.tempSrcBuffer src outcomes.allocSrc).imageOf src)
        { ctx with
          tempSrcBuffer := ctx.tempFor ctx.tempSrcBuffer src outcomes.allocSrc
          allocated := allocated
          contents := ctx.copiedTo src (ctx.tempFor ctx.tempSrcBuffer src outcomes.allocSrc).buffer })
    (hexit : ∀ temp allocated contents, contents = ctx.contents ∨
        contents = ctx.copiedTo src (ctx.tempFor ctx.tempSrcBuffer src outcomes.allocSrc).buffer →
      ctx.copiesSource src outcomes = false →
      exit (.returned copybitFailure)
        (CopybitContext.unmapGpuaddr
          { ctx with tempSrcBuffer := temp, allocated := allocated, contents := contents } mappedDstIdx)) :
    Ends (useTempSrc src mappedDstIdx outcomes.allocSrc outcomes.cleanSrc) post exit ctx := by
  obtain ⟨handle, hhandle⟩ : ∃ handle, src.handle = some handle := by
    cases hhandle : src.handle with
    | none => simp [CopybitImage.needsTemp, hhandle] at hneeds
    | some handle => exact ⟨handle, rfl⟩
  obtain ⟨allocated, hallocated⟩ := getTempBuffer_eq ctx (getSize src) ctx.tempSrcBuffer outcomes.allocSrc
  have hcopies : ctx.copiesSource src outcomes =
      (ctx.tempSrcBuffer.ready (getSize src) outcomes.allocSrc &&
        copyImage handle.buffer (ctx.tempFor ctx.tempSrcBuffer src outcomes.allocSrc).buffer src.format &&
        outcomes.cleanSrc) := by
    rw [CopybitContext.copiesSource, hhandle]
    rfl
  unfold useTempSrc
  simp only [ends_bind, ends_modifyGet, ends_exitUnmappingIf, hhandle, List.foldl_cons, List.foldl_nil]
  rw [hallocated, getTempBuffer_failed, Bool.not_eq_true', Bool.not_eq_false']
  refine ⟨fun hready => hexit _ allocated ctx.contents (.inl rfl) (by simp [hcopies, hready]), fun hready => ?_⟩
  apply ends_deref
  · rintro _ ⟨rfl⟩
    simp only [ends_bind, ends_get, ends_exitUnmappingIf, List.foldl_cons, List.foldl_nil, ends_modify,
      ends_pure, Bool.not_eq_true', Bool.not_eq_false']
    refine ⟨fun hcopied => hexit _ allocated ctx.contents (.inl rfl) (by simp_all [CopybitContext.tempFor]),
      fun hcopied => ?_⟩
    constructor
    · exact fun hclean => hexit _ allocated _ (.inr rfl) (by simp [hcopies, hclean])
    · exact fun hclean => hpost allocated (by simp_all [CopybitContext.tempFor]) hallocated
  · intro hnone
    cases hnone

theorem ends_setDestination {type : SurfaceType} {post : MappedIdx → CopybitContext → Prop}
    (hpost : image.canBeSet outcome = true →
      let set := ctx.setImage (.target type) image ⟨type == .rgb, type != .rgb⟩ outcome
      post set.1.2 set.2)
    (hexit : image.canBeSet outcome = false →
      let set := ctx.setImage (.target type) image ⟨type == .rgb, type != .rgb⟩ outcome
      exit (.returned copybitFailure) (set.2.unmapGpuaddr set.1.2)) :
    Ends (setDestination image type outcome) post exit ctx := by
  unfold setDestination
  have hstatus := ctx.setImage_status (.target type) image ⟨type == .rgb, type != .rgb⟩ outcome
  simp only [ends_bind, ends_modifyGet, ends_exitUnmappingIf, ends_pure, bne_iff_ne, ne_eq, hstatus,
    bne_eq_false_iff_eq]
  exact ⟨fun hset => hexit (Bool.eq_false_of_not_eq_true hset), hpost⟩

theorem ends_takeTemplate {post : SurfaceType × C2dObject → CopybitContext → Prop}
    (hpost : ∀ type, surfaceTypeOf src.format = some type → ctx.blitCount type < type.max →
      post (type, ctx.blitObject type (ctx.blitCount type)) ctx)
    (hnone : surfaceTypeOf src.format = none → exit (.returned invalidArgument) (ctx.unmapGpuaddr mappedDstIdx))
    (hfull : ∀ type, surfaceTypeOf src.format = some type → type.max ≤ ctx.blitCount type → exit .outOfBounds ctx) :
    Ends (takeTemplate src mappedDstIdx) post exit ctx := by
  unfold takeTemplate
  split
  · rename_i htype
    simpa using hnone htype
  · rename_i type htype
    simp only [ends_bind, ends_get, ends_ite, ends_pure, ends_throw, Nat.not_lt]
    exact ⟨hpost type htype, hfull type htype⟩

theorem ends_setSource {post : MappedIdx → CopybitContext → Prop}
    (hpost : image.canBeSet outcome = true →
      let set := ctx.setImage surface image ⟨ctx.isPremultipliedAlpha, ctx.dstSurfaceType != .rgb⟩ outcome
      post set.1.2 set.2)
    (hexit : image.canBeSet outcome = false →
      let set := ctx.setImage surface image ⟨ctx.isPremultipliedAlpha, ctx.dstSurfaceType != .rgb⟩ outcome
      exit (.returned copybitFailure) ((set.2.unmapGpuaddr mappedDstIdx).unmapGpuaddr set.1.2)) :
    Ends (setSource image surface mappedDstIdx outcome) post exit ctx := by
  unfold setSource
  have hstatus := ctx.setImage_status surface image
    ⟨ctx.isPremultipliedAlpha, ctx.dstSurfaceType != .rgb⟩ outcome
  simp only [ends_bind, ends_get, ends_modifyGet, ends_exitUnmappingIf, ends_pure, bne_iff_ne, ne_eq, hstatus,
    bne_eq_false_iff_eq]
  exact ⟨fun hset => hexit (Bool.eq_false_of_not_eq_true hset), hpost⟩

theorem ends_storeTemplate {type : SurfaceType} {object : C2dObject} {enableBlend : Bool}
    {mapped : List MappedIdx} {post : C2dObject → CopybitContext → Prop}
    (hblend : enableBlend = true → ctx.srcGlobalAlpha ≠ 0)
    (hpost : ∀ settings, ctx.blendSettings object.settings enableBlend = some settings →
      post { object with settings := settings }
        { ctx with
          blitObject := Function.update ctx.blitObject type
            (Function.update (ctx.blitObject type) (ctx.blitCount type) { object with settings := settings })
          blitCount := Function.update ctx.blitCount type (ctx.blitCount type + 1) }) :
    Ends (storeTemplate type object enableBlend mapped) post exit ctx := by
  unfold storeTemplate
  simp only [ends_bind, ends_get]
  cases hsettings : ctx.blendSettings object.settings enableBlend with
  | none =>
    unfold CopybitContext.blendSettings at hsettings
    cases enableBlend with
    | false => cases hsettings
    | true => grind
  | some settings =>
    simp only [ends_bind, ends_modify, ends_pure]
    exact hpost settings hsettings

theorem ends_copyBack {temp : TempBuffer} {mapped : List MappedIdx} (hneeds : dst.needsTemp = true)
    (hpost : (∀ handle ∈ dst.handle, copyImage temp.buffer handle.buffer dst.format = true) →
      post ⟨⟩ { ctx with c2d := { ctx.c2d with drawn := ctx.c2d.drawn ++ [.copyBack temp.buffer dst] } })
    (hexit : (∀ handle ∈ dst.handle, copyImage temp.buffer handle.buffer dst.format = false) →
      exit (.returned copybitFailure) (mapped.foldl CopybitContext.unmapGpuaddr ctx)) :
    Ends (copyBack (temp.imageOf dst) dst mapped) post exit ctx := by
  unfold copyBack
  rw [ends_bind]
  apply ends_deref
  · rintro _ ⟨rfl⟩
    rw [ends_bind]
    apply ends_deref
    · intro handle hhandle
      simp only [ends_bind, ends_exitUnmappingIf, ends_modify, Bool.not_eq_true', Bool.not_eq_false']
      rw [hhandle] at hpost hexit
      refine ⟨fun hfails => hexit ?_, fun hcopied => hpost ?_⟩
      · rintro _ ⟨rfl⟩
        exact hfails
      · rintro _ ⟨rfl⟩
        exact hcopied
    · intro hnone
      simp [CopybitImage.needsTemp, hnone] at hneeds
  · intro hnone
    cases hnone

end

theorem tempFor_cases (first second : CopybitContext) (temp : TempBuffer) (image : CopybitImage)
    (alloc : Option (BitVec 32)) :
    first.tempFor temp image alloc = second.tempFor temp image alloc ∨
      ∃ size allocType, first.tempFor temp image alloc = ⟨.temporary first.allocated, size, allocType⟩ ∧
        second.tempFor temp image alloc = ⟨.temporary second.allocated, size, allocType⟩ := by
  unfold CopybitContext.tempFor CopybitContext.getTempBuffer
  by_cases hsize : getSize image = temp.size
  · exact .inl (by rw [if_pos hsize, if_pos hsize])
  · rw [if_neg hsize, if_neg hsize]
    cases alloc with
    | none => exact .inl rfl
    | some allocType => exact .inr ⟨_, _, rfl, rfl⟩

section

variable {first second : CopybitContext}

theorem tempFor_canBeSet (first second : CopybitContext) (temp : TempBuffer) (image : CopybitImage)
    (alloc : Option (BitVec 32)) (outcome : SetImageOutcome) :
    ((first.tempFor temp image alloc).imageOf image).canBeSet outcome =
      ((second.tempFor temp image alloc).imageOf image).canBeSet outcome := by
  rcases tempFor_cases first second temp image alloc with hsame | ⟨size, allocType, hfirst, hsecond⟩
  · rw [hsame]
  · rw [hfirst, hsecond]
    rfl

theorem destinationImage_canBeSet_congr (htemp : first.tempDstBuffer = second.tempDstBuffer)
    (dst : CopybitImage) (alloc : Option (BitVec 32)) (outcome : SetImageOutcome) :
    (first.destinationImage dst alloc).canBeSet outcome =
      (second.destinationImage dst alloc).canBeSet outcome := by
  unfold CopybitContext.destinationImage
  rw [htemp]
  cases dst.needsTemp with
  | false => rfl
  | true => exact tempFor_canBeSet first second second.tempDstBuffer dst alloc outcome

theorem setsDestination_congr (htemp : first.tempDstBuffer = second.tempDstBuffer) (dst : CopybitImage)
    (outcomes : StretchOutcomes) :
    first.setsDestination dst outcomes = second.setsDestination dst outcomes := by
  unfold CopybitContext.setsDestination
  rw [destinationImage_canBeSet_congr htemp, htemp]

theorem sourceImage_canBeSet_congr (htemp : first.tempSrcBuffer = second.tempSrcBuffer)
    (src : CopybitImage) (alloc : Option (BitVec 32)) (outcome : SetImageOutcome) :
    (first.sourceImage src alloc).canBeSet outcome = (second.sourceImage src alloc).canBeSet outcome := by
  unfold CopybitContext.sourceImage
  rw [htemp]
  cases src.needsTemp with
  | false => rfl
  | true => exact tempFor_canBeSet first second second.tempSrcBuffer src alloc outcome

theorem copiesSource_congr (htemp : first.tempSrcBuffer = second.tempSrcBuffer) (src : CopybitImage)
    (outcomes : StretchOutcomes) : first.copiesSource src outcomes = second.copiesSource src outcomes := by
  unfold CopybitContext.copiesSource
  rw [htemp]
  rcases tempFor_cases first second second.tempSrcBuffer src outcomes.allocSrc with
    hsame | ⟨size, allocType, hfirst, hsecond⟩
  · rw [hsame]
  · rw [hfirst, hsecond]
    rfl

theorem setsSource_congr (htemp : first.tempSrcBuffer = second.tempSrcBuffer) (src : CopybitImage)
    (outcomes : StretchOutcomes) : first.setsSource src outcomes = second.setsSource src outcomes := by
  unfold CopybitContext.setsSource
  rw [copiesSource_congr htemp, sourceImage_canBeSet_congr htemp]

end

/-! ### The whole of a stretch -/

namespace CopybitContext

def withTempDst (ctx : CopybitContext) (dst : CopybitImage) (alloc : Option (BitVec 32)) : CopybitContext :=
  if dst.needsTemp then
    { (ctx.getTempBuffer (getSize dst) ctx.tempDstBuffer alloc).2 with
      tempDstBuffer := ctx.tempFor ctx.tempDstBuffer dst alloc }
  else ctx

def withTempSrc (ctx : CopybitContext) (src : CopybitImage) (alloc : Option (BitVec 32)) : CopybitContext :=
  if src.needsTemp then
    { (ctx.getTempBuffer (getSize src) ctx.tempSrcBuffer alloc).2 with
      tempSrcBuffer := ctx.tempFor ctx.tempSrcBuffer src alloc
      contents := ctx.copiedTo src (ctx.tempFor ctx.tempSrcBuffer src alloc).buffer }
  else ctx

def destinationSet (ctx : CopybitContext) (type : SurfaceType) (dst : CopybitImage)
    (outcomes : StretchOutcomes) : (Int × MappedIdx) × CopybitContext :=
  (ctx.withTempDst dst outcomes.allocDst).setImage (.target type)
    (ctx.destinationImage dst outcomes.allocDst) ⟨type == .rgb, type != .rgb⟩ outcomes.dst

def sourceSet (ctx : CopybitContext) (surface : SurfaceId) (src : CopybitImage) (outcomes : StretchOutcomes) :
    (Int × MappedIdx) × CopybitContext :=
  (ctx.withTempSrc src outcomes.allocSrc).setImage surface (ctx.sourceImage src outcomes.allocSrc)
    ⟨ctx.isPremultipliedAlpha, ctx.dstSurfaceType != .rgb⟩ outcomes.src

def withTemplate (ctx : CopybitContext) (type : SurfaceType) (object : C2dObject) : CopybitContext :=
  { ctx with
    blitObject := Function.update ctx.blitObject type
      (Function.update (ctx.blitObject type) (ctx.blitCount type) object)
    blitCount := Function.update ctx.blitCount type (ctx.blitCount type + 1) }

end CopybitContext

section

variable {dstRect srcRect : CopybitRect} {region : List (CopybitRect × FinishOutcome)} {enableBlend : Bool}
  {post : PUnit → CopybitContext → Prop} {exit : CopybitExit → CopybitContext → Prop}

theorem ends_destination {type : SurfaceType} {rest : Bool → CopybitImage → MappedIdx → CopybitM PUnit}
    (hnull : exit .nullHandle ctx)
    (halloc : dst.needsTemp = true → ctx.tempDstBuffer.ready (getSize dst) outcomes.allocDst = false →
      exit (.returned copybitFailure) (ctx.withTempDst dst outcomes.allocDst))
    (hfail : dst.handleRead = true →
      (dst.needsTemp = true → ctx.tempDstBuffer.ready (getSize dst) outcomes.allocDst = true) →
      (ctx.destinationImage dst outcomes.allocDst).canBeSet outcomes.dst = false →
      let set := ctx.destinationSet type dst outcomes
      exit (.returned copybitFailure) (set.2.unmapGpuaddr set.1.2))
    (hrest : ctx.setsDestination dst outcomes = true →
      let set := ctx.destinationSet type dst outcomes
      Ends (rest dst.needsTemp (ctx.destinationImage dst outcomes.allocDst) set.1.2) post exit set.2) :
    Ends (do
      let needTempDst ← needTempBuffer dst
      let dstImage ← (if needTempDst then useTempDst dst outcomes.allocDst else pure dst)
      let mappedDstIdx ← setDestination dstImage type outcomes.dst
      rest needTempDst dstImage mappedDstIdx) post exit ctx := by
  rw [ends_bind]
  apply ends_needTempBuffer
  case hexit => exact fun _ => hnull
  intro hread
  rw [ends_bind]
  unfold CopybitContext.setsDestination at hrest
  unfold CopybitContext.destinationSet CopybitContext.destinationImage CopybitContext.withTempDst at *
  rw [hread, Bool.true_and] at hrest
  have hfail := hfail hread
  cases hneeds : dst.needsTemp with
  | false =>
    simp only [hneeds, Bool.false_eq_true, if_false, Bool.not_false, Bool.true_or, Bool.true_and]
      at hrest hfail ⊢
    rw [ends_pure, ends_bind]
    exact ends_setDestination hrest (hfail nofun)
  | true =>
    simp only [hneeds, if_true, Bool.not_true, Bool.false_or] at hrest hfail halloc ⊢
    apply ends_useTempDst
    · intro allocated hready heq
      rw [hready, Bool.true_and, heq] at hrest
      rw [heq] at hfail
      rw [ends_bind]
      exact ends_setDestination hrest (hfail fun _ => hready)
    · intro allocated hready heq
      have halloc := halloc trivial hready
      rwa [heq] at halloc

theorem ends_source {mappedDstIdx : MappedIdx} {rest : Bool → MappedIdx → C2dObject → CopybitM PUnit}
    (hnull : ∀ next, exit .nullHandle next)
    (hblend : enableBlend = true → ctx.srcGlobalAlpha ≠ 0)
    (hformat : surfaceTypeOf src.format = none →
      exit (.returned invalidArgument) (ctx.unmapGpuaddr mappedDstIdx))
    (hfull : ∀ type, surfaceTypeOf src.format = some type → type.max ≤ ctx.blitCount type →
      exit .outOfBounds ctx)
    (hcopy : ∀ type, surfaceTypeOf src.format = some type → ctx.blitCount type < type.max →
      src.handleRead = true → src.needsTemp = true → ctx.copiesSource src outcomes = false →
      ∀ temp allocated contents, contents = ctx.contents ∨
        contents = ctx.copiedTo src (ctx.tempFor ctx.tempSrcBuffer src outcomes.allocSrc).buffer →
      exit (.returned copybitFailure)
        (CopybitContext.unmapGpuaddr
          { ctx with tempSrcBuffer := temp, allocated := allocated, contents := contents } mappedDstIdx))
    (hfail : ∀ type, surfaceTypeOf src.format = some type → ctx.blitCount type < type.max →
      src.handleRead = true → (src.needsTemp = true → ctx.copiesSource src outcomes = true) →
      (ctx.sourceImage src outcomes.allocSrc).canBeSet outcomes.src = false →
      let set := ctx.sourceSet (ctx.blitObject type (ctx.blitCount type)).surfaceId src outcomes
      exit (.returned copybitFailure) ((set.2.unmapGpuaddr mappedDstIdx).unmapGpuaddr set.1.2))
    (hrest : ∀ type, surfaceTypeOf src.format = some type → ctx.blitCount type < type.max →
      ctx.setsSource src outcomes = true →
      let template := ctx.blitObject type (ctx.blitCount type)
      let set := ctx.sourceSet template.surfaceId src outcomes
      ∀ settings, ctx.blendSettings template.settings enableBlend = some settings →
        Ends (rest src.needsTemp set.1.2 { template with settings := settings }) post exit
          (set.2.withTemplate type { template with settings := settings })) :
    Ends (do
      let (srcSurfaceType, srcSurface) ← takeTemplate src mappedDstIdx
      let needTempSrc ← needTempBuffer src
      let srcImage ← (if needTempSrc then useTempSrc src mappedDstIdx outcomes.allocSrc outcomes.cleanSrc
        else pure src)
      let mappedSrcIdx ← setSource srcImage srcSurface.surfaceId mappedDstIdx outcomes.src
      let srcSurface ← storeTemplate srcSurfaceType srcSurface enableBlend [mappedDstIdx, mappedSrcIdx]
      rest needTempSrc mappedSrcIdx srcSurface) post exit ctx := by
  rw [ends_bind]
  apply ends_takeTemplate
  case hnone => exact hformat
  case hfull => exact hfull
  intro type htype hroom
  have hrest := hrest type htype hroom
  have hfail := hfail type htype hroom
  have hcopy := hcopy type htype hroom
  dsimp only
  rw [ends_bind]
  apply ends_needTempBuffer
  case hexit => exact fun _ => hnull ctx
  intro hread
  have hfail := hfail hread
  unfold CopybitContext.setsSource at hrest
  rw [hread, Bool.true_and] at hrest
  generalize htemplate : ctx.blitObject type (ctx.blitCount type) = template at *
  -- behind the copy of the source
  have hset : ∀ next image, next.isPremultipliedAlpha = ctx.isPremultipliedAlpha →
      next.dstSurfaceType = ctx.dstSurfaceType → next.srcGlobalAlpha = ctx.srcGlobalAlpha →
      next.configMask = ctx.configMask → next.blitObject = ctx.blitObject → next.blitCount = ctx.blitCount →
      next = ctx.withTempSrc src outcomes.allocSrc → image = ctx.sourceImage src outcomes.allocSrc →
      ((!src.needsTemp || ctx.copiesSource src outcomes) = true) →
      Ends (do
        let mappedSrcIdx ← setSource image template.surfaceId mappedDstIdx outcomes.src
        let srcSurface ← storeTemplate type template enableBlend [mappedDstIdx, mappedSrcIdx]
        rest src.needsTemp mappedSrcIdx srcSurface) post exit next := by
    intro next image hpremultiplied htypeSame halpha hconfig hobject hcount hnext himage hcopied
    subst himage
    have hfail := hfail fun hneeds => by simpa [hneeds] using hcopied
    rw [hcopied, Bool.true_and] at hrest
    unfold CopybitContext.sourceSet at hrest hfail
    rw [← hnext, ← hpremultiplied, ← htypeSame] at hrest hfail
    rw [ends_bind]
    apply ends_setSource
    case hexit => exact hfail
    intro hcan
    have hremaps := next.setImage_remaps template.surfaceId (ctx.sourceImage src outcomes.allocSrc)
      ⟨next.isPremultipliedAlpha, next.dstSurfaceType != .rgb⟩ outcomes.src
    have hrest := hrest hcan
    dsimp only at hrest ⊢
    rw [ends_bind]
    apply ends_storeTemplate
    · obtain ⟨c2d, table, heq⟩ := hremaps
      rw [heq]
      exact fun henable => halpha ▸ hblend henable
    · intro settings hsettings
      apply hrest
      rw [← hsettings]
      obtain ⟨c2d, table, heq⟩ := hremaps
      rw [heq]
      unfold CopybitContext.blendSettings
      dsimp only
      rw [halpha, hconfig]
  rw [ends_bind]
  cases hneeds : src.needsTemp with
  | false =>
    rw [hneeds] at hset
    simp only [Bool.false_eq_true, if_false, ends_pure]
    exact hset ctx src rfl rfl rfl rfl rfl rfl (by simp [CopybitContext.withTempSrc, hneeds])
      (by simp [CopybitContext.sourceImage, hneeds]) rfl
  | true =>
    rw [hneeds] at hset
    simp only [if_true]
    apply ends_useTempSrc hneeds
    · intro allocated hcopied heq
      exact hset _ _ rfl rfl rfl rfl rfl rfl (by simp [CopybitContext.withTempSrc, hneeds, heq])
        (by simp [CopybitContext.sourceImage, hneeds]) hcopied
    · exact fun temp allocated contents hcontents hcopied =>
        hcopy hread hneeds hcopied temp allocated contents hcontents

def blitAndDraw (dst : CopybitImage) (dstRect srcRect : CopybitRect)
    (region : List (CopybitRect × FinishOutcome)) (outcomes : StretchOutcomes) (needTempSrc : Bool)
    (dstImage : CopybitImage) (srcSurface : C2dObject) (mapped : List MappedIdx) : CopybitM PUnit := do
  blitRegion srcSurface dstRect srcRect region
  drawAtOnce (dst.needsTemp || needTempSrc) outcomes.last
  (if dst.needsTemp then copyBack dstImage dst mapped else pure ⟨⟩)
  modify CopybitContext.resetSettings

theorem earlyFinished_keeps (ctx : CopybitContext) (type : SurfaceType) (outcome : FinishOutcome) :
    (ctx.earlyFinished type outcome).tempDstBuffer = ctx.tempDstBuffer ∧
      (ctx.earlyFinished type outcome).tempSrcBuffer = ctx.tempSrcBuffer ∧
      (ctx.earlyFinished type outcome).srcGlobalAlpha = ctx.srcGlobalAlpha ∧
      (ctx.earlyFinished type outcome).configMask = ctx.configMask := by
  obtain ⟨c2d, table, heq⟩ := ctx.earlyFinished_eq type outcome
  rw [heq]
  exact ⟨rfl, rfl, rfl, rfl⟩

theorem withTempDst_eq (ctx : CopybitContext) (dst : CopybitImage) (alloc : Option (BitVec 32)) :
    ∃ temp allocated, ctx.withTempDst dst alloc =
      { ctx with tempDstBuffer := temp, allocated := allocated } := by
  unfold CopybitContext.withTempDst
  split
  · obtain ⟨allocated, heq⟩ := getTempBuffer_eq ctx (getSize dst) ctx.tempDstBuffer alloc
    exact ⟨_, allocated, by rw [heq]⟩
  · exact ⟨ctx.tempDstBuffer, ctx.allocated, rfl⟩

theorem destinationSet_eq (ctx : CopybitContext) (type : SurfaceType) (dst : CopybitImage)
    (outcomes : StretchOutcomes) :
    ∃ temp allocated c2d table, (ctx.destinationSet type dst outcomes).2 =
      { ctx with tempDstBuffer := temp, allocated := allocated, c2d := c2d, mappedGpuAddr := table } := by
  obtain ⟨temp, allocated, htemp⟩ := withTempDst_eq ctx dst outcomes.allocDst
  obtain ⟨c2d, table, hset⟩ := (ctx.withTempDst dst outcomes.allocDst).setImage_remaps (.target type)
    (ctx.destinationImage dst outcomes.allocDst) ⟨type == .rgb, type != .rgb⟩ outcomes.dst
  refine ⟨temp, allocated, c2d, table, ?_⟩
  unfold CopybitContext.destinationSet
  rw [hset, htemp]

theorem withTempSrc_eq (ctx : CopybitContext) (src : CopybitImage) (alloc : Option (BitVec 32)) :
    ∃ temp allocated contents, ctx.withTempSrc src alloc =
      { ctx with tempSrcBuffer := temp, allocated := allocated, contents := contents } := by
  unfold CopybitContext.withTempSrc
  split
  · obtain ⟨allocated, heq⟩ := getTempBuffer_eq ctx (getSize src) ctx.tempSrcBuffer alloc
    exact ⟨_, allocated, _, by rw [heq]⟩
  · exact ⟨ctx.tempSrcBuffer, ctx.allocated, ctx.contents, rfl⟩

theorem sourceSet_eq (ctx : CopybitContext) (surface : SurfaceId) (src : CopybitImage)
    (outcomes : StretchOutcomes) :
    ∃ temp allocated contents c2d table, (ctx.sourceSet surface src outcomes).2 =
      { ctx with
        tempSrcBuffer := temp, allocated := allocated, contents := contents, c2d := c2d
        mappedGpuAddr := table } := by
  obtain ⟨temp, allocated, contents, htemp⟩ := withTempSrc_eq ctx src outcomes.allocSrc
  obtain ⟨c2d, table, hset⟩ := (ctx.withTempSrc src outcomes.allocSrc).setImage_remaps surface
    (ctx.sourceImage src outcomes.allocSrc) ⟨ctx.isPremultipliedAlpha, ctx.dstSurfaceType != .rgb⟩ outcomes.src
  refine ⟨temp, allocated, contents, c2d, table, ?_⟩
  unfold CopybitContext.sourceSet
  rw [hset, htemp]

theorem sourceSet_blits (ctx : CopybitContext) (type : SurfaceType) (surface : SurfaceId)
    (dst src : CopybitImage) (outcomes : StretchOutcomes) :
    ((ctx.destinationSet type dst outcomes).2.sourceSet surface src outcomes).2.blitCount = ctx.blitCount ∧
      ((ctx.destinationSet type dst outcomes).2.sourceSet surface src outcomes).2.blitList = ctx.blitList := by
  obtain ⟨temp, allocated, c2d, table, hdst⟩ := destinationSet_eq ctx type dst outcomes
  obtain ⟨temp', allocated', contents, c2d', table', hsrc⟩ :=
    sourceSet_eq (ctx.destinationSet type dst outcomes).2 surface src outcomes
  rw [hsrc, hdst]
  exact ⟨rfl, rfl⟩

theorem destinationImage_of_needsTemp (ctx : CopybitContext) (alloc : Option (BitVec 32))
    (hneeds : dst.needsTemp = true) :
    ctx.destinationImage dst alloc = (ctx.tempFor ctx.tempDstBuffer dst alloc).imageOf dst :=
  if_pos hneeds

theorem ends_stretch (hnull : ∀ next, exit .nullHandle next)
    (hblend : enableBlend = true → ctx.srcGlobalAlpha ≠ 0)
    (hchecks : ∀ status, status ≠ copybitSuccess → (∀ type, ¬ ImagesChecked dst src type) →
      exit (.returned status) ctx)
    (hallocDst : ∀ type, ImagesChecked dst src type → dst.needsTemp = true →
      ctx.tempDstBuffer.ready (getSize dst) outcomes.allocDst = false →
      exit (.returned copybitFailure)
        ((ctx.earlyFinished type outcomes.early).withTempDst dst outcomes.allocDst))
    (hfailDst : ∀ type, ImagesChecked dst src type → dst.handleRead = true →
      (dst.needsTemp = true → ctx.tempDstBuffer.ready (getSize dst) outcomes.allocDst = true) →
      (ctx.destinationImage dst outcomes.allocDst).canBeSet outcomes.dst = false →
      let set := (ctx.earlyFinished type outcomes.early).destinationSet type dst outcomes
      exit (.returned copybitFailure) (set.2.unmapGpuaddr set.1.2))
    (hformat : ∀ type, ImagesChecked dst src type → ctx.setsDestination dst outcomes = true →
      surfaceTypeOf src.format = none →
      let set := (ctx.earlyFinished type outcomes.early).destinationSet type dst outcomes
      exit (.returned invalidArgument) (set.2.unmapGpuaddr set.1.2))
    (hfull : ∀ type, ImagesChecked dst src type → ctx.setsDestination dst outcomes = true →
      ∀ srcType, surfaceTypeOf src.format = some srcType →
      srcType.max ≤ (ctx.earlyFinished type outcomes.early).blitCount srcType →
      exit .outOfBounds ((ctx.earlyFinished type outcomes.early).destinationSet type dst outcomes).2)
    (hcopy : ∀ type, ImagesChecked dst src type → ctx.setsDestination dst outcomes = true →
      ∀ srcType, surfaceTypeOf src.format = some srcType →
      (ctx.earlyFinished type outcomes.early).blitCount srcType < srcType.max →
      src.handleRead = true → src.needsTemp = true → ctx.copiesSource src outcomes = false →
      let set := (ctx.earlyFinished type outcomes.early).destinationSet type dst outcomes
      ∀ temp allocated contents, contents = set.2.contents ∨
        contents = set.2.copiedTo src (set.2.tempFor set.2.tempSrcBuffer src outcomes.allocSrc).buffer →
      exit (.returned copybitFailure)
        (CopybitContext.unmapGpuaddr
          { set.2 with tempSrcBuffer := temp, allocated := allocated, contents := contents } set.1.2))
    (hfailSrc : ∀ type, ImagesChecked dst src type → ctx.setsDestination dst outcomes = true →
      ∀ srcType, surfaceTypeOf src.format = some srcType →
      (ctx.earlyFinished type outcomes.early).blitCount srcType < srcType.max →
      src.handleRead = true → (src.needsTemp = true → ctx.copiesSource src outcomes = true) →
      (ctx.sourceImage src outcomes.allocSrc).canBeSet outcomes.src = false →
      let dstSet := (ctx.earlyFinished type outcomes.early).destinationSet type dst outcomes
      let template := dstSet.2.blitObject srcType (dstSet.2.blitCount srcType)
      let set := dstSet.2.sourceSet template.surfaceId src outcomes
      exit (.returned copybitFailure) ((set.2.unmapGpuaddr dstSet.1.2).unmapGpuaddr set.1.2))
    (hbody : ∀ type, ImagesChecked dst src type → ctx.setsDestination dst outcomes = true →
      ∀ srcType, surfaceTypeOf src.format = some srcType →
      (ctx.earlyFinished type outcomes.early).blitCount srcType < srcType.max →
      ctx.setsSource src outcomes = true →
      let dstSet := (ctx.earlyFinished type outcomes.early).destinationSet type dst outcomes
      let template := dstSet.2.blitObject srcType (dstSet.2.blitCount srcType)
      let set := dstSet.2.sourceSet template.surfaceId src outcomes
      ∀ settings, ctx.blendSettings template.settings enableBlend = some settings →
        Ends (blitAndDraw dst dstRect srcRect region outcomes src.needsTemp
            ((ctx.earlyFinished type outcomes.early).destinationImage dst outcomes.allocDst)
            { template with settings := settings } [dstSet.1.2, set.1.2])
          post exit (set.2.withTemplate srcType { template with settings := settings })) :
    Ends (stretchCopybitInternal dst src dstRect srcRect region enableBlend outcomes) post exit ctx := by
  unfold stretchCopybitInternal
  rw [ends_bind]
  apply ends_checkImages
  case hexit => exact hchecks
  intro type hchecked
  rw [ends_bind]
  apply ends_finishEarly
  obtain ⟨htempDst, htempSrc, halpha, hconfig⟩ := earlyFinished_keeps ctx type outcomes.early
  have hallocDst := hallocDst type hchecked
  have hfailDst := hfailDst type hchecked
  have hformat := hformat type hchecked
  have hfull := hfull type hchecked
  have hcopy := hcopy type hchecked
  have hfailSrc := hfailSrc type hchecked
  have hbody := hbody type hchecked
  generalize ctx.earlyFinished type outcomes.early = early at *
  rw [← setsDestination_congr htempDst] at hformat hfull hcopy hfailSrc hbody
  rw [← destinationImage_canBeSet_congr htempDst, ← htempDst] at hfailDst
  apply ends_destination (hnull early)
  · exact fun hneeds hready => hallocDst hneeds (htempDst ▸ hready)
  · exact hfailDst
  intro hsets
  have hformat := hformat hsets
  have hfull := hfull hsets
  have hcopy := hcopy hsets
  have hfailSrc := hfailSrc hsets
  have hbody := hbody hsets
  obtain ⟨temp, allocated, c2d, table, hset⟩ := destinationSet_eq early type dst outcomes
  have hcount : (early.destinationSet type dst outcomes).2.blitCount = early.blitCount := by rw [hset]
  have hsrc : (early.destinationSet type dst outcomes).2.tempSrcBuffer = ctx.tempSrcBuffer := by
    rw [hset]
    exact htempSrc
  have hsettings : ∀ settings,
      (early.destinationSet type dst outcomes).2.blendSettings settings enableBlend =
        ctx.blendSettings settings enableBlend := by
    intro settings
    rw [hset]
    unfold CopybitContext.blendSettings
    dsimp only
    rw [halpha, hconfig]
  have halpha' : (early.destinationSet type dst outcomes).2.srcGlobalAlpha = ctx.srcGlobalAlpha := by
    rw [hset]
    exact halpha
  dsimp only at hformat hfull hcopy hfailSrc hbody ⊢
  generalize early.destinationSet type dst outcomes = set at *
  rw [← copiesSource_congr hsrc] at hcopy
  rw [← setsSource_congr hsrc] at hbody
  rw [← sourceImage_canBeSet_congr hsrc, ← copiesSource_congr hsrc] at hfailSrc
  rw [← hcount] at hfull hcopy hfailSrc hbody
  apply ends_source hnull
  · exact fun henable => halpha' ▸ hblend henable
  · exact hformat
  · exact hfull
  · exact hcopy
  · exact hfailSrc
  · intro srcType htype hroom hsetsSource template sourceSet settings hblended
    exact hbody srcType htype hroom hsetsSource settings (hsettings _ ▸ hblended)

end

/-! ### Leaving a stretch -/

def LeavesWith (invariant : CopybitContext → Prop) : CopybitExit → CopybitContext → Prop
  | .returned _, next => invariant next
  | _, _ => True

theorem statusOf_of_ends {invariant : CopybitContext → Prop} {code : CopybitM PUnit} {status : Int}
    {next : CopybitContext} (hends : Ends code (fun _ => invariant) (LeavesWith invariant) ctx)
    (hstatus : CopybitContext.statusOf (code ctx) = .ok (status, next)) : invariant next := by
  unfold Ends at hends
  cases hcode : code ctx with
  | ok value last =>
    rw [hcode] at hends hstatus
    obtain ⟨-, rfl⟩ := Prod.mk.inj (Except.ok.inj hstatus)
    exact hends
  | error reason last =>
    rw [hcode] at hends hstatus
    cases reason with
    | returned =>
      obtain ⟨-, rfl⟩ := Prod.mk.inj (Except.ok.inj hstatus)
      exact hends
    | nullHandle => cases hstatus
    | outOfBounds => cases hstatus

theorem copybitStep_cases {action : CopybitAction} {next : CopybitContext}
    (hstep : copybitStep ctx action = some next) :
    (action = .waitLoop ∧ ctx.waitTimestamp = true ∧ next = ctx.waitLoop) ∨
      ∃ call status, action = .call call ∧ ctx.waitTimestamp = false ∧ ctx.call call = .ok (status, next) := by
  cases action with
  | waitLoop =>
    simp only [copybitStep] at hstep
    split at hstep
    · rename_i hwait
      exact .inl ⟨rfl, hwait, (Option.some.inj hstep).symm⟩
    · cases hstep
  | call call =>
    simp only [copybitStep] at hstep
    split at hstep
    · cases hstep
    · rename_i hwait
      split at hstep
      · rename_i status _ hcall
        obtain rfl := Option.some.inj hstep
        exact .inr ⟨call, status, rfl, Bool.eq_false_of_not_eq_true hwait, hcall⟩
      · cases hstep

end Nozomi.Copybit
