import Nozomi.Display.MDPComp.Session

/-!
# The pipes of a frame

`map` gives each layer outside of the framebuffer an index of its own, and the allocation gives each index
and the base a pipe of its own, of those that the display holds.
-/

namespace Nozomi

/-! ### The pipes of a frame -/

namespace FrameInfo

variable {numPipes : Nat} {frame : FrameInfo numPipes}

def pipeAt (frame : FrameInfo numPipes) (mdpIndex : Nat) : Option (Fin numPipes) :=
  (frame.mdpToLayer mdpIndex).bind (·.index)

def layerPipe (frame : FrameInfo numPipes) (i : Nat) : Option (Fin numPipes) :=
  (frame.layerToMDP i).bind frame.pipeAt

/-- The pipes of a frame are pending, and each is used once. -/
structure Assigned (frame : FrameInfo numPipes) (pending : Finset (Fin numPipes)) : Prop where
  mem : ∀ mdpIndex pipe, frame.pipeAt mdpIndex = some pipe → pipe ∈ pending
  inj : ∀ first second pipe, frame.pipeAt first = some pipe → frame.pipeAt second = some pipe →
    first = second
  base : ∀ pipe, frame.mdpBasePipe = some pipe →
    pipe ∈ pending ∧ ∀ mdpIndex, frame.pipeAt mdpIndex ≠ some pipe

def SameLayers (frame other : FrameInfo numPipes) : Prop :=
  other = { frame with mdpToLayer := other.mdpToLayer }

theorem SameLayers.refl (frame : FrameInfo numPipes) : frame.SameLayers frame := rfl

theorem SameLayers.trans {first second third : FrameInfo numPipes} (hfirst : first.SameLayers second)
    (hsecond : second.SameLayers third) : first.SameLayers third := by
  rw [SameLayers] at *
  rw [hsecond, hfirst]

theorem sameLayers_setPipeInfo (i : Nat) (info : MdpPipeInfo numPipes) :
    frame.SameLayers (frame.setPipeInfo i info) := by
  rw [setPipeInfo]
  split <;> rfl

theorem pipeAt_setPipeInfo (i mdpIndex : Nat) (info : MdpPipeInfo numPipes) :
    (frame.setPipeInfo i info).pipeAt mdpIndex =
      if frame.layerToMDP i = some mdpIndex then info.index else frame.pipeAt mdpIndex := by
  rw [setPipeInfo]
  cases hindex : frame.layerToMDP i with
  | none => simp
  | some found =>
    by_cases hself : mdpIndex = found
    · simp [pipeAt, hself]
    · simp [pipeAt, hself, Ne.symm hself]

/-- The layers that are not in the framebuffer have pending pipes, each a pipe of its own. -/
structure Distinct (frame : FrameInfo numPipes) (layers : List Nat)
    (pending : Finset (Fin numPipes)) : Prop where
  nodup : layers.Nodup
  mem : ∀ i ∈ layers, frame.isFBComposed i = false → ∀ pipe, frame.layerPipe i = some pipe →
    pipe ∈ pending
  inj : ∀ i ∈ layers, ∀ j ∈ layers, frame.isFBComposed i = false → frame.isFBComposed j = false →
    ∀ pipe, frame.layerPipe i = some pipe → frame.layerPipe j = some pipe → i = j

variable {pending : Finset (Fin numPipes)} {i : Nat} {dest : Fin numPipes}

theorem Distinct.tail {layers : List Nat} (hdistinct : frame.Distinct (i :: layers) pending) :
    frame.Distinct layers pending where
  nodup := (List.nodup_cons.mp hdistinct.nodup).2
  mem := fun j hj => hdistinct.mem j (List.mem_cons_of_mem _ hj)
  inj := fun j hj k hk => hdistinct.inj j (List.mem_cons_of_mem _ hj) k (List.mem_cons_of_mem _ hk)

theorem layerPipe_of_pipeInfo {zOrder : Int} (hinfo : frame.pipeInfo i = some ⟨zOrder, some dest⟩) :
    frame.layerPipe i = some dest := by
  rw [pipeInfo] at hinfo
  obtain ⟨mdpIndex, hindex, hentry⟩ := Option.bind_eq_some_iff.mp hinfo
  simp [layerPipe, pipeAt, hindex, hentry]

theorem layerPipe_setPipeInfo (hdest : frame.layerPipe i = some dest) (zOrder : Int) (j : Nat) :
    (frame.setPipeInfo i ⟨zOrder, some dest⟩).layerPipe j = frame.layerPipe j := by
  have hindex : (frame.setPipeInfo i ⟨zOrder, some dest⟩).layerToMDP = frame.layerToMDP := by
    rw [sameLayers_setPipeInfo i ⟨zOrder, some dest⟩]
  rw [layerPipe, hindex, layerPipe]
  cases hj : frame.layerToMDP j with
  | none => rfl
  | some mdpIndex =>
    rw [Option.bind_some, Option.bind_some, pipeAt_setPipeInfo]
    split
    next hi =>
      rw [layerPipe, hi] at hdest
      exact hdest.symm
    next => rfl

theorem Distinct.layerPipe_ne {layers : List Nat} (hdistinct : frame.Distinct (i :: layers) pending)
    (hi : frame.isFBComposed i = false) (hdest : frame.layerPipe i = some dest) :
    ∀ j ∈ layers, frame.isFBComposed j = false → frame.layerPipe j ≠ some dest := by
  intro j hj hjMDP heq
  have hsame := hdistinct.inj i List.mem_cons_self j (List.mem_cons_of_mem _ hj) hi hjMDP dest hdest heq
  exact (List.nodup_cons.mp hdistinct.nodup).1 (hsame ▸ hj)

theorem Distinct.setPipeInfo {layers : List Nat} (hdistinct : frame.Distinct (i :: layers) pending)
    (hi : frame.isFBComposed i = false) (hdest : frame.layerPipe i = some dest) (zOrder : Int) :
    (frame.setPipeInfo i ⟨zOrder, some dest⟩).Distinct layers (pending.erase dest) := by
  have hflags : (frame.setPipeInfo i ⟨zOrder, some dest⟩).isFBComposed = frame.isFBComposed := by
    rw [sameLayers_setPipeInfo i ⟨zOrder, some dest⟩]
  have htail := hdistinct.tail
  constructor
  · exact htail.nodup
  · intro j hj hjMDP pipe hpipe
    rw [hflags] at hjMDP
    rw [layerPipe_setPipeInfo hdest] at hpipe
    refine Finset.mem_erase.mpr ⟨?_, htail.mem j hj hjMDP pipe hpipe⟩
    rintro rfl
    exact hdistinct.layerPipe_ne hi hdest j hj hjMDP hpipe
  · intro j hj k hk hjMDP hkMDP pipe hjPipe hkPipe
    rw [hflags] at hjMDP hkMDP
    rw [layerPipe_setPipeInfo hdest] at hjPipe hkPipe
    exact htail.inj j hj k hk hjMDP hkMDP pipe hjPipe hkPipe

theorem Assigned.setPipeInfo (hassigned : frame.Assigned pending) {pipe : Fin numPipes} (hnew : pipe ∉ pending)
    (i : Nat) (zOrder : Int) : (frame.setPipeInfo i ⟨zOrder, some pipe⟩).Assigned (insert pipe pending) := by
  have hbasePipe : (frame.setPipeInfo i ⟨zOrder, some pipe⟩).mdpBasePipe = frame.mdpBasePipe := by
    rw [sameLayers_setPipeInfo i ⟨zOrder, some pipe⟩]
  have hold : ∀ mdpIndex other, frame.pipeAt mdpIndex = some other → other ≠ pipe := by
    rintro mdpIndex _ hother rfl
    exact hnew (hassigned.mem mdpIndex _ hother)
  constructor
  · intro mdpIndex other hother
    rw [pipeAt_setPipeInfo] at hother
    split at hother
    · rw [← Option.some.inj hother]
      exact Finset.mem_insert_self _ _
    · exact Finset.mem_insert_of_mem (hassigned.mem mdpIndex other hother)
  · intro first second other hfirst hsecond
    rw [pipeAt_setPipeInfo] at hfirst hsecond
    split at hfirst
    next hself =>
      split at hsecond
      next hself' => exact Option.some.inj (hself.symm.trans hself')
      next => exact absurd (Option.some.inj hfirst).symm (hold second other hsecond)
    next =>
      split at hsecond
      next => exact absurd (Option.some.inj hsecond).symm (hold first other hfirst)
      next => exact hassigned.inj first second other hfirst hsecond
  · intro other hother
    rw [hbasePipe] at hother
    obtain ⟨hmem, hapart⟩ := hassigned.base other hother
    refine ⟨Finset.mem_insert_of_mem hmem, fun mdpIndex => ?_⟩
    rw [pipeAt_setPipeInfo]
    split
    · rintro heq
      exact hnew (Option.some.inj heq ▸ hmem)
    · exact hapart mdpIndex

theorem Assigned.setBase (hassigned : frame.Assigned pending) {pipe : Fin numPipes} (hnew : pipe ∉ pending) :
    ({ frame with mdpBasePipe := some pipe } : FrameInfo numPipes).Assigned (insert pipe pending) where
  mem := fun mdpIndex other hother => Finset.mem_insert_of_mem (hassigned.mem mdpIndex other hother)
  inj := hassigned.inj
  base := by
    intro other hother
    obtain rfl := Option.some.inj hother
    exact ⟨Finset.mem_insert_self _ _, fun mdpIndex heq => hnew (hassigned.mem mdpIndex _ heq)⟩

theorem Assigned.setNone (hassigned : frame.Assigned pending) (i : Nat) (zOrder : Int) :
    (frame.setPipeInfo i ⟨zOrder, none⟩).Assigned pending := by
  have hbasePipe : (frame.setPipeInfo i ⟨zOrder, none⟩).mdpBasePipe = frame.mdpBasePipe := by
    rw [sameLayers_setPipeInfo i ⟨zOrder, none⟩]
  have hold : ∀ mdpIndex pipe, (frame.setPipeInfo i ⟨zOrder, none⟩).pipeAt mdpIndex = some pipe →
      frame.pipeAt mdpIndex = some pipe := by
    intro mdpIndex pipe hpipe
    rw [pipeAt_setPipeInfo] at hpipe
    split at hpipe
    · cases hpipe
    · exact hpipe
  constructor
  · exact fun mdpIndex pipe hpipe => hassigned.mem mdpIndex pipe (hold mdpIndex pipe hpipe)
  · exact fun first second pipe hfirst hsecond =>
      hassigned.inj first second pipe (hold first pipe hfirst) (hold second pipe hsecond)
  · intro pipe hpipe
    rw [hbasePipe] at hpipe
    exact ⟨(hassigned.base pipe hpipe).1, fun mdpIndex heq =>
      (hassigned.base pipe hpipe).2 mdpIndex (hold mdpIndex pipe heq)⟩

theorem map_injective {j mdpIndex : Nat} (hi : i < frame.layerCount) (hj : j < frame.layerCount)
    (hiMDP : frame.isFBComposed i = false) (hjMDP : frame.isFBComposed j = false)
    (hiIndex : frame.map.layerToMDP i = some mdpIndex) (hjIndex : frame.map.layerToMDP j = some mdpIndex) :
    i = j := by
  have hfold : ∀ bound, ∃ state, (List.range bound).foldl frame.mapLayer (frame.layerToMDP, 0) = state ∧
      (∀ i < bound, frame.isFBComposed i = false → ∃ index < state.2, state.1 i = some index) ∧
      ∀ i < bound, ∀ j < bound, frame.isFBComposed i = false → frame.isFBComposed j = false →
        state.1 i = state.1 j → i = j := by
    intro bound
    induction bound with
    | zero => exact ⟨_, rfl, by simp, by simp⟩
    | succ bound ih =>
      obtain ⟨state, hstate, hbelow, hinj⟩ := ih
      refine ⟨_, rfl, ?_⟩
      rw [List.range_succ, List.foldl_concat, hstate, mapLayer]
      split
      next hfb =>
        have hlast : ∀ i, i < bound + 1 → frame.isFBComposed i = false → i < bound := by
          intro i hi hmdp
          rcases Nat.lt_succ_iff_lt_or_eq.mp hi with hi | rfl
          · exact hi
          · simp [hfb] at hmdp
        exact ⟨fun i hi hmdp => hbelow i (hlast i hi hmdp) hmdp, fun i hi j hj hiMDP hjMDP =>
          hinj i (hlast i hi hiMDP) j (hlast j hj hjMDP) hiMDP hjMDP⟩
      next hmdp =>
        have hvalue : ∀ i < bound, Function.update state.1 bound (some state.2) i = state.1 i :=
          fun i hi => Function.update_of_ne hi.ne _ _
        have hself : Function.update state.1 bound (some state.2) bound = some state.2 :=
          Function.update_self _ _ _
        have hapart : ∀ i < bound, frame.isFBComposed i = false → state.1 i ≠ some state.2 := by
          intro i hi hiMDP heq
          obtain ⟨index, hindex, hsome⟩ := hbelow i hi hiMDP
          rw [hsome, Option.some.injEq] at heq
          omega
        constructor
        · intro i hi hiMDP
          rcases Nat.lt_succ_iff_lt_or_eq.mp hi with hi | rfl
          · obtain ⟨index, hindex, hsome⟩ := hbelow i hi hiMDP
            exact ⟨index, by simp only; omega, (hvalue i hi).trans hsome⟩
          · exact ⟨state.2, Nat.lt_succ_self _, hself⟩
        · intro i hi j hj hiMDP hjMDP heq
          rcases Nat.lt_succ_iff_lt_or_eq.mp hi with hi | rfl
          · rcases Nat.lt_succ_iff_lt_or_eq.mp hj with hj | rfl
            · simp only [hvalue i hi, hvalue j hj] at heq
              exact hinj i hi j hj hiMDP hjMDP heq
            · simp only [hvalue i hi, hself] at heq
              exact absurd heq (hapart i hi hiMDP)
          · rcases Nat.lt_succ_iff_lt_or_eq.mp hj with hj | rfl
            · simp only [hvalue j hj, hself] at heq
              exact absurd heq.symm (hapart j hj hjMDP)
            · rfl
  obtain ⟨state, hstate, -, hinj⟩ := hfold frame.layerCount
  rw [map, hstate] at hiIndex hjIndex
  exact hinj i hi j hj hiMDP hjMDP (hiIndex.trans hjIndex.symm)

/-- The layers that are not in the framebuffer have indices of their own. -/
def Mapped (frame : FrameInfo numPipes) : Prop :=
  ∀ i < frame.layerCount, ∀ j < frame.layerCount, frame.isFBComposed i = false →
    frame.isFBComposed j = false → ∀ mdpIndex, frame.layerToMDP i = some mdpIndex →
      frame.layerToMDP j = some mdpIndex → i = j

theorem mapped_map (frame : FrameInfo numPipes) : frame.map.Mapped :=
  fun _ hi _ hj hiMDP hjMDP _ hiIndex hjIndex =>
    @map_injective _ frame _ _ _ hi hj hiMDP hjMDP hiIndex hjIndex

theorem Assigned.distinct (hassigned : frame.Assigned pending) (hmapped : frame.Mapped) :
    frame.Distinct (List.range frame.layerCount)
      (frame.mdpBasePipe.elim pending fun basePipe => pending.erase basePipe) := by
  constructor
  · exact List.nodup_range
  · intro i _ _ pipe hpipe
    obtain ⟨mdpIndex, -, hentry⟩ := Option.bind_eq_some_iff.mp hpipe
    have hmem := hassigned.mem mdpIndex pipe hentry
    cases hbase : frame.mdpBasePipe with
    | none => exact hmem
    | some basePipe =>
      refine Finset.mem_erase.mpr ⟨?_, hmem⟩
      rintro rfl
      exact (hassigned.base pipe hbase).2 mdpIndex hentry
  · intro i hi j hj hiMDP hjMDP pipe hiPipe hjPipe
    obtain ⟨first, hfirst, hfirstEntry⟩ := Option.bind_eq_some_iff.mp hiPipe
    obtain ⟨second, hsecond, hsecondEntry⟩ := Option.bind_eq_some_iff.mp hjPipe
    have hsame := hassigned.inj first second pipe hfirstEntry hsecondEntry
    exact hmapped i (List.mem_range.mp hi) j (List.mem_range.mp hj) hiMDP hjMDP first hfirst
      (hsame ▸ hsecond)

def Blank (frame : FrameInfo numPipes) : Prop :=
  frame.mdpToLayer = (fun _ => none) ∧ frame.mdpBasePipe = none

theorem Blank.assigned (hblank : frame.Blank) : frame.Assigned ∅ where
  mem := by simp [pipeAt, hblank.1]
  inj := by simp [pipeAt, hblank.1]
  base := by simp [hblank.2]

def slots (frame : FrameInfo numPipes) :
    (Nat → Option (MdpPipeInfo numPipes)) × Option (Fin numPipes) × Bool :=
  (frame.mdpToLayer, frame.mdpBasePipe, frame.needsRedraw)

theorem blank_of_slots (numLayers : Nat) (hslots : frame.slots = (reset numLayers).slots) :
    frame.Blank ∧ frame.needsRedraw = true := by
  rw [slots, slots, Prod.mk.injEq, Prod.mk.injEq] at hslots
  exact ⟨⟨hslots.1, hslots.2.1⟩, hslots.2.2⟩

@[simp] theorem slots_toFB (i : Nat) : (frame.toFB i).slots = frame.slots := by
  rw [toFB]
  split <;> rfl

@[simp] theorem slots_toMDP (i : Nat) : (frame.toMDP i).slots = frame.slots := by
  rw [toMDP]
  split <;> rfl

@[simp] theorem slots_updateLayerCache (cached : LayerCache) (list : DisplayContents) :
    (frame.updateLayerCache cached list).slots = frame.slots := by
  show ((List.range list.numAppLayers).foldl (cacheLayer cached list)
    { frame with fbCount := 0 }).slots = frame.slots
  refine List.foldlRecOn (motive := fun (last : FrameInfo numPipes) => last.slots = frame.slots) _ _ rfl ?_
  intro last hlast i _
  rw [cacheLayer]
  split <;> exact hlast

@[simp] theorem slots_batchLayers (batch : Int × Int) : (frame.batchLayers batch).slots = frame.slots := by
  rw [batchLayers]
  split
  · rfl
  split <;> rfl

end FrameInfo

namespace Context

variable {numPipes : Nat} {ctx : Context numPipes} {dpy : Display} {list : DisplayContents}
  {frame accepted : FrameInfo numPipes}

@[simp] theorem slots_updateYUV : (ctx.updateYUV dpy list frame).slots = frame.slots := by
  rw [updateYUV]
  split
  · rfl
  · show (list.yuvIndices.foldl _ frame).slots = frame.slots
    refine List.foldlRecOn (motive := fun (last : FrameInfo numPipes) => last.slots = frame.slots) _ _ rfl ?_
    intro last hlast i _
    rw [markYUV]
    split <;> simpa using hlast

@[simp] theorem slots_updateNotSupported :
    (ctx.updateNotSupported dpy list frame).1.slots = frame.slots := by
  show ((List.range list.numAppLayers).foldl (ctx.markNotSupported dpy list) (frame, -1, -2)).1.slots =
    frame.slots
  refine List.foldlRecOn (motive := fun (state : FrameInfo numPipes × Int × Int) =>
    state.1.slots = frame.slots) _ _ rfl ?_
  intro state hstate i _
  rw [markNotSupported]
  split
  · exact hstate
  dsimp only
  split
  · refine List.foldlRecOn (motive := fun (last : FrameInfo numPipes) => last.slots = frame.slots) _ _
      (by simpa using hstate) ?_
    intro last hlast j _
    simpa using hlast
  · simpa using hstate

theorem slots_of_batchDoable (haccepted : ctx.batchDoable dpy list frame = (accepted, true)) :
    accepted.slots = frame.slots := by
  obtain ⟨-, rfl⟩ := batchDoable_eq_true haccepted
  split <;> rfl

/-! ### Allocation -/

variable {numPipes : Nat} {before : Context numPipes} {dpy : Display} {list : DisplayContents}
  {committed : List (Fin numPipes)}

theorem allocPipes_session (typeOf : Nat → MdpPipeType) {layers : List Nat} :
    ∀ (ctx : Context numPipes) (frame : FrameInfo numPipes) (pending : Finset (Fin numPipes)),
      ctx.InSession before dpy committed pending → frame.Assigned pending →
      ∃ ctx' frame' found pending', allocPipes dpy typeOf layers ctx frame = (ctx', frame', found) ∧
        ctx'.InSession before dpy committed pending' ∧ frame'.Assigned pending' ∧
        pending ⊆ pending' ∧ frame.SameLayers frame' ∧
        ctx.Keeps ctx' (fun pipe => pipe ∈ committed ∨ pipe ∈ pending) := by
  induction layers with
  | nil =>
    intro ctx frame pending hsession hassigned
    exact ⟨ctx, frame, true, pending, rfl, hsession, hassigned, Finset.Subset.refl _, .refl frame,
      fun _ _ => rfl⟩
  | cons i layers ih =>
    intro ctx frame pending hsession hassigned
    rw [allocPipes]
    obtain ⟨next, index, heq, hkeeps, ⟨rfl, hnext⟩ | ⟨pipe, rfl, hnew, hnext⟩⟩ :=
      getMdpPipe_session hsession (typeOf i)
    · rw [heq]
      exact ⟨_, _, false, pending, rfl, hnext, hassigned.setNone i 0, Finset.Subset.refl _,
        FrameInfo.sameLayers_setPipeInfo i _, hkeeps⟩
    · rw [heq]
      obtain ⟨ctx', frame', found, pending', halloc, hsession', hassigned', hsubset, hsame, hkeeps'⟩ :=
        ih _ _ _ hnext (hassigned.setPipeInfo hnew i 0)
      exact ⟨ctx', frame', found, pending', halloc, hsession', hassigned',
        (Finset.subset_insert pipe pending).trans hsubset,
        (FrameInfo.sameLayers_setPipeInfo i _).trans hsame,
        hkeeps.trans hkeeps' fun other hother => hother.imp_right (Finset.mem_insert_of_mem ·)⟩

theorem allocLayerPipes_session (list : DisplayContents) {ctx : Context numPipes}
    {frame : FrameInfo numPipes} {pending : Finset (Fin numPipes)}
    (hsession : ctx.InSession before dpy committed pending) (hassigned : frame.Assigned pending)
    (hbase : frame.mdpBasePipe = none) :
    ∃ ctx' frame' found pending', allocLayerPipes dpy list ctx frame = (ctx', frame', found) ∧
      ctx'.InSession before dpy committed pending' ∧ frame'.Assigned pending' ∧
      frame' = { frame with mdpToLayer := frame'.mdpToLayer, mdpBasePipe := frame'.mdpBasePipe } ∧
      (found = true → (frame'.mdpBasePipe.isSome ↔ ctx.baseNeeded dpy list frame = true)) ∧
      ctx.Keeps ctx' (fun pipe => pipe ∈ committed ∨ pipe ∈ pending) := by
  have hlayers : ∀ (ctx' : Context numPipes) (frame' : FrameInfo numPipes) (pending'),
      ctx'.InSession before dpy committed pending' → frame'.Assigned pending' →
      ∃ last lastFrame found lastPending,
        (let videos := allocPipes dpy (fun _ => .vg) (yuvLayers list frame') ctx' frame'
          if !videos.2.2 then (videos.1, videos.2.1, false)
          else allocPipes dpy (fun i => videos.1.uiPipeType (list.hwLayer i)) (uiLayers list videos.2.1)
            videos.1 videos.2.1) =
          (last, lastFrame, found) ∧
        last.InSession before dpy committed lastPending ∧ lastFrame.Assigned lastPending ∧
        frame'.SameLayers lastFrame ∧
        ctx'.Keeps last (fun pipe => pipe ∈ committed ∨ pipe ∈ pending') := by
    intro ctx' frame' pending' hsession' hassigned'
    obtain ⟨second, secondFrame, found, secondPending, heq, hsecond, hsecondAssigned, hsubset, hsame,
      hkeeps⟩ := allocPipes_session (fun _ => MdpPipeType.vg) ctx' frame' pending' hsession' hassigned'
    rw [heq]
    cases found with
    | false => exact ⟨second, secondFrame, false, secondPending, rfl, hsecond, hsecondAssigned, hsame,
        hkeeps⟩
    | true =>
      obtain ⟨last, lastFrame, found, lastPending, heq', hlast, hlastAssigned, -, hsame', hkeeps'⟩ :=
        allocPipes_session (fun i => second.uiPipeType (list.hwLayer i)) second secondFrame
          secondPending hsecond hsecondAssigned
      exact ⟨last, lastFrame, found, lastPending, heq', hlast, hlastAssigned, hsame.trans hsame',
        hkeeps.trans hkeeps' fun pipe hpipe => hpipe.imp_right (hsubset ·)⟩
  rw [allocLayerPipes]
  by_cases hneeded : ctx.baseNeeded dpy list frame = true
  · obtain ⟨next, index, heq, hkeeps, ⟨rfl, hnext⟩ | ⟨pipe, rfl, hnew, hnext⟩⟩ :=
      getMdpPipe_session hsession .any
    · rw [if_pos hneeded, heq]
      refine ⟨next, _, false, pending, rfl, hnext, ?_, rfl, by simp, hkeeps⟩
      exact ⟨hassigned.mem, hassigned.inj, by simp⟩
    · rw [if_pos hneeded, heq]
      obtain ⟨last, lastFrame, found, lastPending, heq', hlast, hlastAssigned, hsame, hkeeps'⟩ :=
        hlayers next _ _ hnext (hassigned.setBase hnew)
      refine ⟨last, lastFrame, found, lastPending, heq', hlast, hlastAssigned, ?_, ?_, ?_⟩
      · rw [hsame]
      · intro _
        rw [hsame]
        simp [hneeded]
      · exact hkeeps.trans hkeeps' fun other hother => hother.imp_right (Finset.mem_insert_of_mem ·)
  · rw [if_neg hneeded]
    obtain ⟨last, lastFrame, found, lastPending, heq', hlast, hlastAssigned, hsame, hkeeps⟩ :=
      hlayers ctx frame pending hsession hassigned
    refine ⟨last, lastFrame, found, lastPending, heq', hlast, hlastAssigned, ?_, ?_, hkeeps⟩
    · rw [hsame]
    · intro _
      rw [hsame]
      simp [hneeded, hbase]

end Context

end Nozomi
