import Mathlib.Data.List.Nodup
import Nozomi.Audio.Effects.Bundle

/-!
# Effects on the lists of their outputs

An effect is on the list of the output whose handle it names, once, as long as that output is started, and on
no other list. Its control is that of the output it is attached to.
-/

namespace Nozomi

/-! ### The control of an effect -/

namespace BoostEffect

variable (effect : BoostEffect) (context : BoostContext) (dsp : Dsp)

@[simp] theorem setStrength_ctl (strength : Int) :
    (effect.setStrength context strength dsp).1.ctl = context.ctl := rfl

@[simp] theorem switchTo_ctl (flag active : Bool) :
    (effect.switchTo flag active context dsp).1.ctl = context.ctl := by
  unfold switchTo
  split <;> rfl

@[simp] theorem setDevice_ctl (active : Bool) (device : AudioDevices) :
    (effect.setDevice active context device dsp).1.ctl = context.ctl := by
  unfold setDevice
  dsimp only
  split <;> split <;> simp

@[simp] theorem enable_ctl : (effect.enable context dsp).1.ctl = context.ctl := by
  unfold enable
  split <;> rfl

@[simp] theorem disable_ctl : (effect.disable context dsp).1.ctl = context.ctl := by
  unfold disable
  split <;> rfl

@[simp] theorem start_ctl (ctl : MixerCtl) : (effect.start context ctl dsp).1.ctl = some ctl := rfl

end BoostEffect

namespace EffectImpl

variable (impl : EffectImpl) (dsp : Dsp)

@[simp] theorem allocated_ctl (desc : EffectDescriptor) : (allocated desc).ctl = none := by
  cases desc <;> rfl

@[simp] theorem init_ctl : impl.init.ctl = impl.ctl := by
  cases impl <;> rfl

@[simp] theorem enable_ctl : (impl.enable dsp).1.ctl = impl.ctl := by
  cases impl <;> simp [enable, ctl]

@[simp] theorem disable_ctl : (impl.disable dsp).1.ctl = impl.ctl := by
  cases impl <;> simp [disable, ctl]

@[simp] theorem setDevice_ctl (active : Bool) (device : AudioDevices) :
    (impl.setDevice active device dsp).1.ctl = impl.ctl := by
  cases impl <;> simp [setDevice, ctl]

@[simp] theorem setParameter_ctl (param : BoostParam) (value : BitVec 16) :
    (impl.setParameter param value dsp).1.ctl = impl.ctl := by
  cases impl with
  | boost module context => cases param <;> simp [setParameter, ctl]
  | other context => rfl

@[simp] theorem start_ctl (control : MixerCtl) : (impl.start control dsp).1.ctl = some control := by
  cases impl <;> simp [start, ctl]

@[simp] theorem stop_ctl : impl.stop.ctl = none := by
  cases impl <;> rfl

end EffectImpl

namespace Bundle

variable {bundle after : Bundle} {context fx : EffectHandle} {outCtxt : OutputAddress}
  {output : AudioIoHandle}

def ctl (bundle : Bundle) (context : EffectHandle) : Option MixerCtl := (bundle.contexts context).impl.ctl

def outHandle (bundle : Bundle) (context : EffectHandle) : AudioIoHandle := (bundle.contexts context).outHandle

/-- The effects are nodes of the lists of their outputs, and have their controls. -/
structure Attached (bundle : Bundle) : Prop where
  /-- No handle has two outputs. -/
  handles : (bundle.activeOutputsList.map fun out => (bundle.outputs out).handle).Nodup
  nodes : ∀ out ∈ bundle.activeOutputsList, ∀ fx, (bundle.outputs out).effectsList.count fx =
    if fx ∈ bundle.createdEffectsList ∧ bundle.outHandle fx = (bundle.outputs out).handle then 1 else 0
  ctl_of_node : ∀ fx ∈ bundle.createdEffectsList, ∀ out ∈ bundle.activeOutputsList,
    fx ∈ (bundle.outputs out).effectsList → bundle.ctl fx = some (bundle.outputs out).ctl
  ctl_of_no_node : ∀ fx ∈ bundle.createdEffectsList,
    (∀ out ∈ bundle.activeOutputsList, fx ∉ (bundle.outputs out).effectsList) → bundle.ctl fx = none

/-! ### The invariant -/

/-- The lists of the library hold contexts and outputs that were allocated, once each. -/
structure Listed (bundle : Bundle) : Prop where
  created : bundle.createdEffectsList.Nodup
  contexts : ∀ fx ∈ bundle.createdEffectsList, fx < bundle.contextsAllocated
  handles : (bundle.activeOutputsList.map fun out => (bundle.outputs out).handle).Nodup
  outputs : ∀ out ∈ bundle.activeOutputsList, out < bundle.outputsAllocated

structure Placed (bundle : Bundle) (fx : EffectHandle) : Prop where
  nodes : ∀ out ∈ bundle.activeOutputsList, (bundle.outputs out).effectsList.count fx =
    if fx ∈ bundle.createdEffectsList ∧ bundle.outHandle fx = (bundle.outputs out).handle then 1 else 0
  ctl : fx ∈ bundle.createdEffectsList → ∀ control, bundle.ctl fx = some control ↔
    ∃ out ∈ bundle.activeOutputsList, bundle.outHandle fx = (bundle.outputs out).handle ∧
      (bundle.outputs out).ctl = control

/-- The effect is on no list and has no control. -/
structure Loose (bundle : Bundle) (fx : EffectHandle) : Prop where
  nodes : ∀ out ∈ bundle.activeOutputsList, fx ∉ (bundle.outputs out).effectsList
  ctl : fx ∈ bundle.createdEffectsList → bundle.ctl fx = none

/-- A step that changes the attachment of one effect alone. -/
structure KeepsOthers (context : EffectHandle) (before after : Bundle) : Prop where
  created : after.createdEffectsList = before.createdEffectsList
  active : after.activeOutputsList = before.activeOutputsList
  contexts : after.contextsAllocated = before.contextsAllocated
  allocated : after.outputsAllocated = before.outputsAllocated
  handle : ∀ out, (after.outputs out).handle = (before.outputs out).handle
  control : ∀ out, (after.outputs out).ctl = (before.outputs out).ctl
  count : ∀ out, ∀ fx ≠ context,
    (after.outputs out).effectsList.count fx = (before.outputs out).effectsList.count fx
  outHandle : ∀ fx ≠ context, after.outHandle fx = before.outHandle fx
  ctl : ∀ fx ≠ context, after.ctl fx = before.ctl fx

theorem KeepsOthers.refl (context : EffectHandle) (bundle : Bundle) : KeepsOthers context bundle bundle :=
  ⟨rfl, rfl, rfl, rfl, fun _ => rfl, fun _ => rfl, fun _ _ _ => rfl, fun _ _ => rfl, fun _ _ => rfl⟩

theorem KeepsOthers.trans {before middle after : Bundle} (hfirst : KeepsOthers context before middle)
    (hsecond : KeepsOthers context middle after) : KeepsOthers context before after where
  created := hsecond.created.trans hfirst.created
  active := hsecond.active.trans hfirst.active
  contexts := hsecond.contexts.trans hfirst.contexts
  allocated := hsecond.allocated.trans hfirst.allocated
  handle out := (hsecond.handle out).trans (hfirst.handle out)
  control out := (hsecond.control out).trans (hfirst.control out)
  count out fx hne := (hsecond.count out fx hne).trans (hfirst.count out fx hne)
  outHandle fx hne := (hsecond.outHandle fx hne).trans (hfirst.outHandle fx hne)
  ctl fx hne := (hsecond.ctl fx hne).trans (hfirst.ctl fx hne)

theorem KeepsOthers.listed (hkeeps : KeepsOthers context bundle after) (hlisted : bundle.Listed) :
    after.Listed where
  created := hkeeps.created ▸ hlisted.created
  contexts fx hfx := by
    rw [hkeeps.contexts]
    exact hlisted.contexts fx (hkeeps.created ▸ hfx)
  handles := by
    simp only [hkeeps.active, hkeeps.handle]
    exact hlisted.handles
  outputs out hout := by
    rw [hkeeps.allocated]
    exact hlisted.outputs out (hkeeps.active ▸ hout)

theorem KeepsOthers.placed (hkeeps : KeepsOthers context bundle after) (hne : fx ≠ context)
    (hplaced : bundle.Placed fx) : after.Placed fx where
  nodes out hout := by
    rw [hkeeps.count out fx hne, hkeeps.created, hkeeps.outHandle fx hne, hkeeps.handle]
    exact hplaced.nodes out (hkeeps.active ▸ hout)
  ctl hfx control := by
    simp only [hkeeps.ctl fx hne, hkeeps.outHandle fx hne, hkeeps.active, hkeeps.handle, hkeeps.control]
    exact hplaced.ctl (hkeeps.created ▸ hfx) control

/-! ### What `get_output` finds -/

theorem getOutput_eq_some (hfound : bundle.getOutput output = some outCtxt) :
    outCtxt ∈ bundle.activeOutputsList ∧ (bundle.outputs outCtxt).handle = output :=
  ⟨List.mem_of_find?_eq_some hfound, by simpa using List.find?_some hfound⟩

theorem getOutput_eq_none :
    bundle.getOutput output = none ↔
      ∀ out ∈ bundle.activeOutputsList, (bundle.outputs out).handle ≠ output := by
  simp [getOutput]

theorem KeepsOthers.getOutput (hkeeps : KeepsOthers context bundle after) (output : AudioIoHandle) :
    after.getOutput output = bundle.getOutput output := by
  simp only [Bundle.getOutput, hkeeps.active, hkeeps.handle]

theorem Listed.eq_of_handle (hlisted : bundle.Listed) {first second : OutputAddress}
    (hfirst : first ∈ bundle.activeOutputsList) (hsecond : second ∈ bundle.activeOutputsList)
    (hsame : (bundle.outputs first).handle = (bundle.outputs second).handle) : first = second :=
  List.inj_on_of_nodup_map hlisted.handles hfirst hsecond hsame

theorem attached_of_placed (hlisted : bundle.Listed) (hplaced : ∀ fx, bundle.Placed fx) : bundle.Attached where
  handles := hlisted.handles
  nodes out hout fx := (hplaced fx).nodes out hout
  ctl_of_node fx hfx out hout hnode := by
    have hcount := (hplaced fx).nodes out hout
    have hpos := List.count_pos_iff.mpr hnode
    have hown : bundle.outHandle fx = (bundle.outputs out).handle := by
      by_contra hother
      rw [hcount, if_neg (by tauto)] at hpos
      exact absurd hpos (Nat.lt_irrefl 0)
    exact ((hplaced fx).ctl hfx _).mpr ⟨out, hout, hown, rfl⟩
  ctl_of_no_node fx hfx hno := by
    rw [Option.eq_none_iff_forall_ne_some]
    intro control hctl
    obtain ⟨out, hout, hown, _⟩ := ((hplaced fx).ctl hfx control).mp hctl
    have hcount := (hplaced fx).nodes out hout
    rw [if_pos ⟨hfx, hown⟩] at hcount
    exact hno out hout (List.count_pos_iff.mp (by omega))

/-! ### The operations on one effect -/

theorem run_keepsOthers (operation : EffectImpl → Dsp → EffectImpl × Dsp) :
    KeepsOthers context bundle (bundle.run context operation) where
  created := rfl
  active := rfl
  contexts := rfl
  allocated := rfl
  handle _ := rfl
  control _ := rfl
  count _ _ _ := rfl
  outHandle fx hne := by simp [outHandle, run, setContext, hne]
  ctl fx hne := by simp [Bundle.ctl, run, setContext, hne]

theorem setContext_keepsOthers (value : EffectContext) :
    KeepsOthers context bundle (bundle.setContext context value) where
  created := rfl
  active := rfl
  contexts := rfl
  allocated := rfl
  handle _ := rfl
  control _ := rfl
  count _ _ _ := rfl
  outHandle fx hne := by simp [outHandle, setContext, hne]
  ctl fx hne := by simp [Bundle.ctl, setContext, hne]

@[simp] theorem run_outHandle (operation : EffectImpl → Dsp → EffectImpl × Dsp) (fx : EffectHandle) :
    (bundle.run context operation).outHandle fx = bundle.outHandle fx := by
  by_cases heq : fx = context
  · subst heq
    simp [outHandle, run, setContext]
  · exact (run_keepsOthers operation).outHandle fx heq

theorem run_ctl (operation : EffectImpl → Dsp → EffectImpl × Dsp) :
    (bundle.run context operation).ctl context =
      (operation (bundle.contexts context).impl bundle.dsp).1.ctl := by
  simp [Bundle.ctl, run, setContext]

@[simp] theorem setEffectsList_handle (effects : List EffectHandle) (out : OutputAddress) :
    ((bundle.setEffectsList outCtxt effects).outputs out).handle = (bundle.outputs out).handle := by
  by_cases heq : out = outCtxt
  · subst heq
    simp [setEffectsList]
  · simp [setEffectsList, heq]

@[simp] theorem setEffectsList_control (effects : List EffectHandle) (out : OutputAddress) :
    ((bundle.setEffectsList outCtxt effects).outputs out).ctl = (bundle.outputs out).ctl := by
  by_cases heq : out = outCtxt
  · subst heq
    simp [setEffectsList]
  · simp [setEffectsList, heq]

theorem setEffectsList_keepsOthers {effects : List EffectHandle}
    (hcount : ∀ fx ≠ context, effects.count fx = (bundle.outputs outCtxt).effectsList.count fx) :
    KeepsOthers context bundle (bundle.setEffectsList outCtxt effects) where
  created := rfl
  active := rfl
  contexts := rfl
  allocated := rfl
  handle := setEffectsList_handle effects
  control := setEffectsList_control effects
  count out fx hne := by
    by_cases heq : out = outCtxt
    · subst heq
      simpa [setEffectsList] using hcount fx hne
    · simp [setEffectsList, heq]
  outHandle _ _ := rfl
  ctl _ _ := rfl

theorem addEffectToOutput_keepsOthers :
    KeepsOthers context bundle (bundle.addEffectToOutput outCtxt context) := by
  unfold addEffectToOutput
  dsimp only
  split
  · exact .refl context bundle
  · refine (setEffectsList_keepsOthers fun fx hne => ?_).trans (run_keepsOthers _)
    simp [List.count_append, hne.symm]

theorem removeEffectFromOutput_keepsOthers :
    KeepsOthers context bundle (bundle.removeEffectFromOutput outCtxt context) := by
  unfold removeEffectFromOutput
  dsimp only
  split
  · refine (run_keepsOthers _).trans (setEffectsList_keepsOthers fun fx hne => ?_)
    exact List.count_erase_of_ne hne
  · exact .refl context bundle

theorem attach_keepsOthers : KeepsOthers context bundle (bundle.attach context) := by
  unfold attach
  split
  · exact addEffectToOutput_keepsOthers
  · exact .refl context bundle

theorem detach_keepsOthers : KeepsOthers context bundle (bundle.detach context) := by
  unfold detach
  split
  · exact removeEffectFromOutput_keepsOthers
  · exact .refl context bundle

@[simp] theorem addEffectToOutput_outHandle :
    (bundle.addEffectToOutput outCtxt context).outHandle fx = bundle.outHandle fx := by
  unfold addEffectToOutput
  dsimp only
  split
  · rfl
  · exact run_outHandle _ fx

theorem Loose.attach (hlisted : bundle.Listed) (hloose : bundle.Loose context)
    (hcreated : context ∈ bundle.createdEffectsList) : (bundle.attach context).Placed context := by
  unfold Bundle.attach
  split
  next outCtxt hfound =>
    obtain ⟨hout, hhandle⟩ := getOutput_eq_some hfound
    have hkeeps : KeepsOthers context bundle (bundle.addEffectToOutput outCtxt context) :=
      addEffectToOutput_keepsOthers
    have hfree := hloose.nodes outCtxt hout
    constructor
    · intro out hmem
      rw [hkeeps.active] at hmem
      rw [hkeeps.created, hkeeps.handle, addEffectToOutput_outHandle]
      by_cases heq : out = outCtxt
      · subst heq
        rw [if_pos ⟨hcreated, hhandle.symm⟩]
        simp [addEffectToOutput, hfree, opsStart, run, setContext, setEffectsList,
          List.count_eq_zero_of_not_mem]
      · have hother : bundle.outHandle context ≠ (bundle.outputs out).handle := fun hsame =>
          heq (hlisted.eq_of_handle hmem hout (hsame.symm.trans hhandle.symm))
        rw [if_neg (by tauto)]
        simp [addEffectToOutput, hfree, opsStart, run, setContext, setEffectsList, heq,
          List.count_eq_zero_of_not_mem (hloose.nodes out hmem)]
    · intro _ control
      have hctl : (bundle.addEffectToOutput outCtxt context).ctl context =
          some (bundle.outputs outCtxt).ctl := by
        simp [addEffectToOutput, hfree, opsStart, run_ctl, setEffectsList]
      simp only [hctl, addEffectToOutput_outHandle, hkeeps.active, hkeeps.handle, hkeeps.control,
        Option.some.injEq]
      constructor
      · exact fun hsame => ⟨outCtxt, hout, hhandle.symm, hsame⟩
      · rintro ⟨out, hmem, hown, hsame⟩
        rw [hlisted.eq_of_handle hout hmem (hhandle.trans hown)]
        exact hsame
  next hnone =>
    have hno := getOutput_eq_none.mp hnone
    constructor
    · intro out hmem
      rw [if_neg fun hown => hno out hmem hown.2.symm]
      exact List.count_eq_zero_of_not_mem (hloose.nodes out hmem)
    · intro _ control
      rw [hloose.ctl hcreated]
      exact ⟨nofun, fun ⟨out, hmem, hown, _⟩ => absurd hown.symm (hno out hmem)⟩

theorem Placed.detach (hlisted : bundle.Listed) (hplaced : bundle.Placed context)
    (hcreated : context ∈ bundle.createdEffectsList) : (bundle.detach context).Loose context := by
  unfold Bundle.detach
  split
  next outCtxt hfound =>
    obtain ⟨hout, hhandle⟩ := getOutput_eq_some hfound
    have hkeeps : KeepsOthers context bundle (bundle.removeEffectFromOutput outCtxt context) :=
      removeEffectFromOutput_keepsOthers
    have hcount := hplaced.nodes outCtxt hout
    rw [if_pos ⟨hcreated, hhandle.symm⟩] at hcount
    have hnode : context ∈ (bundle.outputs outCtxt).effectsList := List.count_pos_iff.mp (by omega)
    constructor
    · intro out hmem
      rw [hkeeps.active] at hmem
      by_cases heq : out = outCtxt
      · subst heq
        rw [← List.count_eq_zero]
        simp [removeEffectFromOutput, hnode, opsStop, run, setContext, setEffectsList, hcount]
      · have hother : bundle.outHandle context ≠ (bundle.outputs out).handle := fun hsame =>
          heq (hlisted.eq_of_handle hmem hout (hsame.symm.trans hhandle.symm))
        have hzero := hplaced.nodes out hmem
        rw [if_neg (by tauto)] at hzero
        rw [← List.count_eq_zero]
        simpa [removeEffectFromOutput, hnode, opsStop, run, setContext, setEffectsList, heq] using hzero
    · intro _
      simp [removeEffectFromOutput, hnode, opsStop, Bundle.ctl, run, setContext, setEffectsList]
  next hnone =>
    have hno := getOutput_eq_none.mp hnone
    constructor
    · intro out hmem
      have hzero := hplaced.nodes out hmem
      rw [if_neg fun hown => hno out hmem hown.2.symm] at hzero
      exact List.count_eq_zero.mp hzero
    · intro _
      rw [Option.eq_none_iff_forall_ne_some]
      intro control hctl
      obtain ⟨out, hmem, hown, _⟩ := (hplaced.ctl hcreated control).mp hctl
      exact hno out hmem hown.symm

/-! ### The calls -/

/-- The library in which every effect is where it belongs. -/
structure Consistent (bundle : Bundle) : Prop where
  listed : bundle.Listed
  placed : ∀ fx, bundle.Placed fx

theorem consistent_initOnce : initOnce.Consistent where
  listed := ⟨List.nodup_nil, by simp [initOnce], List.nodup_nil, by simp [initOnce]⟩
  placed fx := ⟨by simp [initOnce], by simp [initOnce]⟩

theorem Consistent.step (hconsistent : bundle.Consistent) (hkeeps : KeepsOthers context bundle after)
    (hplaced : after.Placed context) : after.Consistent where
  listed := hkeeps.listed hconsistent.listed
  placed fx := by
    by_cases heq : fx = context
    · exact heq ▸ hplaced
    · exact hkeeps.placed heq (hconsistent.placed fx)

theorem Consistent.keep (hconsistent : bundle.Consistent) (hkeeps : KeepsOthers context bundle after)
    (hcount : ∀ out, (after.outputs out).effectsList = (bundle.outputs out).effectsList)
    (hhandle : after.outHandle context = bundle.outHandle context)
    (hctl : after.ctl context = bundle.ctl context) : after.Consistent := by
  refine hconsistent.step hkeeps ⟨fun out hout => ?_, fun hfx => ?_⟩
  · rw [hcount, hkeeps.created, hhandle, hkeeps.handle]
    exact (hconsistent.placed context).nodes out (hkeeps.active ▸ hout)
  · simp only [hctl, hhandle, hkeeps.active, hkeeps.handle, hkeeps.control]
    exact (hconsistent.placed context).ctl (hkeeps.created ▸ hfx)

theorem Consistent.run (hconsistent : bundle.Consistent)
    {operation : EffectImpl → Dsp → EffectImpl × Dsp}
    (hctl : (operation (bundle.contexts context).impl bundle.dsp).1.ctl = bundle.ctl context) :
    (bundle.run context operation).Consistent :=
  hconsistent.keep (run_keepsOthers operation) (fun _ => rfl) (run_outHandle operation context)
    ((run_ctl operation).trans hctl)

theorem Consistent.setContext (hconsistent : bundle.Consistent) {value : EffectContext}
    (hhandle : value.outHandle = bundle.outHandle context) (himpl : value.impl.ctl = bundle.ctl context) :
    (bundle.setContext context value).Consistent :=
  hconsistent.keep (setContext_keepsOthers value) (fun _ => rfl)
    (by simpa [Bundle.outHandle, Bundle.setContext] using hhandle)
    (by simpa [Bundle.ctl, Bundle.setContext] using himpl)

def moved (bundle : Bundle) (context : EffectHandle) (ioHandle : AudioIoHandle) : Bundle :=
  (bundle.detach context).setContext context
    { (bundle.detach context).contexts context with outHandle := ioHandle }

theorem moved_keepsOthers (ioHandle : AudioIoHandle) :
    KeepsOthers context bundle (bundle.moved context ioHandle) :=
  detach_keepsOthers.trans (setContext_keepsOthers _)

theorem Consistent.moved (hconsistent : bundle.Consistent) (hcreated : context ∈ bundle.createdEffectsList)
    (ioHandle : AudioIoHandle) : (bundle.moved context ioHandle).Loose context := by
  have hfree := (hconsistent.placed context).detach hconsistent.listed hcreated
  refine ⟨hfree.nodes, fun hfx => ?_⟩
  have hnone := hfree.ctl hfx
  simpa [Bundle.moved, Bundle.ctl, Bundle.setContext] using hnone

def flagged (bundle : Bundle) (context : EffectHandle) (isOffload : Bool) : Bundle :=
  bundle.setContext context { bundle.contexts context with offloadEnabled := isOffload }

@[simp] theorem flagged_outHandle (isOffload : Bool) :
    (bundle.flagged context isOffload).outHandle context = bundle.outHandle context := by
  simp [flagged, outHandle, Bundle.setContext]

theorem offload_eq (isOffload : Bool) (ioHandle : AudioIoHandle) :
    bundle.offload context isOffload ioHandle =
      if (bundle.flagged context isOffload).outHandle context = ioHandle then bundle.flagged context isOffload
      else ((bundle.flagged context isOffload).moved context ioHandle).attach context :=
  rfl

theorem Consistent.flagged (hconsistent : bundle.Consistent) (isOffload : Bool) :
    (bundle.flagged context isOffload).Consistent :=
  hconsistent.setContext rfl rfl

theorem Consistent.offload (hconsistent : bundle.Consistent)
    (hcreated : context ∈ bundle.createdEffectsList) (isOffload : Bool) (ioHandle : AudioIoHandle) :
    (bundle.offload context isOffload ioHandle).Consistent := by
  have hflag : (bundle.flagged context isOffload).Consistent := hconsistent.flagged isOffload
  have hkeeps := @moved_keepsOthers (bundle.flagged context isOffload) context ioHandle
  rw [offload_eq]
  split
  · exact hflag
  · exact hflag.step (hkeeps.trans attach_keepsOthers)
      ((hflag.moved hcreated ioHandle).attach (hkeeps.listed hflag.listed) (hkeeps.created ▸ hcreated))

theorem Consistent.effectCommand (hconsistent : bundle.Consistent) (command : EffectCommand)
    (wellFormed : Bool) : (bundle.effectCommand context command wellFormed).2.Consistent := by
  unfold Bundle.effectCommand
  split
  · exact hconsistent
  next hexists =>
    have hcreated : context ∈ bundle.createdEffectsList := by
      by_contra hno
      simp [effectExists, hno] at hexists
    split
    · exact hconsistent
    have hstate : ∀ state, (bundle.setState context state).Consistent := fun state =>
      hconsistent.setContext rfl rfl
    cases command <;> dsimp only
    case init => exact hconsistent.run (by simp [Bundle.ctl])
    case enable =>
      split
      · exact hconsistent
      · show ((bundle.setState context .active).run context EffectImpl.enable).Consistent
        exact (hstate .active).run (EffectImpl.enable_ctl _ _)
    case disable =>
      split
      · exact hconsistent
      · show ((bundle.setState context .initialized).run context EffectImpl.disable).Consistent
        exact (hstate .initialized).run (EffectImpl.disable_ctl _ _)
    case setDevice device => exact hconsistent.run (by simp [Bundle.ctl])
    case setParam param value => exact hconsistent.run (by simp [Bundle.ctl])
    case offload isOffload ioHandle => exact hconsistent.offload hcreated isOffload ioHandle

theorem Consistent.effectLibRelease (hconsistent : bundle.Consistent) :
    (bundle.effectLibRelease context).2.Consistent := by
  unfold Bundle.effectLibRelease
  split
  next hexists =>
    have hcreated : context ∈ bundle.createdEffectsList := by simpa [effectExists] using hexists
    have hdetach : KeepsOthers context bundle (bundle.detach context) := detach_keepsOthers
    have hfree := (hconsistent.placed context).detach hconsistent.listed hcreated
    have hlisted := hdetach.listed hconsistent.listed
    have hplaced : ∀ fx ≠ context, (bundle.detach context).Placed fx := fun fx hne =>
      hdetach.placed hne (hconsistent.placed fx)
    dsimp only
    generalize bundle.detach context = detached at hfree hlisted hplaced ⊢
    have hother : ∀ fx ≠ context,
        (fx ∈ detached.createdEffectsList.erase context ↔ fx ∈ detached.createdEffectsList) :=
      fun fx hne => List.mem_erase_of_ne hne
    refine ⟨⟨hlisted.created.erase context, fun fx hfx => hlisted.contexts fx (List.mem_of_mem_erase hfx),
      hlisted.handles, hlisted.outputs⟩, fun fx => ?_⟩
    by_cases heq : fx = context
    · subst heq
      have hgone : fx ∉ detached.createdEffectsList.erase fx := hlisted.created.not_mem_erase
      refine ⟨fun out hout => ?_, fun hfx => absurd hfx hgone⟩
      rw [if_neg fun hown => hgone hown.1]
      exact List.count_eq_zero_of_not_mem (hfree.nodes out hout)
    · refine ⟨fun out hout => ?_, fun hfx => (hplaced fx heq).ctl ((hother fx heq).mp hfx)⟩
      have hnodes := (hplaced fx heq).nodes out hout
      simp only [← hother fx heq] at hnodes
      exact hnodes
  next => exact hconsistent

theorem Consistent.fresh (hconsistent : bundle.Consistent) :
    bundle.contextsAllocated ∉ bundle.createdEffectsList := fun hmem =>
  Nat.lt_irrefl _ (hconsistent.listed.contexts _ hmem)

theorem Consistent.newContext_listed (hconsistent : bundle.Consistent) (desc : EffectDescriptor)
    (ioId : AudioIoHandle) : (bundle.newContext desc ioId).Listed := by
  refine ⟨?_, fun fx hfx => ?_, hconsistent.listed.handles, hconsistent.listed.outputs⟩
  · refine List.Nodup.append hconsistent.listed.created (List.nodup_singleton _) ?_
    simpa using hconsistent.fresh
  · obtain hfx | hnew := List.mem_append.mp hfx
    · exact Nat.lt_succ_of_lt (hconsistent.listed.contexts fx hfx)
    · obtain rfl := List.mem_singleton.mp hnew
      exact Nat.lt_succ_self _

theorem Consistent.newContext_placed (hconsistent : bundle.Consistent) (desc : EffectDescriptor)
    (ioId : AudioIoHandle) (hne : fx ≠ bundle.contextsAllocated) : (bundle.newContext desc ioId).Placed fx := by
  have hsame : fx ∈ (bundle.newContext desc ioId).createdEffectsList ↔ fx ∈ bundle.createdEffectsList := by
    simp [newContext, hne]
  have hhandle : (bundle.newContext desc ioId).outHandle fx = bundle.outHandle fx := by
    simp [newContext, outHandle, Bundle.setContext, hne]
  have hctl : (bundle.newContext desc ioId).ctl fx = bundle.ctl fx := by
    simp [newContext, Bundle.ctl, Bundle.setContext, hne]
  refine ⟨fun out hout => ?_, fun hfx => ?_⟩
  · simp only [hsame, hhandle]
    exact (hconsistent.placed fx).nodes out hout
  · rw [hctl, hhandle]
    exact (hconsistent.placed fx).ctl (hsame.mp hfx)

theorem Consistent.newContext_loose (hconsistent : bundle.Consistent) (desc : EffectDescriptor)
    (ioId : AudioIoHandle) : (bundle.newContext desc ioId).Loose bundle.contextsAllocated := by
  refine ⟨fun out hout hnode => ?_, fun _ => by simp [newContext, Bundle.ctl, Bundle.setContext]⟩
  have hzero := (hconsistent.placed bundle.contextsAllocated).nodes out hout
  rw [if_neg fun hown => hconsistent.fresh hown.1] at hzero
  exact List.count_eq_zero.mp hzero hnode

theorem Consistent.effectLibCreate (hconsistent : bundle.Consistent) (uuid : EffectUuid)
    (ioId : AudioIoHandle) : (bundle.effectLibCreate uuid ioId).2.2.Consistent := by
  unfold Bundle.effectLibCreate
  split
  · exact hconsistent
  next desc _ =>
    have hlisted := hconsistent.newContext_listed desc ioId
    have hkeeps := @attach_keepsOthers (bundle.newContext desc ioId) bundle.contextsAllocated
    refine ⟨hkeeps.listed hlisted, fun fx => ?_⟩
    by_cases heq : fx = bundle.contextsAllocated
    · subst heq
      exact (hconsistent.newContext_loose desc ioId).attach hlisted (by simp [newContext])
    · exact hkeeps.placed heq (hconsistent.newContext_placed desc ioId heq)

/-! ### Outputs -/

/-- A step that leaves the lists and the handles as they are. -/
structure KeepsLists (before after : Bundle) : Prop where
  created : after.createdEffectsList = before.createdEffectsList
  active : after.activeOutputsList = before.activeOutputsList
  contexts : after.contextsAllocated = before.contextsAllocated
  allocated : after.outputsAllocated = before.outputsAllocated
  outputs : after.outputs = before.outputs
  outHandle : ∀ fx, after.outHandle fx = before.outHandle fx

theorem opsStop_fold (effects : List EffectHandle) :
    ∀ bundle : Bundle, KeepsLists bundle (effects.foldl opsStop bundle) ∧
      ∀ fx, (effects.foldl opsStop bundle).ctl fx = if fx ∈ effects then none else bundle.ctl fx := by
  induction effects with
  | nil => exact fun bundle => ⟨⟨rfl, rfl, rfl, rfl, rfl, fun _ => rfl⟩, fun fx => by simp⟩
  | cons context effects ih =>
    intro bundle
    obtain ⟨hlists, hctl⟩ := ih (bundle.opsStop context)
    refine ⟨⟨hlists.created, hlists.active, hlists.contexts, hlists.allocated, hlists.outputs, fun fx =>
      (hlists.outHandle fx).trans (run_outHandle _ fx)⟩, fun fx => ?_⟩
    rw [List.foldl_cons, hctl]
    by_cases heq : fx = context
    · subst heq
      simp [opsStop, run_ctl]
    · simp [heq, opsStop, (run_keepsOthers _).ctl fx heq]

theorem Consistent.stopOutput (hconsistent : bundle.Consistent) (output : AudioIoHandle) :
    (bundle.stopOutput output).2.Consistent := by
  unfold Bundle.stopOutput
  split
  · exact hconsistent
  next outCtxt hfound =>
    obtain ⟨hout, hhandle⟩ := getOutput_eq_some hfound
    obtain ⟨hlists, hctl⟩ := opsStop_fold (bundle.outputs outCtxt).effectsList bundle
    dsimp only
    generalize (bundle.outputs outCtxt).effectsList.foldl opsStop bundle = stopped at hlists hctl ⊢
    have hnodup : bundle.activeOutputsList.Nodup := hconsistent.listed.handles.of_map _
    have hmem : ∀ out, out ∈ stopped.activeOutputsList.erase outCtxt ↔
        out ≠ outCtxt ∧ out ∈ bundle.activeOutputsList := fun out => by
      rw [hlists.active, hnodup.mem_erase_iff]
    refine ⟨⟨hlists.created ▸ hconsistent.listed.created, fun fx hfx => ?_, ?_, fun out hleft => ?_⟩,
      fun fx => ⟨fun out hleft => ?_, fun hfx control => ?_⟩⟩
    · exact hlists.contexts ▸ hconsistent.listed.contexts fx (hlists.created ▸ hfx)
    · simp only [hlists.active, hlists.outputs]
      exact hconsistent.listed.handles.sublist (List.erase_sublist.map _)
    · exact hlists.allocated ▸ hconsistent.listed.outputs out ((hmem out).mp hleft).2
    · show (stopped.outputs out).effectsList.count fx =
        if fx ∈ stopped.createdEffectsList ∧ stopped.outHandle fx = (stopped.outputs out).handle then 1 else 0
      simp only [hlists.created, hlists.outHandle, hlists.outputs]
      exact (hconsistent.placed fx).nodes out ((hmem out).mp hleft).2
    · have hcreated : fx ∈ bundle.createdEffectsList := hlists.created ▸ hfx
      have hcount := (hconsistent.placed fx).nodes outCtxt hout
      show stopped.ctl fx = some control ↔ ∃ out ∈ stopped.activeOutputsList.erase outCtxt,
        stopped.outHandle fx = (stopped.outputs out).handle ∧ (stopped.outputs out).ctl = control
      simp only [hctl, hlists.outHandle, hlists.outputs, hmem]
      by_cases hown : bundle.outHandle fx = (bundle.outputs outCtxt).handle
      · rw [if_pos ⟨hcreated, hown⟩] at hcount
        rw [if_pos (List.count_pos_iff.mp (by omega))]
        refine ⟨nofun, ?_⟩
        rintro ⟨out, ⟨hne, hactive⟩, hsame, _⟩
        exact absurd (hconsistent.listed.eq_of_handle hactive hout (hsame.symm.trans hown)) hne
      · rw [if_neg fun h => hown h.2] at hcount
        rw [if_neg (List.count_eq_zero.mp hcount), (hconsistent.placed fx).ctl hcreated]
        constructor
        · rintro ⟨out, hactive, hsame, hcontrol⟩
          exact ⟨out, ⟨fun heq => hown (heq ▸ hsame), hactive⟩, hsame, hcontrol⟩
        · rintro ⟨out, ⟨_, hactive⟩, hsame, hcontrol⟩
          exact ⟨out, hactive, hsame, hcontrol⟩

/-- What the loop over the created effects leaves: those for the output are on its list, in their order. -/
structure StartsCreated (output : AudioIoHandle) (outCtxt : OutputAddress) (effects : List EffectHandle)
    (before after : Bundle) : Prop where
  created : after.createdEffectsList = before.createdEffectsList
  active : after.activeOutputsList = before.activeOutputsList
  contexts : after.contextsAllocated = before.contextsAllocated
  allocated : after.outputsAllocated = before.outputsAllocated
  outputs : after.outputs = Function.update before.outputs outCtxt
    { before.outputs outCtxt with
      effectsList := (before.outputs outCtxt).effectsList ++
        effects.filter fun fx => before.outHandle fx = output }
  outHandle : ∀ fx, after.outHandle fx = before.outHandle fx
  ctl : ∀ fx, after.ctl fx = if fx ∈ effects ∧ before.outHandle fx = output then
    some (before.outputs outCtxt).ctl else before.ctl fx

theorem startCreated_single (bundle : Bundle) (output : AudioIoHandle) (outCtxt : OutputAddress)
    (context : EffectHandle) :
    StartsCreated output outCtxt [context] bundle (bundle.startCreated output outCtxt context) := by
  unfold startCreated
  split
  next hown =>
    refine ⟨rfl, rfl, rfl, rfl, ?_, fun fx => ?_, fun fx => ?_⟩
    · simp [outHandle, hown, setEffectsList, opsStart, run, setContext]
    · show (bundle.opsStart outCtxt context).outHandle fx = bundle.outHandle fx
      exact run_outHandle _ fx
    · show (bundle.opsStart outCtxt context).ctl fx = _
      by_cases heq : fx = context
      · subst heq
        simp [outHandle, hown, opsStart, run_ctl]
      · simp [heq, opsStart, (run_keepsOthers _).ctl fx heq]
  next hother =>
    refine ⟨rfl, rfl, rfl, rfl, ?_, fun _ => rfl, fun fx => ?_⟩
    · simp [outHandle, hother]
    · rw [if_neg]
      rintro ⟨hfx, hown⟩
      obtain rfl := List.mem_singleton.mp hfx
      exact hother hown

theorem StartsCreated.cons {output : AudioIoHandle} {effects : List EffectHandle} {middle : Bundle}
    (hfirst : StartsCreated output outCtxt [context] bundle middle)
    (hrest : StartsCreated output outCtxt effects middle after) :
    StartsCreated output outCtxt (context :: effects) bundle after where
  created := hrest.created.trans hfirst.created
  active := hrest.active.trans hfirst.active
  contexts := hrest.contexts.trans hfirst.contexts
  allocated := hrest.allocated.trans hfirst.allocated
  outputs := by
    rw [hrest.outputs, hfirst.outputs]
    simp only [hfirst.outHandle, Function.update_self, Function.update_idem, List.append_assoc,
      ← List.filter_append, List.singleton_append]
  outHandle fx := (hrest.outHandle fx).trans (hfirst.outHandle fx)
  ctl fx := by
    rw [hrest.ctl, hfirst.ctl, hfirst.outHandle, hfirst.outputs, Function.update_self]
    by_cases hown : bundle.outHandle fx = output
    · by_cases hmem : fx ∈ effects <;> simp [hown, hmem]
    · simp [hown]

theorem startCreated_fold (output : AudioIoHandle) (outCtxt : OutputAddress) (effects : List EffectHandle) :
    ∀ bundle : Bundle, StartsCreated output outCtxt effects bundle
      (effects.foldl (fun bundle context => bundle.startCreated output outCtxt context) bundle) := by
  induction effects with
  | nil => exact fun bundle => ⟨rfl, rfl, rfl, rfl, by simp, fun _ => rfl, fun _ => by simp⟩
  | cons context effects ih =>
    exact fun bundle => (startCreated_single bundle output outCtxt context).cons (ih _)

theorem Consistent.startOutput (hconsistent : bundle.Consistent) (output : AudioIoHandle) (pcmId : Int)
    (outcome : MixerOutcome) : (bundle.startOutput output pcmId outcome).2.Consistent := by
  unfold Bundle.startOutput
  split
  · exact hconsistent
  next hnone =>
    have hno := getOutput_eq_none.mp (by simpa using hnone)
    cases outcome with
    | noMixer => exact hconsistent
    | noCtl => exact hconsistent
    | found =>
      dsimp only
      have hfold := startCreated_fold output bundle.outputsAllocated bundle.createdEffectsList
        (bundle.openOutput output pcmId)
      generalize bundle.createdEffectsList.foldl _ _ = started at hfold ⊢
      obtain ⟨hcreated, hactive, hcontexts, hallocated, houtputs, houtHandle, hctl⟩ := hfold
      dsimp only [openOutput] at hcreated hactive hcontexts hallocated houtputs hctl
      simp only [Function.update_self, Function.update_idem, List.nil_append] at houtputs hctl
      have hfresh : ∀ out ∈ bundle.activeOutputsList, out ≠ bundle.outputsAllocated := fun out hout heq =>
        Nat.lt_irrefl _ (heq ▸ hconsistent.listed.outputs out hout)
      have hold : ∀ out ∈ bundle.activeOutputsList, started.outputs out = bundle.outputs out :=
        fun out hout => by rw [houtputs, Function.update_of_ne (hfresh out hout)]
      have hnew : started.outputs bundle.outputsAllocated = ⟨output, pcmId, bundle.outputsAllocated,
          bundle.createdEffectsList.filter fun fx => bundle.outHandle fx = output⟩ := by
        rw [houtputs, Function.update_self]
        rfl
      have hhandle : ∀ fx, started.outHandle fx = bundle.outHandle fx := houtHandle
      have hcontrol : ∀ fx, started.ctl fx = if fx ∈ bundle.createdEffectsList ∧
          bundle.outHandle fx = output then some bundle.outputsAllocated else bundle.ctl fx := hctl
      have hmem : ∀ out, out ∈ started.activeOutputsList ++ [bundle.outputsAllocated] ↔
          out ∈ bundle.activeOutputsList ∨ out = bundle.outputsAllocated := fun out => by
        rw [hactive, List.mem_append, List.mem_singleton]
      refine ⟨⟨hcreated ▸ hconsistent.listed.created, fun fx hfx => ?_, ?_, fun out hout => ?_⟩,
        fun fx => ⟨fun out hout => ?_, fun hfx control => ?_⟩⟩
      · exact hcontexts ▸ hconsistent.listed.contexts fx (hcreated ▸ hfx)
      · show ((started.activeOutputsList ++ [bundle.outputsAllocated]).map
          fun out => (started.outputs out).handle).Nodup
        rw [hactive, List.map_append, List.map_congr_left fun out hout => by rw [hold out hout]]
        refine List.Nodup.append hconsistent.listed.handles (List.nodup_singleton _) ?_
        intro handle hbefore hafter
        obtain ⟨out, hout, rfl⟩ := List.mem_map.mp hbefore
        simp only [List.map_cons, List.map_nil, List.mem_singleton, hnew] at hafter
        exact hno out hout hafter
      · rw [hallocated]
        obtain hout | rfl := (hmem out).mp hout
        · exact Nat.lt_succ_of_lt (hconsistent.listed.outputs out hout)
        · exact Nat.lt_succ_self _
      · show (started.outputs out).effectsList.count fx =
          if fx ∈ started.createdEffectsList ∧ started.outHandle fx = (started.outputs out).handle then 1 else 0
        simp only [hcreated, hhandle]
        obtain hout | rfl := (hmem out).mp hout
        · rw [hold out hout]
          exact (hconsistent.placed fx).nodes out hout
        · rw [hnew]
          by_cases hown : bundle.outHandle fx = output
          · rw [List.count_filter (by simpa using hown), hconsistent.listed.created.count]
            simp [hown]
          · rw [if_neg (by tauto)]
            exact List.count_eq_zero_of_not_mem fun hin => hown (by simpa using (List.mem_filter.mp hin).2)
      · have hfx' : fx ∈ bundle.createdEffectsList := hcreated ▸ hfx
        show started.ctl fx = some control ↔ ∃ out ∈ started.activeOutputsList ++ [bundle.outputsAllocated],
          started.outHandle fx = (started.outputs out).handle ∧ (started.outputs out).ctl = control
        simp only [hcontrol, hhandle, hmem]
        by_cases hown : bundle.outHandle fx = output
        · rw [if_pos ⟨hfx', hown⟩, Option.some.injEq]
          constructor
          · exact fun hsame => ⟨_, .inr rfl, by simp [hnew, hown], (congrArg OutputContext.ctl hnew).trans hsame⟩
          · rintro ⟨out, hout | rfl, hsame, hctl⟩
            · rw [hold out hout] at hsame
              exact absurd (hsame.symm.trans hown) (hno out hout)
            · simpa [hnew] using hctl
        · rw [if_neg (by tauto), (hconsistent.placed fx).ctl hfx']
          constructor
          · rintro ⟨out, hout, hsame, hctl⟩
            exact ⟨out, .inl hout, by simp [hold out hout, hsame], by simp [hold out hout, hctl]⟩
          · rintro ⟨out, hout | rfl, hsame, hctl⟩
            · rw [hold out hout] at hsame hctl
              exact ⟨out, hout, hsame, hctl⟩
            · rw [hnew] at hsame
              exact absurd hsame hown

theorem Consistent.call (hconsistent : bundle.Consistent) (call : BundleCall) :
    (bundle.call call).Consistent := by
  cases call with
  | startOutput output pcmId outcome => exact hconsistent.startOutput output pcmId outcome
  | stopOutput output => exact hconsistent.stopOutput output
  | create uuid ioId => exact hconsistent.effectLibCreate uuid ioId
  | release context => exact hconsistent.effectLibRelease
  | command context command wellFormed => exact hconsistent.effectCommand command wellFormed

theorem Consistent.calls (calls : List BundleCall) :
    ∀ {bundle : Bundle}, bundle.Consistent → (calls.foldl Bundle.call bundle).Consistent := by
  induction calls with
  | nil => exact id
  | cons call calls ih => exact fun hconsistent => ih (hconsistent.call call)

/-- After any calls an effect is on the list of the output that it names, once, as long as that output is
started, and has its control; an effect on no list has none. -/
theorem attached_after_calls (calls : List BundleCall) : (calls.foldl Bundle.call initOnce).Attached :=
  have hconsistent := consistent_initOnce.calls calls
  attached_of_placed hconsistent.listed hconsistent.placed

end Bundle

end Nozomi
