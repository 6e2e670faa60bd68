import Nozomi.Audio.Effects.Attachment
import Nozomi.Base.Run

/-!
# What the DSP knows of a bass boost or a virtualizer

The module of the DSP mirrors the effect when it has the enable flag and the strength that the effect should
play with. Each operation sends only a part of the parameters, and only to the output to which the effect is
attached at that time.
-/

namespace Nozomi

/-! ### One effect and its module -/

/-- The module plays an effect that is active, on a device where it is not switched off, with its strength, and
plays none otherwise. -/
def Mirrors (active : Bool) (context : BoostContext) (known : ModuleParams) : Prop :=
  (active = true → disablesBoost context.device = false → context.strength ≠ 0 →
    known = ⟨true, context.strength⟩) ∧
  (active = false ∨ disablesBoost context.device = true → known.enable = false)

instance (active : Bool) (context : BoostContext) (known : ModuleParams) :
    Decidable (Mirrors active context known) :=
  inferInstanceAs (Decidable ((_ → _ → _ → _) ∧ (_ → _)))

def MirroredAt (active : Bool) (context : BoostContext) (module : BoostModule) (dsp : Dsp) : Prop :=
  ∀ ctl, context.ctl = some ctl → Mirrors active context (dsp ctl module)

/-- The parameters that the context holds are those that the effect should play with. -/
structure BoostContext.Tracks (active : Bool) (context : BoostContext) : Prop where
  tempDisabled : context.tempDisabled = disablesBoost context.device
  enableFlag : context.offload.enableFlag = (active && !context.tempDisabled)
  strength : context.offload.strength = context.strength

namespace BoostModule

variable (module : BoostModule)

theorem send_enable {context : BoostContext} {ctl : MixerCtl} (hctl : context.ctl = some ctl) (dsp : Dsp) :
    module.effect.send context module.effect.enableFlag dsp ctl module =
      { dsp ctl module with enable := context.offload.enableFlag } := by
  cases module <;> simp [BoostEffect.send, hctl, BoostEffect.sendParams, effect, bassboost,
    Nozomi.virtualizer, offloadSendBassboostEnableFlag, offloadSendBassboostStrength,
    offloadSendVirtualizerEnableFlag, offloadSendVirtualizerStrength]

theorem send_both {context : BoostContext} {ctl : MixerCtl} (hctl : context.ctl = some ctl) (dsp : Dsp) :
    module.effect.send context (module.effect.enableFlag ||| module.effect.strengthFlag) dsp ctl module =
      ⟨context.offload.enableFlag, context.offload.strength⟩ := by
  cases module <;> simp [BoostEffect.send, hctl, BoostEffect.sendParams, effect, bassboost,
    Nozomi.virtualizer, offloadSendBassboostEnableFlag, offloadSendBassboostStrength,
    offloadSendVirtualizerEnableFlag, offloadSendVirtualizerStrength]

theorem onEnable_eq : module.effect.onEnable = module.effect.enableFlag ||| module.effect.strengthFlag := by
  cases module <;> rfl

variable {active : Bool} {context : BoostContext} {dsp : Dsp}

theorem mirrors_both (htracks : context.Tracks active) :
    Mirrors active context ⟨context.offload.enableFlag, context.offload.strength⟩ := by
  rw [htracks.strength, htracks.enableFlag, htracks.tempDisabled]
  constructor
  · intro hactive hdevice _
    simp [hactive, hdevice]
  · rintro (hinactive | hdevice)
    · simp [hinactive]
    · simp [hdevice]

theorem setStrength_mirrors (htracks : context.Tracks active) (strength : Int) :
    (module.effect.setStrength context strength dsp).1.Tracks active ∧
      MirroredAt active (module.effect.setStrength context strength dsp).1 module
        (module.effect.setStrength context strength dsp).2 := by
  have hafter : (module.effect.setStrength context strength dsp).1.Tracks active :=
    ⟨htracks.tempDisabled, htracks.enableFlag, rfl⟩
  refine ⟨hafter, fun ctl hctl => ?_⟩
  have hknown := mirrors_both hafter
  rwa [← module.send_both hctl dsp] at hknown

theorem enable_mirrors (htracks : context.Tracks false) (hmirrors : MirroredAt false context module dsp) :
    (module.effect.enable context dsp).1.Tracks true ∧
      MirroredAt true (module.effect.enable context dsp).1 module (module.effect.enable context dsp).2 := by
  obtain ⟨htemp, hflag, hstrength⟩ := htracks
  by_cases hdisabled : context.tempDisabled = true
  · have hafter : module.effect.enable context dsp = (context, dsp) := by
      simp [BoostEffect.enable, hdisabled]
    rw [hafter]
    have hdevice := htemp.symm.trans hdisabled
    refine ⟨⟨htemp, by simpa [hdisabled] using hflag, hstrength⟩, fun ctl hctl => ⟨fun _ hno => ?_, fun _ => ?_⟩⟩
    · exact absurd (hdevice.symm.trans hno) (by decide)
    · exact (hmirrors ctl hctl).2 (.inl rfl)
  · have hafter : module.effect.enable context dsp =
        ({ context with offload := { context.offload with enableFlag := true } },
          if context.strength ≠ 0 then module.effect.send
            { context with offload := { context.offload with enableFlag := true } } module.effect.onEnable dsp
          else dsp) := by
      simp [BoostEffect.enable, hdisabled, hflag]
    have htracks : BoostContext.Tracks true
        { context with offload := { context.offload with enableFlag := true } } :=
      ⟨htemp, by simp [hdisabled], hstrength⟩
    rw [hafter]
    refine ⟨htracks, fun ctl hctl => ?_⟩
    by_cases hzero : context.strength = 0
    · rw [if_neg (not_not.mpr hzero)]
      exact ⟨fun _ _ hno => absurd hzero hno, fun h => by simp [← htemp, hdisabled] at h⟩
    · rw [if_pos hzero, onEnable_eq]
      have hknown := mirrors_both htracks
      rwa [← module.send_both hctl dsp] at hknown

theorem disable_mirrors (htracks : context.Tracks true) (hmirrors : MirroredAt true context module dsp) :
    (module.effect.disable context dsp).1.Tracks false ∧
      MirroredAt false (module.effect.disable context dsp).1 module (module.effect.disable context dsp).2 := by
  obtain ⟨htemp, hflag, hstrength⟩ := htracks
  unfold BoostEffect.disable
  split
  next =>
    refine ⟨⟨htemp, rfl, hstrength⟩, fun ctl hctl => ?_⟩
    have hknown := module.send_enable hctl dsp
    exact ⟨nofun, fun _ => congrArg ModuleParams.enable hknown⟩
  next hoff =>
    have hdisabled : context.tempDisabled = true := by simpa [hflag] using hoff
    refine ⟨⟨htemp, by simpa using hoff, hstrength⟩, fun ctl hctl => ⟨nofun, fun _ => ?_⟩⟩
    exact (hmirrors ctl hctl).2 (.inr (htemp.symm.trans hdisabled))

def StrengthKnown (active : Bool) (context : BoostContext) (device : AudioDevices) (module : BoostModule)
    (dsp : Dsp) : Prop :=
  active = true → context.tempDisabled = true → disablesBoost device = false → context.strength ≠ 0 →
    ∀ ctl ∈ context.ctl, (dsp ctl module).strength = context.strength

instance (device : AudioDevices) : Decidable (StrengthKnown active context device module dsp) :=
  inferInstanceAs (Decidable (_ → _ → _ → _ → _))

theorem setDevice_same {device : AudioDevices} (hsame : context.tempDisabled = disablesBoost device) :
    module.effect.setDevice active context device dsp =
      ({ context with device := device, offload := { context.offload with device := device } }, dsp) := by
  unfold BoostEffect.setDevice
  cases hdevice : disablesBoost device <;> simp [hsame, hdevice]

theorem setDevice_switch {device : AudioDevices} (hother : context.tempDisabled ≠ disablesBoost device) :
    module.effect.setDevice active context device dsp =
      ({ context with
          device := device
          tempDisabled := disablesBoost device
          offload := ⟨device, if active then !disablesBoost device else context.offload.enableFlag,
            context.offload.strength⟩ },
        if active then module.effect.send
          { context with
            device := device
            offload := { context.offload with enableFlag := !disablesBoost device } }
          module.effect.enableFlag dsp
        else dsp) := by
  unfold BoostEffect.setDevice BoostEffect.switchTo
  cases hdevice : disablesBoost device <;> cases active <;> simp_all

section

variable (active context dsp) (device : AudioDevices)

theorem setDevice_device : (module.effect.setDevice active context device dsp).1.device = device := by
  by_cases hside : context.tempDisabled = disablesBoost device
  · rw [setDevice_same module hside]
  · rw [setDevice_switch module hside]

theorem setDevice_strength :
    (module.effect.setDevice active context device dsp).1.strength = context.strength := by
  by_cases hside : context.tempDisabled = disablesBoost device
  · rw [setDevice_same module hside]
  · rw [setDevice_switch module hside]

theorem setDevice_tracks (htracks : context.Tracks active) :
    (module.effect.setDevice active context device dsp).1.Tracks active := by
  obtain ⟨htemp, hflag, hstrength⟩ := htracks
  by_cases hside : context.tempDisabled = disablesBoost device
  · rw [setDevice_same module hside]
    exact ⟨hside, hflag, hstrength⟩
  · rw [setDevice_switch module hside]
    refine ⟨rfl, ?_, hstrength⟩
    cases active with
    | false => simpa using hflag
    | true => rfl

end

theorem setDevice_known {device : AudioDevices} {ctl : MixerCtl}
    (hother : context.tempDisabled ≠ disablesBoost device) (hctl : context.ctl = some ctl) :
    (module.effect.setDevice true context device dsp).2 ctl module =
      { dsp ctl module with enable := !disablesBoost device } := by
  rw [setDevice_switch module hother]
  exact @send_enable module { context with
    device := device, offload := { context.offload with enableFlag := !disablesBoost device } } ctl hctl dsp

theorem setDevice_mirrors (htracks : context.Tracks active) (hmirrors : MirroredAt active context module dsp)
    (device : AudioDevices) :
    MirroredAt active (module.effect.setDevice active context device dsp).1 module
      (module.effect.setDevice active context device dsp).2 ↔
        StrengthKnown active context device module dsp := by
  simp only [MirroredAt, Mirrors, setDevice_device, setDevice_strength, BoostEffect.setDevice_ctl]
  by_cases hside : context.tempDisabled = disablesBoost device
  · rw [setDevice_same module hside]
    refine ⟨fun _ _ hdisabled hno => ?_, fun _ ctl hctl => ?_⟩
    · exact absurd (hside.symm.trans hdisabled) (by simp [hno])
    · have hbefore := hmirrors ctl hctl
      simpa only [Mirrors, ← htracks.tempDisabled, ← hside] using hbefore
  cases active with
  | false =>
    rw [setDevice_switch module hside]
    refine ⟨fun _ => nofun, fun _ ctl hctl => ⟨nofun, fun _ => ?_⟩⟩
    exact (hmirrors ctl hctl).2 (.inl rfl)
  | true =>
    constructor
    · intro hafter _ _ hon hnonzero ctl hctl
      have hsent := (hafter ctl hctl).1 rfl hon hnonzero
      rw [setDevice_known module hside hctl] at hsent
      exact congrArg ModuleParams.strength hsent
    · intro hknown ctl hctl
      rw [setDevice_known module hside hctl]
      refine ⟨fun _ hon hnonzero => ?_, fun hoff => ?_⟩
      · have hdisabled : context.tempDisabled = true := by simpa [hon] using hside
        have hsame := hknown rfl hdisabled hon hnonzero ctl hctl
        simpa [hon] using hsame
      · have hoff : disablesBoost device = true := by simpa using hoff
        simp [hoff]

/-- An effect that plays nothing is attached where the module plays nothing. -/
def SilenceKnown (context : BoostContext) (ctl : MixerCtl) (module : BoostModule) (dsp : Dsp) : Prop :=
  context.offload.enableFlag = false → (dsp ctl module).enable = false

instance (ctl : MixerCtl) : Decidable (SilenceKnown context ctl module dsp) :=
  inferInstanceAs (Decidable (_ → _))

theorem start_tracks (htracks : context.Tracks active) (ctl : MixerCtl) :
    (module.effect.start context ctl dsp).1.Tracks active :=
  ⟨htracks.tempDisabled, htracks.enableFlag, htracks.strength⟩

theorem start_known {ctl : MixerCtl} (hflag : context.offload.enableFlag = true) :
    (module.effect.start context ctl dsp).2 ctl module = ⟨true, context.offload.strength⟩ := by
  unfold BoostEffect.start
  dsimp only
  rw [if_pos hflag, send_both module rfl, hflag]

theorem start_mirrors (htracks : context.Tracks active) (ctl : MixerCtl) :
    MirroredAt active (module.effect.start context ctl dsp).1 module
      (module.effect.start context ctl dsp).2 ↔ SilenceKnown context ctl module dsp := by
  cases hflag : context.offload.enableFlag with
  | true =>
    refine ⟨fun _ hno => absurd (hflag.symm.trans hno) (by decide), fun _ control hctl => ?_⟩
    obtain rfl := Option.some.inj hctl
    rw [start_known module hflag]
    have hboth := mirrors_both htracks
    rwa [hflag] at hboth
  | false =>
    have hsilent : active = false ∨ disablesBoost context.device = true := by
      have hoff := htracks.enableFlag.symm.trans hflag
      rw [htracks.tempDisabled] at hoff
      cases active
      · exact .inl rfl
      · exact .inr (by simpa using hoff)
    have hsame : (module.effect.start context ctl dsp).2 = dsp := by
      simp [BoostEffect.start, hflag]
    rw [hsame]
    constructor
    · exact fun hmirrors _ => (hmirrors ctl rfl).2 hsilent
    · intro hknown control hctl
      obtain rfl := Option.some.inj hctl
      refine ⟨fun hactive hdevice => ?_, fun _ => hknown hflag⟩
      rw [BoostEffect.start] at hdevice
      simp [hactive, hdevice] at hsilent

end BoostModule

/-! ### The effect in the bundle -/

inductive HalCall where
  | startOutput (output : AudioIoHandle) (pcmId : Int) (outcome : MixerOutcome)
  | stopOutput (output : AudioIoHandle)
  deriving DecidableEq

/-- The calls that concern one bass boost or virtualizer, without `EFFECT_CMD_INIT`. -/
inductive BoostCall where
  | hal (call : HalCall)
  | enable (wellFormed : Bool)
  | disable (wellFormed : Bool)
  | setDevice (device : AudioDevices) (wellFormed : Bool)
  | setStrength (strength : BitVec 16) (wellFormed : Bool)
  | offload (isOffload : Bool) (ioHandle : AudioIoHandle) (wellFormed : Bool)
  deriving DecidableEq

def HalCall.toCall : HalCall → BundleCall
  | .startOutput output pcmId outcome => .startOutput output pcmId outcome
  | .stopOutput output => .stopOutput output

def BoostCall.toCall (context : EffectHandle) : BoostCall → BundleCall
  | .hal call => call.toCall
  | .enable wellFormed => .command context .enable wellFormed
  | .disable wellFormed => .command context .disable wellFormed
  | .setDevice device wellFormed => .command context (.setDevice device) wellFormed
  | .setStrength strength wellFormed => .command context (.setParam .strength strength) wellFormed
  | .offload isOffload ioHandle wellFormed => .command context (.offload isOffload ioHandle) wellFormed

def BoostModule.descriptor : BoostModule → EffectDescriptor
  | .bassBoost => .bassboost
  | .virtualizer => .virtualizer

def EffectImpl.boostContext : EffectImpl → BoostContext
  | .boost _ context => context
  | .other _ => .allocated

namespace Bundle

def boostCall (context : EffectHandle) (bundle : Bundle) (call : BoostCall) : Option Bundle :=
  some (bundle.call (call.toCall context))

def boost (bundle : Bundle) (context : EffectHandle) : BoostContext := (bundle.contexts context).impl.boostContext

def isActive (bundle : Bundle) (context : EffectHandle) : Bool := (bundle.contexts context).state = .active

def withEffect (module : BoostModule) (starts : List HalCall) (ioId : AudioIoHandle) : Bundle :=
  ((starts.map HalCall.toCall).foldl Bundle.call initOnce).call (.create module.descriptor.uuid ioId)

def effectOf (starts : List HalCall) : EffectHandle :=
  ((starts.map HalCall.toCall).foldl Bundle.call initOnce).contextsAllocated

def Mirrored (module : BoostModule) (context : EffectHandle) (bundle : Bundle) : Prop :=
  ∀ out ∈ bundle.activeOutputsList, context ∈ (bundle.outputs out).effectsList →
    Mirrors (bundle.isActive context) (bundle.boost context) (bundle.dsp (bundle.outputs out).ctl module)

/-- A call after which the module mirrors the effect: when a device switches the effect on again, the module
knows the strength; and an effect that plays nothing is moved to an output only where the module plays
nothing. -/
def KeepsMirror (module : BoostModule) (context : EffectHandle) (bundle : Bundle) : BoostCall → Prop
  | .setDevice device true =>
    BoostModule.StrengthKnown (bundle.isActive context) (bundle.boost context) device module bundle.dsp
  | .offload _ ioHandle true => ioHandle ≠ bundle.outHandle context → ∀ out ∈ bundle.getOutput ioHandle,
    BoostModule.SilenceKnown (bundle.boost context) (bundle.outputs out).ctl module bundle.dsp
  | _ => True

structure Holds (module : BoostModule) (context : EffectHandle) (bundle : Bundle) (active : Bool)
    (boost : BoostContext) (dsp : Dsp) : Prop where
  impl : (bundle.contexts context).impl = .boost module boost
  state : (bundle.contexts context).state = if active then .active else .initialized
  dsp : bundle.dsp = dsp

/-- The effect is the only one, and its parameters are those to play with. -/
structure Follows (module : BoostModule) (context : EffectHandle) (bundle : Bundle) : Prop where
  consistent : bundle.Consistent
  created : bundle.createdEffectsList = [context]
  controls : ∀ out ∈ bundle.activeOutputsList, (bundle.outputs out).ctl < bundle.outputsAllocated
  holds : Holds module context bundle (bundle.isActive context) (bundle.boost context) bundle.dsp
  tracks : (bundle.boost context).Tracks (bundle.isActive context)

variable {module : BoostModule} {context : EffectHandle} {bundle after : Bundle} {active : Bool}
  {boost : BoostContext} {dsp : Dsp}

theorem Holds.isActive_eq (hholds : Holds module context bundle active boost dsp) :
    bundle.isActive context = active := by
  cases active <;> simp [Bundle.isActive, hholds.state]

theorem Holds.boost_eq (hholds : Holds module context bundle active boost dsp) :
    bundle.boost context = boost := by
  simp [Bundle.boost, hholds.impl, EffectImpl.boostContext]

theorem Holds.ctl (hholds : Holds module context bundle active boost dsp) : bundle.ctl context = boost.ctl := by
  rw [Bundle.ctl, hholds.impl]
  rfl

theorem mirrored_iff (hconsistent : bundle.Consistent) (hcreated : context ∈ bundle.createdEffectsList)
    (hholds : Holds module context bundle active boost dsp) :
    Mirrored module context bundle ↔ MirroredAt active boost module dsp := by
  have hctl := (hconsistent.placed context).ctl hcreated
  rw [hholds.ctl] at hctl
  have hnode : ∀ out ∈ bundle.activeOutputsList, (context ∈ (bundle.outputs out).effectsList ↔
      bundle.outHandle context = (bundle.outputs out).handle) := by
    intro out hout
    rw [← List.count_pos_iff, (hconsistent.placed context).nodes out hout]
    by_cases hown : bundle.outHandle context = (bundle.outputs out).handle <;> simp [hown, hcreated]
  simp only [Mirrored, MirroredAt, hholds.isActive_eq, hholds.boost_eq, hholds.dsp, hctl]
  constructor
  · rintro hmirrored control ⟨out, hout, hown, rfl⟩
    exact hmirrored out hout ((hnode out hout).mpr hown)
  · intro hmirrored out hout hin
    exact hmirrored _ ⟨out, hout, (hnode out hout).mp hin, rfl⟩

theorem Holds.run (hholds : Holds module context bundle active boost dsp)
    (operation : EffectImpl → Dsp → EffectImpl × Dsp) (effect : BoostContext × Dsp)
    (heffect : operation (.boost module boost) dsp = (.boost module effect.1, effect.2)) :
    Holds module context (bundle.run context operation) active effect.1 effect.2 where
  impl := by simp [Bundle.run, setContext, hholds.impl, hholds.dsp, heffect]
  state := by simp [Bundle.run, setContext, hholds.state]
  dsp := by simp [Bundle.run, hholds.impl, hholds.dsp, heffect]

theorem Holds.setContext (hholds : Holds module context bundle active boost dsp) (value : EffectContext)
    (himpl : value.impl = (bundle.contexts context).impl) {other : Bool}
    (hstate : value.state = if other then .active else .initialized) :
    Holds module context (bundle.setContext context value) other boost dsp where
  impl := by simp [Bundle.setContext, himpl, hholds.impl]
  state := by simp [Bundle.setContext, hstate]
  dsp := hholds.dsp

theorem stop_of_none (hnone : boost.ctl = none) : boost.stop = boost := by
  rw [BoostContext.stop, ← hnone]

theorem Holds.opsStop (hholds : Holds module context bundle active boost dsp) :
    Holds module context (bundle.opsStop context) active boost.stop dsp :=
  hholds.run (fun impl dsp => (impl.stop, dsp)) (boost.stop, dsp) rfl

theorem Holds.detach (hholds : Holds module context bundle active boost dsp)
    (hconsistent : bundle.Consistent) (hcreated : context ∈ bundle.createdEffectsList) :
    Holds module context (bundle.detach context) active boost.stop dsp := by
  have hplaced := hconsistent.placed context
  unfold Bundle.detach
  split
  next outCtxt hfound =>
    obtain ⟨hout, hhandle⟩ := getOutput_eq_some hfound
    have hcount := hplaced.nodes outCtxt hout
    rw [if_pos ⟨hcreated, hhandle.symm⟩] at hcount
    have hnode : context ∈ (bundle.outputs outCtxt).effectsList := List.count_pos_iff.mp (by omega)
    rw [removeEffectFromOutput, if_pos hnode]
    exact ⟨hholds.opsStop.impl, hholds.opsStop.state, hholds.opsStop.dsp⟩
  next hnone =>
    have hno := getOutput_eq_none.mp hnone
    rw [stop_of_none]
    · exact hholds
    · rw [← hholds.ctl, Option.eq_none_iff_forall_ne_some]
      intro control hctl
      obtain ⟨out, hout, hown, _⟩ := (hplaced.ctl hcreated control).mp hctl
      exact hno out hout hown.symm

def attached (module : BoostModule) (boost : BoostContext) (dsp : Dsp) : Option MixerCtl → BoostContext × Dsp
  | some ctl => module.effect.start boost ctl dsp
  | none => (boost, dsp)

theorem Holds.attach (hholds : Holds module context bundle active boost dsp) (hloose : bundle.Loose context) :
    Holds module context (bundle.attach context) active
      (attached module boost dsp ((bundle.getOutput (bundle.outHandle context)).map
        fun out => (bundle.outputs out).ctl)).1
      (attached module boost dsp ((bundle.getOutput (bundle.outHandle context)).map
        fun out => (bundle.outputs out).ctl)).2 := by
  unfold Bundle.attach
  split
  next outCtxt hfound =>
    have hout := (getOutput_eq_some hfound).1
    rw [show bundle.getOutput (bundle.outHandle context) = some outCtxt from hfound, addEffectToOutput,
      if_neg (hloose.nodes outCtxt hout)]
    have hlisted : Holds module context (bundle.setEffectsList outCtxt
        ((bundle.outputs outCtxt).effectsList ++ [context])) active boost dsp :=
      ⟨hholds.impl, hholds.state, hholds.dsp⟩
    have hcontrol := @setEffectsList_control bundle outCtxt
      ((bundle.outputs outCtxt).effectsList ++ [context]) outCtxt
    refine hlisted.run _ (module.effect.start boost (bundle.outputs outCtxt).ctl dsp) ?_
    rw [hcontrol]
    rfl
  next hnone =>
    rw [show bundle.getOutput (bundle.outHandle context) = none from hnone]
    exact hholds

theorem Holds.flagged (hholds : Holds module context bundle active boost dsp) (isOffload : Bool) :
    Holds module context (bundle.flagged context isOffload) active boost dsp :=
  hholds.setContext { bundle.contexts context with offloadEnabled := isOffload } rfl hholds.state

theorem Holds.offload (hholds : Holds module context bundle active boost dsp) (hconsistent : bundle.Consistent)
    (hcreated : context ∈ bundle.createdEffectsList) (isOffload : Bool) {ioHandle : AudioIoHandle}
    (hother : ioHandle ≠ bundle.outHandle context) :
    Holds module context (bundle.offload context isOffload ioHandle) active
      (attached module boost.stop dsp ((bundle.getOutput ioHandle).map fun out => (bundle.outputs out).ctl)).1
      (attached module boost.stop dsp ((bundle.getOutput ioHandle).map
        fun out => (bundle.outputs out).ctl)).2 := by
  have hflag : (bundle.flagged context isOffload).Consistent := hconsistent.flagged isOffload
  have hdetached := (hholds.flagged isOffload).detach hflag hcreated
  have hmoved : Holds module context ((bundle.flagged context isOffload).moved context ioHandle) active
      boost.stop dsp :=
    hdetached.setContext { ((bundle.flagged context isOffload).detach context).contexts context with
      outHandle := ioHandle } rfl hdetached.state
  have hkeeps := @moved_keepsOthers (bundle.flagged context isOffload) context ioHandle
  have hhandle : ((bundle.flagged context isOffload).moved context ioHandle).outHandle context = ioHandle := by
    simp [moved, outHandle, Bundle.setContext]
  have hattached := hmoved.attach (hflag.moved hcreated ioHandle)
  rw [hhandle, hkeeps.getOutput] at hattached
  simp only [hkeeps.control] at hattached
  rw [offload_eq, if_neg (by simpa using hother.symm)]
  exact hattached

/-! ### The steps -/

theorem effectCommand_keepsOthers (command : EffectCommand) (wellFormed : Bool) :
    KeepsOthers context bundle (bundle.effectCommand context command wellFormed).2 := by
  unfold Bundle.effectCommand
  split
  · exact .refl context bundle
  split
  · exact .refl context bundle
  have hstate : ∀ state, KeepsOthers context bundle (bundle.setState context state) := fun state =>
    setContext_keepsOthers _
  cases command <;> dsimp only
  case init => exact run_keepsOthers _
  case enable =>
    split
    · exact .refl context bundle
    · show KeepsOthers context bundle ((bundle.setState context .active).run context EffectImpl.enable)
      exact (hstate .active).trans (run_keepsOthers _)
  case disable =>
    split
    · exact .refl context bundle
    · show KeepsOthers context bundle ((bundle.setState context .initialized).run context EffectImpl.disable)
      exact (hstate .initialized).trans (run_keepsOthers _)
  case setDevice device => exact run_keepsOthers _
  case setParam param value => exact run_keepsOthers _
  case offload isOffload ioHandle =>
    rw [offload_eq]
    split
    · exact setContext_keepsOthers _
    · exact (setContext_keepsOthers _).trans ((moved_keepsOthers _).trans attach_keepsOthers)

theorem Follows.of_holds (hconsistent : bundle.Consistent) (hcreated : bundle.createdEffectsList = [context])
    (hcontrols : ∀ out ∈ bundle.activeOutputsList, (bundle.outputs out).ctl < bundle.outputsAllocated)
    (hholds : Holds module context bundle active boost dsp) (htracks : boost.Tracks active) :
    Follows module context bundle where
  consistent := hconsistent
  created := hcreated
  controls := hcontrols
  holds := by
    rw [hholds.isActive_eq, hholds.boost_eq, hholds.dsp]
    exact hholds
  tracks := by
    rw [hholds.isActive_eq, hholds.boost_eq]
    exact htracks

theorem Follows.command (hfollows : Follows module context bundle) {command : EffectCommand} {wellFormed : Bool}
    (hholds : Holds module context (bundle.effectCommand context command wellFormed).2 active boost dsp)
    (htracks : boost.Tracks active) :
    Follows module context (bundle.effectCommand context command wellFormed).2 ∧
      (Mirrored module context (bundle.effectCommand context command wellFormed).2 ↔
        MirroredAt active boost module dsp) := by
  have hkeeps := @effectCommand_keepsOthers context bundle command wellFormed
  have hconsistent := @Consistent.effectCommand bundle context hfollows.consistent command wellFormed
  have hcreated := hkeeps.created.trans hfollows.created
  refine ⟨.of_holds hconsistent hcreated (fun out hout => ?_) hholds htracks,
    mirrored_iff hconsistent (by simp [hcreated]) hholds⟩
  rw [hkeeps.control, hkeeps.allocated]
  exact hfollows.controls out (hkeeps.active ▸ hout)

theorem Follows.refused (hfollows : Follows module context bundle) {command : EffectCommand} {wellFormed : Bool}
    (hmirrored : Mirrored module context bundle)
    (hsame : (bundle.effectCommand context command wellFormed).2 = bundle) :
    Follows module context (bundle.effectCommand context command wellFormed).2 ∧
      Mirrored module context (bundle.effectCommand context command wellFormed).2 := by
  rw [hsame]
  exact ⟨hfollows, hmirrored⟩

theorem Follows.exists (hfollows : Follows module context bundle) :
    ¬(!bundle.effectExists context || (bundle.contexts context).state = .uninitialized) = true := by
  have hstate := hfollows.holds.state
  cases hactive : bundle.isActive context <;>
    simp [effectExists, hfollows.created, hstate, hactive]

theorem effectCommand_malformed (command : EffectCommand) :
    (bundle.effectCommand context command false).2 = bundle := by
  unfold Bundle.effectCommand
  split <;> rfl

theorem Follows.operate (hfollows : Follows module context bundle) {command : EffectCommand} {before : Bundle}
    (operation : EffectImpl → Dsp → EffectImpl × Dsp) (effect : BoostContext × Dsp)
    (hafter : (bundle.effectCommand context command true).2 = before.run context operation)
    (hbefore : Holds module context before active boost dsp)
    (heffect : operation (.boost module boost) dsp = (.boost module effect.1, effect.2))
    (htracks : effect.1.Tracks active) :
    Follows module context (bundle.effectCommand context command true).2 ∧
      (Mirrored module context (bundle.effectCommand context command true).2 ↔
        MirroredAt active effect.1 module effect.2) := by
  refine hfollows.command ?_ htracks
  rw [hafter]
  exact hbefore.run operation effect heffect

theorem Follows.mirroredAt (hfollows : Follows module context bundle)
    (hmirrored : Mirrored module context bundle) :
    MirroredAt (bundle.isActive context) (bundle.boost context) module bundle.dsp :=
  (mirrored_iff hfollows.consistent (by simp [hfollows.created]) hfollows.holds).mp hmirrored

theorem Follows.enable (hfollows : Follows module context bundle)
    (hmirrored : Mirrored module context bundle) :
    Follows module context (bundle.effectCommand context .enable true).2 ∧
      Mirrored module context (bundle.effectCommand context .enable true).2 := by
  have hstate := hfollows.holds.state
  have htracks := hfollows.tracks
  have hat := hfollows.mirroredAt hmirrored
  cases hactive : bundle.isActive context with
  | true =>
    refine hfollows.refused hmirrored ?_
    rw [effectCommand, if_neg hfollows.exists]
    simp [hstate, hactive]
  | false =>
    rw [hactive] at htracks hat
    obtain ⟨htracksAfter, hmirrors⟩ := module.enable_mirrors htracks hat
    have hafter : (bundle.effectCommand context .enable true).2 =
        (bundle.setState context .active).run context EffectImpl.enable := by
      rw [effectCommand, if_neg hfollows.exists]
      simp [hstate, hactive]
    obtain ⟨hfollowsAfter, hiff⟩ := hfollows.operate _ (module.effect.enable _ _) hafter
      (hfollows.holds.setContext { bundle.contexts context with state := .active } rfl
        (show EffectState.active = if true then .active else .initialized from rfl)) rfl htracksAfter
    exact ⟨hfollowsAfter, hiff.mpr hmirrors⟩

theorem Follows.disable (hfollows : Follows module context bundle)
    (hmirrored : Mirrored module context bundle) :
    Follows module context (bundle.effectCommand context .disable true).2 ∧
      Mirrored module context (bundle.effectCommand context .disable true).2 := by
  have hstate := hfollows.holds.state
  have htracks := hfollows.tracks
  have hat := hfollows.mirroredAt hmirrored
  cases hactive : bundle.isActive context with
  | false =>
    refine hfollows.refused hmirrored ?_
    rw [effectCommand, if_neg hfollows.exists]
    simp [hstate, hactive]
  | true =>
    rw [hactive] at htracks hat
    obtain ⟨htracksAfter, hmirrors⟩ := module.disable_mirrors htracks hat
    have hafter : (bundle.effectCommand context .disable true).2 =
        (bundle.setState context .initialized).run context EffectImpl.disable := by
      rw [effectCommand, if_neg hfollows.exists]
      simp [hstate, hactive]
    obtain ⟨hfollowsAfter, hiff⟩ := hfollows.operate _ (module.effect.disable _ _) hafter
      (hfollows.holds.setContext { bundle.contexts context with state := .initialized } rfl
        (show EffectState.initialized = if false then .active else .initialized from rfl)) rfl htracksAfter
    exact ⟨hfollowsAfter, hiff.mpr hmirrors⟩

theorem Follows.setDevice (hfollows : Follows module context bundle)
    (hmirrored : Mirrored module context bundle) (device : AudioDevices) :
    Follows module context (bundle.effectCommand context (.setDevice device) true).2 ∧
      (Mirrored module context (bundle.effectCommand context (.setDevice device) true).2 ↔
        BoostModule.StrengthKnown (bundle.isActive context) (bundle.boost context) device module
          bundle.dsp) := by
  have hafter : (bundle.effectCommand context (.setDevice device) true).2 =
      bundle.run context fun impl dsp => impl.setDevice (bundle.isActive context) device dsp := by
    rw [effectCommand, if_neg hfollows.exists]
    rfl
  obtain ⟨hfollowsAfter, hiff⟩ := hfollows.operate _ (module.effect.setDevice _ _ device _) hafter
    hfollows.holds rfl (module.setDevice_tracks _ _ _ device hfollows.tracks)
  exact ⟨hfollowsAfter,
    hiff.trans (module.setDevice_mirrors hfollows.tracks (hfollows.mirroredAt hmirrored) device)⟩

theorem Follows.setStrength (hfollows : Follows module context bundle) (strength : BitVec 16) :
    Follows module context (bundle.effectCommand context (.setParam .strength strength) true).2 ∧
      Mirrored module context (bundle.effectCommand context (.setParam .strength strength) true).2 := by
  have hafter : (bundle.effectCommand context (.setParam .strength strength) true).2 =
      bundle.run context fun impl dsp => impl.setParameter .strength strength dsp := by
    rw [effectCommand, if_neg hfollows.exists]
    rfl
  obtain ⟨htracks, hmirrors⟩ := module.setStrength_mirrors hfollows.tracks strength.toInt
  obtain ⟨hfollowsAfter, hiff⟩ := hfollows.operate _ (module.effect.setStrength _ strength.toInt _) hafter
    hfollows.holds rfl htracks
  exact ⟨hfollowsAfter, hiff.mpr hmirrors⟩

theorem stop_tracks (htracks : boost.Tracks active) : boost.stop.Tracks active :=
  ⟨htracks.tempDisabled, htracks.enableFlag, htracks.strength⟩

theorem Follows.offload (hfollows : Follows module context bundle)
    (hmirrored : Mirrored module context bundle) (isOffload : Bool) (ioHandle : AudioIoHandle) :
    Follows module context (bundle.effectCommand context (.offload isOffload ioHandle) true).2 ∧
      (Mirrored module context (bundle.effectCommand context (.offload isOffload ioHandle) true).2 ↔
        (ioHandle ≠ bundle.outHandle context → ∀ out ∈ bundle.getOutput ioHandle,
          BoostModule.SilenceKnown (bundle.boost context) (bundle.outputs out).ctl module bundle.dsp)) := by
  have hafter : (bundle.effectCommand context (.offload isOffload ioHandle) true).2 =
      bundle.offload context isOffload ioHandle := by
    rw [effectCommand, if_neg hfollows.exists]
    rfl
  have hcreated : context ∈ bundle.createdEffectsList := by simp [hfollows.created]
  by_cases hsame : ioHandle = bundle.outHandle context
  · have hholds : Holds module context (bundle.effectCommand context (.offload isOffload ioHandle) true).2
        (bundle.isActive context) (bundle.boost context) bundle.dsp := by
      rw [hafter, offload_eq, if_pos (by simpa using hsame.symm)]
      exact hfollows.holds.flagged isOffload
    obtain ⟨hfollowsAfter, hiff⟩ := hfollows.command hholds hfollows.tracks
    exact ⟨hfollowsAfter, iff_of_true (hiff.mpr (hfollows.mirroredAt hmirrored)) fun hno => absurd hsame hno⟩
  have hholds := hfollows.holds.offload hfollows.consistent hcreated isOffload hsame
  rw [← hafter] at hholds
  have htracks := stop_tracks hfollows.tracks
  cases hfound : bundle.getOutput ioHandle with
  | none =>
    rw [hfound] at hholds
    obtain ⟨hfollowsAfter, hiff⟩ := hfollows.command hholds htracks
    exact ⟨hfollowsAfter, iff_of_true (hiff.mpr fun _ => nofun) (by simp)⟩
  | some out =>
    rw [hfound] at hholds
    obtain ⟨hfollowsAfter, hiff⟩ := hfollows.command hholds (module.start_tracks htracks _)
    refine ⟨hfollowsAfter, hiff.trans ((module.start_mirrors htracks _).trans ?_)⟩
    simp [hsame, BoostModule.SilenceKnown, BoostContext.stop]

theorem opsStop_fold_holds (effects : List EffectHandle) :
    ∀ {bundle : Bundle} {boost : BoostContext}, Holds module context bundle active boost dsp →
      Holds module context (effects.foldl opsStop bundle) active
        (if context ∈ effects then boost.stop else boost) dsp := by
  induction effects with
  | nil => exact fun hholds => hholds
  | cons fx effects ih =>
    intro bundle boost hholds
    rw [List.foldl_cons]
    by_cases heq : fx = context
    · subst heq
      have hstopped := ih hholds.opsStop
      simpa [BoostContext.stop] using hstopped
    · have hother : Holds module context (bundle.opsStop fx) active boost dsp := by
        refine ⟨?_, ?_, hholds.dsp⟩
        · simp [opsStop, Bundle.run, setContext, Ne.symm heq, hholds.impl]
        · simp [opsStop, Bundle.run, setContext, Ne.symm heq, hholds.state]
      simpa [Ne.symm heq] using ih hother

theorem Follows.stopOutput (hfollows : Follows module context bundle)
    (hmirrored : Mirrored module context bundle) (output : AudioIoHandle) :
    Follows module context (bundle.stopOutput output).2 ∧ Mirrored module context (bundle.stopOutput output).2 := by
  have hconsistent := hfollows.consistent.stopOutput output
  have hat := hfollows.mirroredAt hmirrored
  unfold Bundle.stopOutput at hconsistent ⊢
  split at hconsistent
  next => exact ⟨hfollows, hmirrored⟩
  next outCtxt hfound =>
    dsimp only at hconsistent ⊢
    have hlists := (opsStop_fold (bundle.outputs outCtxt).effectsList bundle).1
    have hholds := opsStop_fold_holds (bundle.outputs outCtxt).effectsList hfollows.holds
    generalize (bundle.outputs outCtxt).effectsList.foldl opsStop bundle = stopped at hconsistent hlists hholds ⊢
    have hcreated := hlists.created.trans hfollows.created
    have hafter : Holds module context
        { stopped with activeOutputsList := stopped.activeOutputsList.erase outCtxt } (bundle.isActive context)
        (if context ∈ (bundle.outputs outCtxt).effectsList then (bundle.boost context).stop
          else bundle.boost context) bundle.dsp := ⟨hholds.impl, hholds.state, hholds.dsp⟩
    constructor
    · refine .of_holds hconsistent hcreated (fun out hout => ?_) hafter ?_
      · have hmem := List.mem_of_mem_erase hout
        show (stopped.outputs out).ctl < stopped.outputsAllocated
        rw [hlists.outputs, hlists.allocated]
        exact hfollows.controls out (hlists.active ▸ hmem)
      · split
        · exact stop_tracks hfollows.tracks
        · exact hfollows.tracks
    · refine (mirrored_iff hconsistent (by simp [hcreated]) hafter).mpr ?_
      split
      · exact fun _ => nofun
      · exact hat

theorem Holds.startCreated (hholds : Holds module context bundle active boost dsp) (output : AudioIoHandle)
    (pcmId : Int) :
    ∃ effect : BoostContext × Dsp,
      Holds module context ((bundle.openOutput output pcmId).startCreated output bundle.outputsAllocated context)
        active effect.1 effect.2 ∧
      (effect = module.effect.start boost bundle.outputsAllocated
          (Function.update dsp bundle.outputsAllocated fun _ => .atStart) ∨
        effect = (boost, Function.update dsp bundle.outputsAllocated fun _ => .atStart)) := by
  have hopened : Holds module context (bundle.openOutput output pcmId) active boost
      (Function.update dsp bundle.outputsAllocated fun _ => .atStart) :=
    ⟨hholds.impl, hholds.state, by rw [← hholds.dsp]; rfl⟩
  unfold Bundle.startCreated
  split
  · refine ⟨_, ?_, .inl rfl⟩
    have hrun := hopened.run
      (fun impl dsp => impl.start ((bundle.openOutput output pcmId).outputs bundle.outputsAllocated).ctl dsp)
      (module.effect.start boost bundle.outputsAllocated
        (Function.update dsp bundle.outputsAllocated fun _ => .atStart))
      (by simp only [openOutput, Function.update_self]; rfl)
    exact ⟨hrun.impl, hrun.state, hrun.dsp⟩
  · exact ⟨_, hopened, .inr rfl⟩

theorem Follows.ctl_lt (hfollows : Follows module context bundle) {control : MixerCtl}
    (hctl : (bundle.boost context).ctl = some control) : control < bundle.outputsAllocated := by
  have hplaced := (hfollows.consistent.placed context).ctl (by simp [hfollows.created]) control
  rw [hfollows.holds.ctl] at hplaced
  obtain ⟨out, hout, _, rfl⟩ := hplaced.mp hctl
  exact hfollows.controls out hout

theorem Follows.startOutput (hfollows : Follows module context bundle)
    (hmirrored : Mirrored module context bundle) (output : AudioIoHandle) (pcmId : Int)
    (outcome : MixerOutcome) :
    Follows module context (bundle.startOutput output pcmId outcome).2 ∧
      Mirrored module context (bundle.startOutput output pcmId outcome).2 := by
  have hconsistent := hfollows.consistent.startOutput output pcmId outcome
  have hat := hfollows.mirroredAt hmirrored
  unfold Bundle.startOutput at hconsistent ⊢
  split at hconsistent
  next hsome =>
    rw [if_pos hsome]
    exact ⟨hfollows, hmirrored⟩
  next hnone =>
    rw [if_neg hnone]
    cases outcome with
    | noMixer => exact ⟨hfollows, hmirrored⟩
    | noCtl => exact ⟨hfollows, hmirrored⟩
    | found =>
      dsimp only at hconsistent ⊢
      rw [hfollows.created, List.foldl_cons, List.foldl_nil] at hconsistent ⊢
      have hstarts := startCreated_single (bundle.openOutput output pcmId) output bundle.outputsAllocated context
      obtain ⟨effect, hholds, heffect⟩ := hfollows.holds.startCreated output pcmId
      generalize (bundle.openOutput output pcmId).startCreated output bundle.outputsAllocated context =
        started at hconsistent hstarts hholds ⊢
      have hcreated : started.createdEffectsList = [context] := hstarts.created.trans hfollows.created
      have hafter : Holds module context
          { started with activeOutputsList := started.activeOutputsList ++ [bundle.outputsAllocated] }
          (bundle.isActive context) effect.1 effect.2 := ⟨hholds.impl, hholds.state, hholds.dsp⟩
      have hsilent : MirroredAt (bundle.isActive context) effect.1 module effect.2 ∧
          effect.1.Tracks (bundle.isActive context) := by
        obtain rfl | rfl := heffect
        · refine ⟨(module.start_mirrors hfollows.tracks _).mpr fun _ => ?_, module.start_tracks hfollows.tracks _⟩
          rw [Function.update_self]
          rfl
        · refine ⟨fun control hctl => ?_, hfollows.tracks⟩
          dsimp only at hctl ⊢
          rw [Function.update_of_ne (Nat.ne_of_lt (hfollows.ctl_lt hctl))]
          exact hat control hctl
      refine ⟨.of_holds hconsistent hcreated (fun out hout => ?_) hafter hsilent.2,
        (mirrored_iff hconsistent (by simp [hcreated]) hafter).mpr hsilent.1⟩
      show (started.outputs out).ctl < started.outputsAllocated
      rw [hstarts.outputs, hstarts.allocated]
      obtain hmem | hnew := List.mem_append.mp hout
      · have hlisted : out ∈ bundle.activeOutputsList := hstarts.active ▸ hmem
        have hne : out ≠ bundle.outputsAllocated :=
          Nat.ne_of_lt (hfollows.consistent.listed.outputs out hlisted)
        rw [Function.update_of_ne hne]
        show ((bundle.openOutput output pcmId).outputs out).ctl < bundle.outputsAllocated + 1
        simp only [openOutput, ne_eq, hne, not_false_eq_true, Function.update_of_ne]
        exact Nat.lt_succ_of_lt (hfollows.controls out hlisted)
      · obtain rfl := List.mem_singleton.mp hnew
        rw [Function.update_self]
        simp [openOutput]

theorem Follows.boostCall (hfollows : Follows module context bundle) (hmirrored : Mirrored module context bundle)
    (call : BoostCall) :
    Follows module context (bundle.call (call.toCall context)) ∧
      (Mirrored module context (bundle.call (call.toCall context)) ↔ KeepsMirror module context bundle call) := by
  have hsame : ∀ command, Follows module context (bundle.effectCommand context command false).2 ∧
      Mirrored module context (bundle.effectCommand context command false).2 := fun command =>
    hfollows.refused hmirrored (effectCommand_malformed command)
  have hkept : ∀ {after : Bundle}, Follows module context after ∧ Mirrored module context after →
      Follows module context after ∧ (Mirrored module context after ↔ True) := fun h =>
    ⟨h.1, iff_of_true h.2 trivial⟩
  cases call with
  | hal call =>
    cases call with
    | startOutput output pcmId outcome => exact hkept (hfollows.startOutput hmirrored output pcmId outcome)
    | stopOutput output => exact hkept (hfollows.stopOutput hmirrored output)
  | enable wellFormed =>
    cases wellFormed with
    | false => exact hkept (hsame .enable)
    | true => exact hkept (hfollows.enable hmirrored)
  | disable wellFormed =>
    cases wellFormed with
    | false => exact hkept (hsame .disable)
    | true => exact hkept (hfollows.disable hmirrored)
  | setDevice device wellFormed =>
    cases wellFormed with
    | false => exact hkept (hsame (.setDevice device))
    | true => exact hfollows.setDevice hmirrored device
  | setStrength strength wellFormed =>
    cases wellFormed with
    | false => exact hkept (hsame (.setParam .strength strength))
    | true => exact hkept (hfollows.setStrength strength)
  | offload isOffload ioHandle wellFormed =>
    cases wellFormed with
    | false => exact hkept (hsame (.offload isOffload ioHandle))
    | true => exact hfollows.offload hmirrored isOffload ioHandle

/-! ### Runs -/

/-- The library in which outputs were started and stopped, but no effect was created. -/
structure NoEffects (bundle : Bundle) : Prop where
  consistent : bundle.Consistent
  created : bundle.createdEffectsList = []
  controls : ∀ out ∈ bundle.activeOutputsList, (bundle.outputs out).ctl < bundle.outputsAllocated
  dsp : bundle.dsp = fun _ _ => .atStart

theorem NoEffects.halCall (hnone : bundle.NoEffects) (call : HalCall) : (bundle.call call.toCall).NoEffects := by
  cases call with
  | startOutput output pcmId outcome =>
    have hconsistent := hnone.consistent.startOutput output pcmId outcome
    simp only [HalCall.toCall, Bundle.call]
    unfold Bundle.startOutput at hconsistent ⊢
    split at hconsistent
    next hsome =>
      rw [if_pos hsome]
      exact hnone
    next hno =>
      rw [if_neg hno]
      cases outcome with
      | noMixer => exact hnone
      | noCtl => exact hnone
      | found =>
        simp only [hnone.created, List.foldl_nil] at hconsistent ⊢
        refine ⟨hconsistent, hnone.created, fun out hout => ?_, ?_⟩
        · obtain hmem | hnew := List.mem_append.mp hout
          · have hne : out ≠ bundle.outputsAllocated :=
              Nat.ne_of_lt (hnone.consistent.listed.outputs out hmem)
            simpa [openOutput, hne] using Nat.lt_succ_of_lt (hnone.controls out hmem)
          · obtain rfl := List.mem_singleton.mp hnew
            simp [openOutput]
        · show Function.update bundle.dsp bundle.outputsAllocated (fun _ => .atStart) = _
          rw [hnone.dsp]
          exact Function.update_eq_self _ _
  | stopOutput output =>
    have hconsistent := hnone.consistent.stopOutput output
    simp only [HalCall.toCall, Bundle.call]
    unfold Bundle.stopOutput at hconsistent ⊢
    split at hconsistent
    next => exact hnone
    next outCtxt hfound =>
      have hout := (getOutput_eq_some hfound).1
      have hempty : (bundle.outputs outCtxt).effectsList = [] := by
        rw [List.eq_nil_iff_forall_not_mem]
        intro fx hfx
        have hcount := (hnone.consistent.placed fx).nodes outCtxt hout
        rw [if_neg (by simp [hnone.created]), List.count_eq_zero] at hcount
        exact hcount hfx
      simp only [hempty, List.foldl_nil] at hconsistent ⊢
      exact ⟨hconsistent, hnone.created, fun out hmem => hnone.controls out (List.mem_of_mem_erase hmem),
        hnone.dsp⟩

theorem NoEffects.halCalls (starts : List HalCall) :
    ∀ {bundle : Bundle}, bundle.NoEffects → ((starts.map HalCall.toCall).foldl Bundle.call bundle).NoEffects := by
  induction starts with
  | nil => exact id
  | cons call starts ih => exact fun hnone => ih (hnone.halCall call)

theorem noEffects_initOnce : initOnce.NoEffects :=
  ⟨consistent_initOnce, rfl, by simp [initOnce], rfl⟩

theorem find_descriptor (module : BoostModule) :
    EffectDescriptor.descriptors.find? (·.uuid = module.descriptor.uuid) = some module.descriptor := by
  cases module <;> decide

theorem NoEffects.create (hnone : bundle.NoEffects) (module : BoostModule) (ioId : AudioIoHandle) :
    Follows module bundle.contextsAllocated (bundle.call (.create module.descriptor.uuid ioId)) ∧
      Mirrored module bundle.contextsAllocated (bundle.call (.create module.descriptor.uuid ioId)) := by
  have hconsistent := hnone.consistent.effectLibCreate module.descriptor.uuid ioId
  simp only [Bundle.call, Bundle.effectLibCreate, find_descriptor] at hconsistent ⊢
  have hnew : Holds module bundle.contextsAllocated (bundle.newContext module.descriptor ioId) false
      BoostContext.allocated.init fun _ _ => .atStart := by
    refine ⟨?_, by simp [newContext, Bundle.setContext], hnone.dsp⟩
    cases module <;> simp [newContext, Bundle.setContext, BoostModule.descriptor, EffectImpl.allocated,
      EffectImpl.init]
  have htracks : BoostContext.allocated.init.Tracks false := ⟨by decide, rfl, rfl⟩
  have hkeeps := @attach_keepsOthers (bundle.newContext module.descriptor ioId) bundle.contextsAllocated
  have hattached := hnew.attach (hnone.consistent.newContext_loose module.descriptor ioId)
  have hcreated : ((bundle.newContext module.descriptor ioId).attach
      bundle.contextsAllocated).createdEffectsList = [bundle.contextsAllocated] := by
    rw [hkeeps.created]
    simp [newContext, hnone.created]
  have hmirrors : ∀ ctl, (attached module BoostContext.allocated.init (fun _ _ => .atStart) ctl).1.Tracks false ∧
      MirroredAt false (attached module BoostContext.allocated.init (fun _ _ => .atStart) ctl).1 module
        (attached module BoostContext.allocated.init (fun _ _ => .atStart) ctl).2 := by
    intro ctl
    cases ctl with
    | none => exact ⟨htracks, fun _ hctl => by cases hctl⟩
    | some ctl => exact ⟨module.start_tracks htracks ctl, (module.start_mirrors htracks ctl).mpr fun _ => rfl⟩
  refine ⟨.of_holds hconsistent hcreated (fun out hout => ?_) hattached (hmirrors _).1,
    (mirrored_iff hconsistent (by simp [hcreated]) hattached).mpr (hmirrors _).2⟩
  rw [hkeeps.control, hkeeps.allocated]
  exact hnone.controls out (hkeeps.active ▸ hout)

/-- From its creation on and after every call the module of each output to which the effect is attached mirrors
it, exactly where each call keeps the mirror. -/
theorem mirrored_iff_keepsMirror (module : BoostModule) (starts : List HalCall) (ioId : AudioIoHandle)
    (calls : List BoostCall) :
    (Mirrored module (effectOf starts) (withEffect module starts ioId) ∧
      RunMeets (boostCall (effectOf starts)) (fun bundle call =>
        Mirrored module (effectOf starts) (bundle.call (call.toCall (effectOf starts))))
        (withEffect module starts ioId) calls) ↔
      RunMeets (boostCall (effectOf starts)) (KeepsMirror module (effectOf starts))
        (withEffect module starts ioId) calls := by
  have hcreate := (noEffects_initOnce.halCalls starts).create module ioId
  rw [and_iff_right (show Mirrored module (effectOf starts) (withEffect module starts ioId) from hcreate.2)]
  refine runMeets_congr_of_meets
    (fun bundle => Follows module (effectOf starts) bundle ∧ Mirrored module (effectOf starts) bundle)
    ?_ ?_ _ hcreate (runSteps_total calls _)
  · rintro bundle call next hkeeps ⟨hfollows, hmirrored⟩ hnext
    obtain rfl := Option.some.inj hnext
    obtain ⟨hfollowsAfter, hiff⟩ := hfollows.boostCall hmirrored call
    exact ⟨hfollowsAfter, hiff.mpr hkeeps⟩
  · rintro bundle call next ⟨hfollows, hmirrored⟩ _
    exact (hfollows.boostCall hmirrored call).2

instance (module : BoostModule) (context : EffectHandle) (bundle : Bundle) :
    Decidable (Mirrored module context bundle) :=
  inferInstanceAs (Decidable (∀ out ∈ bundle.activeOutputsList, _ → _))

open AudioDevices in
/-- The strength is set before the output starts. The device is the speaker when the effect is enabled, and the
enable flag alone is sent when it changes to the headset. -/
theorem switchedOn_missesStrength :
    ¬ RunMeets (boostCall 0) (fun bundle call => Mirrored .bassBoost 0 (bundle.call (call.toCall 0)))
      (withEffect .bassBoost [] 7)
      [.setStrength 500 true, .hal (.startOutput 7 0 .found), .setDevice outSpeaker true, .enable true,
        .setDevice outWiredHeadset true] := by
  decide

/-- An output from which the effect is moved away still plays it when the effect comes back disabled. -/
example : ¬ RunMeets (boostCall 0) (fun bundle call => Mirrored .virtualizer 0 (bundle.call (call.toCall 0)))
    (withEffect .virtualizer [.startOutput 7 0 .found, .startOutput 8 1 .found] 7)
    [.setStrength 500 true, .enable true, .offload true 8 true, .disable true, .offload true 7 true] := by
  decide

end Bundle

end Nozomi
