import Mathlib.Data.List.Nodup
import Nozomi.Audio.VoiceProcessing.Sessions

/-!
# Enabling effects

Runs of the library on effects that were created and not released. Beside the library stand the effects that
may be used, those in whose session a configuration was accepted since they were created, and those that were
disabled since then.
-/

namespace Nozomi

/-- The library with what the calls asked for. -/
structure VoiceRun where
  library : VoiceProcessing
  live : List VoiceHandle
  configured : List VoiceHandle
  disabled : List VoiceHandle

namespace VoiceRun

def start : VoiceRun := ⟨.init, [], [], []⟩

variable (product : ProductDescriptors) (run : VoiceRun)

def newlyConfigured (handle : VoiceHandle) (command : VoiceCommand) (reply : Option Int) : List VoiceHandle :=
  match command with
  | .setConfig _ => if reply = some 0 then run.live.filter (·.session = handle.session) else []
  | _ => []

def newlyDisabled (handle : VoiceHandle) (command : VoiceCommand) (reply : Option Int) : List VoiceHandle :=
  if command = .disable ∧ reply = some 0 then [handle] else []

def step (call : VoiceCall) : Option VoiceRun :=
  match call with
  | .create uuid sessionId ioId callocSucceeds =>
    (run.library.libCreate product uuid sessionId ioId callocSucceeds).map fun (status, handle, library) =>
      { run with library := library, live := (if status = 0 then handle else none).toList ++ run.live }
  | .release handle =>
    if handle ∈ run.live then
      (run.library.libRelease handle).map fun (_, library) =>
        ⟨library, run.live.filter (· ≠ handle), run.configured.filter (· ≠ handle),
          run.disabled.filter (· ≠ handle)⟩
    else none
  | .command none command args =>
    (run.library.fxCommand none command args).map fun (_, _, library) => { run with library := library }
  | .command (some handle) command args =>
    if handle ∈ run.live then
      (run.library.fxCommand (some handle) command args).map fun (_, reply, library) =>
        ⟨library, run.live, run.newlyConfigured handle command reply ++ run.configured,
          newlyDisabled handle command reply ++ run.disabled⟩
    else none

/-- The call can be made: memory is left, and the effect was created and not released. -/
def Permits (run : VoiceRun) : VoiceCall → Prop
  | .create _ _ _ callocSucceeds => callocSucceeds = true
  | .release handle => handle ∈ run.live
  | .command self _ _ => ∀ handle ∈ self, handle ∈ run.live

structure Lawful (run : VoiceRun) : Prop where
  created : ∀ address ∈ run.library.sessionList, ∀ id < numId,
    (run.library.sessions address).createdMsk.getLsbD id = true ↔
      (run.library.sessions address).effects id ≠ voiceStateInit
  enabled : ∀ address ∈ run.library.sessionList, ∀ id < numId,
    (run.library.sessions address).enabledMsk.getLsbD id = true ↔
      (run.library.sessions address).effects id = voiceStateActive
  listed : ∀ address, address ∈ run.library.sessionList ↔ (run.library.sessions address).createdMsk ≠ 0
  ios : (run.library.sessionList.map fun address => (run.library.sessions address).io).Nodup
  proceeds : ∀ call, run.Permits call → (run.step product call).isSome
  configured : ∀ handle ∈ run.live, run.library.stateOf handle = voiceStateActive → handle ∈ run.configured

/-- An effect that was disabled is enabled only when its session was configured. -/
def EnabledInOrder (run : VoiceRun) : VoiceCall → Prop
  | .command (some handle) .enable args =>
    args.badReply = false → handle ∈ run.disabled → handle ∈ run.configured
  | _ => True

instance (run : VoiceRun) : ∀ call, Decidable (run.EnabledInOrder call)
  | .command (some handle) .enable args =>
    inferInstanceAs (Decidable (args.badReply = false → handle ∈ run.disabled → handle ∈ run.configured))
  | .create .. | .release _ | .command none _ _ => inferInstanceAs (Decidable True)
  | .command (some _) .init _ | .command (some _) (.setConfig _) _ | .command (some _) .getConfig _
  | .command (some _) .reset _ | .command (some _) .getParam _ | .command (some _) (.setParam _) _
  | .command (some _) .disable _ | .command (some _) .setDevice _ | .command (some _) .setInputDevice _
  | .command (some _) .setVolume _ | .command (some _) .setAudioMode _ | .command (some _) .other _ =>
    inferInstanceAs (Decidable True)

/-- What holds in every run: an effect that is configured or enabled was configured or disabled. -/
structure Sound (run : VoiceRun) : Prop where
  library : run.library.Sound run.live
  asked : ∀ handle ∈ run.live, voiceStateConfig ≤ run.library.stateOf handle →
    handle ∈ run.configured ∨ handle ∈ run.disabled
  disabled : ∀ handle ∈ run.disabled, handle ∈ run.live ∧ voiceStateConfig ≤ run.library.stateOf handle

def Configured (run : VoiceRun) : Prop :=
  ∀ handle ∈ run.live, run.library.stateOf handle = voiceStateActive → handle ∈ run.configured

variable {product : ProductDescriptors} {run next : VoiceRun}

/-! ### States behind a command -/

section

variable {old : Nat} {command : VoiceCommand} {args : VoiceCommandArgs} {reply : Option Int}

theorem config_le_stateAfter (hconfig : voiceStateConfig ≤ old) :
    voiceStateConfig ≤ VoiceProcessing.stateAfter old command args reply := by
  unfold VoiceProcessing.stateAfter
  cases command <;> dsimp only <;> first | exact hconfig | split <;> first | exact hconfig | decide

theorem of_config_le_stateAfter (hconfig : voiceStateConfig ≤ VoiceProcessing.stateAfter old command args reply) :
    voiceStateConfig ≤ old ∨ ((∃ config, command = .setConfig config) ∨ command = .disable) ∧ reply = some 0 := by
  unfold VoiceProcessing.stateAfter at hconfig
  cases command <;> dsimp only at hconfig
  case setConfig config =>
    split at hconfig
    next hset => exact .inr ⟨.inl ⟨config, rfl⟩, hset.1⟩
    next => exact .inl hconfig
  case disable =>
    split at hconfig
    next hset => exact .inr ⟨.inr rfl, hset⟩
    next => exact .inl hconfig
  case enable =>
    split at hconfig
    next henabled => exact .inl henabled.2
    next => exact .inl hconfig
  all_goals exact .inl hconfig

theorem of_stateAfter_eq_active (hactive : VoiceProcessing.stateAfter old command args reply = voiceStateActive) :
    old = voiceStateActive ∨ command = .enable ∧ args.badReply = false ∧ voiceStateConfig ≤ old := by
  unfold VoiceProcessing.stateAfter at hactive
  cases command <;> dsimp only at hactive
  case setConfig config =>
    split at hactive
    · exact absurd hactive (by decide)
    · exact .inl hactive
  case disable =>
    split at hactive
    · exact absurd hactive (by decide)
    · exact .inl hactive
  case enable =>
    split at hactive
    next henabled => exact .inr ⟨rfl, henabled⟩
    next => exact .inl hactive
  all_goals exact .inl hactive

end

/-! ### One call -/

theorem mem_newlyConfigured {handle other : VoiceHandle} {command : VoiceCommand} {reply : Option Int} :
    other ∈ run.newlyConfigured handle command reply ↔
      (∃ config, command = .setConfig config) ∧ reply = some 0 ∧ other ∈ run.live ∧ other.session = handle.session := by
  unfold newlyConfigured
  split
  · split <;> simp [*]
  next hother =>
    simp only [List.not_mem_nil, false_iff, not_and]
    rintro ⟨config, rfl⟩
    exact absurd rfl (hother config)

theorem mem_newlyDisabled {handle other : VoiceHandle} {command : VoiceCommand} {reply : Option Int} :
    other ∈ newlyDisabled handle command reply ↔ command = .disable ∧ reply = some 0 ∧ other = handle := by
  unfold newlyDisabled
  split <;> simp_all

def EnablesNone (call : VoiceCall) : Prop := ∀ handle args, call ≠ .command (some handle) .enable args

/-- What a call leaves: a new effect, one effect less, or another state of one effect. -/
inductive Outcome (run : VoiceRun) : VoiceCall → VoiceRun → Prop where
  | unchanged (call : VoiceCall) (hcall : EnablesNone call) : Outcome run call run
  | created (call : VoiceCall) (hcall : EnablesNone call) (created : VoiceHandle) (library : VoiceProcessing)
      (hnew : created ∉ run.live) (hlibrary : library.Sound (created :: run.live))
      (hstate : library.stateOf created = voiceStateCreated)
      (hothers : ∀ other ∈ run.live, library.stateOf other = run.library.stateOf other) :
      Outcome run call { run with library := library, live := created :: run.live }
  | released (call : VoiceCall) (hcall : EnablesNone call) (released : VoiceHandle) (library : VoiceProcessing)
      (hlibrary : library.Sound (run.live.filter (· ≠ released)))
      (hothers : ∀ other, other ≠ released → library.stateOf other = run.library.stateOf other) :
      Outcome run call ⟨library, run.live.filter (· ≠ released), run.configured.filter (· ≠ released),
        run.disabled.filter (· ≠ released)⟩
  | command (handle : VoiceHandle) (command : VoiceCommand) (args : VoiceCommandArgs) (reply : Option Int)
      (library : VoiceProcessing) (hlive : handle ∈ run.live) (hlibrary : library.Sound run.live)
      (hstates : ∀ other, library.stateOf other =
        if other = handle then VoiceProcessing.stateAfter (run.library.stateOf handle) command args reply
        else run.library.stateOf other) :
      Outcome run (.command (some handle) command args)
        ⟨library, run.live, run.newlyConfigured handle command reply ++ run.configured,
          newlyDisabled handle command reply ++ run.disabled⟩

variable {call : VoiceCall}

theorem Sound.outcome_of_permits (hproduct : ∀ desc ∈ product.descriptors, desc.type ∈ uuidToIdTable)
    (hsound : run.Sound) (hpermits : run.Permits call) :
    ∃ next, run.step product call = some next ∧ run.Outcome call next := by
  cases call with
  | create uuid sessionId ioId callocSucceeds =>
    obtain rfl : callocSucceeds = true := hpermits
    obtain ⟨status, handle, library, hresult, hnext⟩ :=
      hsound.library.libCreate hproduct uuid sessionId ioId
    unfold VoiceRun.step
    dsimp only
    rw [hresult]
    refine ⟨_, rfl, ?_⟩
    obtain ⟨hfailed, rfl⟩ | ⟨rfl, created, rfl, hnew, hlibrary, hstate, hothers⟩ := hnext
    · dsimp only
      rw [if_neg hfailed]
      exact .unchanged _ fun _ _ hsame => by cases hsame
    · exact .created _ (fun _ _ hsame => by cases hsame) created library hnew hlibrary hstate hothers
  | release handle =>
    have hlive : handle ∈ run.live := hpermits
    obtain ⟨library, hresult, hlibrary, hstates⟩ := hsound.library.libRelease hlive
    unfold VoiceRun.step
    dsimp only
    rw [if_pos hlive, hresult]
    exact ⟨_, rfl, .released _ (fun _ _ hsame => by cases hsame) handle library hlibrary hstates⟩
  | command self command args =>
    cases self with
    | none => exact ⟨run, rfl, .unchanged _ fun _ _ hsame => by cases hsame⟩
    | some handle =>
      have hlive : handle ∈ run.live := hpermits handle rfl
      obtain ⟨status, reply, library, hresult, hlibrary, hstates⟩ := hsound.library.fxCommand hlive command args
      unfold VoiceRun.step
      dsimp only
      rw [if_pos hlive, hresult]
      exact ⟨_, rfl, .command handle command args reply library hlive hlibrary hstates⟩

theorem step_of_calloc {uuid : EffectUuid} {sessionId ioId : Int} {callocSucceeds : Bool}
    (hstep : run.step product (.create uuid sessionId ioId callocSucceeds) = some next) :
    run.step product (.create uuid sessionId ioId true) = some next := by
  cases callocSucceeds with
  | true => exact hstep
  | false =>
    rw [← hstep]
    simp only [VoiceRun.step, VoiceProcessing.libCreate, VoiceProcessing.getSession] at hstep ⊢
    cases hdesc : product.getDescriptor uuid with
    | none => rfl
    | some desc =>
      rw [hdesc] at hstep
      cases hfound : run.library.sessionList.find? fun address => (run.library.sessions address).io = ioId with
      | some address => rfl
      | none =>
        rw [hfound] at hstep
        cases hstep

theorem Sound.outcome (hproduct : ∀ desc ∈ product.descriptors, desc.type ∈ uuidToIdTable) (hsound : run.Sound)
    (hstep : run.step product call = some next) : run.Outcome call next := by
  have hmade : ∀ made, run.Permits made → run.step product made = some next → run.Outcome made next := by
    intro made hpermits hmade
    obtain ⟨other, hother, houtcome⟩ := hsound.outcome_of_permits hproduct hpermits
    rw [hmade] at hother
    exact Option.some.inj hother ▸ houtcome
  cases call with
  | create uuid sessionId ioId callocSucceeds =>
    have hpermits : run.Permits (.create uuid sessionId ioId true) := rfl
    have hnone : EnablesNone (.create uuid sessionId ioId callocSucceeds) := fun _ _ hsame => by cases hsame
    cases hmade _ hpermits (step_of_calloc hstep) with
    | unchanged => exact .unchanged _ hnone
    | created _ _ created library hnew hlibrary hstate hothers =>
      exact .created _ hnone created library hnew hlibrary hstate hothers
    | released _ _ released library hlibrary hothers => exact .released _ hnone released library hlibrary hothers
  | release handle =>
    refine hmade _ ?_ hstep
    by_contra hnot
    have hrefused : handle ∉ run.live := hnot
    unfold VoiceRun.step at hstep
    dsimp only at hstep
    rw [if_neg hrefused] at hstep
    cases hstep
  | command self command args =>
    refine hmade _ ?_ hstep
    rintro handle rfl
    by_contra hnot
    unfold VoiceRun.step at hstep
    dsimp only at hstep
    rw [if_neg hnot] at hstep
    cases hstep

theorem Sound.start : VoiceRun.start.Sound :=
  ⟨.init, fun _ hlive => absurd hlive List.not_mem_nil, fun _ hdisabled => absurd hdisabled List.not_mem_nil⟩

theorem Configured.start : VoiceRun.start.Configured := fun _ hlive => absurd hlive List.not_mem_nil

theorem Outcome.sound (houtcome : run.Outcome call next) (hsound : run.Sound) : next.Sound := by
  obtain ⟨hlibrary, hasked, hdisabled⟩ := hsound
  cases houtcome with
  | unchanged => exact ⟨hlibrary, hasked, hdisabled⟩
  | created _ _ created library hnew hcreated hstate hothers =>
    refine ⟨hcreated, fun handle hlive hconfig => ?_, fun handle hmem => ?_⟩
    · obtain rfl | hold := List.mem_cons.mp hlive
      · rw [hstate] at hconfig
        exact absurd hconfig (by decide)
      · exact hasked handle hold (hothers handle hold ▸ hconfig)
    · obtain ⟨hlive, hconfig⟩ := hdisabled handle hmem
      exact ⟨List.mem_cons_of_mem _ hlive, (hothers handle hlive).symm ▸ hconfig⟩
  | released _ _ released library hreleased hothers =>
    refine ⟨hreleased, fun handle hlive hconfig => ?_, fun handle hmem => ?_⟩
    · obtain ⟨hold, hne⟩ := List.mem_filter.mp hlive
      have hstate := hothers handle (of_decide_eq_true hne)
      obtain hconfigured | hoff := hasked handle hold (hstate ▸ hconfig)
      · exact .inl (List.mem_filter.mpr ⟨hconfigured, hne⟩)
      · exact .inr (List.mem_filter.mpr ⟨hoff, hne⟩)
    · obtain ⟨hold, hne⟩ := List.mem_filter.mp hmem
      obtain ⟨hlive, hconfig⟩ := hdisabled handle hold
      exact ⟨List.mem_filter.mpr ⟨hlive, hne⟩, (hothers handle (of_decide_eq_true hne)).symm ▸ hconfig⟩
  | command handle command args reply library hlive hafter hstates =>
    refine ⟨hafter, fun other hother hconfig => ?_, fun other hmem => ?_⟩
    · have hbefore (hold : voiceStateConfig ≤ run.library.stateOf other) :
          other ∈ run.newlyConfigured handle command reply ++ run.configured ∨
            other ∈ newlyDisabled handle command reply ++ run.disabled :=
        (hasked other hother hold).imp (List.mem_append_right _) (List.mem_append_right _)
      have hstate : voiceStateConfig ≤ library.stateOf other := hconfig
      rw [hstates] at hstate
      split at hstate
      next hsame =>
        obtain hold | ⟨hset | hset, hreply⟩ := of_config_le_stateAfter hstate
        · exact hbefore (hsame ▸ hold)
        · exact .inl (List.mem_append_left _ (mem_newlyConfigured.mpr ⟨hset, hreply, hother, by rw [hsame]⟩))
        · exact .inr (List.mem_append_left _ (mem_newlyDisabled.mpr ⟨hset, hreply, hsame⟩))
      next => exact hbefore hstate
    · have hbefore : other ∈ run.live ∧ (voiceStateConfig ≤ run.library.stateOf other ∨
          command = .disable ∧ reply = some 0 ∧ other = handle) := by
        obtain hnew | hold := List.mem_append.mp hmem
        · have hset := mem_newlyDisabled.mp hnew
          exact ⟨hset.2.2 ▸ hlive, .inr hset⟩
        · exact ⟨(hdisabled other hold).1, .inl (hdisabled other hold).2⟩
      refine ⟨hbefore.1, ?_⟩
      show voiceStateConfig ≤ library.stateOf other
      rw [hstates]
      split
      next hsame =>
        obtain hold | ⟨rfl, rfl, -⟩ := hbefore.2
        · exact config_le_stateAfter (hsame ▸ hold)
        · exact Nat.le_refl _
      next hne =>
        obtain hold | ⟨-, -, hsame⟩ := hbefore.2
        · exact hold
        · exact absurd hsame hne

theorem Outcome.configured_iff (houtcome : run.Outcome call next) (hsound : run.Sound)
    (hconfigured : run.Configured) : next.Configured ↔ run.EnabledInOrder call := by
  have hnone : ∀ other, EnablesNone other → run.EnabledInOrder other := by
    intro other hother
    unfold EnabledInOrder
    split
    next handle args => exact absurd rfl (hother handle args)
    next => trivial
  cases houtcome with
  | unchanged _ hcall => exact iff_of_true hconfigured (hnone _ hcall)
  | created _ hcall created library hnew hcreated hstate hothers =>
    refine iff_of_true (fun handle hlive hactive => ?_) (hnone _ hcall)
    obtain rfl | hold := List.mem_cons.mp hlive
    · rw [hstate] at hactive
      exact absurd hactive (by decide)
    · exact hconfigured handle hold (hothers handle hold ▸ hactive)
  | released _ hcall released library hreleased hothers =>
    refine iff_of_true (fun handle hlive hactive => ?_) (hnone _ hcall)
    obtain ⟨hold, hne⟩ := List.mem_filter.mp hlive
    exact List.mem_filter.mpr ⟨hconfigured handle hold (hothers handle (of_decide_eq_true hne) ▸ hactive), hne⟩
  | command handle command args reply library hlive hafter hstates =>
    constructor
    · intro hnext
      unfold EnabledInOrder
      split
      next other otherArgs hsame =>
        obtain ⟨hhandle, rfl, rfl⟩ := by simpa using hsame
        intro hgood hoff
        have hconfig := (hsound.disabled other hoff).2
        have hactive : library.stateOf other = voiceStateActive := by
          rw [hstates, if_pos hhandle.symm, hhandle]
          exact if_pos ⟨hgood, hconfig⟩
        have hmem := hnext other (hsound.disabled other hoff).1 hactive
        simpa [newlyConfigured] using hmem
      next => trivial
    · intro horder other hother hactive
      have hbefore : run.library.stateOf other = voiceStateActive →
          other ∈ run.newlyConfigured handle command reply ++ run.configured :=
        fun hold => List.mem_append_right _ (hconfigured other hother hold)
      have hstate : library.stateOf other = voiceStateActive := hactive
      rw [hstates] at hstate
      split at hstate
      next hsame =>
        obtain hold | ⟨rfl, hgood, hconfig⟩ := of_stateAfter_eq_active hstate
        · exact hbefore (hsame ▸ hold)
        · obtain hmem | hoff := hsound.asked other hother (hsame ▸ hconfig)
          · exact List.mem_append_right _ hmem
          · exact List.mem_append_right _ (hsame ▸ horder hgood (hsame ▸ hoff))
      next => exact hbefore hstate

/-! ### Runs -/

theorem Sound.lawful_iff (hproduct : ∀ desc ∈ product.descriptors, desc.type ∈ uuidToIdTable)
    (hsound : run.Sound) : run.Lawful product ↔ run.Configured := by
  refine ⟨fun hlawful => hlawful.configured, fun hconfigured => ?_⟩
  refine ⟨fun address _ => (hsound.library.session address).created,
    fun address _ => (hsound.library.session address).enabled, hsound.library.listed, ?_, fun call hpermits => ?_,
    hconfigured⟩
  · exact List.Nodup.map_on hsound.library.ios hsound.library.nodup
  · obtain ⟨next, hnext, -⟩ := hsound.outcome_of_permits hproduct hpermits
    rw [hnext]
    rfl

/-- Every call leaves the library lawful, exactly when no effect is disabled and enabled before its session is
configured. -/
theorem lawful_iff_enabledInOrder (product : ProductDescriptors)
    (hproduct : ∀ desc ∈ product.descriptors, desc.type ∈ uuidToIdTable) (calls : List VoiceCall)
    (last : VoiceRun) (hrun : runSteps (step product) start calls = some last) :
    RunMeets (step product) (fun run call => ∀ next ∈ run.step product call, next.Lawful product) start calls ↔
      RunMeets (step product) EnabledInOrder start calls := by
  refine runMeets_congr_of_meets (fun run => run.Sound ∧ run.Configured) ?_ ?_ start ⟨Sound.start, Configured.start⟩
    hrun
  · rintro run call next horder ⟨hsound, hconfigured⟩ hstep
    have houtcome := hsound.outcome hproduct hstep
    exact ⟨houtcome.sound hsound, (houtcome.configured_iff hsound hconfigured).mpr horder⟩
  · rintro run call next ⟨hsound, hconfigured⟩ hstep
    have houtcome := hsound.outcome hproduct hstep
    rw [← houtcome.configured_iff hsound hconfigured, ← (houtcome.sound hsound).lawful_iff hproduct]
    simp [hstep]

def bothEffects : List VoiceCall :=
  let config : BufferConfig := ⟨16000, channelInMono, formatPcm16Bit, .read⟩
  let args : VoiceCommandArgs := ⟨voiceConfigSize, true, 4, true⟩
  [.create qcomDefaultAecDescriptor.uuid 1 5 true, .create qcomDefaultNsDescriptor.uuid 1 5 true,
    .command (some ⟨0, aecId⟩) (.setConfig (some ⟨config, config⟩)) args, .command (some ⟨0, aecId⟩) .enable args,
    .command (some ⟨0, nsId⟩) .disable args, .command (some ⟨0, nsId⟩) .enable args, .release ⟨0, aecId⟩,
    .release ⟨0, nsId⟩]

theorem bothEffects_isSome : (runSteps (step ⟨none, none⟩) start bothEffects).isSome := by decide

theorem bothEffects_lawful :
    RunMeets (step ⟨none, none⟩) (fun run call => ∀ next ∈ run.step ⟨none, none⟩ call, next.Lawful ⟨none, none⟩)
      start bothEffects :=
  (lawful_iff_enabledInOrder ⟨none, none⟩ (by decide) bothEffects _
    (Option.some_get bothEffects_isSome).symm).mpr (by decide)

def disabledFirst : List VoiceCall :=
  let args : VoiceCommandArgs := ⟨0, false, 4, true⟩
  [.create qcomDefaultAecDescriptor.uuid 1 5 true, .command (some ⟨0, aecId⟩) .disable args,
    .command (some ⟨0, aecId⟩) .enable args]

theorem disabledFirst_isSome : (runSteps (step ⟨none, none⟩) start disabledFirst).isSome := by decide

theorem disabledFirst_notLawful :
    ∃ last, runSteps (step ⟨none, none⟩) start disabledFirst = some last ∧ ⟨0, aecId⟩ ∈ last.live ∧
      last.library.stateOf ⟨0, aecId⟩ = voiceStateActive ∧ last.configured = [] ∧ ¬ last.Lawful ⟨none, none⟩ := by
  have hactive : ((runSteps (step ⟨none, none⟩) start disabledFirst).get disabledFirst_isSome).library.stateOf
      ⟨0, aecId⟩ = voiceStateActive := by decide
  refine ⟨_, (Option.some_get disabledFirst_isSome).symm, by decide, hactive, by decide, fun hlawful => ?_⟩
  exact absurd (hlawful.configured ⟨0, aecId⟩ (by decide) hactive) (by decide)

end VoiceRun

end Nozomi
