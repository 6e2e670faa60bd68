import Nozomi.Audio.Frames

/-!
# What refers to streams

The entries of the usecase list, the outputs that the device remembers, and the offload callback threads.
-/

namespace Nozomi

open AudioDevices

namespace AudioHw

/-! ### Opening and closing an output -/

section

variable (adev : AudioHw)

def Succeeds (request : OutputRequest) (usecase : UsecaseId) : Prop :=
  (request.flags.primary = true → adev.primaryOutput = none) ∧ usecase ∉ adev.ids

instance (request : OutputRequest) (usecase : UsecaseId) : Decidable (adev.Succeeds request usecase) :=
  inferInstanceAs (Decidable (_ ∧ _))

theorem finishOpen_eq (out : Nat) (usecase : UsecaseId) :
    adev.finishOpen out usecase =
      { adev with
        openOutputs := if usecase ∉ adev.ids then out :: adev.openOutputs else adev.openOutputs } := by
  rw [finishOpen]
  by_cases hid : usecase ∈ adev.ids
  · rw [if_pos (AudioDevice.isSome_getUsecaseFromList.mpr hid), if_neg (not_not.mpr hid)]
  · rw [if_neg (mt AudioDevice.isSome_getUsecaseFromList.mp hid), if_pos hid]

theorem initOutput_eq (out : Nat) (stream : StreamOut) :
    adev.initOutput out stream =
      { adev with
        outputs := Function.update adev.outputs out stream
        voiceTxOutput :=
          if stream.usecase = .audioPlaybackAfeProxy then some out else adev.voiceTxOutput
        offloadThreads :=
          if stream.usecase = .audioPlaybackOffload then out :: adev.offloadThreads
          else adev.offloadThreads } := by
  rw [initOutput]
  by_cases hoffload : stream.usecase = .audioPlaybackOffload
  · simp [hoffload, AudioDevice.setOutput]
  · by_cases hproxy : stream.usecase = .audioPlaybackAfeProxy
    · simp [hproxy, AudioDevice.setOutput]
    · simp [hoffload, hproxy, AudioDevice.setOutput]

theorem adevOpenOutputStream_eq {request : OutputRequest} {stream : StreamOut}
    (hstream : request.stream = some stream) (out : Nat) :
    adev.adevOpenOutputStream out request =
      { adev with
        outputs := Function.update adev.outputs out stream
        voiceTxOutput :=
          if stream.usecase = .audioPlaybackAfeProxy then some out else adev.voiceTxOutput
        primaryOutput :=
          if request.flags.primary = true ∧ adev.primaryOutput = none then some out
          else adev.primaryOutput
        offloadThreads :=
          if stream.usecase = .audioPlaybackOffload then out :: adev.offloadThreads
          else adev.offloadThreads
        openOutputs :=
          if adev.Succeeds request stream.usecase then out :: adev.openOutputs else adev.openOutputs } := by
  rw [adevOpenOutputStream, hstream]
  dsimp only
  rw [initOutput_eq]
  by_cases hprimary : request.flags.primary = true
  · rw [if_pos hprimary]
    by_cases hnone : adev.primaryOutput = none
    · rw [if_pos hnone, finishOpen_eq]
      simp [Succeeds, hprimary, hnone, AudioDevice.ids]
    · rw [if_neg hnone]
      simp [Succeeds, hprimary, hnone]
  · rw [if_neg hprimary, finishOpen_eq]
    simp [Succeeds, hprimary, AudioDevice.ids]

theorem adevOpenOutputStream_refused {request : OutputRequest} (hstream : request.stream = none)
    (out : Nat) : adev.adevOpenOutputStream out request = adev := by
  rw [adevOpenOutputStream, hstream]

theorem adevCloseOutputStream_eq (out : Nat) :
    adev.adevCloseOutputStream out =
      { adev with
        toAudioDevice :=
          { adev.outStandby out with
            voiceTxOutput := if adev.voiceTxOutput = some out then none else adev.voiceTxOutput }
        offloadThreads :=
          if (adev.outputs out).usecase = .audioPlaybackOffload then adev.offloadThreads.erase out
          else adev.offloadThreads
        openOutputs := adev.openOutputs.erase out } := by
  have hkeeps := @AudioDevice.KeepsCall.outStandby adev.toAudioDevice out
  rw [← hkeeps.usecases out, ← hkeeps.voiceTxOutput, adevCloseOutputStream]
  dsimp only
  by_cases hoffload : ((adev.outStandby out).outputs out).usecase = .audioPlaybackOffload <;>
    by_cases hvoice : (adev.outStandby out).voiceTxOutput = some out <;> simp [hoffload, hvoice]

end

/-! ### References to open outputs -/

/-- The outputs that the device remembers are open, and those of the threads. -/
structure RefersToOpen (adev : AudioHw) : Prop where
  primaryOutput : ∀ out ∈ adev.primaryOutput, out ∈ adev.openOutputs
  voiceTxOutput : ∀ out ∈ adev.voiceTxOutput, out ∈ adev.openOutputs
  currentCallOutput : ∀ out ∈ adev.currentCallOutput, out ∈ adev.openOutputs
  offloadThreads : ∀ out ∈ adev.offloadThreads, out ∈ adev.openOutputs

/-- An output is open once, and so is its thread, which only an offloaded one has. -/
structure Refers (adev : AudioHw) : Prop extends RefersToOpen adev where
  distinct : adev.openOutputs.Nodup
  threads : adev.offloadThreads.Nodup
  offloaded : ∀ out ∈ adev.offloadThreads, (adev.outputs out).usecase = .audioPlaybackOffload

/-- The condition on a call: a request that puts its output somewhere else is not refused after that, and an
output that is closed is neither the primary one nor that of the call. -/
def KeepsReferences (adev : AudioHw) : ClientCall → Prop
  | .output (.adevOpenOutputStream _ request) => ∀ stream ∈ request.stream,
    (stream.usecase = .audioPlaybackOffload ∨ stream.usecase = .audioPlaybackAfeProxy ∨
      request.flags.primary = true ∧ adev.primaryOutput = none) → adev.Succeeds request stream.usecase
  | .output (.adevCloseOutputStream out) =>
    adev.primaryOutput ≠ some out ∧ adev.currentCallOutput ≠ some out
  | .output (.outWrite _ _ _) | .output (.outStandby _) | .outSetParameters _ _ _ | .adevSetMode _
  | .adevOpenInputStream _ _ | .inRead _ _ _ | .inStandby _ | .adevCloseInputStream _ => True

section

variable {adev next : AudioHw} {out : Nat}

theorem Refers.of_call {device : AudioDevice} (hrefers : adev.Refers)
    (hprimary : device.primaryOutput = adev.primaryOutput)
    (hvoice : device.voiceTxOutput = adev.voiceTxOutput)
    (hcurrent : ∀ other ∈ device.currentCallOutput, other ∈ adev.openOutputs)
    (husecases : ∀ out, (device.outputs out).usecase = (adev.outputs out).usecase) :
    ({ adev with toAudioDevice := device } : AudioHw).Refers where
  primaryOutput := by
    rw [hprimary]
    exact hrefers.primaryOutput
  voiceTxOutput := by
    rw [hvoice]
    exact hrefers.voiceTxOutput
  currentCallOutput := hcurrent
  offloadThreads := hrefers.offloadThreads
  distinct := hrefers.distinct
  threads := hrefers.threads
  offloaded := fun out hout => (husecases out).trans (hrefers.offloaded out hout)

theorem Refers.of_keepsCall {device : AudioDevice} (hrefers : adev.Refers)
    (hkeeps : adev.toAudioDevice.KeepsCall device) :
    ({ adev with toAudioDevice := device } : AudioHw).Refers := by
  apply hrefers.of_call hkeeps.primaryOutput hkeeps.voiceTxOutput _ hkeeps.usecases
  rw [hkeeps.currentCallOutput]
  exact hrefers.currentCallOutput

theorem openRefers_iff {request : OutputRequest} {stream : StreamOut}
    (hstream : request.stream = some stream) (hrefers : adev.Refers) (hout : out ∉ adev.openOutputs) :
    (adev.adevOpenOutputStream out request).RefersToOpen ↔
      ((stream.usecase = .audioPlaybackOffload ∨ stream.usecase = .audioPlaybackAfeProxy ∨
        request.flags.primary = true ∧ adev.primaryOutput = none) →
          adev.Succeeds request stream.usecase) := by
  rw [adevOpenOutputStream_eq adev hstream out]
  constructor
  · intro hafter hput
    by_contra hfails
    have hclosed : ∀ {reference : Nat}, reference = out →
        reference ∉ (if adev.Succeeds request stream.usecase then out :: adev.openOutputs
          else adev.openOutputs) := by
      intro reference hreference
      rw [if_neg hfails, hreference]
      exact hout
    rcases hput with hoffload | hproxy | hprimary
    · refine hclosed rfl (hafter.offloadThreads out ?_)
      dsimp only
      rw [if_pos hoffload]
      exact List.mem_cons_self
    · refine hclosed rfl (hafter.voiceTxOutput out ?_)
      dsimp only
      rw [if_pos hproxy]
      rfl
    · refine hclosed rfl (hafter.primaryOutput out ?_)
      dsimp only
      rw [if_pos hprimary]
      rfl
  · intro hcondition
    have hold : ∀ other ∈ adev.openOutputs,
        other ∈ (if adev.Succeeds request stream.usecase then out :: adev.openOutputs
          else adev.openOutputs) := by
      intro other hother
      split
      · exact List.mem_cons_of_mem _ hother
      · exact hother
    have hnew : (stream.usecase = .audioPlaybackOffload ∨ stream.usecase = .audioPlaybackAfeProxy ∨
        request.flags.primary = true ∧ adev.primaryOutput = none) →
          out ∈ (if adev.Succeeds request stream.usecase then out :: adev.openOutputs
            else adev.openOutputs) := by
      intro hput
      rw [if_pos (hcondition hput)]
      exact List.mem_cons_self
    constructor
    · dsimp only
      split
      · rename_i hprimary
        rintro other ⟨⟩
        exact hnew (.inr (.inr hprimary))
      · exact fun other hother => hold other (hrefers.primaryOutput other hother)
    · dsimp only
      split
      · rename_i hproxy
        rintro other ⟨⟩
        exact hnew (.inr (.inl hproxy))
      · exact fun other hother => hold other (hrefers.voiceTxOutput other hother)
    · exact fun other hother => hold other (hrefers.currentCallOutput other hother)
    · dsimp only
      split
      · rename_i hoffload
        intro other hother
        rcases List.mem_cons.mp hother with rfl | hother
        · exact hnew (.inl hoffload)
        · exact hold other (hrefers.offloadThreads other hother)
      · exact fun other hother => hold other (hrefers.offloadThreads other hother)

theorem Refers.adevOpenOutputStream {request : OutputRequest} (hrefers : adev.Refers)
    (hout : out ∉ adev.openOutputs) (hafter : (adev.adevOpenOutputStream out request).RefersToOpen) :
    (adev.adevOpenOutputStream out request).Refers := by
  cases hstream : request.stream with
  | none =>
    rw [adevOpenOutputStream_refused adev hstream]
    exact hrefers
  | some stream =>
    have hthread : out ∉ adev.offloadThreads := fun hmem => hout (hrefers.offloadThreads out hmem)
    rw [adevOpenOutputStream_eq adev hstream out] at hafter ⊢
    refine { hafter with distinct := ?_, threads := ?_, offloaded := ?_ }
    · dsimp only
      split
      · exact List.nodup_cons.mpr ⟨hout, hrefers.distinct⟩
      · exact hrefers.distinct
    · dsimp only
      split
      · exact List.nodup_cons.mpr ⟨hthread, hrefers.threads⟩
      · exact hrefers.threads
    · intro other hother
      show (Function.update adev.outputs out stream other).usecase = .audioPlaybackOffload
      by_cases hsame : other = out
      · subst hsame
        rw [Function.update_self]
        by_contra hoffload
        dsimp only at hother
        rw [if_neg hoffload] at hother
        exact hthread hother
      · rw [Function.update_of_ne hsame]
        apply hrefers.offloaded other
        dsimp only at hother
        split at hother
        · exact (List.mem_cons.mp hother).resolve_left hsame
        · exact hother

theorem closeRefers_iff (hrefers : adev.Refers) (hout : out ∈ adev.openOutputs) :
    (adev.adevCloseOutputStream out).RefersToOpen ↔
      adev.primaryOutput ≠ some out ∧ adev.currentCallOutput ≠ some out := by
  have hkeeps := @AudioDevice.KeepsCall.outStandby adev.toAudioDevice out
  have hclosed : out ∉ adev.openOutputs.erase out := hrefers.distinct.not_mem_erase
  have hkept : ∀ {reference : Nat}, reference ∈ adev.openOutputs → reference ≠ out →
      reference ∈ adev.openOutputs.erase out :=
    fun hmem hne => (List.mem_erase_of_ne hne).mpr hmem
  rw [adevCloseOutputStream_eq adev out]
  constructor
  · intro hafter
    refine ⟨fun hprimary => hclosed (hafter.primaryOutput out ?_),
      fun hcall => hclosed (hafter.currentCallOutput out ?_)⟩
    · show out ∈ (adev.outStandby out).primaryOutput
      rw [hkeeps.primaryOutput, hprimary]
      rfl
    · show out ∈ (adev.outStandby out).currentCallOutput
      rw [hkeeps.currentCallOutput, hcall]
      rfl
  · rintro ⟨hprimary, hcall⟩
    constructor
    · intro other hother
      have hmem : other ∈ adev.primaryOutput := by
        rw [← hkeeps.primaryOutput]
        exact hother
      apply hkept (hrefers.primaryOutput other hmem)
      rintro rfl
      exact hprimary hmem
    · intro other hother
      dsimp only at hother
      split at hother
      · exact nomatch hother
      · rename_i hvoice
        apply hkept (hrefers.voiceTxOutput other hother)
        rintro rfl
        exact hvoice hother
    · intro other hother
      have hmem : other ∈ adev.currentCallOutput := by
        rw [← hkeeps.currentCallOutput]
        exact hother
      apply hkept (hrefers.currentCallOutput other hmem)
      rintro rfl
      exact hcall hmem
    · intro other hother
      dsimp only at hother
      split at hother
      · obtain ⟨hne, hmem⟩ := hrefers.threads.mem_erase_iff.mp hother
        exact hkept (hrefers.offloadThreads other hmem) hne
      · rename_i hoffload
        apply hkept (hrefers.offloadThreads other hother)
        rintro rfl
        exact hoffload (hrefers.offloaded other hother)

theorem Refers.adevCloseOutputStream (hrefers : adev.Refers)
    (hafter : (adev.adevCloseOutputStream out).RefersToOpen) :
    (adev.adevCloseOutputStream out).Refers := by
  have hkeeps := @AudioDevice.KeepsCall.outStandby adev.toAudioDevice out
  rw [adevCloseOutputStream_eq adev out] at hafter ⊢
  refine { hafter with distinct := hrefers.distinct.erase out, threads := ?_, offloaded := ?_ }
  · dsimp only
    split
    · exact hrefers.threads.erase out
    · exact hrefers.threads
  · intro other hother
    apply (hkeeps.usecases other).trans
    apply hrefers.offloaded other
    dsimp only at hother
    split at hother
    · exact List.mem_of_mem_erase hother
    · exact hother

theorem Refers.setOpenInputs (hrefers : adev.Refers) (inputs : List Nat) :
    ({ adev with openInputs := inputs } : AudioHw).Refers :=
  ⟨⟨hrefers.primaryOutput, hrefers.voiceTxOutput, hrefers.currentCallOutput, hrefers.offloadThreads⟩,
    hrefers.distinct, hrefers.threads, hrefers.offloaded⟩

theorem Refers.outSetParameters {val : AudioDevices} {opened : Bool} {device : AudioDevice}
    (hrefers : adev.Refers) (hout : out ∈ adev.openOutputs)
    (hnext : adev.toAudioDevice.outSetParameters out val opened = some device) :
    ({ adev with toAudioDevice := device } : AudioHw).Refers := by
  rw [AudioDevice.outSetParameters] at hnext
  split at hnext
  · have hkeeps :=
      @AudioDevice.KeepsCall.routeOutput adev.toAudioDevice out (adev.routedDevices out val)
    have hrouted := hrefers.of_keepsCall hkeeps
    by_cases hstarts : (adev.routeOutput out (adev.routedDevices out val)).StartsCall out
    · rw [AudioDevice.routeCall_of_starts hstarts] at hnext
      obtain ⟨hremembers, -, -⟩ := AudioDevice.voiceStartUsecase_spec hnext
      apply hrouted.of_call hremembers.primaryOutput hremembers.voiceTxOutput _ hremembers.usecases
      rw [hremembers.currentCallOutput]
      rintro other ⟨⟩
      exact hout
    · obtain ⟨current, hcurrent, hcall⟩ := AudioDevice.routeCall_of_not hstarts hnext
      apply hrouted.of_call hcall.primaryOutput hcall.voiceTxOutput _ hcall.usecases
      rw [hcall.currentCallOutput]
      rcases hcurrent with rfl | rfl
      · exact hrouted.currentCallOutput
      · rintro other ⟨⟩
        exact hout
  · obtain rfl := Option.some.inj hnext
    exact hrefers

theorem Refers.adevSetMode (hrefers : adev.Refers) (mode : AudioMode) :
    ({ adev with toAudioDevice := adev.toAudioDevice.adevSetMode mode } : AudioHw).Refers := by
  rw [AudioDevice.adevSetMode]
  split
  · dsimp only
    split
    · have hremembers := @AudioDevice.Remembers.voiceStopUsecase
        { adev.toAudioDevice with mode := mode, inCall := false } .voiceCall
      exact hrefers.of_call hremembers.primaryOutput hremembers.voiceTxOutput
        (fun _ hother => nomatch hother) hremembers.usecases
    · exact hrefers.of_call rfl rfl hrefers.currentCallOutput fun _ => rfl
  · exact hrefers

theorem clientCall_refers_iff {call : ClientCall} (hrefers : adev.Refers)
    (hnext : adev.clientCall call = some next) :
    (next.RefersToOpen ↔ adev.KeepsReferences call) ∧ (next.RefersToOpen → next.Refers) := by
  have hkept : next.Refers → adev.KeepsReferences call →
      (next.RefersToOpen ↔ adev.KeepsReferences call) ∧ (next.RefersToOpen → next.Refers) :=
    fun hafter hkeeps => ⟨⟨fun _ => hkeeps, fun _ => hafter.toRefersToOpen⟩, fun _ => hafter⟩
  cases call with
  | output call =>
    cases call with
    | adevOpenOutputStream out request =>
      rw [clientCall, outputCall] at hnext
      split at hnext
      · exact nomatch hnext
      rename_i hout
      obtain rfl := Option.some.inj hnext
      refine ⟨?_, hrefers.adevOpenOutputStream hout⟩
      cases hstream : request.stream with
      | none =>
        rw [adevOpenOutputStream_refused adev hstream]
        exact ⟨fun _ => by simp [KeepsReferences, hstream], fun _ => hrefers.toRefersToOpen⟩
      | some stream =>
        rw [openRefers_iff hstream hrefers hout]
        simp [KeepsReferences, hstream]
    | outWrite out opened written =>
      rw [clientCall, outputCall] at hnext
      split at hnext
      · obtain rfl := Option.some.inj hnext
        apply hkept _ trivial
        have hwritten := hrefers.of_keepsCall (@AudioDevice.KeepsCall.outWrite _ out opened)
        rw [outWriteSamples]
        dsimp only
        split
        · exact hwritten.of_keepsCall (AudioDevice.KeepsCall.outStandby out)
        · exact hwritten
      · exact nomatch hnext
    | outStandby out =>
      rw [clientCall, outputCall] at hnext
      split at hnext
      · obtain rfl := Option.some.inj hnext
        exact hkept (hrefers.of_keepsCall (AudioDevice.KeepsCall.outStandby out)) trivial
      · exact nomatch hnext
    | adevCloseOutputStream out =>
      rw [clientCall, outputCall] at hnext
      split at hnext
      · rename_i hout
        obtain rfl := Option.some.inj hnext
        exact ⟨closeRefers_iff hrefers hout, hrefers.adevCloseOutputStream⟩
      · exact nomatch hnext
  | outSetParameters out val opened =>
    rw [clientCall] at hnext
    split at hnext
    · rename_i hout
      obtain ⟨device, hdevice, rfl⟩ := Option.map_eq_some_iff.mp hnext
      exact hkept (hrefers.outSetParameters hout hdevice) trivial
    · exact nomatch hnext
  | adevSetMode mode =>
    obtain rfl := Option.some.inj hnext
    exact hkept (hrefers.adevSetMode mode) trivial
  | adevOpenInputStream input request =>
    rw [clientCall] at hnext
    split at hnext
    · exact nomatch hnext
    · obtain rfl := Option.some.inj hnext
      apply hkept _ trivial
      rw [AudioHw.adevOpenInputStream]
      split
      · exact hrefers
      · exact (hrefers.of_keepsCall (AudioDevice.KeepsCall.setInput input _)).setOpenInputs _
  | inRead input opened taken =>
    rw [clientCall] at hnext
    split at hnext
    · obtain rfl := Option.some.inj hnext
      apply hkept _ trivial
      have hread := hrefers.of_keepsCall (@AudioDevice.KeepsCall.inRead _ input opened)
      rw [inReadSamples]
      dsimp only
      split
      · exact hread.of_keepsCall (AudioDevice.KeepsCall.inStandby input)
      · exact hread
    · exact nomatch hnext
  | inStandby input =>
    rw [clientCall] at hnext
    split at hnext
    · obtain rfl := Option.some.inj hnext
      exact hkept (hrefers.of_keepsCall (AudioDevice.KeepsCall.inStandby input)) trivial
    · exact nomatch hnext
  | adevCloseInputStream input =>
    rw [clientCall] at hnext
    split at hnext
    · obtain rfl := Option.some.inj hnext
      have hasleep := hrefers.of_keepsCall (AudioDevice.KeepsCall.inStandby input)
      exact hkept (hasleep.setOpenInputs _) trivial
    · exact nomatch hnext

theorem start_refers (platform : PlatformData) (outputs : Nat → StreamOut) (inputs : Nat → StreamIn) :
    (start platform outputs inputs).Refers := by
  refine ⟨⟨?_, ?_, ?_, ?_⟩, List.nodup_nil, List.nodup_nil, ?_⟩ <;>
    · intro out hout
      simp [start, AudioDevice.idle] at hout

/-- The references are to open outputs after each call of a run, exactly where each call meets the
condition. -/
theorem refersToOpen_iff (platform : PlatformData) (outputs : Nat → StreamOut) (inputs : Nat → StreamIn)
    (calls : List ClientCall) (last : AudioHw)
    (hrun : runSteps clientCall (start platform outputs inputs) calls = some last) :
    RunMeets clientCall (fun adev call => ∀ next, adev.clientCall call = some next → next.RefersToOpen)
        (start platform outputs inputs) calls ↔
      RunMeets clientCall KeepsReferences (start platform outputs inputs) calls := by
  apply runMeets_congr_of_meets Refers _ _ _ (start_refers platform outputs inputs) hrun
  · intro adev call next hkeeps hrefers hnext
    obtain ⟨hiff, hafter⟩ := clientCall_refers_iff hrefers hnext
    exact hafter (hiff.mpr hkeeps)
  · intro adev call next hrefers hnext
    rw [hnext]
    simpa using (clientCall_refers_iff hrefers hnext).1

end

instance (adev : AudioHw) : ∀ call, Decidable (adev.KeepsReferences call)
  | .output (.adevOpenOutputStream _ request) => inferInstanceAs (Decidable (∀ stream ∈ request.stream, _ → _))
  | .output (.adevCloseOutputStream _) => inferInstanceAs (Decidable (_ ∧ _))
  | .output (.outWrite _ _ _) | .output (.outStandby _) | .outSetParameters _ _ _ | .adevSetMode _
  | .adevOpenInputStream _ _ | .inRead _ _ _ | .inStandby _ | .adevCloseInputStream _ => isTrue trivial

/-- Music is offloaded beside the primary output, and closed again. -/
theorem refersToOpen_music :
    RunMeets clientCall (fun adev call => ∀ next, adev.clientCall call = some next → next.RefersToOpen) fresh
      [.output (.adevOpenOutputStream 0 .primaryOutput),
        .output (.adevOpenOutputStream 1 (.offloaded false)), .output (.outWrite 1 true true),
        .output (.adevCloseOutputStream 1)] :=
  (refersToOpen_iff _ _ _ _ _ rfl).mpr (by decide)

/-- A second primary output is refused when the thread of the first try runs already. -/
theorem refusedOffload_dangles :
    ¬∀ platform outputs inputs calls last,
      runSteps clientCall (start platform outputs inputs) calls = some last → last.RefersToOpen := by
  intro hrefers
  have hopen := (hrefers _ _ _ [.output (.adevOpenOutputStream 0 .primaryOutput),
    .output (.adevOpenOutputStream 1 (.offloaded true))] _
    (show runSteps clientCall fresh _ = _ from rfl)).offloadThreads 1 (by decide)
  exact absurd hopen (by decide)

end AudioHw

end Nozomi
