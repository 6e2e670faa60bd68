import Nozomi.Audio.Lifetimes

/-!
# The flag of a voice call

`in_call` is set before the usecase of the call is started, and a start that fails goes through the stop path,
which leaves the flag. Every other step sets the flag and the list together.
-/

namespace Nozomi

open AudioDevices

namespace AudioDevice

/-- A voice call is in the list exactly while the device is in a call, which is active then; and where it is
not, a routing request for an output that drives the call starts one. -/
structure InCallIffListed (adev : AudioDevice) : Prop where
  listed : adev.inCall = true ↔ ∃ usecase ∈ adev.usecaseList, usecase.type = .voiceCall
  active : adev.inCall = true → adev.callActive = true
  restarts : (¬∃ usecase ∈ adev.usecaseList, usecase.type = .voiceCall) → adev.mode = .inCall →
    ∀ out opened, adev.outputDrivesCall out = true → adev.routeCall out opened =
      ({ adev with currentCallOutput := some out } : AudioDevice).voiceStartCall opened

/-- The usecases of calls in the list are that of the voice call during a call, and none otherwise. -/
structure Calls (adev : AudioDevice) : Prop where
  count : ∀ id : UsecaseId, id.type = .voiceCall →
    adev.ids.count id = if adev.inCall = true ∧ id = .voiceCall then 1 else 0
  active : adev.inCall = true → adev.callActive = true

section

variable {adev next : AudioDevice} {out : Nat}

theorem listed_iff : (∃ usecase ∈ adev.usecaseList, usecase.type = .voiceCall) ↔
    ∃ id ∈ adev.ids, id.type = .voiceCall := by
  constructor
  · rintro ⟨usecase, hmem, htype⟩
    exact ⟨usecase.id, List.mem_map_of_mem hmem, by rw [usecase.typeOfId, htype]⟩
  · rintro ⟨id, hmem, htype⟩
    obtain ⟨usecase, husecase, rfl⟩ := List.mem_map.mp hmem
    exact ⟨usecase, husecase, by rw [← usecase.typeOfId, htype]⟩

theorem Calls.mem_iff (hcalls : adev.Calls) : .voiceCall ∈ adev.ids ↔ adev.inCall = true := by
  rw [← List.count_pos_iff, hcalls.count .voiceCall rfl]
  by_cases hin : adev.inCall = true <;> simp [hin]

theorem Calls.inCallIffListed (hcalls : adev.Calls) : adev.InCallIffListed := by
  have hlisted : adev.inCall = true ↔ ∃ usecase ∈ adev.usecaseList, usecase.type = .voiceCall := by
    rw [listed_iff]
    constructor
    · exact fun hin => ⟨.voiceCall, hcalls.mem_iff.mpr hin, rfl⟩
    · rintro ⟨id, hmem, htype⟩
      have hpositive := List.count_pos_iff.mpr hmem
      rw [hcalls.count id htype] at hpositive
      by_contra hin
      rw [if_neg fun hboth => hin hboth.1] at hpositive
      exact absurd hpositive (Nat.lt_irrefl 0)
  refine ⟨hlisted, hcalls.active, ?_⟩
  intro hnone hmode out opened hdrives
  have hidle : adev.inCall = false := Bool.eq_false_iff.mpr fun hin => hnone (hlisted.mp hin)
  rw [routeCall_of_starts ⟨hdrives, hidle, hmode⟩]
  rfl

theorem Calls.of_keepsCall (hcalls : adev.Calls) (hkeeps : adev.KeepsCall next) : next.Calls where
  count := by
    intro id hid
    rw [hkeeps.calls id hid, hkeeps.inCall]
    exact hcalls.count id hid
  active := by
    rw [hkeeps.inCall, hkeeps.callActive]
    exact hcalls.active

theorem Calls.congr (hcalls : adev.Calls) (hin : next.inCall = adev.inCall)
    (hactive : next.callActive = adev.callActive) (hlist : next.usecaseList = adev.usecaseList) :
    next.Calls where
  count := by
    rw [ids, hlist, hin]
    exact hcalls.count
  active := by
    rw [hin, hactive]
    exact hcalls.active

theorem StartsCall.of_remembers (hremembers : adev.Remembers next) :
    next.StartsCall out ↔ adev.StartsCall out := by
  rw [StartsCall, StartsCall, outputDrivesCall, outputDrivesCall, hremembers.primaryOutput,
    hremembers.voiceTxOutput, hremembers.inCall, hremembers.mode]

theorem routeCall_started {opened : Bool} (hcalls : adev.Calls) (hstarts : adev.StartsCall out)
    (hnext : adev.routeCall out opened = some next) :
    (next.InCallIffListed ↔ opened = true) ∧ (opened = true → next.Calls) := by
  rw [routeCall_of_starts hstarts] at hnext
  obtain ⟨hremembers, hactive, hperm⟩ := voiceStartUsecase_spec hnext
  have hin : next.inCall = true := hremembers.inCall
  have hbefore : ∀ id : UsecaseId, id.type = .voiceCall → adev.ids.count id = 0 := by
    intro id hid
    rw [hcalls.count id hid, if_neg]
    rintro ⟨hinCall, -⟩
    rw [hstarts.2.1] at hinCall
    exact Bool.noConfusion hinCall
  have hcount : ∀ id : UsecaseId, ((if opened then [] else [UsecaseId.voiceCall]) ++ next.ids).count id =
      (adev.ids ++ [UsecaseId.voiceCall]).count id := fun id => hperm.count_eq id
  cases opened with
  | true =>
    have hafter : next.Calls := by
      refine ⟨?_, fun _ => hactive⟩
      intro id hid
      have hown := hcount id
      simp only [if_true, List.nil_append, List.count_append, hbefore id hid, Nat.zero_add] at hown
      rw [hown, List.count_singleton, hin]
      by_cases hid : id = .voiceCall
      · simp [hid]
      · simp [hid, Ne.symm hid]
    exact ⟨⟨fun _ => rfl, fun _ => hafter.inCallIffListed⟩, fun _ => hafter⟩
  | false =>
    refine ⟨⟨fun hiff => ?_, fun hopened => Bool.noConfusion hopened⟩, fun hopened => Bool.noConfusion hopened⟩
    obtain ⟨id, hmem, htype⟩ := listed_iff.mp (hiff.listed.mp hin)
    have hown := hcount id
    have hpositive := List.count_pos_iff.mpr hmem
    simp only [Bool.false_eq_true, if_false, List.count_append, hbefore id htype] at hown
    omega

theorem outSetParameters_calls {val : AudioDevices} {opened : Bool} (hcalls : adev.Calls)
    (hnext : adev.outSetParameters out val opened = some next) :
    (next.InCallIffListed ↔
      (adev.routedDevices out val ≠ deviceNone → adev.StartsCall out → opened = true)) ∧
      ((adev.routedDevices out val ≠ deviceNone → adev.StartsCall out → opened = true) → next.Calls) := by
  have hkept : next.Calls →
      (adev.routedDevices out val ≠ deviceNone → adev.StartsCall out → opened = true) →
      (next.InCallIffListed ↔
        (adev.routedDevices out val ≠ deviceNone → adev.StartsCall out → opened = true)) ∧
        ((adev.routedDevices out val ≠ deviceNone → adev.StartsCall out → opened = true) → next.Calls) :=
    fun hafter hcondition => ⟨⟨fun _ => hcondition, fun _ => hafter.inCallIffListed⟩, fun _ => hafter⟩
  rw [outSetParameters] at hnext
  by_cases hdevices : adev.routedDevices out val ≠ deviceNone
  · rw [if_pos hdevices] at hnext
    have hkeeps := @KeepsCall.routeOutput adev out (adev.routedDevices out val)
    have hrouted := hcalls.of_keepsCall hkeeps
    have hsame := @StartsCall.of_remembers adev _ out hkeeps.toRemembers
    by_cases hstarts : adev.StartsCall out
    · have hstarted := routeCall_started hrouted (hsame.mpr hstarts) hnext
      simpa [hdevices, hstarts] using hstarted
    · obtain ⟨current, -, hcall⟩ := routeCall_of_not (mt hsame.mp hstarts) hnext
      apply hkept _ fun _ hnow => absurd hnow hstarts
      have hcurrent : ({ adev.routeOutput out (adev.routedDevices out val) with
          currentCallOutput := current } : AudioDevice).Calls := hrouted.congr rfl rfl rfl
      exact hcurrent.of_keepsCall hcall
  · rw [if_neg hdevices] at hnext
    obtain rfl := Option.some.inj hnext
    exact hkept hcalls fun hsome => absurd hsome hdevices

theorem Calls.adevSetMode (hcalls : adev.Calls) (mode : AudioMode) : (adev.adevSetMode mode).Calls := by
  rw [AudioDevice.adevSetMode]
  split
  · dsimp only
    split
    · rename_i hends
      have hlisted : .voiceCall ∈ adev.ids := hcalls.mem_iff.mpr hends.2
      obtain ⟨hremembers, -, hperm⟩ :=
        @voiceStopUsecase_spec { adev with mode := mode, inCall := false } .voiceCall hlisted
      have hin := hremembers.inCall
      constructor
      · intro id hid
        have hids : ({ adev with mode := mode, inCall := false } : AudioDevice).ids = adev.ids := rfl
        have hcount := hperm.count_eq id
        rw [List.count_cons, hids, hcalls.count id hid, hends.2] at hcount
        show ((({ adev with mode := mode, inCall := false } : AudioDevice).voiceStopUsecase
          .voiceCall).ids).count id = _
        rw [if_neg fun hboth => Bool.noConfusion (hin.symm.trans hboth.1)]
        by_cases hid : id = .voiceCall
        · simpa [hid] using hcount
        · simpa [hid, Ne.symm hid] using hcount
      · intro hinAfter
        exact Bool.noConfusion (hin.symm.trans hinAfter)
    · exact hcalls.congr rfl rfl rfl
  · exact hcalls

end

end AudioDevice

namespace AudioHw

/-! ### Runs of calls of clients -/

/-- The condition on a call: a routing request that starts a voice call does not fail to. -/
def StartsCalls (adev : AudioHw) : ClientCall → Prop
  | .outSetParameters out val opened =>
    adev.routedDevices out val ≠ deviceNone → adev.StartsCall out → opened = true
  | .output _ | .adevSetMode _ | .adevOpenInputStream _ _ | .inRead _ _ _ | .inStandby _
  | .adevCloseInputStream _ => True

section

variable {adev next : AudioHw}

theorem calls_of_output {call : OutputCall} (hcalls : adev.Calls) (hnext : adev.outputCall call = some next) :
    next.Calls := by
  cases call with
  | adevOpenOutputStream out request =>
    rw [outputCall] at hnext
    split at hnext
    · cases hnext
    obtain rfl := Option.some.inj hnext
    cases hstream : request.stream with
    | none =>
      rw [adevOpenOutputStream_refused adev hstream]
      exact hcalls
    | some stream =>
      rw [adevOpenOutputStream_eq adev hstream out]
      exact hcalls.congr rfl rfl rfl
  | outWrite out opened written =>
    rw [outputCall] at hnext
    split at hnext
    · obtain rfl := Option.some.inj hnext
      have hwritten := hcalls.of_keepsCall (AudioDevice.KeepsCall.outWrite out opened)
      rw [outWriteSamples]
      dsimp only
      split
      · exact hwritten.of_keepsCall (AudioDevice.KeepsCall.outStandby out)
      · exact hwritten
    · cases hnext
  | outStandby out =>
    rw [outputCall] at hnext
    split at hnext
    · obtain rfl := Option.some.inj hnext
      exact hcalls.of_keepsCall (AudioDevice.KeepsCall.outStandby out)
    · cases hnext
  | adevCloseOutputStream out =>
    rw [outputCall] at hnext
    split at hnext
    · obtain rfl := Option.some.inj hnext
      have hasleep := hcalls.of_keepsCall (AudioDevice.KeepsCall.outStandby out)
      rw [adevCloseOutputStream_eq adev out]
      exact hasleep.congr rfl rfl rfl
    · cases hnext

theorem clientCall_calls_iff {call : ClientCall} (hcalls : adev.Calls)
    (hnext : adev.clientCall call = some next) :
    (next.InCallIffListed ↔ adev.StartsCalls call) ∧ (adev.StartsCalls call → next.Calls) := by
  have hkept : next.Calls → adev.StartsCalls call →
      (next.InCallIffListed ↔ adev.StartsCalls call) ∧ (adev.StartsCalls call → next.Calls) :=
    fun hafter hstarts => ⟨⟨fun _ => hstarts, fun _ => hafter.inCallIffListed⟩, fun _ => hafter⟩
  cases call with
  | output call => exact hkept (calls_of_output hcalls hnext) trivial
  | outSetParameters out val opened =>
    rw [clientCall] at hnext
    split at hnext
    · obtain ⟨device, hdevice, rfl⟩ := Option.map_eq_some_iff.mp hnext
      exact AudioDevice.outSetParameters_calls hcalls hdevice
    · cases hnext
  | adevSetMode mode =>
    obtain rfl := Option.some.inj hnext
    exact hkept (hcalls.adevSetMode mode) trivial
  | adevOpenInputStream input request =>
    rw [clientCall] at hnext
    split at hnext
    · cases hnext
    · obtain rfl := Option.some.inj hnext
      apply hkept _ trivial
      rw [adevOpenInputStream]
      split
      · exact hcalls
      · exact hcalls.of_keepsCall (AudioDevice.KeepsCall.setInput input _)
  | inRead input opened taken =>
    rw [clientCall] at hnext
    split at hnext
    · obtain rfl := Option.some.inj hnext
      apply hkept _ trivial
      have hread := hcalls.of_keepsCall (AudioDevice.KeepsCall.inRead input opened)
      rw [inReadSamples]
      dsimp only
      split
      · exact hread.of_keepsCall (AudioDevice.KeepsCall.inStandby input)
      · exact hread
    · cases hnext
  | inStandby input | adevCloseInputStream input =>
    rw [clientCall] at hnext
    split at hnext
    · obtain rfl := Option.some.inj hnext
      exact hkept (hcalls.of_keepsCall (AudioDevice.KeepsCall.inStandby input)) trivial
    · cases hnext

theorem start_calls (platform : PlatformData) (outputs : Nat → StreamOut) (inputs : Nat → StreamIn) :
    (start platform outputs inputs).Calls := by
  refine ⟨fun id _ => ?_, fun hin => Bool.noConfusion hin⟩
  rw [if_neg fun hboth => Bool.noConfusion hboth.1]
  rfl

/-- In a run of calls of clients the flag and the list go together after each, exactly where no start of a
voice call fails. -/
theorem inCall_iff_listed (platform : PlatformData) (outputs : Nat → StreamOut) (inputs : Nat → StreamIn)
    (calls : List ClientCall) (last : AudioHw)
    (hrun : runSteps clientCall (start platform outputs inputs) calls = some last) :
    RunMeets clientCall
        (fun adev call => ∀ next, adev.clientCall call = some next → next.InCallIffListed)
        (start platform outputs inputs) calls ↔
      RunMeets clientCall StartsCalls (start platform outputs inputs) calls := by
  apply runMeets_congr_of_meets (fun adev => adev.Calls) _ _ _ (start_calls platform outputs inputs) hrun
  · exact fun adev call next hstarts hcalls hnext => (clientCall_calls_iff hcalls hnext).2 hstarts
  · intro adev call next hcalls hnext
    rw [hnext]
    simpa using (clientCall_calls_iff hcalls hnext).1

end

instance (adev : AudioHw) : ∀ call, Decidable (adev.StartsCalls call)
  | .outSetParameters _ _ _ => inferInstanceAs (Decidable (_ → _ → _))
  | .output _ | .adevSetMode _ | .adevOpenInputStream _ _ | .inRead _ _ _ | .inStandby _
  | .adevCloseInputStream _ => isTrue trivial

/-- A call that is started, moved to the earpiece, and ended. -/
theorem inCall_earpiece :
    RunMeets clientCall
      (fun adev call => ∀ next, adev.clientCall call = some next → next.InCallIffListed) fresh
      [.output (.adevOpenOutputStream 0 .primaryOutput), .adevSetMode .inCall,
        .outSetParameters 0 outSpeaker true, .outSetParameters 0 outEarpiece true, .adevSetMode .normal] :=
  (inCall_iff_listed _ _ _ _ _ rfl).mpr (by decide)

/-- A call whose devices cannot be opened is not started again: the device is in a call, which no usecase is
for. -/
theorem failedCall_stays :
    ¬∀ platform outputs inputs calls last,
      runSteps clientCall (start platform outputs inputs) calls = some last → last.InCallIffListed := by
  intro hiff
  have hlisted := (hiff _ _ _ [.output (.adevOpenOutputStream 0 .primaryOutput), .adevSetMode .inCall,
    .outSetParameters 0 outSpeaker false] _ (show runSteps clientCall fresh _ = _ from rfl)).listed
  exact absurd (hlisted.mp rfl) (by decide)

end AudioHw

end Nozomi
