import Nozomi.Vdec.Component.Events

/-!
# Completions that move the component to idle

`send_command_proxy` posts the completion of a state command at its shared end. From
`OMX_StateLoaded` it does so for `OMX_StateIdle` only if the buffers are there or the ports disabled;
from `OMX_StateWaitForResources` the last chain of branches lets the command through.
-/

namespace Nozomi

def OmxEvent.MovesToIdle (event : OmxEvent) : Prop :=
  event.id = .event ∧ event.param1 = commandStateSet ∧ StateType.ofParam event.param2 = .idle

instance (event : OmxEvent) : Decidable event.MovesToIdle :=
  inferInstanceAs (Decidable (_ ∧ _))

namespace OmxVdec

variable {component : OmxVdec} {ioctl : Ioctl → Bool} {param1 cmd : Nat}

def PopulatedOrDisabled (component : OmxVdec) : Prop :=
  component.allocateDone.2 = true ∨
    component.input.bEnabled = false ∧ component.output.bEnabled = false

instance (component : OmxVdec) : Decidable component.PopulatedOrDisabled :=
  inferInstanceAs (Decidable (_ ∨ _))

/-! ### What the branches post -/

/-- Nothing that a branch posts before the shared end moves the component to idle. -/
def Outcome.Quiet (outcome : Outcome) : Prop := ∀ event ∈ outcome.posted, ¬event.MovesToIdle

@[simp] theorem quiet_of_nil (component : OmxVdec) (eRet : ErrorType) (bFlag : Bool) :
    Outcome.Quiet ⟨component, [], eRet, bFlag⟩ := by
  simp [Outcome.Quiet]

theorem quiet_of_single (component : OmxVdec) {event : OmxEvent} (eRet : ErrorType) (bFlag : Bool)
    (hevent : event.id = .event → event.param1 ≠ commandStateSet) :
    Outcome.Quiet ⟨component, [event], eRet, bFlag⟩ := by
  intro other hother hmoves
  rw [List.mem_singleton.mp hother] at hmoves
  exact hevent hmoves.1 hmoves.2.1

@[simp] theorem quiet_of_portEnable (component : OmxVdec) (port : Nat) (eRet : ErrorType)
    (bFlag : Bool) : Outcome.Quiet ⟨component, [⟨commandPortEnable, port, .event⟩], eRet, bFlag⟩ :=
  quiet_of_single component eRet bFlag fun _ =>
    show commandPortEnable ≠ commandStateSet by decide

@[simp] theorem quiet_of_portDisable (component : OmxVdec) (port : Nat) (eRet : ErrorType)
    (bFlag : Bool) : Outcome.Quiet ⟨component, [⟨commandPortDisable, port, .event⟩], eRet, bFlag⟩ :=
  quiet_of_single component eRet bFlag fun _ =>
    show commandPortDisable ≠ commandStateSet by decide

@[simp] theorem proceed_quiet (component : OmxVdec) : component.proceed.Quiet :=
  quiet_of_nil component .none true

@[simp] theorem pend_quiet (component : OmxVdec) : component.pend.Quiet :=
  quiet_of_nil component .none false

@[simp] theorem reject_quiet (component : OmxVdec) (error : ErrorType) :
    (component.reject error).Quiet :=
  quiet_of_nil component error true

@[simp] theorem refuse_quiet (component : OmxVdec) (error : ErrorType) :
    (component.refuse error).Quiet :=
  quiet_of_single component error true fun _ => show eventError ≠ commandStateSet by decide

@[simp] theorem toInvalid_quiet (component : OmxVdec) (param1 : Nat) :
    (component.toInvalid param1).Quiet :=
  quiet_of_single component .invalidState true fun _ => show eventError ≠ commandStateSet by decide

theorem stateSet_quiet (component : OmxVdec) (ioctl : Ioctl → Bool) (param1 : Nat) :
    (component.stateSet ioctl param1).Quiet := by
  rw [stateSet]
  split
  · rw [fromLoaded]
    split <;> try simp
    split <;> simp
  · rw [fromIdle]
    split <;> try simp
    all_goals split <;> simp
  · rw [fromExecuting]
    split <;> try simp
    split <;> simp
  · rw [fromPause]
    split <;> try simp
    split
    · exact quiet_of_single _ _ _ fun hid => absurd hid (by decide)
    · simp
  · rw [fromWaitForResources]
    split <;> simp
  all_goals simp

theorem stateSet_completes_iff (component : OmxVdec) (ioctl : Ioctl → Bool) {param1 : Nat}
    (hidle : StateType.ofParam param1 = .idle) :
    ((component.stateSet ioctl param1).eRet = .none ∧
        (component.stateSet ioctl param1).bFlag = true) ↔
      component.mState = .loaded ∧ component.PopulatedOrDisabled ∨
        component.mState = .waitForResources := by
  cases hstate : component.mState with
  | loaded =>
    have hports : component.allocateDone.1.input.bEnabled = component.input.bEnabled ∧
        component.allocateDone.1.output.bEnabled = component.output.bEnabled := by
      simp [allocateDone, allocateInputDone, allocateOutputDone]
    simp only [stateSet, hstate, fromLoaded, hidle, PopulatedOrDisabled, hports]
    split
    next hguard => simpa [proceed] using hguard
    next hguard => simpa [pend] using hguard
  | waitForResources => simp [stateSet, hstate, fromWaitForResources, hidle, proceed]
  | idle => simp [stateSet, hstate, fromIdle, hidle, refuse]
  | executing => simp [stateSet, hstate, fromExecuting, hidle, pend]
  | pause => simp [stateSet, hstate, fromPause, hidle, pend]
  | invalid => simp [stateSet, hstate, reject]
  | other code => simp [stateSet, hstate, reject]

private theorem enableInput_quiet (component : OmxVdec) : component.enableInput.Quiet := by
  rw [enableInput]
  dsimp only
  split
  · simp
  · split <;> simp

private theorem enableOutput_quiet (component : OmxVdec) : component.enableOutput.Quiet := by
  rw [enableOutput]
  dsimp only
  split
  · simp
  · split <;> simp

private theorem disableInput_quiet (component : OmxVdec) : component.disableInput.Quiet := by
  rw [disableInput]
  dsimp only
  split
  · simp
  · split <;> simp

private theorem disableOutput_quiet (component : OmxVdec) : component.disableOutput.Quiet := by
  rw [disableOutput]
  dsimp only
  generalize (if component.mState = .loaded ∨ component.mState = .idle then _ else _) = released
  obtain ⟨component, done⟩ := released
  cases done with
  | true => simp
  | false =>
    dsimp only
    split
    next => contradiction
    next => split <;> simp

private theorem bothParts_quiet (component : OmxVdec) (param1 : Nat) {first second : OmxVdec → Outcome}
    (hfirst : ∀ component, (first component).Quiet) (hsecond : ∀ component, (second component).Quiet) :
    (component.bothParts param1 first second).Quiet := by
  intro event hevent
  simp only [bothParts, List.mem_append] at hevent
  rcases hevent with hevent | hevent
  · split at hevent
    · exact hfirst _ event hevent
    · exact proceed_quiet _ event hevent
  · split at hevent
    · exact hsecond _ event hevent
    · exact proceed_quiet _ event hevent

theorem command_quiet (component : OmxVdec) (ioctl : Ioctl → Bool) (param1 cmd : Nat) :
    (component.command ioctl param1 cmd).Quiet := by
  rw [command]
  split
  · exact stateSet_quiet component ioctl param1
  split
  · rw [otherInInvalid]
    split <;> simp
  · split
    · simp [flush]
    · exact bothParts_quiet component param1 enableInput_quiet enableOutput_quiet
    · exact bothParts_quiet component param1 disableInput_quiet disableOutput_quiet
    all_goals simp

theorem commandType_ofParam_stateSet {cmd : Nat} :
    CommandType.ofParam cmd = .stateSet ↔ cmd = commandStateSet := by
  constructor
  · intro hcmd
    unfold CommandType.ofParam at hcmd
    split at hcmd <;> simp_all [commandStateSet]
  · rintro rfl
    rfl

theorem commandPosts_movesToIdle_iff (component : OmxVdec) (ioctl : Ioctl → Bool)
    (param1 cmd : Nat) :
    (∃ event ∈ component.commandPosts ioctl param1 cmd, event.MovesToIdle) ↔
      (CommandType.ofParam cmd = .stateSet ∧ StateType.ofParam param1 = .idle) ∧
        (component.mState = .loaded ∧ component.PopulatedOrDisabled ∨
          component.mState = .waitForResources) := by
  have hquiet := command_quiet component ioctl param1 cmd
  constructor
  · rintro ⟨event, hevent, hmoves⟩
    rw [commandPosts] at hevent
    split at hevent
    next hends =>
      rcases List.mem_append.mp hevent with hevent | hevent
      · exact absurd hmoves (hquiet event hevent)
      · rw [List.mem_singleton.mp hevent] at hmoves
        have hcmd := commandType_ofParam_stateSet.mpr hmoves.2.1
        refine ⟨⟨hcmd, hmoves.2.2⟩, ?_⟩
        rw [command, hcmd] at hends
        exact (stateSet_completes_iff component ioctl hmoves.2.2).mp hends
    next => exact absurd hmoves (hquiet event hevent)
  · rintro ⟨⟨hcmd, hparam⟩, hstate⟩
    refine ⟨⟨cmd, param1, .event⟩, ?_, rfl, commandType_ofParam_stateSet.mp hcmd, hparam⟩
    have hends := (stateSet_completes_iff component ioctl hparam).mpr hstate
    rw [commandPosts, command, hcmd]
    dsimp only
    rw [if_pos hends]
    simp

end OmxVdec

/-! ### The guard over whole runs -/

namespace CommandCall

/-- A completion that moves the component to idle is posted in `OMX_StateLoaded` or
`OMX_StateWaitForResources` only with the buffers there or the ports disabled. -/
def GuardsIdle (call : CommandCall) : Prop :=
  (call.component.mState = .loaded ∨ call.component.mState = .waitForResources) →
    (∃ event ∈ call.posts, event.MovesToIdle) → call.component.PopulatedOrDisabled

instance (call : CommandCall) : Decidable call.GuardsIdle :=
  inferInstanceAs (Decidable (_ → _ → _))

/-- The command asks for idle in `OMX_StateWaitForResources`, without buffers and with a port enabled. -/
def LeavesWaiting (call : CommandCall) : Prop :=
  call.component.mState = .waitForResources ∧ CommandType.ofParam call.cmd = .stateSet ∧
    StateType.ofParam call.param1 = .idle ∧ ¬call.component.PopulatedOrDisabled

theorem guardsIdle_iff (call : CommandCall) : call.GuardsIdle ↔ ¬call.LeavesWaiting := by
  rw [GuardsIdle, posts, OmxVdec.commandPosts_movesToIdle_iff, LeavesWaiting]
  constructor
  · rintro hguards ⟨hstate, hcmd, hparam, hnone⟩
    exact hnone (hguards (.inr hstate) ⟨⟨hcmd, hparam⟩, .inr hstate⟩)
  · rintro hstays - ⟨⟨hcmd, hparam⟩, ⟨-, hready⟩ | hstate⟩
    · exact hready
    · by_contra hnone
      exact hstays ⟨hstate, hcmd, hparam, hnone⟩

end CommandCall

/-- In a run from `OMX_StateLoaded` without buffers every completion posted by `send_command_proxy`
is guarded exactly if no command for idle is handled in `OMX_StateWaitForResources` without buffers. -/
theorem sendCommandProxy_guardsIdle_iff (inputCount outputCount : Nat) (actions : List Action) :
    (∀ call ∈ (OmxVdec.init inputCount outputCount).commandCalls actions, call.GuardsIdle) ↔
      ∀ call ∈ (OmxVdec.init inputCount outputCount).commandCalls actions, ¬call.LeavesWaiting :=
  forall₂_congr fun call _ => call.guardsIdle_iff

/-- `OMX_StateWaitForResources`, then `OMX_StateIdle`, without a buffer. -/
theorem sendCommandProxy_unguarded :
    ¬∀ inputCount outputCount actions, ∀ call ∈
      (OmxVdec.init inputCount outputCount).commandCalls actions, call.GuardsIdle := by
  intro hguarded
  let environment : Environment := ⟨fun _ => true, true, 4, true, true, .progressive, true, true⟩
  have hcall := hguarded 2 4 [.sendCommand 0 5, .processEvent environment, .processEvent environment,
    .sendCommand 0 2, .processEvent environment] _ (List.mem_cons_of_mem _ List.mem_cons_self)
  revert hcall
  decide

end Nozomi
