import Nozomi.Venc.Control.Outcomes

/-!
# The encoder never becomes invalid

A StateSet command to `OMX_StateInvalid` only posts an error event, and the handler of error events only calls
the client. No event in `m_cmd_q` sets `OMX_StateInvalid`, and no bit moves there, so that no run reaches it.
-/

namespace Nozomi.VencControl

def Harmless (event : OmxEvent) : Prop :=
  event.id = .event → event.param1 = commandStateSet → StateType.ofParam event.param2 ≠ .invalid

theorem harmless_of_id {event : OmxEvent} (hid : event.id ≠ .event) : Harmless event :=
  fun hevent => absurd hevent hid

/-- The component is not in `OMX_StateInvalid`, and no event in `m_cmd_q` takes it there. -/
structure StaysValid (video : OmxVideo) : Prop where
  state : video.mState ≠ .invalid
  queue : ∀ event ∈ video.mCmdQ, Harmless event

namespace StaysValid

open OmxVideo

variable {video next : OmxVideo} {param1 : Nat} {causes : Finset Nat}

theorem of_same (hvalid : StaysValid video) (hstate : next.mState = video.mState)
    (hqueue : next.mCmdQ = video.mCmdQ) : StaysValid next where
  state := hstate ▸ hvalid.state
  queue := hqueue ▸ hvalid.queue

theorem untouched (hvalid : StaysValid video) (hnext : Untouched video next) : StaysValid next :=
  hvalid.of_same hnext.state hnext.queue

theorem reportUnless (hvalid : StaysValid video) (success : Bool) : StaysValid (video.reportUnless success) :=
  hvalid.untouched (video.reportUnless_untouched success)

theorem postEvent (hvalid : StaysValid video) {event : OmxEvent} (hevent : Harmless event) :
    StaysValid (video.postEvent event) := by
  rw [OmxVideo.postEvent]
  split
  · refine ⟨hvalid.state, fun other hother => ?_⟩
    rcases List.mem_append.mp hother with hold | hnew
    · exact hvalid.queue other hold
    · exact List.mem_singleton.mp hnew ▸ hevent
  · exact hvalid

theorem postEvents (hvalid : StaysValid video) {posted : List OmxEvent}
    (hposted : ∀ event ∈ posted, Harmless event) : StaysValid (posted.foldl OmxVideo.postEvent video) := by
  induction posted generalizing video with
  | nil => exact hvalid
  | cons event posted ih =>
    rw [List.foldl_cons]
    apply ih
    · exact hvalid.postEvent (hposted event List.mem_cons_self)
    · exact fun other hother => hposted other (List.mem_cons_of_mem _ hother)

theorem moveTo (hvalid : StaysValid video) (flag : Flag) {state : StateType} (hstate : state ≠ .invalid)
    (param : Nat) : StaysValid (video.moveTo flag state param) := ⟨hstate, hvalid.queue⟩

theorem completeFlag (hvalid : StaysValid video) (flag : Flag) {param1 param2 : Nat}
    (hparam : param1 = commandStateSet → StateType.ofParam param2 ≠ .invalid) :
    StaysValid (video.completeFlag flag param1 param2) := by
  rw [OmxVideo.completeFlag]
  split
  · exact (hvalid.of_same rfl rfl : StaysValid (video.clearFlag flag)).postEvent fun _ => hparam
  · exact hvalid

/-! ### Events -/

theorem generateEvent (hvalid : StaysValid video) {event : OmxEvent} (hid : event.id = .event)
    (hevent : Harmless event) : StaysValid (video.generateEvent event) := by
  rw [OmxVideo.generateEvent]
  split
  next hset => exact ⟨hevent hid hset, hvalid.queue⟩
  next =>
    split
    · exact hvalid.of_same rfl rfl
    · exact hvalid.of_same rfl rfl

theorem flushDone (hvalid : StaysValid video) (environment : Environment) (flag : Flag) (port : Nat)
    (other : Bool) : StaysValid (video.flushDone environment flag port other) := by
  rw [OmxVideo.flushDone]
  split
  · exact hvalid.of_same rfl rfl
  · split
    · exact hvalid.reportUnless _
    · exact hvalid

theorem inputFlushDone (hvalid : StaysValid video) (environment : Environment) :
    StaysValid (video.inputFlushDone environment) := by
  rw [OmxVideo.inputFlushDone]
  apply StaysValid.flushDone
  exact hvalid.of_same rfl rfl

theorem outputFlushDone (hvalid : StaysValid video) (environment : Environment) :
    StaysValid (video.outputFlushDone environment) := by
  rw [OmxVideo.outputFlushDone]
  apply StaysValid.flushDone
  exact hvalid.of_same rfl rfl

theorem startDone (hvalid : StaysValid video) (environment : Environment) :
    StaysValid (video.startDone environment) := by
  rw [OmxVideo.startDone]
  split
  · exact hvalid.moveTo _ (by decide) _
  · split
    · exact hvalid.reportUnless _
    · split
      · exact (hvalid.reportUnless (environment.device .loadedStartDone)).of_same rfl rfl
      · exact hvalid

theorem pauseDone (hvalid : StaysValid video) (environment : Environment) :
    StaysValid (video.pauseDone environment) := by
  rw [OmxVideo.pauseDone]
  split
  · exact (hvalid.reportUnless _).moveTo _ (by decide) _
  · exact hvalid

theorem resumeDone (hvalid : StaysValid video) : StaysValid video.resumeDone := by
  rw [OmxVideo.resumeDone]
  split
  · exact hvalid.moveTo _ (by decide) _
  · exact hvalid

theorem stopDone (hvalid : StaysValid video) (environment : Environment) :
    StaysValid (video.stopDone environment) := by
  have hreported := hvalid.reportUnless environment.bufferDones
  rw [OmxVideo.stopDone]
  split
  · exact hreported.moveTo _ (by decide) _
  · split
    · exact (hreported.reportUnless (environment.device .loadedStopDone)).of_same rfl rfl
    · exact hreported

/-! ### Commands -/

variable {outcome : Outcome}

theorem of_part {cmd port : Nat} {causes : Finset Nat} (hvalid : StaysValid video) (hcmd : cmd ≠ commandStateSet)
    (houtcome : PartOutcome video causes cmd port outcome) :
    StaysValid outcome.video ∧ ∀ event ∈ outcome.posted, Harmless event := by
  cases houtcome with
  | completes hnext =>
    refine ⟨hvalid.untouched hnext, fun event hevent _ hset => ?_⟩
    rw [List.mem_singleton.mp hevent] at hset
    exact absurd hset hcmd
  | waits flag hnext =>
    have hset : StaysValid (video.setFlag flag causes) := hvalid.of_same rfl rfl
    exact ⟨hset.untouched hnext, nofun⟩

theorem of_chosenPart {cmd port : Nat} {causes : Finset Nat} (hvalid : StaysValid video)
    (hcmd : cmd ≠ commandStateSet) (houtcome : PartOutcome video causes cmd port outcome) (addressed : Prop)
    [Decidable addressed] :
    StaysValid (if addressed then outcome else video.proceed).video ∧
      ∀ event ∈ (if addressed then outcome else video.proceed).posted, Harmless event := by
  split
  · exact hvalid.of_part hcmd houtcome
  · exact ⟨hvalid, nofun⟩

theorem bothParts {cmd : Nat} {first second : OmxVideo → Finset Nat → Outcome} {causes : Finset Nat}
    (hvalid : StaysValid video) (hcmd : cmd ≠ commandStateSet)
    (hfirst : ∀ video, PartOutcome video causes cmd inputPortIndex (first video causes))
    (hsecond : ∀ video, PartOutcome video causes cmd outputPortIndex (second video causes)) (param1 : Nat) :
    StaysValid (video.bothParts param1 causes first second).video ∧
      ∀ event ∈ (video.bothParts param1 causes first second).posted, Harmless event := by
  have hinput := hvalid.of_chosenPart hcmd (hfirst video) (param1 = inputPortIndex ∨ param1 = allPorts)
  have houtput := hinput.1.of_chosenPart hcmd (hsecond _) (param1 = outputPortIndex ∨ param1 = allPorts)
  refine ⟨houtput.1, fun event hevent => ?_⟩
  exact (List.mem_append.mp hevent).elim (hinput.2 event) (houtput.2 event)

theorem posts {cmd : Nat} (hposted : ∀ event ∈ outcome.posted, Harmless event)
    (hcmd : outcome.eRet = .none → outcome.bFlag → cmd = commandStateSet → StateType.ofParam param1 ≠ .invalid) :
    ∀ event ∈ outcome.posts cmd param1 causes, Harmless event := by
  intro event hevent
  rw [Outcome.posts] at hevent
  split at hevent
  next hshared =>
    rcases List.mem_append.mp hevent with hold | hnew
    · exact hposted event hold
    · rw [List.mem_singleton.mp hnew]
      exact fun _ => hcmd hshared.1 hshared.2
  next => exact hposted event hevent

theorem of_stateSet (hvalid : StaysValid video) (houtcome : StateSetOutcome video param1 causes outcome)
    (cmd : Nat) : StaysValid outcome.video ∧ ∀ event ∈ outcome.posts cmd param1 causes, Harmless event := by
  cases houtcome with
  | completes hnext hstate => exact ⟨hvalid.untouched hnext, posts nofun fun _ _ _ => hstate⟩
  | waits flag posted hnext _ hposted =>
    have hset : StaysValid (video.setFlag flag causes) := hvalid.of_same rfl rfl
    refine ⟨hset.untouched hnext, posts (fun event hevent hid => ?_) nofun⟩
    rw [hposted event hevent] at hid
    cases hid
  | refuses posted hnext hposted herror =>
    refine ⟨hvalid.untouched hnext, posts (fun event hevent _ hset => ?_) fun hnone => absurd hnone herror⟩
    rw [(hposted event hevent).2] at hset
    cases hset

theorem command (hvalid : StaysValid video) (device : DeviceCall → Bool) (param1 : Nat) (causes : Finset Nat)
    (cmd : Nat) :
    StaysValid (video.command device param1 causes cmd).video ∧
      ∀ event ∈ (video.command device param1 causes cmd).posts cmd param1 causes, Harmless event := by
  have hother (hcmd : CommandType.ofParam cmd ≠ .stateSet) : cmd ≠ commandStateSet := by
    rintro rfl
    exact hcmd rfl
  rw [OmxVideo.command]
  cases hcmd : CommandType.ofParam cmd with
  | stateSet => exact hvalid.of_stateSet (video.stateSet_outcome device param1 causes) cmd
  | flush =>
    dsimp only
    rw [if_neg hvalid.state]
    refine ⟨hvalid.of_same ?_ ?_, posts nofun nofun⟩
    · rw [OmxVideo.flush]
      split <;> split <;> rfl
    · rw [OmxVideo.flush]
      split <;> split <;> rfl
  | portEnable =>
    dsimp only
    rw [if_neg hvalid.state]
    have hparts := hvalid.bothParts (by decide) (enableInput_outcome · causes)
      (enableOutput_outcome · causes) param1
    exact ⟨hparts.1, posts hparts.2 fun _ _ hset => absurd hset (hother (by rw [hcmd]; decide))⟩
  | portDisable =>
    dsimp only
    rw [if_neg hvalid.state]
    have hparts := hvalid.bothParts (by decide) (disableInput_outcome · causes)
      (disableOutput_outcome · causes) param1
    exact ⟨hparts.1, posts hparts.2 fun _ _ hset => absurd hset (hother (by rw [hcmd]; decide))⟩
  | other code =>
    dsimp only
    rw [if_neg hvalid.state]
    exact ⟨hvalid, posts nofun nofun⟩

theorem sendCommandProxy (hvalid : StaysValid video) (device : DeviceCall → Bool) (param1 : Nat)
    (causes : Finset Nat) (cmd : Nat) : StaysValid (video.sendCommandProxy device param1 causes cmd) :=
  have hcommand := hvalid.command device param1 causes cmd
  hcommand.1.postEvents hcommand.2

theorem handleEvent (hvalid : StaysValid video) (environment : Environment) {event : OmxEvent}
    (hevent : Harmless event) : StaysValid (video.handleEvent environment event) := by
  rw [OmxVideo.handleEvent]
  cases hid : event.id with
  | event => exact hvalid.generateEvent hid hevent
  | command => exact hvalid.sendCommandProxy _ _ _ _
  | eventInputFlush => exact hvalid.inputFlushDone environment
  | eventOutputFlush => exact hvalid.outputFlushDone environment
  | startDone => exact hvalid.startDone environment
  | pauseDone => exact hvalid.pauseDone environment
  | resumeDone => exact hvalid.resumeDone
  | stopDone => exact hvalid.stopDone environment
  | hardwareError => exact hvalid.untouched video.omxReportError_untouched
  | fbd => exact hvalid.reportUnless _

theorem processEvent (hvalid : StaysValid video) (environment : Environment) :
    StaysValid (video.processEvent environment) := by
  rw [OmxVideo.processEvent]
  split
  · exact hvalid.reportUnless _
  next event rest hqueue =>
    have hrest : StaysValid { video with mCmdQ := rest } :=
      ⟨hvalid.state, fun other hother => hvalid.queue other (hqueue ▸ List.mem_cons_of_mem _ hother)⟩
    exact hrest.handleEvent environment (hvalid.queue event (hqueue ▸ List.mem_cons_self))

/-! ### Calls of the client -/

theorem sendCommand (hvalid : StaysValid video) (cmd param1 : Nat) (cmdData : Bool) :
    StaysValid (video.sendCommand cmd param1 cmdData) := by
  rw [OmxVideo.sendCommand]
  split
  · exact hvalid
  · split
    · have hsent : StaysValid { video with sent := video.sent ++ [(cmd, param1)] } :=
        hvalid.of_same rfl rfl
      exact hsent.postEvent (harmless_of_id nofun)
    · exact hvalid

theorem bufferAdded (hvalid : StaysValid video) (port : Nat) : StaysValid (video.bufferAdded port) := by
  have hidle : StaysValid (if video.allocateDone.2 then
      video.allocateDone.1.completeFlag .idlePending commandStateSet stateIdle else video.allocateDone.1) := by
    have hdone : StaysValid video.allocateDone.1 := hvalid.of_same rfl rfl
    split
    · exact hdone.completeFlag _ fun _ => by decide
    · exact hdone
  rw [OmxVideo.bufferAdded]
  dsimp only
  generalize (if video.allocateDone.2 then
    video.allocateDone.1.completeFlag .idlePending commandStateSet stateIdle else video.allocateDone.1) =
      populated at hidle ⊢
  split
  · exact hidle.completeFlag _ nofun
  · split
    · exact hidle.completeFlag _ nofun
    · exact hidle

theorem useBuffer (hvalid : StaysValid video) (port index : Nat) : StaysValid (video.useBuffer port index) := by
  rw [OmxVideo.useBuffer]
  split
  · exact hvalid
  · split
    · apply StaysValid.bufferAdded
      exact hvalid.of_same rfl rfl
    · split
      · apply StaysValid.bufferAdded
        exact hvalid.of_same rfl rfl
      · exact hvalid

theorem freeInput (hvalid : StaysValid video) (index : Nat) : StaysValid (video.freeInput index) := by
  rw [OmxVideo.freeInput]
  dsimp only
  split <;> split
  · refine StaysValid.completeFlag ?_ _ nofun
    exact hvalid.of_same rfl rfl
  · exact hvalid.of_same rfl rfl
  · exact hvalid.completeFlag _ nofun
  · exact hvalid

theorem freeOutput (hvalid : StaysValid video) (index : Nat) : StaysValid (video.freeOutput index) := by
  rw [OmxVideo.freeOutput]
  dsimp only
  split <;> split
  · refine StaysValid.completeFlag ?_ _ nofun
    exact hvalid.of_same rfl rfl
  · exact hvalid.of_same rfl rfl
  · exact hvalid.completeFlag _ nofun
  · exact hvalid

theorem bufferFreed (hvalid : StaysValid video) : StaysValid video.bufferFreed := by
  rw [OmxVideo.bufferFreed]
  split
  · exact hvalid.completeFlag _ fun _ => by decide
  · exact hvalid

theorem releaseBuffer (hvalid : StaysValid video) (port index : Nat) :
    StaysValid (video.releaseBuffer port index) := by
  have hfreed : StaysValid (if port = inputPortIndex then video.freeInput index
      else if port = outputPortIndex then video.freeOutput index else video) := by
    split
    · exact hvalid.freeInput index
    · split
      · exact hvalid.freeOutput index
      · exact hvalid
  rw [OmxVideo.releaseBuffer]
  generalize (if port = inputPortIndex then video.freeInput index
    else if port = outputPortIndex then video.freeOutput index else video) = freed at hfreed ⊢
  split
  · exact hfreed.bufferFreed
  · exact hfreed

theorem freeBuffer (hvalid : StaysValid video) (port index : Nat) :
    StaysValid (video.freeBuffer port index) := by
  have hunpopulated : StaysValid
      (video.postEvent ⟨eventError, ErrorType.portUnpopulated.toParam, .event, ∅⟩) :=
    hvalid.postEvent fun _ => nofun
  rw [OmxVideo.freeBuffer]
  split
  · exact hvalid.releaseBuffer port index
  · split
    · exact hunpopulated
    · exact hunpopulated.releaseBuffer port index

theorem getSyntaxHdr (hvalid : StaysValid video) (environment : Environment) :
    StaysValid (video.getSyntaxHdr environment) := by
  rw [OmxVideo.getSyntaxHdr]
  split
  · exact hvalid
  · dsimp only
    split
    · split
      · exact hvalid.of_same rfl rfl
      · exact hvalid.of_same rfl rfl
    · exact hvalid.of_same rfl rfl

theorem asyncMessageProcess (hvalid : StaysValid video) (message : DriverMessage) (status : Nat)
    (success : Bool) : StaysValid (video.asyncMessageProcess message status success) := by
  have hreported := hvalid.reportUnless success
  rw [OmxVideo.asyncMessageProcess]
  cases message with
  | inputBufferDone | needOutputBuffer => exact hreported
  | _ => exact hreported.postEvent (harmless_of_id nofun)

theorem step (hvalid : StaysValid video) (action : Action) : StaysValid (video.step action) := by
  cases action with
  | sendCommand cmd param1 cmdData => exact hvalid.sendCommand cmd param1 cmdData
  | processEvent environment => exact hvalid.processEvent environment
  | driverMessage message status success => exact hvalid.asyncMessageProcess message status success
  | useBuffer port index => exact hvalid.useBuffer port index
  | freeBuffer port index => exact hvalid.freeBuffer port index
  | getSyntaxHdr environment => exact hvalid.getSyntaxHdr environment
  | setBuffers input output => exact hvalid.of_same rfl rfl

theorem run (hvalid : StaysValid video) (actions : List Action) : StaysValid (video.run actions) := by
  induction actions generalizing video with
  | nil => exact hvalid
  | cons action actions ih => exact ih (hvalid.step action)

theorem init (inputCount outputCount : Nat) : StaysValid (OmxVideo.init inputCount outputCount) :=
  ⟨nofun, nofun⟩

end StaysValid

/-! ### Runs -/

theorem stateSet_invalid (video : OmxVideo) (device : DeviceCall → Bool) (causes : Finset Nat) :
    ∃ error posted, video.stateSet device stateInvalid causes = ⟨video, posted, error, true⟩ ∧
      error ≠ .none ∧ ∀ event ∈ posted, event = ⟨eventError, stateInvalid, .event, causes⟩ := by
  have hinvalid : ∃ error posted, video.toInvalid stateInvalid causes = ⟨video, posted, error, true⟩ ∧
      error ≠ .none ∧ ∀ event ∈ posted, event = ⟨eventError, stateInvalid, .event, causes⟩ :=
    ⟨_, _, rfl, by decide, fun _ => List.mem_singleton.mp⟩
  rw [OmxVideo.stateSet]
  cases video.mState with
  | loaded | idle | executing | pause | waitForResources => exact hinvalid
  | invalid | other _ => exact ⟨_, _, rfl, by decide, by simp⟩

theorem mem_postEvents {posted : List OmxEvent} {event : OmxEvent} (video : OmxVideo)
    (hevent : event ∈ (posted.foldl OmxVideo.postEvent video).mCmdQ) :
    event ∈ video.mCmdQ ∨ event ∈ posted := by
  induction posted generalizing video with
  | nil => exact .inl hevent
  | cons first posted ih =>
    rcases ih _ hevent with hold | hnew
    · rw [OmxVideo.postEvent] at hold
      split at hold
      · rcases List.mem_append.mp hold with hqueue | hfirst
        · exact .inl hqueue
        · exact .inr (List.mem_singleton.mp hfirst ▸ List.mem_cons_self)
      · exact .inl hold
    · exact .inr (List.mem_cons_of_mem _ hnew)

/-- **`OMX_StateInvalid` is never entered.** -/
theorem invalid_neverEntered (inputCount outputCount : Nat) (before between later : List Action)
    (environment environment' : Environment) (causes : Finset Nat) (rest : List OmxEvent)
    (hcommand : ((OmxVideo.init inputCount outputCount).run before).mCmdQ =
      ⟨commandStateSet, stateInvalid, .command, causes⟩ :: rest) :
    let processed := ((OmxVideo.init inputCount outputCount).run before).processEvent environment
    let reached := processed.run between
    let handled := reached.processEvent environment'
    (∀ event ∈ processed.mCmdQ, event ∈ rest ∨ event = ⟨eventError, stateInvalid, .event, causes⟩) ∧
      (reached.mCmdQ.head? = some ⟨eventError, stateInvalid, .event, causes⟩ →
        handled.notified = reached.notified ++ [⟨.error, stateInvalid, 0, causes⟩]) ∧
      (handled.run later).mState ≠ .invalid := by
  intro processed reached handled
  have hvalid : StaysValid ((OmxVideo.init inputCount outputCount).run before) :=
    (StaysValid.init inputCount outputCount).run before
  refine ⟨fun event hevent => ?_, fun hhead => ?_, ?_⟩
  · obtain ⟨error, posted, hstate, herror, hposted⟩ := stateSet_invalid
      { (OmxVideo.init inputCount outputCount).run before with mCmdQ := rest } environment.device causes
    have hprocessed : processed = posted.foldl OmxVideo.postEvent
        { (OmxVideo.init inputCount outputCount).run before with mCmdQ := rest } := by
      change OmxVideo.processEvent _ environment = _
      rw [OmxVideo.processEvent, hcommand]
      change OmxVideo.sendCommandProxy _ environment.device stateInvalid causes commandStateSet = _
      rw [OmxVideo.sendCommandProxy]
      change (OmxVideo.Outcome.posts (OmxVideo.stateSet _ _ _ _) _ _ _).foldl _
        (OmxVideo.stateSet _ _ _ _).video = _
      rw [hstate, OmxVideo.Outcome.posts, if_neg fun hnone => herror hnone.1]
    rw [hprocessed] at hevent
    exact (mem_postEvents _ hevent).imp_right (hposted event)
  · obtain ⟨queue, hqueue⟩ := List.head?_eq_some_iff.mp hhead
    change (OmxVideo.processEvent reached environment').notified = _
    rw [OmxVideo.processEvent, hqueue]
    rfl
  · exact ((((hvalid.processEvent environment).run between).processEvent environment').run later).state

def goodEnvironment : Environment := ⟨fun _ => true, true, true⟩

/-- The client asks for `OMX_StateInvalid`, and the component handles the command and its event. -/
theorem sendInvalid_neverEntered :
    ((((OmxVideo.init 1 1).run [.sendCommand commandStateSet stateInvalid false]).processEvent
      goodEnvironment).processEvent goodEnvironment).mState ≠ .invalid :=
  (invalid_neverEntered 1 1 [.sendCommand commandStateSet stateInvalid false] [] []
    goodEnvironment goodEnvironment {0} [] rfl).2.2

/-- The component is in `OMX_StateLoaded` after it has handled the event of a command to `OMX_StateInvalid`. -/
theorem stateInvalid_notEntered :
    ¬∀ (before : List Action) (environment environment' : Environment) (causes : Finset Nat),
      ((OmxVideo.init 1 1).run before).mCmdQ = [⟨commandStateSet, stateInvalid, .command, causes⟩] →
      ((((OmxVideo.init 1 1).run before).processEvent environment).processEvent environment').mState =
        .invalid := by
  intro hentered
  have hinvalid := hentered [.sendCommand commandStateSet stateInvalid false] goodEnvironment
    goodEnvironment {0} rfl
  cases hinvalid

end Nozomi.VencControl
