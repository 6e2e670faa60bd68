import Nozomi.Vdec.Component.PendingBits

/-!
# The port commands

What `send_command_proxy` posts for `OMX_CommandPortEnable` and `OMX_CommandPortDisable`, and what the client
is told when a completion is handled.
-/

namespace Nozomi

/-- `OMX_CommandPortEnable` or `OMX_CommandPortDisable` for the input port, the output port or both. -/
def IsPortCommand (cmd param1 : Nat) : Prop :=
  (cmd = commandPortEnable ∨ cmd = commandPortDisable) ∧
    (param1 = inputPortIndex ∨ param1 = outputPortIndex ∨ param1 = allPorts)

instance (cmd param1 : Nat) : Decidable (IsPortCommand cmd param1) :=
  inferInstanceAs (Decidable (_ ∧ _))

def addressedPorts (param1 : Nat) : List Nat :=
  if param1 = allPorts then [inputPortIndex, outputPortIndex] else [param1]

def pendingBit (cmd port : Nat) : Flag :=
  if cmd = commandPortEnable then
    if port = inputPortIndex then .inputEnablePending else .outputEnablePending
  else if port = inputPortIndex then .inputDisablePending else .outputDisablePending

namespace OmxVdec

variable (component : OmxVdec)

def port (index : Nat) : PortState := if index = inputPortIndex then component.input else component.output

/-- The part of a port command for a port has to wait: for buffers when the port is enabled, for their
release or for the driver when it is disabled. -/
def MustWait (cmd port : Nat) : Prop :=
  if cmd = commandPortEnable then
    ¬((component.mState = .loaded ∧ .idlePending ∉ component.mFlags) ∨ (component.port port).allocated)
  else ¬((component.mState = .loaded ∨ component.mState = .idle) ∧ (component.port port).released)

instance (cmd port : Nat) : Decidable (component.MustWait cmd port) := by
  unfold MustWait
  infer_instance

def toldSince (next : OmxVdec) : List Notification :=
  (next.notified.drop component.notified.length).filter fun notification => notification.event = .cmdComplete

def comesToWait (event : OmxEvent) : List Flag :=
  match event.id with
  | .command =>
    if component.mState = .invalid then []
    else ((addressedPorts event.param2).filter fun port => component.MustWait event.param1 port).map
      (pendingBit event.param1)
  | .event =>
    if event.param1 = commandPortDisable ∧ .outputFlushInDisablePending ∈ component.mFlags then
      [.disableOutputDeferred]
    else []
  | _ => []

/-! ### What the client is told -/

variable {component next : OmxVdec}

theorem toldSince_of_eq (hnotified : next.notified = component.notified) : component.toldSince next = [] := by
  rw [toldSince, hnotified, List.drop_length, List.filter_nil]

theorem toldSince_eventHandler (hnotified : next.notified = component.notified) (event : EventType)
    (data1 data2 : Nat) : component.toldSince (next.eventHandler event data1 data2) =
      if event = .cmdComplete then [⟨event, data1, data2⟩] else [] := by
  rw [toldSince, eventHandler, hnotified, List.drop_left, List.filter_singleton]
  by_cases hevent : event = .cmdComplete
  · rw [if_pos hevent, decide_eq_true hevent]
    rfl
  · rw [if_neg hevent, decide_eq_false hevent]
    rfl

theorem toldSince_omxReportError (hnotified : next.notified = component.notified) :
    component.toldSince next.omxReportError = [] := by
  rw [omxReportError]
  split
  · exact toldSince_of_eq hnotified
  · exact toldSince_eventHandler hnotified .error _ _

theorem generateEvent_portCommand (component : OmxVdec) (environment : Environment) {cmd : Nat}
    (hcmd : cmd = commandPortEnable ∨ cmd = commandPortDisable) (port : Nat) :
    component.comesToWait ⟨cmd, port, .event⟩ = [] ∧
        (component.toldSince (component.generateEvent environment cmd port) = [] ∨
          component.toldSince (component.generateEvent environment cmd port) =
            [⟨.cmdComplete, cmd, port⟩]) ∨
      cmd = commandPortDisable ∧ .outputFlushInDisablePending ∈ component.mFlags ∧
        component.comesToWait ⟨cmd, port, .event⟩ = [.disableOutputDeferred] ∧
        component.toldSince (component.generateEvent environment cmd port) = [] := by
  rcases hcmd with rfl | rfl
  · left
    exact ⟨rfl, .inr (toldSince_eventHandler rfl .cmdComplete _ _)⟩
  by_cases hflush : .outputFlushInDisablePending ∈ component.mFlags
  · right
    refine ⟨rfl, hflush, if_pos ⟨rfl, hflush⟩, ?_⟩
    change component.toldSince (component.portDisableComplete environment _ _) = []
    rw [portDisableComplete, if_pos hflush]
    exact toldSince_of_eq rfl
  left
  refine ⟨if_neg fun hboth => hflush hboth.2, ?_⟩
  change component.toldSince (component.portDisableComplete environment _ _) = [] ∨
    component.toldSince (component.portDisableComplete environment _ _) = _
  rw [portDisableComplete, if_neg hflush]
  split
  · dsimp only
    split
    · exact .inr (toldSince_eventHandler rfl .cmdComplete _ _)
    · exact .inl (toldSince_omxReportError rfl)
  · exact .inr (toldSince_eventHandler rfl .cmdComplete _ _)

theorem toldSince_generateEvent_error (component : OmxVdec) (environment : Environment) (param2 : Nat) :
    component.toldSince (component.generateEvent environment eventError param2) = [] := by
  rw [generateEvent, if_neg (by decide), if_pos rfl]
  split
  · exact toldSince_eventHandler rfl .error _ _
  split
  · exact toldSince_omxReportError rfl
  · exact toldSince_eventHandler rfl .error _ _

/-! ### What a port command posts -/

variable {component : OmxVdec} {cmd : Nat}

/-- The part of a port command for one port. -/
structure IsPart (component : OmxVdec) (cmd port : Nat) (outcome : Outcome) : Prop where
  posted : outcome.posted = if component.MustWait cmd port then [] else [⟨cmd, port, .event⟩]
  bFlag : outcome.bFlag = !decide (component.MustWait cmd port)
  mCmdQ : outcome.component.mCmdQ = component.mCmdQ
  notified : outcome.component.notified = component.notified

theorem mustWait_enable (component : OmxVdec) (port : Nat) : component.MustWait commandPortEnable port ↔
    ¬(component.mState = .loaded ∧ .idlePending ∉ component.mFlags) ∧
      ¬(component.port port).allocated = true := by
  rw [MustWait, if_pos rfl, not_or]

theorem mustWait_disable (component : OmxVdec) (port : Nat) :
    component.MustWait commandPortDisable port ↔
      ¬((component.mState = .loaded ∨ component.mState = .idle) ∧ (component.port port).released = true) := by
  rw [MustWait, if_neg (by decide)]

theorem isPart_done {port : Nat} {next : OmxVdec} (hno : ¬component.MustWait cmd port)
    (hqueue : next.mCmdQ = component.mCmdQ) (hnotified : next.notified = component.notified) :
    component.IsPart cmd port ⟨next, [⟨cmd, port, .event⟩], .none, true⟩ :=
  ⟨(if_neg hno).symm, by simp [hno], hqueue, hnotified⟩

theorem isPart_pend {port : Nat} {next : OmxVdec} (hyes : component.MustWait cmd port)
    (hqueue : next.mCmdQ = component.mCmdQ) (hnotified : next.notified = component.notified) :
    component.IsPart cmd port next.pend :=
  ⟨(if_pos hyes).symm, by simp [hyes, pend], hqueue, hnotified⟩

theorem enableInput_isPart (component : OmxVdec) :
    component.IsPart commandPortEnable inputPortIndex component.enableInput := by
  have hwait := component.mustWait_enable inputPortIndex
  rw [enableInput]
  dsimp only
  split
  next hloaded => exact isPart_done (fun hmust => (hwait.mp hmust).1 hloaded) rfl rfl
  next hloaded =>
    split
    next hdone => exact isPart_done (fun hmust => (hwait.mp hmust).2 hdone) rfl rfl
    next hdone => exact isPart_pend (hwait.mpr ⟨hloaded, hdone⟩) rfl rfl

theorem enableOutput_isPart (component : OmxVdec) :
    component.IsPart commandPortEnable outputPortIndex component.enableOutput := by
  have hwait := component.mustWait_enable outputPortIndex
  rw [enableOutput]
  dsimp only
  split
  next hloaded => exact isPart_done (fun hmust => (hwait.mp hmust).1 hloaded) rfl rfl
  next hloaded =>
    split
    next hdone => exact isPart_done (fun hmust => (hwait.mp hmust).2 hdone) rfl rfl
    next hdone => exact isPart_pend (hwait.mpr ⟨hloaded, hdone⟩) rfl rfl

theorem executeOmxFlush_same (component : OmxVdec) (flushType : Nat) :
    (component.executeOmxFlush flushType).mCmdQ = component.mCmdQ ∧
      (component.executeOmxFlush flushType).notified = component.notified := by
  rw [executeOmxFlush]
  split
  · exact ⟨rfl, rfl⟩
  split <;> exact ⟨rfl, rfl⟩

theorem disableInput_isPart (component : OmxVdec) :
    component.IsPart commandPortDisable inputPortIndex component.disableInput := by
  have hwait := component.mustWait_disable inputPortIndex
  rw [disableInput]
  dsimp only
  split
  next hreleased => exact isPart_done (fun hmust => hwait.mp hmust hreleased) rfl rfl
  next hreleased =>
    have hyes := hwait.mpr hreleased
    split
    · exact isPart_pend hyes (executeOmxFlush_same _ _).1 (executeOmxFlush_same _ _).2
    · exact isPart_pend hyes rfl rfl

theorem releaseOutputDone_eq (component : OmxVdec) :
    component.releaseOutputDone.2 = component.output.released ∧
      component.releaseOutputDone.1.notified = component.notified := by
  rw [releaseOutputDone]
  split
  next hreleased => exact ⟨hreleased.symm, rfl⟩
  next hreleased => exact ⟨(Bool.eq_false_of_not_eq_true hreleased).symm, rfl⟩

theorem disableOutput_isPart (component : OmxVdec) :
    component.IsPart commandPortDisable outputPortIndex component.disableOutput := by
  have hwait := component.mustWait_disable outputPortIndex
  have htried : ∀ disabled : OmxVdec,
      (if disabled.mState = .loaded ∨ disabled.mState = .idle then disabled.releaseOutputDone
        else (disabled, false)).2 =
          (decide (disabled.mState = .loaded ∨ disabled.mState = .idle) && disabled.output.released) ∧
      (if disabled.mState = .loaded ∨ disabled.mState = .idle then disabled.releaseOutputDone
        else (disabled, false)).1.mCmdQ = disabled.mCmdQ ∧
      (if disabled.mState = .loaded ∨ disabled.mState = .idle then disabled.releaseOutputDone
        else (disabled, false)).1.notified = disabled.notified := by
    intro disabled
    split
    next hstate =>
      rw [(releaseOutputDone_eq disabled).1, decide_eq_true hstate, Bool.true_and]
      exact ⟨rfl, (releaseOutputDone_same disabled).1, (releaseOutputDone_eq disabled).2⟩
    next hstate =>
      rw [decide_eq_false hstate, Bool.false_and]
      exact ⟨rfl, rfl, rfl⟩
  obtain ⟨hdone, hqueue, hnotified⟩ :=
    htried { component with output := { component.output with bEnabled := false } }
  rw [disableOutput]
  dsimp only at hdone hqueue hnotified ⊢
  generalize (if component.mState = .loaded ∨ component.mState = .idle then _ else _) = tried
    at hdone hqueue hnotified ⊢
  obtain ⟨released, done⟩ := tried
  obtain rfl : done = _ := hdone
  cases hreleased : (decide (component.mState = .loaded ∨ component.mState = .idle) &&
      PortState.released { component.output with bEnabled := false }) with
  | true =>
    have hno : ¬component.MustWait commandPortDisable outputPortIndex := by
      rw [hwait, not_not]
      exact ⟨of_decide_eq_true (Bool.and_eq_true_iff.mp hreleased).1,
        (Bool.and_eq_true_iff.mp hreleased).2⟩
    exact isPart_done hno hqueue hnotified
  | false =>
    have hyes : component.MustWait commandPortDisable outputPortIndex := by
      rw [hwait]
      rintro ⟨hstate, hport⟩
      have htrue : (decide (component.mState = .loaded ∨ component.mState = .idle) &&
          PortState.released { component.output with bEnabled := false }) = true :=
        Bool.and_eq_true_iff.mpr ⟨decide_eq_true hstate, hport⟩
      rw [hreleased] at htrue
      cases htrue
    dsimp only
    rw [if_neg Bool.false_ne_true]
    split
    · exact isPart_pend hyes ((executeOmxFlush_same _ _).1.trans hqueue)
        ((executeOmxFlush_same _ _).2.trans hnotified)
    · exact isPart_pend hyes hqueue hnotified

theorem mustWait_output_congr {next : OmxVdec} (hstate : next.mState = component.mState)
    (hflags : .idlePending ∈ next.mFlags ↔ .idlePending ∈ component.mFlags)
    (houtput : next.output = component.output) :
    next.MustWait cmd outputPortIndex ↔ component.MustWait cmd outputPortIndex := by
  have hport : next.port outputPortIndex = component.port outputPortIndex := houtput
  rw [MustWait, MustWait, hstate, hflags, hport]

theorem idlePending_setFlag {flag : Flag} (hne : flag ≠ .idlePending) :
    .idlePending ∈ (component.setFlag flag).mFlags ↔ .idlePending ∈ component.mFlags := by
  rw [setFlag, Finset.mem_insert]
  exact or_iff_right hne.symm

theorem enableInput_output (component : OmxVdec) (cmd : Nat) :
    component.enableInput.component.MustWait cmd outputPortIndex ↔
      component.MustWait cmd outputPortIndex := by
  rw [enableInput]
  dsimp only
  split
  · exact mustWait_output_congr rfl Iff.rfl rfl
  split
  · exact mustWait_output_congr rfl Iff.rfl rfl
  · exact mustWait_output_congr rfl (idlePending_setFlag (by decide)) rfl

theorem disableInput_output (component : OmxVdec) (cmd : Nat) :
    component.disableInput.component.MustWait cmd outputPortIndex ↔
      component.MustWait cmd outputPortIndex := by
  rw [disableInput]
  dsimp only
  split
  · exact mustWait_output_congr rfl Iff.rfl rfl
  split
  · exact mustWait_output_congr rfl (idlePending_setFlag (by decide)) rfl
  · exact mustWait_output_congr rfl (idlePending_setFlag (by decide)) rfl

theorem bothParts_eq {first second : OmxVdec → Outcome} {param1 : Nat}
    (hparam : param1 = inputPortIndex ∨ param1 = outputPortIndex ∨ param1 = allPorts)
    (hfirst : component.IsPart cmd inputPortIndex (first component))
    (hsecond : ∀ component : OmxVdec, component.IsPart cmd outputPortIndex (second component))
    (houtput : (first component).component.MustWait cmd outputPortIndex ↔
      component.MustWait cmd outputPortIndex) :
    (component.bothParts param1 first second).posted =
        ((addressedPorts param1).filter fun port => !decide (component.MustWait cmd port)).map
          (fun port => ⟨cmd, port, .event⟩) ∧
      (component.bothParts param1 first second).bFlag =
        (addressedPorts param1).all (fun port => !decide (component.MustWait cmd port)) ∧
      (component.bothParts param1 first second).component.mCmdQ = component.mCmdQ ∧
      (component.bothParts param1 first second).component.notified = component.notified := by
  have hposts : ∀ port, (if component.MustWait cmd port then [] else [(⟨cmd, port, .event⟩ : OmxEvent)]) =
      ([port].filter fun port => !decide (component.MustWait cmd port)).map
        fun port => ⟨cmd, port, .event⟩ := by
    intro port
    by_cases hwait : component.MustWait cmd port
    · simp [hwait]
    · simp [hwait]
  rcases hparam with rfl | rfl | rfl
  · have hin : inputPortIndex = inputPortIndex ∨ inputPortIndex = allPorts := .inl rfl
    have hout : ¬(inputPortIndex = outputPortIndex ∨ inputPortIndex = allPorts) := by decide
    have hports : addressedPorts inputPortIndex = [inputPortIndex] := rfl
    rw [bothParts, if_pos hin, if_neg hout, hports]
    refine ⟨?_, ?_, hfirst.mCmdQ, hfirst.notified⟩
    · rw [← hposts, ← hfirst.posted]
      exact List.append_nil _
    · rw [List.all_cons, List.all_nil, ← hfirst.bFlag]
      rfl
  · have hin : ¬(outputPortIndex = inputPortIndex ∨ outputPortIndex = allPorts) := by decide
    have hout : outputPortIndex = outputPortIndex ∨ outputPortIndex = allPorts := .inl rfl
    have hports : addressedPorts outputPortIndex = [outputPortIndex] := rfl
    have hpart := hsecond component
    rw [bothParts, if_neg hin, if_pos hout, hports]
    refine ⟨?_, ?_, hpart.mCmdQ, hpart.notified⟩
    · rw [← hposts, ← hpart.posted]
      rfl
    · rw [List.all_cons, List.all_nil, ← hpart.bFlag, Bool.and_true]
      rfl
  · have hin : allPorts = inputPortIndex ∨ allPorts = allPorts := .inr rfl
    have hout : allPorts = outputPortIndex ∨ allPorts = allPorts := .inr rfl
    have hports : addressedPorts allPorts = [inputPortIndex] ++ [outputPortIndex] := rfl
    have hpart := hsecond (first component).component
    rw [bothParts, if_pos hin, if_pos hout, hports]
    refine ⟨?_, ?_, hpart.mCmdQ.trans hfirst.mCmdQ, hpart.notified.trans hfirst.notified⟩
    · rw [List.filter_append, List.map_append, ← hposts, ← hposts, ← hfirst.posted]
      have hposted := hpart.posted
      simp only [houtput] at hposted
      rw [← hposted]
    · have hflag := hpart.bFlag
      simp only [houtput] at hflag
      rw [List.all_append, List.all_cons, List.all_nil, List.all_cons, List.all_nil, ← hfirst.bFlag,
        ← hflag, Bool.and_true, Bool.and_true]

variable (ioctl : Ioctl → Bool)

theorem command_port {param1 : Nat} (hcommand : IsPortCommand cmd param1) (hstate : component.mState ≠ .invalid) :
    (component.command ioctl param1 cmd).posted =
        ((addressedPorts param1).filter fun port => !decide (component.MustWait cmd port)).map
          (fun port => ⟨cmd, port, .event⟩) ∧
      (component.command ioctl param1 cmd).eRet = .none ∧
      (component.command ioctl param1 cmd).bFlag =
        (addressedPorts param1).all (fun port => !decide (component.MustWait cmd port)) ∧
      (component.command ioctl param1 cmd).component.mCmdQ = component.mCmdQ ∧
      (component.command ioctl param1 cmd).component.notified = component.notified := by
  obtain ⟨hcmd, hparam⟩ := hcommand
  rcases hcmd with rfl | rfl
  · have heq : component.command ioctl param1 commandPortEnable =
        component.bothParts param1 enableInput enableOutput := if_neg hstate
    obtain ⟨hposted, hflag, hqueue, hnotified⟩ := bothParts_eq hparam component.enableInput_isPart
      enableOutput_isPart (component.enableInput_output _)
    rw [heq]
    exact ⟨hposted, rfl, hflag, hqueue, hnotified⟩
  · have heq : component.command ioctl param1 commandPortDisable =
        component.bothParts param1 disableInput disableOutput := if_neg hstate
    obtain ⟨hposted, hflag, hqueue, hnotified⟩ := bothParts_eq hparam component.disableInput_isPart
      disableOutput_isPart (component.disableInput_output _)
    rw [heq]
    exact ⟨hposted, rfl, hflag, hqueue, hnotified⟩

theorem commandPosts_port {param1 : Nat} (hcommand : IsPortCommand cmd param1)
    (hstate : component.mState ≠ .invalid) (hwait : ∃ port ∈ addressedPorts param1, component.MustWait cmd port) :
    component.commandPosts ioctl param1 cmd =
      ((addressedPorts param1).filter fun port => !decide (component.MustWait cmd port)).map
        (fun port => ⟨cmd, port, .event⟩) := by
  obtain ⟨hposted, -, hflag, -, -⟩ := command_port ioctl hcommand hstate
  obtain ⟨port, hport, hmust⟩ := hwait
  have hfalse : (component.command ioctl param1 cmd).bFlag = false := by
    rw [hflag, List.all_eq_false]
    exact ⟨port, hport, by simpa using hmust⟩
  rw [commandPosts, hfalse, hposted]
  exact if_neg fun hboth => Bool.false_ne_true hboth.2

theorem command_port_invalid {param1 : Nat} (hcommand : IsPortCommand cmd param1)
    (hstate : component.mState = .invalid) :
    (component.commandPosts ioctl param1 cmd = [⟨eventError, ErrorType.invalidState.toParam, .event⟩] ∨
        component.commandPosts ioctl param1 cmd = [⟨cmd, param1, .event⟩]) ∧
      (component.command ioctl param1 cmd).component = component := by
  have heq : component.command ioctl param1 cmd = component.otherInInvalid param1 := by
    rcases hcommand.1 with rfl | rfl <;> exact if_pos hstate
  rw [commandPosts, heq, otherInInvalid]
  split
  · exact ⟨.inl rfl, rfl⟩
  · exact ⟨.inr rfl, rfl⟩

/-! ### The queue behind any command -/

@[simp] theorem executeOmxFlush_mCmdQ (component : OmxVdec) (flushType : Nat) :
    (component.executeOmxFlush flushType).mCmdQ = component.mCmdQ :=
  (executeOmxFlush_same component flushType).1

theorem stateSet_mCmdQ (component : OmxVdec) (ioctl : Ioctl → Bool) (param1 : Nat) :
    (component.stateSet ioctl param1).component.mCmdQ = component.mCmdQ := by
  rw [stateSet]
  split
  · rw [fromLoaded]
    split <;> try rfl
    split
    next done hdone =>
      have hqueue := congrArg (fun result => result.1.mCmdQ) hdone
      split <;> exact hqueue.symm
  · rw [fromIdle]
    split <;> try rfl
    · split
      next done hdone =>
        have hqueue := congrArg (fun result => result.1.mCmdQ) hdone
        have hreleased := hqueue.symm.trans (releaseDone_same component).1
        split <;> exact hreleased
    · dsimp only
      split
      · rfl
      · exact omxReportError_mCmdQ _
    · split
      · rfl
      · exact omxReportError_mCmdQ _
  · rw [fromExecuting]
    split <;> try rfl
    split <;> rfl
  · rw [fromPause]
    split <;> try rfl
    split <;> rfl
  · rw [fromWaitForResources]
    split <;> rfl
  all_goals rfl

theorem bothParts_mCmdQ (param1 : Nat) {first second : OmxVdec → Outcome}
    (hfirst : (first component).component.mCmdQ = component.mCmdQ)
    (hsecond : ∀ component : OmxVdec, (second component).component.mCmdQ = component.mCmdQ) :
    (component.bothParts param1 first second).component.mCmdQ = component.mCmdQ := by
  rw [bothParts]
  dsimp only
  split
  · rw [hsecond]
    split
    · exact hfirst
    · rfl
  · split
    · exact hfirst
    · rfl

theorem flush_mCmdQ (component : OmxVdec) (param1 : Nat) :
    (component.flush param1).component.mCmdQ = component.mCmdQ := by
  rw [flush]
  dsimp only [pend]
  rw [executeOmxFlush_mCmdQ]
  split
  · split <;> rfl
  · split <;> rfl

theorem command_mCmdQ (component : OmxVdec) (ioctl : Ioctl → Bool) (param1 cmd : Nat) :
    (component.command ioctl param1 cmd).component.mCmdQ = component.mCmdQ := by
  rw [command]
  split
  · exact stateSet_mCmdQ component ioctl param1
  split
  · rw [otherInInvalid]
    split <;> rfl
  split
  · exact flush_mCmdQ component param1
  · exact bothParts_mCmdQ param1 component.enableInput_isPart.mCmdQ fun component =>
      component.enableOutput_isPart.mCmdQ
  · exact bothParts_mCmdQ param1 component.disableInput_isPart.mCmdQ fun component =>
      component.disableOutput_isPart.mCmdQ
  all_goals rfl

theorem foldl_postEvent (events : List OmxEvent) :
    ∀ component : OmxVdec, (∃ posted, posted.Sublist events ∧
      (events.foldl postEvent component).mCmdQ = component.mCmdQ ++ posted) ∧
      (events.foldl postEvent component).notified = component.notified := by
  induction events with
  | nil => exact fun component => ⟨⟨[], List.Sublist.slnil, (List.append_nil _).symm⟩, rfl⟩
  | cons event events ih =>
    intro component
    obtain ⟨⟨posted, hsublist, hqueue⟩, hnotified⟩ := ih (component.postEvent event)
    rw [List.foldl_cons, hqueue, hnotified, postEvent]
    split
    · exact ⟨⟨event :: posted, hsublist.cons_cons event, List.append_assoc _ _ _⟩, rfl⟩
    · exact ⟨⟨posted, hsublist.cons event, rfl⟩, rfl⟩

theorem sendCommandProxy_posts (component : OmxVdec) (ioctl : Ioctl → Bool) (param1 cmd : Nat) :
    ∃ posted, posted.Sublist (component.commandPosts ioctl param1 cmd) ∧
      (component.sendCommandProxy ioctl param1 cmd).mCmdQ = component.mCmdQ ++ posted := by
  obtain ⟨⟨posted, hsublist, hqueue⟩, -⟩ := foldl_postEvent (component.commandPosts ioctl param1 cmd)
    (component.command ioctl param1 cmd).component
  exact ⟨posted, hsublist, by rw [sendCommandProxy, hqueue, command_mCmdQ]⟩

theorem sendCommand_posts (component : OmxVdec) (cmd param1 : Nat) :
    ∃ posted, posted.Sublist [⟨cmd, param1, .command⟩] ∧
      (component.sendCommand cmd param1).mCmdQ = component.mCmdQ ++ posted := by
  rw [sendCommand]
  split
  · exact ⟨[], List.nil_sublist _, (List.append_nil _).symm⟩
  split
  · exact ⟨[], List.nil_sublist _, (List.append_nil _).symm⟩
  · exact (foldl_postEvent [⟨cmd, param1, .command⟩] component).1

end OmxVdec

end Nozomi
