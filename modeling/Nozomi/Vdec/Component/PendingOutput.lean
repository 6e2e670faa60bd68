import Mathlib.Data.Multiset.OrderedMonoid
import Mathlib.Tactic.Linarith
import Nozomi.Vdec.Component.FillBuffer
import Nozomi.Vdec.Component.Lossless

/-!
# Counting the output buffers at the driver

`pending_output_buffers` against the buffers that were passed to the driver and that `fill_buffer_done` has
not processed yet. A flush counts each buffer that the driver never had, and does not take it back.
-/

namespace Nozomi

def doneOf (messages : List Message) : Multiset Nat :=
  ((messages.filter fun message => message.id = .fbd).map Message.param1 : List Nat)

theorem doneOf_append (first second : List Message) :
    doneOf (first ++ second) = doneOf first + doneOf second := by
  rw [doneOf, List.filter_append, List.map_append, ← Multiset.coe_add]
  rfl

theorem doneOf_cons (message : Message) (messages : List Message) :
    doneOf (message :: messages) = doneOf [message] + doneOf messages :=
  doneOf_append [message] messages

theorem doneOf_le_of_sublist {first second : List Message} (hsublist : first.Sublist second) :
    doneOf first ≤ doneOf second :=
  Multiset.coe_le.mpr ((hsublist.filter _).map _).subperm

theorem doneOf_eq_zero {messages : List Message} (hnone : ∀ message ∈ messages, message.id ≠ .fbd) :
    doneOf messages = 0 := by
  rw [doneOf, List.filter_eq_nil_iff.mpr fun message hmem => by simpa using hnone message hmem]
  rfl

theorem doneOf_fbd {message : Message} (hid : message.id = .fbd) : doneOf [message] = {message.param1} := by
  rw [doneOf, List.filter_cons_of_pos (by simpa using hid)]
  rfl

namespace MessageQueues

variable {queues : MessageQueues}

def doneBuffers (queues : MessageQueues) : Multiset Nat := doneOf (queues.waiting .ftb)

theorem sorted_postEvent (hsorted : queues.Sorted) (message : Message) :
    (queues.postEvent message).1.Sorted := by
  obtain ⟨next, heq, hwaiting⟩ := queues.postEvent_eq message
  intro name waiting hmem
  rw [heq, hwaiting name] at hmem
  split at hmem
  next hname =>
    rcases List.mem_append.mp (List.mem_of_mem_take hmem) with hold | hnew
    · exact hsorted name waiting hold
    · rw [List.mem_singleton.mp hnew, hname]
  next => exact hsorted name waiting hmem

theorem doneBuffers_postEvent_le (queues : MessageQueues) (message : Message) :
    (queues.postEvent message).1.doneBuffers ≤ queues.doneBuffers + doneOf [message] := by
  obtain ⟨next, heq, hwaiting⟩ := queues.postEvent_eq message
  rw [heq, doneBuffers, hwaiting]
  split
  · refine le_trans (doneOf_le_of_sublist (List.take_sublist _ _)) ?_
    rw [doneOf_append]
    exact le_refl _
  · exact Multiset.le_add_right _ _

theorem doneBuffers_postEvent (queues : MessageQueues) {message : Message}
    (hname : message.id.queueName ≠ .ftb) :
    (queues.postEvent message).1.doneBuffers = queues.doneBuffers := by
  obtain ⟨next, heq, hwaiting⟩ := queues.postEvent_eq message
  rw [heq, doneBuffers, hwaiting, if_neg hname.symm, doneBuffers]

theorem nextMessage_done (hsorted : queues.Sorted) {next : MessageQueues} {message : Message}
    (hnext : queues.nextMessage = (next, some message)) :
    next.Sorted ∧ queues.doneBuffers = doneOf [message] + next.doneBuffers := by
  obtain hnone | ⟨last, first, taken, heq, hfirst, hothers⟩ := queues.nextMessage_eq
  · rw [hnone] at hnext
    cases hnext
  rw [heq] at hnext
  obtain ⟨rfl, htaken⟩ := Prod.mk.inj hnext
  obtain rfl := Option.some.inj htaken
  constructor
  · intro name waiting hmem
    apply hsorted name
    by_cases hname : name = first
    · rw [hname, hfirst]
      exact List.mem_cons_of_mem _ (hname ▸ hmem)
    · rwa [hothers name hname] at hmem
  · by_cases hname : .ftb = first
    · subst hname
      rw [doneBuffers, hfirst, doneOf_cons]
      rfl
    · have htakenName := hsorted first taken (hfirst ▸ List.mem_cons_self)
      have hnot : ∀ message ∈ [taken], message.id ≠ .fbd := by
        intro message hmem hid
        rw [List.mem_singleton.mp hmem] at hid
        rw [hid] at htakenName
        exact hname htakenName
      rw [doneOf_eq_zero hnot, zero_add, doneBuffers, doneBuffers, hothers _ hname]

end MessageQueues

namespace OutputSide

def excess (component : OutputSide) : Int :=
  component.pendingOutputBuffers + component.processed.card - component.passed.card

/-- What a part of a round does: it processes some of the buffers that it has got for it, and the count
drifts away by `leaked`. -/
structure Advances (component next : OutputSide) (available : Multiset Nat) (leaked : Nat) : Prop where
  sorted : component.queues.Sorted → next.queues.Sorted
  waiting : next.queues.doneBuffers = component.queues.doneBuffers
  passed : component.passed ≤ next.passed
  processed : ∃ processed ≤ available, next.processed = component.processed + processed
  excess : next.excess = component.excess + leaked

variable {component next last : OutputSide} {available more : Multiset Nat} {leaked spilt : Nat}

theorem Advances.trans (hfirst : Advances component next available leaked)
    (hsecond : Advances next last more spilt) :
    Advances component last (available + more) (leaked + spilt) := by
  obtain ⟨firstDone, hfirstLe, hfirstEq⟩ := hfirst.processed
  obtain ⟨secondDone, hsecondLe, hsecondEq⟩ := hsecond.processed
  refine ⟨fun hsorted => hsecond.sorted (hfirst.sorted hsorted), hsecond.waiting.trans hfirst.waiting,
    le_trans hfirst.passed hsecond.passed,
    ⟨firstDone + secondDone, add_le_add hfirstLe hsecondLe, ?_⟩, ?_⟩
  · rw [hsecondEq, hfirstEq, add_assoc]
  · rw [hsecond.excess, hfirst.excess]
    push_cast
    omega

theorem Advances.weaken (hadvances : Advances component next available leaked)
    (hle : available ≤ more) : Advances component next more leaked := by
  obtain ⟨processed, hprocessed, heq⟩ := hadvances.processed
  exact ⟨hadvances.sorted, hadvances.waiting, hadvances.passed,
    ⟨processed, le_trans hprocessed hle, heq⟩, hadvances.excess⟩

theorem advances_of_eq (hsorted : component.queues.Sorted → next.queues.Sorted)
    (hwaiting : next.queues.doneBuffers = component.queues.doneBuffers)
    (hpassed : next.passed = component.passed) (hprocessed : next.processed = component.processed)
    (hpending : next.pendingOutputBuffers = component.pendingOutputBuffers) :
    Advances component next 0 0 := by
  refine ⟨hsorted, hwaiting, le_of_eq hpassed.symm, ⟨0, le_refl _, by rw [hprocessed, add_zero]⟩, ?_⟩
  rw [excess, excess, hpassed, hprocessed, hpending]
  simp

theorem advances_refl (component : OutputSide) : Advances component component 0 0 :=
  advances_of_eq id rfl rfl rfl rfl

theorem Advances.after (hadvances : Advances component next available leaked)
    (hrest : Advances next last 0 0) : Advances component last available leaked := by
  have hboth := hadvances.trans hrest
  rwa [add_zero, Nat.add_zero] at hboth

theorem postEvent_advances (component : OutputSide) {message : Message}
    (hname : message.id.queueName ≠ .ftb) : Advances component (component.postEvent message) 0 0 :=
  advances_of_eq (fun hsorted => MessageQueues.sorted_postEvent hsorted message)
    (MessageQueues.doneBuffers_postEvent _ hname) rfl rfl rfl

theorem returnBuffer_advances (component : OutputSide) (header : Nat) :
    Advances component (component.returnBuffer header) 0 0 :=
  advances_of_eq id rfl rfl rfl rfl

theorem setHeader_advances (component : OutputSide) (header : Nat) (change : OutputHeader → OutputHeader) :
    Advances component (component.setHeader header change) 0 0 :=
  advances_of_eq id rfl rfl rfl rfl

theorem fillBufferDone_advances (component : OutputSide) (header : Nat) :
    Advances component (component.fillBufferDone header).1 {header} 0 := by
  have hclear : Advances component (component.clearFlushed header) 0 0 := by
    rw [clearFlushed]
    split
    · exact setHeader_advances _ _ _
    · exact advances_refl _
  have hcount : Advances (component.clearFlushed header)
      ((component.clearFlushed header).countDone header) {header} 0 := by
    refine ⟨id, rfl, le_refl _, ⟨{header}, le_refl _, ?_⟩, ?_⟩
    · rw [add_comm]
      rfl
    · rw [excess, excess, countDone, Multiset.card_cons]
      push_cast
      omega
  have heos : Advances ((component.clearFlushed header).countDone header)
      (((component.clearFlushed header).countDone header).outputEos header) 0 0 := by
    rw [outputEos]
    split
    · exact postEvent_advances _ (by decide)
    · exact advances_refl _
  have hall := (hclear.trans hcount).after heos
  rw [zero_add] at hall
  rw [fillBufferDone]
  split
  · exact (advances_refl component).weaken (Multiset.zero_le _)
  dsimp only
  split
  · exact hall
  split
  · exact hall
  · exact hall.after (returnBuffer_advances _ _)

def requests (messages : List Message) : Nat := messages.countP fun message => message.id = .ftb

theorem flushMessage_advances (component : OutputSide) (message : Message) :
    Advances component (component.flushMessage message) (doneOf [message]) (requests [message]) := by
  rw [flushMessage]
  split
  next hid =>
    rw [requests, List.countP_singleton, if_pos (by simpa using hid)]
    refine ⟨id, rfl, le_refl _, ⟨0, Multiset.zero_le _, (add_zero _).symm⟩, ?_⟩
    rw [excess, excess, returnBuffer]
    push_cast
    omega
  next hid =>
    rw [requests, List.countP_singleton, if_neg (by simp [hid]), doneOf_fbd hid]
    exact fillBufferDone_advances component message.param1
  next hftb hfbd =>
    rw [requests, List.countP_singleton, if_neg (by simpa using hftb)]
    exact (advances_refl component).weaken (Multiset.zero_le _)

theorem foldl_flushMessage_advances (messages : List Message) :
    ∀ component : OutputSide, Advances component (messages.foldl flushMessage component)
      (doneOf messages) (requests messages) := by
  induction messages with
  | nil => exact advances_refl
  | cons message messages ih =>
    intro component
    have hall := (flushMessage_advances component message).trans (ih (component.flushMessage message))
    rw [← doneOf_cons] at hall
    rw [requests, List.countP_cons, Nat.add_comm, ← List.countP_singleton]
    exact hall

theorem completeMessage_advances (component : OutputSide) (message : Message) :
    Advances component (component.completeMessage message) (doneOf [message]) 0 := by
  rw [completeMessage]
  split
  next hid =>
    rw [doneOf_fbd hid]
    exact fillBufferDone_advances component message.param1
  next => exact (advances_refl component).weaken (Multiset.zero_le _)

theorem foldl_completeMessage_advances (messages : List Message) :
    ∀ component : OutputSide, Advances component (messages.foldl completeMessage component)
      (doneOf messages) 0 := by
  induction messages with
  | nil => exact advances_refl
  | cons message messages ih =>
    intro component
    have hall := (completeMessage_advances component message).trans
      (ih (component.completeMessage message))
    rwa [← doneOf_cons] at hall

theorem fillThisBufferProxy_advances {header : Nat} {ioctl : Bool} {error : ErrorType}
    (hresult : component.fillThisBufferProxy header ioctl = some (next, error)) :
    Advances component next 0 0 := by
  -- What is counted and does not reach the driver is taken back.
  have hback : ∀ counted : OutputSide,
      Advances { component with pendingOutputBuffers := component.pendingOutputBuffers + 1 } counted 0 0 →
      Advances component { counted with pendingOutputBuffers := counted.pendingOutputBuffers - 1 } 0 0 := by
    intro counted hcounted
    refine ⟨hcounted.sorted, hcounted.waiting, hcounted.passed, hcounted.processed, ?_⟩
    have hexcess := hcounted.excess
    simp only [excess] at hexcess ⊢
    push_cast at hexcess ⊢
    omega
  rw [fillThisBufferProxy] at hresult
  split at hresult
  · cases hresult
    exact advances_refl component
  split at hresult
  · cases hresult
    split
    · exact returnBuffer_advances _ _
    · exact (setHeader_advances _ _ _).after (returnBuffer_advances _ _)
  dsimp only at hresult
  split at hresult
  · cases hresult
  split at hresult
  · split at hresult
    · cases hresult
      refine ⟨id, rfl, Multiset.le_cons_self _ _, ⟨0, le_refl _, (add_zero _).symm⟩, ?_⟩
      rw [excess, excess, Multiset.card_cons]
      push_cast
      omega
    · cases hresult
      exact hback _ (returnBuffer_advances _ _)
  · cases hresult
    exact hback _ ((setHeader_advances _ _ _).after (returnBuffer_advances _ _))

/-- What a whole step does: the buffers that wait to be returned are processed or go on waiting, and the
count drifts away by `leaked`. -/
structure Settles (component next : OutputSide) (leaked : Nat) : Prop where
  sorted : next.queues.Sorted
  done : next.processed + next.queues.doneBuffers ≤ component.processed + component.queues.doneBuffers
  passed : component.passed ≤ next.passed
  excess : next.excess = component.excess + leaked

def requestsFlushed (component : OutputSide) : Nat :=
  match component.queues.nextMessage with
  | (queues, some message) =>
    if message.id = .control .eventOutputFlush ∧ component.output.flushProgress then
      requests (queues.waiting .ftb)
    else 0
  | (_, none) => 0

theorem Advances.settles {queues : MessageQueues}
    (hadvances : Advances { component with queues := queues } next available leaked)
    (hsorted : queues.Sorted) (hdone : available + queues.doneBuffers ≤ component.queues.doneBuffers) :
    Settles component next leaked := by
  obtain ⟨processed, hprocessed, heq⟩ := hadvances.processed
  refine ⟨hadvances.sorted hsorted, ?_, hadvances.passed, hadvances.excess⟩
  rw [hadvances.waiting, heq, add_assoc]
  exact add_le_add_right (le_trans (add_le_add_left hprocessed _) hdone) _

theorem executeOutputFlush_settles (hsorted : component.queues.Sorted) :
    Settles component component.executeOutputFlush (requests (component.queues.waiting .ftb)) := by
  obtain ⟨queues, heq, hnil, hothers⟩ := component.queues.executeOutputFlush_eq
  have hqueues : queues.Sorted := by
    intro name message hmem
    by_cases hname : name = .ftb
    · rw [hname, hnil] at hmem
      exact absurd hmem List.not_mem_nil
    · exact hsorted name message (hothers name hname ▸ hmem)
  have hnone : queues.doneBuffers = 0 := by
    rw [MessageQueues.doneBuffers, hnil]
    rfl
  have hflush := foldl_flushMessage_advances (component.queues.waiting .ftb)
    { component with queues := queues }
  rw [executeOutputFlush, heq]
  have hall := hflush.settles hqueues (by rw [hnone, add_zero]; exact le_refl _)
  exact ⟨hall.sorted, hall.done, hall.passed, hall.excess⟩

theorem completePendingBufferDoneCbs_settles (hsorted : component.queues.Sorted) :
    Settles component component.completePendingBufferDoneCbs 0 := by
  obtain ⟨queues, heq, hcmd, hftb, hetb⟩ := component.queues.completePending_eq
  have hqueues : queues.Sorted := by
    intro name message hmem
    apply hsorted name
    cases name with
    | cmd => exact hcmd ▸ hmem
    | ftb => exact List.mem_of_mem_filter (hftb ▸ hmem)
    | etb => exact List.mem_of_mem_filter (hetb ▸ hmem)
  have hnone : queues.doneBuffers = 0 := by
    rw [MessageQueues.doneBuffers, hftb]
    exact doneOf_eq_zero fun message hmem => by simpa using (List.mem_filter.mp hmem).2
  have htaken : doneOf (component.queues.bufferDones.take cmdqSize) ≤ component.queues.doneBuffers := by
    have hinput : doneOf ((component.queues.waiting .etb).filter fun message => message.id = .ebd) = 0 := by
      apply doneOf_eq_zero
      intro message hmem hid
      have hebd := (List.mem_filter.mp hmem).2
      rw [hid] at hebd
      exact absurd hebd (by decide)
    refine le_trans (doneOf_le_of_sublist (List.take_sublist _ _)) ?_
    rw [MessageQueues.bufferDones, doneOf_append, hinput, add_zero]
    exact doneOf_le_of_sublist List.filter_sublist
  have hcomplete := foldl_completeMessage_advances (component.queues.bufferDones.take cmdqSize)
    { component with queues := queues }
  rw [completePendingBufferDoneCbs, heq]
  exact hcomplete.settles hqueues (by rw [hnone, add_zero]; exact htaken)

theorem settles_refl (hsorted : component.queues.Sorted) : Settles component component 0 :=
  ⟨hsorted, le_refl _, le_refl _, by simp⟩

theorem Settles.after_message {queues : MessageQueues} {message : Message}
    (hsettles : Settles { component with queues := queues } next leaked)
    (hdone : component.queues.doneBuffers = doneOf [message] + queues.doneBuffers) :
    Settles component next leaked := by
  refine ⟨hsettles.sorted, le_trans hsettles.done (add_le_add_right ?_ _), hsettles.passed,
    hsettles.excess⟩
  rw [hdone]
  exact Multiset.le_add_left _ _

theorem processEvent_settles (hsorted : component.queues.Sorted) {ioctl : Bool}
    (hnext : component.processEvent ioctl = some next) :
    Settles component next component.requestsFlushed := by
  rw [processEvent] at hnext
  rw [requestsFlushed]
  rcases hmessage : component.queues.nextMessage with ⟨queues, taken⟩
  rw [hmessage] at hnext
  cases taken with
  | none =>
    obtain rfl := Option.some.inj hnext
    exact settles_refl hsorted
  | some message =>
    obtain ⟨hqueues, hdone⟩ := MessageQueues.nextMessage_done hsorted hmessage
    have hnothing : Settles component { component with queues := queues } 0 :=
      (settles_refl hqueues).after_message hdone
    dsimp only at hnext ⊢
    rw [handleMessage] at hnext
    split at hnext
    next hid =>
      rw [if_neg (by simp [hid])]
      obtain ⟨⟨result, error⟩, hresult, hlast⟩ := Option.map_eq_some_iff.mp hnext
      obtain rfl : result = next := hlast
      exact (fillThisBufferProxy_advances hresult).settles hqueues
        (by rw [hdone, zero_add]; exact Multiset.le_add_left _ _)
    next hid =>
      rw [if_neg (by simp [hid])]
      split at hnext
      · obtain rfl := Option.some.inj hnext
        exact hnothing
      · obtain rfl := Option.some.inj hnext
        exact (fillBufferDone_advances _ message.param1).settles hqueues
          (by rw [hdone, doneOf_fbd hid])
    next hid =>
      split at hnext
      next hidle =>
        obtain rfl := Option.some.inj hnext
        rw [if_neg (by simpa using fun _ => hidle)]
        exact hnothing
      next hflushing =>
        obtain rfl := Option.some.inj hnext
        rw [if_pos ⟨hid, by simpa using hflushing⟩]
        exact (@executeOutputFlush_settles { component with queues := queues } hqueues).after_message hdone
    next hid =>
      rw [if_neg (by simp [hid])]
      split at hnext
      · obtain rfl := Option.some.inj hnext
        exact hnothing
      · obtain rfl := Option.some.inj hnext
        exact (@completePendingBufferDoneCbs_settles { component with queues := queues }
          hqueues).after_message hdone
    next hid =>
      rw [if_neg (by simp [hid])]
      split at hnext
      · obtain rfl := Option.some.inj hnext
        exact hnothing
      · obtain rfl := Option.some.inj hnext
        exact (@completePendingBufferDoneCbs_settles { component with queues := queues }
          hqueues).after_message hdone
    next hflush _ _ =>
      obtain rfl := Option.some.inj hnext
      rw [if_neg (fun hboth => hflush hboth.1)]
      exact hnothing

end OutputSide

/-! ### Whole runs -/

namespace OutputSystem

variable {system next last : OutputSystem}

/-- What every run keeps: what was processed or waits to be processed was given back by the driver, and
what was given back was passed to it before. -/
structure Balanced (system : OutputSystem) : Prop where
  sorted : system.component.queues.Sorted
  done : system.component.processed + system.component.queues.doneBuffers ≤ system.givenBack
  givenBack : system.givenBack ≤ system.component.passed

def leaks (system : OutputSystem) : OutputAction → Nat
  | .processEvent _ => system.component.requestsFlushed
  | _ => 0

/-- No output flush of the step takes out a buffer that the client has posted. -/
def FlushesNoRequest (system : OutputSystem) (action : OutputAction) : Prop := system.leaks action = 0

instance (system : OutputSystem) (action : OutputAction) : Decidable (system.FlushesNoRequest action) :=
  inferInstanceAs (Decidable (_ = _))

theorem balanced_init (output : PortState) (headers : Nat → OutputHeader) :
    (init output headers).Balanced := by
  refine ⟨fun name message hmem => ?_, le_refl _, le_refl _⟩
  cases name <;> exact absurd hmem List.not_mem_nil

theorem Balanced.of_settles (hbalanced : system.Balanced) {component : OutputSide} {leaked : Nat}
    (hsettles : OutputSide.Settles system.component component leaked) :
    Balanced { system with component := component } :=
  ⟨hsettles.sorted, le_trans hsettles.done hbalanced.done,
    le_trans hbalanced.givenBack hsettles.passed⟩

theorem fillThisBuffer_settles {component : OutputSide} (hsorted : component.queues.Sorted)
    (hComp header nOutputPortIndex : Nat) :
    OutputSide.Settles component (component.fillThisBuffer hComp header nOutputPortIndex).1 0 := by
  rw [OutputSide.fillThisBuffer]
  split
  · exact OutputSide.settles_refl hsorted
  split
  · exact OutputSide.settles_refl hsorted
  split
  · exact OutputSide.settles_refl hsorted
  split
  · exact OutputSide.settles_refl hsorted
  · refine ⟨MessageQueues.sorted_postEvent hsorted _, add_le_add_right ?_ _, le_refl _, by
      simp [OutputSide.excess, OutputSide.postEvent]⟩
    have hposted := MessageQueues.doneBuffers_postEvent_le component.queues ⟨hComp, header, .ftb⟩
    rwa [doneOf_eq_zero (by simp), add_zero] at hposted

theorem copyFrame_advances (component : OutputSide) (frame : OutputFrame) :
    OutputSide.Advances component (component.copyFrame frame) 0 0 := by
  rw [OutputSide.copyFrame]
  split
  · have hset := OutputSide.setHeader_advances component frame.clientData fun header =>
      { header with nFilledLen := frame.len, nFlags := frame.flags }
    dsimp only
    split
    · exact hset.after (OutputSide.advances_of_eq
        (fun hsorted => MessageQueues.sorted_postEvent hsorted _)
        (MessageQueues.doneBuffers_postEvent _ (by decide)) rfl rfl rfl)
    · exact hset
  · exact OutputSide.setHeader_advances _ _ _

theorem outputBufferDone_eq (component : OutputSide) (frame : OutputFrame) (status : Nat) :
    ∃ prepared, OutputSide.Advances component prepared 0 0 ∧
      (component.outputBufferDone frame status = prepared ∨
        component.outputBufferDone frame status =
          prepared.postEvent ⟨frame.clientData, status, .fbd⟩) := by
  rw [OutputSide.outputBufferDone]
  split
  · exact ⟨_, copyFrame_advances component frame, .inr rfl⟩
  · split
    · exact ⟨_, OutputSide.postEvent_advances _ (by simp [MessageId.queueName]), .inl rfl⟩
    · exact ⟨_, OutputSide.postEvent_advances _ (by simp [MessageId.queueName]), .inl rfl⟩

theorem outputBufferDone_balanced (hbalanced : system.Balanced) (frame : OutputFrame) (status : Nat)
    (hheld : frame.clientData ∈ system.component.passed - system.givenBack) :
    Balanced ⟨system.component.outputBufferDone frame status,
        frame.clientData ::ₘ system.givenBack⟩ ∧
      (system.component.outputBufferDone frame status).excess = system.component.excess := by
  obtain ⟨prepared, hadvances, heq⟩ := outputBufferDone_eq system.component frame status
  obtain ⟨processed, hprocessed, hprepared⟩ := hadvances.processed
  obtain rfl := Multiset.le_zero.mp hprocessed
  rw [add_zero] at hprepared
  have hgiven : frame.clientData ::ₘ system.givenBack ≤ system.component.passed := by
    have hadded := add_le_add_left (Multiset.singleton_le.mpr hheld) system.givenBack
    rwa [tsub_add_cancel_of_le hbalanced.givenBack, Multiset.singleton_add] at hadded
  have hdone : prepared.processed + prepared.queues.doneBuffers ≤ system.givenBack := by
    rw [hprepared, hadvances.waiting]
    exact hbalanced.done
  have hsorted := hadvances.sorted hbalanced.sorted
  have hexcess : prepared.excess = system.component.excess := by
    rw [hadvances.excess]
    simp
  rcases heq with heq | heq
  · rw [heq]
    exact ⟨⟨hsorted, le_trans hdone (Multiset.le_cons_self _ _), le_trans hgiven hadvances.passed⟩,
      hexcess⟩
  rw [heq]
  refine ⟨⟨MessageQueues.sorted_postEvent hsorted _, ?_, le_trans hgiven hadvances.passed⟩, hexcess⟩
  have hposted := MessageQueues.doneBuffers_postEvent_le prepared.queues
    ⟨frame.clientData, status, .fbd⟩
  rw [doneOf_fbd rfl] at hposted
  calc prepared.processed + (prepared.queues.postEvent ⟨frame.clientData, status, .fbd⟩).1.doneBuffers
      ≤ prepared.processed + (prepared.queues.doneBuffers + {frame.clientData}) :=
        add_le_add_right hposted _
    _ ≤ system.givenBack + {frame.clientData} := by
        rw [← add_assoc]
        exact add_le_add_left hdone _
    _ = frame.clientData ::ₘ system.givenBack := by
        rw [add_comm, Multiset.singleton_add]

theorem step_balanced {action : OutputAction} (hbalanced : system.Balanced)
    (hstep : system.step action = some next) :
    next.Balanced ∧ next.component.excess = system.component.excess + system.leaks action := by
  cases action with
  | fillThisBuffer hComp header nOutputPortIndex =>
    obtain rfl := Option.some.inj hstep
    have hsettles := fillThisBuffer_settles hbalanced.sorted hComp header nOutputPortIndex
    exact ⟨hbalanced.of_settles hsettles, hsettles.excess⟩
  | outputBufferDone frame status =>
    rw [step] at hstep
    split at hstep
    next hheld =>
      obtain rfl := Option.some.inj hstep
      obtain ⟨hnext, hexcess⟩ := outputBufferDone_balanced hbalanced frame status hheld
      exact ⟨hnext, hexcess.trans (add_zero _).symm⟩
    next => cases hstep
  | processEvent ioctl =>
    obtain ⟨component, hcomponent, hlast⟩ := Option.map_eq_some_iff.mp hstep
    obtain rfl := hlast
    have hsettles := OutputSide.processEvent_settles hbalanced.sorted hcomponent
    exact ⟨hbalanced.of_settles hsettles, hsettles.excess⟩
  | postEvent message =>
    rw [step] at hstep
    split at hstep
    · cases hstep
    next hname =>
      obtain rfl := Option.some.inj hstep
      have hsettles : OutputSide.Settles system.component (system.component.postEvent message) 0 :=
        (OutputSide.postEvent_advances system.component hname).settles hbalanced.sorted
          (by rw [zero_add])
      exact ⟨hbalanced.of_settles hsettles, hsettles.excess⟩
  | executeOmxFlush | setMembers output colorConvert hasFillBufferDone headers =>
    obtain rfl := Option.some.inj hstep
    exact ⟨⟨hbalanced.sorted, hbalanced.done, hbalanced.givenBack⟩, (add_zero _).symm⟩
  | setState state =>
    obtain rfl := Option.some.inj hstep
    refine ⟨⟨fun name message hmem => hbalanced.sorted name message ?_, hbalanced.done,
      hbalanced.givenBack⟩, (add_zero _).symm⟩
    cases name <;> exact hmem

theorem run_excess (actions : List OutputAction) :
    ∀ system : OutputSystem, system.Balanced → runSteps step system actions = some last →
      last.Balanced ∧ system.component.excess ≤ last.component.excess ∧
        (last.component.excess = system.component.excess ↔
          RunMeets step FlushesNoRequest system actions) := by
  induction actions with
  | nil =>
    intro system hbalanced hrun
    obtain rfl := Option.some.inj hrun
    exact ⟨hbalanced, le_refl _, iff_of_true rfl trivial⟩
  | cons action actions ih =>
    intro system hbalanced hrun
    obtain ⟨next, hnext, hlast⟩ := runSteps_cons hrun
    obtain ⟨hnextBalanced, hleaked⟩ := step_balanced hbalanced hnext
    obtain ⟨hlastBalanced, hle, hiff⟩ := ih next hnextBalanced hlast
    refine ⟨hlastBalanced, by omega, ?_⟩
    simp only [RunMeets, hnext, Option.some.injEq, forall_eq']
    rw [← hiff, FlushesNoRequest]
    constructor
    · intro hsame
      omega
    · rintro ⟨hnone, hsame⟩
      omega

/-- In every run `pending_output_buffers` is the number of buffers that were passed to the driver and not
processed yet exactly if no output flush has taken out a buffer that the client had posted. -/
theorem pendingOutputBuffers_eq_iff {output : PortState} {headers : Nat → OutputHeader}
    {actions : List OutputAction} (hrun : runSteps step (init output headers) actions = some last) :
    last.component.pendingOutputBuffers = last.outstanding.card ↔
      RunMeets step FlushesNoRequest (init output headers) actions := by
  obtain ⟨hbalanced, -, hiff⟩ := run_excess actions _ (balanced_init output headers) hrun
  have hprocessed : last.component.processed ≤ last.component.passed :=
    le_trans (le_trans (Multiset.le_add_right _ _) hbalanced.done) hbalanced.givenBack
  have hcard := Multiset.card_le_card hprocessed
  have hinit : (init output headers).component.excess = 0 := rfl
  rw [← hiff, hinit, OutputSide.excess, outstanding, Multiset.card_sub hprocessed]
  omega

def sampleHeaders (_ : Nat) : OutputHeader := ⟨4096, 0, ⟨false, false, false, false⟩, some ⟨0, true⟩⟩

def samplePort : PortState := ⟨true, true, true, {0}, 1, false⟩

def sampleActions : List OutputAction :=
  [.fillThisBuffer 0 1 1, .processEvent true,
    .outputBufferDone ⟨1, 0, ⟨false, false, false, false⟩, ⟨0, 0, 0, 0⟩⟩ vdecSuccess,
    .processEvent true, .fillThisBuffer 0 1 1, .processEvent true]

theorem pendingOutputBuffers_eq_iff_sample : ∃ last,
    runSteps step (init samplePort sampleHeaders) sampleActions = some last ∧
      last.component.pendingOutputBuffers = 1 ∧
      last.component.pendingOutputBuffers = last.outstanding.card :=
  ⟨_, rfl, rfl, (@pendingOutputBuffers_eq_iff _ samplePort sampleHeaders sampleActions rfl).mpr
    (by decide)⟩

/-- A flush takes out a buffer before a round has passed it to the driver. -/
theorem pendingOutputBuffers_flushed : ∃ last,
    runSteps step (init samplePort sampleHeaders)
      [.fillThisBuffer 0 1 1, .executeOmxFlush, .postEvent ⟨0, vdecSuccess, .control .eventOutputFlush⟩,
        .processEvent true] = some last ∧
      last.component.pendingOutputBuffers ≠ last.outstanding.card :=
  ⟨_, rfl, by decide⟩

end OutputSystem

end Nozomi
