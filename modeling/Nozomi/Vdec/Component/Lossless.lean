import Nozomi.Vdec.Component.Queues

/-!
# Which messages are lost or overtaken

What was posted to a queue is what was taken out of it, followed by what still waits in it. This breaks
where a message is posted to a ring that is full, and where a message about a buffer that is done waits
behind one of another kind when the driver has paused or stopped.
-/

namespace Nozomi

namespace MessageQueues

variable {queues : MessageQueues}

def waiting (queues : MessageQueues) (name : QueueName) : List Message := (queues.queue name).contents

theorem length_waiting_le (queues : MessageQueues) (name : QueueName) :
    (queues.waiting name).length ≤ cmdqSize := by
  rw [waiting, Ring.length_contents]
  exact (queues.queue name).size_le

def Sorted (queues : MessageQueues) : Prop :=
  ∀ name, ∀ message ∈ queues.waiting name, message.id.queueName = name

theorem postEvent_eq (queues : MessageQueues) (message : Message) :
    ∃ next, queues.postEvent message = (next, true) ∧ ∀ name,
      next.waiting name = if name = message.id.queueName then
        (queues.waiting name ++ [message]).take cmdqSize else queues.waiting name := by
  rw [postEvent]
  cases hname : message.id.queueName with
  | cmd =>
    refine ⟨_, rfl, fun name => ?_⟩
    cases name with
    | cmd => exact Ring.contents_insert_eq_take message
    | ftb => rfl
    | etb => rfl
  | ftb =>
    refine ⟨_, rfl, fun name => ?_⟩
    cases name with
    | ftb => exact Ring.contents_insert_eq_take message
    | cmd => rfl
    | etb => rfl
  | etb =>
    refine ⟨_, rfl, fun name => ?_⟩
    cases name with
    | etb => exact Ring.contents_insert_eq_take message
    | cmd => rfl
    | ftb => rfl

theorem nextMessage_eq (queues : MessageQueues) :
    queues.nextMessage = (queues, none) ∨
    ∃ next first message, queues.nextMessage = (next, some message) ∧
      queues.waiting first = message :: next.waiting first ∧
      ∀ name, name ≠ first → next.waiting name = queues.waiting name := by
  have hpop : ∀ queue : OmxCmdQueue, queue.popEntry = (queue, none) ∨
      ∃ next message, queue.popEntry = (next, some message) ∧ queue.contents = message :: next.contents := by
    intro queue
    cases hcontents : queue.contents with
    | nil => exact .inl (Ring.pop_of_nil hcontents)
    | cons message rest =>
      obtain ⟨next, heq, hnext⟩ := Ring.pop_of_cons hcontents
      exact .inr ⟨next, message, heq, by rw [hnext]⟩
  rw [nextMessage]
  obtain hcmd | ⟨next, message, hcmd, hcontents⟩ := hpop queues.mCmdQ
  · rw [hcmd]
    dsimp only
    split
    · exact .inl rfl
    obtain hftb | ⟨next, message, hftb, hcontents⟩ := hpop queues.mFtbQ
    · rw [hftb]
      obtain hetb | ⟨next, message, hetb, hcontents⟩ := hpop queues.mEtbQ
      · rw [hetb]
        exact .inl rfl
      · rw [hetb]
        refine .inr ⟨_, .etb, message, rfl, hcontents, fun name hname => ?_⟩
        cases name with
        | etb => exact absurd rfl hname
        | cmd => rfl
        | ftb => rfl
    · rw [hftb]
      refine .inr ⟨_, .ftb, message, rfl, hcontents, fun name hname => ?_⟩
      cases name with
      | ftb => exact absurd rfl hname
      | cmd => rfl
      | etb => rfl
  · rw [hcmd]
    refine .inr ⟨_, .cmd, message, rfl, hcontents, fun name hname => ?_⟩
    cases name with
    | cmd => exact absurd rfl hname
    | ftb => rfl
    | etb => rfl

theorem executeOutputFlush_eq (queues : MessageQueues) :
    ∃ next, queues.executeOutputFlush = (next, queues.waiting .ftb) ∧ next.waiting .ftb = [] ∧
      ∀ name, name ≠ .ftb → next.waiting name = queues.waiting name := by
  obtain ⟨ftbQ, hdrain, hnil⟩ := Ring.drain_eq queues.mFtbQ
  refine ⟨{ queues with mFtbQ := ftbQ }, ?_, hnil, fun name hname => ?_⟩
  · rw [executeOutputFlush, hdrain]
    rfl
  · cases name with
    | ftb => exact absurd rfl hname
    | cmd => rfl
    | etb => rfl

theorem executeInputFlush_eq (queues : MessageQueues) :
    ∃ next, queues.executeInputFlush = (next, queues.waiting .etb) ∧ next.waiting .etb = [] ∧
      ∀ name, name ≠ .etb → next.waiting name = queues.waiting name := by
  obtain ⟨etbQ, hdrain, hnil⟩ := Ring.drain_eq queues.mEtbQ
  refine ⟨{ queues with mEtbQ := etbQ }, ?_, hnil, fun name hname => ?_⟩
  · rw [executeInputFlush, hdrain]
    rfl
  · cases name with
    | etb => exact absurd rfl hname
    | cmd => rfl
    | ftb => rfl

def bufferDones (queues : MessageQueues) : List Message :=
  (queues.waiting .ftb).filter (fun message => message.id = .fbd) ++
    (queues.waiting .etb).filter fun message => message.id = .ebd

theorem completePending_eq (queues : MessageQueues) :
    ∃ next, queues.completePending = (next, queues.bufferDones.take cmdqSize) ∧
      next.waiting .cmd = queues.waiting .cmd ∧
      next.waiting .ftb = (queues.waiting .ftb).filter (fun message => message.id ≠ .fbd) ∧
      next.waiting .etb = (queues.waiting .etb).filter fun message => message.id ≠ .ebd := by
  have hlength : ∀ name (test : Message → Bool), ((queues.waiting name).filter test).length ≤ cmdqSize :=
    fun name test => Nat.le_trans (List.length_filter_le _ _) (queues.length_waiting_le name)
  have hinit : OmxCmdQueue.init.contents = [] := rfl
  obtain ⟨ftbQ, hftb, hftbNil⟩ := Ring.drain_eq queues.mFtbQ
  obtain ⟨etbQ, hetb, hetbNil⟩ := Ring.drain_eq queues.mEtbQ
  have hall : ∀ (ring : OmxCmdQueue) name (test : Message → Bool), ring.contents = [] →
      (ring.insertAll ((queues.waiting name).filter test)).contents = (queues.waiting name).filter test := by
    intro ring name test hnil
    rw [Ring.contents_insertAll_of_le (by rw [hnil]; simpa using hlength name test), hnil,
      List.nil_append]
  have hwaitingFtb : queues.mFtbQ.contents = queues.waiting .ftb := rfl
  have hwaitingEtb : queues.mEtbQ.contents = queues.waiting .etb := rfl
  obtain ⟨tmpQ, htmp, htmpNil⟩ := Ring.drain_eq (OmxCmdQueue.init.insertAll
    ((queues.waiting .ftb).filter fun message => message.id ≠ .fbd))
  obtain ⟨tmpLast, htmpLast, -⟩ := Ring.drain_eq (tmpQ.insertAll
    ((queues.waiting .etb).filter fun message => message.id ≠ .ebd))
  obtain ⟨pendingBdQ, hpending, -⟩ := Ring.drain_eq ((OmxCmdQueue.init.insertAll
    ((queues.waiting .ftb).filter fun message => message.id = .fbd)).insertAll
      ((queues.waiting .etb).filter fun message => message.id = .ebd))
  rw [hall _ _ _ hinit] at htmp
  rw [hall _ _ _ htmpNil] at htmpLast
  rw [Ring.contents_insertAll, hall _ _ _ hinit] at hpending
  refine ⟨{ queues with
    mFtbQ := ftbQ.insertAll ((queues.waiting .ftb).filter fun message => message.id ≠ .fbd)
    mEtbQ := etbQ.insertAll ((queues.waiting .etb).filter fun message => message.id ≠ .ebd) }, ?_, rfl,
    hall _ _ _ hftbNil, hall _ _ _ hetbNil⟩
  rw [completePending, hftb, hetb, hwaitingFtb, hwaitingEtb]
  dsimp only
  rw [htmp, hpending]
  dsimp only
  rw [htmpLast]
  rfl

/-- `complete_pending_buffer_done_cbs` hands every buffer that is done to its callback, in the order of the
queue, and leaves the other messages in theirs. -/
structure CompletesDones (queues : MessageQueues) : Prop where
  fillBufferDone : queues.completePending.2.filter (fun message => message.id = .fbd) =
    (queues.waiting .ftb).filter fun message => message.id = .fbd
  emptyBufferDone : queues.completePending.2.filter (fun message => message.id = .ebd) =
    (queues.waiting .etb).filter fun message => message.id = .ebd
  ftb : queues.completePending.1.waiting .ftb =
    (queues.waiting .ftb).filter fun message => message.id ≠ .fbd
  etb : queues.completePending.1.waiting .etb =
    (queues.waiting .etb).filter fun message => message.id ≠ .ebd

theorem bufferDones_filter (queues : MessageQueues) :
    queues.bufferDones.filter (fun message => message.id = .fbd) =
        (queues.waiting .ftb).filter (fun message => message.id = .fbd) ∧
      queues.bufferDones.filter (fun message => message.id = .ebd) =
        (queues.waiting .etb).filter fun message => message.id = .ebd := by
  have hother : ∀ (messages : List Message) (kind other : MessageId), kind ≠ other →
      (messages.filter fun message => message.id = kind).filter (fun message => message.id = other) = [] := by
    intro messages kind other hne
    rw [List.filter_eq_nil_iff]
    intro message hmessage
    have hkind := (List.mem_filter.mp hmessage).2
    simp only [decide_eq_true_eq] at hkind ⊢
    rw [hkind]
    exact hne
  have hsame : ∀ (messages : List Message) (kind : MessageId),
      (messages.filter fun message => message.id = kind).filter (fun message => message.id = kind) =
        messages.filter fun message => message.id = kind := by
    intro messages kind
    rw [List.filter_filter]
    simp only [Bool.and_self]
  constructor
  · rw [bufferDones, List.filter_append, hsame, hother _ _ _ (by decide), List.append_nil]
  · rw [bufferDones, List.filter_append, hsame, hother _ _ _ (by decide), List.nil_append]

theorem completesDones_iff_fit (queues : MessageQueues) :
    queues.CompletesDones ↔ queues.bufferDones.length ≤ cmdqSize := by
  obtain ⟨next, hcomplete, -, hftb, hetb⟩ := queues.completePending_eq
  obtain ⟨hfbd, hebd⟩ := queues.bufferDones_filter
  constructor
  · intro hdones
    have hfilled := hdones.fillBufferDone
    have hemptied := hdones.emptyBufferDone
    rw [hcomplete] at hfilled hemptied
    have hsum : ∀ messages : List Message, (messages.filter fun message => message.id = .fbd).length +
        (messages.filter fun message => message.id = .ebd).length ≤ messages.length := by
      intro messages
      induction messages with
      | nil => exact Nat.le_refl _
      | cons message messages ih =>
        rw [List.filter_cons, List.filter_cons]
        cases hid : message.id <;> simp <;> omega
    have hcut := hsum (queues.bufferDones.take cmdqSize)
    rw [hfilled, hemptied, ← List.length_append] at hcut
    exact Nat.le_trans hcut (List.length_take_le cmdqSize queues.bufferDones)
  · intro hfit
    have htake : queues.bufferDones.take cmdqSize = queues.bufferDones := List.take_of_length_le hfit
    rw [htake] at hcomplete
    refine ⟨?_, ?_, ?_, ?_⟩
    · rw [hcomplete, hfbd]
    · rw [hcomplete, hebd]
    · rw [hcomplete, hftb]
    · rw [hcomplete, hetb]

def crowdedQueues : MessageQueues where
  mState := .executing
  mCmdQ := .init
  mFtbQ := OmxCmdQueue.init.insertAll (List.replicate 51 ⟨0, 0, .fbd⟩)
  mEtbQ := OmxCmdQueue.init.insertAll (List.replicate 50 ⟨0, 0, .ebd⟩)

/-- The buffers that are done all reach their callbacks exactly if those of both queues together fit one ring. -/
theorem completePending_completes_iff (queues : MessageQueues) :
    queues.CompletesDones ↔
      ((queues.waiting .ftb).filter fun message => message.id = .fbd).length +
        ((queues.waiting .etb).filter fun message => message.id = .ebd).length ≤ cmdqSize := by
  rw [completesDones_iff_fit, bufferDones, List.length_append]

theorem crowdedQueues_not_completesDones : ¬crowdedQueues.CompletesDones := by
  rw [completesDones_iff_fit]
  decide +kernel

end MessageQueues

/-! ### One step -/

def Leads (test : Message → Bool) (messages : List Message) : Prop :=
  messages = messages.filter test ++ messages.filter fun message => !test message

instance (test : Message → Bool) (messages : List Message) : Decidable (Leads test messages) :=
  inferInstanceAs (Decidable (_ = _))

theorem leads_iff_prefix {test : Message → Bool} {messages : List Message} :
    Leads test messages ↔ messages.filter test <+: messages := by
  constructor
  · intro hleads
    exact ⟨_, hleads.symm⟩
  · rintro ⟨rest, heq⟩
    have hpassed := congrArg (List.filter test) heq
    rw [List.filter_append, List.filter_filter] at hpassed
    simp only [Bool.and_self, List.append_right_eq_self] at hpassed
    have hothers := congrArg (List.filter fun message => !test message) heq
    rw [List.filter_append, List.filter_filter] at hothers
    simp only [Bool.not_and_self, List.filter_false, List.nil_append] at hothers
    have hrest : rest.filter (fun message => !test message) = rest := by
      rw [List.filter_eq_self]
      intro message hmessage
      have hnot := List.filter_eq_nil_iff.mp hpassed message hmessage
      simpa using hnot
    rw [Leads, ← hothers, hrest, heq]

namespace Traffic

/-- What was posted to each queue was taken out of it or waits in it, in the same order. -/
def Lossless (traffic : Traffic) : Prop :=
  ∀ name, traffic.accepted name = traffic.delivered name ++ traffic.queues.waiting name

/-- The step loses no message and none overtakes another: a message is posted to a ring with room, and
the messages about buffers that are done come first and fit `pending_bd_q` when they are completed. -/
def KeepsOrder (traffic : Traffic) : QueueAction → Prop
  | .postEvent message => (traffic.queues.waiting message.id.queueName).length < cmdqSize
  | .completePending =>
    Leads (fun message => message.id = .fbd) (traffic.queues.waiting .ftb) ∧
      Leads (fun message => message.id = .ebd) (traffic.queues.waiting .etb) ∧
      traffic.queues.bufferDones.length ≤ cmdqSize
  | .nextMessage | .executeOutputFlush | .executeInputFlush | .setState _ => True

instance (traffic : Traffic) : ∀ action, Decidable (traffic.KeepsOrder action)
  | .postEvent _ => inferInstanceAs (Decidable (_ < _))
  | .completePending => inferInstanceAs (Decidable (_ ∧ _))
  | .nextMessage | .executeOutputFlush | .executeInputFlush | .setState _ => isTrue trivial

/-- A queue in a step to which `posted` is posted and from which `taken` is taken out: no message comes
from nowhere. -/
structure Moves (traffic next : Traffic) (name : QueueName) (posted taken : List Message) : Prop where
  accepted : next.accepted name = traffic.accepted name ++ posted
  delivered : next.delivered name = traffic.delivered name ++ taken
  length : taken.length + (next.queues.waiting name).length ≤
    (traffic.queues.waiting name).length + posted.length

def InOrder (traffic next : Traffic) (name : QueueName) (posted taken : List Message) : Prop :=
  traffic.queues.waiting name ++ posted = taken ++ next.queues.waiting name

/-- The step spoils the queue: a message is lost, or one is taken out that is not the next one. -/
def Spoils (traffic next : Traffic) (name : QueueName) (posted taken : List Message) : Prop :=
  taken.length + (next.queues.waiting name).length <
      (traffic.queues.waiting name).length + posted.length ∨
    ¬taken <+: traffic.queues.waiting name ++ posted

def Spoilt (traffic : Traffic) (name : QueueName) : Prop :=
  (traffic.delivered name).length + (traffic.queues.waiting name).length <
      (traffic.accepted name).length ∨
    ¬traffic.delivered name <+: traffic.accepted name

def Bounded (traffic : Traffic) : Prop :=
  ∀ name, (traffic.delivered name).length + (traffic.queues.waiting name).length ≤
    (traffic.accepted name).length

variable {traffic next : Traffic} {name : QueueName} {posted taken : List Message}

theorem Moves.lossless (hmoves : Moves traffic next name posted taken)
    (hinOrder : InOrder traffic next name posted taken)
    (hlossless : traffic.accepted name = traffic.delivered name ++ traffic.queues.waiting name) :
    next.accepted name = next.delivered name ++ next.queues.waiting name := by
  rw [hmoves.accepted, hmoves.delivered, hlossless, List.append_assoc, hinOrder, List.append_assoc]

theorem Moves.spoilt (hmoves : Moves traffic next name posted taken)
    (hspoils : Spoils traffic next name posted taken)
    (hlossless : traffic.accepted name = traffic.delivered name ++ traffic.queues.waiting name) :
    next.Spoilt name := by
  rw [Spoilt, hmoves.accepted, hmoves.delivered, hlossless]
  rcases hspoils with hlost | hovertaken
  · left
    simp only [List.length_append]
    omega
  · right
    rwa [List.append_assoc, List.prefix_append_right_inj]

theorem Moves.stays_spoilt (hmoves : Moves traffic next name posted taken)
    (hbound : (traffic.delivered name).length + (traffic.queues.waiting name).length ≤
      (traffic.accepted name).length)
    (hspoilt : traffic.Spoilt name) : next.Spoilt name := by
  have hlength := hmoves.length
  rw [Spoilt, hmoves.accepted, hmoves.delivered]
  rcases hspoilt with hlost | hovertaken
  · left
    simp only [List.length_append]
    omega
  · right
    intro hprefix
    refine hovertaken (List.prefix_of_prefix_length_le ((List.prefix_append _ _).trans hprefix)
      (List.prefix_append _ _) (by omega))

theorem Spoilt.not_lossless (hspoilt : traffic.Spoilt name) : ¬traffic.Lossless := by
  intro hlossless
  rcases hspoilt with hlost | hovertaken
  · have hlength := congrArg List.length (hlossless name)
    rw [List.length_append] at hlength
    omega
  · exact hovertaken ⟨_, (hlossless name).symm⟩

structure StepMoves (traffic : Traffic) (action : QueueAction) (next : Traffic) : Prop where
  sorted : next.queues.Sorted
  moves : ∀ name, ∃ posted taken, Moves traffic next name posted taken ∧
    (traffic.KeepsOrder action → InOrder traffic next name posted taken)
  spoils : ¬traffic.KeepsOrder action → ∃ name posted taken, Moves traffic next name posted taken ∧
    Spoils traffic next name posted taken

theorem post_moves (hsorted : traffic.queues.Sorted) (message : Message) :
    traffic.StepMoves (.postEvent message) (traffic.post message) := by
  obtain ⟨queues, heq, hwaiting⟩ := traffic.queues.postEvent_eq message
  have hpost : traffic.post message =
      ⟨queues, Function.update traffic.accepted message.id.queueName
        (traffic.accepted message.id.queueName ++ [message]), traffic.delivered⟩ := by
    rw [post, heq]
    rfl
  have hself := hwaiting message.id.queueName
  rw [if_pos rfl] at hself
  have hmoves : Moves traffic (traffic.post message) message.id.queueName [message] [] := by
    rw [hpost]
    refine ⟨Function.update_self _ _ _, (List.append_nil _).symm, ?_⟩
    rw [hself, List.length_take, List.length_append]
    simp only [List.length_nil]
    omega
  constructor
  · intro name waiting hmem
    rw [hpost] at hmem
    rw [hwaiting name] at hmem
    split at hmem
    next hname =>
      rcases List.mem_append.mp (List.mem_of_mem_take hmem) with hold | hnew
      · exact hsorted name waiting hold
      · rw [List.mem_singleton.mp hnew, hname]
    next => exact hsorted name waiting hmem
  · intro name
    by_cases hname : name = message.id.queueName
    · subst hname
      refine ⟨[message], [], hmoves, fun hroom => ?_⟩
      rw [InOrder, hpost, hself, List.take_of_length_le, List.nil_append]
      rw [List.length_append]
      exact hroom
    · have hother := hwaiting name
      rw [if_neg hname] at hother
      refine ⟨[], [], ?_, fun _ => ?_⟩
      · rw [hpost]
        refine ⟨?_, (List.append_nil _).symm, by rw [hother]; simp⟩
        exact (Function.update_of_ne hname _ _).trans (List.append_nil _).symm
      · rw [InOrder, hpost, hother, List.append_nil, List.nil_append]
  · intro hfull
    refine ⟨_, _, _, hmoves, .inl ?_⟩
    rw [KeepsOrder] at hfull
    rw [hpost, hself, List.length_take, List.length_append]
    simp only [List.length_nil, List.length_singleton]
    omega

theorem filter_queueName {messages : List Message} {first : QueueName}
    (hfirst : ∀ message ∈ messages, message.id.queueName = first) (name : QueueName) :
    messages.filter (fun message => message.id.queueName = name) =
      if name = first then messages else [] := by
  split
  next hname =>
    rw [List.filter_eq_self]
    intro message hmem
    rw [hfirst message hmem, hname]
    exact decide_eq_true rfl
  next hname =>
    rw [List.filter_eq_nil_iff]
    intro message hmem hsame
    exact hname ((of_decide_eq_true hsame).symm.trans (hfirst message hmem))

theorem deliver_moves {queues : MessageQueues} {messages : List Message} {first : QueueName}
    (hsorted : traffic.queues.Sorted)
    (hfirst : traffic.queues.waiting first = messages ++ queues.waiting first)
    (hothers : ∀ name, name ≠ first → queues.waiting name = traffic.queues.waiting name)
    {action : QueueAction} (hkeeps : traffic.KeepsOrder action) :
    traffic.StepMoves action (traffic.deliver (queues, messages)) := by
  have hmessages : ∀ message ∈ messages, message.id.queueName = first := by
    intro message hmem
    apply hsorted first
    rw [hfirst]
    exact List.mem_append_left _ hmem
  have hfilter := filter_queueName hmessages
  have horder : ∀ name, traffic.queues.waiting name =
      messages.filter (fun message => message.id.queueName = name) ++ queues.waiting name := by
    intro name
    rw [hfilter]
    by_cases hname : name = first
    · rw [if_pos hname, hname, hfirst]
    · rw [if_neg hname, hothers name hname, List.nil_append]
  refine ⟨fun name message hmem => ?_, fun name => ?_, fun hnot => absurd hkeeps hnot⟩
  · apply hsorted name
    rw [horder]
    exact List.mem_append_right _ hmem
  · refine ⟨[], _, ⟨(List.append_nil _).symm, rfl, ?_⟩, fun _ => ?_⟩
    · have hlength := congrArg List.length (horder name)
      rw [List.length_append] at hlength
      exact Nat.le_of_eq hlength.symm
    · exact (List.append_nil _).trans (horder name)

theorem nextMessage_moves (hsorted : traffic.queues.Sorted) :
    traffic.StepMoves .nextMessage (traffic.step .nextMessage) := by
  rw [step]
  obtain hnone | ⟨next, first, message, hsome, hfirst, hothers⟩ := traffic.queues.nextMessage_eq
  · rw [hnone]
    exact @deliver_moves _ _ _ .cmd hsorted rfl (fun _ _ => rfl) _ trivial
  · rw [hsome]
    exact deliver_moves hsorted hfirst hothers trivial

theorem executeOutputFlush_moves (hsorted : traffic.queues.Sorted) :
    traffic.StepMoves .executeOutputFlush (traffic.step .executeOutputFlush) := by
  obtain ⟨next, heq, hnil, hothers⟩ := traffic.queues.executeOutputFlush_eq
  rw [step, heq]
  exact deliver_moves hsorted (by rw [hnil, List.append_nil]) hothers trivial

theorem executeInputFlush_moves (hsorted : traffic.queues.Sorted) :
    traffic.StepMoves .executeInputFlush (traffic.step .executeInputFlush) := by
  obtain ⟨next, heq, hnil, hothers⟩ := traffic.queues.executeInputFlush_eq
  rw [step, heq]
  exact deliver_moves hsorted (by rw [hnil, List.append_nil]) hothers trivial

theorem bufferDones_take_filter (hsorted : traffic.queues.Sorted) (name : QueueName) :
    (traffic.queues.bufferDones.take cmdqSize).filter (fun message => message.id.queueName = name) =
      match name with
      | .cmd => []
      | .ftb => (traffic.queues.waiting .ftb).filter fun message => message.id = .fbd
      | .etb => ((traffic.queues.waiting .etb).filter fun message => message.id = .ebd).take
          (cmdqSize - ((traffic.queues.waiting .ftb).filter fun message => message.id = .fbd).length) := by
  have hlength := Nat.le_trans
    (List.length_filter_le (fun message => decide (message.id = .fbd)) (traffic.queues.waiting .ftb))
    (traffic.queues.length_waiting_le .ftb)
  have hfbd : ∀ message ∈ (traffic.queues.waiting .ftb).filter (fun message => message.id = .fbd),
      message.id.queueName = .ftb := fun message hmem => hsorted _ _ (List.mem_of_mem_filter hmem)
  have hebd : ∀ limit, ∀ message ∈
      ((traffic.queues.waiting .etb).filter fun message => message.id = .ebd).take limit,
      message.id.queueName = .etb :=
    fun limit message hmem => hsorted _ _ (List.mem_of_mem_filter (List.mem_of_mem_take hmem))
  rw [MessageQueues.bufferDones, List.take_append, List.filter_append,
    List.take_of_length_le hlength, filter_queueName hfbd, filter_queueName (hebd _)]
  cases name with
  | cmd => rfl
  | ftb => exact List.append_nil _
  | etb => rfl

theorem completePending_moves (hsorted : traffic.queues.Sorted) :
    traffic.StepMoves .completePending (traffic.step .completePending) := by
  obtain ⟨next, heq, hcmd, hftb, hetb⟩ := traffic.queues.completePending_eq
  have htaken := bufferDones_take_filter hsorted
  rw [step, heq]
  simp only [decide_not] at hftb hetb
  have hfbdLength := List.length_eq_length_filter_add (l := traffic.queues.waiting .ftb)
    fun message => decide (message.id = .fbd)
  have hebdLength := List.length_eq_length_filter_add (l := traffic.queues.waiting .etb)
    fun message => decide (message.id = .ebd)
  rw [← hftb] at hfbdLength
  rw [← hetb] at hebdLength
  have hbufferDones : traffic.queues.bufferDones.length =
      ((traffic.queues.waiting .ftb).filter fun message => message.id = .fbd).length +
        ((traffic.queues.waiting .etb).filter fun message => message.id = .ebd).length :=
    List.length_append
  have hmoves : ∀ name, Moves traffic (traffic.deliver (next, traffic.queues.bufferDones.take cmdqSize))
      name [] ((traffic.queues.bufferDones.take cmdqSize).filter
        fun message => message.id.queueName = name) := by
    intro name
    refine ⟨(List.append_nil _).symm, rfl, ?_⟩
    rw [htaken, deliver]
    cases name with
    | cmd => exact Nat.le_of_eq (by rw [hcmd, List.length_nil, Nat.zero_add, Nat.add_zero])
    | ftb => exact Nat.le_of_eq hfbdLength.symm
    | etb =>
      rw [List.length_take, List.length_nil]
      dsimp only
      omega
  refine ⟨fun name message hmem => hsorted name message ?_, fun name => ?_, fun hnot => ?_⟩
  · cases name with
    | cmd => exact hcmd ▸ hmem
    | ftb => exact List.mem_of_mem_filter (hftb ▸ hmem)
    | etb => exact List.mem_of_mem_filter (hetb ▸ hmem)
  · refine ⟨[], _, hmoves name, ?_⟩
    rintro ⟨hfbdLeads, hebdLeads, hroom⟩
    rw [InOrder, htaken, deliver, List.append_nil]
    cases name with
    | cmd => exact hcmd.symm
    | ftb =>
      rw [hftb]
      exact hfbdLeads
    | etb =>
      rw [hetb, List.take_of_length_le (by omega)]
      exact hebdLeads
  · by_cases hroom : traffic.queues.bufferDones.length ≤ cmdqSize
    · by_cases hfbdLeads : Leads (fun message => message.id = .fbd) (traffic.queues.waiting .ftb)
      · have hebdLeads : ¬Leads (fun message => message.id = .ebd) (traffic.queues.waiting .etb) :=
          fun hebdLeads => hnot ⟨hfbdLeads, hebdLeads, hroom⟩
        refine ⟨.etb, [], _, hmoves .etb, .inr ?_⟩
        rw [htaken, List.append_nil, List.take_of_length_le (by omega)]
        exact mt leads_iff_prefix.mpr hebdLeads
      · refine ⟨.ftb, [], _, hmoves .ftb, .inr ?_⟩
        rw [htaken, List.append_nil]
        exact mt leads_iff_prefix.mpr hfbdLeads
    · refine ⟨.etb, [], _, hmoves .etb, .inl ?_⟩
      rw [htaken, deliver, List.length_take, List.length_nil]
      dsimp only
      have hfbdRoom := Nat.le_trans (List.length_filter_le (fun message => decide (message.id = .fbd))
        (traffic.queues.waiting .ftb)) (traffic.queues.length_waiting_le .ftb)
      omega

theorem step_moves (hsorted : traffic.queues.Sorted) :
    ∀ action, traffic.StepMoves action (traffic.step action)
  | .postEvent message => post_moves hsorted message
  | .nextMessage => nextMessage_moves hsorted
  | .executeOutputFlush => executeOutputFlush_moves hsorted
  | .executeInputFlush => executeInputFlush_moves hsorted
  | .completePending => completePending_moves hsorted
  | .setState state => by
    have hwaiting : ∀ name, (traffic.step (.setState state)).queues.waiting name =
        traffic.queues.waiting name := fun name => by cases name <;> rfl
    refine ⟨fun name message hmem => hsorted name message (hwaiting name ▸ hmem), fun name => ?_,
      fun hnot => absurd trivial hnot⟩
    refine ⟨[], [], ⟨(List.append_nil _).symm, (List.append_nil _).symm, ?_⟩, fun _ => ?_⟩
    · rw [hwaiting]
      simp
    · rw [InOrder, hwaiting, List.append_nil, List.nil_append]

/-! ### Whole runs -/

structure Sound (traffic : Traffic) : Prop where
  sorted : traffic.queues.Sorted
  bounded : traffic.Bounded

theorem sound_init : init.Sound := by
  constructor
  · intro name message hmem
    cases name <;> exact absurd hmem List.not_mem_nil
  · intro name
    cases name <;> exact Nat.le_refl _

theorem lossless_init : init.Lossless := by
  intro name
  cases name <;> rfl

theorem StepMoves.sound {action : QueueAction} (hmoves : traffic.StepMoves action next)
    (hbounded : traffic.Bounded) : next.Sound := by
  refine ⟨hmoves.sorted, fun name => ?_⟩
  obtain ⟨posted, taken, hname, -⟩ := hmoves.moves name
  have hlength := hname.length
  have hbefore := hbounded name
  rw [hname.accepted, hname.delivered, List.length_append, List.length_append]
  omega

theorem StepMoves.lossless {action : QueueAction} (hmoves : traffic.StepMoves action next)
    (hkeeps : traffic.KeepsOrder action) (hlossless : traffic.Lossless) : next.Lossless := by
  intro name
  obtain ⟨posted, taken, hname, hinOrder⟩ := hmoves.moves name
  exact hname.lossless (hinOrder hkeeps) (hlossless name)

theorem run_spoilt (actions : List QueueAction) :
    ∀ traffic : Traffic, traffic.Sound → traffic.Spoilt name → (traffic.run actions).Spoilt name := by
  induction actions with
  | nil => exact fun _ _ hspoilt => hspoilt
  | cons action actions ih =>
    intro traffic hsound hspoilt
    have hmoves := step_moves hsound.sorted action
    obtain ⟨posted, taken, hname, -⟩ := hmoves.moves name
    exact ih _ (hmoves.sound hsound.bounded) (hname.stays_spoilt (hsound.bounded name) hspoilt)

theorem run_lossless_iff (actions : List QueueAction) :
    ∀ traffic : Traffic, traffic.Sound → traffic.Lossless →
      ((traffic.run actions).Lossless ↔
        RunMeets (fun traffic action => some (traffic.step action)) KeepsOrder traffic actions) := by
  induction actions with
  | nil => exact fun _ _ hlossless => iff_of_true hlossless trivial
  | cons action actions ih =>
    intro traffic hsound hlossless
    have hmoves := step_moves hsound.sorted action
    by_cases hkeeps : traffic.KeepsOrder action
    · have hrest := ih _ (hmoves.sound hsound.bounded) (hmoves.lossless hkeeps hlossless)
      simp only [RunMeets, Option.some.injEq, forall_eq', hkeeps, true_and]
      exact hrest
    · obtain ⟨name, posted, taken, hname, hspoils⟩ := hmoves.spoils hkeeps
      have hspoilt := run_spoilt actions _ (hmoves.sound hsound.bounded)
        (hname.spoilt hspoils (hlossless name))
      exact iff_of_false hspoilt.not_lossless fun hmeets => hkeeps hmeets.1

/-- For every interleaving of posted messages and rounds, what was taken out of each queue, followed by
what waits in it, is what `post_event` accepted, exactly if no message was posted to a full ring and
none was overtaken when the driver paused or stopped. -/
theorem init_run_lossless_iff (actions : List QueueAction) :
    (init.run actions).Lossless ↔
      RunMeets (fun traffic action => some (traffic.step action)) KeepsOrder init actions :=
  run_lossless_iff actions init sound_init lossless_init

/-- A burst of commands that is one longer than the ring. -/
theorem not_lossless_burst :
    ¬(init.run (List.replicate (cmdqSize + 1) (.postEvent ⟨0, 0, .control .command⟩))).Lossless := by
  intro hlossless
  have hlength := congrArg List.length (hlossless .cmd)
  have haccepted : ((init.run (List.replicate (cmdqSize + 1)
      (.postEvent ⟨0, 0, .control .command⟩))).accepted .cmd).length = cmdqSize + 1 := by decide +kernel
  have hwaiting := (init.run (List.replicate (cmdqSize + 1)
    (.postEvent ⟨0, 0, .control .command⟩))).queues.length_waiting_le .cmd
  have hdelivered : ((init.run (List.replicate (cmdqSize + 1)
      (.postEvent ⟨0, 0, .control .command⟩))).delivered .cmd).length = 0 := by decide +kernel
  rw [List.length_append] at hlength
  omega

end Traffic

end Nozomi
