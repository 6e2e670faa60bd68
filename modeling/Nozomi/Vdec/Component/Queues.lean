import Nozomi.Base.Ring
import Nozomi.Base.Run
import Nozomi.Vdec.Component.Code

/-!
# The message queues of the decoder component

`omx_cmd_queue`, and the functions of `omx_vdec.cpp` that move messages through its three rings. The
handlers of `process_event_cb` take messages out of the rings themselves when a flush is done and when
the driver has paused or stopped.
-/

namespace Nozomi

/-- `OMX_COMPONENT_GENERATE_*`: the messages about buffers, and those for `m_cmd_q`. -/
inductive MessageId where
  | ftb | fbd | etb | etbArbitrary | ebd
  | control (id : GenerateId)
  deriving DecidableEq, Repr

/-- `struct omx_event`, for each of the queues. -/
structure Message where
  param1 : Nat
  param2 : Nat
  id : MessageId
  deriving DecidableEq, Repr

inductive QueueName where
  | cmd | ftb | etb
  deriving DecidableEq, Repr

def MessageId.queueName : MessageId → QueueName
  | .ftb | .fbd => .ftb
  | .etb | .etbArbitrary | .ebd => .etb
  | .control _ => .cmd

abbrev OmxCmdQueue := Ring Message cmdqSize

namespace OmxCmdQueue

def init : OmxCmdQueue := .empty ⟨0, 0, .control .event⟩ (by decide)

def insertEntry (queue : OmxCmdQueue) (message : Message) : OmxCmdQueue × Bool := queue.insert message

def popEntry (queue : OmxCmdQueue) : OmxCmdQueue × Option Message := queue.pop

end OmxCmdQueue

/-- The members of `omx_vdec` that the queues are about. -/
structure MessageQueues where
  mState : StateType
  mCmdQ : OmxCmdQueue
  mFtbQ : OmxCmdQueue
  mEtbQ : OmxCmdQueue

namespace MessageQueues

def queue (queues : MessageQueues) : QueueName → OmxCmdQueue
  | .cmd => queues.mCmdQ
  | .ftb => queues.mFtbQ
  | .etb => queues.mEtbQ

variable (queues : MessageQueues)

def postEvent (message : Message) : MessageQueues × Bool :=
  match message.id.queueName with
  | .ftb => ({ queues with mFtbQ := (queues.mFtbQ.insertEntry message).1 }, true)
  | .etb => ({ queues with mEtbQ := (queues.mEtbQ.insertEntry message).1 }, true)
  | .cmd => ({ queues with mCmdQ := (queues.mCmdQ.insertEntry message).1 }, true)

def nextMessage : MessageQueues × Option Message :=
  match queues.mCmdQ.popEntry with
  | (queue, some message) => ({ queues with mCmdQ := queue }, some message)
  | (_, none) =>
    if queues.mState = .pause then (queues, none)
    else
      match queues.mFtbQ.popEntry with
      | (queue, some message) => ({ queues with mFtbQ := queue }, some message)
      | (_, none) =>
        match queues.mEtbQ.popEntry with
        | (queue, some message) => ({ queues with mEtbQ := queue }, some message)
        | (_, none) => (queues, none)

def executeOutputFlush : MessageQueues × List Message :=
  ({ queues with mFtbQ := queues.mFtbQ.drain.1 }, queues.mFtbQ.drain.2)

def executeInputFlush : MessageQueues × List Message :=
  ({ queues with mEtbQ := queues.mEtbQ.drain.1 }, queues.mEtbQ.drain.2)

def completePending : MessageQueues × List Message :=
  let (ftbQ, popped) := queues.mFtbQ.drain
  let pendingBdQ := OmxCmdQueue.init.insertAll (popped.filter fun message => message.id = .fbd)
  let tmpQ := OmxCmdQueue.init.insertAll (popped.filter fun message => message.id ≠ .fbd)
  let (tmpQ, returned) := tmpQ.drain
  let ftbQ := ftbQ.insertAll returned
  let (etbQ, popped) := queues.mEtbQ.drain
  let pendingBdQ := pendingBdQ.insertAll (popped.filter fun message => message.id = .ebd)
  let tmpQ := tmpQ.insertAll (popped.filter fun message => message.id ≠ .ebd)
  let etbQ := etbQ.insertAll tmpQ.drain.2
  ({ queues with mFtbQ := ftbQ, mEtbQ := etbQ }, pendingBdQ.drain.2)

end MessageQueues

/-- What happens to the queues: a call of `post_event`, or a part of a round of `process_event_cb`. -/
inductive QueueAction where
  | postEvent (message : Message)
  | nextMessage
  | executeOutputFlush
  | executeInputFlush
  | completePending
  | setState (state : StateType)
  deriving DecidableEq, Repr

/-- The queues, with the messages that `post_event` has accepted for each and those that were taken out
of each to be processed. -/
structure Traffic where
  queues : MessageQueues
  accepted : QueueName → List Message
  delivered : QueueName → List Message

namespace Traffic

def init : Traffic where
  queues := ⟨.invalid, .init, .init, .init⟩
  accepted := fun _ => []
  delivered := fun _ => []

variable (traffic : Traffic)

def deliver (result : MessageQueues × List Message) : Traffic :=
  { traffic with
    queues := result.1
    delivered := fun name =>
      traffic.delivered name ++ result.2.filter fun message => message.id.queueName = name }

def post (message : Message) : Traffic :=
  let (queues, accepted) := traffic.queues.postEvent message
  if accepted then
    { traffic with
      queues := queues
      accepted := Function.update traffic.accepted message.id.queueName
        (traffic.accepted message.id.queueName ++ [message]) }
  else { traffic with queues := queues }

def step : QueueAction → Traffic
  | .postEvent message => traffic.post message
  | .nextMessage =>
    let (queues, message) := traffic.queues.nextMessage
    traffic.deliver (queues, message.toList)
  | .executeOutputFlush => traffic.deliver traffic.queues.executeOutputFlush
  | .executeInputFlush => traffic.deliver traffic.queues.executeInputFlush
  | .completePending => traffic.deliver traffic.queues.completePending
  | .setState state => { traffic with queues := { traffic.queues with mState := state } }

def run (actions : List QueueAction) : Traffic := actions.foldl step traffic

end Traffic

end Nozomi
