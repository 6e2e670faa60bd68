import Mathlib.Data.List.Sort
import Nozomi.Base.Run

/-!
# The message queue of the looper

`sendMessageAtTime`, `removeMessages` and the message part of `pollInner`. Any thread may send and remove; one
thread polls, and no handler polls again. What happens under the lock is one step: a sender lets go of the lock
before it calls `wake`, and the poll thread does while a handler runs. The file descriptors of the looper and
their callbacks are left out.
-/

namespace Nozomi.Looper

/-- `LLONG_MAX`: no message is next. -/
def llongMax : Int := 2 ^ 63 - 1

structure MessageEnvelope where
  uptime : Int
  handler : Nat
  what : Int
  deriving DecidableEq, Repr

/-- Where the poll thread is: outside of a poll, in `epoll_wait` since a time and with a timeout, or in the
handler of a message. -/
inductive PollThread
  | outside
  | waiting (since timeoutMillis : Int)
  | handling
  deriving DecidableEq, Repr

def PollThread.isWaiting : PollThread → Bool
  | .waiting _ _ => true
  | .outside | .handling => false

/-- The looper, the wake event, the senders that are still to call `wake`, and what became of the messages so
far: those that were sent, those that were given to their handlers and when, and those that were removed. -/
structure LooperState where
  mMessageEnvelopes : List MessageEnvelope
  mSendingMessage : Bool
  mNextMessageUptime : Int
  wakeEvent : Bool
  waking : Nat
  thread : PollThread
  sent : List MessageEnvelope
  delivered : List (MessageEnvelope × Int)
  removed : List MessageEnvelope

def start : LooperState := ⟨[], false, llongMax, false, 0, .outside, [], [], []⟩

inductive LooperAction
  | sendMessageAtTime (envelope : MessageEnvelope)
  /-- a sender that queued its message at the head calls `wake` -/
  | wakeQueued
  /-- a client calls `wake` -/
  | wake
  | removeMessages (handler : Nat) (what : Option Int)
  | pollInner (now timeoutMillis : Int)
  /-- `epoll_wait` returns, with the wake event among the events that are handled or not -/
  | polled (awoken : Bool) (now : Int)
  /-- a handler returns -/
  | handled (now : Int)

namespace LooperState

variable (looper : LooperState)

/-- The message goes in front of the first later one. Its sender is to wake the poll thread where that is the head
and no message is being sent. -/
def sendMessageAtTime (envelope : MessageEnvelope) : LooperState :=
  { looper with
    mMessageEnvelopes := looper.mMessageEnvelopes.orderedInsert (fun new other => new.uptime < other.uptime) envelope
    waking :=
      if looper.mSendingMessage = false ∧ ∀ head ∈ looper.mMessageEnvelopes.head?, envelope.uptime < head.uptime then
        looper.waking + 1
      else looper.waking
    sent := looper.sent ++ [envelope] }

def matching (handler : Nat) (what : Option Int) (envelope : MessageEnvelope) : Bool :=
  envelope.handler = handler && what.all (envelope.what = ·)

def removeMessages (handler : Nat) (what : Option Int) : LooperState :=
  { looper with
    mMessageEnvelopes := looper.mMessageEnvelopes.filter fun envelope => !matching handler what envelope
    removed := looper.removed ++ looper.mMessageEnvelopes.filter (matching handler what) }

/-- The timeout adjusted to when the next message is due; `delay` is `toMillisecondTimeoutDelay`. -/
def adjustedTimeout (delay : Int → Int → Int) (now timeoutMillis : Int) : Int :=
  if timeoutMillis ≠ 0 ∧ looper.mNextMessageUptime ≠ llongMax then
    let messageTimeoutMillis := delay now looper.mNextMessageUptime
    if 0 ≤ messageTimeoutMillis ∧ (timeoutMillis < 0 ∨ messageTimeoutMillis < timeoutMillis) then
      messageTimeoutMillis
    else timeoutMillis
  else timeoutMillis

/-- One round of the loop that invokes pending messages: the head is given to its handler where it is due, and
determines the next time to wake up where it is not. -/
def invokeNext (now : Int) : LooperState :=
  match looper.mMessageEnvelopes with
  | [] => { looper with thread := .outside }
  | envelope :: rest =>
    if envelope.uptime ≤ now then
      { looper with
        mMessageEnvelopes := rest
        mSendingMessage := true
        thread := .handling
        delivered := looper.delivered ++ [(envelope, now)] }
    else { looper with mNextMessageUptime := envelope.uptime, thread := .outside }

end LooperState

def looperStep (delay : Int → Int → Int) (looper : LooperState) : LooperAction → Option LooperState
  | .sendMessageAtTime envelope => some (looper.sendMessageAtTime envelope)
  | .wakeQueued =>
    match looper.waking with
    | 0 => none
    | waking + 1 => some { looper with waking := waking, wakeEvent := true }
  | .wake => some { looper with wakeEvent := true }
  | .removeMessages handler what => some (looper.removeMessages handler what)
  | .pollInner now timeoutMillis =>
    if looper.thread = .outside then
      some { looper with thread := .waiting now (looper.adjustedTimeout delay now timeoutMillis) }
    else none
  | .polled awoken now =>
    if looper.thread.isWaiting ∧ (awoken = true → looper.wakeEvent = true) then
      some (({ looper with
        wakeEvent := looper.wakeEvent && !awoken
        mNextMessageUptime := llongMax } : LooperState).invokeNext now)
    else none
  | .handled now =>
    if looper.thread = .handling then
      some (({ looper with mSendingMessage := false } : LooperState).invokeNext now)
    else none

/-! ### Order and loss -/

/-- Messages in the order of their times. -/
def InOrder (envelopes : List MessageEnvelope) : Prop := envelopes.Pairwise (·.uptime ≤ ·.uptime)

/-- The messages of a time. -/
def atTime (uptime : Int) (envelopes : List MessageEnvelope) : List MessageEnvelope :=
  envelopes.filter fun envelope => decide (envelope.uptime = uptime)

/-- A new message goes behind those that are not later and in front of the later ones. -/
theorem insert_split {envelopes : List MessageEnvelope} (horder : InOrder envelopes) (envelope : MessageEnvelope) :
    ∃ before after, envelopes = before ++ after ∧
      envelopes.orderedInsert (fun new other => new.uptime < other.uptime) envelope = before ++ envelope :: after ∧
      (∀ other ∈ before, other.uptime ≤ envelope.uptime) ∧ ∀ other ∈ after, envelope.uptime < other.uptime := by
  induction envelopes with
  | nil => exact ⟨[], [], rfl, rfl, by simp, by simp⟩
  | cons head rest ih =>
    obtain ⟨hhead, hrest⟩ := List.pairwise_cons.mp horder
    rw [List.orderedInsert_cons]
    split
    · rename_i hlt
      exact ⟨[], head :: rest, rfl, rfl, by simp,
        List.forall_mem_cons.mpr ⟨hlt, fun other hmem => lt_of_lt_of_le hlt (hhead other hmem)⟩⟩
    · rename_i hle
      obtain ⟨before, after, hsplit, hinsert, hbefore, hafter⟩ := ih hrest
      exact ⟨head :: before, after, by rw [hsplit]; rfl, by rw [hinsert]; rfl,
        List.forall_mem_cons.mpr ⟨le_of_not_gt hle, hbefore⟩, hafter⟩

/-- Every message that was sent was delivered, removed or is pending; the pending ones are in order, those of one
time are delivered in the order in which they were sent, and none is delivered before its time. -/
structure Accounted (looper : LooperState) : Prop where
  in_order : InOrder looper.mMessageEnvelopes
  conserved : looper.sent.Perm
    (looper.delivered.map Prod.fst ++ looper.mMessageEnvelopes ++ looper.removed)
  first_in : ∀ uptime, (atTime uptime (looper.delivered.map Prod.fst ++ looper.mMessageEnvelopes)).Sublist
    (atTime uptime looper.sent)
  on_time : ∀ delivery ∈ looper.delivered, delivery.1.uptime ≤ delivery.2

variable {looper next : LooperState}

theorem Accounted.congr (haccounted : Accounted looper) {sending wakeEvent : Bool} {uptime : Int} {waking : Nat}
    {thread : PollThread} :
    Accounted ⟨looper.mMessageEnvelopes, sending, uptime, wakeEvent, waking, thread, looper.sent, looper.delivered,
      looper.removed⟩ :=
  ⟨haccounted.in_order, haccounted.conserved, haccounted.first_in, haccounted.on_time⟩

theorem Accounted.sendMessageAtTime (haccounted : Accounted looper) (envelope : MessageEnvelope) :
    Accounted (looper.sendMessageAtTime envelope) := by
  obtain ⟨horder, hconserved, hfirst, htime⟩ := haccounted
  obtain ⟨before, after, hsplit, hinsert, hbefore, hafter⟩ := insert_split horder envelope
  unfold LooperState.sendMessageAtTime
  rw [hinsert]
  rw [hsplit] at hconserved hfirst horder
  obtain ⟨hfront, hback, hacross⟩ := List.pairwise_append.mp horder
  refine ⟨?_, ?_, fun uptime => ?_, htime⟩
  · apply List.pairwise_append.mpr
    refine ⟨hfront, List.pairwise_cons.mpr ⟨fun later hmem => (hafter later hmem).le, hback⟩, fun other hmem => ?_⟩
    exact List.forall_mem_cons.mpr ⟨hbefore other hmem, hacross other hmem⟩
  · have hmiddle := @List.perm_middle _ envelope (looper.delivered.map Prod.fst ++ before)
      (after ++ looper.removed)
    simp only [List.append_assoc, List.cons_append] at hmiddle hconserved ⊢
    exact (List.perm_append_singleton _ _).trans ((hconserved.cons _).trans hmiddle.symm)
  · have hkept := hfirst uptime
    dsimp only
    unfold atTime at hkept ⊢
    rw [List.filter_append, List.filter_append] at hkept
    rw [List.filter_append, List.filter_append, List.filter_append, List.filter_cons]
    by_cases hsame : envelope.uptime = uptime
    · have hnone : after.filter (fun other => decide (other.uptime = uptime)) = [] := by
        apply List.filter_eq_nil_iff.mpr
        intro other hmem hother
        exact absurd (hafter other hmem) (by have := of_decide_eq_true hother; omega)
      rw [hnone, List.append_nil] at hkept
      rw [hnone, if_pos (decide_eq_true hsame), List.filter_cons, if_pos (decide_eq_true hsame), List.filter_nil,
        ← List.append_assoc]
      exact hkept.append (List.Sublist.refl _)
    · rw [if_neg (by simpa using hsame)]
      exact hkept.trans (List.sublist_append_left _ _)

theorem Accounted.removeMessages (haccounted : Accounted looper) (handler : Nat) (what : Option Int) :
    Accounted (looper.removeMessages handler what) := by
  obtain ⟨horder, hconserved, hfirst, htime⟩ := haccounted
  refine ⟨horder.filter _, hconserved.trans ?_, fun uptime => ?_, htime⟩
  · have hparts := (List.filter_append_perm (LooperState.matching handler what) looper.mMessageEnvelopes).symm
    unfold LooperState.removeMessages
    simp only [List.append_assoc]
    refine List.Perm.append_left _ ((hparts.append_right _).trans ?_)
    rw [List.append_assoc]
    exact List.perm_append_comm.trans (by rw [List.append_assoc])
  · refine List.Sublist.trans ?_ (hfirst uptime)
    exact ((List.Sublist.refl _).append List.filter_sublist).filter _

theorem Accounted.invokeNext (haccounted : Accounted looper) (now : Int) : Accounted (looper.invokeNext now) := by
  obtain ⟨horder, hconserved, hfirst, htime⟩ := haccounted
  unfold LooperState.invokeNext
  split
  · exact ⟨horder, hconserved, hfirst, htime⟩
  rename_i envelope rest hqueue
  rw [hqueue] at horder hconserved hfirst
  split
  · rename_i hdue
    have hmoved : looper.delivered.map Prod.fst ++ envelope :: rest =
        (looper.delivered ++ [(envelope, now)]).map Prod.fst ++ rest := by
      rw [List.map_append, List.append_assoc]
      rfl
    rw [hmoved] at hconserved
    refine ⟨(List.pairwise_cons.mp horder).2, hconserved, fun uptime => ?_, fun delivery hmem => ?_⟩
    · rw [← hmoved]
      exact hfirst uptime
    · obtain hmem | hmem := List.mem_append.mp hmem
      · exact htime delivery hmem
      · obtain rfl := List.mem_singleton.mp hmem
        exact hdue
  · rw [← hqueue] at horder hconserved hfirst
    exact ⟨horder, hconserved, hfirst, htime⟩

/-! ### Wake-ups -/

/-- The time of every pending message is reached no later than the next time to wake up. -/
def Expected (looper : LooperState) : Prop :=
  ∀ envelope ∈ looper.mMessageEnvelopes, looper.mNextMessageUptime ≤ envelope.uptime

/-- A timeout ends by the next time to wake up, as far as `delay` can tell how long that is. -/
def EndsInTime (delay : Int → Int → Int) (since timeoutMillis uptime : Int) : Prop :=
  timeoutMillis = 0 ∨ uptime = llongMax ∨ delay since uptime < 0 ∨
    (0 ≤ timeoutMillis ∧ timeoutMillis ≤ delay since uptime)

/-- Outside of a handler the wake event is set, a sender is about to set it, or no pending message is due before
the poll thread looks again. -/
structure Woken (delay : Int → Int → Int) (looper : LooperState) : Prop where
  sending : looper.mSendingMessage = true ↔ looper.thread = .handling
  woken : looper.thread ≠ .handling → looper.wakeEvent = true ∨ 0 < looper.waking ∨ Expected looper
  waits : ∀ since timeoutMillis, looper.thread = .waiting since timeoutMillis →
    EndsInTime delay since timeoutMillis looper.mNextMessageUptime

variable {delay : Int → Int → Int}

theorem adjustedTimeout_ends (looper : LooperState) (now timeoutMillis : Int) :
    EndsInTime delay now (looper.adjustedTimeout delay now timeoutMillis) looper.mNextMessageUptime := by
  unfold LooperState.adjustedTimeout EndsInTime
  dsimp only
  split
  · split <;> omega
  · omega

/-- A round of the loop that invokes messages ends the loop where no message that is left is due. -/
theorem invokeNext_outside (horder : InOrder looper.mMessageEnvelopes) {now : Int}
    (houtside : (looper.invokeNext now).thread = .outside) : Expected (looper.invokeNext now) ∧
      ∀ envelope ∈ (looper.invokeNext now).mMessageEnvelopes, now < envelope.uptime := by
  unfold Expected
  unfold LooperState.invokeNext at houtside ⊢
  split
  · rename_i hqueue
    simp [hqueue]
  rename_i envelope rest hqueue
  rw [hqueue] at horder houtside
  dsimp only at houtside
  split
  · rename_i hdue
    rw [if_pos hdue] at houtside
    cases houtside
  · rename_i hlate
    have hleast : ∀ other ∈ looper.mMessageEnvelopes, envelope.uptime ≤ other.uptime := by
      rw [hqueue]
      exact List.forall_mem_cons.mpr ⟨le_refl _, (List.pairwise_cons.mp horder).1⟩
    exact ⟨hleast, fun other hmem => lt_of_lt_of_le (lt_of_not_ge hlate) (hleast other hmem)⟩

theorem invokeNext_woken (haccounted : Accounted looper) (hsending : looper.mSendingMessage = false)
    (now : Int) : Woken delay (looper.invokeNext now) := by
  have hthread : (looper.invokeNext now).mSendingMessage = false ∧ (looper.invokeNext now).thread = .outside ∨
      (looper.invokeNext now).mSendingMessage = true ∧ (looper.invokeNext now).thread = .handling := by
    unfold LooperState.invokeNext
    split
    · exact .inl ⟨hsending, rfl⟩
    · split
      · exact .inr ⟨rfl, rfl⟩
      · exact .inl ⟨hsending, rfl⟩
  obtain ⟨hidle, houtside⟩ | ⟨hbusy, hhandling⟩ := hthread
  · refine ⟨by rw [hidle, houtside]; simp, fun _ => .inr (.inr (invokeNext_outside haccounted.in_order houtside).1), ?_⟩
    intro since timeoutMillis hwaits
    cases houtside.symm.trans hwaits
  · refine ⟨by rw [hbusy, hhandling]; simp, fun hne => absurd hhandling hne, fun since timeoutMillis hwaits => ?_⟩
    cases hhandling.symm.trans hwaits

theorem Woken.sendMessageAtTime (hwoken : Woken delay looper) (envelope : MessageEnvelope) :
    Woken delay (looper.sendMessageAtTime envelope) := by
  refine ⟨hwoken.sending, fun hne => ?_, hwoken.waits⟩
  have hidle : looper.mSendingMessage = false := by
    rw [← Bool.not_eq_true, hwoken.sending]
    exact hne
  unfold LooperState.sendMessageAtTime
  dsimp only
  split
  · exact .inr (.inl (Nat.succ_pos _))
  rename_i hbehind
  refine (hwoken.woken hne).imp_right (Or.imp_right fun hexpected other hmem => ?_)
  obtain rfl | hmem := (List.mem_orderedInsert _).mp hmem
  · rw [not_and, not_forall] at hbehind
    obtain ⟨head, hbehind⟩ := hbehind hidle
    obtain ⟨hhead, hle⟩ := Classical.not_imp.mp hbehind
    exact (hexpected head (List.mem_of_mem_head? hhead)).trans (le_of_not_gt hle)
  · exact hexpected other hmem

/-- One step keeps the accounts and loses no wake-up. -/
theorem looperStep_kept {action : LooperAction} (hstep : looperStep delay looper action = some next)
    (hkept : Accounted looper ∧ Woken delay looper) : Accounted next ∧ Woken delay next := by
  obtain ⟨haccounted, hwoken⟩ := hkept
  cases action with
  | sendMessageAtTime envelope =>
    obtain rfl := Option.some.inj hstep
    exact ⟨haccounted.sendMessageAtTime envelope, hwoken.sendMessageAtTime envelope⟩
  | wakeQueued =>
    rw [looperStep] at hstep
    split at hstep
    · cases hstep
    · obtain rfl := Option.some.inj hstep
      exact ⟨haccounted.congr, hwoken.sending, fun _ => .inl rfl, hwoken.waits⟩
  | wake =>
    obtain rfl := Option.some.inj hstep
    exact ⟨haccounted.congr, hwoken.sending, fun _ => .inl rfl, hwoken.waits⟩
  | removeMessages handler what =>
    obtain rfl := Option.some.inj hstep
    refine ⟨haccounted.removeMessages handler what, hwoken.sending, fun hne => ?_, hwoken.waits⟩
    exact (hwoken.woken hne).imp_right (Or.imp_right fun hexpected envelope hmem =>
      hexpected envelope (List.mem_filter.mp hmem).1)
  | pollInner now timeoutMillis =>
    rw [looperStep] at hstep
    split at hstep
    · rename_i hthread
      obtain rfl := Option.some.inj hstep
      have hidle : looper.thread ≠ .handling := by rw [hthread]; decide
      refine ⟨haccounted.congr, ?_, fun _ => hwoken.woken hidle, ?_⟩
      · dsimp only
        rw [hwoken.sending, hthread]
        simp
      · rintro since timeout ⟨⟩
        exact adjustedTimeout_ends looper now timeoutMillis
    · cases hstep
  | polled awoken now =>
    rw [looperStep] at hstep
    split at hstep
    · rename_i hpolled
      obtain rfl := Option.some.inj hstep
      refine ⟨haccounted.congr.invokeNext now, invokeNext_woken haccounted.congr ?_ now⟩
      have hidle : looper.thread ≠ .handling := by
        intro hthread
        simp [hthread, PollThread.isWaiting] at hpolled
      rwa [← Bool.not_eq_true, hwoken.sending]
    · cases hstep
  | handled now =>
    rw [looperStep] at hstep
    split at hstep
    · obtain rfl := Option.some.inj hstep
      exact ⟨haccounted.congr.invokeNext now, invokeNext_woken haccounted.congr rfl now⟩
    · cases hstep

/-! ### Runs -/

theorem start_kept (delay : Int → Int → Int) : Accounted start ∧ Woken delay start :=
  ⟨⟨.nil, .nil, fun _ => List.Sublist.refl _, fun _ hmem => absurd hmem List.not_mem_nil⟩,
    ⟨by decide, fun _ => .inr (.inr fun _ hmem => absurd hmem List.not_mem_nil), fun _ _ hwaits => by cases hwaits⟩⟩

theorem run_kept {actions : List LooperAction} (hrun : runSteps (looperStep delay) start actions = some looper) :
    Accounted looper ∧ Woken delay looper :=
  runSteps_state_of_meets (fun looper => Accounted looper ∧ Woken delay looper)
    (fun _ _ _ _ hkept hstep => looperStep_kept hstep hkept) (runMeets_true actions start) (start_kept delay) hrun

/-- In every order of sends, removals, wake-ups and polls no message is lost, given twice or given early, and those
of one time are given in the order in which they were sent. -/
theorem messages_accounted (actions : List LooperAction)
    (hrun : runSteps (looperStep delay) start actions = some looper) : Accounted looper :=
  (run_kept hrun).1

/-- Whole milliseconds from one time to another, rounded up. -/
def millisecondDelay (since uptime : Int) : Int := if since < uptime then (uptime - since + 999999) / 1000000 else 0

/-- A later message, an earlier one and a poll that gives the earlier one to its handler. -/
def twoMessages : List LooperAction :=
  [.sendMessageAtTime ⟨9, 1, 0⟩, .sendMessageAtTime ⟨5, 0, 0⟩, .wakeQueued, .pollInner 0 (-1), .polled true 6]

theorem messages_accounted_two :
    ∃ looper, runSteps (looperStep millisecondDelay) start twoMessages = some looper ∧ Accounted looper :=
  ⟨_, rfl, messages_accounted twoMessages rfl⟩

/-- While the poll thread waits no wake-up is lost: the wake event is set, a sender is about to set it, or the wait
ends by the time of every pending message. -/
theorem waiting_woken (actions : List LooperAction) {since timeoutMillis : Int}
    (hrun : runSteps (looperStep delay) start actions = some looper)
    (hwaits : looper.thread = .waiting since timeoutMillis) :
    looper.wakeEvent = true ∨ 0 < looper.waking ∨
      (Expected looper ∧ EndsInTime delay since timeoutMillis looper.mNextMessageUptime) := by
  obtain ⟨-, hwoken⟩ := run_kept hrun
  have hends := hwoken.waits since timeoutMillis hwaits
  obtain hset | hwaking | hexpected := hwoken.woken (by rw [hwaits]; simp)
  · exact .inl hset
  · exact .inr (.inl hwaking)
  · exact .inr (.inr ⟨hexpected, hends⟩)

theorem waiting_woken_two :
    ∃ looper, runSteps (looperStep millisecondDelay) start (twoMessages.take 4) = some looper ∧
      (looper.wakeEvent = true ∨ 0 < looper.waking ∨
        (Expected looper ∧ EndsInTime millisecondDelay 0 (-1) looper.mNextMessageUptime)) :=
  ⟨_, rfl, waiting_woken (twoMessages.take 4) rfl rfl⟩

/-- A poll that is over leaves no message that was due. -/
theorem polled_none_due (actions : List LooperAction) {action : LooperAction} {now : Int}
    (hrun : runSteps (looperStep delay) start actions = some looper)
    (haction : (∃ awoken, action = .polled awoken now) ∨ action = .handled now)
    (hstep : looperStep delay looper action = some next) (houtside : next.thread = .outside) :
    ∀ envelope ∈ next.mMessageEnvelopes, now < envelope.uptime := by
  have haccounted := (run_kept hrun).1
  obtain ⟨awoken, rfl⟩ | rfl := haction
  all_goals
    rw [looperStep] at hstep
    split at hstep
  · obtain rfl := Option.some.inj hstep
    exact (invokeNext_outside haccounted.congr.in_order houtside).2
  · cases hstep
  · obtain rfl := Option.some.inj hstep
    exact (invokeNext_outside haccounted.congr.in_order houtside).2
  · cases hstep

theorem polled_none_due_two :
    ∃ looper next, runSteps (looperStep millisecondDelay) start twoMessages = some looper ∧
      looperStep millisecondDelay looper (.handled 8) = some next ∧ next.mMessageEnvelopes ≠ [] ∧
      ∀ envelope ∈ next.mMessageEnvelopes, 8 < envelope.uptime :=
  ⟨_, _, rfl, rfl, by decide, polled_none_due twoMessages rfl (.inr rfl) rfl rfl⟩

end Nozomi.Looper
