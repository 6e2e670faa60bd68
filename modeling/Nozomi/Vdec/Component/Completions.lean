import Mathlib.Data.Finset.Lattice.Lemmas
import Mathlib.Data.Multiset.OrderedMonoid
import Nozomi.Base.Run
import Nozomi.Vdec.Component.PortCommand

/-!
# Completions of the port commands

One command is followed through a run: the events that it has caused are marked in `m_cmd_q`, and a pending
bit belongs to it while its completion waits for that bit. What the client is told in the rounds for the
marked events is told for this command.
-/

namespace Nozomi

def Action.bits : Action → List Flag
  | .allocateBuffer _ _ => [.inputEnablePending, .outputEnablePending]
  | .freeBuffer _ _ => [.inputDisablePending, .outputDisablePending]
  | .sendCommand _ _ | .driverMessage _ _ | .setActualcount _ _ | .processEvent _ => []

/-- A run in which one command is followed. -/
structure CommandTrace where
  component : OmxVdec
  /-- For each event of `m_cmd_q`, has the command caused it. -/
  marks : List Bool
  /-- The bits for which its completions wait. -/
  owned : Finset Flag
  /-- The completions that the client was told for it. -/
  told : List Notification

namespace CommandTrace

def track (component : OmxVdec) (cmd param1 : Nat) : CommandTrace where
  component := component.sendCommand cmd param1
  marks := component.mCmdQ.map (fun _ => false) ++
    ((component.sendCommand cmd param1).mCmdQ.drop component.mCmdQ.length).map fun _ => true
  owned := ∅
  told := []

variable (trace : CommandTrace)

def causes (bits : List Flag) (event : OmxEvent) : Bool :=
  bits.any fun flag => flag ∈ trace.owned ∧ flag.completion = some event

def advance (bits : List Flag) (next : OmxVdec) : CommandTrace :=
  { component := next
    marks := trace.marks ++ (next.mCmdQ.drop trace.component.mCmdQ.length).map (trace.causes bits)
    owned := trace.owned.filter (· ∈ next.mFlags)
    told := trace.told }

def follow (event : OmxEvent) (next : OmxVdec) : CommandTrace :=
  { component := next
    marks := trace.marks ++ (next.mCmdQ.drop trace.component.mCmdQ.length).map fun _ => true
    owned := (trace.owned ∪ (trace.component.comesToWait event).toFinset).filter (· ∈ next.mFlags)
    told := trace.told ++ trace.component.toldSince next }

def step : Action → CommandTrace
  | .processEvent environment =>
    match trace.component.mCmdQ, trace.marks with
    | event :: rest, mark :: marks =>
      let taken := { trace with component := { trace.component with mCmdQ := rest }, marks := marks }
      let next := taken.component.handleEvent environment event
      if mark then taken.follow event next
      else taken.advance (if event.id = .command then [] else [.disableOutputDeferred]) next
    | _, _ => trace.advance [] (trace.component.bufferRound environment)
  | action => trace.advance action.bits (trace.component.step action)

def run (actions : List Action) : CommandTrace := actions.foldl step trace

end CommandTrace

/-! ### The condition -/

namespace OmxVdec

variable (component : OmxVdec)

/-- A port command that is handled waits for one of its ports, and in `OMX_StateInvalid` it is not for
`OMX_ALL`; a completion of `OMX_CommandPortDisable` that an output flush defers is not for the input. -/
def HandlesOnce (event : OmxEvent) : Prop :=
  (event.id = .command → IsPortCommand event.param1 event.param2 →
    component.mState = .invalid ∧ event.param2 ≠ allPorts ∨
      component.mState ≠ .invalid ∧
        ∃ port ∈ addressedPorts event.param2, component.MustWait event.param1 port) ∧
  (event.id = .event → event.param1 = commandPortDisable →
    .outputFlushInDisablePending ∈ component.mFlags → event.param2 ≠ inputPortIndex)

instance (event : OmxEvent) : Decidable (component.HandlesOnce event) :=
  inferInstanceAs (Decidable ((_ → _ → _) ∧ (_ → _ → _ → _)))

def CompletesOnce : Action → Prop
  | .processEvent _ => ∀ event ∈ component.mCmdQ.head?, component.HandlesOnce event
  | .sendCommand _ _ | .driverMessage _ _ | .allocateBuffer _ _ | .freeBuffer _ _
  | .setActualcount _ _ => True

instance : ∀ action, Decidable (component.CompletesOnce action)
  | .processEvent _ => inferInstanceAs (Decidable (∀ event ∈ component.mCmdQ.head?, _))
  | .sendCommand _ _ | .driverMessage _ _ | .allocateBuffer _ _ | .freeBuffer _ _
  | .setActualcount _ _ => isTrue trivial

end OmxVdec

/-! ### Counting what belongs to the command -/

def markedOf (queue : List OmxEvent) (marks : List Bool) : List OmxEvent :=
  ((queue.zip marks).filter Prod.snd).map Prod.fst

theorem markedOf_append {queue : List OmxEvent} {marks : List Bool} (hlength : queue.length = marks.length)
    (posted : List OmxEvent) (mark : OmxEvent → Bool) :
    markedOf (queue ++ posted) (marks ++ posted.map mark) = markedOf queue marks ++ posted.filter mark := by
  rw [markedOf, List.zip_append hlength, List.filter_append, List.map_append]
  refine congrArg _ ?_
  induction posted with
  | nil => rfl
  | cons event posted ih =>
    rw [List.map_cons, List.zip_cons_cons, List.filter_cons, List.filter_cons]
    split
    · rw [List.map_cons, ih]
    · exact ih

theorem markedOf_cons (event : OmxEvent) (queue : List OmxEvent) (mark : Bool) (marks : List Bool) :
    markedOf (event :: queue) (mark :: marks) =
      (if mark then [event] else []) ++ markedOf queue marks := by
  rw [markedOf, List.zip_cons_cons, List.filter_cons]
  split
  · rfl
  · rfl

theorem Flag.completion_port {flag : Flag} {event : OmxEvent} (hevent : flag.completion = some event) :
    event.id = .event ∧ event.param2 = flag.port := by
  cases flag with
  | inputEnablePending | outputEnablePending | inputDisablePending | outputDisablePending
  | disableOutputDeferred =>
    obtain rfl := Option.some.inj hevent
    exact ⟨rfl, rfl⟩
  | _ => cases hevent

def claimsOf (cmd : Nat) (marked : List OmxEvent) (owned : Finset Flag) (told : List Notification) :
    Multiset Nat :=
  ↑((marked.filter fun event => event.param1 = cmd).map OmxEvent.param2) + owned.val.map Flag.port +
    ↑(told.map Notification.data2)

theorem claimsOf_append (cmd : Nat) (first second : List OmxEvent) (owned : Finset Flag)
    (told : List Notification) :
    claimsOf cmd (first ++ second) owned told = claimsOf cmd first owned told +
      ↑((second.filter fun event => event.param1 = cmd).map OmxEvent.param2) := by
  rw [claimsOf, List.filter_append, List.map_append, ← Multiset.coe_add, claimsOf,
    add_right_comm _ _ (owned.val.map Flag.port), add_right_comm]

theorem claimsOf_cons {cmd : Nat} {event : OmxEvent} (hcmd : event.param1 = cmd) (marked : List OmxEvent)
    (owned : Finset Flag) (told : List Notification) :
    claimsOf cmd (event :: marked) owned told = claimsOf cmd marked owned told + {event.param2} := by
  rw [claimsOf, List.filter_cons_of_pos (by simpa using hcmd), List.map_cons, ← Multiset.cons_coe,
    ← Multiset.singleton_add, add_assoc, add_assoc, add_comm, ← add_assoc]
  rfl

theorem claimsOf_told (cmd : Nat) (marked : List OmxEvent) (owned : Finset Flag)
    (told : List Notification) (notification : Notification) :
    claimsOf cmd marked owned (told ++ [notification]) =
      claimsOf cmd marked owned told + {notification.data2} := by
  rw [claimsOf, List.map_append, ← Multiset.coe_add, ← add_assoc]
  rfl

theorem claimsOf_insert_le (cmd : Nat) (marked : List OmxEvent) (owned : Finset Flag)
    (told : List Notification) (flag : Flag) :
    claimsOf cmd marked (insert flag owned) told ≤ claimsOf cmd marked owned told + {flag.port} := by
  have hinsert : (insert flag owned).val.map Flag.port ≤ owned.val.map Flag.port + {flag.port} := by
    rw [Finset.insert_val, add_comm, Multiset.singleton_add, ← Multiset.map_cons]
    exact Multiset.map_le_map
      (Multiset.ndinsert_le.mpr ⟨Multiset.le_cons_self _ _, Multiset.mem_cons_self _ _⟩)
  calc claimsOf cmd marked (insert flag owned) told
      ≤ ↑((marked.filter fun event => event.param1 = cmd).map OmxEvent.param2) +
          (owned.val.map Flag.port + {flag.port}) + ↑(told.map Notification.data2) :=
        add_le_add_left (add_le_add_right hinsert _) _
    _ = claimsOf cmd marked owned told + {flag.port} := by
        rw [claimsOf, ← add_assoc, add_right_comm]

theorem claimsOf_mono (cmd : Nat) (marked : List OmxEvent) {first second : Finset Flag}
    (hsubset : first ⊆ second) (told : List Notification) :
    claimsOf cmd marked first told ≤ claimsOf cmd marked second told :=
  add_le_add_left (add_le_add_right (Multiset.map_le_map (Finset.val_le_iff.mpr hsubset)) _) _

theorem claimsOf_release (cmd : Nat) (marked : List OmxEvent) {first second : Finset Flag}
    (hsubset : first ⊆ second) (told : List Notification) {flag : Flag} (hsecond : flag ∈ second)
    (hfirst : flag ∉ first) :
    claimsOf cmd marked first told + {flag.port} ≤ claimsOf cmd marked second told := by
  have herase : first ⊆ second.erase flag := Finset.subset_erase.mpr ⟨hsubset, hfirst⟩
  have hval : second.val.map Flag.port = (second.erase flag).val.map Flag.port + {flag.port} := by
    rw [Finset.erase_val, ← Multiset.cons_erase hsecond, Multiset.map_cons, Multiset.erase_cons_head,
      add_comm, Multiset.singleton_add]
  calc claimsOf cmd marked first told + {flag.port}
      ≤ claimsOf cmd marked (second.erase flag) told + {flag.port} :=
        add_le_add_left (claimsOf_mono cmd marked herase told) _
    _ = claimsOf cmd marked second told := by
        rw [claimsOf, claimsOf, hval, ← add_assoc, add_right_comm]

namespace CommandTrace

def marked (trace : CommandTrace) : List OmxEvent := markedOf trace.component.mCmdQ trace.marks

def claims (trace : CommandTrace) (cmd : Nat) : Multiset Nat :=
  claimsOf cmd trace.marked trace.owned trace.told

variable {trace : CommandTrace} {cmd param1 : Nat}

/-- A step posts at most one completion that belongs to the command, and the command loses its bit. -/
def PostsFor (trace : CommandTrace) (bits : List Flag) (next : OmxVdec) : Prop :=
  ∃ posted, next.mCmdQ = trace.component.mCmdQ ++ posted ∧
    (posted.filter (trace.causes bits) = [] ∨ ∃ flag ∈ trace.owned, ∃ event,
      flag.completion = some event ∧ flag ∉ next.mFlags ∧ posted.filter (trace.causes bits) = [event])

theorem postsFor_of_mCmdQ_eq {bits : List Flag} {next : OmxVdec}
    (hqueue : next.mCmdQ = trace.component.mCmdQ) : trace.PostsFor bits next :=
  ⟨[], by rw [hqueue, List.append_nil], .inl rfl⟩

theorem postsFor_of_releases {next : OmxVdec} {bits : List Flag}
    (hreleases : OmxVdec.Releases bits trace.component next)
    (hbits : ∀ first ∈ bits, ∀ second ∈ bits, first.completion = second.completion → first = second) :
    trace.PostsFor bits next := by
  have hnone : ∀ posted : List OmxEvent, (∀ event ∈ posted, ∀ flag ∈ bits, flag.completion ≠ some event) →
      posted.filter (trace.causes bits) = [] := by
    intro posted hquiet
    rw [List.filter_eq_nil_iff]
    intro event hevent hcauses
    obtain ⟨flag, hflag, hboth⟩ := List.any_eq_true.mp hcauses
    exact hquiet event hevent flag hflag (of_decide_eq_true hboth).2
  rcases hreleases with hquiet | ⟨before, after, flag, event, hflag, hevent, -, hbefore, hqueue, hflags,
    hafter⟩
  · obtain ⟨posted, heq, hposted⟩ := hquiet.posts
    exact ⟨posted, heq, .inl (hnone posted hposted)⟩
  obtain ⟨first, hfirst, hfirstQuiet⟩ := hbefore.posts
  obtain ⟨second, hsecond, hsecondQuiet⟩ := hafter.posts
  rw [OmxVdec.postEvent] at hqueue
  split at hqueue
  · refine ⟨first ++ ([event] ++ second), by rw [hsecond, hqueue, hfirst]; simp, ?_⟩
    rw [List.filter_append, List.filter_append, hnone first hfirstQuiet, hnone second hsecondQuiet,
      List.nil_append, List.append_nil]
    cases hcauses : trace.causes bits event with
    | false => exact .inl (List.filter_cons_of_neg (by simp [hcauses]))
    | true =>
      obtain ⟨owned, howned, hboth⟩ := List.any_eq_true.mp hcauses
      obtain ⟨hmem, hcompletion⟩ := of_decide_eq_true hboth
      obtain rfl := hbits owned howned flag hflag (hcompletion.trans hevent.symm)
      refine .inr ⟨owned, hmem, event, hevent, ?_, List.filter_cons_of_pos hcauses⟩
      rw [hafter.flags owned howned, hflags]
      exact Finset.notMem_erase _ _
  · refine ⟨first ++ second, by rw [hsecond, hqueue, hfirst, List.append_assoc], .inl ?_⟩
    rw [List.filter_append, hnone first hfirstQuiet, hnone second hsecondQuiet, List.nil_append]

/-- Behind the round for the command: what belongs to it are completions for the ports it addresses. -/
structure Handled (cmd param1 : Nat) (trace : CommandTrace) : Prop where
  length : trace.component.mCmdQ.length = trace.marks.length
  owned : ∀ flag ∈ trace.owned, ∃ event, flag.completion = some event ∧ event.param1 = cmd
  marked : ∀ event ∈ trace.marked, event.id = .event ∧ (event.param1 = cmd ∨ event.param1 = eventError)
  told : ∀ notification ∈ trace.told, notification.data1 = cmd
  claimed : trace.claims cmd ≤ (addressedPorts param1 : Multiset Nat)

theorem marked_advance {bits : List Flag} {next : OmxVdec} {posted : List OmxEvent}
    (hlength : trace.component.mCmdQ.length = trace.marks.length)
    (hqueue : next.mCmdQ = trace.component.mCmdQ ++ posted) :
    (trace.advance bits next).marked = trace.marked ++ posted.filter (trace.causes bits) := by
  rw [marked, advance, hqueue, List.drop_left, markedOf_append hlength]
  rfl

theorem Handled.advance {bits : List Flag} {next : OmxVdec} (hhandled : trace.Handled cmd param1)
    (hposts : trace.PostsFor bits next) : (trace.advance bits next).Handled cmd param1 := by
  obtain ⟨posted, hqueue, hposted⟩ := hposts
  have hmarked := @marked_advance trace bits next posted hhandled.length hqueue
  have hsubset : trace.owned.filter (· ∈ next.mFlags) ⊆ trace.owned := Finset.filter_subset _ _
  have hnew : ∀ flag ∈ trace.owned, ∀ event, flag.completion = some event →
      event.id = .event ∧ event.param1 = cmd ∧ event.param2 = flag.port := by
    intro flag hflag event hevent
    obtain ⟨other, hother, hcmd⟩ := hhandled.owned flag hflag
    obtain rfl := Option.some.inj (hother.symm.trans hevent)
    exact ⟨(Flag.completion_port hevent).1, hcmd, (Flag.completion_port hevent).2⟩
  refine ⟨?_, fun flag hflag => hhandled.owned flag (hsubset hflag), ?_, hhandled.told, ?_⟩
  · rw [CommandTrace.advance, hqueue, List.drop_left, List.length_append, List.length_append,
      List.length_map, hhandled.length]
  · intro event hevent
    rw [hmarked] at hevent
    rcases List.mem_append.mp hevent with hevent | hevent
    · exact hhandled.marked event hevent
    rcases hposted with hnone | ⟨flag, hflag, released, hcompletion, -, hone⟩
    · rw [hnone] at hevent
      exact absurd hevent List.not_mem_nil
    · rw [hone] at hevent
      rw [List.mem_singleton.mp hevent]
      exact ⟨(hnew flag hflag released hcompletion).1, .inl (hnew flag hflag released hcompletion).2.1⟩
  · refine le_trans ?_ hhandled.claimed
    rw [CommandTrace.claims, hmarked]
    rcases hposted with hnone | ⟨flag, hflag, released, hcompletion, hcleared, hone⟩
    · rw [hnone, List.append_nil]
      exact claimsOf_mono cmd trace.marked hsubset trace.told
    · obtain ⟨-, hcmd, hport⟩ := hnew flag hflag released hcompletion
      rw [hone, claimsOf_append, List.filter_cons_of_pos (by simpa using hcmd), List.filter_nil,
        List.map_singleton, hport]
      exact claimsOf_release cmd trace.marked hsubset trace.told hflag
        fun hmem => hcleared (Finset.mem_filter.mp hmem).2

theorem mem_addressedPorts {port : Nat}
    (hparam : param1 = inputPortIndex ∨ param1 = outputPortIndex ∨ param1 = allPorts)
    (hport : port ∈ addressedPorts param1) : port = inputPortIndex ∨ port = outputPortIndex := by
  rw [addressedPorts] at hport
  split at hport
  · simpa using hport
  next hall =>
    rw [List.mem_singleton.mp hport]
    rcases hparam with hinput | houtput | hboth
    · exact .inl hinput
    · exact .inr houtput
    · exact absurd hboth hall

theorem Handled.of_follow {event : OmxEvent} {next : OmxVdec}
    (hlength : trace.component.mCmdQ.length = trace.marks.length)
    (hqueue : next.mCmdQ = trace.component.mCmdQ)
    (howned : ∀ flag ∈ trace.owned ∪ (trace.component.comesToWait event).toFinset,
      ∃ event, flag.completion = some event ∧ event.param1 = cmd)
    (hmarked : ∀ event ∈ trace.marked,
      event.id = .event ∧ (event.param1 = cmd ∨ event.param1 = eventError))
    (htold : ∀ notification ∈ trace.told ++ trace.component.toldSince next, notification.data1 = cmd)
    (hclaimed : claimsOf cmd trace.marked (trace.owned ∪ (trace.component.comesToWait event).toFinset)
      (trace.told ++ trace.component.toldSince next) ≤ (addressedPorts param1 : Multiset Nat)) :
    (trace.follow event next).Handled cmd param1 := by
  have hsame : (trace.follow event next).marked = trace.marked := by
    rw [CommandTrace.marked, CommandTrace.follow, hqueue, List.drop_length, List.map_nil,
      List.append_nil]
    rfl
  refine ⟨?_, fun flag hflag => howned flag (Finset.filter_subset _ _ hflag), hsame ▸ hmarked, htold, ?_⟩
  · rw [CommandTrace.follow, hqueue, List.drop_length, List.map_nil, List.append_nil]
    exact hlength
  · rw [CommandTrace.claims, hsame]
    exact le_trans (claimsOf_mono cmd _ (Finset.filter_subset _ _) _) hclaimed

theorem Handled.follow {event : OmxEvent} {environment : Environment}
    (hcommand : IsPortCommand cmd param1)
    (hlength : trace.component.mCmdQ.length = trace.marks.length)
    (hevent : event.id = .event) (hparam : event.param1 = cmd ∨ event.param1 = eventError)
    (honce : event.param1 = commandPortDisable →
      .outputFlushInDisablePending ∈ trace.component.mFlags → event.param2 ≠ inputPortIndex)
    (howned : ∀ flag ∈ trace.owned, ∃ event, flag.completion = some event ∧ event.param1 = cmd)
    (hmarked : ∀ event ∈ trace.marked,
      event.id = .event ∧ (event.param1 = cmd ∨ event.param1 = eventError))
    (htold : ∀ notification ∈ trace.told, notification.data1 = cmd)
    (hclaimed : claimsOf cmd (event :: trace.marked) trace.owned trace.told ≤
      (addressedPorts param1 : Multiset Nat)) :
    (trace.follow event (trace.component.handleEvent environment event)).Handled cmd param1 := by
  obtain ⟨first, port, id⟩ := event
  obtain rfl : id = .event := hevent
  have hqueue := OmxVdec.generateEvent_mCmdQ trace.component environment first port
  change (trace.follow _ (trace.component.generateEvent environment first port)).Handled cmd param1
  rcases hparam with hcmd | herror
  · obtain rfl : first = cmd := hcmd
    rw [@claimsOf_cons first ⟨first, port, .event⟩ rfl] at hclaimed
    obtain ⟨hwaits, htells⟩ | ⟨hdisable, hflush, hwaits, htells⟩ :=
      OmxVdec.generateEvent_portCommand trace.component environment hcommand.1 port
    · apply Handled.of_follow hlength hqueue
      · rwa [hwaits, List.toFinset_nil, Finset.union_empty]
      · exact hmarked
      · intro notification hnotification
        rcases List.mem_append.mp hnotification with hold | hnew
        · exact htold notification hold
        rcases htells with hnone | hone
        · rw [hnone] at hnew
          exact absurd hnew List.not_mem_nil
        · rw [hone] at hnew
          rw [List.mem_singleton.mp hnew]
      · rw [hwaits, List.toFinset_nil, Finset.union_empty]
        rcases htells with hnone | hone
        · rw [hnone, List.append_nil]
          exact le_trans (Multiset.le_add_right _ _) hclaimed
        · rw [hone, claimsOf_told]
          exact hclaimed
    · have hmem : port ∈ addressedPorts param1 := Multiset.mem_coe.mp (Multiset.mem_of_le hclaimed
        (Multiset.mem_add.mpr (.inr (Multiset.mem_singleton_self port))))
      have hport : port = outputPortIndex :=
        (mem_addressedPorts hcommand.2 hmem).resolve_left (honce hdisable hflush)
      apply Handled.of_follow hlength hqueue
      · rw [hwaits]
        intro flag hflag
        rcases Finset.mem_union.mp hflag with hold | hnew
        · exact howned flag hold
        · rw [List.mem_singleton.mp (List.mem_toFinset.mp hnew), hdisable]
          exact ⟨_, rfl, rfl⟩
      · exact hmarked
      · rw [htells, List.append_nil]
        exact htold
      · rw [hwaits, htells, List.append_nil, Finset.union_comm]
        refine le_trans (claimsOf_insert_le first trace.marked trace.owned trace.told
          .disableOutputDeferred) ?_
        rw [hport] at hclaimed
        exact hclaimed
  · obtain rfl : first = eventError := herror
    have hne : eventError ≠ cmd := by
      rcases hcommand.1 with rfl | rfl <;> decide
    have hwaits : trace.component.comesToWait ⟨eventError, port, .event⟩ = [] := by
      rw [OmxVdec.comesToWait]
      exact if_neg fun hboth => absurd (show eventError = commandPortDisable from hboth.1) (by decide)
    have htells := OmxVdec.toldSince_generateEvent_error trace.component environment port
    apply Handled.of_follow hlength hqueue
    · rwa [hwaits, List.toFinset_nil, Finset.union_empty]
    · exact hmarked
    · rw [htells, List.append_nil]
      exact htold
    · rw [hwaits, htells, List.append_nil, List.toFinset_nil, Finset.union_empty]
      rw [claimsOf, List.filter_cons_of_neg (by simpa using hne)] at hclaimed
      exact hclaimed

structure Waiting (cmd param1 : Nat) (trace : CommandTrace) : Prop where
  length : trace.component.mCmdQ.length = trace.marks.length
  marked : trace.marked = [⟨cmd, param1, .command⟩]
  owned : trace.owned = ∅
  told : trace.told = []

theorem Waiting.advance {bits : List Flag} {next : OmxVdec} (hwaiting : trace.Waiting cmd param1)
    (hposts : trace.PostsFor bits next) : (trace.advance bits next).Waiting cmd param1 := by
  obtain ⟨posted, hqueue, hposted⟩ := hposts
  have hmarked := @marked_advance trace bits next posted hwaiting.length hqueue
  have hnone : posted.filter (trace.causes bits) = [] := by
    rcases hposted with hnone | ⟨flag, hflag, -⟩
    · exact hnone
    · rw [hwaiting.owned] at hflag
      exact absurd hflag (Finset.notMem_empty flag)
  refine ⟨?_, ?_, ?_, hwaiting.told⟩
  · rw [CommandTrace.advance, hqueue, List.drop_left, List.length_append, List.length_append,
      List.length_map, hwaiting.length]
  · rw [hmarked, hnone, List.append_nil, hwaiting.marked]
  · rw [CommandTrace.advance, hwaiting.owned]
    rfl

theorem pendingBit_completion {port : Nat} (hcmd : cmd = commandPortEnable ∨ cmd = commandPortDisable)
    (hport : port = inputPortIndex ∨ port = outputPortIndex) :
    (pendingBit cmd port).completion = some ⟨cmd, port, .event⟩ := by
  rcases hcmd with rfl | rfl <;> rcases hport with rfl | rfl <;> rfl

theorem claimsOf_command_le {component : OmxVdec} (hcommand : IsPortCommand cmd param1) :
    claimsOf cmd (((addressedPorts param1).filter fun port => !decide (component.MustWait cmd port)).map
        fun port => ⟨cmd, port, .event⟩)
      (((addressedPorts param1).filter fun port => component.MustWait cmd port).map
        (pendingBit cmd)).toFinset [] ≤ (addressedPorts param1 : Multiset Nat) := by
  have hports : ∀ ports : List Nat, ((ports.map fun port => (⟨cmd, port, .event⟩ : OmxEvent)).filter
      fun event => event.param1 = cmd).map OmxEvent.param2 = ports := by
    intro ports
    rw [List.filter_eq_self.mpr (by simp), List.map_map]
    exact List.map_id ports
  have hbits : (((addressedPorts param1).filter fun port => component.MustWait cmd port).map
      (pendingBit cmd)).map Flag.port =
        (addressedPorts param1).filter fun port => component.MustWait cmd port := by
    rw [List.map_map]
    refine (List.map_congr_left fun port hport => ?_).trans (List.map_id _)
    exact (Flag.completion_port (pendingBit_completion hcommand.1
      (mem_addressedPorts hcommand.2 (List.mem_of_mem_filter hport)))).2.symm
  have hwaits : ∀ flags : List Flag, flags.toFinset.val.map Flag.port ≤ ↑(flags.map Flag.port) := by
    intro flags
    rw [List.toFinset_val, Multiset.map_coe]
    exact Multiset.coe_le.mpr ((List.dedup_sublist flags).map Flag.port).subperm
  rw [claimsOf, hports, List.map_nil, Multiset.coe_nil, add_zero]
  refine le_trans (add_le_add_right (hwaits _) _) (le_of_eq ?_)
  rw [hbits, Multiset.coe_add, Multiset.coe_eq_coe]
  exact List.perm_append_comm.trans (List.filter_append_perm _ _)

theorem claimsOf_sublist (cmd : Nat) {first second : List OmxEvent} (hsublist : first.Sublist second)
    (owned : Finset Flag) (told : List Notification) :
    claimsOf cmd first owned told ≤ claimsOf cmd second owned told :=
  add_le_add_left (add_le_add_left (Multiset.coe_le.mpr ((hsublist.filter _).map _).subperm) _) _

theorem follow_command {environment : Environment} (hcommand : IsPortCommand cmd param1)
    (hlength : trace.component.mCmdQ.length = trace.marks.length) (hmarked : trace.marked = [])
    (howned : trace.owned = ∅) (htold : trace.told = [])
    (honce : trace.component.HandlesOnce ⟨cmd, param1, .command⟩) :
    (trace.follow ⟨cmd, param1, .command⟩
      (trace.component.handleEvent environment ⟨cmd, param1, .command⟩)).Handled cmd param1 := by
  change (trace.follow _ (trace.component.sendCommandProxy environment.ioctl param1 cmd)).Handled cmd param1
  obtain ⟨posted, hsublist, hqueue⟩ :=
    trace.component.sendCommandProxy_posts environment.ioctl param1 cmd
  have hnotified : (trace.component.sendCommandProxy environment.ioctl param1 cmd).notified =
      trace.component.notified := by
    rw [OmxVdec.sendCommandProxy, (OmxVdec.foldl_postEvent _ _).2]
    by_cases hstate : trace.component.mState = .invalid
    · rw [(OmxVdec.command_port_invalid environment.ioctl hcommand hstate).2]
    · exact (OmxVdec.command_port environment.ioctl hcommand hstate).2.2.2.2
  have htells := OmxVdec.toldSince_of_eq hnotified
  have hfollowed : (trace.follow ⟨cmd, param1, .command⟩
      (trace.component.sendCommandProxy environment.ioctl param1 cmd)).marked = posted := by
    rw [CommandTrace.marked, CommandTrace.follow, hqueue, List.drop_left, markedOf_append hlength]
    change trace.marked ++ posted.filter (fun _ => true) = posted
    rw [hmarked, List.filter_true, List.nil_append]
  have hwaits : ∀ flag ∈ trace.component.comesToWait ⟨cmd, param1, .command⟩,
      ∃ event, flag.completion = some event ∧ event.param1 = cmd := by
    intro flag hflag
    rw [OmxVdec.comesToWait] at hflag
    dsimp only at hflag
    split at hflag
    · exact absurd hflag List.not_mem_nil
    · obtain ⟨port, hport, rfl⟩ := List.mem_map.mp hflag
      exact ⟨_, pendingBit_completion hcommand.1
        (mem_addressedPorts hcommand.2 (List.mem_of_mem_filter hport)), rfl⟩
  have hposts : (∀ event ∈ trace.component.commandPosts environment.ioctl param1 cmd,
      event.id = .event ∧ (event.param1 = cmd ∨ event.param1 = eventError)) ∧
      claimsOf cmd (trace.component.commandPosts environment.ioctl param1 cmd)
        (trace.component.comesToWait ⟨cmd, param1, .command⟩).toFinset [] ≤
          (addressedPorts param1 : Multiset Nat) := by
    rcases honce.1 rfl hcommand with ⟨hinvalid, hone⟩ | ⟨hstate, hwait⟩
    · have hnone : trace.component.comesToWait ⟨cmd, param1, .command⟩ = [] := if_pos hinvalid
      have hports : addressedPorts param1 = [param1] := if_neg hone
      rw [hnone, hports]
      rcases (OmxVdec.command_port_invalid environment.ioctl hcommand hinvalid).1 with herror | hraw
      · have hne : eventError ≠ cmd := by
          rcases hcommand.1 with rfl | rfl <;> decide
        rw [herror, claimsOf, List.filter_cons_of_neg (by simpa using hne)]
        refine ⟨fun event hevent => ?_, Multiset.zero_le _⟩
        rw [List.mem_singleton.mp hevent]
        exact ⟨rfl, .inr rfl⟩
      · rw [hraw, claimsOf, List.filter_cons_of_pos (by simp)]
        refine ⟨fun event hevent => ?_, le_refl _⟩
        rw [List.mem_singleton.mp hevent]
        exact ⟨rfl, .inl rfl⟩
    · have hbits : trace.component.comesToWait ⟨cmd, param1, .command⟩ =
          ((addressedPorts param1).filter fun port => trace.component.MustWait cmd port).map
            (pendingBit cmd) := if_neg hstate
      rw [OmxVdec.commandPosts_port environment.ioctl hcommand hstate hwait, hbits]
      refine ⟨fun event hevent => ?_, claimsOf_command_le hcommand⟩
      obtain ⟨port, -, rfl⟩ := List.mem_map.mp hevent
      exact ⟨rfl, .inl rfl⟩
  refine ⟨?_, fun flag hflag => ?_, ?_, ?_, ?_⟩
  · rw [CommandTrace.follow, hqueue, List.drop_left, List.length_append, List.length_append,
      List.length_map, hlength]
  · have hmem := (Finset.mem_filter.mp hflag).1
    rw [howned, Finset.empty_union] at hmem
    exact hwaits flag (List.mem_toFinset.mp hmem)
  · rw [hfollowed]
    exact fun event hevent => hposts.1 event (hsublist.subset hevent)
  · rw [CommandTrace.follow, htold, htells]
    exact fun notification hmem => absurd hmem List.not_mem_nil
  · rw [CommandTrace.claims, hfollowed, CommandTrace.follow, htold, htells, howned, Finset.empty_union]
    exact le_trans (claimsOf_mono cmd posted (Finset.filter_subset _ _) _)
      (le_trans (claimsOf_sublist cmd hsublist _ _) hposts.2)

/-! ### One step and whole runs -/

theorem postsFor_nil {next : OmxVdec} (hqueue : ∃ posted, next.mCmdQ = trace.component.mCmdQ ++ posted) :
    trace.PostsFor [] next := by
  obtain ⟨posted, heq⟩ := hqueue
  exact ⟨posted, heq, .inl (List.filter_eq_nil_iff.mpr fun _ _ => Bool.false_ne_true)⟩

theorem step_postsFor {action : Action} (haction : ∀ environment, action ≠ .processEvent environment) :
    trace.PostsFor action.bits (trace.component.step action) := by
  cases action with
  | sendCommand cmd param1 =>
    obtain ⟨posted, -, hqueue⟩ := trace.component.sendCommand_posts cmd param1
    exact postsFor_nil ⟨posted, hqueue⟩
  | processEvent environment => exact absurd rfl (haction environment)
  | driverMessage message status =>
    obtain ⟨posted, -, hqueue⟩ := (OmxVdec.foldl_postEvent [message.toEvent status] trace.component).1
    exact postsFor_nil ⟨posted, hqueue⟩
  | allocateBuffer port index =>
    exact @postsFor_of_releases _ _ [.inputEnablePending, .outputEnablePending]
      (OmxVdec.allocateBuffer_releases port index) (by decide)
  | freeBuffer port index =>
    exact @postsFor_of_releases _ _ [.inputDisablePending, .outputDisablePending]
      (OmxVdec.freeBuffer_releases port index) (by decide)
  | setActualcount input output => exact postsFor_of_mCmdQ_eq rfl

theorem handleEvent_postsFor (trace : CommandTrace) (environment : Environment) (event : OmxEvent) :
    trace.PostsFor (if event.id = .command then [] else [.disableOutputDeferred])
      (trace.component.handleEvent environment event) := by
  split
  next hid =>
    obtain ⟨posted, -, hqueue⟩ :=
      trace.component.sendCommandProxy_posts environment.ioctl event.param2 event.param1
    refine postsFor_nil ⟨posted, ?_⟩
    rw [OmxVdec.handleEvent, hid]
    exact hqueue
  next hid =>
    rcases trace.component.handleEvent_posts environment hid with hqueue | hreleases
    · exact postsFor_of_mCmdQ_eq hqueue
    · exact postsFor_of_releases hreleases (by decide)

def Followed (cmd param1 : Nat) (trace : CommandTrace) : Prop :=
  trace.Waiting cmd param1 ∨ trace.Handled cmd param1

theorem Followed.advance {bits : List Flag} {next : OmxVdec} (hfollowed : trace.Followed cmd param1)
    (hposts : trace.PostsFor bits next) : (trace.advance bits next).Followed cmd param1 := by
  rcases hfollowed with hwaiting | hhandled
  · exact .inl (hwaiting.advance hposts)
  · exact .inr (hhandled.advance hposts)

theorem Followed.taken {event : OmxEvent} {rest : List OmxEvent} {mark : Bool} {marks : List Bool}
    (hfollowed : trace.Followed cmd param1) (hqueue : trace.component.mCmdQ = event :: rest)
    (hmarks : trace.marks = mark :: marks) (hmark : mark = false) :
    Followed cmd param1
      { trace with component := { trace.component with mCmdQ := rest }, marks := marks } := by
  have hmarked : trace.marked = markedOf rest marks := by
    rw [CommandTrace.marked, hqueue, hmarks, markedOf_cons, hmark, if_neg Bool.false_ne_true,
      List.nil_append]
  have hlength : trace.component.mCmdQ.length = trace.marks.length → rest.length = marks.length := by
    rw [hqueue, hmarks]
    exact Nat.succ.inj
  rcases hfollowed with hwaiting | hhandled
  · exact .inl ⟨hlength hwaiting.length, hmarked.symm.trans hwaiting.marked, hwaiting.owned,
      hwaiting.told⟩
  · have hcaused := hhandled.marked
    rw [hmarked] at hcaused
    have hclaimed := hhandled.claimed
    rw [CommandTrace.claims, hmarked] at hclaimed
    exact .inr ⟨hlength hhandled.length, hhandled.owned, hcaused, hhandled.told, hclaimed⟩

theorem Followed.follow {event : OmxEvent} {rest : List OmxEvent} {marks : List Bool}
    {environment : Environment} (hcommand : IsPortCommand cmd param1)
    (hfollowed : trace.Followed cmd param1) (hqueue : trace.component.mCmdQ = event :: rest)
    (hmarks : trace.marks = true :: marks) (honce : trace.component.HandlesOnce event) :
    Followed cmd param1 (CommandTrace.follow
      { trace with component := { trace.component with mCmdQ := rest }, marks := marks } event
      (OmxVdec.handleEvent { trace.component with mCmdQ := rest } environment event)) := by
  have hmarked : trace.marked = event :: markedOf rest marks := by
    rw [CommandTrace.marked, hqueue, hmarks, markedOf_cons]
    rfl
  have hlength : trace.component.mCmdQ.length = trace.marks.length → rest.length = marks.length := by
    rw [hqueue, hmarks]
    exact Nat.succ.inj
  rcases hfollowed with hwaiting | hhandled
  · rw [hwaiting.marked] at hmarked
    obtain ⟨rfl, hrest⟩ := List.cons_eq_cons.mp hmarked
    exact .inr (follow_command hcommand (hlength hwaiting.length) hrest.symm hwaiting.owned hwaiting.told
      honce)
  have hcaused := hhandled.marked
  rw [hmarked] at hcaused
  obtain ⟨hid, hparam⟩ := hcaused event List.mem_cons_self
  have hclaimed := hhandled.claimed
  rw [CommandTrace.claims, hmarked] at hclaimed
  exact .inr (Handled.follow hcommand (hlength hhandled.length) hid hparam (honce.2 hid)
    hhandled.owned (fun event hevent => hcaused event (List.mem_cons_of_mem _ hevent)) hhandled.told
    hclaimed)

theorem Followed.step {action : Action} (hcommand : IsPortCommand cmd param1)
    (hfollowed : trace.Followed cmd param1) (honce : trace.component.CompletesOnce action) :
    (trace.step action).Followed cmd param1 := by
  cases action with
  | processEvent environment =>
    rw [CommandTrace.step]
    split
    next event rest mark marks hqueue hmarks =>
      have hevent : trace.component.HandlesOnce event := honce event (by rw [hqueue]; rfl)
      dsimp only
      split
      next hmark =>
        subst hmark
        exact hfollowed.follow hcommand hqueue hmarks hevent
      next hmark =>
        exact (hfollowed.taken hqueue hmarks (Bool.eq_false_of_not_eq_true hmark)).advance
          (handleEvent_postsFor _ environment event)
    next => exact hfollowed.advance (postsFor_of_mCmdQ_eq (OmxVdec.bufferRound_mCmdQ _ _))
  | sendCommand _ _ | driverMessage _ _ | allocateBuffer _ _ | freeBuffer _ _ | setActualcount _ _ =>
    exact hfollowed.advance (step_postsFor fun _ => nofun)

theorem step_component (hlength : trace.component.mCmdQ.length = trace.marks.length) (action : Action) :
    (trace.step action).component = trace.component.step action := by
  cases action with
  | processEvent environment =>
    rw [CommandTrace.step, OmxVdec.step, OmxVdec.processEvent]
    cases hqueue : trace.component.mCmdQ with
    | nil => rfl
    | cons event rest =>
      cases hmarks : trace.marks with
      | nil =>
        rw [hqueue, hmarks] at hlength
        cases hlength
      | cons mark marks =>
        dsimp only
        split <;> rfl
  | sendCommand _ _ | driverMessage _ _ | allocateBuffer _ _ | freeBuffer _ _ | setActualcount _ _ => rfl

theorem Followed.length (hfollowed : trace.Followed cmd param1) :
    trace.component.mCmdQ.length = trace.marks.length := by
  rcases hfollowed with hwaiting | hhandled
  · exact hwaiting.length
  · exact hhandled.length

theorem Followed.run (hcommand : IsPortCommand cmd param1) (actions : List Action) :
    ∀ trace : CommandTrace, trace.Followed cmd param1 →
      RunMeets (fun component action => some (component.step action)) OmxVdec.CompletesOnce
        trace.component actions → (trace.run actions).Followed cmd param1 := by
  induction actions with
  | nil => exact fun _ hfollowed _ => hfollowed
  | cons action actions ih =>
    intro trace hfollowed hmeets
    refine ih (trace.step action) (hfollowed.step hcommand hmeets.1) ?_
    rw [step_component hfollowed.length]
    exact hmeets.2 _ rfl

theorem track_followed (component : OmxVdec) (cmd param1 : Nat) :
    (track component cmd param1).Followed cmd param1 := by
  obtain ⟨posted, hsublist, hqueue⟩ := component.sendCommand_posts cmd param1
  have hlength : component.mCmdQ.length = (component.mCmdQ.map fun _ => false).length :=
    (List.length_map _).symm
  have hold : ∀ queue : List OmxEvent, markedOf queue (queue.map fun _ => false) = [] := by
    intro queue
    have happend := @markedOf_append [] [] rfl queue fun _ => false
    rwa [List.filter_false] at happend
  have hmarked : (track component cmd param1).marked = posted := by
    rw [marked, track, hqueue, List.drop_left, markedOf_append hlength, hold, List.nil_append]
    exact List.filter_true posted
  have hlast : (track component cmd param1).component.mCmdQ.length =
      (track component cmd param1).marks.length := by
    rw [track, hqueue, List.drop_left, List.length_append, List.length_append, List.length_map,
      List.length_map]
  rcases List.sublist_singleton.mp hsublist with hnone | hone
  · rw [hnone] at hmarked
    refine .inr ⟨hlast, fun flag hflag => absurd hflag (Finset.notMem_empty flag), ?_,
      fun _ hmem => absurd hmem List.not_mem_nil, ?_⟩
    · rw [hmarked]
      exact fun _ hmem => absurd hmem List.not_mem_nil
    · rw [claims, hmarked]
      exact Multiset.zero_le _
  · exact .inl ⟨hlast, hmarked.trans hone, rfl, rfl⟩

/-- What a client may expect of a port command: at most one completion for each port that it addresses,
with the index of the port. -/
def CompletedOnce (trace : CommandTrace) (cmd param1 : Nat) : Prop :=
  (trace.told.map Notification.data2).Nodup ∧
    ∀ notification ∈ trace.told, notification.data1 = cmd ∧ notification.data2 ∈ addressedPorts param1

instance (trace : CommandTrace) (cmd param1 : Nat) : Decidable (trace.CompletedOnce cmd param1) :=
  inferInstanceAs (Decidable (_ ∧ _))

theorem Followed.completedOnce (hfollowed : trace.Followed cmd param1) : trace.CompletedOnce cmd param1 := by
  rcases hfollowed with hwaiting | hhandled
  · rw [CompletedOnce, hwaiting.told]
    exact ⟨List.nodup_nil, fun _ hmem => absurd hmem List.not_mem_nil⟩
  have hle : ((trace.told.map Notification.data2 : List Nat) : Multiset Nat) ≤ addressedPorts param1 :=
    le_trans (Multiset.le_add_left _ _) hhandled.claimed
  have hnodup : (addressedPorts param1).Nodup := by
    rw [addressedPorts]
    split
    · decide
    · exact List.nodup_singleton param1
  refine ⟨Multiset.coe_nodup.mp (Multiset.nodup_of_le hle (Multiset.coe_nodup.mpr hnodup)),
    fun notification hmem => ⟨hhandled.told notification hmem, ?_⟩⟩
  exact Multiset.mem_coe.mp (Multiset.mem_of_le hle (Multiset.mem_coe.mpr
    (List.mem_map_of_mem hmem)))

/-- In every run whose rounds meet the condition a port command that is sent in any state is completed at
most once for each port. -/
theorem track_completedOnce (component : OmxVdec) (hcommand : IsPortCommand cmd param1)
    {actions : List Action}
    (hmeets : RunMeets (fun component action => some (component.step action)) OmxVdec.CompletesOnce
      (component.sendCommand cmd param1) actions) :
    ((track component cmd param1).run actions).CompletedOnce cmd param1 :=
  (Followed.run hcommand actions _ (track_followed component cmd param1) hmeets).completedOnce

def sampleEnvironment : Environment := ⟨fun _ => true, true, 1, true, true, .progressive, true, true⟩

/-- A port with a buffer is disabled, and completes when the buffer is freed. -/
theorem track_completedOnce_sample :
    (((track ((OmxVdec.init 1 1).allocateBuffer 0 0) 2 0).run
        [.processEvent sampleEnvironment, .freeBuffer 0 0, .processEvent sampleEnvironment]).told =
      [⟨.cmdComplete, 2, 0⟩]) ∧
    ((track ((OmxVdec.init 1 1).allocateBuffer 0 0) 2 0).run
      [.processEvent sampleEnvironment, .freeBuffer 0 0,
        .processEvent sampleEnvironment]).CompletedOnce 2 0 :=
  ⟨by decide, track_completedOnce _ (by decide) (by decide)⟩

/-- Both ports are disabled without buffers: the client is told three completions, the last of them for
`OMX_ALL`. -/
theorem not_completedOnce_loaded :
    ¬((track (OmxVdec.init 1 1) 2 allPorts).run [.processEvent sampleEnvironment,
      .processEvent sampleEnvironment, .processEvent sampleEnvironment,
      .processEvent sampleEnvironment]).CompletedOnce 2 allPorts := by
  decide

end CommandTrace

end Nozomi
