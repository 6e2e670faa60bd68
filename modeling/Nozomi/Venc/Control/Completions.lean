import Mathlib.Algebra.BigOperators.Group.Finset.Basic
import Mathlib.Algebra.Order.BigOperators.Group.Finset
import Mathlib.Algebra.Order.Group.Multiset
import Mathlib.Tactic.Abel
import Nozomi.Base.Run
import Nozomi.Venc.Control.Invalid

/-!
# Each command of the encoder is completed at most once

What a command still has coming is held by its event in `m_cmd_q`, by the completions posted for it, by the bits
that wait for it and by the calls of `EventHandler` it has had. A step moves these claims and adds none. The one
exception is a port command that waits for none of its ports: its end posts it a second time.
-/

namespace Nozomi.VencControl

open OmxVideo

/-! ### Claims -/

def expected (cmd param1 : Nat) : Multiset (Nat × Nat) :=
  if cmd = commandStateSet then {(cmd, param1)}
  else if cmd = commandFlush ∨ cmd = commandPortDisable ∨ cmd = commandPortEnable then
    ↑((addressedPorts param1).map fun port => (cmd, port))
  else 0

def OmxEvent.completes (event : OmxEvent) : Multiset (Nat × Nat) :=
  match event.id with
  | .command => expected event.param1 event.param2
  | .event => if event.param1 = eventError then 0 else {(event.param1, event.param2)}
  | _ => 0

def Flag.completes (flag : Flag) : Multiset (Nat × Nat) :=
  match flag.completion with
  | some completion => {completion}
  | none => 0

def claimOf (n : Nat) (causes : Finset Nat) (what : Multiset (Nat × Nat)) : Multiset (Nat × Nat) :=
  if n ∈ causes then what else 0

def waitingClaims (n : Nat) (owners : Flag → Finset Nat) : Multiset (Nat × Nat) :=
  ∑ flag, claimOf n (owners flag) flag.completes

def claims (n : Nat) (video : OmxVideo) : Multiset (Nat × Nat) :=
  (video.mCmdQ.map fun event => claimOf n event.causes event.completes).sum +
    waitingClaims n video.owners +
    (video.completions.map fun notice => claimOf n notice.causes {(notice.data1, notice.data2)}).sum

section

variable (n : Nat) (causes : Finset Nat)

theorem claimOf_zero : claimOf n causes 0 = 0 := ite_self 0

theorem claimOf_empty (what : Multiset (Nat × Nat)) : claimOf n ∅ what = 0 :=
  if_neg (Finset.notMem_empty n)

theorem claimOf_add (first second : Multiset (Nat × Nat)) :
    claimOf n causes (first + second) = claimOf n causes first + claimOf n causes second := by
  rw [claimOf, claimOf, claimOf]
  split
  · rfl
  · exact (add_zero 0).symm

theorem claimOf_mono {first second : Multiset (Nat × Nat)} (hle : first ≤ second) :
    claimOf n causes first ≤ claimOf n causes second := by
  rw [claimOf, claimOf]
  split
  · exact hle
  · exact le_rfl

theorem claimOf_union_le (others : Finset Nat) (what : Multiset (Nat × Nat)) :
    claimOf n (causes ∪ others) what ≤ claimOf n causes what + claimOf n others what := by
  by_cases hfirst : n ∈ causes
  · rw [claimOf, if_pos (Finset.mem_union_left others hfirst), claimOf, if_pos hfirst]
    exact Multiset.le_add_right _ _
  · by_cases hsecond : n ∈ others
    · rw [claimOf, if_pos (Finset.mem_union_right causes hsecond), claimOf, if_neg hfirst, claimOf,
        if_pos hsecond, zero_add]
    · rw [claimOf, if_neg fun hmem => (Finset.mem_union.mp hmem).elim hfirst hsecond]
      exact Multiset.zero_le _

theorem waitingClaims_update (owners : Flag → Finset Nat) (flag : Flag) :
    waitingClaims n (Function.update owners flag causes) + claimOf n (owners flag) flag.completes =
      waitingClaims n owners + claimOf n causes flag.completes := by
  have hrest : ∑ other ∈ Finset.univ.erase flag,
      claimOf n (Function.update owners flag causes other) other.completes =
      ∑ other ∈ Finset.univ.erase flag, claimOf n (owners other) other.completes := by
    apply Finset.sum_congr rfl
    intro other hother
    rw [Function.update_of_ne (Finset.ne_of_mem_erase hother)]
  rw [waitingClaims, waitingClaims, ← Finset.add_sum_erase _ _ (Finset.mem_univ flag), hrest,
    ← Finset.add_sum_erase Finset.univ (fun other => claimOf n (owners other) other.completes)
      (Finset.mem_univ flag), Function.update_self]
  abel

end

/-! ### What one step may add -/

/-- Some commands gain at most some completions, and none is sent. -/
structure Gains (causes : Finset Nat) (what : Multiset (Nat × Nat)) (video next : OmxVideo) : Prop where
  sent : next.sent = video.sent
  claimed : ∀ n, claims n next ≤ claims n video + claimOf n causes what

namespace Gains

variable {causes : Finset Nat} {first second : Multiset (Nat × Nat)} {video middle next : OmxVideo}

theorem trans (hfirst : Gains causes first video middle) (hsecond : Gains causes second middle next) :
    Gains causes (first + second) video next where
  sent := hsecond.sent.trans hfirst.sent
  claimed n := by
    rw [claimOf_add, ← add_assoc]
    exact (hsecond.claimed n).trans (add_le_add_left (hfirst.claimed n) _)

theorem mono (hgains : Gains causes first video next) (hle : first ≤ second) :
    Gains causes second video next where
  sent := hgains.sent
  claimed n := (hgains.claimed n).trans (add_le_add_right (claimOf_mono n causes hle) _)

theorem untouched (causes : Finset Nat) (hnext : Untouched video next) : Gains causes 0 video next where
  sent := hnext.sent
  claimed n := by
    rw [claims, claims, hnext.queue, hnext.owners, hnext.completions, claimOf_zero, add_zero]

theorem refl (causes : Finset Nat) (video : OmxVideo) : Gains causes 0 video video :=
  untouched causes (.refl video)

theorem before (hnext : Untouched video middle) (hgains : Gains causes first middle next) :
    Gains causes first video next := by
  rw [← zero_add first]
  exact (untouched causes hnext).trans hgains

theorem after (hgains : Gains causes first video middle) (hnext : Untouched middle next) :
    Gains causes first video next := by
  rw [← add_zero first]
  exact hgains.trans (untouched causes hnext)

theorem postEvent (video : OmxVideo) (event : OmxEvent) :
    Gains event.causes event.completes video (video.postEvent event) := by
  rw [OmxVideo.postEvent]
  split
  · refine ⟨rfl, fun n => le_of_eq ?_⟩
    simp only [claims, completions, List.map_append, List.sum_append, List.map_cons, List.map_nil,
      List.sum_cons, List.sum_nil]
    abel
  · exact (refl event.causes video).mono (Multiset.zero_le _)

theorem setFlag (video : OmxVideo) (flag : Flag) (causes : Finset Nat) :
    Gains causes flag.completes video (video.setFlag flag causes) := by
  refine ⟨rfl, fun n => ?_⟩
  have hwaiting : waitingClaims n (Function.update video.owners flag (video.owners flag ∪ causes)) ≤
      waitingClaims n video.owners + claimOf n causes flag.completes := by
    apply @le_of_add_le_add_right _ _ _ _ (claimOf n (video.owners flag) flag.completes)
    rw [waitingClaims_update, add_assoc, add_comm (claimOf n causes _)]
    exact add_le_add_right (claimOf_union_le n (video.owners flag) causes flag.completes) _
  calc claims n (video.setFlag flag causes)
      ≤ (video.mCmdQ.map fun event => claimOf n event.causes event.completes).sum +
          (waitingClaims n video.owners + claimOf n causes flag.completes) +
          (video.completions.map fun notice => claimOf n notice.causes {(notice.data1, notice.data2)}).sum :=
        add_le_add_left (add_le_add_right hwaiting _) _
    _ = claims n video + claimOf n causes flag.completes := by
        rw [claims]
        abel

theorem claims_clearFlag (n : Nat) (video : OmxVideo) (flag : Flag) :
    claims n (video.clearFlag flag) + claimOf n (video.owners flag) flag.completes = claims n video := by
  have hwaiting := waitingClaims_update n ∅ video.owners flag
  rw [claimOf_empty, add_zero] at hwaiting
  rw [claims, claims, ← hwaiting]
  simp only [OmxVideo.clearFlag, completions]
  abel

theorem claims_eventHandler (n : Nat) (video : OmxVideo) (data1 data2 : Nat) (causes : Finset Nat) :
    claims n (video.eventHandler .cmdComplete data1 data2 causes) =
      claims n video + claimOf n causes {(data1, data2)} := by
  simp only [claims, OmxVideo.eventHandler, completions, List.filter_append, List.map_append,
    List.sum_append, List.filter_cons, List.filter_nil, decide_true, if_true, List.map_cons, List.map_nil,
    List.sum_cons, List.sum_nil]
  abel

variable {flag : Flag}

theorem completed (causes : Finset Nat) (video : OmxVideo) {data1 data2 : Nat}
    (hflag : flag.completion = some (data1, data2)) :
    Gains causes 0 video
      ((video.clearFlag flag).eventHandler .cmdComplete data1 data2 (video.owners flag)) := by
  refine ⟨rfl, fun n => ?_⟩
  have hcompletes : flag.completes = {(data1, data2)} := by rw [Flag.completes, hflag]
  rw [claims_eventHandler, ← hcompletes, claims_clearFlag, claimOf_zero, add_zero]

theorem moveTo (causes : Finset Nat) (video : OmxVideo) {param : Nat}
    (hflag : flag.completion = some (commandStateSet, param)) (state : StateType) :
    Gains causes 0 video (video.moveTo flag state param) where
  sent := rfl
  claimed := (completed causes video hflag).claimed

theorem completeFlag (causes : Finset Nat) (video : OmxVideo) {param1 param2 : Nat}
    (hflag : flag.completion = some (param1, param2)) (hparam : param1 ≠ eventError) :
    Gains causes 0 video (video.completeFlag flag param1 param2) := by
  rw [OmxVideo.completeFlag]
  split
  · have hposted := postEvent (video.clearFlag flag) ⟨param1, param2, .event, video.owners flag⟩
    have hcompletes : OmxEvent.completes ⟨param1, param2, .event, video.owners flag⟩ = flag.completes := by
      rw [Flag.completes, hflag, OmxEvent.completes, if_neg hparam]
    refine ⟨hposted.sent, fun n => (hposted.claimed n).trans (le_of_eq ?_)⟩
    rw [hcompletes, claims_clearFlag, claimOf_zero, add_zero]
  · exact refl causes video

theorem reportUnless (causes : Finset Nat) (video : OmxVideo) (success : Bool) :
    Gains causes 0 video (video.reportUnless success) :=
  untouched causes (video.reportUnless_untouched success)

theorem clearFlag (causes : Finset Nat) (video : OmxVideo) (hflag : flag.completion = none) :
    Gains causes 0 video (video.clearFlag flag) := by
  refine ⟨rfl, fun n => ?_⟩
  have hcompletes : flag.completes = 0 := by rw [Flag.completes, hflag]
  rw [← claims_clearFlag n video flag, hcompletes, claimOf_zero, claimOf_zero, add_zero, add_zero]

theorem postSilentEvent (causes : Finset Nat) (video : OmxVideo) {event : OmxEvent}
    (hsilent : event.completes = 0) : Gains causes 0 video (video.postEvent event) := by
  have hgains := postEvent video event
  rw [hsilent] at hgains
  exact ⟨hgains.sent, fun n => (hgains.claimed n).trans_eq (by rw [claimOf_zero, claimOf_zero])⟩

theorem postSilent (causes : Finset Nat) {posted : List OmxEvent}
    (hposted : ∀ event ∈ posted, event.completes = 0) (video : OmxVideo) :
    Gains causes 0 video (posted.foldl OmxVideo.postEvent video) := by
  induction posted generalizing video with
  | nil => exact refl causes video
  | cons event posted ih =>
    have hevent := postSilentEvent causes video (hposted event List.mem_cons_self)
    have hrest := ih (fun other hother => hposted other (List.mem_cons_of_mem _ hother))
      (video.postEvent event)
    rw [← add_zero (0 : Multiset (Nat × Nat))]
    exact hevent.trans hrest

theorem postEvents {causes : Finset Nat} {posted : List OmxEvent}
    (hposted : ∀ event ∈ posted, event.causes = causes) (video : OmxVideo) :
    Gains causes (posted.map OmxEvent.completes).sum video (posted.foldl OmxVideo.postEvent video) := by
  induction posted generalizing video with
  | nil => exact refl causes video
  | cons event posted ih =>
    have hevent := postEvent video event
    rw [hposted event List.mem_cons_self] at hevent
    exact hevent.trans (ih (fun other hother => hposted other (List.mem_cons_of_mem _ hother)) _)

/-! ### Events -/

theorem generateEvent (video : OmxVideo) {event : OmxEvent} (hid : event.id = .event) :
    Gains event.causes event.completes video (video.generateEvent event) := by
  have hcompletes (hparam : event.param1 ≠ eventError) :
      event.completes = {(event.param1, event.param2)} := by
    rw [OmxEvent.completes, hid]
    exact if_neg hparam
  rw [OmxVideo.generateEvent]
  split
  next hset =>
    rw [hcompletes (hset ▸ by decide)]
    exact ⟨rfl, fun n => le_of_eq (claims_eventHandler n _ _ _ _)⟩
  next =>
    split
    · exact (untouched event.causes (video.error_untouched _ _ _)).mono (Multiset.zero_le _)
    next hparam =>
      rw [hcompletes hparam]
      exact ⟨rfl, fun n => le_of_eq (claims_eventHandler n _ _ _ _)⟩

theorem flushDone (causes : Finset Nat) (video : OmxVideo) (environment : Environment) {port : Nat}
    (hflag : flag.completion = some (commandFlush, port)) (other : Bool) :
    Gains causes 0 video (video.flushDone environment flag port other) := by
  rw [OmxVideo.flushDone]
  split
  · exact completed causes video hflag
  · split
    · exact reportUnless causes video _
    · exact refl causes video

theorem inputFlushDone (causes : Finset Nat) (video : OmxVideo) (environment : Environment) :
    Gains causes 0 video (video.inputFlushDone environment) := by
  rw [OmxVideo.inputFlushDone]
  refine Gains.before ?_ (flushDone causes _ environment rfl _)
  exact ⟨rfl, rfl, rfl, rfl, rfl⟩

theorem outputFlushDone (causes : Finset Nat) (video : OmxVideo) (environment : Environment) :
    Gains causes 0 video (video.outputFlushDone environment) := by
  rw [OmxVideo.outputFlushDone]
  refine Gains.before ?_ (flushDone causes _ environment rfl _)
  exact ⟨rfl, rfl, rfl, rfl, rfl⟩

theorem startDone (causes : Finset Nat) (video : OmxVideo) (environment : Environment) :
    Gains causes 0 video (video.startDone environment) := by
  rw [OmxVideo.startDone]
  split
  · exact moveTo causes video rfl _
  · split
    · exact reportUnless causes video _
    · split
      · exact (clearFlag causes _ rfl).before (video.reportUnless_untouched _)
      · exact refl causes video

theorem pauseDone (causes : Finset Nat) (video : OmxVideo) (environment : Environment) :
    Gains causes 0 video (video.pauseDone environment) := by
  rw [OmxVideo.pauseDone]
  split
  · exact (moveTo causes _ rfl _).before (video.reportUnless_untouched _)
  · exact refl causes video

theorem resumeDone (causes : Finset Nat) (video : OmxVideo) : Gains causes 0 video video.resumeDone := by
  rw [OmxVideo.resumeDone]
  split
  · exact moveTo causes video rfl _
  · exact refl causes video

theorem stopDone (causes : Finset Nat) (video : OmxVideo) (environment : Environment) :
    Gains causes 0 video (video.stopDone environment) := by
  have hreported := video.reportUnless_untouched environment.bufferDones
  rw [OmxVideo.stopDone]
  split
  · exact (moveTo causes _ rfl _).before hreported
  · split
    · exact ((clearFlag causes _ rfl).before (OmxVideo.reportUnless_untouched _ _)).before hreported
    · exact untouched causes hreported

/-! ### Commands -/

variable {outcome : Outcome} {cmd param1 port : Nat}

theorem of_stateSet (houtcome : StateSetOutcome video param1 causes outcome) :
    Gains causes (expected commandStateSet param1) video
      ((outcome.posts commandStateSet param1 causes).foldl OmxVideo.postEvent outcome.video) := by
  cases houtcome with
  | completes hnext _ => exact (postEvent _ ⟨commandStateSet, param1, .event, causes⟩).before hnext
  | waits flag posted hnext hflag hposted =>
    have hcompletes : expected commandStateSet param1 = flag.completes := by
      rw [Flag.completes, hflag]
      rfl
    rw [Outcome.posts, if_neg fun hshared => Bool.false_ne_true hshared.2, hcompletes,
      ← add_zero flag.completes]
    have hset : Gains causes flag.completes video _ := (setFlag video flag causes).after hnext
    refine hset.trans (postSilent causes (fun event hevent => ?_) _)
    rw [OmxEvent.completes, hposted event hevent]
  | refuses posted hnext hposted herror =>
    rw [Outcome.posts, if_neg fun hshared => herror hshared.1]
    refine Gains.mono ((postSilent causes (fun event hevent => ?_) _).before hnext) (Multiset.zero_le _)
    rw [OmxEvent.completes, (hposted event hevent).1]
    exact if_pos (hposted event hevent).2

theorem of_part (houtcome : PartOutcome video causes cmd port outcome) (hcmd : cmd ≠ eventError)
    (addressed : Prop) [Decidable addressed] :
    let chosen := if addressed then outcome else video.proceed
    ∃ waited, Gains causes waited video chosen.video ∧ (∀ event ∈ chosen.posted, event.causes = causes) ∧
      waited + (chosen.posted.map OmxEvent.completes).sum = if addressed then {(cmd, port)} else 0 := by
  by_cases haddressed : addressed
  · rw [if_pos haddressed, if_pos haddressed]
    cases houtcome with
    | completes hnext =>
      refine ⟨0, untouched causes hnext, fun event hevent => List.mem_singleton.mp hevent ▸ rfl, ?_⟩
      rw [zero_add, List.map_singleton, List.sum_singleton, OmxEvent.completes]
      exact if_neg hcmd
    | waits flag hnext hflag =>
      refine ⟨flag.completes, (setFlag video flag causes).after hnext, nofun, ?_⟩
      rw [Flag.completes, hflag]
      rfl
  · rw [if_neg haddressed, if_neg haddressed]
    exact ⟨0, refl causes video, nofun, rfl⟩

theorem addressed_le_expected (hcmd : cmd = commandFlush ∨ cmd = commandPortDisable ∨ cmd = commandPortEnable)
    (param1 : Nat) :
    (if param1 = inputPortIndex ∨ param1 = allPorts then ({(cmd, inputPortIndex)} : Multiset (Nat × Nat))
      else 0) +
      (if param1 = outputPortIndex ∨ param1 = allPorts then {(cmd, outputPortIndex)} else 0) ≤
    expected cmd param1 := by
  have hset : cmd ≠ commandStateSet := by
    rintro rfl
    revert hcmd
    decide
  rw [expected, if_neg hset, if_pos hcmd, addressedPorts]
  by_cases hall : param1 = allPorts
  · rw [if_pos (.inr hall), if_pos (.inr hall), if_pos hall]
    exact le_rfl
  rw [if_neg hall]
  by_cases hinput : param1 = inputPortIndex
  · rw [if_pos (.inl hinput), hinput]
    exact le_rfl
  · rw [if_neg (not_or.mpr ⟨hinput, hall⟩), zero_add]
    split
    next houtput => rw [houtput.resolve_right hall]; exact le_rfl
    next => exact Multiset.zero_le _

theorem mem_addressedPorts (hport : port ∈ addressedPorts param1)
    (hparam : param1 = inputPortIndex ∨ param1 = outputPortIndex ∨ param1 = allPorts) :
    port = inputPortIndex ∧ (param1 = inputPortIndex ∨ param1 = allPorts) ∨
      port = outputPortIndex ∧ (param1 = outputPortIndex ∨ param1 = allPorts) := by
  rcases hparam with rfl | rfl | rfl
  · exact .inl ⟨List.mem_singleton.mp hport, .inl rfl⟩
  · exact .inr ⟨List.mem_singleton.mp hport, .inl rfl⟩
  · rcases List.mem_cons.mp hport with hinput | houtput
    · exact .inl ⟨hinput, .inr rfl⟩
    · exact .inr ⟨List.mem_singleton.mp houtput, .inr rfl⟩

section

variable {firstPart secondPart : OmxVideo → Finset Nat → Outcome}

theorem bothParts_bFlag
    (hfirst : ∀ video, PartOutcome video causes cmd inputPortIndex (firstPart video causes))
    (hsecond : ∀ video, PartOutcome video causes cmd outputPortIndex (secondPart video causes))
    (hsame : (firstPart video causes).video.MustWait cmd outputPortIndex ↔
      video.MustWait cmd outputPortIndex)
    (hparam : param1 = inputPortIndex ∨ param1 = outputPortIndex ∨ param1 = allPorts)
    (hport : port ∈ addressedPorts param1) (hwait : video.MustWait cmd port) :
    (video.bothParts param1 causes firstPart secondPart).bFlag = false := by
  rw [OmxVideo.bothParts]
  dsimp only
  rcases mem_addressedPorts hport hparam with ⟨rfl, hinput⟩ | ⟨rfl, houtput⟩
  · have hflag : (firstPart video causes).bFlag = false :=
      Bool.eq_false_of_not_eq_true fun hflag => (hfirst video).bFlag hflag hwait
    rw [if_pos hinput, hflag, Bool.false_and]
  have hstill : (if param1 = inputPortIndex ∨ param1 = allPorts then firstPart video causes
      else video.proceed).video.MustWait cmd outputPortIndex := by
    split
    · exact hsame.mpr hwait
    · exact hwait
  rw [if_pos houtput, Bool.and_comm]
  have hflag := Bool.eq_false_of_not_eq_true fun hflag => (hsecond _).bFlag hflag hstill
  rw [hflag, Bool.false_and]

theorem of_bothParts (hcmd : cmd = commandPortDisable ∨ cmd = commandPortEnable)
    (hfirst : ∀ video, PartOutcome video causes cmd inputPortIndex (firstPart video causes))
    (hsecond : ∀ video, PartOutcome video causes cmd outputPortIndex (secondPart video causes))
    (hsame : (firstPart video causes).video.MustWait cmd outputPortIndex ↔
      video.MustWait cmd outputPortIndex)
    (honce : IsPortCommand cmd param1 → ∃ port ∈ addressedPorts param1, video.MustWait cmd port) :
    Gains causes (expected cmd param1) video
      (((video.bothParts param1 causes firstPart secondPart).posts cmd param1 causes).foldl
        OmxVideo.postEvent (video.bothParts param1 causes firstPart secondPart).video) := by
  have herror : cmd ≠ eventError := by
    rintro rfl
    revert hcmd
    decide
  by_cases hparam : param1 = inputPortIndex ∨ param1 = outputPortIndex ∨ param1 = allPorts
  · obtain ⟨port, hport, hwait⟩ := honce ⟨hcmd.symm, hparam⟩
    have hflag := bothParts_bFlag hfirst hsecond hsame hparam hport hwait
    rw [Outcome.posts, if_neg fun hshared => Bool.false_ne_true (hflag.symm.trans hshared.2)]
    obtain ⟨waitedInput, hinput, hinputCauses, hinputSum⟩ :=
      of_part (hfirst video) herror (param1 = inputPortIndex ∨ param1 = allPorts)
    obtain ⟨waitedOutput, houtput, houtputCauses, houtputSum⟩ :=
      of_part (hsecond _) herror (param1 = outputPortIndex ∨ param1 = allPorts)
    have hposted := @postEvents causes _ (fun event hevent =>
      (List.mem_append.mp hevent).elim (hinputCauses event) (houtputCauses event))
    refine ((hinput.trans houtput).trans (hposted _)).mono ?_
    refine le_trans (le_of_eq ?_) (addressed_le_expected (.inr hcmd) param1)
    rw [← hinputSum, ← houtputSum, List.map_append, List.sum_append]
    abel
  · have hinput : ¬(param1 = inputPortIndex ∨ param1 = allPorts) := fun hor =>
      hparam (hor.elim .inl fun hall => .inr (.inr hall))
    have houtput : ¬(param1 = outputPortIndex ∨ param1 = allPorts) := fun hor => hparam (.inr hor)
    rw [OmxVideo.bothParts, if_neg hinput, if_neg houtput]
    have hposted := postEvent video ⟨cmd, param1, .event, causes⟩
    have hports : addressedPorts param1 = [param1] := if_neg fun hall => hparam (.inr (.inr hall))
    refine hposted.mono (le_of_eq ?_)
    have hset : cmd ≠ commandStateSet := by
      rintro rfl
      revert hcmd
      decide
    rw [expected, if_neg hset, if_pos (.inr hcmd), hports, OmxEvent.completes, if_neg herror]
    rfl

end

theorem flush (causes : Finset Nat) (video : OmxVideo) (param1 : Nat) :
    Gains causes (expected commandFlush param1) video (video.flush param1 causes).video := by
  refine mono ?_ (addressed_le_expected (.inl rfl) param1)
  have hchosen (video : OmxVideo) (flag : Flag) (addressed : Prop) [Decidable addressed] :
      Gains causes (if addressed then flag.completes else 0) video
        (if addressed then video.setFlag flag causes else video) := by
    split
    · exact setFlag video flag causes
    · exact refl causes video
  have hflags := (hchosen video .inputFlushPending (param1 = inputPortIndex ∨ param1 = allPorts)).trans
    (hchosen _ .outputFlushPending (param1 = outputPortIndex ∨ param1 = allPorts))
  exact hflags.after ⟨rfl, rfl, rfl, rfl, rfl⟩

theorem sendCommandProxy (hvalid : video.mState ≠ .invalid) (device : DeviceCall → Bool)
    (honce : IsPortCommand cmd param1 → ∃ port ∈ addressedPorts param1, video.MustWait cmd port) :
    Gains causes (expected cmd param1) video (video.sendCommandProxy device param1 causes cmd) := by
  match cmd with
  | 0 => exact of_stateSet (video.stateSet_outcome device param1 causes)
  | 1 =>
    have hcommand : video.command device param1 causes 1 = video.flush param1 causes := if_neg hvalid
    rw [OmxVideo.sendCommandProxy, hcommand]
    exact flush causes video param1
  | 2 =>
    have hcommand : video.command device param1 causes 2 =
        video.bothParts param1 causes disableInput disableOutput := if_neg hvalid
    rw [OmxVideo.sendCommandProxy, hcommand]
    exact of_bothParts (.inl rfl) (disableInput_outcome · causes) (disableOutput_outcome · causes)
      (video.disableInput_mustWait causes 2) honce
  | 3 =>
    have hcommand : video.command device param1 causes 3 =
        video.bothParts param1 causes enableInput enableOutput := if_neg hvalid
    rw [OmxVideo.sendCommandProxy, hcommand]
    exact of_bothParts (.inr rfl) (enableInput_outcome · causes) (enableOutput_outcome · causes)
      (video.enableInput_mustWait causes 3) honce
  | code + 4 =>
    have hcommand : video.command device param1 causes (code + 4) =
        video.reject .notImplemented := if_neg hvalid
    rw [OmxVideo.sendCommandProxy, hcommand]
    exact (refl causes video).mono (Multiset.zero_le _)

theorem handleEvent (environment : Environment) {event : OmxEvent} (hvalid : video.mState ≠ .invalid)
    (honce : event.id = .command → IsPortCommand event.param1 event.param2 →
      ∃ port ∈ addressedPorts event.param2, video.MustWait event.param1 port) :
    Gains event.causes event.completes video (video.handleEvent environment event) := by
  rw [OmxVideo.handleEvent]
  cases hid : event.id with
  | event => exact generateEvent video hid
  | command =>
    have hcompletes : event.completes = expected event.param1 event.param2 := by
      rw [OmxEvent.completes, hid]
    rw [hcompletes]
    exact sendCommandProxy hvalid _ (honce hid)
  | eventInputFlush => exact (inputFlushDone event.causes video environment).mono (Multiset.zero_le _)
  | eventOutputFlush => exact (outputFlushDone event.causes video environment).mono (Multiset.zero_le _)
  | startDone => exact (startDone event.causes video environment).mono (Multiset.zero_le _)
  | pauseDone => exact (pauseDone event.causes video environment).mono (Multiset.zero_le _)
  | resumeDone => exact (resumeDone event.causes video).mono (Multiset.zero_le _)
  | stopDone => exact (stopDone event.causes video environment).mono (Multiset.zero_le _)
  | hardwareError =>
    exact (untouched event.causes video.omxReportError_untouched).mono (Multiset.zero_le _)
  | fbd => exact (reportUnless event.causes video _).mono (Multiset.zero_le _)

/-! ### Calls of the client -/

theorem bufferAdded (video : OmxVideo) (port : Nat) : Gains ∅ 0 video (video.bufferAdded port) := by
  have hidle : Gains ∅ 0 video (if video.allocateDone.2 then
      video.allocateDone.1.completeFlag .idlePending commandStateSet stateIdle else video.allocateDone.1) := by
    have hdone : Untouched video video.allocateDone.1 := ⟨rfl, rfl, rfl, rfl, rfl⟩
    split
    · exact (completeFlag ∅ _ rfl (by decide)).before hdone
    · exact untouched ∅ hdone
  rw [OmxVideo.bufferAdded]
  dsimp only
  generalize (if video.allocateDone.2 then
    video.allocateDone.1.completeFlag .idlePending commandStateSet stateIdle else video.allocateDone.1) =
      populated at hidle ⊢
  split
  · exact hidle.trans (completeFlag ∅ populated rfl (by decide))
  · split
    · exact hidle.trans (completeFlag ∅ populated rfl (by decide))
    · exact hidle

theorem useBuffer (video : OmxVideo) (port index : Nat) : Gains ∅ 0 video (video.useBuffer port index) := by
  rw [OmxVideo.useBuffer]
  split
  · exact refl ∅ video
  · split
    · refine Gains.before ?_ (bufferAdded _ port)
      exact ⟨rfl, rfl, rfl, rfl, rfl⟩
    · split
      · refine Gains.before ?_ (bufferAdded _ port)
        exact ⟨rfl, rfl, rfl, rfl, rfl⟩
      · exact refl ∅ video

theorem freeInput (video : OmxVideo) (index : Nat) : Gains ∅ 0 video (video.freeInput index) := by
  rw [OmxVideo.freeInput]
  dsimp only
  split <;> split
  · refine Gains.before ?_ (completeFlag ∅ _ rfl (by decide))
    exact ⟨rfl, rfl, rfl, rfl, rfl⟩
  · exact untouched ∅ ⟨rfl, rfl, rfl, rfl, rfl⟩
  · exact completeFlag ∅ video rfl (by decide)
  · exact refl ∅ video

theorem freeOutput (video : OmxVideo) (index : Nat) : Gains ∅ 0 video (video.freeOutput index) := by
  rw [OmxVideo.freeOutput]
  dsimp only
  split <;> split
  · refine Gains.before ?_ (completeFlag ∅ _ rfl (by decide))
    exact ⟨rfl, rfl, rfl, rfl, rfl⟩
  · exact untouched ∅ ⟨rfl, rfl, rfl, rfl, rfl⟩
  · exact completeFlag ∅ video rfl (by decide)
  · exact refl ∅ video

theorem bufferFreed (video : OmxVideo) : Gains ∅ 0 video video.bufferFreed := by
  rw [OmxVideo.bufferFreed]
  split
  · exact completeFlag ∅ video rfl (by decide)
  · exact refl ∅ video

theorem releaseBuffer (video : OmxVideo) (port index : Nat) :
    Gains ∅ 0 video (video.releaseBuffer port index) := by
  have hfreed : Gains ∅ 0 video (if port = inputPortIndex then video.freeInput index
      else if port = outputPortIndex then video.freeOutput index else video) := by
    split
    · exact freeInput video index
    · split
      · exact freeOutput video index
      · exact refl ∅ video
  rw [OmxVideo.releaseBuffer]
  generalize (if port = inputPortIndex then video.freeInput index
    else if port = outputPortIndex then video.freeOutput index else video) = freed at hfreed ⊢
  split
  · exact hfreed.trans (bufferFreed freed)
  · exact hfreed

theorem freeBuffer (video : OmxVideo) (port index : Nat) :
    Gains ∅ 0 video (video.freeBuffer port index) := by
  have hunpopulated : Gains ∅ 0 video
      (video.postEvent ⟨eventError, ErrorType.portUnpopulated.toParam, .event, ∅⟩) :=
    postSilentEvent ∅ video rfl
  rw [OmxVideo.freeBuffer]
  split
  · exact releaseBuffer video port index
  · split
    · exact hunpopulated
    · exact hunpopulated.trans (releaseBuffer _ port index)

theorem getSyntaxHdr (video : OmxVideo) (environment : Environment) :
    Gains ∅ 0 video (video.getSyntaxHdr environment) := by
  have hstart : Gains ∅ 0 video (video.setFlag .loadedStartPending ∅) :=
    setFlag video .loadedStartPending ∅
  rw [OmxVideo.getSyntaxHdr]
  split
  · exact refl ∅ video
  · dsimp only
    split
    · have hstop : Gains ∅ 0 video _ := hstart.trans (setFlag _ .loadedStopPending ∅)
      split
      · exact hstop
      · exact hstop.trans (clearFlag ∅ _ rfl)
    · exact hstart.trans (clearFlag ∅ _ rfl)

theorem asyncMessageProcess (video : OmxVideo) (message : DriverMessage) (status : Nat) (success : Bool) :
    Gains ∅ 0 video (video.asyncMessageProcess message status success) := by
  have hreported := video.reportUnless_untouched success
  rw [OmxVideo.asyncMessageProcess]
  cases message with
  | inputBufferDone | needOutputBuffer => exact untouched ∅ hreported
  | _ => exact (postSilentEvent ∅ _ rfl).before hreported

end Gains

/-! ### Runs -/

/-- No command has more than its completions, and a command that was not sent has none. -/
def Bounded (video : OmxVideo) : Prop :=
  ∀ n, claims n video ≤ match video.sent[n]? with
    | some (cmd, param1) => expected cmd param1
    | none => 0

def CompletesOnce (video : OmxVideo) : Action → Prop
  | .processEvent _ => ∀ event ∈ video.mCmdQ.head?, event.id = .command →
      IsPortCommand event.param1 event.param2 →
      ∃ port ∈ addressedPorts event.param2, video.MustWait event.param1 port
  | _ => True

instance (video : OmxVideo) : ∀ action, Decidable (CompletesOnce video action)
  | .processEvent _ => inferInstanceAs (Decidable (∀ event ∈ video.mCmdQ.head?, _))
  | .sendCommand .. | .driverMessage .. | .useBuffer .. | .freeBuffer .. | .getSyntaxHdr .. |
    .setBuffers .. => isTrue trivial

variable {video : OmxVideo}

theorem Bounded.of_gains {next : OmxVideo} (hbounded : Bounded video) (hgains : Gains ∅ 0 video next) :
    Bounded next := by
  intro n
  have hclaimed := hgains.claimed n
  rw [claimOf_zero, add_zero] at hclaimed
  rw [hgains.sent]
  exact hclaimed.trans (hbounded n)

theorem Bounded.sendCommand (hbounded : Bounded video) (cmd param1 : Nat) (cmdData : Bool) :
    Bounded (video.sendCommand cmd param1 cmdData) := by
  rw [OmxVideo.sendCommand]
  split
  · exact hbounded
  split
  · intro n
    have hposted := Gains.postEvent { video with sent := video.sent ++ [(cmd, param1)] }
      ⟨cmd, param1, .command, {video.sent.length}⟩
    refine (hposted.claimed n).trans ?_
    rw [hposted.sent]
    have hold : claims n { video with sent := video.sent ++ [(cmd, param1)] } ≤
      match video.sent[n]? with
      | some (cmd, param1) => expected cmd param1
      | none => 0 := hbounded n
    by_cases hlast : n = video.sent.length
    · rw [List.getElem?_eq_none hlast.ge] at hold
      rw [List.getElem?_append_right hlast.ge, hlast, Nat.sub_self, claimOf,
        if_pos (Finset.mem_singleton_self _), ← hlast, le_antisymm hold (Multiset.zero_le _), zero_add]
      exact le_rfl
    · rw [claimOf, if_neg fun hmem => hlast (Finset.mem_singleton.mp hmem), add_zero]
      rcases Nat.lt_or_gt_of_ne hlast with hlt | hgt
      · rw [List.getElem?_append_left hlt]
        exact hold
      · rw [List.getElem?_eq_none (by rw [List.length_append, List.length_singleton]; exact hgt)]
        rw [List.getElem?_eq_none hgt.le] at hold
        exact hold
  · exact hbounded

theorem Bounded.processEvent (hbounded : Bounded video) (hvalid : StaysValid video) (environment : Environment)
    (honce : CompletesOnce video (.processEvent environment)) : Bounded (video.processEvent environment) := by
  rw [OmxVideo.processEvent]
  split
  · exact hbounded.of_gains (Gains.reportUnless ∅ video _)
  next event rest hqueue =>
    have hhandled : Gains event.causes event.completes { video with mCmdQ := rest }
        (OmxVideo.handleEvent { video with mCmdQ := rest } environment event) :=
      Gains.handleEvent environment hvalid.state (honce event (by rw [hqueue]; rfl))
    intro n
    rw [hhandled.sent]
    refine (hhandled.claimed n).trans (le_trans (le_of_eq ?_) (hbounded n))
    rw [claims, claims, hqueue, List.map_cons, List.sum_cons]
    simp only [completions]
    abel

theorem Bounded.step (hbounded : Bounded video) (hvalid : StaysValid video) {action : Action}
    (honce : CompletesOnce video action) : Bounded (video.step action) := by
  cases action with
  | sendCommand cmd param1 cmdData => exact hbounded.sendCommand cmd param1 cmdData
  | processEvent environment => exact hbounded.processEvent hvalid environment honce
  | driverMessage message status success =>
    exact hbounded.of_gains (Gains.asyncMessageProcess video message status success)
  | useBuffer port index => exact hbounded.of_gains (Gains.useBuffer video port index)
  | freeBuffer port index => exact hbounded.of_gains (Gains.freeBuffer video port index)
  | getSyntaxHdr environment => exact hbounded.of_gains (Gains.getSyntaxHdr video environment)
  | setBuffers input output => exact hbounded.of_gains (Gains.untouched ∅ ⟨rfl, rfl, rfl, rfl, rfl⟩)

theorem Bounded.init (inputCount outputCount : Nat) : Bounded (OmxVideo.init inputCount outputCount) := by
  intro n
  refine le_of_eq ?_
  rw [claims, waitingClaims]
  simp only [OmxVideo.init, completions, claimOf_empty, Finset.sum_const_zero]
  rfl

theorem Bounded.run (inputCount outputCount : Nat) {actions : List Action}
    (honce : RunMeets (fun video action => some (OmxVideo.step video action)) CompletesOnce
      (OmxVideo.init inputCount outputCount) actions) :
    Bounded ((OmxVideo.init inputCount outputCount).run actions) := by
  have hrun := @runSteps_total _ _ OmxVideo.step actions (OmxVideo.init inputCount outputCount)
  refine (runSteps_state_of_meets (fun video => Bounded video ∧ StaysValid video) ?_ honce
    ⟨Bounded.init inputCount outputCount, StaysValid.init inputCount outputCount⟩ hrun).1
  rintro video action next hmeets ⟨hbounded, hvalid⟩ hstep
  obtain rfl := Option.some.inj hstep
  exact ⟨hbounded.step hvalid hmeets, hvalid.step action⟩

/-! ### The calls of the client's handler -/

def completionsOf (video : OmxVideo) (n : Nat) : List Notice :=
  video.completions.filter (n ∈ ·.causes)

/-- A StateSet command is completed at most once, and a port command at most once for each port it addresses, with
the number of the port. -/
def CompletedAtMostOnce (video : OmxVideo) : Prop :=
  ∀ n cmd param1, video.sent[n]? = some (cmd, param1) →
    (cmd = commandStateSet → (completionsOf video n).length ≤ 1) ∧
      (IsPortCommand cmd param1 → ((completionsOf video n).map Notice.data2).Nodup ∧
        ∀ notice ∈ completionsOf video n, notice.data1 = cmd ∧ notice.data2 ∈ addressedPorts param1 ∧
          notice.data2 ≠ allPorts)

theorem completionsOf_le (video : OmxVideo) (n : Nat) :
    (↑((completionsOf video n).map fun notice => (notice.data1, notice.data2)) : Multiset (Nat × Nat)) ≤
      claims n video := by
  have hsum (notices : List Notice) :
      (notices.map fun notice => claimOf n notice.causes {(notice.data1, notice.data2)}).sum =
        ↑((notices.filter (n ∈ ·.causes)).map fun notice => (notice.data1, notice.data2)) := by
    induction notices with
    | nil => rfl
    | cons notice notices ih =>
      rw [List.map_cons, List.sum_cons, ih, claimOf, List.filter_cons]
      split
      next hcause =>
        rw [if_pos (decide_eq_true hcause), List.map_cons, ← Multiset.cons_coe, Multiset.singleton_add]
      next hcause => rw [if_neg fun hmem => hcause (of_decide_eq_true hmem), zero_add]
  rw [claims, hsum]
  exact Multiset.le_add_left _ _

theorem addressedPorts_nodup (param1 : Nat) : (addressedPorts param1).Nodup := by
  rw [addressedPorts]
  split
  · decide
  · exact List.nodup_singleton param1

theorem Bounded.completedAtMostOnce (hbounded : Bounded video) : CompletedAtMostOnce video := by
  intro n cmd param1 hsent
  have hle := (completionsOf_le video n).trans (hbounded n)
  rw [hsent] at hle
  dsimp only at hle
  refine ⟨fun hset => ?_, fun hport => ?_⟩
  · rw [expected, if_pos hset] at hle
    have hcard := Multiset.card_le_card hle
    rwa [Multiset.coe_card, List.length_map, Multiset.card_singleton] at hcard
  · have hset : cmd ≠ commandStateSet := by
      rintro rfl
      exact absurd hport.1 (by decide)
    rw [expected, if_neg hset, if_pos (.inr hport.1.symm)] at hle
    constructor
    · have hports := @Multiset.map_le_map _ _ Prod.snd _ _ hle
      rw [Multiset.map_coe, Multiset.map_coe, List.map_map, List.map_map] at hports
      apply Multiset.coe_nodup.mp
      refine Multiset.nodup_of_le hports (Multiset.coe_nodup.mpr ?_)
      exact (List.map_id _).symm ▸ addressedPorts_nodup param1
    · intro notice hnotice
      have hmem := Multiset.mem_of_le hle (Multiset.mem_coe.mpr (List.mem_map_of_mem hnotice))
      obtain ⟨port, haddressed, hpair⟩ := List.mem_map.mp (Multiset.mem_coe.mp hmem)
      obtain ⟨hcmd, hdata⟩ := Prod.mk.inj hpair
      rw [← hcmd, ← hdata]
      refine ⟨rfl, haddressed, ?_⟩
      rcases Gains.mem_addressedPorts haddressed hport.2 with ⟨rfl, _⟩ | ⟨rfl, _⟩
      · decide
      · decide

/-- **Encoder command completion.** In every run whose port commands have a port to wait for when they are
handled, each command is completed at most once, for each port. -/
theorem commands_completedAtMostOnce (inputCount outputCount : Nat) (actions : List Action)
    (honce : RunMeets (fun video action => some (OmxVideo.step video action)) CompletesOnce
      (OmxVideo.init inputCount outputCount) actions) :
    CompletedAtMostOnce ((OmxVideo.init inputCount outputCount).run actions) :=
  (Bounded.run inputCount outputCount honce).completedAtMostOnce

/-- The input port is disabled while it has a buffer, which is then freed. -/
theorem disableInput_completedAtMostOnce :
    CompletedAtMostOnce ((OmxVideo.init 1 1).run [.useBuffer inputPortIndex 0,
      .sendCommand commandPortDisable inputPortIndex false, .processEvent goodEnvironment,
      .freeBuffer inputPortIndex 0, .processEvent goodEnvironment]) :=
  commands_completedAtMostOnce 1 1 _ (by decide +kernel)

/-- Both ports are disabled in `OMX_StateLoaded`, where they have no buffers. -/
theorem disableAll_not_completedAtMostOnce :
    ¬CompletedAtMostOnce ((OmxVideo.init 1 1).run [.sendCommand commandPortDisable allPorts false,
      .processEvent goodEnvironment, .processEvent goodEnvironment, .processEvent goodEnvironment,
      .processEvent goodEnvironment]) := by
  intro honce
  have hports := (honce 0 commandPortDisable allPorts rfl).2 (by decide)
  have htold : completionsOf ((OmxVideo.init 1 1).run [.sendCommand commandPortDisable allPorts false,
      .processEvent goodEnvironment, .processEvent goodEnvironment, .processEvent goodEnvironment,
      .processEvent goodEnvironment]) 0 = [⟨.cmdComplete, commandPortDisable, inputPortIndex, {0}⟩,
      ⟨.cmdComplete, commandPortDisable, outputPortIndex, {0}⟩,
      ⟨.cmdComplete, commandPortDisable, allPorts, {0}⟩] := by
    decide +kernel
  rw [htold] at hports
  exact (hports.2 _ (List.mem_cons_of_mem _ (List.mem_cons_of_mem _ List.mem_cons_self))).2.2 rfl

end Nozomi.VencControl
