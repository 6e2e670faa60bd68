import Mathlib.Algebra.BigOperators.Group.List.Basic
import Mathlib.Algebra.Order.Group.Multiset
import Nozomi.Vdec.TimestampReorder.Tables

/-!
# Removed timestamps

`remove_time_stamp` looks at the first table only, and reports success whatever it finds there. Reads come to
the tables behind it one after the other, up to one that is drained. So a timestamp that is removed is never
read afterwards exactly if it was in none of the tables that reads come to from the first one.
-/

namespace Nozomi

/-- The calls of a client that may give up a timestamp. -/
inductive ReorderAction where
  | insert (header : BufferHeader)
  | remove (ts : Int) (isInterlaced : Bool)
  | next (isInterlaced : Bool)
  | flush
  deriving DecidableEq, Repr

def BufferHeader.carriesTimestamp (header : BufferHeader) : Bool :=
  !header.hasCodecConfig && !(header.hasEos && header.nFilledLen == 0)

def insertedTimes : List ReorderAction → List Int
  | [] => []
  | .insert header :: actions =>
    if header.carriesTimestamp then header.nTimeStamp :: insertedTimes actions else insertedTimes actions
  | _ :: actions => insertedTimes actions

namespace TimeStampReorder

def act (reorder : TimeStampReorder) : ReorderAction → TimeStampReorder
  | .insert header => (reorder.insertTimestamp header).1
  | .remove ts isInterlaced => (reorder.removeTimeStamp ts isInterlaced).1
  | .next isInterlaced => (reorder.getNextTimestamp isInterlaced).1
  | .flush => reorder.flushTimestamp

def returnedTime (reorder : TimeStampReorder) : ReorderAction → Option Int
  | .next isInterlaced => (reorder.getNextTimestamp isInterlaced).2
  | _ => none

def returnedTimes (reorder : TimeStampReorder) : List ReorderAction → List Int
  | [] => []
  | action :: actions => (reorder.returnedTime action).toList ++ (reorder.act action).returnedTimes actions

end TimeStampReorder

/-! ### Tables that are read -/

def Exposed (ts : Int) : List TimeStampList → Prop
  | [] => False
  | table :: rest => ts ∈ table.contents ∨ (table.contents ≠ 0 ∧ Exposed ts rest)

instance decidableExposed (ts : Int) : (tables : List TimeStampList) → Decidable (Exposed ts tables)
  | [] => inferInstanceAs (Decidable False)
  | table :: rest =>
    haveI := decidableExposed ts rest
    inferInstanceAs (Decidable (ts ∈ table.contents ∨ (table.contents ≠ 0 ∧ Exposed ts rest)))

theorem exposed_append {ts : Int} {front back : List TimeStampList} :
    Exposed ts (front ++ back) ↔
      Exposed ts front ∨ ((∀ table ∈ front, table.contents ≠ 0) ∧ Exposed ts back) := by
  induction front with
  | nil => simp [Exposed]
  | cons table front ih =>
    rw [List.cons_append, Exposed, Exposed, ih, List.forall_mem_cons]
    tauto

/-! ### What a call does to the tables -/

def TimeStampReorder.Sound (reorder : TimeStampReorder) : Prop := ∀ table ∈ reorder.tables, table.Ok

def afterHead (head : TimeStampList) (rest : List TimeStampList) : List TimeStampList :=
  if head.entriesFilled = 0 ∧ rest ≠ [] then rest else head :: rest

theorem updateHead_eq (reorder : TimeStampReorder) (head : TimeStampList) (rest : List TimeStampList) :
    (if head.entriesFilled = 0 then { reorder with tables := head :: rest : TimeStampReorder }.updateHead
      else { reorder with tables := head :: rest }) = { reorder with tables := afterHead head rest } := by
  unfold afterHead
  by_cases hempty : head.entriesFilled = 0
  · cases rest with
    | nil => simp [hempty, TimeStampReorder.updateHead]
    | cons second rest => simp [hempty, TimeStampReorder.updateHead]
  · simp [hempty]

theorem mem_afterHead {head table : TimeStampList} {rest : List TimeStampList}
    (hmem : table ∈ afterHead head rest) : table = head ∨ table ∈ rest := by
  unfold afterHead at hmem
  split at hmem
  · exact .inr hmem
  · exact List.mem_cons.mp hmem

/-- The first table is one with entries in use, in an object that works. -/
structure HasHead (reorder : TimeStampReorder) (head : TimeStampList) (rest : List TimeStampList) : Prop where
  mode : reorder.reorderTs = true
  noError : reorder.error = false
  tables : reorder.tables = head :: rest
  filled : head.entriesFilled ≠ 0

namespace TimeStampReorder

variable {reorder : TimeStampReorder} {head : TimeStampList} {rest : List TimeStampList}

theorem getNextTimestamp_of_head (hhead : HasHead reorder head rest) (isInterlaced : Bool) :
    reorder.getNextTimestamp isInterlaced =
      ({ reorder with tables := afterHead (head.takeNext isInterlaced).1 rest },
        (head.takeNext isInterlaced).2) := by
  have hon : ¬ (!reorder.reorderTs || reorder.error) = true := by simp [hhead.mode, hhead.noError]
  rw [← updateHead_eq, getNextTimestamp, if_neg hon, hhead.tables]
  simp only [if_neg hhead.filled]
  split <;> rfl

theorem removeTimeStamp_of_head (hhead : HasHead reorder head rest) (ts : Int) (isInterlaced : Bool) :
    reorder.removeTimeStamp ts isInterlaced =
      ({ reorder with tables := afterHead (head.remove ts isInterlaced) rest }, true) := by
  have hon : ¬ (!reorder.reorderTs || reorder.error) = true := by simp [hhead.mode, hhead.noError]
  rw [← updateHead_eq, removeTimeStamp, if_neg hon, hhead.tables]
  simp only [if_neg hhead.filled]
  split <;> rfl

theorem no_head (hnone : ∀ head rest, ¬ HasHead reorder head rest) (ts : Int) (isInterlaced : Bool) :
    reorder.getNextTimestamp isInterlaced = (reorder, none) ∧
      reorder.removeTimeStamp ts isInterlaced = (reorder, false) := by
  unfold getNextTimestamp removeTimeStamp
  by_cases hon : (!reorder.reorderTs || reorder.error) = true
  · simp only [if_pos hon, and_self]
  simp only [if_neg hon]
  cases htables : reorder.tables with
  | nil => exact ⟨rfl, rfl⟩
  | cons head rest =>
    have hdrained : head.entriesFilled = 0 := by
      by_contra hfilled
      simp only [Bool.or_eq_true, Bool.not_eq_true', not_or, Bool.not_eq_false, Bool.not_eq_true] at hon
      exact hnone head rest ⟨hon.1, hon.2, htables, hfilled⟩
    simp only [if_pos hdrained, and_self]

/-- The last table behind a successful insertion: it has the timestamp where the header carries one. -/
structure Takes (last : TimeStampList) (header : BufferHeader) (added : TimeStampList) : Prop where
  ok : added.Ok
  contents : added.contents =
    if header.carriesTimestamp then header.nTimeStamp ::ₘ last.contents else last.contents

/-- What an insertion does: nothing, an error that drops all tables, or a change at the last table, which may
be a new one. -/
inductive Inserts (reorder : TimeStampReorder) (header : BufferHeader) : TimeStampReorder × Bool → Prop
  | off (hoff : (!reorder.reorderTs || reorder.error) = true) : Inserts reorder header (reorder, false)
  | full (hon : (!reorder.reorderTs || reorder.error) = false) :
      Inserts reorder header ({ reorder with error := true, tables := [] }, false)
  | done (hon : (!reorder.reorderTs || reorder.error) = false) (front : List TimeStampList)
      (last added : TimeStampList) (opened : Bool)
      (htables : reorder.getCurrentList.tables = front ++ [last]) (htakes : Takes last header added) :
      Inserts reorder header
        ({ reorder with tables := front ++ [added] ++ if opened then [.new] else [] }, true)

theorem getCurrentList_tables (hsound : reorder.Sound) :
    ∃ front last, reorder.getCurrentList.tables = front ++ [last] ∧
      reorder.getCurrentList = { reorder with tables := front ++ [last] } ∧
      (∀ table ∈ front, table.Ok) ∧ last.Ok ∧
      (reorder.tables = front ++ [last] ∨ (reorder.tables = [] ∧ front = [] ∧ last = .new)) := by
  unfold getCurrentList
  by_cases hempty : reorder.tables = []
  · rw [if_pos hempty]
    refine ⟨[], .new, ?_, ?_, fun _ hmem => (List.not_mem_nil hmem).elim, TimeStampList.new_ok,
      .inr ⟨hempty, rfl, rfl⟩⟩
    · rw [addNewList, hempty]
    · rw [addNewList, hempty]
  · rw [if_neg hempty]
    obtain ⟨front, last, hsplit⟩ := (List.eq_nil_or_concat reorder.tables).resolve_left hempty
    rw [List.concat_eq_append] at hsplit
    refine ⟨front, last, hsplit, by rw [← hsplit], ?_, hsound last (by simp [hsplit]), .inl hsplit⟩
    exact fun table hmem => hsound table (by simp [hsplit, hmem])

theorem insertTimestamp_inserts (hsound : reorder.Sound) (header : BufferHeader) :
    Inserts reorder header (reorder.insertTimestamp header) := by
  obtain ⟨front, last, htables, hlist, -, hlast, -⟩ := getCurrentList_tables hsound
  have hcurrent : reorder.getCurrentList.current = last := by simp [current, htables]
  unfold insertTimestamp
  by_cases hoff : (!reorder.reorderTs || reorder.error) = true
  · rw [if_pos hoff]
    exact .off hoff
  rw [if_neg hoff]
  have hon : (!reorder.reorderTs || reorder.error) = false := Bool.eq_false_iff.mpr hoff
  have hnoError : reorder.error = false := (Bool.or_eq_false_iff.mp hon).2
  have herror : reorder.getCurrentList.handleError = { reorder with error := true, tables := [] } := by
    rw [hlist, handleError, hnoError, if_neg Bool.false_ne_true]
  simp only [hcurrent]
  by_cases hfull : last.entriesFilled > timeSz - 1
  · rw [if_pos hfull, herror]
    exact .full hon
  rw [if_neg hfull]
  have hfree : last.entriesFilled < timeSz := by
    rw [timeSz] at hfull ⊢
    omega
  obtain ⟨index, hindex, htaken, hcontents⟩ := hlast.take_firstFree hfree header.nTimeStamp
  have hset : reorder.getCurrentList.setCurrent (last.take index header.nTimeStamp) =
      { reorder with tables := front ++ [last.take index header.nTimeStamp] } := by
    rw [setCurrent, hlist, List.dropLast_concat]
  rw [hindex]
  simp only [hset]
  cases hcodec : header.hasCodecConfig with
  | true =>
    have hkept : Takes last header last := ⟨hlast, by simp [BufferHeader.carriesTimestamp, hcodec]⟩
    have hdone := Inserts.done hon front last last false htables hkept
    simpa [hlist] using hdone
  | false =>
    by_cases hempty : header.hasEos = true ∧ header.nFilledLen = 0
    · have hkept : Takes last header last :=
        ⟨hlast, by simp [BufferHeader.carriesTimestamp, hempty.1, hempty.2]⟩
      have hdone := Inserts.done hon front last last true htables hkept
      simpa [hlist, addNewList, hempty] using hdone
    have hcarries : header.carriesTimestamp = true := by
      rw [not_and] at hempty
      cases heos : header.hasEos with
      | true => simp [BufferHeader.carriesTimestamp, hcodec, heos, hempty heos]
      | false => simp [BufferHeader.carriesTimestamp, hcodec, heos]
    have hadded : Takes last header (last.take index header.nTimeStamp) :=
      ⟨htaken, by rw [if_pos hcarries, hcontents]⟩
    rw [if_neg Bool.false_ne_true, if_neg hempty]
    cases heos : header.hasEos with
    | true =>
      have hdone := Inserts.done hon front last _ true htables hadded
      simpa [addNewList] using hdone
    | false =>
      have hdone := Inserts.done hon front last _ false htables hadded
      simpa using hdone

/-! ### Invariants of a run -/

theorem Sound.afterHead (hsound : reorder.Sound) (htables : reorder.tables = head :: rest)
    {next : TimeStampList} (hnext : next.Ok) :
    Sound { reorder with tables := afterHead next rest } := by
  intro table htable
  rcases mem_afterHead htable with rfl | hrest
  · exact hnext
  · exact hsound table (by rw [htables]; exact List.mem_cons_of_mem _ hrest)

theorem takeNext_spec (hok : head.Ok) (hfilled : head.entriesFilled ≠ 0) (isInterlaced : Bool) :
    ∃ least, (head.takeNext isInterlaced).2 = some least ∧ least ∈ head.contents ∧
      (head.takeNext isInterlaced).1.Ok ∧
      (head.takeNext isInterlaced).1.contents ≤ head.contents.erase least := by
  cases isInterlaced with
  | false =>
    obtain ⟨least, hleast, hread, hok, hcontents⟩ := hok.takeNext hfilled
    exact ⟨least, hread, (leastOf_eq_some_iff.mp hleast).1, hok, le_of_eq hcontents⟩
  | true =>
    obtain ⟨least, hread, hok, htakes⟩ := hok.takeNext_interlaced hfilled
    refine ⟨least, hread, ?_, hok, ?_⟩
    · cases htakes with
      | only hbefore hafter => simp [hbefore]
      | two second hbefore hle hleast => simp [hbefore]
    · cases htakes with
      | only hbefore hafter =>
        rw [hafter]
        exact Multiset.zero_le _
      | two second hbefore hle hleast =>
        rw [hbefore, Multiset.erase_cons_head]
        exact Multiset.le_cons_self _ _

def held (reorder : TimeStampReorder) : Multiset Int := (reorder.tables.map TimeStampList.contents).sum

theorem Sound.act (hsound : reorder.Sound) (action : ReorderAction) : (reorder.act action).Sound := by
  cases action with
  | insert header =>
    obtain ⟨front, last, htables, -, hfront, -, -⟩ := getCurrentList_tables hsound
    have hinserts := insertTimestamp_inserts hsound header
    change Sound (reorder.insertTimestamp header).1
    generalize reorder.insertTimestamp header = result at hinserts ⊢
    cases hinserts with
    | off hoff => exact hsound
    | full hon => exact fun _ htable => (List.not_mem_nil htable).elim
    | done hon front' last' added opened htables' htakes =>
      obtain ⟨rfl, -⟩ := List.append_inj' (htables.symm.trans htables') rfl
      intro table htable
      simp only [List.mem_append, List.mem_singleton] at htable
      rcases htable with (htable | rfl) | htable
      · exact hfront table htable
      · exact htakes.ok
      · cases opened with
        | false => exact (List.not_mem_nil htable).elim
        | true =>
          obtain rfl := List.mem_singleton.mp htable
          exact TimeStampList.new_ok
  | remove ts isInterlaced =>
    change Sound (reorder.removeTimeStamp ts isInterlaced).1
    by_cases hsome : ∃ head rest, HasHead reorder head rest
    · obtain ⟨head, rest, hhead⟩ := hsome
      rw [removeTimeStamp_of_head hhead]
      have hok := hsound head (by rw [hhead.tables]; exact List.mem_cons_self)
      exact hsound.afterHead hhead.tables (hok.remove ts isInterlaced).1
    · rw [(no_head (fun head rest hhead => hsome ⟨head, rest, hhead⟩) ts isInterlaced).2]
      exact hsound
  | next isInterlaced =>
    change Sound (reorder.getNextTimestamp isInterlaced).1
    by_cases hsome : ∃ head rest, HasHead reorder head rest
    · obtain ⟨head, rest, hhead⟩ := hsome
      rw [getNextTimestamp_of_head hhead]
      have hok := hsound head (by rw [hhead.tables]; exact List.mem_cons_self)
      obtain ⟨-, -, -, hnext, -⟩ := takeNext_spec hok hhead.filled isInterlaced
      exact hsound.afterHead hhead.tables hnext
    · rw [(no_head (fun head rest hhead => hsome ⟨head, rest, hhead⟩) 0 isInterlaced).1]
      exact hsound
  | flush => exact fun _ htable => (List.not_mem_nil htable).elim

theorem held_afterHead_le (next : TimeStampList) (htables : reorder.tables = head :: rest)
    (hle : next.contents ≤ head.contents) :
    held { reorder with tables := Nozomi.afterHead next rest } ≤ reorder.held := by
  unfold held
  rw [htables, List.map_cons, List.sum_cons]
  unfold Nozomi.afterHead
  split
  · exact Multiset.le_add_left _ _
  · rw [List.map_cons, List.sum_cons]
    exact Multiset.add_le_add_right hle

theorem held_act_le (hsound : reorder.Sound) (action : ReorderAction) :
    (reorder.act action).held ≤ reorder.held + (insertedTimes [action] : Multiset Int) := by
  cases action with
  | insert header =>
    have hinserts := insertTimestamp_inserts hsound header
    obtain ⟨front, last, htables, -, -, -, hbefore⟩ := getCurrentList_tables hsound
    change held (reorder.insertTimestamp header).1 ≤ _
    generalize reorder.insertTimestamp header = result at hinserts ⊢
    cases hinserts with
    | off hoff => exact Multiset.le_add_right _ _
    | full hon => exact Multiset.zero_le _
    | done hon front' last' added opened htables' htakes =>
      obtain ⟨rfl, hlast⟩ := List.append_inj' (htables.symm.trans htables') rfl
      obtain rfl := List.singleton_inj.mp hlast
      have hheld : reorder.held = (front.map TimeStampList.contents).sum + last.contents := by
        rcases hbefore with hsplit | ⟨hempty, rfl, rfl⟩
        · rw [held, hsplit]
          simp
        · rw [held, hempty, TimeStampList.new_contents]
          rfl
      have hnew : ((if opened then [TimeStampList.new] else []).map TimeStampList.contents).sum = 0 := by
        cases opened <;> simp [TimeStampList.new_contents]
      rw [held, List.map_append, List.sum_append, hnew, hheld, List.map_append, List.sum_append,
        List.map_singleton, List.sum_singleton, htakes.contents, add_zero, add_assoc]
      apply Multiset.add_le_add_left
      unfold insertedTimes
      split
      · rw [← Multiset.singleton_add, add_comm]
        exact le_of_eq rfl
      · exact Multiset.le_add_right _ _
  | remove ts isInterlaced =>
    refine le_trans ?_ (Multiset.le_add_right _ _)
    change held (reorder.removeTimeStamp ts isInterlaced).1 ≤ _
    by_cases hsome : ∃ head rest, HasHead reorder head rest
    · obtain ⟨head, rest, hhead⟩ := hsome
      have hok := hsound head (by rw [hhead.tables]; exact List.mem_cons_self)
      have hle := hok.remove_le ts isInterlaced
      rw [removeTimeStamp_of_head hhead]
      generalize head.remove ts isInterlaced = next at hle ⊢
      exact held_afterHead_le next hhead.tables hle
    · have hnone := (no_head (fun head rest hhead => hsome ⟨head, rest, hhead⟩) ts isInterlaced).2
      exact le_of_eq (congrArg (fun result => held result.1) hnone)
  | next isInterlaced =>
    refine le_trans ?_ (Multiset.le_add_right _ _)
    change held (reorder.getNextTimestamp isInterlaced).1 ≤ _
    by_cases hsome : ∃ head rest, HasHead reorder head rest
    · obtain ⟨head, rest, hhead⟩ := hsome
      have hok := hsound head (by rw [hhead.tables]; exact List.mem_cons_self)
      obtain ⟨least, -, -, -, hle⟩ := takeNext_spec hok hhead.filled isInterlaced
      rw [getNextTimestamp_of_head hhead]
      exact held_afterHead_le _ hhead.tables (hle.trans (Multiset.erase_le _ _))
    · have hnone := (no_head (fun head rest hhead => hsome ⟨head, rest, hhead⟩) 0 isInterlaced).1
      exact le_of_eq (congrArg (fun result => held result.1) hnone)
  | flush => exact Multiset.zero_le _

def after (reorder : TimeStampReorder) (actions : List ReorderAction) : TimeStampReorder :=
  actions.foldl act reorder

end TimeStampReorder

theorem insertedTimes_append (first second : List ReorderAction) :
    insertedTimes (first ++ second) = insertedTimes first ++ insertedTimes second := by
  induction first with
  | nil => rfl
  | cons action first ih =>
    cases action with
    | insert header =>
      simp only [List.cons_append, insertedTimes, ih]
      split <;> rfl
    | remove ts isInterlaced => exact ih
    | next isInterlaced => exact ih
    | flush => exact ih

namespace TimeStampReorder

variable {reorder : TimeStampReorder} {head : TimeStampList} {rest : List TimeStampList}

theorem after_new (mode : Bool) (actions : List ReorderAction) :
    (after (.new mode) actions).Sound ∧ (after (.new mode) actions).held ≤ (insertedTimes actions : Multiset Int) := by
  induction actions using List.reverseRecOn with
  | nil => exact ⟨fun _ htable => (List.not_mem_nil htable).elim, Multiset.zero_le _⟩
  | append_singleton actions action ih =>
    obtain ⟨hsound, hheld⟩ := ih
    unfold after at hsound hheld ⊢
    rw [List.foldl_append, insertedTimes_append]
    refine ⟨hsound.act action, (held_act_le hsound action).trans ?_⟩
    rw [← Multiset.coe_add]
    exact Multiset.add_le_add_right hheld

/-! ### Reads to come -/

variable {ts : Int}

theorem exposed_afterHead (next : TimeStampList) (hfilled : head.contents ≠ 0)
    (hle : next.contents ≤ head.contents) (hexposed : Exposed ts (Nozomi.afterHead next rest)) :
    Exposed ts (head :: rest) := by
  unfold Nozomi.afterHead at hexposed
  split at hexposed
  · exact .inr ⟨hfilled, hexposed⟩
  · rcases hexposed with hmem | ⟨-, hrest⟩
    · exact .inl (Multiset.mem_of_le hle hmem)
    · exact .inr ⟨hfilled, hrest⟩

theorem contents_ne (hhead : HasHead reorder head rest) (hsound : reorder.Sound) : head.contents ≠ 0 := by
  have hok := hsound head (by rw [hhead.tables]; exact List.mem_cons_self)
  rw [ne_eq, ← Multiset.card_eq_zero, ← hok.filled]
  exact hhead.filled

theorem exposed_of_act (hsound : reorder.Sound) {action : ReorderAction} (hinserted : ts ∉ insertedTimes [action])
    (hexposed : Exposed ts (reorder.act action).tables) : Exposed ts reorder.tables := by
  cases action with
  | insert header =>
    have hinserts := insertTimestamp_inserts hsound header
    obtain ⟨front, last, htables, -, -, -, hbefore⟩ := getCurrentList_tables hsound
    change Exposed ts (reorder.insertTimestamp header).1.tables at hexposed
    generalize reorder.insertTimestamp header = result at hinserts hexposed
    cases hinserts with
    | off hoff => exact hexposed
    | full hon => exact hexposed.elim
    | done hon front' last' added opened htables' htakes =>
      obtain ⟨rfl, hlast⟩ := List.append_inj' (htables.symm.trans htables') rfl
      obtain rfl := List.singleton_inj.mp hlast
      have hadded : ts ∈ added.contents → ts ∈ last.contents := by
        rw [htakes.contents]
        unfold insertedTimes at hinserted
        split
        · rw [if_pos ‹_›, insertedTimes, List.mem_singleton] at hinserted
          intro hmem
          exact (Multiset.mem_cons.mp hmem).resolve_left hinserted
        · exact id
      have hopened : ¬ Exposed ts (if opened then [TimeStampList.new] else []) := by
        cases opened with
        | false => exact id
        | true => simp [Exposed, TimeStampList.new_contents]
      have hlastExposed : Exposed ts (front ++ [last]) := by
        dsimp only at hexposed
        rw [exposed_append] at hexposed
        rw [exposed_append]
        rcases hexposed with hfront | ⟨-, hnew⟩
        · rw [exposed_append] at hfront
          refine hfront.imp_right fun hback => ⟨hback.1, ?_⟩
          exact .inl (hadded (hback.2.resolve_right fun hnone => hnone.2))
        · exact absurd hnew hopened
      rcases hbefore with hsplit | ⟨-, rfl, rfl⟩
      · rwa [hsplit]
      · exact absurd hlastExposed (by simp [Exposed, TimeStampList.new_contents])
  | remove other isInterlaced =>
    change Exposed ts (reorder.removeTimeStamp other isInterlaced).1.tables at hexposed
    by_cases hsome : ∃ head rest, HasHead reorder head rest
    · obtain ⟨head, rest, hhead⟩ := hsome
      have hok := hsound head (by rw [hhead.tables]; exact List.mem_cons_self)
      have hle := hok.remove_le other isInterlaced
      rw [removeTimeStamp_of_head hhead] at hexposed
      rw [hhead.tables]
      generalize head.remove other isInterlaced = next at hle hexposed
      exact exposed_afterHead next (contents_ne hhead hsound) hle hexposed
    · rwa [(no_head (fun head rest hhead => hsome ⟨head, rest, hhead⟩) other isInterlaced).2] at hexposed
  | next isInterlaced =>
    change Exposed ts (reorder.getNextTimestamp isInterlaced).1.tables at hexposed
    by_cases hsome : ∃ head rest, HasHead reorder head rest
    · obtain ⟨head, rest, hhead⟩ := hsome
      have hok := hsound head (by rw [hhead.tables]; exact List.mem_cons_self)
      obtain ⟨least, -, -, -, hle⟩ := takeNext_spec hok hhead.filled isInterlaced
      rw [getNextTimestamp_of_head hhead] at hexposed
      rw [hhead.tables]
      exact exposed_afterHead _ (contents_ne hhead hsound) (hle.trans (Multiset.erase_le _ _)) hexposed
    · rwa [(no_head (fun head rest hhead => hsome ⟨head, rest, hhead⟩) 0 isInterlaced).1] at hexposed
  | flush => exact hexposed.elim

theorem exposed_of_returnedTime (hsound : reorder.Sound) {action : ReorderAction}
    (hreturned : reorder.returnedTime action = some ts) : Exposed ts reorder.tables := by
  cases action with
  | next isInterlaced =>
    change (reorder.getNextTimestamp isInterlaced).2 = some ts at hreturned
    by_cases hsome : ∃ head rest, HasHead reorder head rest
    · obtain ⟨head, rest, hhead⟩ := hsome
      have hok := hsound head (by rw [hhead.tables]; exact List.mem_cons_self)
      obtain ⟨least, hread, hmem, -, -⟩ := takeNext_spec hok hhead.filled isInterlaced
      rw [getNextTimestamp_of_head hhead, hread, Option.some.injEq] at hreturned
      rw [hhead.tables]
      exact .inl (hreturned ▸ hmem)
    · rw [(no_head (fun head rest hhead => hsome ⟨head, rest, hhead⟩) 0 isInterlaced).1] at hreturned
      exact nomatch hreturned
  | insert header => exact nomatch hreturned
  | remove other isInterlaced => exact nomatch hreturned
  | flush => exact nomatch hreturned

theorem not_mem_returnedTimes (later : List ReorderAction) (hinserted : ts ∉ insertedTimes later) :
    ∀ {reorder : TimeStampReorder}, reorder.Sound → ¬ Exposed ts reorder.tables →
      ts ∉ reorder.returnedTimes later := by
  induction later with
  | nil => exact fun _ _ hmem => nomatch hmem
  | cons action later ih =>
    intro reorder hsound hexposed hmem
    rw [← List.singleton_append, insertedTimes_append, List.mem_append, not_or] at hinserted
    rw [returnedTimes, List.mem_append, Option.mem_toList] at hmem
    rcases hmem with hreturned | hlater
    · exact hexposed (exposed_of_returnedTime hsound hreturned)
    · refine ih hinserted.2 (hsound.act action) ?_ hlater
      exact fun hnext => hexposed (exposed_of_act hsound hinserted.1 hnext)

theorem held_afterHead_eq {next : TimeStampList} (hnext : next.Ok) :
    held { reorder with tables := Nozomi.afterHead next rest } =
      next.contents + (rest.map TimeStampList.contents).sum := by
  unfold held Nozomi.afterHead
  split
  · have hzero : next.contents = 0 := by
      rw [← Multiset.card_eq_zero, ← hnext.filled]
      exact (‹_ ∧ _› : next.entriesFilled = 0 ∧ rest ≠ []).1
    rw [hzero, zero_add]
  · rw [List.map_cons, List.sum_cons]

theorem mem_held (hexposed : Exposed ts reorder.tables) : ts ∈ reorder.held := by
  unfold held
  generalize reorder.tables = tables at hexposed
  induction tables with
  | nil => exact hexposed.elim
  | cons table tables ih =>
    rw [List.map_cons, List.sum_cons, Multiset.mem_add]
    exact hexposed.imp id fun hrest => ih hrest.2

theorem exposed_of_read (hsound : reorder.Sound) (hhead : HasHead reorder head rest)
    (hexposed : Exposed ts (head :: rest)) :
    ∃ least, reorder.returnedTime (.next false) = some least ∧
      (reorder.act (.next false)).held.card + 1 = reorder.held.card ∧
      (least ≠ ts → Exposed ts (reorder.act (.next false)).tables) := by
  have hok := hsound head (by rw [hhead.tables]; exact List.mem_cons_self)
  obtain ⟨least, hleast, hread, hnext, hcontents⟩ := hok.takeNext hhead.filled
  have hmem := (leastOf_eq_some_iff.mp hleast).1
  simp only [returnedTime, act, getNextTimestamp_of_head hhead]
  generalize (head.takeNext false).1 = next at hnext hcontents
  refine ⟨least, hread, ?_, fun hne => ?_⟩
  · rw [held_afterHead_eq hnext, held, hhead.tables, List.map_cons, List.sum_cons, hcontents,
      Multiset.card_add, Multiset.card_add, ← Multiset.card_erase_add_one hmem]
    omega
  · have hkept : ts ∈ head.contents → ts ∈ next.contents := by
      rw [hcontents]
      exact (Multiset.mem_erase_of_ne hne.symm).mpr
    have hempty : next.entriesFilled = 0 → next.contents = 0 := by
      rw [hnext.filled, Multiset.card_eq_zero]
      exact id
    unfold Nozomi.afterHead
    split
    next hdrained =>
      refine hexposed.elim (fun hmemHead => ?_) (fun hrest => hrest.2)
      exact absurd (hkept hmemHead) (by rw [hempty hdrained.1]; exact Multiset.notMem_zero ts)
    next hstays =>
      refine hexposed.imp hkept fun hrest => ⟨fun hzero => ?_, hrest.2⟩
      apply hstays
      refine ⟨by rw [hnext.filled, hzero]; rfl, ?_⟩
      rintro rfl
      exact hrest.2

theorem mem_returnedTimes_of_exposed (count : Nat) :
    ∀ {reorder : TimeStampReorder}, reorder.Sound → reorder.reorderTs = true → reorder.error = false →
      reorder.held.card = count → Exposed ts reorder.tables →
      ts ∈ reorder.returnedTimes (List.replicate count (.next false)) := by
  induction count with
  | zero =>
    intro reorder _ _ _ hcount hexposed
    rw [Multiset.card_eq_zero] at hcount
    exact absurd (mem_held hexposed) (by rw [hcount]; exact Multiset.notMem_zero ts)
  | succ count ih =>
    intro reorder hsound hmode hnoError hcount hexposed
    cases htables : reorder.tables with
    | nil => exact absurd hexposed (by rw [htables]; exact id)
    | cons head rest =>
      rw [htables] at hexposed
      have hok := hsound head (by rw [htables]; exact List.mem_cons_self)
      have hfilled : head.entriesFilled ≠ 0 := by
        rw [hok.filled, ne_eq, Multiset.card_eq_zero]
        rintro hzero
        refine hexposed.elim (fun hmem => ?_) (fun hrest => hrest.1 hzero)
        exact absurd hmem (by rw [hzero]; exact Multiset.notMem_zero ts)
      have hhead : HasHead reorder head rest := ⟨hmode, hnoError, htables, hfilled⟩
      obtain ⟨least, hreturned, hcard, hnext⟩ := exposed_of_read hsound hhead hexposed
      rw [List.replicate_succ, returnedTimes, hreturned, Option.toList_some, List.mem_append, List.mem_singleton]
      by_cases hfound : least = ts
      · exact .inl hfound.symm
      · refine .inr (ih (hsound.act _) ?_ ?_ (by omega) (hnext hfound))
        · simp only [act, getNextTimestamp_of_head hhead]
          exact hmode
        · simp only [act, getNextTimestamp_of_head hhead]
          exact hnoError

/-! ### When a removal is final -/

/-- The timestamp is in a table behind the first one, and reads will come to it. -/
def Behind (reorder : TimeStampReorder) (ts : Int) : Prop := Exposed ts reorder.tables.tail

instance (reorder : TimeStampReorder) (ts : Int) : Decidable (reorder.Behind ts) :=
  inferInstanceAs (Decidable (Exposed ts reorder.tables.tail))

theorem exposed_removed_iff (hsound : reorder.Sound) (hnodup : reorder.held.Nodup) {isInterlaced : Bool}
    (htrue : (reorder.removeTimeStamp ts isInterlaced).2 = true) :
    Exposed ts (reorder.removeTimeStamp ts isInterlaced).1.tables ↔ reorder.Behind ts := by
  by_cases hsome : ∃ head rest, HasHead reorder head rest
  · obtain ⟨head, rest, hhead⟩ := hsome
    have hok := hsound head (by rw [hhead.tables]; exact List.mem_cons_self)
    obtain ⟨hnext, removed, hbound, hcontents, hnone⟩ := hok.remove ts isInterlaced
    have hheadNodup : head.contents.Nodup := by
      refine Multiset.nodup_of_le ?_ hnodup
      rw [held, hhead.tables, List.map_cons, List.sum_cons]
      exact Multiset.le_add_right _ _
    rw [removeTimeStamp_of_head hhead, Behind, hhead.tables, List.tail_cons]
    generalize head.remove ts isInterlaced = next at *
    -- There was one entry at most, so the removal has found it.
    have hgone : ts ∉ next.contents := by
      intro hmem
      have hcount := Multiset.nodup_iff_count_le_one.mp hheadNodup ts
      have hone := Multiset.one_le_count_iff_mem.mpr hmem
      rw [hcontents, Multiset.count_add, Multiset.count_replicate_self] at hcount
      have hpositive := TimeStampList.numEntRemove_pos isInterlaced
      exact hnone (by omega) hmem
    unfold Nozomi.afterHead
    split
    · exact Iff.rfl
    next hstays =>
      refine ⟨fun hexposed => (hexposed.resolve_left hgone).2, fun hrest => .inr ⟨fun hzero => ?_, hrest⟩⟩
      apply hstays
      refine ⟨by rw [hnext.filled, hzero]; rfl, ?_⟩
      rintro rfl
      exact hrest
  · rw [(no_head (fun head rest hhead => hsome ⟨head, rest, hhead⟩) ts isInterlaced).2] at htrue
    exact nomatch htrue

/-- The calls after a removal never return the timestamp, unless they insert it. -/
def NeverReturned (reorder : TimeStampReorder) (ts : Int) : Prop :=
  ∀ later, ts ∉ insertedTimes later → ts ∉ reorder.returnedTimes later

/-- Where all inserted timestamps are distinct, a removal that reports success is final exactly for a timestamp
that is in none of the tables that reads will come to behind the first one. -/
theorem neverReturned_removed_iff (mode : Bool) (history : List ReorderAction) (ts : Int) (isInterlaced : Bool)
    (hdistinct : (insertedTimes history).Nodup)
    (htrue : ((after (.new mode) history).removeTimeStamp ts isInterlaced).2 = true) :
    NeverReturned ((after (.new mode) history).removeTimeStamp ts isInterlaced).1 ts ↔
      ¬ (after (.new mode) history).Behind ts := by
  obtain ⟨hsound, hheld⟩ := after_new mode history
  have hnodup := Multiset.nodup_of_le hheld (Multiset.coe_nodup.mpr hdistinct)
  have hremoved : Sound ((after (.new mode) history).removeTimeStamp ts isInterlaced).1 :=
    hsound.act (.remove ts isInterlaced)
  rw [← exposed_removed_iff hsound hnodup htrue]
  constructor
  · intro hnever hexposed
    obtain ⟨hmode, hnoError⟩ :
        ((after (.new mode) history).removeTimeStamp ts isInterlaced).1.reorderTs = true ∧
          ((after (.new mode) history).removeTimeStamp ts isInterlaced).1.error = false := by
      by_cases hsome : ∃ head rest, HasHead (after (.new mode) history) head rest
      · obtain ⟨head, rest, hhead⟩ := hsome
        rw [removeTimeStamp_of_head hhead]
        exact ⟨hhead.mode, hhead.noError⟩
      · rw [(no_head (fun head rest hhead => hsome ⟨head, rest, hhead⟩) ts isInterlaced).2] at htrue
        exact nomatch htrue
    refine hnever (List.replicate _ (.next false)) ?_
      (mem_returnedTimes_of_exposed _ hremoved hmode hnoError rfl hexposed)
    have hnone : ∀ count, insertedTimes (List.replicate count (.next false)) = [] := by
      intro count
      induction count with
      | zero => rfl
      | succ count ih => exact ih
    rw [hnone]
    exact List.not_mem_nil
  · exact fun hexposed later hinserted => not_mem_returnedTimes later hinserted hremoved hexposed

private def timed (ts : Int) (flags : BitVec 32) : BufferHeader :=
  { BufferHeader.blank 1 with nTimeStamp := ts, nFlags := flags, nFilledLen := 1 }

/-- A timestamp that is removed from the first table. -/
theorem neverReturned_removed_first :
    NeverReturned ((after (.new true) [.insert (timed 5 0), .insert (timed 7 0)]).removeTimeStamp 7 false).1 7 :=
  (neverReturned_removed_iff true [.insert (timed 5 0), .insert (timed 7 0)] 7 false (by decide)
    (by decide +kernel)).mpr (by decide +kernel)

/-- A timestamp behind an end of stream is removed with success, and read afterwards. -/
theorem not_neverReturned_removed :
    ¬ ∀ history ts, (insertedTimes history).Nodup →
      ((after (.new true) history).removeTimeStamp ts false).2 = true →
        NeverReturned ((after (.new true) history).removeTimeStamp ts false).1 ts := by
  intro hall
  have hnever := hall [.insert (timed 5 bufferFlagEos), .insert (timed 7 0)] 7 (by decide)
    (by decide +kernel)
  exact hnever [.next false, .next false] (by decide) (by decide +kernel)

end TimeStampReorder

end Nozomi
