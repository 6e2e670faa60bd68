import Mathlib.Data.List.Induction
import Nozomi.Base.MultisetQueue
import Nozomi.Vdec.TimestampReorder.Code

/-!
# The tables refine a queue of multisets

With progressive content the object is meant as a queue of multisets of timestamps. A table stands for
the multiset of its entries in use, and drained tables are forgotten from the front. The simulation goes
through as long as no call meets a table it does not look past: a read with an empty first table and
timestamps behind it, or an insertion with a full last table.
-/

namespace Nozomi

def timesInUse (entries : List Timestamp) : List Int :=
  (entries.filter Timestamp.inUse).map Timestamp.timestamps

@[simp] theorem timesInUse_nil : timesInUse [] = [] := rfl

@[simp] theorem timesInUse_append (first second : List Timestamp) :
    timesInUse (first ++ second) = timesInUse first ++ timesInUse second := by
  simp [timesInUse]

@[simp] theorem timesInUse_cons (entry : Timestamp) (entries : List Timestamp) :
    timesInUse (entry :: entries) =
      (if entry.inUse then [entry.timestamps] else []) ++ timesInUse entries := by
  cases hentry : entry.inUse <;> simp [timesInUse, hentry]

theorem timesInUse_split {entries : List Timestamp} {index : Nat} (hlt : index < entries.length) :
    timesInUse entries = timesInUse (entries.take index) ++
      ((if entries[index].inUse then [entries[index].timestamps] else []) ++
        timesInUse (entries.drop (index + 1))) := by
  conv_lhs => rw [← List.take_append_drop index entries, List.drop_eq_getElem_cons hlt]
  rw [timesInUse_append, timesInUse_cons]

namespace TimeStampList

def contents (table : TimeStampList) : Multiset Int := timesInUse table.inputTimestamps

/-- A table of `TIME_SZ` entries that counts those in use. -/
structure Ok (table : TimeStampList) : Prop where
  length : table.inputTimestamps.length = timeSz
  filled : table.entriesFilled = table.contents.card

variable {table : TimeStampList}

theorem new_contents : new.contents = 0 := by
  simp [contents, new, timesInUse]

theorem new_ok : new.Ok := ⟨by simp [new], by rw [new_contents]; rfl⟩

theorem Ok.filled_le (hok : table.Ok) : table.entriesFilled ≤ timeSz := by
  rw [hok.filled, ← hok.length, contents, Multiset.coe_card, timesInUse, List.length_map]
  exact List.length_filter_le _ _

theorem Ok.take_firstFree (hok : table.Ok) (hfree : table.entriesFilled < timeSz)
    (timestamp : Int) :
    ∃ index, table.firstFree = some index ∧ (table.take index timestamp).Ok ∧
      (table.take index timestamp).contents = timestamp ::ₘ table.contents := by
  cases hindex : table.firstFree with
  | none =>
    -- Every entry is in use, so all of them are counted.
    have hall : table.inputTimestamps.filter Timestamp.inUse = table.inputTimestamps := by
      rw [List.filter_eq_self]
      intro entry hentry
      have := List.findIdx?_eq_none_iff.mp hindex entry hentry
      simpa using this
    have hcount := hok.filled
    rw [contents, Multiset.coe_card, timesInUse, hall, List.length_map, hok.length] at hcount
    omega
  | some index =>
    obtain ⟨hlt, hunused, -⟩ := List.findIdx?_eq_some_iff_getElem.mp hindex
    have hunused : table.inputTimestamps[index].inUse = false := by simpa using hunused
    have hbefore := timesInUse_split hlt
    rw [hunused, if_neg Bool.false_ne_true, List.nil_append] at hbefore
    have hafter : (table.take index timestamp).contents = timestamp ::ₘ table.contents := by
      rw [contents, contents, take, List.set_eq_take_append_cons_drop, if_pos hlt,
        timesInUse_append, timesInUse_cons, if_pos rfl, hbefore]
      simp only [List.singleton_append, Multiset.coe_eq_coe, Multiset.cons_coe]
      exact List.perm_middle
    refine ⟨index, rfl, ⟨?_, ?_⟩, hafter⟩
    · rw [take, List.length_set]
      exact hok.length
    · rw [hafter, Multiset.card_cons, ← hok.filled]
      rfl

theorem Ok.release (hok : table.Ok) {index : Nat} (hlt : index < table.inputTimestamps.length)
    (hused : table.inputTimestamps[index].inUse = true) :
    (table.release index).Ok ∧ (table.release index).contents =
      table.contents.erase table.inputTimestamps[index].timestamps := by
  have hbefore := timesInUse_split hlt
  rw [hused, if_pos rfl] at hbefore
  have hcontents : table.contents = table.inputTimestamps[index].timestamps ::ₘ
      (timesInUse (table.inputTimestamps.take index) ++
        timesInUse (table.inputTimestamps.drop (index + 1)) : List Int) := by
    rw [contents, hbefore, Multiset.cons_coe, Multiset.coe_eq_coe]
    exact List.perm_middle
  have hafter : (table.release index).contents =
      table.contents.erase table.inputTimestamps[index].timestamps := by
    rw [hcontents, Multiset.erase_cons_head, contents, TimeStampList.release,
      List.modify_eq_take_cons_drop hlt, timesInUse_append, timesInUse_cons,
      if_neg Bool.false_ne_true, List.nil_append]
  have hfilled := hok.filled
  have hle := hok.filled_le
  rw [hcontents, Multiset.card_cons] at hfilled
  refine ⟨⟨?_, ?_⟩, hafter⟩
  · rw [TimeStampList.release, List.length_modify]
    exact hok.length
  · rw [hafter, hcontents, Multiset.erase_cons_head]
    change sub32 table.entriesFilled 1 = _
    rw [sub32_of_le (by omega) (by simp only [timeSz] at hle; omega)]
    omega

/-! ### The selection of the least timestamp -/

def Selects (entries : List Timestamp) (element : Option (Nat × Int)) : Prop :=
  match element with
  | none => timesInUse entries = []
  | some (index, timestamp) =>
    (∃ hlt : index < entries.length, entries[index] = ⟨timestamp, true⟩) ∧
      ∀ other ∈ timesInUse entries, timestamp ≤ other

theorem Selects.append {entries : List Timestamp} {entry : Timestamp} {index : Nat}
    {timestamp : Int} (hfound : Selects entries (some (index, timestamp)))
    (hentry : entry.inUse = true → timestamp ≤ entry.timestamps) :
    Selects (entries ++ [entry]) (some (index, timestamp)) := by
  obtain ⟨⟨hlt, hget⟩, hle⟩ := hfound
  refine ⟨⟨by rw [List.length_append]; omega, by rwa [List.getElem_append_left hlt]⟩, ?_⟩
  intro other hother
  rw [timesInUse_append, timesInUse_cons, List.mem_append] at hother
  rcases hother with hother | hother
  · exact hle other hother
  · cases hused : entry.inUse with
    | true =>
      simp only [hused, if_true, timesInUse_nil, List.append_nil, List.mem_singleton] at hother
      exact hother ▸ hentry hused
    | false => simp [hused] at hother

theorem Selects.last {entries : List Timestamp} {entry : Timestamp} (hused : entry.inUse = true)
    (hbelow : ∀ other ∈ timesInUse entries, entry.timestamps ≤ other) :
    Selects (entries ++ [entry]) (some (entries.length, entry.timestamps)) := by
  refine ⟨⟨by simp, by rw [List.getElem_concat_length rfl, ← hused]⟩, ?_⟩
  intro other hother
  rw [timesInUse_append, timesInUse_cons, if_pos hused, List.mem_append] at hother
  rcases hother with hother | hother
  · exact hbelow other hother
  · simp only [timesInUse_nil, List.append_nil, List.mem_singleton] at hother
    exact hother ▸ Int.le_refl _

theorem select_selects (entries : List Timestamp) :
    Selects entries (entries.zipIdx.foldl selectStep ⟨none, none⟩).element := by
  induction entries using List.reverseRecOn with
  | nil => rfl
  | append_singleton entries entry ih =>
    rw [List.zipIdx_append, List.foldl_append]
    generalize entries.zipIdx.foldl selectStep ⟨none, none⟩ = selection at ih
    simp only [List.zipIdx_singleton, Nat.zero_add, List.foldl_cons, List.foldl_nil, selectStep]
    obtain ⟨element, duplicate⟩ := selection
    simp only at ih ⊢
    cases hused : entry.inUse with
    | false =>
      simp only [if_neg Bool.false_ne_true]
      cases element with
      | none =>
        simp only [Selects] at ih ⊢
        simp [ih, hused]
      | some found => exact Selects.append ih (by simp [hused])
    | true =>
      simp only [if_true]
      cases element with
      | none => exact Selects.last hused (by simp only [Selects] at ih; simp [ih])
      | some found =>
        obtain ⟨index, timestamp⟩ := found
        dsimp only
        by_cases hless : timestamp > entry.timestamps
        · rw [if_pos hless]
          exact Selects.last hused fun other hother =>
            (Int.le_of_lt hless).trans (ih.2 other hother)
        · rw [if_neg hless]
          have hkept := Selects.append ih fun _ : entry.inUse = true => Int.not_lt.mp hless
          split
          · exact hkept
          · exact hkept

theorem Ok.takeNext (hok : table.Ok) (hfilled : table.entriesFilled ≠ 0) :
    ∃ least, leastOf table.contents = some least ∧ (table.takeNext false).2 = some least ∧
      (table.takeNext false).1.Ok ∧
      (table.takeNext false).1.contents = table.contents.erase least := by
  have hselects := select_selects table.inputTimestamps
  cases helement : (table.inputTimestamps.zipIdx.foldl selectStep ⟨none, none⟩).element with
  | none =>
    rw [helement] at hselects
    refine absurd hok.filled ?_
    rw [contents, show timesInUse table.inputTimestamps = [] from hselects]
    exact hfilled
  | some found =>
    obtain ⟨index, least⟩ := found
    rw [helement] at hselects
    obtain ⟨⟨hlt, hget⟩, hle⟩ := hselects
    obtain ⟨hreleased, hcontents⟩ := hok.release hlt (by rw [hget])
    rw [hget] at hcontents
    have htaken : table.takeNext false = (table.release index, some least) := by
      simp [TimeStampList.takeNext, select, helement]
    rw [htaken]
    refine ⟨least, leastOf_eq_some_iff.mpr ⟨?_, fun other hother => hle other hother⟩, rfl,
      hreleased, hcontents⟩
    have hsplit := timesInUse_split hlt
    rw [hget, if_pos rfl] at hsplit
    rw [contents, Multiset.mem_coe, hsplit]
    simp

end TimeStampList

/-! ### The simulation -/

inductive ReorderCall where
  | insert (header : BufferHeader)
  | next
  deriving DecidableEq, Repr

/-- What a call returns; the timestamp that a read gives, if it succeeds. -/
inductive ReorderResult where
  | inserted (success : Bool)
  | next (timestamp : Option Int)
  deriving DecidableEq, Repr

def TimeStampReorder.step (reorder : TimeStampReorder) :
    ReorderCall → TimeStampReorder × ReorderResult
  | .insert header =>
    ((reorder.insertTimestamp header).1, .inserted (reorder.insertTimestamp header).2)
  | .next => ((reorder.getNextTimestamp false).1, .next (reorder.getNextTimestamp false).2)

def insertQueue (queue : List (Multiset Int)) (header : BufferHeader) : List (Multiset Int) :=
  if header.hasCodecConfig then queue
  else if header.hasEos then
    if header.nFilledLen = 0 then openLast queue else openLast (addLast queue header.nTimeStamp)
  else addLast queue header.nTimeStamp

def queueStep (queue : List (Multiset Int)) : ReorderCall → List (Multiset Int) × ReorderResult
  | .insert header => (insertQueue queue header, .inserted true)
  | .next => ((removeLeast queue).1, .next (removeLeast queue).2)

def results {σ : Type} (step : σ → ReorderCall → σ × ReorderResult) (state : σ) :
    List ReorderCall → List ReorderResult
  | [] => []
  | call :: calls => (step state call).2 :: results step (step state call).1 calls

/-- The object stands for the queue: its tables are the places from some place on, and the places before
are drained. Without tables every place is. -/
structure Refines (reorder : TimeStampReorder) (queue : List (Multiset Int)) : Prop where
  mode : reorder.reorderTs = true
  noError : reorder.error = false
  tables : ∀ table ∈ reorder.tables, table.Ok
  places : ∃ drained, queue =
    List.replicate drained 0 ++ reorder.tables.map TimeStampList.contents ∧
      (reorder.tables = [] → 0 < drained)

def Meets (reorder : TimeStampReorder) : ReorderCall → Prop
  | .insert _ => reorder.current.entriesFilled < timeSz
  | .next =>
    (∀ table ∈ reorder.tables.head?, table.entriesFilled ≠ 0) ∨
      ∀ table ∈ reorder.tables, table.entriesFilled = 0

variable {reorder : TimeStampReorder} {queue : List (Multiset Int)}

theorem new_refines : Refines (.new true) [0] :=
  ⟨rfl, rfl, by simp [TimeStampReorder.new], 1, by simp [TimeStampReorder.new]⟩

theorem Refines.getCurrentList (hrefines : Refines reorder queue) :
    ∃ front places, reorder.getCurrentList =
        { reorder with tables := front ++ [reorder.current] } ∧
      (∀ table ∈ front ++ [reorder.current], table.Ok) ∧
      queue = places ++ [reorder.current.contents] ∧
      ∃ drained, places = List.replicate drained 0 ++ front.map TimeStampList.contents := by
  obtain ⟨-, -, htables, drained, hqueue, hdrained⟩ := hrefines
  by_cases hempty : reorder.tables = []
  · obtain ⟨before, rfl⟩ := Nat.exists_eq_add_of_lt (hdrained hempty)
    have hcurrent : reorder.current = .new := by
      simp [TimeStampReorder.current, hempty]
    refine ⟨[], List.replicate before 0, ?_, ?_, ?_, before, by simp⟩
    · rw [TimeStampReorder.getCurrentList, if_pos hempty, TimeStampReorder.addNewList, hempty,
        hcurrent]
    · simpa [hcurrent] using TimeStampList.new_ok
    · rw [hqueue, hempty, hcurrent, TimeStampList.new_contents, Nat.zero_add,
        List.replicate_succ']
      simp
  · obtain ⟨front, last, hsplit⟩ := (List.eq_nil_or_concat reorder.tables).resolve_left hempty
    rw [List.concat_eq_append] at hsplit
    have hcurrent : reorder.current = last := by
      simp [TimeStampReorder.current, hsplit]
    refine ⟨front, List.replicate drained 0 ++ front.map TimeStampList.contents, ?_, ?_, ?_, drained,
      rfl⟩
    · rw [TimeStampReorder.getCurrentList, if_neg hempty, hcurrent, ← hsplit]
    · rw [hcurrent, ← hsplit]
      exact htables
    · rw [hqueue, hsplit, hcurrent, List.map_append, List.append_assoc]
      rfl

private theorem Refines.of_tables (hrefines : Refines reorder queue) {tables : List TimeStampList}
    (hok : ∀ table ∈ tables, table.Ok) (hnonempty : tables ≠ []) (drained : Nat)
    {places : List (Multiset Int)}
    (hplaces : places = List.replicate drained 0 ++ tables.map TimeStampList.contents) :
    Refines { reorder with tables := tables } places :=
  ⟨hrefines.mode, hrefines.noError, hok, drained, hplaces, fun hempty => absurd hempty hnonempty⟩

theorem Refines.addNewList (hrefines : Refines reorder queue) :
    Refines reorder.addNewList (openLast queue) := by
  obtain ⟨drained, hqueue, -⟩ := hrefines.places
  apply hrefines.of_tables _ (by simp) drained
  · rw [openLast, hqueue, List.map_append, ← List.append_assoc]
    simp [TimeStampList.new_contents]
  · intro table htable
    rw [List.mem_append, List.mem_singleton] at htable
    rcases htable with htable | rfl
    · exact hrefines.tables table htable
    · exact TimeStampList.new_ok

private theorem insert_simulates (hrefines : Refines reorder queue) (header : BufferHeader)
    (hmeets : Meets reorder (.insert header)) :
    (reorder.insertTimestamp header).2 = true ∧
      Refines (reorder.insertTimestamp header).1 (insertQueue queue header) := by
  have hmode := hrefines.mode
  have hnoError := hrefines.noError
  obtain ⟨front, places, hlist, htables, hqueue, drained, hplaces⟩ := hrefines.getCurrentList
  have hroom : reorder.current.entriesFilled < timeSz := hmeets
  have hcurrent : reorder.getCurrentList.current = reorder.current := by
    simp [hlist, TimeStampReorder.current]
  have hlisted : Refines reorder.getCurrentList queue := by
    rw [hlist]
    apply hrefines.of_tables htables (by simp) drained
    rw [hqueue, hplaces, List.map_append, List.append_assoc]
    rfl
  obtain ⟨index, hindex, htaken, hcontents⟩ :=
    (htables _ (by simp)).take_firstFree hroom header.nTimeStamp
  -- The table and the place after the timestamp is added.
  have hadded : Refines (reorder.getCurrentList.setCurrent
      (reorder.current.take index header.nTimeStamp)) (addLast queue header.nTimeStamp) := by
    rw [TimeStampReorder.setCurrent, hlist]
    apply hrefines.of_tables _ (by simp) drained
    · rw [hqueue, addLast_concat, hplaces, ← hcontents, List.dropLast_concat, List.map_append,
        List.append_assoc]
      rfl
    · intro table htable
      rw [List.dropLast_concat, List.mem_append, List.mem_singleton] at htable
      rcases htable with htable | rfl
      · exact htables table (List.mem_append_left _ htable)
      · exact htaken
  rw [TimeStampReorder.insertTimestamp, hmode, hnoError, insertQueue]
  simp only [Bool.not_true, Bool.or_self, Bool.false_eq_true, if_false, hcurrent, hindex]
  rw [if_neg (Nat.not_lt.mpr (Nat.le_sub_one_of_lt hroom))]
  cases hcodec : header.hasCodecConfig with
  | true => exact ⟨rfl, hlisted⟩
  | false =>
    cases heos : header.hasEos with
    | true =>
      by_cases hempty : header.nFilledLen = 0
      · simpa [hempty] using hlisted.addNewList
      · simpa [hempty] using hadded.addNewList
    | false => simpa using hadded

private theorem insert_differs (hrefines : Refines reorder queue) (header : BufferHeader)
    (hfull : ¬Meets reorder (.insert header)) : (reorder.insertTimestamp header).2 = false := by
  obtain ⟨front, places, hlist, -, -⟩ := hrefines.getCurrentList
  have hcurrent : reorder.getCurrentList.current = reorder.current := by
    simp [hlist, TimeStampReorder.current]
  have hfull : ¬reorder.current.entriesFilled < timeSz := hfull
  rw [TimeStampReorder.insertTimestamp, hrefines.mode, hrefines.noError]
  simp only [Bool.not_true, Bool.or_self, Bool.false_eq_true, if_false, hcurrent]
  rw [if_pos (lt_of_lt_of_le (by decide) (Nat.not_lt.mp hfull))]

theorem Refines.zeros_iff (hrefines : Refines reorder queue) :
    (∀ values ∈ queue, values = 0) ↔ ∀ table ∈ reorder.tables, table.entriesFilled = 0 := by
  obtain ⟨drained, hqueue, -⟩ := hrefines.places
  have htable : ∀ table ∈ reorder.tables, table.contents = 0 ↔ table.entriesFilled = 0 := by
    intro table htable
    rw [(hrefines.tables table htable).filled, Multiset.card_eq_zero]
  rw [hqueue]
  constructor
  · intro hzeros table hmem
    rw [← htable table hmem]
    exact hzeros _ (List.mem_append_right _ (List.mem_map_of_mem hmem))
  · intro hdrained values hvalues
    rw [List.mem_append] at hvalues
    rcases hvalues with hvalues | hvalues
    · exact List.eq_of_mem_replicate hvalues
    · obtain ⟨table, hmem, rfl⟩ := List.mem_map.mp hvalues
      exact (htable table hmem).mpr (hdrained table hmem)

theorem getNextTimestamp_drained (reorder : TimeStampReorder) (isInterlaced : Bool)
    (hdrained : ∀ table ∈ reorder.tables.head?, table.entriesFilled = 0) :
    reorder.getNextTimestamp isInterlaced = (reorder, none) := by
  rw [TimeStampReorder.getNextTimestamp]
  split
  · rfl
  · cases htables : reorder.tables with
    | nil => rfl
    | cons head rest => exact if_pos (hdrained head (by simp [htables]))

private theorem next_simulates (hrefines : Refines reorder queue) (hmeets : Meets reorder .next) :
    (reorder.getNextTimestamp false).2 = (removeLeast queue).2 ∧
      Refines (reorder.getNextTimestamp false).1 (removeLeast queue).1 := by
  by_cases hall : ∀ table ∈ reorder.tables, table.entriesFilled = 0
  · rw [getNextTimestamp_drained reorder false fun table htable =>
        hall table (List.mem_of_mem_head? htable),
      removeLeast_of_zeros (hrefines.zeros_iff.mpr hall)]
    exact ⟨rfl, hrefines⟩
  have hfirst := hmeets.resolve_right hall
  obtain ⟨drained, hqueue, -⟩ := hrefines.places
  cases htables : reorder.tables with
  | nil => simp [htables] at hall
  | cons head rest =>
    have hfilled : head.entriesFilled ≠ 0 := hfirst head (by simp [htables])
    have hok := hrefines.tables
    rw [htables] at hok
    obtain ⟨least, hleast, hread, htaken, hcontents⟩ := (hok head (by simp)).takeNext hfilled
    -- The queue after the removal has the table after it in the same place.
    have hremoved : removeLeast queue = (List.replicate drained 0 ++
        ((head.takeNext false).1 :: rest).map TimeStampList.contents, some least) := by
      rw [hqueue, htables, removeLeast_zeros, List.map_cons, removeLeast, hleast, List.map_cons,
        hcontents]
    have hok' : ∀ table ∈ (head.takeNext false).1 :: rest, table.Ok := by
      intro table htable
      rcases List.mem_cons.mp htable with rfl | htable
      · exact htaken
      · exact hok table (List.mem_cons_of_mem _ htable)
    have hkept := hrefines.of_tables hok' (by simp) drained (congrArg Prod.fst hremoved)
    have hon : ¬(!reorder.reorderTs || reorder.error) = true := by
      simp [hrefines.mode, hrefines.noError]
    rw [TimeStampReorder.getNextTimestamp, if_neg hon, htables]
    simp only [if_neg hfilled]
    split
    next hempty =>
      refine ⟨by rw [hread, hremoved], ?_⟩
      cases rest with
      | nil => exact hkept
      | cons second rest =>
        -- The drained first table is forgotten, its place is one of the drained ones.
        apply hrefines.of_tables (fun table htable => hok' table (List.mem_cons_of_mem _ htable))
          (by simp) (drained + 1)
        have hzero : (head.takeNext false).1.contents = 0 := by
          rw [← Multiset.card_eq_zero, ← htaken.filled, hempty]
        rw [hremoved, List.map_cons, hzero, List.replicate_succ', List.append_assoc]
        rfl
    next => exact ⟨by rw [hread, hremoved], hkept⟩

private theorem next_differs (hrefines : Refines reorder queue) (hmisses : ¬Meets reorder .next) :
    (reorder.getNextTimestamp false).2 = none ∧ (removeLeast queue).2 ≠ none := by
  obtain ⟨hfirst, hall⟩ := not_or.mp hmisses
  constructor
  · rw [getNextTimestamp_drained]
    intro table htable
    by_contra hfilled
    apply hfirst
    intro other hother
    rwa [Option.mem_unique hother htable]
  · rw [ne_eq, removeLeast_eq_none_iff, hrefines.zeros_iff]
    exact hall

theorem step_simulates (hrefines : Refines reorder queue) (call : ReorderCall) :
    ((reorder.step call).2 = (queueStep queue call).2 ↔ Meets reorder call) ∧
      (Meets reorder call → Refines (reorder.step call).1 (queueStep queue call).1) := by
  cases call with
  | insert header =>
    refine ⟨⟨fun hsame => ?_, fun hmeets => ?_⟩, fun hmeets =>
      (insert_simulates hrefines header hmeets).2⟩
    · by_contra hfull
      have hfails := insert_differs hrefines header hfull
      simp [TimeStampReorder.step, queueStep, hfails] at hsame
    · simp [TimeStampReorder.step, queueStep, (insert_simulates hrefines header hmeets).1]
  | next =>
    refine ⟨⟨fun hsame => ?_, fun hmeets => ?_⟩, fun hmeets =>
      (next_simulates hrefines hmeets).2⟩
    · by_contra hmisses
      obtain ⟨hfails, hqueue⟩ := next_differs hrefines hmisses
      simp only [TimeStampReorder.step, queueStep, ReorderResult.next.injEq, hfails] at hsame
      exact hqueue hsame.symm
    · simp [TimeStampReorder.step, queueStep, (next_simulates hrefines hmeets).1]

def AllMeet (reorder : TimeStampReorder) : List ReorderCall → Prop
  | [] => True
  | call :: calls => Meets reorder call ∧ AllMeet (reorder.step call).1 calls

theorem results_iff (hrefines : Refines reorder queue) (calls : List ReorderCall) :
    results TimeStampReorder.step reorder calls = results queueStep queue calls ↔
      AllMeet reorder calls := by
  induction calls generalizing reorder queue with
  | nil => exact ⟨fun _ => trivial, fun _ => rfl⟩
  | cons call calls ih =>
    obtain ⟨hsame, hsimulates⟩ := step_simulates hrefines call
    rw [results, results, List.cons.injEq, hsame]
    exact and_congr_right fun hmeets => ih (hsimulates hmeets)

/-- A new object gives the results of the queue exactly on the sequences of calls where every call meets
its table. -/
theorem timeStampReorder_refines_iff (calls : List ReorderCall) :
    results TimeStampReorder.step (.new true) calls = results queueStep [0] calls ↔
      AllMeet (.new true) calls :=
  results_iff new_refines calls

/-- No insertion of the sequence adds to a place that holds `TIME_SZ` timestamps. -/
def NeverOverflows (queue : List (Multiset Int)) : List ReorderCall → Prop
  | [] => True
  | call :: calls =>
    (∀ values ∈ (queueStep queue call).1, values.card ≤ timeSz) ∧
      NeverOverflows (queueStep queue call).1 calls

instance decidableNeverOverflows : (queue : List (Multiset Int)) → (calls : List ReorderCall) →
    Decidable (NeverOverflows queue calls)
  | _, [] => inferInstanceAs (Decidable True)
  | queue, call :: calls =>
    haveI := decidableNeverOverflows (queueStep queue call).1 calls
    inferInstanceAs (Decidable (_ ∧ _))

/-- An end of stream without data, a timestamp, a read: the read fails. -/
theorem timeStampReorder_differs :
    ¬∀ calls, NeverOverflows [0] calls →
      results TimeStampReorder.step (.new true) calls = results queueStep [0] calls := by
  intro hrefines
  have hrun := hrefines [.insert { BufferHeader.blank 1 with nFlags := bufferFlagEos },
    .insert { BufferHeader.blank 1 with nTimeStamp := 5 }, .next] (by decide)
  revert hrun
  decide

end Nozomi
