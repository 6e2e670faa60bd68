import Nozomi.Vdec.TimestampReorder.Refinement

/-!
# Removals from a table

What the loop of `remove_time_stamp` and the two loops of an interlaced `get_next_timestamp` take out of a
table: entries with the timestamp, and the two least entries.
-/

namespace Nozomi

namespace TimeStampList

variable {table : TimeStampList}

/-! ### `remove_time_stamp` -/

theorem numEntRemove_pos (isInterlaced : Bool) : 0 < numEntRemove isInterlaced := by
  cases isInterlaced <;> decide

def HasBefore (table : TimeStampList) (ts : Int) (count : Nat) : Prop :=
  ∃ index, index < count ∧ table.inputTimestamps[index]? = some ⟨ts, true⟩

/-- The loop has taken entries with the timestamp, and has found all of them unless it may take no more. -/
structure Removed (table : TimeStampList) (ts : Int) (bound count : Nat) (state : TimeStampList × Nat) :
    Prop where
  ok : state.1.Ok
  taken : ∃ removed, removed + state.2 = bound ∧
    table.contents = Multiset.replicate removed ts + state.1.contents
  found : state.2 = 0 ∨ ¬ state.1.HasBefore ts count

theorem Removed.step {ts : Int} {bound count : Nat} {state : TimeStampList × Nat} (hcount : count < timeSz)
    (hremoved : Removed table ts bound count state) :
    Removed table ts bound (count + 1) (removeStep ts state count) := by
  obtain ⟨hok, ⟨removed, hbound, hcontents⟩, hfound⟩ := hremoved
  have hlt : count < state.1.inputTimestamps.length := by rw [hok.length]; exact hcount
  have hget := List.getElem?_eq_getElem hlt
  unfold removeStep
  rw [hget]
  dsimp only
  by_cases hleft : state.2 = 0
  · rw [if_neg (not_not_intro hleft)]
    exact ⟨hok, ⟨removed, hbound, hcontents⟩, .inl hleft⟩
  rw [if_pos hleft]
  have hnone := hfound.resolve_left hleft
  by_cases hentry : state.1.inputTimestamps[count].inUse = true ∧
      state.1.inputTimestamps[count].timestamps = ts
  · rw [if_pos hentry]
    obtain ⟨hreleased, herased⟩ := hok.release hlt hentry.1
    have hmem : ts ∈ state.1.contents := by
      rw [contents, Multiset.mem_coe, timesInUse_split hlt, hentry.1, hentry.2]
      simp
    rw [hentry.2] at herased
    refine ⟨hreleased, ⟨removed + 1, by simp only; omega, ?_⟩, ?_⟩
    · rw [hcontents, herased, Multiset.replicate_succ, Multiset.cons_add, ← Multiset.add_cons,
        Multiset.cons_erase hmem]
    · refine .inr ?_
      rintro ⟨index, hindex, hat⟩
      change (state.1.inputTimestamps.modify count fun entry => { entry with inUse := false })[index]? = _
        at hat
      rw [List.getElem?_modify] at hat
      by_cases hlast : count = index
      · subst hlast
        simp [hget] at hat
      · simp only [hlast, if_false, id_map'] at hat
        exact hnone ⟨index, by omega, hat⟩
  · rw [if_neg hentry]
    refine ⟨hok, ⟨removed, hbound, hcontents⟩, .inr ?_⟩
    rintro ⟨index, hindex, hat⟩
    by_cases hlast : index = count
    · subst hlast
      rw [hget, Option.some.injEq] at hat
      exact hentry ⟨by rw [hat], by rw [hat]⟩
    · exact hnone ⟨index, by omega, hat⟩

theorem Ok.removed (hok : table.Ok) (ts : Int) (bound count : Nat) (hcount : count ≤ timeSz) :
    Removed table ts bound count ((List.range count).foldl (removeStep ts) (table, bound)) := by
  induction count with
  | zero =>
    refine ⟨hok, ⟨0, Nat.zero_add _, by simp⟩, .inr ?_⟩
    rintro ⟨index, hindex, -⟩
    exact absurd hindex (Nat.not_lt_zero _)
  | succ count ih =>
    rw [List.range_succ, List.foldl_append]
    exact (ih (by omega)).step hcount

theorem Ok.remove (hok : table.Ok) (ts : Int) (isInterlaced : Bool) :
    (table.remove ts isInterlaced).Ok ∧ ∃ removed, removed ≤ numEntRemove isInterlaced ∧
      table.contents = Multiset.replicate removed ts + (table.remove ts isInterlaced).contents ∧
      (removed < numEntRemove isInterlaced → ts ∉ (table.remove ts isInterlaced).contents) := by
  obtain ⟨hafter, ⟨removed, hbound, hcontents⟩, hfound⟩ :=
    hok.removed ts (numEntRemove isInterlaced) timeSz (Nat.le_refl _)
  refine ⟨hafter, removed, by omega, hcontents, ?_⟩
  intro hless hmem
  rcases hfound with hzero | hnone
  · omega
  apply hnone
  rw [TimeStampList.remove, contents, Multiset.mem_coe, timesInUse, List.mem_map] at hmem
  obtain ⟨entry, hentry, rfl⟩ := hmem
  obtain ⟨hentryMem, hused⟩ := List.mem_filter.mp hentry
  obtain ⟨index, hindex⟩ := List.mem_iff_getElem?.mp hentryMem
  obtain ⟨hlt, -⟩ := List.getElem?_eq_some_iff.mp hindex
  refine ⟨index, by rw [← hafter.length]; exact hlt, ?_⟩
  rw [hindex, ← hused]

theorem Ok.remove_le (hok : table.Ok) (ts : Int) (isInterlaced : Bool) :
    (table.remove ts isInterlaced).contents ≤ table.contents := by
  obtain ⟨-, removed, -, hcontents, -⟩ := hok.remove ts isInterlaced
  rw [hcontents]
  exact Multiset.le_add_left _ _

/-! ### An interlaced `get_next_timestamp` -/

def Doubles (entries : List Timestamp) (selection : Selection) : Prop :=
  ∀ duplicate ∈ selection.duplicate, ∃ element ∈ selection.element,
    element.1 ≠ duplicate.1 ∧ duplicate.2 = element.2 ∧ element.1 < entries.length ∧
      ∃ hlt : duplicate.1 < entries.length, entries[duplicate.1] = ⟨duplicate.2, true⟩

theorem Doubles.append {entries : List Timestamp} {selection : Selection}
    (hdoubles : Doubles entries selection) (entry : Timestamp) : Doubles (entries ++ [entry]) selection := by
  intro duplicate hduplicate
  obtain ⟨element, helement, hne, htimes, hlt, hdupLt, hget⟩ := hdoubles duplicate hduplicate
  refine ⟨element, helement, hne, htimes, ?_, ?_, ?_⟩
  · rw [List.length_append]
    omega
  · rw [List.length_append]
    omega
  · rwa [List.getElem_append_left hdupLt]

theorem select_doubles (entries : List Timestamp) :
    Doubles entries (entries.zipIdx.foldl selectStep ⟨none, none⟩) := by
  induction entries using List.reverseRecOn with
  | nil => rintro _ ⟨⟩
  | append_singleton entries entry ih =>
    have hselects := select_selects entries
    rw [List.zipIdx_append, List.foldl_append]
    generalize entries.zipIdx.foldl selectStep ⟨none, none⟩ = selection at ih hselects
    simp only [List.zipIdx_singleton, Nat.zero_add, List.foldl_cons, List.foldl_nil, selectStep]
    have hkept := ih.append entry
    obtain ⟨element, duplicate⟩ := selection
    cases hused : entry.inUse with
    | false => exact hkept
    | true =>
      simp only [if_true]
      cases element with
      | none =>
        intro duplicate hduplicate
        obtain ⟨element, helement, -⟩ := ih duplicate hduplicate
        cases helement
      | some found =>
        dsimp only
        split_ifs with hless hsame
        · rintro _ ⟨⟩
        · rintro _ ⟨rfl⟩
          obtain ⟨hlt, hget⟩ := hselects.1
          refine ⟨found, rfl, by simp only; omega, hsame.symm, ?_, ?_, ?_⟩
          · rw [List.length_append]
            omega
          · simp
          · rw [List.getElem_concat_length rfl, ← hused]
        · exact hkept

theorem selectDuplicate_selects (entries : List Timestamp) :
    Selects entries (entries.zipIdx.foldl selectDuplicateStep none) := by
  induction entries using List.reverseRecOn with
  | nil => rfl
  | append_singleton entries entry ih =>
    rw [List.zipIdx_append, List.foldl_append]
    generalize entries.zipIdx.foldl selectDuplicateStep none = duplicate at ih
    simp only [List.zipIdx_singleton, Nat.zero_add, List.foldl_cons, List.foldl_nil, selectDuplicateStep]
    cases hused : entry.inUse with
    | false =>
      simp only [if_neg Bool.false_ne_true]
      cases duplicate with
      | none =>
        simp only [Selects] at ih ⊢
        simp [ih, hused]
      | some found => exact Selects.append ih (by simp [hused])
    | true =>
      simp only [if_true]
      cases duplicate with
      | none => exact Selects.last hused (by simp only [Selects] at ih; simp [ih])
      | some found =>
        dsimp only
        by_cases hless : found.2 > entry.timestamps
        · rw [if_pos hless]
          exact Selects.last hused fun other hother => (Int.le_of_lt hless).trans (ih.2 other hother)
        · rw [if_neg hless]
          exact Selects.append ih fun _ => Int.not_lt.mp hless

/-- What an interlaced read takes: the two least timestamps, or the only one. -/
inductive TakesTwoLeast (before : Multiset Int) (least : Int) (after : Multiset Int) : Prop
  | only (hbefore : before = {least}) (hafter : after = 0)
  | two (second : Int) (hbefore : before = least ::ₘ second ::ₘ after) (hle : least ≤ second)
    (hleast : ∀ other ∈ after, second ≤ other)

theorem Ok.release_selected (hok : table.Ok) {index : Nat} {least : Int}
    (hselects : Selects table.inputTimestamps (some (index, least))) :
    (table.release index).Ok ∧ table.contents = least ::ₘ (table.release index).contents ∧
      ∀ other ∈ table.contents, least ≤ other := by
  obtain ⟨⟨hlt, hget⟩, hle⟩ := hselects
  obtain ⟨hreleased, hcontents⟩ := hok.release hlt (by rw [hget])
  rw [hget] at hcontents
  have hmem : least ∈ table.contents := by
    rw [contents, Multiset.mem_coe, timesInUse_split hlt, hget]
    simp
  refine ⟨hreleased, ?_, fun other hother => hle other hother⟩
  rw [hcontents, Multiset.cons_erase hmem]

theorem Ok.takeNext_interlaced (hok : table.Ok) (hfilled : table.entriesFilled ≠ 0) :
    ∃ least, (table.takeNext true).2 = some least ∧ (table.takeNext true).1.Ok ∧
      TakesTwoLeast table.contents least (table.takeNext true).1.contents := by
  have hselects := select_selects table.inputTimestamps
  have hdoubles := select_doubles table.inputTimestamps
  change Selects _ table.select.element at hselects
  change Doubles _ table.select at hdoubles
  unfold TimeStampList.takeNext
  generalize table.select = selection at hselects hdoubles
  obtain ⟨element, duplicate⟩ := selection
  cases element with
  | none =>
    refine absurd hok.filled ?_
    rw [contents, show timesInUse table.inputTimestamps = [] from hselects]
    exact hfilled
  | some found =>
    obtain ⟨index, least⟩ := found
    obtain ⟨hreleased, hcontents, hle⟩ := hok.release_selected hselects
    simp only [if_true]
    cases duplicate with
    | some double =>
      obtain ⟨_, ⟨rfl⟩, hne, htimes, -, hlt, hget⟩ := hdoubles double rfl
      have hat : ∃ hlt : double.1 < (table.release index).inputTimestamps.length,
          (table.release index).inputTimestamps[double.1] = ⟨least, true⟩ := by
        refine ⟨by rw [hreleased.length, ← hok.length]; exact hlt, ?_⟩
        simp only [TimeStampList.release, List.getElem_modify, if_neg hne, hget, htimes]
      have hsecond : Selects (table.release index).inputTimestamps (some (double.1, least)) := by
        refine ⟨hat, fun other hother => hle other ?_⟩
        rw [hcontents]
        exact Multiset.mem_cons_of_mem hother
      obtain ⟨hlast, hrest, hsecondLe⟩ := hreleased.release_selected hsecond
      refine ⟨least, rfl, hlast, .two least ?_ (Int.le_refl _) ?_⟩
      · rw [hcontents, hrest]
      · intro other hother
        apply hsecondLe
        rw [hrest]
        exact Multiset.mem_cons_of_mem hother
    | none =>
      have hdouble := selectDuplicate_selects (table.release index).inputTimestamps
      change Selects _ (table.release index).selectDuplicate at hdouble
      simp only
      cases hsecond : (table.release index).selectDuplicate with
      | none =>
        rw [hsecond] at hdouble
        have hzero : (table.release index).contents = 0 := by
          rw [contents, show timesInUse _ = [] from hdouble]
          rfl
        refine ⟨least, rfl, hreleased, .only ?_ hzero⟩
        rw [hcontents, hzero]
        rfl
      | some double =>
        rw [hsecond] at hdouble
        obtain ⟨hlast, hrest, hsecondLe⟩ := hreleased.release_selected hdouble
        refine ⟨least, rfl, hlast, .two double.2 ?_ ?_ ?_⟩
        · rw [hcontents, hrest]
        · apply hle
          rw [hcontents, hrest]
          exact Multiset.mem_cons_of_mem (Multiset.mem_cons_self _ _)
        · intro other hother
          apply hsecondLe
          rw [hrest]
          exact Multiset.mem_cons_of_mem hother

end TimeStampList

end Nozomi
