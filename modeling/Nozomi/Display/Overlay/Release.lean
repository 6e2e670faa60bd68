import Nozomi.Display.Overlay.Exclusive

/-!
# What is released when

Two ways in which the bitmaps fall apart. `configDone` returns early when the usage bitmap is the one of
the last clean-up, whatever was acquired in between. A commit that fails clears the allocation bits of
all pipes of its display, also of those that are in use.
-/

namespace Nozomi

namespace Overlay

variable {numPipes : Nat} {overlay last : Overlay numPipes}

/-! ### The books of the pipes -/

def Consistent (overlay : Overlay numPipes) : Prop :=
  ∀ pipe, (overlay.mPipeBook pipe).mPipe = none ↔ (overlay.mPipeBook pipe).mDisplay = none

theorem consistent_init (pipeTypeLUT : Fin numPipes → MdpPipeType) :
    (init pipeTypeLUT).Consistent := by
  intro pipe
  simp [init, PipeBook.free]

theorem Consistent.eq_free_iff (hconsistent : overlay.Consistent) {pipe : Fin numPipes} :
    overlay.mPipeBook pipe = .free ↔ (overlay.mPipeBook pipe).mDisplay = none := by
  constructor
  · intro hfree
    rw [hfree, PipeBook.free]
  · intro hdisplay
    have hpipe := (hconsistent pipe).mpr hdisplay
    cases hbook : overlay.mPipeBook pipe with
    | mk mPipe mDisplay =>
      simp only [hbook] at hdisplay hpipe
      rw [hdisplay, hpipe, PipeBook.free]

theorem Consistent.handOut (hconsistent : overlay.Consistent) (dpy : Display) (pipe : Fin numPipes) :
    (overlay.handOut dpy pipe).Consistent := by
  intro other
  by_cases hother : other = pipe
  · simp [Overlay.handOut, acquire, hother]
  · rw [handOut_mPipeBook_of_ne hother]
    exact hconsistent other

theorem Consistent.call {request : Call numPipes} (hconsistent : overlay.Consistent)
    (hcall : overlay.call request = some last) : last.Consistent := by
  cases request with
  | commit dest accepted =>
    simp only [Overlay.call, Option.ite_none_right_eq_some, Option.some.injEq] at hcall
    intro pipe
    rw [← hcall.2, commit_mPipeBook]
    exact hconsistent pipe
  | nextPipe type dpy =>
    obtain rfl := Option.some.inj hcall
    obtain ⟨pipe, -, hnext⟩ | ⟨-, hnext⟩ := overlay.nextPipe_cases type dpy
    · rw [hnext]
      exact hconsistent.handOut dpy pipe
    · rwa [hnext]

theorem Consistent.configDone (hconsistent : overlay.Consistent) : overlay.configDone.Consistent := by
  intro pipe
  obtain ⟨-, hbook⟩ | ⟨-, hbook⟩ := overlay.configDone_mPipeBook pipe
  · simp [hbook, PipeBook.free]
  · rw [hbook]
    exact hconsistent pipe

/-! ### A round as a whole -/

def markUse (used : Finset (Fin numPipes)) : Call numPipes → Finset (Fin numPipes)
  | .nextPipe _ _ => used
  | .commit dest true => insert dest used
  | .commit dest false => used.erase dest

variable {calls : List (Call numPipes)}

theorem runSteps_call :
    ∀ overlay : Overlay numPipes, runSteps call overlay calls = some last → overlay.Consistent →
      last.Consistent ∧ last.sLastUsageBitmap = overlay.sLastUsageBitmap ∧
      last.sPipeUsageBitmap = calls.foldl markUse overlay.sPipeUsageBitmap ∧
      ∀ pipe, (last.mPipeBook pipe).mDisplay ≠ none ↔
        (overlay.mPipeBook pipe).mDisplay ≠ none ∨ pipe ∈ overlay.handedOut calls := by
  induction calls with
  | nil =>
    intro overlay hrun hconsistent
    obtain rfl := Option.some.inj hrun
    simp [hconsistent, handedOut, answers]
  | cons request calls ih =>
    intro overlay hrun hconsistent
    obtain ⟨next, hnext, hlast⟩ := runSteps_cons hrun
    obtain ⟨hlastConsistent, hsaved, hused, hheld⟩ := ih next hlast (hconsistent.call hnext)
    refine ⟨hlastConsistent, ?_⟩
    cases request with
    | commit dest accepted =>
      simp only [call, Option.ite_none_right_eq_some, Option.some.injEq] at hnext
      obtain ⟨-, rfl⟩ := hnext
      rw [commit_sLastUsageBitmap] at hsaved
      rw [commit_mPipeBook] at hheld
      refine ⟨hsaved, ?_, hheld⟩
      rw [hused]
      cases accepted <;> rfl
    | nextPipe type dpy =>
      obtain rfl := Option.some.inj hnext
      rw [handedOut, answers]
      obtain ⟨pipe, hfind, hanswer⟩ | ⟨-, hanswer⟩ := overlay.nextPipe_cases type dpy
      · rw [hanswer] at hsaved hused hheld ⊢
        refine ⟨hsaved, hused, fun other => ?_⟩
        rw [hheld other, List.reduceOption_cons_of_some, List.mem_cons]
        by_cases hother : other = pipe
        · simp [hother]
        · simp [hother, handedOut]
      · rw [hanswer] at hsaved hused hheld ⊢
        exact ⟨hsaved, hused, hheld⟩

theorem mem_foldl_markUse {pipe : Fin numPipes} :
    ∀ used, pipe ∈ calls.foldl markUse used → pipe ∈ used ∨ .commit pipe true ∈ calls := by
  induction calls with
  | nil => exact fun used hpipe => .inl hpipe
  | cons request calls ih =>
    intro used hpipe
    rcases ih _ hpipe with hused | hcommit
    · match request with
      | .nextPipe _ _ => exact .inl hused
      | .commit dest true =>
        rcases Finset.mem_insert.mp hused with rfl | hused
        · exact .inr List.mem_cons_self
        · exact .inl hused
      | .commit dest false => exact .inl (Finset.mem_of_mem_erase hused)
    · exact .inr (List.mem_cons_of_mem _ hcommit)

/-! ### The end of a round -/

/-- Behind the round every pipe that it did not commit is free, and available to any display. -/
def FreesUncommitted (overlay : Overlay numPipes) (calls : List (Call numPipes)) : Prop :=
  ∀ last, overlay.runRound calls = some last → ∀ pipe, .commit pipe true ∉ calls →
    last.mPipeBook pipe = .free ∧ ∀ dpy, last.configBegin.isAvailable dpy pipe = true

/-- The round ends with other pipes in use than at the last clean-up, or it commits every pipe that a
display held before it or is given in it. -/
def CleansUp (overlay : Overlay numPipes) (calls : List (Call numPipes)) : Prop :=
  calls.foldl markUse ∅ ≠ overlay.sLastUsageBitmap ∨
    ∀ pipe, (overlay.mPipeBook pipe).mDisplay ≠ none ∨ pipe ∈ overlay.configBegin.handedOut calls →
      .commit pipe true ∈ calls

instance (overlay : Overlay numPipes) (calls : List (Call numPipes)) :
    Decidable (overlay.CleansUp calls) :=
  inferInstanceAs (Decidable (_ ∨ _))

theorem isAvailable_configBegin_of_free {pipe : Fin numPipes} (hfree : overlay.mPipeBook pipe = .free)
    (dpy : Display) : overlay.configBegin.isAvailable dpy pipe = true := by
  simp [isAvailable_iff, configBegin, hfree, PipeBook.free]

theorem freesUncommitted_iff (hconsistent : overlay.Consistent) (hround : overlay.runRound calls = some last) :
    overlay.FreesUncommitted calls ↔ overlay.CleansUp calls := by
  obtain ⟨between, hcalls, rfl⟩ := Option.map_eq_some_iff.mp hround
  obtain ⟨hbetween, hsaved, hused, hheld⟩ := runSteps_call overlay.configBegin hcalls hconsistent
  have hbook := between.configDone_mPipeBook
  have hfrees : overlay.FreesUncommitted calls ↔ ∀ pipe, .commit pipe true ∉ calls →
      between.configDone.mPipeBook pipe = .free := by
    simp only [FreesUncommitted, hround, Option.some.injEq, forall_eq']
    exact forall₂_congr fun pipe _ =>
      and_iff_left_of_imp fun hfree => isAvailable_configBegin_of_free hfree
  rw [hfrees, CleansUp]
  by_cases hunchanged : calls.foldl markUse ∅ = overlay.sLastUsageBitmap
  · -- The clean-up is skipped, so that a pipe is free only if no display held it.
    have hkept : ∀ pipe, between.configDone.mPipeBook pipe = between.mPipeBook pipe := by
      intro pipe
      obtain ⟨⟨hchanged, -⟩, -⟩ | ⟨-, hkept⟩ := hbook pipe
      · rw [hused, hsaved] at hchanged
        exact absurd hunchanged hchanged
      · exact hkept
    simp only [hunchanged, ne_eq, not_true, false_or]
    refine forall_congr' fun pipe => ?_
    rw [hkept, hbetween.eq_free_iff, ← not_imp_not, not_not, ← ne_eq, hheld pipe]
    rfl
  · have hfreed : ∀ pipe, .commit pipe true ∉ calls → between.configDone.mPipeBook pipe = .free := by
      intro pipe huncommitted
      obtain ⟨-, hfree⟩ | ⟨hkept, -⟩ := hbook pipe
      · exact hfree
      · refine absurd ⟨?_, ?_⟩ hkept
        · rwa [hused, hsaved]
        · rw [hused]
          intro hpipe
          rcases mem_foldl_markUse _ hpipe with hempty | hcommit
          · exact absurd hempty (Finset.notMem_empty pipe)
          · exact huncommitted hcommit
    exact ⟨fun _ => .inl hunchanged, fun _ => hfreed⟩

/-- In a history of rounds each `configDone` frees what its round did not commit exactly if each round
changes the pipes in use or commits all that is held. -/
theorem configDone_freesUncommitted_iff (pipeTypeLUT : Fin numPipes → MdpPipeType)
    {rounds : List (List (Call numPipes))}
    (hrounds : (runSteps runRound (init pipeTypeLUT) rounds).isSome) :
    RunMeets runRound FreesUncommitted (init pipeTypeLUT) rounds ↔
      RunMeets runRound CleansUp (init pipeTypeLUT) rounds := by
  obtain ⟨last, hlast⟩ := Option.isSome_iff_exists.mp hrounds
  refine runMeets_congr Consistent ?_ ?_ _ (consistent_init pipeTypeLUT) hlast
  · intro overlay calls next hconsistent hround
    obtain ⟨between, hcalls, rfl⟩ := Option.map_eq_some_iff.mp hround
    exact (runSteps_call overlay.configBegin hcalls hconsistent).1.configDone
  · exact fun overlay calls next hconsistent hround => freesUncommitted_iff hconsistent hround

/-- The primary display keeps one pipe in use, then gives it up for one round. -/
theorem configDone_freesUncommitted_changing :
    RunMeets runRound FreesUncommitted (init (initOverlay 2 2 0))
      [[.nextPipe .any .primary, .commit 0 true], [.nextPipe .any .external]] :=
  (configDone_freesUncommitted_iff (initOverlay 2 2 0) (by decide)).mpr (by decide)

/-- The external display acquires a pipe and commits nothing, while the primary display goes on using
its pipe. -/
theorem configDone_keepsUncommitted :
    ¬∀ rounds : List (List (Call 4)), (runSteps runRound (init (initOverlay 2 2 0)) rounds).isSome →
      RunMeets runRound FreesUncommitted (init (initOverlay 2 2 0)) rounds := by
  intro hfrees
  have hround := hfrees [[.nextPipe .any .primary, .commit 0 true],
    [.nextPipe .any .external, .nextPipe .any .primary, .commit 0 true]] (by decide)
  obtain ⟨-, hround⟩ := hround
  have hpipe := ((hround _ rfl).1 _ rfl 1 (by decide)).1
  revert hpipe
  decide

/-! ### A commit that fails -/

/-- A commit that succeeds is of a pipe that was handed out and not released since; one that fails
comes when its display has no other pipe in use. -/
def KeepsAllocated (overlay : Overlay numPipes) : Call numPipes → Prop
  | .nextPipe _ _ => True
  | .commit dest true => dest ∈ overlay.sAllocatedBitmap
  | .commit dest false => ∀ pipe ∈ overlay.sPipeUsageBitmap, pipe ≠ dest →
      (overlay.mPipeBook pipe).mDisplay ≠ (overlay.mPipeBook dest).mDisplay

instance (overlay : Overlay numPipes) : ∀ request, Decidable (overlay.KeepsAllocated request)
  | .nextPipe _ _ => isTrue trivial
  | .commit _ true => inferInstanceAs (Decidable (_ ∈ _))
  | .commit _ false => inferInstanceAs (Decidable (∀ pipe ∈ overlay.sPipeUsageBitmap, _))

theorem KeepsAllocated.subset {request : Call numPipes} (hkeeps : overlay.KeepsAllocated request)
    (hsubset : overlay.sPipeUsageBitmap ⊆ overlay.sAllocatedBitmap)
    (hcall : overlay.call request = some last) :
    last.sPipeUsageBitmap ⊆ last.sAllocatedBitmap := by
  match request with
  | .nextPipe type dpy =>
    obtain rfl := Option.some.inj hcall
    obtain ⟨pipe, -, hnext⟩ | ⟨-, hnext⟩ := overlay.nextPipe_cases type dpy
    · rw [hnext]
      exact hsubset.trans (Finset.subset_insert pipe _)
    · rwa [hnext]
  | .commit dest true =>
    simp only [call, Option.ite_none_right_eq_some, Option.some.injEq] at hcall
    obtain ⟨-, rfl⟩ := hcall
    exact Finset.insert_subset hkeeps hsubset
  | .commit dest false =>
    simp only [call, Option.ite_none_right_eq_some, Option.some.injEq] at hcall
    obtain ⟨-, rfl⟩ := hcall
    intro pipe hpipe
    obtain ⟨hne, hused⟩ := Finset.mem_erase.mp hpipe
    exact Finset.mem_filter.mpr ⟨hsubset hused, hkeeps pipe hused hne⟩

/-- In a round whose calls all keep what is in use allocated, no request is answered with a pipe that is
in use, before or after a commit that fails. -/
theorem nextPipe_notUsed (start : Overlay numPipes) {calls : List (Call numPipes)}
    (hkeeps : RunMeets call KeepsAllocated start.configBegin calls) :
    ∀ before type dpy after state pipe, calls = before ++ .nextPipe type dpy :: after →
      runSteps call start.configBegin before = some state →
      (state.nextPipe type dpy).2 = some pipe → pipe ∉ state.sPipeUsageBitmap := by
  rintro before type dpy after state pipe rfl hbefore hpipe hused
  have hsubset : state.sPipeUsageBitmap ⊆ state.sAllocatedBitmap := by
    refine runSteps_state_of_meets (fun state => state.sPipeUsageBitmap ⊆ state.sAllocatedBitmap) ?_
      (hkeeps.of_append _) (Finset.empty_subset _) hbefore
    exact fun state request next hrequest hsubset hnext => hrequest.subset hsubset hnext
  have havailable := isAvailable_of_findPipe (findPipe_of_nextPipe hpipe).1
  exact (isAvailable_iff.mp havailable).2 (hsubset hused)

/-- The external display commits one pipe, then a commit of the primary display fails. -/
theorem nextPipe_notUsed_externalUsed :
    ∃ state : Overlay 4,
      runSteps call (init (initOverlay 2 2 0)).configBegin
        [.nextPipe .any .external, .commit 0 true, .nextPipe .any .primary, .commit 1 false] =
          some state ∧
      (state.nextPipe .any .primary).2 = some 1 ∧ 1 ∉ state.sPipeUsageBitmap := by
  have hkeeps : RunMeets call KeepsAllocated (init (initOverlay 2 2 0)).configBegin
      [.nextPipe .any .external, .commit 0 true, .nextPipe .any .primary, .commit 1 false,
        .nextPipe .any .primary] := by decide
  refine ⟨_, rfl, by decide, ?_⟩
  exact nextPipe_notUsed (init (initOverlay 2 2 0)) hkeeps
    [.nextPipe .any .external, .commit 0 true, .nextPipe .any .primary, .commit 1 false] .any .primary []
    _ 1 rfl rfl (by decide)

/-- The primary display commits one pipe, fails to commit the next, and is given the first one again. -/
theorem nextPipe_reusesUsed :
    ¬∀ (start : Overlay 4) before dest after type dpy state pipe,
      runSteps call start.configBegin (before ++ .commit dest false :: after) = some state →
      (state.nextPipe type dpy).2 = some pipe → pipe ∉ state.sPipeUsageBitmap := by
  intro hunused
  have hpipe := hunused (init (initOverlay 2 2 0))
    [.nextPipe .any .primary, .nextPipe .any .primary, .commit 0 true] 1 [] .any .primary _ 0 rfl
  revert hpipe
  decide

end Overlay

end Nozomi
