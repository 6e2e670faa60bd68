import Nozomi.Audio.Effects.VolumeListener
import Nozomi.Base.Run

/-!
# Calls of the volume listener library

An effect is released by the key that it shares with others: its uuid, its session and its stream type. A call
that does not return its lock lets none of the later ones return.
-/

namespace Nozomi

open AudioDevices VolListener

/-! ### The loop of a release -/

/-- `reused` is what the memory of a context holds after `free`. -/
structure ReleaseLoop where
  contexts : EffectHandle → VolListenerContext
  volEffectList : List EffectHandle
  status : Int
  recompute : Bool
  activeStreamCount : Nat
  freed : List EffectHandle
  readsFreed : Bool

namespace ReleaseLoop

def start (listener : VolListener) : ReleaseLoop :=
  ⟨listener.contexts, listener.volEffectList, -1, false, 0, [], false⟩

def visit (reused : EffectHandle → VolListenerContext) (handle : EffectHandle) (loop : ReleaseLoop)
    (node : EffectHandle) : ReleaseLoop :=
  let context := loop.contexts node
  let loop := { loop with readsFreed := loop.readsFreed || node ∈ loop.freed || handle ∈ loop.freed }
  if sameEffect context (loop.contexts handle) then
    { loop with
      contexts := Function.update loop.contexts node (reused node)
      volEffectList := loop.volEffectList.erase node
      status := 0
      recompute := loop.recompute || context.devId = outSpeaker
      freed := loop.freed ++ [node] }
  else { loop with activeStreamCount := loop.activeStreamCount + 1 }

end ReleaseLoop

namespace VolListener

variable (send : SendGainDepCal) (listener : VolListener) (reused : EffectHandle → VolListenerContext)

def releaseLoop (handle : EffectHandle) : ReleaseLoop :=
  listener.volEffectList.foldl (ReleaseLoop.visit reused handle) (.start listener)

def resetIf (reset : Bool) : VolListener :=
  if reset then { listener with currentGainDepCalLevel := -1, currentVol := 0 } else listener

/-- The handle is read where there is an effect to compare it with. -/
def volPrcLibReleaseFreeing (handle : Option EffectHandle) : Option (Int × VolListener) :=
  if listener.locked then none
  else if listener.volEffectList = [] then some (-1, listener.resetIf true)
  else
    match handle with
    | none => none
    | some handle =>
      if handle ∉ listener.volEffectList then none
      else
        let loop := listener.releaseLoop reused handle
        let left := { listener with contexts := loop.contexts, volEffectList := loop.volEffectList }
        some (loop.status, (left.resetIf (loop.activeStreamCount = 0)).recomputeIf send loop.recompute)

def volEffectProcess (self : Option EffectHandle) (hasBuffers : Bool) : Option (Int × VolListener) :=
  if listener.locked then none
  else
    match self with
    | none => none
    | some handle =>
      if handle ∉ listener.volEffectList then none
      else if (listener.contexts handle).state ≠ .active then some (-einval, listener)
      else if hasBuffers then some (0, listener)
      else none

def volEffectGetDescriptor (self : Option EffectHandle) (hasDescriptor : Bool) : Option (Int × VolListener) :=
  if !hasDescriptor then some (-einval, listener)
  else if ∃ handle ∈ self, handle ∈ listener.volEffectList then some (0, listener)
  else none

def volPrcLibGetDescriptor (uuid : Option EffectUuid) (hasDescriptor : Bool) : Option (Int × VolListener) :=
  if hasDescriptor ∧ ∃ known ∈ VolDescriptor.descriptors, uuid = some known.uuid then some (0, listener)
  else some (-einval, listener)

end VolListener

inductive VolLibCall where
  | create (uuid : Option EffectUuid) (sessionId : Int) (hasHandle callocSucceeds : Bool)
  | release (handle : Option EffectHandle) (reused : EffectHandle → VolListenerContext)
  | libGetDescriptor (uuid : Option EffectUuid) (hasDescriptor : Bool)
  | command (self : Option EffectHandle) (command : VolCommand) (args : VolCommandArgs)
  | process (self : Option EffectHandle) (hasBuffers : Bool)
  | getDescriptor (self : Option EffectHandle) (hasDescriptor : Bool)

namespace VolListener

theorem sameEffect_self (context : VolListenerContext) : sameEffect context context := by
  simp [sameEffect]

variable (send : SendGainDepCal)

def libCall (listener : VolListener) : VolLibCall → Option (Int × VolListener)
  | .create uuid sessionId hasHandle callocSucceeds =>
    listener.volPrcLibCreate uuid sessionId hasHandle callocSucceeds
  | .release handle reused => listener.volPrcLibReleaseFreeing send reused handle
  | .libGetDescriptor uuid hasDescriptor => listener.volPrcLibGetDescriptor uuid hasDescriptor
  | .command self command args => listener.volEffectCommand send self command args
  | .process self hasBuffers => listener.volEffectProcess self hasBuffers
  | .getDescriptor self hasDescriptor => listener.volEffectGetDescriptor self hasDescriptor

def libStep (listener : VolListener) (call : VolLibCall) : Option VolListener :=
  (listener.libCall send call).map Prod.snd

end VolListener

/-! ### What the loop does -/

/-- The loop behind some of the effects. Until it reaches the handle, those with its key are freed. -/
structure Visited (listener : VolListener) (handle : EffectHandle) (visited rest : List EffectHandle)
    (loop : ReleaseLoop) : Prop where
  list_eq : loop.volEffectList = visited.filter (· ∉ loop.freed) ++ rest
  count_eq : loop.activeStreamCount = (visited.filter (· ∉ loop.freed)).length
  contexts_eq : ∀ node, node ∉ loop.freed → loop.contexts node = listener.contexts node
  freed_visited : ∀ node ∈ loop.freed, node ∈ visited
  freed_iff : handle ∉ visited → ∀ node ∈ visited,
    (node ∈ loop.freed ↔ sameEffect (listener.contexts node) (listener.contexts handle))
  readsFreed_eq : handle ∉ visited → loop.readsFreed = false
  freed_handle : handle ∈ visited → handle ∈ loop.freed
  status_eq : loop.status = if loop.freed = [] then -1 else 0

namespace Visited

variable {listener : VolListener} {reused : EffectHandle → VolListenerContext} {handle node : EffectHandle}
  {visited rest : List EffectHandle} {loop : ReleaseLoop}

theorem start : Visited listener handle [] listener.volEffectList (.start listener) :=
  ⟨rfl, rfl, fun _ _ => rfl, fun _ hfreed => hfreed, fun _ _ hnode => absurd hnode List.not_mem_nil, fun _ => rfl,
    fun hhandle => absurd hhandle List.not_mem_nil, rfl⟩

theorem filter_free (hfresh : node ∉ visited) (freed : List EffectHandle) :
    (visited ++ [node]).filter (· ∉ freed ++ [node]) = visited.filter (· ∉ freed) := by
  rw [List.filter_append, List.filter_singleton, decide_eq_false (by simp), cond_false, List.append_nil]
  apply List.filter_congr
  intro other hother
  have hne : other ≠ node := fun heq => hfresh (heq ▸ hother)
  simp [hne]

theorem handle_unfreed (hvisited : Visited listener handle visited rest loop) (hhandle : handle ∉ visited ++ [node]) :
    handle ∉ visited ∧ handle ≠ node ∧ handle ∉ loop.freed := by
  have hunvisited : handle ∉ visited := fun hmem => hhandle (List.mem_append_left _ hmem)
  exact ⟨hunvisited, fun heq => hhandle (heq ▸ List.mem_append_right _ List.mem_cons_self),
    fun hfreed => hunvisited (hvisited.freed_visited handle hfreed)⟩

variable (hvisited : Visited listener handle visited (node :: rest) loop) (hfresh : node ∉ visited)

include hvisited hfresh

theorem readsFreed_visit (hhandle : handle ∉ visited ++ [node]) :
    (loop.readsFreed || decide (node ∈ loop.freed) || decide (handle ∈ loop.freed)) = false := by
  obtain ⟨hunvisited, -, hunfreed⟩ := hvisited.handle_unfreed hhandle
  have hkept : node ∉ loop.freed := fun hfreed => hfresh (hvisited.freed_visited node hfreed)
  simp [hvisited.readsFreed_eq hunvisited, hkept, hunfreed]

theorem sameEffect_visit (hhandle : handle ∉ visited ++ [node]) :
    sameEffect (loop.contexts node) (loop.contexts handle) =
      sameEffect (listener.contexts node) (listener.contexts handle) := by
  have hkept : node ∉ loop.freed := fun hfreed => hfresh (hvisited.freed_visited node hfreed)
  rw [hvisited.contexts_eq node hkept, hvisited.contexts_eq handle (hvisited.handle_unfreed hhandle).2.2]

theorem visit_same (hsame : sameEffect (loop.contexts node) (loop.contexts handle)) :
    Visited listener handle (visited ++ [node]) rest (loop.visit reused handle node) := by
  unfold ReleaseLoop.visit
  rw [if_pos hsame]
  refine ⟨?_, ?_, ?_, ?_, ?_, hvisited.readsFreed_visit hfresh, ?_, ?_⟩
  · rw [filter_free hfresh]
    dsimp only
    rw [hvisited.list_eq, List.erase_append_right _ (fun hmem => hfresh (List.mem_filter.mp hmem).1),
      List.erase_cons_head]
  · exact hvisited.count_eq.trans (by rw [filter_free hfresh])
  · intro other hother
    have hne : other ≠ node := fun heq => hother (heq ▸ List.mem_append_right _ List.mem_cons_self)
    exact (Function.update_of_ne hne _ _).trans
      (hvisited.contexts_eq other fun hfreed => hother (List.mem_append_left _ hfreed))
  · intro other hother
    obtain hfreed | hnode := List.mem_append.mp hother
    · exact List.mem_append_left _ (hvisited.freed_visited other hfreed)
    · exact List.mem_append_right _ hnode
  · intro hhandle other hother
    obtain hbefore | hnode := List.mem_append.mp hother
    · have hne : other ≠ node := fun heq => hfresh (heq ▸ hbefore)
      simpa [hne] using hvisited.freed_iff (hvisited.handle_unfreed hhandle).1 other hbefore
    · obtain rfl := List.mem_singleton.mp hnode
      rw [← hvisited.sameEffect_visit hfresh hhandle]
      simp [hsame]
  · intro hhandle
    obtain hbefore | hnode := List.mem_append.mp hhandle
    · exact List.mem_append_left _ (hvisited.freed_handle hbefore)
    · exact List.mem_append_right _ hnode
  · simp

theorem visit_other (hother : ¬ sameEffect (loop.contexts node) (loop.contexts handle)) :
    Visited listener handle (visited ++ [node]) rest (loop.visit reused handle node) := by
  have hkept : node ∉ loop.freed := fun hfreed => hfresh (hvisited.freed_visited node hfreed)
  have hfilter : (visited ++ [node]).filter (· ∉ loop.freed) = visited.filter (· ∉ loop.freed) ++ [node] := by
    rw [List.filter_append, List.filter_singleton, decide_eq_true hkept, cond_true]
  unfold ReleaseLoop.visit
  rw [if_neg hother]
  refine ⟨?_, ?_, hvisited.contexts_eq, ?_, ?_, hvisited.readsFreed_visit hfresh, ?_, hvisited.status_eq⟩
  · rw [hfilter, List.append_assoc]
    exact hvisited.list_eq
  · rw [hfilter, List.length_append, ← hvisited.count_eq]
    rfl
  · exact fun freed hfreed => List.mem_append_left _ (hvisited.freed_visited freed hfreed)
  · intro hhandle listed hlisted
    obtain hbefore | hnode := List.mem_append.mp hlisted
    · exact hvisited.freed_iff (hvisited.handle_unfreed hhandle).1 listed hbefore
    · obtain rfl := List.mem_singleton.mp hnode
      rw [← hvisited.sameEffect_visit hfresh hhandle]
      exact ⟨fun hfreed => absurd hfreed hkept, fun hsame => absurd hsame hother⟩
  · intro hhandle
    obtain hbefore | hnode := List.mem_append.mp hhandle
    · exact hvisited.freed_handle hbefore
    · obtain rfl := List.mem_singleton.mp hnode
      exact absurd (sameEffect_self _) hother

theorem visit : Visited listener handle (visited ++ [node]) rest (loop.visit reused handle node) := by
  by_cases hsame : sameEffect (loop.contexts node) (loop.contexts handle)
  · exact hvisited.visit_same hfresh hsame
  · exact hvisited.visit_other hfresh hsame

omit hvisited hfresh

theorem foldl_visit : ∀ {rest visited : List EffectHandle} {loop : ReleaseLoop} (after : List EffectHandle),
    Visited listener handle visited (rest ++ after) loop → (visited ++ rest).Nodup →
      Visited listener handle (visited ++ rest) after (rest.foldl (ReleaseLoop.visit reused handle) loop)
  | [], visited, loop, after, hvisited, _ => by simpa using hvisited
  | node :: rest, visited, loop, after, hvisited, hnodup => by
    have hfresh : node ∉ visited := fun hmem =>
      (List.nodup_append.mp hnodup).2.2 node hmem node List.mem_cons_self rfl
    have hnext : Visited listener handle (visited ++ [node]) (rest ++ after) (loop.visit reused handle node) :=
      hvisited.visit hfresh
    simpa using foldl_visit after hnext (by simpa using hnodup)

end Visited

/-! ### Releasing one effect -/

namespace VolListener

/-- The context of the handle alone is freed, the others stay in their order, and neither the loop nor
`check_and_set_gain_dep_cal` behind it reads freed memory. -/
def ReleasesExactly (listener : VolListener) (reused : EffectHandle → VolListenerContext) (handle : EffectHandle) :
    Prop :=
  let loop := listener.releaseLoop reused handle
  loop.freed = [handle] ∧ loop.volEffectList = listener.volEffectList.erase handle ∧
    (∀ other, other ≠ handle → loop.contexts other = listener.contexts other) ∧ loop.readsFreed = false ∧
    ∀ node ∈ loop.volEffectList, node ∉ loop.freed

/-- The effect is the last of the list, and no other has its uuid and its session. -/
def StandsAlone (listener : VolListener) (handle : EffectHandle) : Prop :=
  listener.volEffectList.getLast? = some handle ∧
    ∀ other ∈ listener.volEffectList, sameEffect (listener.contexts other) (listener.contexts handle) → other = handle

variable {listener : VolListener} {handle : EffectHandle} (reused : EffectHandle → VolListenerContext)

theorem visited_releaseLoop (hnodup : listener.volEffectList.Nodup) :
    Visited listener handle listener.volEffectList [] (listener.releaseLoop reused handle) := by
  have hstart : Visited listener handle [] (listener.volEffectList ++ []) (.start listener) := by
    simpa using Visited.start
  exact hstart.foldl_visit [] hnodup

theorem readsFreed_mono (loop : ReleaseLoop) (hreads : loop.readsFreed = true) (node : EffectHandle) :
    (loop.visit reused handle node).readsFreed = true := by
  simp only [ReleaseLoop.visit, hreads, Bool.true_or]
  split <;> rfl

theorem freed_subset_visit (loop : ReleaseLoop) (node : EffectHandle) :
    loop.freed ⊆ (loop.visit reused handle node).freed := by
  simp only [ReleaseLoop.visit]
  split
  · exact List.subset_append_left _ _
  · exact List.Subset.refl _

theorem readsFreed_foldl (nodes : List EffectHandle) (loop : ReleaseLoop) (hreads : loop.readsFreed = true) :
    (nodes.foldl (ReleaseLoop.visit reused handle) loop).readsFreed = true := by
  induction nodes generalizing loop with
  | nil => exact hreads
  | cons node nodes ih => exact ih _ (readsFreed_mono reused loop hreads node)

theorem visited_split {before after : List EffectHandle} (hlist : listener.volEffectList = before ++ handle :: after)
    (hnodup : listener.volEffectList.Nodup) :
    ∃ loop, Visited listener handle before (handle :: after) loop ∧
      listener.releaseLoop reused handle =
        after.foldl (ReleaseLoop.visit reused handle) (loop.visit reused handle handle) := by
  refine ⟨before.foldl (ReleaseLoop.visit reused handle) (.start listener), ?_, ?_⟩
  · have hstart : Visited listener handle [] (before ++ handle :: after) (.start listener) := hlist ▸ Visited.start
    exact hstart.foldl_visit _ (List.nodup_append.mp (hlist ▸ hnodup)).1
  · rw [releaseLoop, hlist, List.foldl_append, List.foldl_cons]

theorem ReleasesExactly.standsAlone (hnodup : listener.volEffectList.Nodup)
    (hreleases : listener.ReleasesExactly reused handle) : listener.StandsAlone handle := by
  obtain ⟨hfreed, -, -, hreads, -⟩ := hreleases
  have hall := @visited_releaseLoop listener handle reused hnodup
  have hlisted : handle ∈ listener.volEffectList := hall.freed_visited handle (by simp [hfreed])
  obtain ⟨before, after, hlist⟩ := List.append_of_mem hlisted
  obtain ⟨loop, hvisited, hloop⟩ := visited_split reused hlist hnodup
  have hbefore : handle ∉ before := fun hmem =>
    (List.nodup_append.mp (hlist ▸ hnodup)).2.2 handle hmem handle List.mem_cons_self rfl
  rw [hloop] at hfreed hreads
  cases after with
  | cons next after =>
    -- the next effect is compared with the handle, which is free by now
    have hhandle : handle ∈ (loop.visit reused handle handle).freed :=
      (hvisited.visit hbefore).freed_handle (List.mem_append_right _ List.mem_cons_self)
    have hread : ((loop.visit reused handle handle).visit reused handle next).readsFreed = true := by
      generalize loop.visit reused handle handle = visited at hhandle
      simp only [ReleaseLoop.visit, hhandle, decide_true, Bool.or_true]
      split <;> rfl
    rw [List.foldl_cons, readsFreed_foldl reused after _ hread] at hreads
    cases hreads
  | nil =>
    refine ⟨by rw [hlist, List.getLast?_concat], fun other hother hsame => ?_⟩
    obtain hmem | hmem := List.mem_append.mp (hlist ▸ hother)
    · have hlost : other ∈ (loop.visit reused handle handle).freed :=
        freed_subset_visit reused loop handle ((hvisited.freed_iff hbefore other hmem).2 hsame)
      exact List.mem_singleton.mp (hfreed ▸ hlost)
    · exact List.mem_singleton.mp hmem

theorem StandsAlone.releasesExactly (hnodup : listener.volEffectList.Nodup)
    (halone : listener.StandsAlone handle) : listener.ReleasesExactly reused handle := by
  obtain ⟨hlast, hunique⟩ := halone
  obtain ⟨before, hlist⟩ := List.getLast?_eq_some_iff.mp hlast
  obtain ⟨loop, hvisited, hloop⟩ := visited_split reused hlist hnodup
  have hbefore : handle ∉ before := fun hmem =>
    (List.nodup_append.mp (hlist ▸ hnodup)).2.2 handle hmem handle List.mem_cons_self rfl
  have hnone : loop.freed = [] := by
    refine List.eq_nil_iff_forall_not_mem.mpr fun other hother => ?_
    have hmem := hvisited.freed_visited other hother
    have hsame := (hvisited.freed_iff hbefore other hmem).1 hother
    exact hbefore (hunique other (hlist ▸ List.mem_append_left _ hmem) hsame ▸ hmem)
  have hloopList : loop.volEffectList = listener.volEffectList := by
    rw [hvisited.list_eq, hlist, hnone]
    simp
  have hfinal : listener.releaseLoop reused handle = { loop with
      contexts := Function.update loop.contexts handle (reused handle)
      volEffectList := listener.volEffectList.erase handle
      status := 0
      recompute := loop.recompute || (loop.contexts handle).devId = outSpeaker
      freed := [handle] } := by
    rw [hloop, List.foldl_nil, ReleaseLoop.visit, if_pos (sameEffect_self _), hnone, hloopList]
    simp
  unfold ReleasesExactly
  rw [hfinal]
  refine ⟨rfl, rfl, fun other hne => ?_, hvisited.readsFreed_eq hbefore, fun node hnode hfreed => ?_⟩
  · exact (Function.update_of_ne hne _ _).trans (hvisited.contexts_eq other (by simp [hnone]))
  · exact ((List.Nodup.mem_erase_iff hnodup).mp hnode).1 (List.mem_singleton.mp hfreed)

/-! ### Memory that keeps its contents -/

theorem foldl_visit_kept (nodes : List EffectHandle) (loop : ReleaseLoop)
    (hcontexts : loop.contexts = listener.contexts) :
    let last := nodes.foldl (ReleaseLoop.visit listener.contexts handle) loop
    let same := nodes.filter fun node => sameEffect (listener.contexts node) (listener.contexts handle)
    last.contexts = listener.contexts ∧ last.freed = loop.freed ++ same ∧
      last.recompute = (loop.recompute || same.any fun node => (listener.contexts node).devId = outSpeaker) := by
  induction nodes generalizing loop with
  | nil => simp [hcontexts]
  | cons node nodes ih =>
    have hnext : (loop.visit listener.contexts handle node).contexts = listener.contexts := by
      simp only [ReleaseLoop.visit, hcontexts, Function.update_eq_self]
      split <;> rfl
    obtain ⟨hlast, hfreed, hrecompute⟩ := ih _ hnext
    refine ⟨hlast, hfreed.trans ?_, hrecompute.trans ?_⟩
    all_goals
      simp only [ReleaseLoop.visit, hcontexts, List.filter_cons]
      split <;> simp [Bool.or_assoc]

/-- Where `free` leaves the memory as it is, all effects of the key are removed. -/
theorem release_kept (send : SendGainDepCal) (hnodup : listener.volEffectList.Nodup)
    (hmem : handle ∈ listener.volEffectList) :
    listener.volPrcLibReleaseFreeing send listener.contexts (some handle) = listener.volPrcLibRelease send handle := by
  obtain ⟨hcontexts, hfreed, hrecompute⟩ :=
    @foldl_visit_kept listener handle listener.volEffectList (.start listener) rfl
  have hvisited := @visited_releaseLoop listener handle listener.contexts hnodup
  have hfilter : listener.volEffectList.filter (· ∉ (listener.releaseLoop listener.contexts handle).freed) =
      listener.volEffectList.filter fun node => !sameEffect (listener.contexts node) (listener.contexts handle) := by
    apply List.filter_congr
    intro node hnode
    rw [releaseLoop, hfreed]
    simp [ReleaseLoop.start, hnode]
  have hlist := hvisited.list_eq.trans (by rw [hfilter, List.append_nil])
  have hcount := hvisited.count_eq.trans (by rw [hfilter])
  have hstatus := hvisited.status_eq
  unfold releaseLoop at hlist hcount hstatus
  rw [hfreed] at hstatus
  unfold volPrcLibReleaseFreeing volPrcLibRelease
  cases hlocked : listener.locked with
  | true => rfl
  | false =>
    simp only [Bool.false_eq_true, if_false, if_neg (List.ne_nil_of_mem hmem), hmem, not_true_eq_false, decide_false,
      Bool.or_self]
    unfold releaseLoop
    rw [hstatus, hrecompute, hlist, hcount, hcontexts]
    unfold removed remove resetIf recomputeIf
    simp only [ReleaseLoop.start, List.nil_append, Bool.false_or, List.length_eq_zero_iff, decide_eq_true_eq, hlocked]
    rfl

def threeEffects : VolListener :=
  { initOnce with
    contexts := fun handle => ⟨.music, 3, if handle = 2 then 8 else 7, .initialized, 0, 0, 0⟩
    volEffectList := [0, 1, 2] }

/-- The first effect of a session is freed before the second is compared with it. -/
theorem release_kept_sessions :
    threeEffects.volPrcLibReleaseFreeing none threeEffects.contexts (some 0) =
        threeEffects.volPrcLibRelease none 0 ∧
      threeEffects.removed 0 = [0, 1] :=
  ⟨release_kept none (by decide) (by decide), by decide⟩

/-! ### What calls leave -/

/-- The list, and what is listed, after a call. -/
structure Listed (listener : VolListener) : Prop where
  nodup : listener.volEffectList.Nodup
  lt_allocated : ∀ handle ∈ listener.volEffectList, handle < listener.allocated
  initialized : ∀ handle ∈ listener.volEffectList, (listener.contexts handle).state ≠ .uninitialized
  silent : listener.volEffectList = [] → listener.currentGainDepCalLevel = -1 ∧ listener.currentVol = 0

/-- The reply of a command is there, and of the size that the command writes. -/
def ReplyRight (command : VolCommand) (args : VolCommandArgs) : Prop :=
  match command with
  | .init | .offload => args.badReply = some false
  | .setConfig =>
    args.cmdData ≠ none ∧ args.cmdSize = effectConfigSize ∧ args.replyData = true ∧ args.replySize = some 4
  | .enable | .disable => args.badReply ≠ none
  | _ => True

variable {send : SendGainDepCal} {next : VolListener}

theorem recomputeIf_eq (recompute : Bool) : ∃ level volume, listener.recomputeIf send recompute =
    { listener with currentGainDepCalLevel := level, currentVol := volume } := by
  unfold recomputeIf checkAndSetGainDepCal
  cases send <;> dsimp only <;> split_ifs <;> exact ⟨_, _, rfl⟩

/-- With no effect there is silence. -/
theorem recomputeIf_of_nil (hnil : listener.volEffectList = []) (hsilent : listener.currentVol = 0) (recompute : Bool) :
    listener.recomputeIf send recompute = listener := by
  unfold recomputeIf checkAndSetGainDepCal newVol
  simp [hnil, hsilent]

/-- A command that succeeds changes the context of its effect. -/
def Changes (send : SendGainDepCal) (listener : VolListener) (handle : EffectHandle) (next : VolListener) : Prop :=
  ∃ context recompute, context.state ≠ .uninitialized ∧
    next = ((listener.lock.setContext handle context).recomputeIf send recompute).unlock

theorem unlock_lock (hunlocked : listener.locked = false) : listener.lock.unlock = listener := by
  unfold lock unlock
  rw [← hunlocked]

theorem switchState_spec (hunlocked : listener.locked = false) (source : VolListenerState)
    {target : VolListenerState} (htarget : target ≠ .uninitialized) :
    ∃ status next, listener.lock.switchState send handle source target = (status, next) ∧
      (next = listener ∨ status = 0 ∧ Changes send listener handle next) := by
  unfold switchState
  dsimp only
  split
  · exact ⟨_, _, rfl, .inl (unlock_lock hunlocked)⟩
  · exact ⟨_, _, rfl, .inr ⟨rfl, _, _, htarget, rfl⟩⟩

theorem volEffectCommand_spec (hunlocked : listener.locked = false) (hmem : handle ∈ listener.volEffectList)
    (hstate : (listener.contexts handle).state ≠ .uninitialized) (command : VolCommand) (args : VolCommandArgs) :
    (ReplyRight command args → ∃ status next,
      listener.volEffectCommand send (some handle) command args = some (status, next) ∧
        (next = listener ∨ status = 0 ∧ Changes send listener handle next)) ∧
    (¬ ReplyRight command args → listener.volEffectCommand send (some handle) command args = none ∨
      listener.volEffectCommand send (some handle) command args = some (-einval, listener.lock)) := by
  have hback := unlock_lock hunlocked
  have hmem' : handle ∈ listener.lock.volEffectList := hmem
  have hstate' : (listener.lock.contexts handle).state ≠ .uninitialized := hstate
  unfold volEffectCommand
  rw [if_neg (by simp [hunlocked])]
  dsimp only
  rw [if_neg (not_not.mpr hmem'), if_neg hstate']
  have hswitch : ∀ source target : VolListenerState, target ≠ .uninitialized →
      let result := args.badReply.map fun bad =>
        if bad then (-einval, listener.lock.unlock) else listener.lock.switchState send handle source target
      (args.badReply ≠ none → ∃ status next, result = some (status, next) ∧
        (next = listener ∨ status = 0 ∧ Changes send listener handle next)) ∧
      (¬ args.badReply ≠ none → result = none ∨ result = some (-einval, listener.lock)) := by
    intro source target htarget
    cases hbad : args.badReply with
    | none => exact ⟨fun hright => absurd rfl hright, fun _ => .inl rfl⟩
    | some bad =>
      refine ⟨fun _ => ?_, fun hwrong => absurd (by simp) hwrong⟩
      cases bad with
      | false =>
        obtain ⟨status, next, hresult, hnext⟩ := @switchState_spec listener handle send hunlocked source target htarget
        exact ⟨status, next, congrArg some hresult, hnext⟩
      | true => exact ⟨_, _, rfl, .inl hback⟩
  cases command <;> unfold ReplyRight <;> dsimp only
  case init | offload =>
    cases hbad : args.badReply with
    | none => exact ⟨fun hright => (by cases hright), fun _ => .inl rfl⟩
    | some bad =>
      cases bad with
      | false => exact ⟨fun _ => ⟨_, _, rfl, .inl hback⟩, fun hwrong => absurd rfl hwrong⟩
      | true => exact ⟨fun hright => (by cases hright), fun _ => .inr rfl⟩
  case setConfig =>
    refine ⟨fun ⟨hdata, hsize, hreply, hreplySize⟩ => ?_, fun hwrong => .inr (if_pos ?_)⟩
    · rw [if_neg (by simp [hdata, hsize, hreply, hreplySize])]
      exact ⟨_, _, rfl, .inl hback⟩
    · by_contra hright
      simp only [Bool.or_eq_true, decide_eq_true_eq, Bool.not_eq_true', not_or, Bool.not_eq_false, not_not] at hright
      exact hwrong ⟨hright.1.1.1, hright.1.1.2, hright.1.2, hright.2⟩
  case enable => exact hswitch .initialized .active (by decide)
  case disable => exact hswitch .active .initialized (by decide)
  case setDevice =>
    refine ⟨fun _ => ?_, fun hwrong => absurd trivial hwrong⟩
    cases args.cmdData with
    | none => exact ⟨_, _, rfl, .inl hback⟩
    | some data => exact ⟨_, _, rfl, .inr ⟨rfl, { listener.contexts handle with devId := data.1 }, _, hstate, rfl⟩⟩
  case setVolume =>
    refine ⟨fun _ => ?_, fun hwrong => absurd trivial hwrong⟩
    cases args.cmdData with
    | none => exact ⟨_, _, rfl, .inl hback⟩
    | some data =>
      dsimp only
      split
      · exact ⟨_, _, rfl, .inl hback⟩
      · exact ⟨_, _, rfl, .inr ⟨rfl, { listener.contexts handle with
          leftVol := volumeOf data.1, rightVol := volumeOf data.2 }, _, hstate, rfl⟩⟩
  all_goals exact ⟨fun _ => ⟨_, _, rfl, .inl hback⟩, fun hwrong => absurd trivial hwrong⟩

theorem Listed.initOnce : VolListener.initOnce.Listed :=
  ⟨List.nodup_nil, fun _ hmem => absurd hmem List.not_mem_nil, fun _ hmem => absurd hmem List.not_mem_nil,
    fun _ => ⟨rfl, rfl⟩⟩

theorem Listed.lock (hlisted : listener.Listed) : listener.lock.Listed :=
  ⟨hlisted.nodup, hlisted.lt_allocated, hlisted.initialized, hlisted.silent⟩

theorem Listed.changes (hlisted : listener.Listed) (hmem : handle ∈ listener.volEffectList)
    (hchanges : Changes send listener handle next) : next.Listed := by
  obtain ⟨context, recompute, hstate, rfl⟩ := hchanges
  obtain ⟨level, volume, hrecompute⟩ :=
    @recomputeIf_eq (listener.lock.setContext handle context) send recompute
  rw [hrecompute]
  refine ⟨hlisted.nodup, hlisted.lt_allocated, fun other hother => ?_, fun hnil => ?_⟩
  · by_cases heq : other = handle
    · subst heq
      simpa [VolListener.lock, VolListener.unlock, setContext] using hstate
    · simpa [VolListener.lock, VolListener.unlock, setContext, heq] using hlisted.initialized other hother
  · have hempty : listener.volEffectList = [] := hnil
    rw [hempty] at hmem
    exact absurd hmem List.not_mem_nil

theorem Listed.command (hlisted : listener.Listed) {self : Option EffectHandle} {command : VolCommand}
    {args : VolCommandArgs} {status : Int}
    (hcall : listener.volEffectCommand send self command args = some (status, next)) : next.Listed := by
  cases hlocked : listener.locked with
  | true => simp [volEffectCommand, hlocked] at hcall
  | false =>
    cases self with
    | none =>
      obtain ⟨-, rfl⟩ : -einval = status ∧ listener.lock.unlock = next := by
        simpa [volEffectCommand, hlocked] using hcall
      exact (unlock_lock hlocked).symm ▸ hlisted
    | some handle =>
      have hmem : handle ∈ listener.volEffectList := by
        by_contra hmissing
        have hmissing' : handle ∉ listener.lock.volEffectList := hmissing
        simp [volEffectCommand, hlocked, hmissing'] at hcall
      obtain ⟨hright, hwrong⟩ :=
        @volEffectCommand_spec listener handle send hlocked hmem (hlisted.initialized handle hmem) command args
      by_cases hreply : ReplyRight command args
      · obtain ⟨_, _, hresult, hnext⟩ := hright hreply
        cases hresult.symm.trans hcall
        obtain rfl | ⟨-, hchanges⟩ := hnext
        · exact hlisted
        · exact hlisted.changes hmem hchanges
      · obtain hnone | hresult := hwrong hreply
        · cases hnone.symm.trans hcall
        · cases hresult.symm.trans hcall
          exact hlisted.lock

theorem Listed.create (hlisted : listener.Listed) {uuid : Option EffectUuid} {sessionId : Int}
    {hasHandle callocSucceeds : Bool} {status : Int}
    (hcall : listener.volPrcLibCreate uuid sessionId hasHandle callocSucceeds = some (status, next)) :
    next.Listed ∧ next.locked = listener.locked ∧ (status ≠ 0 → next = listener) := by
  have hrefused : ∀ {other : Int}, some (other, listener) = some (status, next) →
      next.Listed ∧ next.locked = listener.locked ∧ (status ≠ 0 → next = listener) := by
    rintro other ⟨⟩
    exact ⟨hlisted, rfl, fun _ => rfl⟩
  unfold volPrcLibCreate at hcall
  split at hcall
  · exact hrefused hcall
  split at hcall
  · exact hrefused hcall
  split at hcall
  · exact hrefused hcall
  split at hcall
  · exact hrefused hcall
  split at hcall
  · cases hcall
  cases hcall
  have hfresh : listener.allocated ∉ listener.volEffectList :=
    fun hmem => Nat.lt_irrefl _ (hlisted.lt_allocated _ hmem)
  refine ⟨⟨?_, fun other hother => ?_, fun other hother => ?_, fun hnil => ?_⟩, rfl, fun hfailed => absurd rfl hfailed⟩
  · exact List.nodup_append.mpr ⟨hlisted.nodup, List.pairwise_singleton _ _, fun other hother last hlast heq =>
      hfresh (List.mem_singleton.mp hlast ▸ heq ▸ hother)⟩
  · obtain hmem | hmem := List.mem_append.mp hother
    · exact Nat.lt_succ_of_lt (hlisted.lt_allocated other hmem)
    · rw [List.mem_singleton.mp hmem]
      exact Nat.lt_succ_self _
  · dsimp only [setContext]
    obtain hmem | hmem := List.mem_append.mp hother
    · have hne : other ≠ listener.allocated := fun heq => hfresh (heq ▸ hmem)
      rw [Function.update_of_ne hne]
      exact hlisted.initialized other hmem
    · rw [List.mem_singleton.mp hmem, Function.update_self]
      exact fun hstate => by cases hstate
  · simp at hnil

theorem Listed.release (hlisted : listener.Listed) {handle : Option EffectHandle} {status : Int}
    (hcall : listener.volPrcLibReleaseFreeing send reused handle = some (status, next)) :
    next.Listed ∧ next.locked = listener.locked ∧ (status ≠ 0 → next = listener) := by
  unfold volPrcLibReleaseFreeing at hcall
  split at hcall
  · cases hcall
  split at hcall
  · next hnil =>
    have hsame : listener.resetIf true = listener := by
      obtain ⟨hlevel, hvol⟩ := hlisted.silent hnil
      rw [resetIf, if_pos rfl, ← hlevel, ← hvol]
    cases hcall
    rw [hsame]
    exact ⟨hlisted, rfl, fun _ => rfl⟩
  split at hcall
  · cases hcall
  split at hcall
  · cases hcall
  next handle hmem =>
  have hvisited := @visited_releaseLoop listener handle reused hlisted.nodup
  have hfreed := hvisited.freed_handle (not_not.mp hmem)
  have hstatus := hvisited.status_eq
  have hlist := hvisited.list_eq
  rw [if_neg (List.ne_nil_of_mem hfreed)] at hstatus
  rw [List.append_nil] at hlist
  dsimp only at hcall
  generalize listener.releaseLoop reused handle = loop at *
  have hcount : loop.activeStreamCount = 0 ↔ loop.volEffectList = [] := by
    rw [hvisited.count_eq, hlist, List.length_eq_zero_iff]
  have hleft : ∀ other ∈ loop.volEffectList, other ∈ listener.volEffectList ∧ other ∉ loop.freed := by
    intro other hother
    rw [hlist] at hother
    simpa using hother
  have hstates : ∀ other ∈ loop.volEffectList, (loop.contexts other).state ≠ .uninitialized := by
    intro other hother
    obtain ⟨hmem, hkept⟩ := hleft other hother
    rw [hvisited.contexts_eq other hkept]
    exact hlisted.initialized other hmem
  have hnodup : loop.volEffectList.Nodup := hlist ▸ hlisted.nodup.filter _
  cases hcall
  refine ⟨?_, ?_, fun hfailed => absurd hstatus hfailed⟩
  · by_cases hnil : loop.volEffectList = []
    · rw [decide_eq_true (hcount.2 hnil), recomputeIf_of_nil]
      · exact ⟨hnodup, fun other hother => hlisted.lt_allocated other (hleft other hother).1, hstates,
          fun _ => ⟨rfl, rfl⟩⟩
      · exact hnil
      · rfl
    · rw [decide_eq_false (mt hcount.1 hnil), resetIf, if_neg Bool.false_ne_true]
      obtain ⟨level, volume, hrecompute⟩ := @recomputeIf_eq
        { listener with contexts := loop.contexts, volEffectList := loop.volEffectList } send loop.recompute
      rw [hrecompute]
      exact ⟨hnodup, fun other hother => hlisted.lt_allocated other (hleft other hother).1, hstates,
        fun hempty => absurd hempty hnil⟩
  · obtain ⟨level, volume, hrecompute⟩ := @recomputeIf_eq (resetIf
      { listener with contexts := loop.contexts, volEffectList := loop.volEffectList }
      (decide (loop.activeStreamCount = 0))) send loop.recompute
    rw [hrecompute]
    dsimp only [resetIf]
    split <;> rfl

theorem Listed.libCall (hlisted : listener.Listed) {call : VolLibCall} {status : Int}
    (hcall : listener.libCall send call = some (status, next)) : next.Listed := by
  cases call with
  | create uuid sessionId hasHandle callocSucceeds => exact (hlisted.create hcall).1
  | release handle reused => exact (hlisted.release reused hcall).1
  | libGetDescriptor uuid hasDescriptor =>
    simp only [VolListener.libCall, volPrcLibGetDescriptor] at hcall
    split at hcall <;> cases hcall <;> exact hlisted
  | command self command args => exact hlisted.command hcall
  | process self hasBuffers =>
    simp only [VolListener.libCall, volEffectProcess] at hcall
    split at hcall
    · cases hcall
    split at hcall
    · cases hcall
    · split_ifs at hcall <;> cases hcall <;> exact hlisted
  | getDescriptor self hasDescriptor =>
    simp only [VolListener.libCall, volEffectGetDescriptor] at hcall
    split_ifs at hcall <;> cases hcall <;> exact hlisted

theorem Listed.runSteps {calls : List VolLibCall} {last : VolListener}
    (hrun : Nozomi.runSteps (libStep send) VolListener.initOnce calls = some last) : last.Listed := by
  refine runSteps_state_of_meets Listed ?_ (runMeets_true calls VolListener.initOnce) Listed.initOnce hrun
  intro listener call next _ hlisted hstep
  obtain ⟨⟨status, _⟩, hcall, rfl⟩ := Option.map_eq_some_iff.mp hstep
  exact hlisted.libCall hcall

/-! ### Which calls keep to the lock -/

/-- The call returns with the lock free, and with a status other than 0 it changes nothing. -/
def Settles (send : SendGainDepCal) (listener : VolListener) (call : VolLibCall) : Prop :=
  ∃ status next, listener.libCall send call = some (status, next) ∧ next.locked = false ∧
    (status ≠ 0 → next = listener)

def Proper (listener : VolListener) : VolLibCall → Prop
  | .create .. | .libGetDescriptor .. => True
  | .release handle _ => listener.volEffectList = [] ∨ ∃ effect ∈ listener.volEffectList, handle = some effect
  | .command self command args =>
    self = none ∨ ∃ effect ∈ listener.volEffectList, self = some effect ∧ ReplyRight command args
  | .process self hasBuffers => ∃ effect ∈ listener.volEffectList, self = some effect ∧
    ((listener.contexts effect).state = .active → hasBuffers = true)
  | .getDescriptor self hasDescriptor =>
    hasDescriptor = false ∨ ∃ effect ∈ listener.volEffectList, self = some effect

variable (hlisted : listener.Listed) (hunlocked : listener.locked = false)

include hlisted hunlocked

theorem settles_create (uuid : Option EffectUuid) (sessionId : Int) (hasHandle callocSucceeds : Bool) :
    Settles send listener (.create uuid sessionId hasHandle callocSucceeds) := by
  have hreturns : ∃ result, listener.volPrcLibCreate uuid sessionId hasHandle callocSucceeds = some result := by
    simp only [volPrcLibCreate, hunlocked, Bool.false_eq_true, if_false]
    split
    · exact ⟨_, rfl⟩
    · split_ifs
      · exact ⟨_, rfl⟩
      · exact ⟨_, rfl⟩
      · split <;> exact ⟨_, rfl⟩
  obtain ⟨⟨status, next⟩, hcall⟩ := hreturns
  obtain ⟨-, hlocked, hfailed⟩ := hlisted.create hcall
  exact ⟨status, next, hcall, hlocked.trans hunlocked, hfailed⟩

theorem settles_release_iff (handle : Option EffectHandle) :
    Settles send listener (.release handle reused) ↔ listener.Proper (.release handle reused) := by
  constructor
  · rintro ⟨status, next, hcall, -⟩
    by_cases hnil : listener.volEffectList = []
    · exact .inl hnil
    simp only [VolListener.libCall, volPrcLibReleaseFreeing, hunlocked, Bool.false_eq_true, if_false, hnil] at hcall
    cases handle with
    | none => cases hcall
    | some effect =>
      dsimp only at hcall
      split at hcall
      · cases hcall
      next hmem => exact .inr ⟨effect, not_not.mp hmem, rfl⟩
  · intro hproper
    have hreturns : ∃ result, listener.volPrcLibReleaseFreeing send reused handle = some result := by
      unfold volPrcLibReleaseFreeing
      rw [if_neg (Bool.eq_false_iff.mp hunlocked)]
      obtain hnil | ⟨effect, hmem, rfl⟩ := hproper
      · exact ⟨_, if_pos hnil⟩
      · rw [if_neg (List.ne_nil_of_mem hmem)]
        exact ⟨_, if_neg (not_not.mpr hmem)⟩
    obtain ⟨⟨status, next⟩, hcall⟩ := hreturns
    obtain ⟨-, hlocked, hfailed⟩ := hlisted.release reused hcall
    exact ⟨status, next, hcall, hlocked.trans hunlocked, hfailed⟩

theorem settles_command_iff (self : Option EffectHandle) (command : VolCommand) (args : VolCommandArgs) :
    Settles send listener (.command self command args) ↔ listener.Proper (.command self command args) := by
  cases self with
  | none =>
    have hcall : listener.volEffectCommand send none command args = some (-einval, listener) := by
      simp [volEffectCommand, hunlocked, unlock_lock hunlocked]
    exact iff_of_true ⟨_, _, hcall, hunlocked, fun _ => rfl⟩ (.inl rfl)
  | some handle =>
    by_cases hmem : handle ∈ listener.volEffectList
    · obtain ⟨hright, hwrong⟩ :=
        @volEffectCommand_spec listener handle send hunlocked hmem (hlisted.initialized handle hmem) command args
      by_cases hreply : ReplyRight command args
      · obtain ⟨status, next, hcall, hnext⟩ := hright hreply
        refine iff_of_true ⟨status, next, hcall, ?_, fun hfailed => ?_⟩ (.inr ⟨handle, hmem, rfl, hreply⟩)
        · obtain rfl | ⟨-, context, recompute, -, rfl⟩ := hnext
          · exact hunlocked
          · rfl
        · exact hnext.resolve_right fun hchanges => hfailed hchanges.1
      refine iff_of_false ?_ ?_
      · rintro ⟨status, next, hcall, hlocked, -⟩
        obtain hnone | hresult := hwrong hreply
        · cases hnone.symm.trans hcall
        · cases hresult.symm.trans hcall
          cases hlocked
      · rintro (hself | ⟨effect, -, hself, hright⟩)
        · cases hself
        · exact hreply hright
    · have hmissing : handle ∉ listener.lock.volEffectList := hmem
      refine iff_of_false ?_ ?_
      · rintro ⟨status, next, hcall, -⟩
        simp [VolListener.libCall, volEffectCommand, hunlocked, hmissing] at hcall
      · rintro (hself | ⟨effect, heffect, hself, -⟩)
        · cases hself
        · cases hself
          exact hmem heffect

omit hlisted in
theorem settles_process_iff (self : Option EffectHandle) (hasBuffers : Bool) :
    Settles send listener (.process self hasBuffers) ↔ listener.Proper (.process self hasBuffers) := by
  have hlock : ¬ listener.locked = true := Bool.eq_false_iff.mp hunlocked
  unfold Settles Proper
  simp only [VolListener.libCall, volEffectProcess, if_neg hlock]
  cases self with
  | none => simp
  | some handle =>
    dsimp only
    split_ifs with hmem hstate hbuffers
    · exact iff_of_true ⟨_, _, rfl, hunlocked, fun _ => rfl⟩ ⟨handle, hmem, rfl, fun hactive => absurd hactive hstate⟩
    · exact iff_of_true ⟨_, _, rfl, hunlocked, fun _ => rfl⟩ ⟨handle, hmem, rfl, fun _ => hbuffers⟩
    · simpa [not_not.mp hstate, hmem] using hbuffers
    · simp [hmem]

theorem settles_iff (call : VolLibCall) : Settles send listener call ↔ listener.Proper call := by
  cases call with
  | create uuid sessionId hasHandle callocSucceeds =>
    exact iff_of_true (settles_create hlisted hunlocked uuid sessionId hasHandle callocSucceeds) trivial
  | release handle reused => exact settles_release_iff reused hlisted hunlocked handle
  | libGetDescriptor uuid hasDescriptor =>
    refine iff_of_true ?_ trivial
    unfold Settles
    simp only [VolListener.libCall, volPrcLibGetDescriptor]
    split <;> exact ⟨_, _, rfl, hunlocked, fun _ => rfl⟩
  | command self command args => exact settles_command_iff hlisted hunlocked self command args
  | process self hasBuffers => exact settles_process_iff hunlocked self hasBuffers
  | getDescriptor self hasDescriptor =>
    unfold Settles Proper
    simp only [VolListener.libCall, volEffectGetDescriptor]
    split_ifs with hmissing hmem
    · exact iff_of_true ⟨_, _, rfl, hunlocked, fun _ => rfl⟩ (.inl (by simpa using hmissing))
    · obtain ⟨handle, hself, hlistedHandle⟩ := hmem
      exact iff_of_true ⟨_, _, rfl, hunlocked, fun _ => rfl⟩ (.inr ⟨handle, hlistedHandle, hself⟩)
    · refine iff_of_false (fun ⟨_, _, hcall, _⟩ => by cases hcall) ?_
      rintro (hno | ⟨effect, heffect, hself⟩)
      · exact hmissing (by simp [hno])
      · exact hmem ⟨effect, hself, heffect⟩

/-! ### Runs -/

omit hlisted hunlocked

/-- Whatever the library was asked for before, and whatever the memory of a freed context holds. -/
theorem release_exactly_iff {calls : List VolLibCall} {listener : VolListener}
    (hrun : runSteps (libStep send) initOnce calls = some listener)
    (reused : EffectHandle → VolListenerContext) (handle : EffectHandle) :
    listener.ReleasesExactly reused handle ↔ listener.StandsAlone handle :=
  have hnodup := (Listed.runSteps hrun).nodup
  ⟨fun hreleases => hreleases.standsAlone reused hnodup, fun halone => halone.releasesExactly reused hnodup⟩

/-- Every call comes back with the lock free, and changes nothing where it fails, if and only if the handles, replies
and buffers of the calls are right. -/
theorem libCall_settles_iff (send : SendGainDepCal) (calls : List VolLibCall) :
    RunMeets (libStep send) (Settles send) initOnce calls ↔ RunMeets (libStep send) Proper initOnce calls := by
  have hkept : ∀ listener call next, Settles send listener call → listener.Listed ∧ listener.locked = false →
      libStep send listener call = some next → next.Listed ∧ next.locked = false := by
    rintro listener call next ⟨status, result, hcall, hlocked, -⟩ ⟨hlisted, -⟩ hstep
    unfold libStep at hstep
    rw [hcall] at hstep
    cases hstep
    exact ⟨hlisted.libCall hcall, hlocked⟩
  have hstart : initOnce.Listed ∧ initOnce.locked = false := ⟨Listed.initOnce, rfl⟩
  constructor
  · exact RunMeets.imp_of_meets (fun listener => listener.Listed ∧ listener.locked = false) hkept
      (fun listener call hstate hsettles => (settles_iff hstate.1 hstate.2 call).1 hsettles) _ hstart
  · exact RunMeets.imp_of_meets (fun listener => listener.Listed ∧ listener.locked = false)
      (fun listener call next hproper hstate hstep =>
        hkept listener call next ((settles_iff hstate.1 hstate.2 call).2 hproper) hstate hstep)
      (fun listener call hstate hproper => (settles_iff hstate.1 hstate.2 call).2 hproper) _ hstart

def createEffect (desc : VolDescriptor) (sessionId : Int) : VolLibCall := .create (some desc.uuid) sessionId true true

theorem release_exactly_second :
    ∃ listener, runSteps (libStep none) initOnce [createEffect .music 1, createEffect .music 2] = some listener ∧
      ∀ reused, listener.ReleasesExactly reused 1 := by
  have hrun : ∃ listener, runSteps (libStep none) initOnce [createEffect .music 1, createEffect .music 2] =
      some listener := ⟨_, rfl⟩
  obtain ⟨listener, hrun⟩ := hrun
  refine ⟨listener, hrun, fun reused => (release_exactly_iff hrun reused 1).2 ?_⟩
  cases hrun
  unfold StandsAlone
  decide

/-- Two effects of one session, and two of different sessions. -/
theorem release_not_exactly :
    (∃ listener, runSteps (libStep none) initOnce [createEffect .music 1, createEffect .music 1] = some listener ∧
      ∀ reused, ¬ listener.ReleasesExactly reused 1) ∧
    ∃ listener, runSteps (libStep none) initOnce [createEffect .music 1, createEffect .ring 2] = some listener ∧
      ∀ reused, ¬ listener.ReleasesExactly reused 0 := by
  refine ⟨⟨_, rfl, fun reused hreleases => ?_⟩, _, rfl, fun reused hreleases => ?_⟩
  · have halone := (hreleases.standsAlone reused (by decide)).2
    exact absurd halone (by decide)
  · have halone := (hreleases.standsAlone reused (by decide)).1
    exact absurd halone (by decide)

theorem initWithoutReply_not_settles :
    ¬ RunMeets (libStep none) (Settles none) initOnce
      [createEffect .music 1, .command (some 0) .init ⟨0, none, none, false⟩] := by
  rintro ⟨-, hrest⟩
  obtain ⟨⟨status, next, hcall, hlocked, -⟩, -⟩ := hrest _ rfl
  cases hcall
  cases hlocked

end VolListener

end Nozomi
