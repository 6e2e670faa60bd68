import Mathlib.Data.List.Forall2
import Nozomi.Display.Sync.Code

/-!
# Who closes the fences of a frame

Every acquire fence that comes with a list is closed once by `hwc_sync` and `closeAcquireFds`. The
release fences that a layer gets back are new, except for a layer whose rotator did not make one.
-/

namespace Nozomi

namespace SyncState

def acquired (layers : List FencedLayer) : List Int := layers.map (·.acquireFenceFd)

def Foreign (state : SyncState) (fd : Int) : Prop :=
  fd < state.fds.next ∧ (0 ≤ fd → fd ∉ acquired state.layers)

instance (state : SyncState) (fd : Int) : Decidable (state.Foreign fd) :=
  inferInstanceAs (Decidable (_ ∧ _))

/-- A frame as `hwc_set` receives it: each acquire fence is open and belongs to one layer, there are no
release fences yet, and the fences that are kept from earlier frames are others. -/
structure Received (state : SyncState) (rotMap : LayerRotMap) (fd : Int) : Prop where
  acquireOpen : ∀ acquireFd ∈ acquired state.layers, 0 ≤ acquireFd → state.fds.IsOpen acquireFd
  distinct : ((acquired state.layers).filter fun acquireFd => decide (0 ≤ acquireFd)).Nodup
  release : ∀ layer ∈ state.layers, layer.releaseFenceFd = -1
  copybit : state.Foreign fd
  mRelFd : ∀ old ∈ state.mRelFd, state.Foreign old
  mRelFence : ∀ i ∈ rotMap.mLayer, state.Foreign (state.mRelFence i)
  nodup : rotMap.mLayer.Nodup
  layer_lt : ∀ i ∈ rotMap.mLayer, i < state.layers.length
  stdin : 0 < state.fds.next

/-- Each acquire fence was closed once, and each release fence is missing or new and open. -/
def Balanced (before after : SyncState) : Prop :=
  (∀ acquireFd ∈ acquired before.layers, 0 ≤ acquireFd → after.fds.closes.count acquireFd = 1) ∧
  ∀ layer ∈ after.layers, layer.releaseFenceFd = -1 ∨
    before.fds.next ≤ layer.releaseFenceFd ∧ after.fds.IsOpen layer.releaseFenceFd

/-- Whenever the rotator refuses a fence, the layer's release fence is thrown away behind it. -/
def RotatorsServed (target : SyncTarget) (rotMap : LayerRotMap) (rotatorSync : Nat → Int → Bool)
    (fd : Int) (state : SyncState) : Prop :=
  syncsRotator target = true → ∀ i ∈ rotMap.mLayer, ∀ layer, state.layers[i]? = some layer →
    rotatorSync i layer.acquireFenceFd = true ∨
      layer.isShown = true ∧ (target.swapzero = true ∨ 0 ≤ fd)

/-! ### The rotators -/

/-- A fence that was made since and that no layer has as its acquire fence. -/
structure IsNew (before : SyncState) (fds : Descriptors) (layers : List FencedLayer) (fence : Int) :
    Prop where
  next_le : before.fds.next ≤ fence
  isOpen : fds.IsOpen fence
  notAcquired : fence ∉ acquired layers

def Rotated (before state : SyncState) (rotatorSync : Nat → Int → Bool) (done : List Nat) (i : Nat)
    (old new : FencedLayer) : Prop :=
  new.isShown = old.isShown ∧
    if i ∈ done then
      if rotatorSync i old.acquireFenceFd then IsNew before state.fds state.layers new.releaseFenceFd
      else new.releaseFenceFd = 0
    else new = old

/-- Behind some of the rotators: an acquire fence that came with the list is closed or still there, and
the fences that were made are held once. -/
structure Running (before : SyncState) (rotatorSync : Nat → Int → Bool) (done : List Nat)
    (state : SyncState) : Prop where
  next_le : before.fds.next ≤ state.fds.next
  owed : ∀ acquireFd : Int, 0 ≤ acquireFd → acquireFd < before.fds.next →
    state.fds.closes.count acquireFd + (acquired state.layers).count acquireFd =
      before.fds.closes.count acquireFd + (acquired before.layers).count acquireFd
  acquired_lt : ∀ acquireFd ∈ acquired state.layers, acquireFd < state.fds.next
  length : state.layers.length = before.layers.length
  layer : ∀ i old new, before.layers[i]? = some old → state.layers[i]? = some new →
    Rotated before state rotatorSync done i old new
  kept : state.mRelFence = before.mRelFence ∧ state.mRelFd = before.mRelFd

variable {before state : SyncState} {rotatorSync : Nat → Int → Bool} {done : List Nat}

theorem Received.running {rotMap : LayerRotMap} {fd : Int} (hreceived : before.Received rotMap fd) :
    Running before rotatorSync [] before where
  next_le := Nat.le_refl _
  owed := fun _ _ _ => rfl
  acquired_lt := by
    intro acquireFd hmem
    by_cases hpos : 0 ≤ acquireFd
    · exact (hreceived.acquireOpen acquireFd hmem hpos).2.1
    · have := hreceived.stdin
      omega
  length := rfl
  layer := by
    intro i old new hold hnew
    obtain rfl : old = new := Option.some.inj (hold.symm.trans hnew)
    exact ⟨rfl, by simp⟩
  kept := ⟨rfl, rfl⟩

variable {fence : Int}

theorem IsNew.replace {fds later : Descriptors} {layers : List FencedLayer}
    (hfence : IsNew before fds layers fence) {i : Nat} {layer : FencedLayer} (hopen : later.IsOpen fence)
    (hacquire : layer.acquireFenceFd = -1 ∨ (fds.next : Int) ≤ layer.acquireFenceFd) :
    IsNew before later (layers.set i layer) fence := by
  refine ⟨hfence.next_le, hopen, fun hmem => ?_⟩
  rw [acquired, List.map_set] at hmem
  rcases List.mem_or_eq_of_mem_set hmem with hold | heq
  · exact hfence.notAcquired hold
  · have hlt := hfence.isOpen.2.1
    have hpos := hfence.isOpen.1
    omega

theorem Running.step (hrunning : Running before rotatorSync done state) {i : Nat} (hi : i ∉ done)
    (hlt : i < before.layers.length) :
    Running before rotatorSync (done ++ [i]) (state.syncRotator rotatorSync i) := by
  obtain ⟨old, hold⟩ : ∃ old, before.layers[i]? = some old := ⟨_, List.getElem?_eq_getElem hlt⟩
  have hlength : i < state.layers.length := hrunning.length ▸ hlt
  have hcur : state.layers[i]? = some old := by
    obtain ⟨cur, hcur⟩ : ∃ cur, state.layers[i]? = some cur := ⟨_, List.getElem?_eq_getElem hlength⟩
    have hsame := (hrunning.layer i old cur hold hcur).2
    rw [if_neg hi] at hsame
    rw [hcur, hsame]
  have hget : state.layers[i] = old := by
    rw [List.getElem?_eq_getElem hlength] at hcur
    exact Option.some.inj hcur
  have hmem : old.acquireFenceFd ∈ acquired state.layers :=
    List.mem_map_of_mem (hget ▸ List.getElem_mem hlength)
  rw [syncRotator, hcur]
  -- The fence of the rotator, and the descriptors behind the request.
  obtain ⟨made, relFenFd, hmade, hmadeCloses, hmadeNext, hmadeOpen, hrel⟩ :
      ∃ made relFenFd, (if rotatorSync i old.acquireFenceFd = true then state.fds.create
          else (state.fds, 0)) = (made, relFenFd) ∧
        made.closes = state.fds.closes ∧ state.fds.next ≤ made.next ∧
        (∀ fence, state.fds.IsOpen fence → made.IsOpen fence) ∧
        if rotatorSync i old.acquireFenceFd = true then relFenFd = state.fds.next ∧ made.IsOpen relFenFd
        else relFenFd = 0 := by
    split
    · exact ⟨_, _, rfl, rfl, Nat.le_succ _, fun _ hopen => hopen.create, rfl, state.fds.isOpen_create⟩
    · exact ⟨_, _, rfl, rfl, Nat.le_refl _, fun _ hopen => hopen, rfl⟩
  simp only [hmade]
  have hresult := (made.close old.acquireFenceFd).dup_result relFenFd
  have hnextDup := (made.close old.acquireFenceFd).dup_next_le relFenFd
  generalize hdup : (made.close old.acquireFenceFd).dup relFenFd = last at hresult hnextDup
  have hcloses : last.1.closes = (made.close old.acquireFenceFd).closes := by
    rw [← hdup, Descriptors.dup_closes]
  have hstays : ∀ fence, made.IsOpen fence → fence ≠ old.acquireFenceFd → last.1.IsOpen fence := by
    intro fence hopen hne
    rw [← hdup]
    exact (hopen.close hne).dup relFenFd
  rw [Descriptors.close_next] at hresult hnextDup
  have hacquire : last.2 = -1 ∨ (state.fds.next : Int) ≤ last.2 := by
    rcases hresult with heq | ⟨heq, -⟩
    · exact .inl heq
    · right
      omega
  constructor
  · have := hrunning.next_le
    dsimp only
    omega
  · intro acquireFd hpos hbefore
    have hcount := hrunning.owed acquireFd hpos hbefore
    have hnew : last.2 ≠ acquireFd := by
      have := hrunning.next_le
      omega
    have hpresent : old.acquireFenceFd = acquireFd → 0 < (acquired state.layers).count acquireFd :=
      fun heq => List.count_pos_iff.mpr (heq ▸ hmem)
    have hnext := hrunning.next_le
    rw [hcloses, Descriptors.count_close _ hpos (by omega), hmadeCloses, acquired, List.map_set,
      List.count_set (by simpa using hlength), List.getElem_map, hget]
    simp only [beq_iff_eq, hnew, if_false, Nat.add_zero]
    rw [acquired] at hcount hpresent
    split
    · have := hpresent ‹_›
      omega
    · omega
  · intro acquireFd hacquired
    rw [acquired, List.map_set] at hacquired
    dsimp only
    rcases List.mem_or_eq_of_mem_set hacquired with hin | heq
    · have := hrunning.acquired_lt acquireFd hin
      omega
    · rw [heq]
      rcases hresult with herror | ⟨-, hopen⟩
      · have := hrunning.acquired_lt _ hmem
        dsimp only
        omega
      · exact hopen.2.1
  · rw [List.length_set]
    exact hrunning.length
  · intro j oldLayer newLayer hj hnewLayer
    rw [Rotated]
    dsimp only at hnewLayer ⊢
    by_cases heq : j = i
    · subst heq
      rw [List.getElem?_set_self hlength] at hnewLayer
      obtain rfl := Option.some.inj hnewLayer
      obtain rfl : old = oldLayer := Option.some.inj (hold.symm.trans hj)
      refine ⟨rfl, ?_⟩
      rw [if_pos (by simp)]
      split at hrel
      next haccepted =>
        rw [if_pos haccepted]
        have hne : relFenFd ∉ acquired state.layers := by
          intro hin
          have := hrunning.acquired_lt relFenFd hin
          omega
        have hfence : IsNew before made state.layers relFenFd := by
          refine ⟨?_, hrel.2, hne⟩
          have := hrunning.next_le
          omega
        refine hfence.replace (hstays _ hrel.2 ?_) ?_
        · exact fun heq => hne (heq ▸ hmem)
        · exact hresult.imp_right fun hlast => hlast.1.ge
      next hrefused => rwa [if_neg hrefused]
    · rw [List.getElem?_set_ne (Ne.symm heq)] at hnewLayer
      obtain ⟨hshown, hrotated⟩ := hrunning.layer j oldLayer newLayer hj hnewLayer
      refine ⟨hshown, ?_⟩
      have hdone : j ∈ done ++ [i] ↔ j ∈ done := by simp [heq]
      rw [if_congr hdone rfl rfl]
      split at hrotated
      · rw [if_pos ‹_›]
        split at hrotated
        · rw [if_pos ‹_›]
          refine hrotated.replace (hstays _ (hmadeOpen _ hrotated.isOpen) ?_) hacquire
          exact fun heq => hrotated.notAcquired (heq ▸ hmem)
        · rwa [if_neg ‹_›]
      · rwa [if_neg ‹_›]
  · exact hrunning.kept

theorem Running.foldl (entries : List Nat) :
    ∀ (done : List Nat) (state : SyncState), Running before rotatorSync done state →
      (done ++ entries).Nodup → (∀ i ∈ entries, i < before.layers.length) →
      Running before rotatorSync (done ++ entries) (entries.foldl (syncRotator rotatorSync) state) := by
  induction entries with
  | nil =>
    intro done state hrunning _ _
    rwa [List.append_nil]
  | cons i entries ih =>
    intro done state hrunning hnodup hlt
    have hi : i ∉ done := by
      intro hin
      exact (List.nodup_append.mp hnodup).2.2 i hin i List.mem_cons_self rfl
    have hstep := hrunning.step hi (hlt i List.mem_cons_self)
    rw [List.append_cons] at hnodup ⊢
    exact ih (done ++ [i]) _ hstep hnodup fun j hj => hlt j (List.mem_cons_of_mem i hj)

/-! ### The fences of the display -/

/-- What the loop over the layers leaves in one of them: a fence that was made since, when it has none
yet, and nothing when copybit or the swap interval say so. -/
def Populated (target : SyncTarget) (fd : Int) (fds last : Descriptors) (old new : FencedLayer) : Prop :=
  if old.isShown = true ∧ (target.swapzero = true ∨ 0 ≤ fd) then new.releaseFenceFd = -1
  else new.releaseFenceFd = old.releaseFenceFd ∨
    old.releaseFenceFd < 0 ∧ (new.releaseFenceFd = -1 ∨
      fds.next ≤ new.releaseFenceFd ∧ last.IsOpen new.releaseFenceFd)

theorem populate_layer (target : SyncTarget) (fd releaseFd : Int) (fds : Descriptors)
    (layer : FencedLayer) :
    ∃ last new, populate target.swapzero fd releaseFd fds layer = (last, new) ∧
      last.closes = fds.closes ∧ fds.next ≤ last.next ∧
      (∀ fence, fds.IsOpen fence → last.IsOpen fence) ∧ Populated target fd fds last layer new := by
  by_cases hshown : layer.isShown = true
  · by_cases hdropped : target.swapzero = true ∨ 0 ≤ fd
    · refine ⟨fds, { layer with releaseFenceFd := -1 }, ?_, rfl, Nat.le_refl _, fun _ hopen => hopen,
        by rw [Populated, if_pos ⟨hshown, hdropped⟩]⟩
      rw [populate, if_pos hshown]
      rcases hdropped with hswap | hfd
      · rw [if_pos hswap]
      · rw [if_pos hfd, ite_self]
    · obtain ⟨hswap, hfd⟩ := not_or.mp hdropped
      rw [populate, if_pos hshown, if_neg hswap, if_neg hfd]
      split
      next hmissing =>
        refine ⟨_, _, rfl, Descriptors.dup_closes _, fds.dup_next_le _, fun _ hopen => hopen.dup _, ?_⟩
        rw [Populated, if_neg (by simp [hdropped])]
        exact .inr ⟨hmissing, (fds.dup_result releaseFd).imp_right fun hnew => ⟨hnew.1.ge, hnew.2⟩⟩
      · exact ⟨fds, layer, rfl, rfl, Nat.le_refl _, fun _ hopen => hopen, by simp [Populated, hdropped]⟩
  · rw [populate, if_neg hshown]
    exact ⟨fds, layer, rfl, rfl, Nat.le_refl _, fun _ hopen => hopen, by simp [Populated, hshown]⟩

theorem populate_acquired (swapzero : Bool) (fd releaseFd : Int) (fds : Descriptors)
    (layers : List FencedLayer) :
    acquired (threadMap (populate swapzero fd releaseFd) fds layers).2 = acquired layers := by
  apply threadMap_map
  intro fds layer
  rw [populate]
  split
  · split
    · rfl
    · split
      · rfl
      · split <;> rfl
  · rfl

theorem populate_spec (target : SyncTarget) (fd releaseFd : Int) (layers : List FencedLayer) :
    ∀ fds : Descriptors, ∃ last new,
      threadMap (populate target.swapzero fd releaseFd) fds layers = (last, new) ∧
        last.closes = fds.closes ∧ fds.next ≤ last.next ∧
        (∀ fence, fds.IsOpen fence → last.IsOpen fence) ∧
        List.Forall₂ (Populated target fd fds last) layers new := by
  induction layers with
  | nil =>
    intro fds
    exact ⟨fds, [], rfl, rfl, Nat.le_refl _, fun _ hopen => hopen, .nil⟩
  | cons layer layers ih =>
    intro fds
    obtain ⟨middle, newLayer, hfirst, hcloses, hnext, hopen, hrelease⟩ :=
      populate_layer target fd releaseFd fds layer
    obtain ⟨last, new, heq, hlastCloses, hlastNext, hlastOpen, hall⟩ := ih middle
    rw [threadMap_cons, hfirst, heq]
    refine ⟨last, newLayer :: new, rfl, hlastCloses.trans hcloses, hnext.trans hlastNext,
      fun fence hfence => hlastOpen fence (hopen fence hfence), .cons ?_ (hall.imp fun old new hrest => ?_)⟩
    · rw [Populated] at hrelease ⊢
      split at hrelease
      · rwa [if_pos ‹_›]
      · rw [if_neg ‹_›]
        exact hrelease.imp_right (And.imp_right (Or.imp_right (And.imp_right (hlastOpen _))))
    · rw [Populated] at hrest ⊢
      split at hrest
      · rwa [if_pos ‹_›]
      · rw [if_neg ‹_›]
        refine hrest.imp_right (And.imp_right (Or.imp_right (And.imp_left fun hge => ?_)))
        omega

/-! ### The fences that are kept and closed -/

/-- What a part of `hwc_sync` that closes only other descriptors does for `fence`. -/
def Spares (fence : Int) (state last : SyncState) : Prop :=
  last.layers = state.layers ∧ state.fds.next ≤ last.fds.next ∧
    (fence < state.fds.next → 0 ≤ fence →
      last.fds.closes.count fence = state.fds.closes.count fence) ∧
    (state.fds.IsOpen fence → last.fds.IsOpen fence)

theorem Spares.trans {first second third : SyncState} (hfirst : Spares fence first second)
    (hsecond : Spares fence second third) : Spares fence first third := by
  obtain ⟨hlayers, hnext, hcount, hopen⟩ := hfirst
  obtain ⟨hlayers', hnext', hcount', hopen'⟩ := hsecond
  refine ⟨hlayers'.trans hlayers, hnext.trans hnext', fun hlt hpos => ?_, fun h => hopen' (hopen h)⟩
  exact (hcount' (by omega) hpos).trans (hcount hlt hpos)

theorem spares_close {fd : Int} (hne : fence ≠ fd) (state : SyncState) :
    Spares fence state { state with fds := state.fds.close fd } := by
  refine ⟨rfl, by simp, fun hlt hpos => ?_, fun hopen => hopen.close hne⟩
  rw [Descriptors.count_close fd hpos hlt, if_neg (Ne.symm hne), Nat.add_zero]

theorem spares_setCopyBitFd (releaseFd : Int) {state : SyncState} (hne : ∀ old ∈ state.mRelFd, fence ≠ old) :
    Spares fence state (setCopyBitFd releaseFd state) := by
  rw [setCopyBitFd]
  cases hold : state.mRelFd with
  | none => exact ⟨rfl, Nat.le_refl _, fun _ _ => rfl, id⟩
  | some old =>
    have hother : fence ≠ old := hne old (by rw [hold]; rfl)
    have hclosed := spares_close hother state
    refine hclosed.trans ⟨rfl, Descriptors.dup_next_le _ _, fun _ _ => ?_, fun hopen => hopen.dup _⟩
    dsimp only
    rw [Descriptors.dup_closes]

theorem spares_setRotatorFd (releaseFd : Int) {state : SyncState} {i : Nat} (hne : fence ≠ state.mRelFence i) :
    Spares fence state (setRotatorFd releaseFd state i) := by
  rw [setRotatorFd]
  dsimp only
  have hnext := state.fds.dup_next_le releaseFd
  refine ⟨rfl, by simpa using hnext, fun hlt hpos => ?_, fun hopen => (hopen.dup _).close hne⟩
  rw [Descriptors.count_close _ hpos (by omega), if_neg (Ne.symm hne), Descriptors.dup_closes,
    Nat.add_zero]

theorem spares_foldl_setRotatorFd (releaseFd : Int) (entries : List Nat) (hnodup : entries.Nodup) :
    ∀ state : SyncState, (∀ i ∈ entries, fence ≠ state.mRelFence i) →
      Spares fence state (entries.foldl (setRotatorFd releaseFd) state) := by
  induction entries with
  | nil => exact fun state _ => ⟨rfl, Nat.le_refl _, fun _ _ => rfl, id⟩
  | cons i entries ih =>
    intro state hne
    obtain ⟨hi, hnodup⟩ := List.nodup_cons.mp hnodup
    refine (spares_setRotatorFd releaseFd (hne i List.mem_cons_self)).trans (ih hnodup _ fun j hj => ?_)
    have hji : j ≠ i := fun heq => hi (heq ▸ hj)
    rw [setRotatorFd]
    dsimp only
    rw [Function.update_of_ne hji]
    exact hne j (List.mem_cons_of_mem i hj)

theorem spares_settle (target : SyncTarget) {rotMap : LayerRotMap} (hnodup : rotMap.mLayer.Nodup)
    {fd releaseFd : Int} {state : SyncState} (hfd : fence ≠ fd) (hrelease : fence ≠ releaseFd)
    (hcopybit : ∀ old ∈ state.mRelFd, fence ≠ old) (hrotator : ∀ i ∈ rotMap.mLayer, fence ≠ state.mRelFence i) :
    Spares fence state (state.settle target rotMap fd releaseFd) := by
  have hclosed := spares_close hfd state
  have hcopied := hclosed.trans
    (@spares_setCopyBitFd fence releaseFd { state with fds := state.fds.close fd } hcopybit)
  have hsame : (setCopyBitFd releaseFd { state with fds := state.fds.close fd }).mRelFence =
      state.mRelFence := by
    rw [setCopyBitFd]
    split <;> rfl
  rw [settle]
  split
  · have hrotated := hcopied.trans
      (spares_foldl_setRotatorFd releaseFd rotMap.mLayer hnodup _ (by rwa [hsame]))
    exact hrotated.trans (spares_close hrelease _)
  · exact hcopied.trans (spares_close hrelease _)

/-! ### `closeAcquireFds` -/

theorem closeAcquireFd_releaseFenceFd (fds : Descriptors) (layers : List FencedLayer) :
    (threadMap closeAcquireFd fds layers).2.map (·.releaseFenceFd) = layers.map (·.releaseFenceFd) := by
  apply threadMap_map
  intro fds layer
  rw [closeAcquireFd]
  split <;> rfl

theorem closeAcquireFds_spec (layers : List FencedLayer) :
    ∀ fds : Descriptors, ∃ last new, threadMap closeAcquireFd fds layers = (last, new) ∧
      (∀ fence : Int, 0 ≤ fence → fence < fds.next →
        last.closes.count fence = fds.closes.count fence + (acquired layers).count fence) ∧
      ∀ fence, fds.IsOpen fence → fence ∉ acquired layers → last.IsOpen fence := by
  induction layers with
  | nil =>
    intro fds
    exact ⟨fds, [], rfl, fun _ _ _ => by simp [acquired], fun _ hopen _ => hopen⟩
  | cons layer layers ih =>
    intro fds
    have hlayer : (closeAcquireFd fds layer).1 = fds.close layer.acquireFenceFd := by
      rw [closeAcquireFd]
      split
      · rfl
      next hneg => rw [Descriptors.close, dif_neg (fun hin => hneg hin.1)]
    obtain ⟨last, new, heq, hcount, hopen⟩ := ih (closeAcquireFd fds layer).1
    rw [threadMap_cons, heq]
    refine ⟨last, _, rfl, fun fence hpos hlt => ?_, fun fence hfence hne => ?_⟩
    · rw [hcount fence hpos (by rwa [hlayer, Descriptors.close_next]), hlayer,
        Descriptors.count_close _ hpos hlt, acquired, acquired, List.map_cons, List.count_cons]
      simp only [beq_iff_eq]
      omega
    · rw [acquired, List.map_cons, List.mem_cons, not_or] at hne
      rw [hlayer] at hopen
      exact hopen fence (hfence.close hne.1) hne.2

/-! ### The whole frame -/

theorem bufferFences_spec (accepted : Bool) (fds : Descriptors) :
    ∃ last releaseFd retireFd, bufferFences accepted fds = (last, releaseFd, retireFd) ∧
      last.closes = fds.closes ∧ fds.next ≤ last.next ∧
      (∀ fence, fds.IsOpen fence → last.IsOpen fence) ∧
      (releaseFd = -1 ∨ fds.next ≤ releaseFd ∧ releaseFd < last.next) := by
  rw [bufferFences]
  split
  · refine ⟨_, _, _, rfl, rfl, (Nat.le_succ _).trans (Nat.le_succ _),
      fun _ hopen => hopen.create.create, .inr ⟨le_refl _, ?_⟩⟩
    exact (fds.isOpen_create.create).2.1
  · exact ⟨_, _, _, rfl, rfl, Nat.le_refl _, fun _ hopen => hopen, .inl rfl⟩

variable {rotMap : LayerRotMap} {fd : Int}

theorem Received.running_rotators (hreceived : before.Received rotMap fd) (target : SyncTarget)
    (rotatorSync : Nat → Int → Bool) :
    Running before rotatorSync (if syncsRotator target then rotMap.mLayer else [])
      (if syncsRotator target then rotMap.mLayer.foldl (syncRotator rotatorSync) before
        else before) := by
  split
  · exact Running.foldl rotMap.mLayer [] before hreceived.running hreceived.nodup hreceived.layer_lt
  · exact hreceived.running

theorem Foreign.ne {other : Int} (hforeign : before.Foreign other) (hpos : 0 ≤ fence)
    (hfence : fence ∈ acquired before.layers ∨ (before.fds.next : Int) ≤ fence) : fence ≠ other := by
  rintro rfl
  rcases hfence with hmem | hnew
  · exact hforeign.2 hpos hmem
  · have := hforeign.1
    omega

private theorem releaseFence_iff {target : SyncTarget} {made given last : Descriptors} {i : Nat}
    {old middle new : FencedLayer} (hreceived : before.Received rotMap fd)
    (hold : before.layers[i]? = some old) (hrotated : Rotated before state rotatorSync done i old middle)
    (hdone : i ∈ done ↔ syncsRotator target = true ∧ i ∈ rotMap.mLayer)
    (hpopulated : Populated target fd made given middle new)
    (hkept : ∀ fence : Int, IsNew before state.fds state.layers fence ∨
      made.next ≤ fence ∧ given.IsOpen fence → last.IsOpen fence)
    (hnext : before.fds.next ≤ made.next) :
    (new.releaseFenceFd = -1 ∨ before.fds.next ≤ new.releaseFenceFd ∧ last.IsOpen new.releaseFenceFd) ↔
      (syncsRotator target = true → i ∈ rotMap.mLayer →
        rotatorSync i old.acquireFenceFd = true ∨
          old.isShown = true ∧ (target.swapzero = true ∨ 0 ≤ fd)) := by
  obtain ⟨hshown, hrotated⟩ := hrotated
  rw [Populated, hshown] at hpopulated
  split at hpopulated
  next hdropped => exact iff_of_true (.inl hpopulated) fun _ _ => .inr hdropped
  next hshows =>
    by_cases hi : i ∈ done
    · rw [if_pos hi] at hrotated
      split at hrotated
      next haccepted =>
        -- The fence of the rotator is not overwritten.
        have hpos := hrotated.isOpen.1
        have hsame : new.releaseFenceFd = middle.releaseFenceFd :=
          hpopulated.resolve_right fun hmissing => absurd hmissing.1 (by omega)
        rw [hsame]
        exact iff_of_true (.inr ⟨hrotated.next_le, hkept _ (.inl hrotated)⟩) fun _ _ => .inl haccepted
      next hrefused =>
        have hzero : new.releaseFenceFd = 0 := by
          rcases hpopulated with hsame | ⟨hmissing, -⟩
          · rw [hsame, hrotated]
          · omega
        have := hreceived.stdin
        refine iff_of_false (by omega) fun hserved => ?_
        obtain ⟨hsync, hmem⟩ := hdone.mp hi
        exact (hserved hsync hmem).elim hrefused hshows
    · rw [if_neg hi] at hrotated
      have hnone : middle.releaseFenceFd = -1 := by
        rw [hrotated]
        exact hreceived.release old (List.mem_of_getElem? hold)
      refine iff_of_true ?_ fun hsync hmem => absurd (hdone.mpr ⟨hsync, hmem⟩) hi
      rcases hpopulated with hsame | ⟨-, hmissing | ⟨hge, hopen⟩⟩
      · exact .inl (hsame.trans hnone)
      · exact .inl hmissing
      · exact .inr ⟨by omega, hkept _ (.inr ⟨hge, hopen⟩)⟩

theorem hwcSync_spec (hreceived : before.Received rotMap fd) (target : SyncTarget)
    (rotatorSync : Nat → Int → Bool) (bufferSync : BufSync → Bool) {after : SyncState}
    (hafter : (before.hwcSync target rotMap rotatorSync bufferSync fd).1.closeAcquireFds = after) :
    (∀ acquireFd ∈ acquired before.layers, 0 ≤ acquireFd → after.fds.closes.count acquireFd = 1) ∧
      after.layers.length = before.layers.length ∧
      ∀ (i : Nat) (layer new : FencedLayer), before.layers[i]? = some layer → after.layers[i]? = some new →
        ((new.releaseFenceFd = -1 ∨
            before.fds.next ≤ new.releaseFenceFd ∧ after.fds.IsOpen new.releaseFenceFd) ↔
          (syncsRotator target = true → i ∈ rotMap.mLayer →
            rotatorSync i layer.acquireFenceFd = true ∨
              layer.isShown = true ∧ (target.swapzero = true ∨ 0 ≤ fd))) := by
  have hrunning := hreceived.running_rotators target rotatorSync
  rw [hwcSync, distribute] at hafter
  generalize hdone : (if syncsRotator target = true then rotMap.mLayer else []) = done at hrunning
  generalize (if syncsRotator target = true then rotMap.mLayer.foldl (syncRotator rotatorSync) before
    else before) = rotated at hrunning hafter
  dsimp only at hafter
  obtain ⟨made, releaseFd, retireFd, hfences, hmadeCloses, hmadeNext, hmadeOpen, hreleaseFd⟩ :=
    bufferFences_spec (!target.swapzero && bufferSync (request target fd rotated.layers)) rotated.fds
  obtain ⟨given, layers, hpopulate, hgivenCloses, hgivenNext, hgivenOpen, hall⟩ :=
    populate_spec target fd releaseFd rotated.layers made
  rw [hfences] at hafter
  dsimp only at hafter
  rw [hpopulate] at hafter
  dsimp only at hafter
  -- What the second half closes is neither an acquire fence nor a release fence.
  have hspares : ∀ fence : Int, 0 ≤ fence → fence ≠ releaseFd →
      (fence ∈ acquired before.layers ∨ (before.fds.next : Int) ≤ fence) → ∀ state : SyncState,
      state.mRelFd = before.mRelFd → state.mRelFence = before.mRelFence →
      Spares fence state (state.settle target rotMap fd releaseFd) := by
    intro fence hpos hne hfence state hmRelFd hmRelFence
    refine spares_settle target hreceived.nodup (hreceived.copybit.ne hpos hfence) hne ?_ ?_
    · rw [hmRelFd]
      exact fun old hold => (hreceived.mRelFd old hold).ne hpos hfence
    · rw [hmRelFence]
      exact fun i hi => (hreceived.mRelFence i hi).ne hpos hfence
  generalize hstate : ({ rotated with
    fds := given
    layers := layers
    retireFenceFd := if target.swapzero = true then -1 else retireFd } : SyncState) = state at hafter
  have hstateFds : state.fds = given := by rw [← hstate]
  have hstateLayers : state.layers = layers := by rw [← hstate]
  replace hspares := fun fence hpos hne hfence => hspares fence hpos hne hfence state
    (by rw [← hstate]; exact hrunning.kept.2) (by rw [← hstate]; exact hrunning.kept.1)
  generalize hsettled : state.settle target rotMap fd releaseFd = settled at hafter hspares
  obtain ⟨last, new, hclose, hlastCount, hlastOpen⟩ :=
    closeAcquireFds_spec settled.layers settled.fds
  have hrelease := closeAcquireFd_releaseFenceFd settled.fds settled.layers
  have hacquired := populate_acquired target.swapzero fd releaseFd made rotated.layers
  rw [closeAcquireFds, hclose] at hafter
  rw [hclose] at hrelease
  rw [hpopulate] at hacquired
  dsimp only at hrelease hacquired
  have hlayers : settled.layers = layers := by
    have hbeyond := hspares (max before.fds.next (releaseFd + 1)) (by omega) (by omega) (.inr (by omega))
    rw [hbeyond.1, hstateLayers]
  rw [hlayers] at hlastCount hlastOpen hrelease
  rw [hacquired] at hlastCount hlastOpen
  have hkeep : ∀ fence : Int, before.fds.next ≤ fence → given.IsOpen fence → fence ≠ releaseFd →
      fence ∉ acquired rotated.layers → last.IsOpen fence := by
    intro fence hge hopen hne hnot
    have hspared := hspares fence hopen.1 hne (.inr hge)
    exact hlastOpen fence (hspared.2.2.2 (by rwa [hstateFds])) hnot
  have hnext := hrunning.next_le
  subst hafter
  refine ⟨fun acquireFd hmem hpos => ?_, ?_, fun i old final hold hfinal => ?_⟩
  · have hopen := hreceived.acquireOpen acquireFd hmem hpos
    have hlt := hopen.2.1
    have hone : (acquired before.layers).count acquireFd = 1 := by
      have hin : acquireFd ∈ (acquired before.layers).filter fun acquireFd => decide (0 ≤ acquireFd) :=
        List.mem_filter.mpr ⟨hmem, decide_eq_true hpos⟩
      have hcount := List.count_eq_one_of_mem hreceived.distinct hin
      rwa [List.count_filter (by simpa using hpos)] at hcount
    have hspared := hspares acquireFd hpos (by omega) (.inl hmem)
    have howed := hrunning.owed acquireFd hpos hlt
    rw [List.count_eq_zero_of_not_mem hopen.2.2, hone] at howed
    have hgiven : acquireFd < given.next := by omega
    rw [hlastCount acquireFd hpos, hspared.2.2.1 (by rwa [hstateFds]) hpos, hstateFds, hgivenCloses,
      hmadeCloses, howed]
    have := hspared.2.1
    rw [hstateFds] at this
    omega
  · have hlength := congrArg List.length hrelease
    rw [List.length_map, List.length_map, ← hall.length_eq, hrunning.length] at hlength
    exact hlength
  · -- The layer behind the loop over the rotators, and the release fence it is given there.
    have hlt : i < before.layers.length := (List.getElem?_eq_some_iff.mp hold).1
    obtain ⟨middle, hmiddle⟩ : ∃ middle, rotated.layers[i]? = some middle :=
      ⟨_, List.getElem?_eq_getElem (hrunning.length.symm ▸ hlt)⟩
    obtain ⟨given', hgiven', hfence⟩ : ∃ given', layers[i]? = some given' ∧
        given'.releaseFenceFd = final.releaseFenceFd := by
      have hentry := congrArg (fun fences => fences[i]?) hrelease
      simp only [List.getElem?_map] at hentry
      dsimp only at hfinal
      rw [hfinal] at hentry
      obtain ⟨given', hgiven', heq⟩ := Option.map_eq_some_iff.mp hentry.symm
      exact ⟨given', hgiven', heq⟩
    have hpopulated : Populated target fd made given middle given' := by
      obtain ⟨hi, heq⟩ := List.getElem?_eq_some_iff.mp hmiddle
      obtain ⟨hi', heq'⟩ := List.getElem?_eq_some_iff.mp hgiven'
      have hget := hall.get hi hi'
      rwa [List.get_eq_getElem, List.get_eq_getElem, heq, heq'] at hget
    rw [← hfence]
    have hin : i ∈ done ↔ syncsRotator target = true ∧ i ∈ rotMap.mLayer := by
      rw [← hdone]
      split
      · simp [*]
      · simp [*]
    refine releaseFence_iff hreceived hold (hrunning.layer i old middle hold hmiddle) hin hpopulated
      (fun fence hfence => ?_) (by omega)
    rcases hfence with hrotated | ⟨hge, hopen⟩
    · have hlt := hrotated.isOpen.2.1
      have hpos := hrotated.isOpen.1
      exact hkeep fence hrotated.next_le (hgivenOpen _ (hmadeOpen _ hrotated.isOpen)) (by omega)
        hrotated.notAcquired
    · refine hkeep fence (by omega) hopen (by omega) fun hmem => ?_
      have := hrunning.acquired_lt _ hmem
      omega

/-- The acquire fences are always closed once; the release fences are new, or missing, exactly when every
rotator makes its fence or the layer's fence is dropped for the display's sake. -/
theorem hwcSync_balanced_iff (hreceived : before.Received rotMap fd) (target : SyncTarget)
    (rotatorSync : Nat → Int → Bool) (bufferSync : BufSync → Bool) :
    before.Balanced (before.hwcSync target rotMap rotatorSync bufferSync fd).1.closeAcquireFds ↔
      before.RotatorsServed target rotMap rotatorSync fd := by
  obtain ⟨hclosed, hlength, hlayer⟩ := hwcSync_spec hreceived target rotatorSync bufferSync rfl
  constructor
  · rintro ⟨-, hbalanced⟩ hsync i hi old hold
    have hlt := hreceived.layer_lt i hi
    rw [← hlength] at hlt
    obtain ⟨new, hnew⟩ : ∃ new, (before.hwcSync target rotMap rotatorSync bufferSync
        fd).1.closeAcquireFds.layers[i]? = some new := ⟨_, List.getElem?_eq_getElem hlt⟩
    exact (hlayer i old new hold hnew).mp (hbalanced new (List.mem_of_getElem? hnew)) hsync hi
  · intro hserved
    refine ⟨hclosed, fun new hnew => ?_⟩
    obtain ⟨i, hi⟩ := List.mem_iff_getElem?.mp hnew
    have hlt : i < before.layers.length := hlength ▸ (List.getElem?_eq_some_iff.mp hi).1
    obtain ⟨old, hold⟩ : ∃ old, before.layers[i]? = some old := ⟨_, List.getElem?_eq_getElem hlt⟩
    exact (hlayer i old new hold hi).mpr fun hsync hmem => hserved hsync i hmem old hold

/-! ### A frame with a rotated video -/

instance (before after : SyncState) : Decidable (Balanced before after) :=
  inferInstanceAs (Decidable (_ ∧ _))

def sampleFrame : SyncState where
  fds := ⟨20, [], List.forall_mem_nil _⟩
  layers := [⟨.overlay, true, 10, -1⟩, ⟨.framebufferTarget, false, 11, -1⟩]
  mRelFence := fun _ => -1
  mRelFd := none
  retireFenceFd := -1

def sampleRotMap : LayerRotMap := LayerRotMap.empty.add 0

theorem received_sampleFrame : sampleFrame.Received sampleRotMap (-1) where
  acquireOpen := by decide
  distinct := by decide
  release := by decide
  copybit := by decide
  mRelFd := by simp [sampleFrame]
  mRelFence := by decide
  nodup := by decide
  layer_lt := by decide
  stdin := by decide

/-- The frame is balanced when the rotator makes its fence. -/
theorem hwcSync_balanced_sample :
    sampleFrame.Balanced (sampleFrame.hwcSync ⟨false, mdpV41, false⟩ sampleRotMap (fun _ _ => true)
      (fun _ => true) (-1)).1.closeAcquireFds :=
  (hwcSync_balanced_iff received_sampleFrame _ _ _).mpr fun _ _ _ _ _ => .inl rfl

/-- When the rotator makes none, the video gets descriptor 0 for its release fence. -/
theorem hwcSync_refusedRotator :
    sampleFrame.Received sampleRotMap (-1) ∧
      ¬sampleFrame.Balanced (sampleFrame.hwcSync ⟨false, mdpV41, false⟩ sampleRotMap
        (fun _ _ => false) (fun _ => true) (-1)).1.closeAcquireFds :=
  ⟨received_sampleFrame, by decide⟩

end SyncState

end Nozomi
