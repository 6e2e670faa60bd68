import Mathlib.Algebra.BigOperators.Group.List.Basic
import Mathlib.Data.List.InsertIdx
import Nozomi.Audio.Code

/-!
# Reference counts of sound devices

A usecase holds one reference on its output device and one on its input device. While a usecase is moved,
its own references are set apart from those of the rest of the list, which the two loops of a switch move
from the old devices to the new one.
-/

namespace Nozomi

open AudioDevices

/-! ### References of a list -/

def SndDevice.holds (held sndDevice : SndDevice) : Nat := if held = sndDevice then 1 else 0

def AudioUsecase.references (usecase : AudioUsecase) (sndDevice : SndDevice) : Nat :=
  usecase.outSndDevice.holds sndDevice + usecase.inSndDevice.holds sndDevice

def references (usecases : List AudioUsecase) (sndDevice : SndDevice) : Nat :=
  (usecases.map fun usecase => usecase.references sndDevice).sum

theorem SndDevice.none_holds {sndDevice : SndDevice} (hdevice : sndDevice ≠ .none) :
    SndDevice.none.holds sndDevice = 0 :=
  if_neg (Ne.symm hdevice)

theorem references_eq_countP (usecases : List AudioUsecase) (sndDevice : SndDevice) :
    references usecases sndDevice =
      usecases.countP (fun usecase => usecase.outSndDevice = sndDevice) +
        usecases.countP (fun usecase => usecase.inSndDevice = sndDevice) := by
  induction usecases with
  | nil => rfl
  | cons usecase usecases ih =>
    have hcons : references (usecase :: usecases) sndDevice =
        usecase.references sndDevice + references usecases sndDevice := by
      simp [references]
    rw [hcons, ih, List.countP_cons, List.countP_cons, AudioUsecase.references, SndDevice.holds,
      SndDevice.holds]
    simp only [decide_eq_true_eq]
    omega

theorem sum_map_eraseIdx {α : Type} {items : List α} {item : α} {position : Nat} (f : α → Nat)
    (hitem : items[position]? = some item) :
    (items.map f).sum = ((items.eraseIdx position).map f).sum + f item := by
  induction items generalizing position with
  | nil => simp at hitem
  | cons head items ih =>
    cases position with
    | zero =>
      obtain rfl : head = item := by simpa using hitem
      simp [Nat.add_comm]
    | succ position =>
      have hrest := ih (by simpa using hitem)
      simp only [List.map_cons, List.sum_cons, List.eraseIdx_cons_succ, hrest]
      omega

theorem references_eraseIdx {usecases : List AudioUsecase} {usecase : AudioUsecase} {position : Nat}
    (hitem : usecases[position]? = some usecase) (sndDevice : SndDevice) :
    references usecases sndDevice =
      references (usecases.eraseIdx position) sndDevice + usecase.references sndDevice :=
  sum_map_eraseIdx _ hitem

namespace AudioDevice

/-! ### What keeps the rest of the state -/

section

variable (adev : AudioDevice) (sndDevice : SndDevice)

@[simp] theorem enableSndDevice_usecaseList :
    (adev.enableSndDevice sndDevice).usecaseList = adev.usecaseList := by
  rw [enableSndDevice]
  split
  · rfl
  · dsimp only
    split <;> rfl

@[simp] theorem disableSndDevice_usecaseList :
    (adev.disableSndDevice sndDevice).usecaseList = adev.usecaseList := by
  rw [disableSndDevice]
  split
  · rfl
  · split
    · rfl
    · dsimp only
      split <;> rfl

@[simp] theorem enableSndDevice_settings :
    (adev.enableSndDevice sndDevice).toAudioSettings = adev.toAudioSettings := by
  rw [enableSndDevice]
  split
  · rfl
  · dsimp only
    split <;> rfl

@[simp] theorem disableSndDevice_settings :
    (adev.disableSndDevice sndDevice).toAudioSettings = adev.toAudioSettings := by
  rw [disableSndDevice]
  split
  · rfl
  · split
    · rfl
    · dsimp only
      split <;> rfl

theorem enableSndDevice_sndDevRefCnt (hdevice : sndDevice ≠ .none) :
    (adev.enableSndDevice sndDevice).sndDevRefCnt =
      Function.update adev.sndDevRefCnt sndDevice (adev.sndDevRefCnt sndDevice + 1) := by
  rw [enableSndDevice, if_neg hdevice]
  dsimp only
  split <;> rfl

theorem disableSndDevice_sndDevRefCnt (hdevice : sndDevice ≠ .none)
    (hpositive : ¬adev.sndDevRefCnt sndDevice ≤ 0) :
    (adev.disableSndDevice sndDevice).sndDevRefCnt =
      Function.update adev.sndDevRefCnt sndDevice (adev.sndDevRefCnt sndDevice - 1) := by
  rw [disableSndDevice, if_neg hdevice, if_neg hpositive]
  dsimp only
  split <;> rfl

end

/-! ### Counting -/

def Counts (adev : AudioDevice) (count : SndDevice → Nat) : Prop :=
  ∀ sndDevice, sndDevice ≠ .none → adev.sndDevRefCnt sndDevice = count sndDevice

section

variable {adev : AudioDevice} {count : SndDevice → Nat}

theorem Counts.congr {other : SndDevice → Nat} (hcounts : adev.Counts count)
    (hcount : ∀ sndDevice, sndDevice ≠ .none → count sndDevice = other sndDevice) : adev.Counts other := by
  intro sndDevice hdevice
  rw [hcounts sndDevice hdevice, hcount sndDevice hdevice]

theorem Counts.enable (hcounts : adev.Counts count) (held : SndDevice) :
    (adev.enableSndDevice held).Counts fun sndDevice => count sndDevice + held.holds sndDevice := by
  intro sndDevice hdevice
  show (adev.enableSndDevice held).sndDevRefCnt sndDevice =
    ((count sndDevice + held.holds sndDevice : Nat) : Int)
  by_cases hheld : held = .none
  · subst hheld
    rw [enableSndDevice, if_pos rfl, hcounts sndDevice hdevice, SndDevice.none_holds hdevice, Nat.add_zero]
  · rw [enableSndDevice_sndDevRefCnt adev held hheld]
    by_cases hsame : held = sndDevice
    · subst hsame
      simp [hcounts held hheld, SndDevice.holds]
    · simp [Function.update_of_ne (Ne.symm hsame), hcounts sndDevice hdevice, SndDevice.holds, hsame]

theorem Counts.disable {held : SndDevice}
    (hcounts : adev.Counts fun sndDevice => count sndDevice + held.holds sndDevice) :
    (adev.disableSndDevice held).Counts count := by
  intro sndDevice hdevice
  have hcount : adev.sndDevRefCnt sndDevice =
      ((count sndDevice + held.holds sndDevice : Nat) : Int) := hcounts sndDevice hdevice
  by_cases hheld : held = .none
  · subst hheld
    rw [disableSndDevice, if_pos rfl, hcount, SndDevice.none_holds hdevice, Nat.add_zero]
  have hpositive : ¬adev.sndDevRefCnt held ≤ 0 := by
    have hown : adev.sndDevRefCnt held = ((count held + held.holds held : Nat) : Int) :=
      hcounts held hheld
    simp only [SndDevice.holds, if_true] at hown
    omega
  rw [disableSndDevice_sndDevRefCnt adev held hheld hpositive]
  by_cases hsame : held = sndDevice
  · subst hsame
    simp [hcount, SndDevice.holds]
  · simp [Function.update_of_ne (Ne.symm hsame), hcount, SndDevice.holds, hsame]

end

/-! ### Switching usecases -/

section

variable {switched : UsecaseId → Bool} {old other : AudioUsecase → SndDevice}
  {route : AudioUsecase → AudioUsecase} {sndDevice : SndDevice}

theorem foldl_disable_settings (usecases : List AudioUsecase) :
    ∀ adev : AudioDevice,
      (usecases.foldl (fun adev usecase =>
        if switched usecase.id then adev.disableSndDevice (old usecase) else adev) adev).toAudioSettings =
        adev.toAudioSettings := by
  induction usecases with
  | nil => exact fun _ => rfl
  | cons usecase usecases ih =>
    intro adev
    rw [List.foldl_cons, ih]
    split
    · exact disableSndDevice_settings adev _
    · rfl

theorem foldl_enable_settings (usecases : List AudioUsecase) :
    ∀ adev : AudioDevice,
      (usecases.foldl (fun adev usecase =>
        if switched usecase.id then adev.enableSndDevice sndDevice else adev) adev).toAudioSettings =
        adev.toAudioSettings := by
  induction usecases with
  | nil => exact fun _ => rfl
  | cons usecase usecases ih =>
    intro adev
    rw [List.foldl_cons, ih]
    split
    · exact enableSndDevice_settings adev _
    · rfl

@[simp] theorem switchUsecases_settings (adev : AudioDevice) :
    (adev.switchUsecases switched old route sndDevice).toAudioSettings = adev.toAudioSettings := by
  rw [switchUsecases]
  exact (foldl_enable_settings _ _).trans (foldl_disable_settings _ _)

theorem Counts.foldl_disable {count : SndDevice → Nat} (usecases : List AudioUsecase) :
    ∀ {adev : AudioDevice},
      adev.Counts (fun sndDevice => count sndDevice + (usecases.map fun usecase =>
        if switched usecase.id then (old usecase).holds sndDevice else 0).sum) →
      (usecases.foldl (fun adev usecase =>
        if switched usecase.id then adev.disableSndDevice (old usecase) else adev) adev).Counts count := by
  induction usecases with
  | nil => exact fun hcounts => hcounts
  | cons usecase usecases ih =>
    intro adev hcounts
    rw [List.foldl_cons]
    apply ih
    by_cases hswitched : switched usecase.id = true
    · rw [if_pos hswitched]
      apply Counts.disable
      apply hcounts.congr
      intro sndDevice _
      simp only [List.map_cons, List.sum_cons, hswitched, if_true]
      omega
    · rw [if_neg hswitched]
      apply hcounts.congr
      intro sndDevice _
      simp [hswitched]

theorem Counts.foldl_enable (usecases : List AudioUsecase) :
    ∀ {adev : AudioDevice} {count : SndDevice → Nat}, adev.Counts count →
      (usecases.foldl (fun adev usecase =>
        if switched usecase.id then adev.enableSndDevice sndDevice else adev) adev).Counts
          fun device => count device + (usecases.map fun usecase =>
            if switched usecase.id then sndDevice.holds device else 0).sum := by
  induction usecases with
  | nil => exact fun hcounts => hcounts
  | cons usecase usecases ih =>
    intro adev count hcounts
    rw [List.foldl_cons]
    by_cases hswitched : switched usecase.id = true
    · rw [if_pos hswitched]
      apply (ih (hcounts.enable sndDevice)).congr
      intro device _
      simp only [List.map_cons, List.sum_cons, hswitched, if_true]
      omega
    · rw [if_neg hswitched]
      apply (ih hcounts).congr
      intro device _
      simp [hswitched]

theorem references_split
    (hold : ∀ usecase device, usecase.references device = (old usecase).holds device +
      (other usecase).holds device) (usecases : List AudioUsecase) (device : SndDevice) :
    references usecases device =
      (usecases.map fun usecase =>
        if switched usecase.id then (other usecase).holds device else usecase.references device).sum +
      (usecases.map fun usecase => if switched usecase.id then (old usecase).holds device else 0).sum := by
  rw [← List.sum_map_add, references]
  apply congrArg List.sum
  apply List.map_congr_left
  intro usecase _
  split
  · rw [hold usecase device, Nat.add_comm]
  · rfl

theorem Counts.switchUsecases {adev : AudioDevice} {usecase : AudioUsecase} {position : Nat}
    {extra : SndDevice → Nat}
    (hold : ∀ usecase device, usecase.references device = (old usecase).holds device +
      (other usecase).holds device)
    (hroute : ∀ usecase device, (route usecase).references device = sndDevice.holds device +
      (other usecase).holds device)
    (hitem : adev.usecaseList[position]? = some usecase) (hkept : switched usecase.id = false)
    (hcounts : adev.Counts fun device =>
      references (adev.usecaseList.eraseIdx position) device + extra device) :
    (adev.switchUsecases switched old route sndDevice).Counts fun device =>
      references ((adev.switchUsecases switched old route sndDevice).usecaseList.eraseIdx position) device +
        extra device := by
  have hapart : ∀ held : AudioUsecase → SndDevice, ∀ device : SndDevice,
      (adev.usecaseList.map fun usecase => if switched usecase.id then (held usecase).holds device
        else 0).sum =
      ((adev.usecaseList.eraseIdx position).map fun usecase =>
        if switched usecase.id then (held usecase).holds device else 0).sum := by
    intro held device
    have hsum := sum_map_eraseIdx (fun usecase : AudioUsecase =>
      if switched usecase.id then (held usecase).holds device else 0) hitem
    simpa [hkept] using hsum
  have hdisabled : (adev.usecaseList.foldl (fun adev usecase =>
      if switched usecase.id then adev.disableSndDevice (old usecase) else adev) adev).Counts fun device =>
        ((adev.usecaseList.eraseIdx position).map fun usecase =>
          if switched usecase.id then (other usecase).holds device else usecase.references device).sum +
            extra device := by
    apply Counts.foldl_disable
    apply hcounts.congr
    intro device _
    rw [@references_split switched old other hold, hapart]
    omega
  apply (@Counts.foldl_enable switched sndDevice adev.usecaseList _ _ hdisabled).congr
  intro device _
  have hswitched := hapart (fun _ => sndDevice) device
  rw [hswitched, AudioDevice.switchUsecases]
  show _ = references ((adev.usecaseList.map fun usecase =>
    if switched usecase.id then route usecase else usecase).eraseIdx position) device + extra device
  rw [List.eraseIdx_map, references, List.map_map, Nat.add_right_comm, ← List.sum_map_add]
  congr 2
  apply List.map_congr_left
  intro usecase _
  show _ = (if switched usecase.id = true then route usecase else usecase).references device
  split
  · rw [hroute usecase device, Nat.add_comm]
  · rfl

end

/-! ### Moving a usecase -/

def ids (adev : AudioDevice) : List UsecaseId := adev.usecaseList.map (·.id)

end AudioDevice

def AudioUsecase.IsSided (usecase : AudioUsecase) : Prop :=
  (usecase.type = .pcmPlayback → usecase.inSndDevice = .none) ∧
    (usecase.type = .pcmCapture → usecase.outSndDevice = .none)

namespace AudioDevice

section

variable {adev : AudioDevice} {switches : Nat → AudioUsecase → Bool} {usecase : AudioUsecase}
  {position : Nat}

theorem switchDevice_eq_true {id : UsecaseId} :
    adev.switchDevice switches id = true ↔
      ∃ usecase position, adev.usecaseList[position]? = some usecase ∧ usecase.id = id ∧
        switches position usecase = true := by
  simp only [switchDevice, List.any_eq_true, Prod.exists, List.mk_mem_zipIdx_iff_getElem?,
    Bool.and_eq_true, decide_eq_true_eq]

theorem switchDevice_self (hdistinct : adev.ids.Nodup) (hitem : adev.usecaseList[position]? = some usecase)
    (hout : ∀ usecase, switches position usecase = false) : adev.switchDevice switches usecase.id = false := by
  rw [Bool.eq_false_iff, ne_eq, switchDevice_eq_true]
  rintro ⟨other, index, hother, hid, hswitches⟩
  have hsame : index = position := by
    have hindex : adev.ids[index]? = some usecase.id := by simp [ids, hother, hid]
    have hposition : adev.ids[position]? = some usecase.id := by simp [ids, hitem]
    obtain ⟨hlt, -⟩ := List.getElem?_eq_some_iff.mp hindex
    exact (List.getElem?_inj hlt hdistinct).mp (hindex.trans hposition.symm)
  rw [hsame, hout other] at hswitches
  exact Bool.noConfusion hswitches

theorem switchDevice_type {type : UsecaseType}
    (hout : ∀ position usecase, switches position usecase = true → usecase.type ≠ type)
    (hswitched : adev.switchDevice switches usecase.id = true) : usecase.type ≠ type := by
  obtain ⟨other, index, -, hid, hswitches⟩ := switchDevice_eq_true.mp hswitched
  rw [← usecase.typeOfId, ← hid, other.typeOfId]
  exact hout index other hswitches

end

/-- The usecase at a position gave up its references, but for those of `extra`. -/
structure Moving (adev : AudioDevice) (usecase : AudioUsecase) (position : Nat)
    (extra : SndDevice → Nat) : Prop where
  item : adev.usecaseList[position]? = some usecase
  distinct : adev.ids.Nodup
  sided : ∀ usecase ∈ adev.usecaseList, usecase.IsSided
  counts : adev.Counts fun sndDevice =>
    references (adev.usecaseList.eraseIdx position) sndDevice + extra sndDevice

section

variable {adev : AudioDevice} {usecase : AudioUsecase} {position : Nat} {extra : SndDevice → Nat}

theorem Moving.routes {after : AudioDevice} (hmoving : adev.Moving usecase position extra)
    (hlist : after.usecaseList = adev.usecaseList) (hcount : after.sndDevRefCnt = adev.sndDevRefCnt) :
    after.Moving usecase position extra := by
  constructor
  · rw [hlist]
    exact hmoving.item
  · rw [ids, hlist]
    exact hmoving.distinct
  · rw [hlist]
    exact hmoving.sided
  · rw [hlist]
    intro sndDevice hdevice
    rw [hcount]
    exact hmoving.counts sndDevice hdevice

theorem Moving.disable {held : SndDevice}
    (hmoving : adev.Moving usecase position fun sndDevice => extra sndDevice + held.holds sndDevice) :
    (adev.disableSndDevice held).Moving usecase position extra := by
  constructor
  · rw [disableSndDevice_usecaseList]
    exact hmoving.item
  · rw [ids, disableSndDevice_usecaseList]
    exact hmoving.distinct
  · rw [disableSndDevice_usecaseList]
    exact hmoving.sided
  · rw [disableSndDevice_usecaseList]
    apply Counts.disable
    apply hmoving.counts.congr
    intro sndDevice _
    exact (Nat.add_assoc _ _ _).symm

theorem Moving.enable (hmoving : adev.Moving usecase position extra) (held : SndDevice) :
    (adev.enableSndDevice held).Moving usecase position fun sndDevice =>
      extra sndDevice + held.holds sndDevice := by
  constructor
  · rw [enableSndDevice_usecaseList]
    exact hmoving.item
  · rw [ids, enableSndDevice_usecaseList]
    exact hmoving.distinct
  · rw [enableSndDevice_usecaseList]
    exact hmoving.sided
  · rw [enableSndDevice_usecaseList]
    apply (hmoving.counts.enable held).congr
    intro sndDevice _
    exact Nat.add_assoc _ _ _

theorem Moving.switchUsecases {switched : UsecaseId → Bool} {old : AudioUsecase → SndDevice}
    {route : AudioUsecase → AudioUsecase} {sndDevice : SndDevice}
    (hmoving : adev.Moving usecase position extra) (other : AudioUsecase → SndDevice)
    (hold : ∀ usecase device, usecase.references device = (old usecase).holds device +
      (other usecase).holds device)
    (hroute : ∀ usecase device, (route usecase).references device = sndDevice.holds device +
      (other usecase).holds device)
    (hid : ∀ usecase, (route usecase).id = usecase.id)
    (hsided : ∀ usecase, switched usecase.id = true → usecase.IsSided → (route usecase).IsSided)
    (hkept : switched usecase.id = false) :
    (adev.switchUsecases switched old route sndDevice).Moving usecase position extra := by
  have hlist : (adev.switchUsecases switched old route sndDevice).usecaseList =
      adev.usecaseList.map fun usecase => if switched usecase.id then route usecase else usecase := rfl
  constructor
  · rw [hlist, List.getElem?_map, hmoving.item, Option.map_some, hkept]
    rfl
  · have hids : (adev.switchUsecases switched old route sndDevice).ids = adev.ids := by
      rw [ids, hlist, List.map_map]
      apply List.map_congr_left
      intro usecase _
      show (if switched usecase.id = true then route usecase else usecase).id = usecase.id
      split
      · exact hid usecase
      · rfl
    rw [hids]
    exact hmoving.distinct
  · rw [hlist]
    intro routed hrouted
    obtain ⟨usecase, hmem, rfl⟩ := List.mem_map.mp hrouted
    split
    · rename_i hswitched
      exact hsided usecase hswitched (hmoving.sided usecase hmem)
    · exact hmoving.sided usecase hmem
  · exact Counts.switchUsecases hold hroute hmoving.item hkept hmoving.counts

theorem Moving.disableRoutes (hmoving : adev.Moving usecase position extra)
    (switches : Nat → AudioUsecase → Bool) : (adev.disableRoutes switches).Moving usecase position extra :=
  hmoving.routes rfl rfl

theorem Moving.leaveSndDevice {held : SndDevice} (left : AudioUsecase)
    (hmoving : adev.Moving usecase position fun sndDevice => extra sndDevice + held.holds sndDevice) :
    (adev.leaveSndDevice left held).Moving usecase position extra := by
  have hunrouted : (adev.disableAudioRoute left).Moving usecase position fun sndDevice =>
      extra sndDevice + held.holds sndDevice := hmoving.routes rfl rfl
  rw [AudioDevice.leaveSndDevice]
  split
  · exact hunrouted.disable
  · rename_i hheld
    rw [not_not.mp hheld] at hmoving
    refine ⟨hmoving.item, hmoving.distinct, hmoving.sided, hmoving.counts.congr ?_⟩
    intro sndDevice hdevice
    rw [SndDevice.none_holds hdevice, Nat.add_zero]

theorem Moving.routePlayback (hmoving : adev.Moving usecase position extra) (sndDevice : SndDevice) :
    (adev.checkAndRoutePlaybackUsecases position sndDevice).Moving usecase position extra := by
  apply (hmoving.disableRoutes _).switchUsecases fun usecase => usecase.inSndDevice
  · intro usecase device
    rfl
  · intro usecase device
    rfl
  · intro usecase
    rfl
  · intro usecase hswitched hsided
    have htype : usecase.type ≠ .pcmCapture :=
      switchDevice_type (by simp +contextual [switchesPlayback]) hswitched
    exact ⟨hsided.1, fun hcapture => absurd hcapture htype⟩
  · exact switchDevice_self hmoving.distinct hmoving.item (by simp [switchesPlayback])

theorem Moving.routeCapture (hmoving : adev.Moving usecase position extra) (sndDevice : SndDevice) :
    (adev.checkAndRouteCaptureUsecases position sndDevice).Moving usecase position extra := by
  apply (hmoving.disableRoutes _).switchUsecases fun usecase => usecase.outSndDevice
  · intro usecase device
    exact Nat.add_comm _ _
  · intro usecase device
    exact Nat.add_comm _ _
  · intro usecase
    rfl
  · intro usecase hswitched hsided
    have htype : usecase.type ≠ .pcmPlayback :=
      switchDevice_type (by simp +contextual [switchesCapture]) hswitched
    exact ⟨fun hplayback => absurd hplayback htype, hsided.2⟩
  · exact switchDevice_self hmoving.distinct hmoving.item (by simp [switchesCapture])

end

/-! ### Selecting devices -/

/-- The reference counts are those of the list, and each usecase keeps to its directions. -/
structure Balanced (adev : AudioDevice) : Prop where
  sided : ∀ usecase ∈ adev.usecaseList, usecase.IsSided
  counts : adev.Counts (references adev.usecaseList)

section

variable {adev : AudioDevice} {usecase : AudioUsecase} {position : Nat}

theorem Moving.congr {extra other : SndDevice → Nat} (hmoving : adev.Moving usecase position extra)
    (hextra : ∀ sndDevice, sndDevice ≠ .none → extra sndDevice = other sndDevice) :
    adev.Moving usecase position other :=
  ⟨hmoving.item, hmoving.distinct, hmoving.sided, hmoving.counts.congr fun sndDevice hdevice => by
    rw [hextra sndDevice hdevice]⟩

theorem Balanced.moving (hbalanced : adev.Balanced) (hdistinct : adev.ids.Nodup)
    (hitem : adev.usecaseList[position]? = some usecase) :
    adev.Moving usecase position fun sndDevice =>
      usecase.inSndDevice.holds sndDevice + usecase.outSndDevice.holds sndDevice := by
  refine ⟨hitem, hdistinct, hbalanced.sided, hbalanced.counts.congr ?_⟩
  intro sndDevice _
  rw [references_eraseIdx hitem, AudioUsecase.references]
  omega

theorem Balanced.leave (hbalanced : adev.Balanced) (hdistinct : adev.ids.Nodup)
    (hitem : adev.usecaseList[position]? = some usecase) :
    (adev.leaveSndDevices usecase).Moving usecase position fun _ => 0 := by
  have hmoving := (hbalanced.moving hdistinct hitem).congr fun sndDevice _ =>
    congrArg (· + usecase.outSndDevice.holds sndDevice)
      (Nat.zero_add (usecase.inSndDevice.holds sndDevice)).symm
  exact (hmoving.leaveSndDevice usecase).leaveSndDevice usecase

theorem Moving.enterOutput {extra : SndDevice → Nat} (hmoving : adev.Moving usecase position extra)
    (devices : AudioDevices) (sndDevice : SndDevice) :
    (adev.enterOutput position devices sndDevice).Moving usecase position fun device =>
      extra device + sndDevice.holds device := by
  rw [AudioDevice.enterOutput]
  by_cases hdevice : sndDevice = .none
  · rw [if_neg (not_not.mpr hdevice), hdevice]
    apply hmoving.congr
    intro device hne
    rw [SndDevice.none_holds hne, Nat.add_zero]
  · rw [if_pos hdevice]
    apply Moving.enable
    split
    · exact hmoving.routePlayback sndDevice
    · exact hmoving

theorem Moving.enterInput {extra : SndDevice → Nat} (hmoving : adev.Moving usecase position extra)
    (sndDevice : SndDevice) :
    (adev.enterInput position sndDevice).Moving usecase position fun device =>
      extra device + sndDevice.holds device := by
  rw [AudioDevice.enterInput]
  by_cases hdevice : sndDevice = .none
  · rw [if_neg (not_not.mpr hdevice), hdevice]
    apply hmoving.congr
    intro device hne
    rw [SndDevice.none_holds hne, Nat.add_zero]
  · rw [if_pos hdevice]
    apply Moving.enable
    exact hmoving.routeCapture sndDevice

theorem map_modify {β : Type} {f : AudioUsecase → β} {route : AudioUsecase → AudioUsecase}
    (hf : ∀ usecase, f (route usecase) = f usecase) (usecases : List AudioUsecase) (position : Nat) :
    (usecases.modify position route).map f = usecases.map f := by
  apply List.ext_getElem?
  intro index
  rw [List.getElem?_map, List.getElem?_map, List.getElem?_modify]
  cases usecases[index]? with
  | none => rfl
  | some usecase =>
    show some (f (if position = index then route usecase else usecase)) = some (f usecase)
    split
    · rw [hf]
    · rfl

theorem references_modify {route : AudioUsecase → AudioUsecase} {usecases : List AudioUsecase}
    (hitem : usecases[position]? = some usecase) (sndDevice : SndDevice) :
    references (usecases.modify position route) sndDevice =
      references (usecases.eraseIdx position) sndDevice + (route usecase).references sndDevice := by
  have hrouted : (usecases.modify position route)[position]? = some (route usecase) := by
    rw [List.getElem?_modify_eq, hitem]
    rfl
  rw [references_eraseIdx hrouted, List.eraseIdx_modify_of_eq]

theorem mem_modify {route : AudioUsecase → AudioUsecase} {usecases : List AudioUsecase}
    {routed : AudioUsecase} (hitem : usecases[position]? = some usecase)
    (hmem : routed ∈ usecases.modify position route) : routed ∈ usecases ∨ routed = route usecase := by
  obtain ⟨index, hindex⟩ := List.getElem?_of_mem hmem
  by_cases hposition : position = index
  · subst hposition
    rw [List.getElem?_modify_eq, hitem] at hindex
    exact .inr (Option.some.inj hindex).symm
  · rw [List.getElem?_modify_ne _ _ hposition] at hindex
    exact .inl (List.mem_of_getElem? hindex)

theorem Moving.setSndDevices {outSndDevice inSndDevice : SndDevice}
    (hmoving : adev.Moving usecase position fun sndDevice =>
      outSndDevice.holds sndDevice + inSndDevice.holds sndDevice)
    (houtput : usecase.type = .pcmCapture → outSndDevice = .none)
    (hinput : usecase.type = .pcmPlayback → inSndDevice = .none) :
    (adev.setSndDevices position outSndDevice inSndDevice).Balanced := by
  constructor
  · intro routed hrouted
    rcases mem_modify hmoving.item hrouted with hmem | rfl
    · exact hmoving.sided routed hmem
    · exact ⟨hinput, houtput⟩
  · apply hmoving.counts.congr
    intro sndDevice _
    rw [AudioDevice.setSndDevices, references_modify hmoving.item]
    rfl

theorem Balanced.moveUsecase (hbalanced : adev.Balanced) (hdistinct : adev.ids.Nodup)
    {outSndDevice inSndDevice : SndDevice}
    (houtput : ∀ usecase, adev.usecaseList[position]? = some usecase → usecase.type = .pcmCapture →
      outSndDevice = .none)
    (hinput : ∀ usecase, adev.usecaseList[position]? = some usecase → usecase.type = .pcmPlayback →
      inSndDevice = .none) :
    (adev.moveUsecase position outSndDevice inSndDevice).Balanced := by
  rw [AudioDevice.moveUsecase]
  cases hitem : adev.usecaseList[position]? with
  | none => exact hbalanced
  | some usecase =>
    dsimp only
    split
    · exact hbalanced
    · have hleft := hbalanced.leave hdistinct hitem
      have hentered := (hleft.enterOutput usecase.devices outSndDevice).enterInput inSndDevice
      have hset := Moving.setSndDevices (hentered.congr fun sndDevice _ => by rw [Nat.zero_add])
        (houtput usecase hitem) (hinput usecase hitem)
      exact ⟨hset.sided, hset.counts⟩

end

/-! ### The usecases and the settings stay -/

def entries (adev : AudioDevice) : List (UsecaseId × Nat) :=
  adev.usecaseList.map fun usecase => (usecase.id, usecase.stream)

theorem entries_ids (adev : AudioDevice) : adev.entries.map (·.1) = adev.ids := by
  rw [entries, List.map_map]
  rfl

section

variable (adev : AudioDevice)

/-- Two states with the same usecases in the list and the same settings. -/
def SameUsecases (adev other : AudioDevice) : Prop :=
  other.entries = adev.entries ∧ other.toAudioSettings = adev.toAudioSettings

theorem SameUsecases.ids {adev other : AudioDevice} (hsame : adev.SameUsecases other) :
    other.ids = adev.ids := by
  rw [← entries_ids, hsame.1, entries_ids]

theorem SameUsecases.refl : adev.SameUsecases adev := ⟨rfl, rfl⟩

theorem SameUsecases.trans {first second third : AudioDevice} (hfirst : first.SameUsecases second)
    (hsecond : second.SameUsecases third) : first.SameUsecases third :=
  ⟨hsecond.1.trans hfirst.1, hsecond.2.trans hfirst.2⟩

theorem enableSndDevice_same (sndDevice : SndDevice) : adev.SameUsecases (adev.enableSndDevice sndDevice) :=
  ⟨by rw [entries, enableSndDevice_usecaseList, entries], enableSndDevice_settings adev sndDevice⟩

theorem disableSndDevice_same (sndDevice : SndDevice) :
    adev.SameUsecases (adev.disableSndDevice sndDevice) :=
  ⟨by rw [entries, disableSndDevice_usecaseList, entries], disableSndDevice_settings adev sndDevice⟩

theorem switchUsecases_same {switched : UsecaseId → Bool} {old : AudioUsecase → SndDevice}
    {route : AudioUsecase → AudioUsecase} {sndDevice : SndDevice}
    (hroute : ∀ usecase, ((route usecase).id, (route usecase).stream) = (usecase.id, usecase.stream)) :
    adev.SameUsecases (adev.switchUsecases switched old route sndDevice) := by
  refine ⟨?_, switchUsecases_settings adev⟩
  show (adev.usecaseList.map fun usecase => if switched usecase.id then route usecase else usecase).map
    (fun usecase => (usecase.id, usecase.stream)) = adev.entries
  rw [entries, List.map_map]
  apply List.map_congr_left
  intro usecase _
  show (fun usecase : AudioUsecase => (usecase.id, usecase.stream))
    (if switched usecase.id = true then route usecase else usecase) = (usecase.id, usecase.stream)
  split
  · exact hroute usecase
  · rfl

theorem setDevices_same (position : Nat) (devices : AudioDevices) :
    adev.SameUsecases (adev.setDevices position devices) := by
  refine ⟨?_, rfl⟩
  apply map_modify
  exact fun _ => rfl

theorem setSndDevices_same (position : Nat) (outSndDevice inSndDevice : SndDevice) :
    adev.SameUsecases (adev.setSndDevices position outSndDevice inSndDevice) := by
  refine ⟨?_, rfl⟩
  apply map_modify
  exact fun _ => rfl

theorem leaveSndDevice_same (usecase : AudioUsecase) (sndDevice : SndDevice) :
    adev.SameUsecases (adev.leaveSndDevice usecase sndDevice) := by
  rw [leaveSndDevice]
  split
  · exact disableSndDevice_same (adev.disableAudioRoute usecase) sndDevice
  · exact SameUsecases.refl adev

theorem leaveSndDevices_same (usecase : AudioUsecase) :
    adev.SameUsecases (adev.leaveSndDevices usecase) :=
  (leaveSndDevice_same adev usecase _).trans (leaveSndDevice_same _ usecase _)

theorem enterOutput_same (position : Nat) (devices : AudioDevices) (sndDevice : SndDevice) :
    adev.SameUsecases (adev.enterOutput position devices sndDevice) := by
  rw [enterOutput]
  split
  · apply SameUsecases.trans _ (enableSndDevice_same _ _)
    split
    · exact switchUsecases_same (adev.disableRoutes _) fun _ => rfl
    · exact SameUsecases.refl adev
  · exact SameUsecases.refl adev

theorem enterInput_same (position : Nat) (sndDevice : SndDevice) :
    adev.SameUsecases (adev.enterInput position sndDevice) := by
  rw [enterInput]
  split
  · apply SameUsecases.trans _ (enableSndDevice_same _ _)
    exact switchUsecases_same (adev.disableRoutes _) fun _ => rfl
  · exact SameUsecases.refl adev

theorem moveUsecase_same (position : Nat) (outSndDevice inSndDevice : SndDevice) :
    adev.SameUsecases (adev.moveUsecase position outSndDevice inSndDevice) := by
  rw [moveUsecase]
  split
  · exact SameUsecases.refl adev
  · split
    · exact SameUsecases.refl adev
    · apply SameUsecases.trans _ (setSndDevices_same _ position outSndDevice inSndDevice)
      apply SameUsecases.trans _ (enterInput_same _ _ _)
      apply SameUsecases.trans _ (enterOutput_same _ _ _ _)
      exact leaveSndDevices_same adev _

theorem selectDevicesWith_keeps {select : AudioDevice → UsecaseId → AudioDevice} (ucId : UsecaseId)
    (keeps : AudioDevice → Prop) (hstart : keeps adev)
    (hset : ∀ other position devices, keeps other → keeps (other.setDevices position devices))
    (hselect : ∀ other input, keeps other → keeps (select other (adev.inputs input).usecase))
    (hmove : ∀ other usecase position outSndDevice inSndDevice, keeps other →
      adev.getUsecaseFromList ucId = some (usecase, position) →
      (usecase.type = .pcmCapture → outSndDevice = .none) →
      (usecase.type = .pcmPlayback → inSndDevice = .none) →
      keeps (other.moveUsecase position outSndDevice inSndDevice)) :
    keeps (adev.selectDevicesWith select ucId) := by
  cases hfound : adev.getUsecaseFromList ucId with
  | none =>
    rw [selectDevicesWith_none select hfound]
    exact hstart
  | some found =>
    obtain ⟨usecase, position⟩ := found
    cases htype : usecase.type with
    | voiceCall =>
      rw [selectDevicesWith_call select hfound (.inl htype)]
      apply hmove _ usecase _ _ _ (hset adev _ _ hstart) hfound <;> simp [htype]
    | pcmHfpCall =>
      rw [selectDevicesWith_call select hfound (.inr htype)]
      apply hmove _ usecase _ _ _ (hset adev _ _ hstart) hfound <;> simp [htype]
    | pcmCapture =>
      rw [selectDevicesWith_capture select hfound htype]
      apply hmove _ usecase _ _ _ (hset adev _ _ hstart) hfound <;> simp [htype]
    | pcmPlayback =>
      rw [selectDevicesWith_playback select hfound htype]
      have hrouted := hset adev position (adev.outputs usecase.stream).devices hstart
      apply hmove _ usecase _ _ _ _ hfound
      · simp [htype]
      · simp
      · cases adev.activeInput with
        | none => exact hrouted
        | some input =>
          dsimp only
          split
          · exact hselect _ input hrouted
          · exact hrouted

theorem selectDevicesWith_same {select : AudioDevice → UsecaseId → AudioDevice}
    (hselect : ∀ other ucId, SameUsecases other (select other ucId)) (ucId : UsecaseId) :
    adev.SameUsecases (adev.selectDevicesWith select ucId) := by
  apply selectDevicesWith_keeps adev ucId adev.SameUsecases (SameUsecases.refl adev)
  · exact fun next _ _ hnext => hnext.trans (setDevices_same next _ _)
  · exact fun next _ hnext => hnext.trans (hselect next _)
  · exact fun next _ _ _ _ hnext _ _ _ => hnext.trans (moveUsecase_same next _ _ _)

theorem selectDevices_same (ucId : UsecaseId) : adev.SameUsecases (adev.selectDevices ucId) := by
  apply selectDevicesWith_same
  intro other ucId
  exact selectDevicesWith_same other (fun next _ => SameUsecases.refl next) ucId

end

section

variable {adev : AudioDevice}

theorem getUsecaseFromList_item {ucId : UsecaseId} {usecase : AudioUsecase} {position : Nat}
    (hfound : adev.getUsecaseFromList ucId = some (usecase, position)) :
    adev.usecaseList[position]? = some usecase :=
  List.mk_mem_zipIdx_iff_getElem?.mp (List.mem_of_find?_eq_some hfound)

theorem type_of_same {other : AudioDevice} (hsame : adev.SameUsecases other) {position : Nat}
    {usecase routed : AudioUsecase} (hitem : adev.usecaseList[position]? = some usecase)
    (hrouted : other.usecaseList[position]? = some routed) : routed.type = usecase.type := by
  have hid : other.ids[position]? = adev.ids[position]? := by rw [hsame.ids]
  rw [ids, ids, List.getElem?_map, List.getElem?_map, hitem, hrouted] at hid
  have hsameId : routed.id = usecase.id := Option.some.inj hid
  rw [← routed.typeOfId, hsameId, usecase.typeOfId]

theorem Balanced.setDevices (hbalanced : adev.Balanced) (position : Nat) (devices : AudioDevices) :
    (adev.setDevices position devices).Balanced := by
  cases hitem : adev.usecaseList[position]? with
  | none =>
    have hsame : adev.setDevices position devices = adev := by
      rw [AudioDevice.setDevices, List.modify_eq_self (List.getElem?_eq_none_iff.mp hitem)]
    rw [hsame]
    exact hbalanced
  | some usecase =>
    constructor
    · intro routed hrouted
      rcases mem_modify hitem hrouted with hmem | rfl
      · exact hbalanced.sided routed hmem
      · exact hbalanced.sided usecase (List.mem_of_getElem? hitem)
    · apply hbalanced.counts.congr
      intro sndDevice _
      rw [AudioDevice.setDevices, references_modify hitem, references_eraseIdx hitem]
      rfl

theorem Balanced.selectDevicesWith {select : AudioDevice → UsecaseId → AudioDevice}
    (hsame : ∀ other ucId, SameUsecases other (select other ucId))
    (hselect : ∀ other ucId, Balanced other → other.ids.Nodup → (select other ucId).Balanced)
    (hbalanced : adev.Balanced) (hdistinct : adev.ids.Nodup) (ucId : UsecaseId) :
    (adev.selectDevicesWith select ucId).Balanced := by
  have hids : ∀ next, adev.SameUsecases next → next.ids.Nodup := by
    intro next hnext
    rw [hnext.ids]
    exact hdistinct
  have hkeeps : adev.SameUsecases (adev.selectDevicesWith select ucId) ∧
      (adev.selectDevicesWith select ucId).Balanced := by
    apply selectDevicesWith_keeps adev ucId fun next => adev.SameUsecases next ∧ next.Balanced
    · exact ⟨SameUsecases.refl adev, hbalanced⟩
    · exact fun next _ _ hnext => ⟨hnext.1.trans (setDevices_same next _ _), hnext.2.setDevices _ _⟩
    · exact fun next _ hnext =>
        ⟨hnext.1.trans (hsame next _), hselect next _ hnext.2 (hids next hnext.1)⟩
    · intro next usecase position _ _ hnext hfound houtput hinput
      have htype := fun routed => @type_of_same adev next hnext.1 position usecase routed
        (getUsecaseFromList_item hfound)
      refine ⟨hnext.1.trans (moveUsecase_same next _ _ _),
        hnext.2.moveUsecase (hids next hnext.1) ?_ ?_⟩
      · exact fun routed hrouted hcapture => houtput ((htype routed hrouted).symm.trans hcapture)
      · exact fun routed hrouted hplayback => hinput ((htype routed hrouted).symm.trans hplayback)
  exact hkeeps.2

theorem Balanced.selectDevices (hbalanced : adev.Balanced) (hdistinct : adev.ids.Nodup)
    (ucId : UsecaseId) : (adev.selectDevices ucId).Balanced := by
  apply Balanced.selectDevicesWith _ _ hbalanced hdistinct
  · exact fun other ucId => selectDevicesWith_same other (fun next _ => SameUsecases.refl next) ucId
  · intro other ucId hother hnodup
    apply Balanced.selectDevicesWith _ _ hother hnodup
    · exact fun next _ => SameUsecases.refl next
    · exact fun _ _ hnext _ => hnext

end

/-! ### Streams and calls -/

section

variable {adev : AudioDevice} {usecase : AudioUsecase} {position : Nat}

theorem Moving.removeUsecase {extra : SndDevice → Nat} (hmoving : adev.Moving usecase position extra)
    (hextra : ∀ sndDevice, sndDevice ≠ .none → extra sndDevice = 0) :
    (adev.removeUsecase position).Balanced := by
  constructor
  · intro usecase husecase
    exact hmoving.sided usecase (List.mem_of_mem_eraseIdx husecase)
  · apply hmoving.counts.congr
    intro sndDevice hdevice
    rw [hextra sndDevice hdevice]
    rfl

theorem foldl_routes {route : AudioDevice → AudioUsecase → AudioDevice}
    (hroute : ∀ adev usecase, ∃ applied, route adev usecase = { adev with applied := applied })
    (usecases : List AudioUsecase) :
    ∀ adev : AudioDevice, ∃ applied, usecases.foldl route adev = { adev with applied := applied } := by
  induction usecases with
  | nil => exact fun adev => ⟨adev.applied, rfl⟩
  | cons usecase usecases ih =>
    intro adev
    obtain ⟨first, hfirst⟩ := hroute adev usecase
    rw [List.foldl_cons, hfirst]
    exact ih { adev with applied := first }

theorem checkAndSetHdmiChannels_eq (adev : AudioDevice) (channels : Nat) :
    ∃ current applied, adev.checkAndSetHdmiChannels channels =
      { adev with curHdmiChannels := current, applied := applied } := by
  rw [checkAndSetHdmiChannels]
  split
  · exact ⟨adev.curHdmiChannels, adev.applied, rfl⟩
  split
  · exact ⟨adev.curHdmiChannels, adev.applied, rfl⟩
  · obtain ⟨derouted, hderouted⟩ := @foldl_routes (fun adev usecase => adev.disableAudioRoute usecase)
      (fun _ _ => ⟨_, rfl⟩) adev.hdmiUsecases { adev with curHdmiChannels := channels }
    obtain ⟨routed, hrouted⟩ := @foldl_routes (fun adev usecase => adev.enableAudioRoute usecase)
      (fun _ _ => ⟨_, rfl⟩) adev.hdmiUsecases
      { adev with curHdmiChannels := channels, applied := derouted }
    refine ⟨channels, routed, ?_⟩
    dsimp only
    rw [hderouted, hrouted]

theorem Balanced.checkAndSetHdmiChannels (hbalanced : adev.Balanced) (channels : Nat) :
    (adev.checkAndSetHdmiChannels channels).Balanced := by
  obtain ⟨current, applied, hset⟩ := checkAndSetHdmiChannels_eq adev channels
  rw [hset]
  exact ⟨hbalanced.sided, hbalanced.counts⟩

theorem setStreamHdmiChannels_eq (adev : AudioDevice) (out : Nat) :
    ∃ current applied, adev.setStreamHdmiChannels out =
      { adev with curHdmiChannels := current, applied := applied } := by
  rw [setStreamHdmiChannels]
  split
  · exact checkAndSetHdmiChannels_eq adev _
  · exact ⟨adev.curHdmiChannels, adev.applied, rfl⟩

theorem Balanced.stopOutputStream (hbalanced : adev.Balanced) (hdistinct : adev.ids.Nodup) (out : Nat) :
    (adev.stopOutputStream out).Balanced := by
  rw [AudioDevice.stopOutputStream]
  split
  · exact hbalanced
  rename_i usecase position hfound
  have hitem := getUsecaseFromList_item hfound
  have htype := (getUsecaseFromList_type hfound).trans (adev.outputs out).usecaseType
  have hinput := (hbalanced.sided usecase (List.mem_of_getElem? hitem)).1 htype
  have hmoving : (adev.disableAudioRoute usecase).Moving usecase position fun sndDevice =>
      usecase.inSndDevice.holds sndDevice + usecase.outSndDevice.holds sndDevice :=
    (hbalanced.moving hdistinct hitem).routes rfl rfl
  have hremoved := hmoving.disable.removeUsecase fun sndDevice hdevice => by
    rw [hinput, SndDevice.none_holds hdevice]
  dsimp only
  split
  · exact hremoved.checkAndSetHdmiChannels _
  · exact hremoved

theorem Balanced.stopInputStream (hbalanced : adev.Balanced) (hdistinct : adev.ids.Nodup) (input : Nat) :
    (adev.stopInputStream input).Balanced := by
  have hidle : ({ adev with activeInput := none } : AudioDevice).Balanced := ⟨hbalanced.1, hbalanced.2⟩
  rw [AudioDevice.stopInputStream]
  dsimp only
  split
  · exact hidle
  rename_i usecase position hfound
  have hitem := getUsecaseFromList_item hfound
  have htype := (getUsecaseFromList_type hfound).trans (adev.inputs input).usecaseType
  have houtput := (hbalanced.sided usecase (List.mem_of_getElem? hitem)).2 htype
  have hmoving := (hidle.moving hdistinct hitem).congr fun sndDevice _ =>
    Nat.add_comm (usecase.inSndDevice.holds sndDevice) (usecase.outSndDevice.holds sndDevice)
  have hunrouted : (({ adev with activeInput := none } : AudioDevice).disableAudioRoute usecase).Moving
      usecase position fun sndDevice =>
        usecase.outSndDevice.holds sndDevice + usecase.inSndDevice.holds sndDevice :=
    hmoving.routes rfl rfl
  apply hunrouted.disable.removeUsecase
  intro sndDevice hdevice
  rw [houtput, SndDevice.none_holds hdevice]

theorem Balanced.voiceStopUsecase (hbalanced : adev.Balanced) (hdistinct : adev.ids.Nodup)
    (usecaseId : UsecaseId) : (adev.voiceStopUsecase usecaseId).Balanced := by
  rw [AudioDevice.voiceStopUsecase]
  split
  · exact hbalanced
  rename_i usecase position hfound
  have hmoving := (hbalanced.moving hdistinct (getUsecaseFromList_item hfound)).congr fun sndDevice _ =>
    congrArg (· + usecase.outSndDevice.holds sndDevice)
      (Nat.zero_add (usecase.inSndDevice.holds sndDevice)).symm
  have hunrouted : (({ adev with callActive := false } : AudioDevice).disableAudioRoute usecase).Moving
      usecase position fun sndDevice =>
        0 + usecase.inSndDevice.holds sndDevice + usecase.outSndDevice.holds sndDevice :=
    hmoving.routes rfl rfl
  exact hunrouted.disable.disable.removeUsecase fun _ _ => rfl

theorem addUsecase_ids (id : UsecaseId) (devices : AudioDevices) (stream : Nat) :
    (adev.addUsecase id devices stream).ids = adev.ids ++ [id] := by
  rw [ids, addUsecase, List.map_append]
  rfl

theorem Balanced.addUsecase (hbalanced : adev.Balanced) (id : UsecaseId) (devices : AudioDevices)
    (stream : Nat) : (adev.addUsecase id devices stream).Balanced := by
  constructor
  · intro usecase husecase
    rcases List.mem_append.mp husecase with hmem | hmem
    · exact hbalanced.sided usecase hmem
    · obtain rfl := List.mem_singleton.mp hmem
      exact ⟨fun _ => rfl, fun _ => rfl⟩
  · apply hbalanced.counts.congr
    intro sndDevice hdevice
    simp [AudioDevice.addUsecase, references, AudioUsecase.references, SndDevice.none_holds hdevice]

theorem Balanced.addSelected (hbalanced : adev.Balanced) {id : UsecaseId}
    (hdistinct : (adev.ids ++ [id]).Nodup) (devices : AudioDevices) (stream : Nat) :
    ((adev.addUsecase id devices stream).selectDevices id).Balanced ∧
      ((adev.addUsecase id devices stream).selectDevices id).ids.Nodup := by
  have hids : (adev.addUsecase id devices stream).ids.Nodup := by
    rw [addUsecase_ids]
    exact hdistinct
  refine ⟨(hbalanced.addUsecase id devices stream).selectDevices hids id, ?_⟩
  rw [(selectDevices_same _ id).ids]
  exact hids

theorem Balanced.startOutputStream (hbalanced : adev.Balanced) {out : Nat}
    (hdistinct : (adev.ids ++ [(adev.outputs out).usecase]).Nodup) (opened : Bool) :
    (adev.startOutputStream out opened).1.Balanced := by
  obtain ⟨current, applied, hset⟩ := setStreamHdmiChannels_eq adev out
  have hchannels : ({ adev with curHdmiChannels := current, applied := applied } : AudioDevice).Balanced :=
    ⟨hbalanced.sided, hbalanced.counts⟩
  have hselected := hchannels.addSelected hdistinct (adev.outputs out).devices out
  rw [AudioDevice.startOutputStream, hset]
  dsimp only
  split
  · exact hbalanced
  · split
    · exact hselected.1
    · exact hselected.1.stopOutputStream hselected.2 out

theorem Balanced.startInputStream (hbalanced : adev.Balanced) {input : Nat}
    (hdistinct : (adev.ids ++ [(adev.inputs input).usecase]).Nodup) (opened : Bool) :
    (adev.startInputStream input opened).1.Balanced := by
  have hactive : ({ adev with activeInput := some input } : AudioDevice).Balanced :=
    ⟨hbalanced.1, hbalanced.2⟩
  have hselected := hactive.addSelected hdistinct (adev.inputs input).device input
  rw [AudioDevice.startInputStream]
  dsimp only
  split
  · exact ⟨hbalanced.1, hbalanced.2⟩
  · split
    · exact hselected.1
    · exact hselected.1.stopInputStream hselected.2 input

theorem Balanced.voiceStartUsecase (hbalanced : adev.Balanced) {usecaseId : UsecaseId}
    (hdistinct : (adev.ids ++ [usecaseId]).Nodup) (opened : Bool) {next : AudioDevice}
    (hnext : adev.voiceStartUsecase usecaseId opened = some next) : next.Balanced := by
  obtain ⟨out, -, rfl⟩ := Option.map_eq_some_iff.mp hnext
  have hselected := hbalanced.addSelected hdistinct (adev.outputs out).devices out
  dsimp only
  split
  · exact hselected.1.voiceStopUsecase hselected.2 usecaseId
  · split
    · exact ⟨hselected.1.sided, hselected.1.counts⟩
    · exact hselected.1.voiceStopUsecase hselected.2 usecaseId

def listedIds (adev : AudioDevice) : Call → List UsecaseId
  | .startOutputStream out _ => adev.ids ++ [(adev.outputs out).usecase]
  | .startInputStream input _ => adev.ids ++ [(adev.inputs input).usecase]
  | .voiceStartUsecase usecaseId _ _ => adev.ids ++ [usecaseId]
  | .stopOutputStream _ | .stopInputStream _ | .voiceStopUsecase _ | .selectDevices _ | .change _ => adev.ids

theorem Balanced.call (hbalanced : adev.Balanced) {action : Call} (hdistinct : (adev.listedIds action).Nodup)
    {next : AudioDevice} (hnext : adev.call action = some next) : next.Balanced := by
  cases action with
  | startOutputStream out opened =>
    obtain rfl := Option.some.inj hnext
    exact hbalanced.startOutputStream hdistinct opened
  | stopOutputStream out =>
    obtain rfl := Option.some.inj hnext
    exact hbalanced.stopOutputStream hdistinct out
  | startInputStream input opened =>
    obtain rfl := Option.some.inj hnext
    exact hbalanced.startInputStream hdistinct opened
  | stopInputStream input =>
    obtain rfl := Option.some.inj hnext
    exact hbalanced.stopInputStream hdistinct input
  | voiceStartUsecase usecaseId voice opened => exact hbalanced.voiceStartUsecase hdistinct opened hnext
  | voiceStopUsecase usecaseId =>
    obtain rfl := Option.some.inj hnext
    exact hbalanced.voiceStopUsecase hdistinct usecaseId
  | selectDevices ucId =>
    obtain rfl := Option.some.inj hnext
    exact hbalanced.selectDevices hdistinct ucId
  | change settings =>
    obtain rfl := Option.some.inj hnext
    exact ⟨hbalanced.1, hbalanced.2⟩

theorem idle_balanced (settings : AudioSettings) : (idle settings).Balanced := by
  constructor
  · exact fun usecase husecase => absurd husecase List.not_mem_nil
  · exact fun _ _ => rfl

/-- After each call of a run that starts without usecases, and keeps the ids in the list distinct, the
reference count of a sound device is the number of usecases that play on it plus the number of those that
record from it. -/
theorem sndDevRefCnt_eq (settings : AudioSettings) (calls : List Call) (last : AudioDevice)
    (hdistinct : RunMeets AudioDevice.call (fun adev action => (adev.listedIds action).Nodup)
      (idle settings) calls)
    (hrun : runSteps AudioDevice.call (idle settings) calls = some last) (sndDevice : SndDevice)
    (hdevice : sndDevice ≠ .none) :
    last.sndDevRefCnt sndDevice =
      ((last.usecaseList.countP (fun usecase => usecase.outSndDevice = sndDevice) +
        last.usecaseList.countP (fun usecase => usecase.inSndDevice = sndDevice) : Nat) : Int) := by
  have hbalanced : last.Balanced :=
    runSteps_state_of_meets Balanced (fun _ _ _ hlisted hbalanced => hbalanced.call hlisted) hdistinct
      (idle_balanced settings) hrun
  rw [hbalanced.counts sndDevice hdevice, references_eq_countP]

/-- The second output takes the first one along from the speaker to the headset. -/
theorem sndDevRefCnt_headphones :
    ∃ last, runSteps AudioDevice.call (idle (.twoOutputs outSpeaker outWiredHeadset))
        [.startOutputStream 0 true, .startOutputStream 1 true] = some last ∧
      last.sndDevRefCnt .outHeadphones = 2 ∧
      last.sndDevRefCnt .outHeadphones =
        ((last.usecaseList.countP (fun usecase => usecase.outSndDevice = .outHeadphones) +
          last.usecaseList.countP (fun usecase => usecase.inSndDevice = .outHeadphones) : Nat) : Int) :=
  ⟨_, rfl, rfl, sndDevRefCnt_eq (.twoOutputs outSpeaker outWiredHeadset)
    [.startOutputStream 0 true, .startOutputStream 1 true] _ (by decide) rfl .outHeadphones (by decide)⟩

end

end AudioDevice

end Nozomi
