import Nozomi.Audio.Backend
import Nozomi.Audio.Stops

/-!
# Paths that are applied in the mixer

A sound device is counted by its id, but the mixer knows it by its entry in `device_table`, which several
devices share. So a path stays applied while a device is in use only where the last reference on a device is
given up while no other with its entry is in use. The path of a usecase is applied at the end of each move,
also of one that goes nowhere.
-/

namespace Nozomi

open AudioDevices

def AudioUsecase.HasDevice (usecase : AudioUsecase) : Prop :=
  usecase.outSndDevice ≠ .none ∨ usecase.inSndDevice ≠ .none

def AudioUsecase.UsesName (usecase : AudioUsecase) (name : DevicePath) : Prop :=
  usecase.outSndDevice ≠ .none ∧ deviceTable usecase.outSndDevice = name ∨
    usecase.inSndDevice ≠ .none ∧ deviceTable usecase.inSndDevice = name

instance (usecase : AudioUsecase) : Decidable usecase.HasDevice := inferInstanceAs (Decidable (_ ∨ _))

namespace AudioDevice

/-! ### Names of sound devices -/

/-- The path of a sound device is applied exactly while a device with this entry is in use. -/
structure NamesApplied (adev : AudioDevice) : Prop where
  nonneg : ∀ sndDevice, 0 ≤ adev.sndDevRefCnt sndDevice
  applied : ∀ name, adev.applied (.device name) = true ↔
    ∃ sndDevice, sndDevice ≠ .none ∧ deviceTable sndDevice = name ∧ 0 < adev.sndDevRefCnt sndDevice

/-- If this is the last reference on the device, then no other device with its entry is in use. -/
def ReleasesAlone (adev : AudioDevice) (sndDevice : SndDevice) : Prop :=
  sndDevice ≠ .none → adev.sndDevRefCnt sndDevice = 1 →
    ∀ other, other ≠ sndDevice → deviceTable other = deviceTable sndDevice → adev.sndDevRefCnt other ≤ 0

section

variable {adev : AudioDevice}

theorem NamesApplied.congr {after : AudioDevice} (hnames : adev.NamesApplied)
    (hcount : after.sndDevRefCnt = adev.sndDevRefCnt)
    (happlied : ∀ name, after.applied (.device name) = adev.applied (.device name)) :
    after.NamesApplied where
  nonneg := by
    rw [hcount]
    exact hnames.nonneg
  applied := by
    intro name
    rw [hcount, happlied]
    exact hnames.applied name

theorem enableSndDevice_applied {sndDevice : SndDevice} (hdevice : sndDevice ≠ .none) :
    (adev.enableSndDevice sndDevice).applied =
      if adev.sndDevRefCnt sndDevice + 1 > 1 then adev.applied
      else Function.update adev.applied (.device (deviceTable sndDevice)) true := by
  rw [AudioDevice.enableSndDevice, if_neg hdevice]
  simp only [Function.update_self]
  split <;> rfl

theorem disableSndDevice_applied {sndDevice : SndDevice} (hdevice : sndDevice ≠ .none)
    (hpositive : ¬adev.sndDevRefCnt sndDevice ≤ 0) :
    (adev.disableSndDevice sndDevice).applied =
      if adev.sndDevRefCnt sndDevice - 1 = 0 then
        Function.update adev.applied (.device (deviceTable sndDevice)) false
      else adev.applied := by
  rw [AudioDevice.disableSndDevice, if_neg hdevice, if_neg hpositive]
  simp only [Function.update_self]
  split <;> rfl

theorem enableSndDevice_usecasePath (sndDevice : SndDevice) (id : UsecaseId) (backend : BackendName) :
    (adev.enableSndDevice sndDevice).applied (.usecase id backend) = adev.applied (.usecase id backend) := by
  by_cases hdevice : sndDevice = .none
  · rw [AudioDevice.enableSndDevice, if_pos hdevice]
  · rw [enableSndDevice_applied hdevice]
    split
    · rfl
    · exact Function.update_of_ne Path.noConfusion _ _

theorem disableSndDevice_usecasePath (sndDevice : SndDevice) (id : UsecaseId) (backend : BackendName) :
    (adev.disableSndDevice sndDevice).applied (.usecase id backend) = adev.applied (.usecase id backend) := by
  by_cases hdevice : sndDevice = .none
  · rw [AudioDevice.disableSndDevice, if_pos hdevice]
  · by_cases hpositive : adev.sndDevRefCnt sndDevice ≤ 0
    · rw [AudioDevice.disableSndDevice, if_neg hdevice, if_pos hpositive]
    · rw [disableSndDevice_applied hdevice hpositive]
      split
      · exact Function.update_of_ne Path.noConfusion _ _
      · rfl

theorem NamesApplied.enableSndDevice (hnames : adev.NamesApplied) (sndDevice : SndDevice) :
    (adev.enableSndDevice sndDevice).NamesApplied := by
  by_cases hdevice : sndDevice = .none
  · rw [AudioDevice.enableSndDevice, if_pos hdevice]
    exact hnames
  have hown := hnames.nonneg sndDevice
  constructor
  · intro other
    rw [enableSndDevice_sndDevRefCnt adev sndDevice hdevice]
    by_cases hsame : other = sndDevice
    · subst hsame
      rw [Function.update_self]
      omega
    · rw [Function.update_of_ne hsame]
      exact hnames.nonneg other
  · intro name
    rw [enableSndDevice_sndDevRefCnt adev sndDevice hdevice, enableSndDevice_applied hdevice]
    have hafter : (∃ other, other ≠ .none ∧ deviceTable other = name ∧
        0 < Function.update adev.sndDevRefCnt sndDevice (adev.sndDevRefCnt sndDevice + 1) other) ↔
        deviceTable sndDevice = name ∨ adev.applied (.device name) = true := by
      rw [hnames.applied]
      constructor
      · rintro ⟨other, hother, hname, hcount⟩
        by_cases hsame : other = sndDevice
        · exact .inl (hsame ▸ hname)
        · rw [Function.update_of_ne hsame] at hcount
          exact .inr ⟨other, hother, hname, hcount⟩
      · rintro (hname | ⟨other, hother, hname, hcount⟩)
        · refine ⟨sndDevice, hdevice, hname, ?_⟩
          rw [Function.update_self]
          omega
        · refine ⟨other, hother, hname, ?_⟩
          by_cases hsame : other = sndDevice
          · subst hsame
            rw [Function.update_self]
            omega
          · rw [Function.update_of_ne hsame]
            exact hcount
    rw [hafter]
    by_cases hused : adev.sndDevRefCnt sndDevice + 1 > 1
    · rw [if_pos hused]
      refine ⟨.inr, ?_⟩
      rintro (hname | happlied)
      · exact (hnames.applied name).mpr ⟨sndDevice, hdevice, hname, by omega⟩
      · exact happlied
    · rw [if_neg hused]
      by_cases hname : name = deviceTable sndDevice
      · subst hname
        simp
      · rw [Function.update_of_ne (by simpa using hname)]
        exact ⟨.inr, fun hor => hor.resolve_left (Ne.symm hname)⟩

theorem NamesApplied.disableSndDevice (hnames : adev.NamesApplied) {sndDevice : SndDevice}
    (halone : adev.ReleasesAlone sndDevice) : (adev.disableSndDevice sndDevice).NamesApplied := by
  by_cases hdevice : sndDevice = .none
  · rw [AudioDevice.disableSndDevice, if_pos hdevice]
    exact hnames
  by_cases hpositive : adev.sndDevRefCnt sndDevice ≤ 0
  · rw [AudioDevice.disableSndDevice, if_neg hdevice, if_pos hpositive]
    exact hnames
  · have hcount := disableSndDevice_sndDevRefCnt adev sndDevice hdevice hpositive
    constructor
    · intro other
      rw [hcount]
      by_cases hsame : other = sndDevice
      · subst hsame
        rw [Function.update_self]
        omega
      · rw [Function.update_of_ne hsame]
        exact hnames.nonneg other
    · intro name
      rw [hcount, disableSndDevice_applied hdevice hpositive]
      by_cases hlast : adev.sndDevRefCnt sndDevice - 1 = 0
      · rw [if_pos hlast]
        have hnone := halone hdevice (by omega)
        by_cases hname : name = deviceTable sndDevice
        · subst hname
          rw [Function.update_self]
          refine ⟨fun hfalse => Bool.noConfusion hfalse, ?_⟩
          rintro ⟨other, -, hsameName, hused⟩
          by_cases hsame : other = sndDevice
          · subst hsame
            rw [Function.update_self] at hused
            omega
          · rw [Function.update_of_ne hsame] at hused
            have hunused := hnone other hsame hsameName
            omega
        · rw [Function.update_of_ne (by simpa using hname), hnames.applied]
          apply exists_congr
          intro other
          by_cases hsame : other = sndDevice
          · subst hsame
            simp [Ne.symm hname]
          · rw [Function.update_of_ne hsame]
      · rw [if_neg hlast, hnames.applied]
        apply exists_congr
        intro other
        by_cases hsame : other = sndDevice
        · subst hsame
          rw [Function.update_self]
          have hiff : 0 < adev.sndDevRefCnt other ↔ 0 < adev.sndDevRefCnt other - 1 := by omega
          rw [hiff]
        · rw [Function.update_of_ne hsame]

end

/-! ### Paths of usecases -/

/-- The paths of usecases that are applied are those of the given ones that have a device. -/
def RoutesOf (adev : AudioDevice) (usecases : List AudioUsecase) : Prop :=
  ∀ id backend, adev.applied (.usecase id backend) = true ↔
    ∃ usecase ∈ usecases, usecase.HasDevice ∧ usecase.path = .usecase id backend

theorem foldl_update {ι κ : Type} [DecidableEq κ] (picks : ι → Bool) (key : ι → κ) (value : Bool)
    (items : List ι) :
    ∀ (applied : κ → Bool) (path : κ),
      items.foldl (fun applied item =>
        if picks item then Function.update applied (key item) value else applied) applied path =
        if items.any (fun item => picks item && key item = path) then value else applied path := by
  induction items with
  | nil => exact fun _ _ => rfl
  | cons item items ih =>
    intro applied path
    rw [List.foldl_cons, ih, List.any_cons]
    by_cases hrest : items.any (fun item => picks item && key item = path) = true
    · simp [hrest]
    · by_cases hpicks : picks item = true
      · by_cases hkey : key item = path
        · simp [hrest, hpicks, hkey]
        · simp [hrest, hpicks, hkey, Function.update_of_ne (Ne.symm hkey)]
      · simp [hrest, hpicks]

section

variable {adev after : AudioDevice} {usecase : AudioUsecase} {position : Nat}

theorem path_id {first second : AudioUsecase} (hpath : first.path = second.path) : first.id = second.id :=
  (Path.usecase.inj hpath).1

theorem eq_of_path (hdistinct : adev.ids.Nodup) {first second : AudioUsecase}
    (hfirst : first ∈ adev.usecaseList) (hsecond : second ∈ adev.usecaseList)
    (hpath : first.path = second.path) : first = second :=
  eq_of_id hdistinct hfirst hsecond (path_id hpath)

theorem not_mem_others (hdistinct : adev.ids.Nodup) (hitem : adev.usecaseList[position]? = some usecase)
    {other : AudioUsecase} (hother : other ∈ adev.usecaseList.eraseIdx position) : other.id ≠ usecase.id := by
  intro hid
  have hnodup := (ids_perm hitem).nodup_iff.mpr hdistinct
  apply (List.nodup_cons.mp hnodup).1
  rw [← hid]
  exact List.mem_map_of_mem hother

variable {usecases : List AudioUsecase}

theorem mem_iff_others (hitem : usecases[position]? = some usecase) {other : AudioUsecase} :
    other ∈ usecases ↔ other = usecase ∨ other ∈ usecases.eraseIdx position := by
  obtain ⟨hlt, rfl⟩ := List.getElem?_eq_some_iff.mp hitem
  rw [← (List.getElem_cons_eraseIdx_perm hlt).mem_iff, List.mem_cons]

theorem RoutesOf.apart (hroutes : adev.RoutesOf adev.usecaseList) (hdistinct : adev.ids.Nodup)
    (hitem : adev.usecaseList[position]? = some usecase)
    (hothers : ∀ id backend, usecase.path ≠ .usecase id backend →
      after.applied (.usecase id backend) = adev.applied (.usecase id backend))
    (hown : usecase.HasDevice → after.applied usecase.path = false)
    (hkept : after.applied usecase.path = true → adev.applied usecase.path = true) :
    after.RoutesOf (adev.usecaseList.eraseIdx position) := by
  intro id backend
  have hmem := List.mem_of_getElem? hitem
  by_cases hpath : usecase.path = .usecase id backend
  · have hnone : ¬∃ other ∈ adev.usecaseList.eraseIdx position, other.HasDevice ∧
        other.path = .usecase id backend := by
      rintro ⟨other, hother, -, hsame⟩
      exact not_mem_others hdistinct hitem hother (path_id (hsame.trans hpath.symm))
    refine ⟨fun happlied => ?_, fun hsome => absurd hsome hnone⟩
    rw [← hpath] at happlied
    obtain ⟨other, hother, hdevice, hsame⟩ :=
      (hroutes id backend).mp (by rw [← hpath]; exact hkept happlied)
    obtain rfl := eq_of_path hdistinct hother hmem (hsame.trans hpath.symm)
    rw [hown hdevice] at happlied
    exact Bool.noConfusion happlied
  · rw [hothers id backend hpath, hroutes id backend]
    apply exists_congr
    intro other
    rw [mem_iff_others hitem]
    constructor
    · rintro ⟨rfl | hother, hdevice, hsame⟩
      · exact absurd hsame hpath
      · exact ⟨hother, hdevice, hsame⟩
    · rintro ⟨hother, hdevice, hsame⟩
      exact ⟨.inr hother, hdevice, hsame⟩

theorem RoutesOf.join (hroutes : adev.RoutesOf (usecases.eraseIdx position))
    (hitem : usecases[position]? = some usecase) (hdevice : usecase.HasDevice)
    (happlied : ∀ id backend, after.applied (.usecase id backend) =
      if usecase.path = .usecase id backend then true else adev.applied (.usecase id backend)) :
    after.RoutesOf usecases := by
  intro id backend
  rw [happlied]
  by_cases hpath : usecase.path = .usecase id backend
  · rw [if_pos hpath]
    exact ⟨fun _ => ⟨usecase, List.mem_of_getElem? hitem, hdevice, hpath⟩, fun _ => rfl⟩
  rw [if_neg hpath, hroutes id backend]
  apply exists_congr
  intro other
  rw [mem_iff_others hitem]
  constructor
  · rintro ⟨hother, hboth⟩
    exact ⟨.inr hother, hboth⟩
  · rintro ⟨rfl | hother, hboth⟩
    · exact absurd hboth.2 hpath
    · exact ⟨hother, hboth⟩

theorem RoutesOf.modify {route : AudioUsecase → AudioUsecase} (hroutes : adev.RoutesOf usecases)
    (hroute : ∀ usecase, (route usecase).path = usecase.path ∧
      (route usecase).outSndDevice = usecase.outSndDevice ∧
      (route usecase).inSndDevice = usecase.inSndDevice) (happlied : after.applied = adev.applied) :
    after.RoutesOf (usecases.modify position route) := by
  intro id backend
  rw [happlied, hroutes id backend]
  have hmap := @map_modify _ (fun usecase => (usecase.path, usecase.outSndDevice, usecase.inSndDevice)) route
    (fun usecase => by rw [(hroute usecase).1, (hroute usecase).2.1, (hroute usecase).2.2]) usecases position
  have hmoves : ∀ {first second : List AudioUsecase},
      first.map (fun usecase => (usecase.path, usecase.outSndDevice, usecase.inSndDevice)) =
        second.map (fun usecase => (usecase.path, usecase.outSndDevice, usecase.inSndDevice)) →
      (∃ usecase ∈ first, usecase.HasDevice ∧ usecase.path = .usecase id backend) →
        ∃ usecase ∈ second, usecase.HasDevice ∧ usecase.path = .usecase id backend := by
    rintro first second hsame ⟨usecase, hmem, hdevice, hpath⟩
    have himage := List.mem_map_of_mem
      (f := fun usecase : AudioUsecase => (usecase.path, usecase.outSndDevice, usecase.inSndDevice)) hmem
    rw [hsame] at himage
    obtain ⟨other, hother, hequal⟩ := List.mem_map.mp himage
    simp only [Prod.mk.injEq] at hequal
    obtain ⟨hotherPath, hout, hin⟩ := hequal
    refine ⟨other, hother, ?_, hotherPath.trans hpath⟩
    rw [AudioUsecase.HasDevice, hout, hin]
    exact hdevice
  exact ⟨hmoves hmap.symm, hmoves hmap⟩

end

/-! ### Switching the others -/

/-- Each of the usecases that are switched leaves its device without another one with this entry. -/
def SwitchesAlone (switched : UsecaseId → Bool) (old : AudioUsecase → SndDevice) :
    AudioDevice → List AudioUsecase → Prop
  | _, [] => True
  | adev, usecase :: usecases =>
    if switched usecase.id then
      adev.ReleasesAlone (old usecase) ∧
        SwitchesAlone switched old (adev.disableSndDevice (old usecase)) usecases
    else SwitchesAlone switched old adev usecases

section

variable {adev : AudioDevice} {switched : UsecaseId → Bool} {old : AudioUsecase → SndDevice}
  {route : AudioUsecase → AudioUsecase} {sndDevice : SndDevice} {switches : Nat → AudioUsecase → Bool}

theorem NamesApplied.foldl_disable (usecases : List AudioUsecase) :
    ∀ {adev : AudioDevice}, adev.NamesApplied → SwitchesAlone switched old adev usecases →
      (usecases.foldl (fun adev usecase =>
        if switched usecase.id then adev.disableSndDevice (old usecase) else adev) adev).NamesApplied := by
  induction usecases with
  | nil => exact fun hnames _ => hnames
  | cons usecase usecases ih =>
    intro adev hnames halone
    rw [List.foldl_cons]
    rw [SwitchesAlone] at halone
    split at halone
    · rename_i hswitched
      rw [if_pos hswitched]
      exact ih (hnames.disableSndDevice halone.1) halone.2
    · rename_i hswitched
      rw [if_neg hswitched]
      exact ih hnames halone

theorem NamesApplied.foldl_enable (usecases : List AudioUsecase) :
    ∀ {adev : AudioDevice}, adev.NamesApplied →
      (usecases.foldl (fun adev usecase =>
        if switched usecase.id then adev.enableSndDevice sndDevice else adev) adev).NamesApplied := by
  induction usecases with
  | nil => exact fun hnames => hnames
  | cons usecase usecases ih =>
    intro adev hnames
    rw [List.foldl_cons]
    apply ih
    split
    · exact hnames.enableSndDevice sndDevice
    · exact hnames

theorem foldl_disable_usecasePath (id : UsecaseId) (backend : BackendName) (usecases : List AudioUsecase) :
    ∀ adev : AudioDevice, (usecases.foldl (fun adev usecase =>
      if switched usecase.id then adev.disableSndDevice (old usecase) else adev) adev).applied
        (.usecase id backend) = adev.applied (.usecase id backend) := by
  induction usecases with
  | nil => exact fun _ => rfl
  | cons usecase usecases ih =>
    intro adev
    rw [List.foldl_cons, ih]
    split
    · exact disableSndDevice_usecasePath _ id backend
    · rfl

theorem foldl_enable_usecasePath (id : UsecaseId) (backend : BackendName) (usecases : List AudioUsecase) :
    ∀ adev : AudioDevice, (usecases.foldl (fun adev usecase =>
      if switched usecase.id then adev.enableSndDevice sndDevice else adev) adev).applied
        (.usecase id backend) = adev.applied (.usecase id backend) := by
  induction usecases with
  | nil => exact fun _ => rfl
  | cons usecase usecases ih =>
    intro adev
    rw [List.foldl_cons, ih]
    split
    · exact enableSndDevice_usecasePath _ id backend
    · rfl

@[simp] theorem disableRoutes_usecaseList :
    (adev.disableRoutes switches).usecaseList = adev.usecaseList := rfl

theorem disableRoutes_applied (path : Path) :
    (adev.disableRoutes switches).applied path =
      if adev.usecaseList.zipIdx.any (fun entry => switches entry.2 entry.1 && entry.1.path = path) then false
      else adev.applied path :=
  foldl_update (fun entry : AudioUsecase × Nat => switches entry.2 entry.1) (fun entry => entry.1.path) false
    adev.usecaseList.zipIdx adev.applied path

theorem switchUsecases_usecasePath (id : UsecaseId) (backend : BackendName) :
    (adev.switchUsecases switched old route sndDevice).applied (.usecase id backend) =
      if adev.usecaseList.any (fun usecase =>
        switched usecase.id && (route usecase).path = .usecase id backend) then true
      else adev.applied (.usecase id backend) := by
  rw [switchUsecases]
  dsimp only
  rw [foldl_update (fun usecase : AudioUsecase => switched usecase.id) (fun usecase => (route usecase).path),
    foldl_enable_usecasePath, foldl_disable_usecasePath]

theorem NamesApplied.disableRoutes (hnames : adev.NamesApplied) :
    (adev.disableRoutes switches).NamesApplied := by
  refine hnames.congr rfl ?_
  intro name
  rw [disableRoutes_applied, if_neg]
  simp [AudioUsecase.path]

theorem NamesApplied.switchUsecases (hnames : adev.NamesApplied)
    (halone : SwitchesAlone switched old adev adev.usecaseList) :
    (adev.switchUsecases switched old route sndDevice).NamesApplied := by
  have henabled := @NamesApplied.foldl_enable switched sndDevice adev.usecaseList _
    (NamesApplied.foldl_disable adev.usecaseList hnames halone)
  rw [AudioDevice.switchUsecases]
  refine henabled.congr rfl ?_
  intro name
  dsimp only
  rw [foldl_update (fun usecase : AudioUsecase => switched usecase.id) (fun usecase => (route usecase).path),
    if_neg]
  simp [AudioUsecase.path]

end

/-- The usecase at a position has no path, and the others those that they need. -/
structure RoutedApart (adev : AudioDevice) (usecase : AudioUsecase) (position : Nat) : Prop where
  item : adev.usecaseList[position]? = some usecase
  distinct : adev.ids.Nodup
  names : adev.NamesApplied
  routes : adev.RoutesOf (adev.usecaseList.eraseIdx position)

section

variable {adev : AudioDevice} {usecase : AudioUsecase} {position : Nat}

theorem RoutedApart.switchUsecases {switches : Nat → AudioUsecase → Bool} {old : AudioUsecase → SndDevice}
    {route : AudioUsecase → AudioUsecase} {sndDevice : SndDevice}
    (hrouted : adev.RoutedApart usecase position)
    (hroute : ∀ usecase, ((route usecase).id, (route usecase).stream) = (usecase.id, usecase.stream))
    (hdevice : ∀ usecase, (route usecase).HasDevice) (hself : ∀ usecase, switches position usecase = false)
    (halone : SwitchesAlone (adev.switchDevice switches) old (adev.disableRoutes switches)
      adev.usecaseList) :
    ((adev.disableRoutes switches).switchUsecases (adev.switchDevice switches) old route
      sndDevice).RoutedApart usecase position := by
  have hlist : ((adev.disableRoutes switches).switchUsecases (adev.switchDevice switches) old route
      sndDevice).usecaseList = adev.usecaseList.map fun usecase =>
        if adev.switchDevice switches usecase.id then route usecase else usecase := rfl
  have hkept := switchDevice_self hrouted.distinct hrouted.item hself
  constructor
  · rw [hlist, List.getElem?_map, hrouted.item, Option.map_some, hkept]
    rfl
  · rw [(switchUsecases_same (adev.disableRoutes switches) hroute).ids]
    exact hrouted.distinct
  · exact hrouted.names.disableRoutes.switchUsecases halone
  · rw [hlist, List.eraseIdx_map]
    intro id backend
    have hothers : ∀ {other : AudioUsecase}, other ∈ adev.usecaseList →
        adev.switchDevice switches other.id = true → other ∈ adev.usecaseList.eraseIdx position := by
      intro other hother hswitched
      rcases (mem_iff_others hrouted.item).mp hother with rfl | hmem
      · rw [hkept] at hswitched
        exact Bool.noConfusion hswitched
      · exact hmem
    have hlistMem : ∀ {other : AudioUsecase}, other ∈ adev.usecaseList.eraseIdx position →
        other ∈ adev.usecaseList := fun hother => List.mem_of_mem_eraseIdx hother
    have hreset : ∀ {other : AudioUsecase}, other ∈ adev.usecaseList →
        other.path = .usecase id backend →
        ((adev.disableRoutes switches).applied (.usecase id backend) = true ↔
          adev.switchDevice switches other.id = false ∧ adev.applied (.usecase id backend) = true) := by
      intro other hother hpath
      rw [disableRoutes_applied]
      by_cases hswitched : adev.switchDevice switches other.id = true
      · obtain ⟨found, index, hfound, hid, hpicks⟩ := switchDevice_eq_true.mp hswitched
        obtain rfl := eq_of_id hrouted.distinct (List.mem_of_getElem? hfound) hother hid
        rw [if_pos]
        · simp [hswitched]
        · rw [List.any_eq_true]
          exact ⟨(found, index), List.mk_mem_zipIdx_iff_getElem?.mpr hfound, by simp [hpicks, hpath]⟩
      rw [if_neg]
      · simp [hswitched]
      · rw [List.any_eq_true]
        rintro ⟨⟨found, index⟩, hmem, hpicks⟩
        rw [Bool.and_eq_true, decide_eq_true_eq] at hpicks
        have hfound := List.mk_mem_zipIdx_iff_getElem?.mp hmem
        exact hswitched (switchDevice_eq_true.mpr
          ⟨found, index, hfound, path_id (hpicks.2.trans hpath.symm), hpicks.1⟩)
    rw [switchUsecases_usecasePath]
    by_cases hnew : ∃ other ∈ adev.usecaseList, adev.switchDevice switches other.id = true ∧
        (route other).path = .usecase id backend
    · rw [if_pos (by simpa using hnew)]
      obtain ⟨other, hother, hswitched, hpath⟩ := hnew
      refine ⟨fun _ => ⟨route other, ?_, hdevice other, hpath⟩, fun _ => rfl⟩
      exact List.mem_map.mpr ⟨other, hothers hother hswitched, if_pos hswitched⟩
    rw [if_neg (by simpa using hnew)]
    constructor
    · intro happlied
      have hbefore : adev.applied (.usecase id backend) = true := by
        rw [disableRoutes_applied] at happlied
        split at happlied
        · exact Bool.noConfusion happlied
        · exact happlied
      obtain ⟨other, hother, hotherDevice, hpath⟩ := (hrouted.routes id backend).mp hbefore
      have hstays := ((hreset (hlistMem hother) hpath).mp happlied).1
      refine ⟨other, List.mem_map.mpr ⟨other, hother, ?_⟩, hotherDevice, hpath⟩
      rw [if_neg (by simp [hstays])]
    · rintro ⟨routed, hmem, hroutedDevice, hpath⟩
      obtain ⟨other, hother, rfl⟩ := List.mem_map.mp hmem
      by_cases hswitched : adev.switchDevice switches other.id = true
      · rw [if_pos hswitched] at hpath
        exact absurd ⟨other, hlistMem hother, hswitched, hpath⟩ hnew
      · rw [if_neg hswitched] at hpath hroutedDevice
        have hbefore := (hrouted.routes id backend).mpr ⟨other, hother, hroutedDevice, hpath⟩
        exact (hreset (hlistMem hother) hpath).mpr ⟨Bool.eq_false_iff.mpr hswitched, hbefore⟩

theorem NamesApplied.applyPath (hnames : adev.NamesApplied) (usecase : AudioUsecase) :
    (adev.enableAudioRoute usecase).NamesApplied := by
  refine hnames.congr rfl ?_
  intro name
  have hne : Path.device name ≠ usecase.path := fun hsame => Path.noConfusion hsame
  exact Function.update_of_ne hne true adev.applied

theorem NamesApplied.resetPath (hnames : adev.NamesApplied) (usecase : AudioUsecase) :
    (adev.disableAudioRoute usecase).NamesApplied := by
  refine hnames.congr rfl ?_
  intro name
  have hne : Path.device name ≠ usecase.path := fun hsame => Path.noConfusion hsame
  exact Function.update_of_ne hne false adev.applied

theorem RoutedApart.enableSndDevice (hrouted : adev.RoutedApart usecase position) (sndDevice : SndDevice) :
    (adev.enableSndDevice sndDevice).RoutedApart usecase position where
  item := by
    rw [enableSndDevice_usecaseList]
    exact hrouted.item
  distinct := by
    rw [(enableSndDevice_same adev sndDevice).ids]
    exact hrouted.distinct
  names := hrouted.names.enableSndDevice sndDevice
  routes := by
    rw [enableSndDevice_usecaseList]
    intro id backend
    rw [enableSndDevice_usecasePath]
    exact hrouted.routes id backend

end

/-! ### Moving -/

/-- The paths that are applied are those of the devices in use and of the usecases that have one. -/
structure Routed (adev : AudioDevice) : Prop where
  names : adev.NamesApplied
  routes : adev.RoutesOf adev.usecaseList

section

variable (adev : AudioDevice)

def LeavesAlone (usecase : AudioUsecase) : Prop :=
  adev.ReleasesAlone usecase.outSndDevice ∧
    (adev.leaveSndDevice usecase usecase.outSndDevice).ReleasesAlone usecase.inSndDevice

/-- The others that are taken along to an output device leave theirs without others with their entries. -/
def EntersOutputAlone (position : Nat) (devices : AudioDevices) (outSndDevice : SndDevice) : Prop :=
  outSndDevice ≠ .none → devices.meets outAllCodecBackend = true →
    SwitchesAlone (adev.switchDevice (switchesPlayback position outSndDevice)) (·.outSndDevice)
      (adev.disableRoutes (switchesPlayback position outSndDevice)) adev.usecaseList

/-- The others that are taken along to an input device leave theirs without others with their entries. -/
def EntersInputAlone (position : Nat) (inSndDevice : SndDevice) : Prop :=
  inSndDevice ≠ .none →
    SwitchesAlone (adev.switchDevice (switchesCapture position inSndDevice)) (·.inSndDevice)
      (adev.disableRoutes (switchesCapture position inSndDevice)) adev.usecaseList

/-- A usecase that moves goes to some device, and no device that is left has the entry of another one. -/
def MovesAlone (position : Nat) (outSndDevice inSndDevice : SndDevice) : Prop :=
  ∀ usecase ∈ adev.usecaseList[position]?,
    ¬(outSndDevice = usecase.outSndDevice ∧ inSndDevice = usecase.inSndDevice) →
      (outSndDevice ≠ .none ∨ inSndDevice ≠ .none) ∧ adev.LeavesAlone usecase ∧
        (adev.leaveSndDevices usecase).EntersOutputAlone position usecase.devices outSndDevice ∧
        ((adev.leaveSndDevices usecase).enterOutput position usecase.devices
          outSndDevice).EntersInputAlone position inSndDevice

end

section

variable {adev : AudioDevice} {usecase : AudioUsecase} {position : Nat}

theorem NamesApplied.leaveSndDevice (hnames : adev.NamesApplied) (usecase : AudioUsecase)
    {sndDevice : SndDevice} (halone : adev.ReleasesAlone sndDevice) :
    (adev.leaveSndDevice usecase sndDevice).NamesApplied := by
  rw [AudioDevice.leaveSndDevice]
  split
  · exact (hnames.resetPath usecase).disableSndDevice halone
  · exact hnames

theorem leaveSndDevice_usecasePath (adev : AudioDevice) (usecase : AudioUsecase) (sndDevice : SndDevice)
    (id : UsecaseId) (backend : BackendName) :
    (adev.leaveSndDevice usecase sndDevice).applied (.usecase id backend) =
      if sndDevice ≠ .none ∧ usecase.path = .usecase id backend then false
      else adev.applied (.usecase id backend) := by
  rw [leaveSndDevice]
  by_cases hdevice : sndDevice ≠ .none
  · rw [if_pos hdevice, disableSndDevice_usecasePath]
    show Function.update adev.applied usecase.path false (.usecase id backend) = _
    by_cases hpath : usecase.path = .usecase id backend
    · rw [if_pos ⟨hdevice, hpath⟩, hpath, Function.update_self]
    · rw [if_neg fun hboth => hpath hboth.2, Function.update_of_ne (Ne.symm hpath)]
  · rw [if_neg hdevice, if_neg fun hboth => hdevice hboth.1]

theorem Routed.leave (hrouted : adev.Routed) (hdistinct : adev.ids.Nodup)
    (hitem : adev.usecaseList[position]? = some usecase) (halone : adev.LeavesAlone usecase) :
    (adev.leaveSndDevices usecase).RoutedApart usecase position where
  item := by
    rw [leaveSndDevices_usecaseList]
    exact hitem
  distinct := by
    rw [(leaveSndDevices_same adev usecase).ids]
    exact hdistinct
  names := (hrouted.names.leaveSndDevice usecase halone.1).leaveSndDevice usecase halone.2
  routes := by
    rw [leaveSndDevices_usecaseList]
    have happlied : ∀ id backend, (adev.leaveSndDevices usecase).applied (.usecase id backend) =
        if usecase.HasDevice ∧ usecase.path = .usecase id backend then false
        else adev.applied (.usecase id backend) := by
      intro id backend
      rw [leaveSndDevices, leaveSndDevice_usecasePath, leaveSndDevice_usecasePath]
      by_cases hpath : usecase.path = .usecase id backend <;>
        by_cases hout : usecase.outSndDevice = .none <;>
          by_cases hin : usecase.inSndDevice = .none <;> simp [AudioUsecase.HasDevice, hpath, hout, hin]
    apply hrouted.routes.apart hdistinct hitem
    · intro id backend hpath
      rw [happlied, if_neg fun hboth => hpath hboth.2]
    · intro hdevice
      rw [AudioUsecase.path, happlied, if_pos ⟨hdevice, rfl⟩]
    · intro hkept
      rw [AudioUsecase.path, happlied] at hkept
      split at hkept
      · exact Bool.noConfusion hkept
      · exact hkept

variable {outSndDevice inSndDevice : SndDevice}

theorem RoutedApart.enterOutput (hrouted : adev.RoutedApart usecase position) {devices : AudioDevices}
    (halone : adev.EntersOutputAlone position devices outSndDevice) :
    (adev.enterOutput position devices outSndDevice).RoutedApart usecase position := by
  rw [AudioDevice.enterOutput]
  split
  · rename_i hdevice
    apply RoutedApart.enableSndDevice
    split
    · rename_i hcodec
      apply hrouted.switchUsecases
      · exact fun _ => rfl
      · exact fun _ => .inl hdevice
      · simp [switchesPlayback]
      · exact halone hdevice hcodec
    · exact hrouted
  · exact hrouted

theorem RoutedApart.enterInput (hrouted : adev.RoutedApart usecase position)
    (halone : adev.EntersInputAlone position inSndDevice) :
    (adev.enterInput position inSndDevice).RoutedApart usecase position := by
  rw [AudioDevice.enterInput]
  split
  · rename_i hdevice
    apply RoutedApart.enableSndDevice
    apply hrouted.switchUsecases
    · exact fun _ => rfl
    · exact fun _ => .inr hdevice
    · simp [switchesCapture]
    · exact halone hdevice
  · exact hrouted

theorem RoutedApart.arrive (hrouted : adev.RoutedApart usecase position)
    (hdevice : outSndDevice ≠ .none ∨ inSndDevice ≠ .none) :
    ((adev.setSndDevices position outSndDevice inSndDevice).enableAudioRoute
      { usecase with inSndDevice := inSndDevice, outSndDevice := outSndDevice }).Routed := by
  constructor
  · have hset : (adev.setSndDevices position outSndDevice inSndDevice).NamesApplied :=
      hrouted.names.congr rfl fun _ => rfl
    exact hset.applyPath _
  · rw [enableAudioRoute_usecaseList]
    apply @RoutesOf.join (adev.setSndDevices position outSndDevice inSndDevice) _
      { usecase with inSndDevice := inSndDevice, outSndDevice := outSndDevice } position
    · rw [AudioDevice.setSndDevices, List.eraseIdx_modify_of_eq]
      exact hrouted.routes
    · rw [AudioDevice.setSndDevices, List.getElem?_modify_eq, hrouted.item]
      rfl
    · exact hdevice
    · intro id backend
      by_cases hpath : ({ usecase with inSndDevice := inSndDevice, outSndDevice := outSndDevice } :
          AudioUsecase).path = .usecase id backend
      · rw [if_pos hpath, ← hpath]
        exact Function.update_self _ _ _
      · rw [if_neg hpath]
        exact Function.update_of_ne (Ne.symm hpath) _ _

theorem Routed.moveUsecase (hrouted : adev.Routed) (hdistinct : adev.ids.Nodup)
    (halone : adev.MovesAlone position outSndDevice inSndDevice) :
    (adev.moveUsecase position outSndDevice inSndDevice).Routed := by
  cases hitem : adev.usecaseList[position]? with
  | none =>
    rw [AudioDevice.moveUsecase, hitem]
    exact hrouted
  | some usecase =>
    by_cases hsame : outSndDevice = usecase.outSndDevice ∧ inSndDevice = usecase.inSndDevice
    · rw [moveUsecase_of_same hitem hsame]
      exact hrouted
    · obtain ⟨hdevice, hleaves, houtput, hinput⟩ := halone usecase hitem hsame
      rw [moveUsecase_of_changed hitem hsame]
      exact (((hrouted.leave hdistinct hitem hleaves).enterOutput houtput).enterInput hinput).arrive hdevice

theorem Routed.setDevices (hrouted : adev.Routed) (position : Nat) (devices : AudioDevices) :
    (adev.setDevices position devices).Routed :=
  ⟨hrouted.names.congr rfl fun _ => rfl, hrouted.routes.modify (fun _ => ⟨rfl, rfl, rfl⟩) rfl⟩

end

/-! ### Selecting -/

section

variable (adev : AudioDevice)

def selectedBefore (select : AudioDevice → UsecaseId → AudioDevice) (found : AudioUsecase × Nat) :
    AudioDevice :=
  match adev.selectsBefore found.1 with
  | some before => select (adev.setDevices found.2 (adev.streamDevices found.1)) before
  | none => adev.setDevices found.2 (adev.streamDevices found.1)

/-- The usecase of a selection moves without others, as does the one that is selected before. -/
def SelectsAloneWith (select : AudioDevice → UsecaseId → AudioDevice)
    (before : AudioDevice → UsecaseId → Prop) (ucId : UsecaseId) : Prop :=
  ∀ found ∈ adev.getUsecaseFromList ucId,
    (∀ ucId ∈ adev.selectsBefore found.1,
      before (adev.setDevices found.2 (adev.streamDevices found.1)) ucId) ∧
    (adev.selectedBefore select found).MovesAlone found.2 (adev.chosenSndDevices found.1).1
      (adev.chosenSndDevices found.1).2

def SelectsAlone (ucId : UsecaseId) : Prop :=
  adev.SelectsAloneWith (fun adev ucId => adev.selectDevicesWith (fun adev _ => adev) ucId)
    (fun adev ucId => adev.SelectsAloneWith (fun adev _ => adev) (fun _ _ => True) ucId) ucId

end

section

variable {adev : AudioDevice}

theorem Routed.selectDevicesWith {select : AudioDevice → UsecaseId → AudioDevice}
    {before : AudioDevice → UsecaseId → Prop}
    (hsame : ∀ other ucId, SameUsecases other (select other ucId))
    (hselect : ∀ other ucId, Routed other → other.ids.Nodup → before other ucId →
      (select other ucId).Routed)
    (hrouted : adev.Routed) (hdistinct : adev.ids.Nodup) {ucId : UsecaseId}
    (halone : adev.SelectsAloneWith select before ucId) : (adev.selectDevicesWith select ucId).Routed := by
  cases hfound : adev.getUsecaseFromList ucId with
  | none =>
    rw [selectDevicesWith_none select hfound]
    exact hrouted
  | some found =>
    obtain ⟨hbefore, hmoves⟩ := halone found hfound
    have hset := hrouted.setDevices found.2 (adev.streamDevices found.1)
    have hsetSame := setDevices_same adev found.2 (adev.streamDevices found.1)
    have hsetIds : (adev.setDevices found.2 (adev.streamDevices found.1)).ids.Nodup := by
      rw [hsetSame.ids]
      exact hdistinct
    have hselected : (adev.selectedBefore select found).Routed ∧
        (adev.selectedBefore select found).ids.Nodup := by
      rw [selectedBefore]
      cases hselects : adev.selectsBefore found.1 with
      | none => exact ⟨hset, hsetIds⟩
      | some input =>
        refine ⟨hselect _ _ hset hsetIds (hbefore input hselects), ?_⟩
        rw [(hsame _ _).ids]
        exact hsetIds
    rw [selectDevicesWith_found adev hfound]
    exact hselected.1.moveUsecase hselected.2 hmoves

theorem Routed.selectDevices (hrouted : adev.Routed) (hdistinct : adev.ids.Nodup) {ucId : UsecaseId}
    (halone : adev.SelectsAlone ucId) : (adev.selectDevices ucId).Routed := by
  apply Routed.selectDevicesWith _ _ hrouted hdistinct halone
  · exact fun other ucId => selectDevicesWith_same other (fun next _ => SameUsecases.refl next) ucId
  · intro other ucId hother hnodup hbefore
    apply Routed.selectDevicesWith _ _ hother hnodup hbefore
    · exact fun next _ => SameUsecases.refl next
    · exact fun _ _ hnext _ _ => hnext

end

/-! ### HDMI channels -/

section

variable (adev : AudioDevice)

/-- The HDMI channels are set, and the usecases on HDMI are routed anew. -/
def SetsHdmiChannels (channels : Nat) : Prop :=
  adev.allowHdmiChannelConfig = true ∧ channels ≠ adev.curHdmiChannels

instance (channels : Nat) : Decidable (adev.SetsHdmiChannels channels) := inferInstanceAs (Decidable (_ ∧ _))

def HdmiRouted (channels : Nat) : Prop :=
  adev.SetsHdmiChannels channels → ∀ usecase ∈ adev.hdmiUsecases, usecase.HasDevice

end

section

variable {adev : AudioDevice} {usecase : AudioUsecase}

theorem foldl_route_applied {route : AudioDevice → AudioUsecase → AudioDevice} {value : Bool}
    (hroute : ∀ adev usecase, (route adev usecase).applied = Function.update adev.applied usecase.path value)
    (usecases : List AudioUsecase) :
    ∀ (adev : AudioDevice) (path : Path), (usecases.foldl route adev).applied path =
      if usecases.any (fun usecase => usecase.path = path) then value else adev.applied path := by
  induction usecases with
  | nil => exact fun _ _ => rfl
  | cons usecase usecases ih =>
    intro adev path
    rw [List.foldl_cons, ih, hroute, List.any_cons]
    by_cases hrest : usecases.any (fun usecase => usecase.path = path) = true
    · simp [hrest]
    · by_cases hpath : usecase.path = path
      · simp [hrest, hpath]
      · simp [hrest, hpath, Function.update_of_ne (Ne.symm hpath)]

theorem checkAndSetHdmiChannels_applied (channels : Nat) (path : Path) :
    (adev.checkAndSetHdmiChannels channels).applied path =
      if adev.SetsHdmiChannels channels ∧ ∃ usecase ∈ adev.hdmiUsecases, usecase.path = path then true
      else adev.applied path := by
  rw [checkAndSetHdmiChannels]
  by_cases hallow : adev.allowHdmiChannelConfig = true
  · by_cases hsame : channels = adev.curHdmiChannels
    · simp [hallow, hsame, SetsHdmiChannels]
    · rw [if_neg (by simp [hallow]), if_neg hsame]
      dsimp only
      rw [@foldl_route_applied _ true fun _ _ => rfl, @foldl_route_applied _ false fun _ _ => rfl]
      by_cases hpath : ∃ usecase ∈ adev.hdmiUsecases, usecase.path = path
      · rw [if_pos (by simpa using hpath), if_pos ⟨⟨hallow, hsame⟩, hpath⟩]
      · rw [if_neg (by simpa using hpath), if_neg (by simpa using hpath), if_neg fun hboth => hpath hboth.2]
  · simp [hallow, SetsHdmiChannels]

theorem Routed.checkAndSetHdmiChannels {channels : Nat} (hrouted : adev.Routed)
    (hhdmi : adev.HdmiRouted channels) : (adev.checkAndSetHdmiChannels channels).Routed := by
  obtain ⟨current, applied, hset⟩ := checkAndSetHdmiChannels_eq adev channels
  have happlied := @checkAndSetHdmiChannels_applied adev channels
  constructor
  · refine hrouted.names.congr (by rw [hset]) ?_
    intro name
    rw [happlied, if_neg]
    simp [AudioUsecase.path]
  · have hlist : (adev.checkAndSetHdmiChannels channels).usecaseList = adev.usecaseList := by rw [hset]
    rw [hlist]
    intro id backend
    rw [happlied]
    split
    · rename_i hsets
      obtain ⟨hsets, usecase, hmem, hpath⟩ := hsets
      refine ⟨fun _ => ⟨usecase, ?_, hhdmi hsets usecase hmem, hpath⟩, fun _ => rfl⟩
      exact List.mem_of_mem_filter hmem
    · exact hrouted.routes id backend

end

/-! ### Starting and stopping -/

section

variable (adev : AudioDevice)

def StopsOutputAlone (out : Nat) : Prop :=
  ∀ found ∈ adev.getUsecaseFromList (adev.outputs out).usecase,
    adev.ReleasesAlone found.1.outSndDevice ∧
      ((adev.outputs out).devices.meets outAuxDigital = true →
        (((adev.disableAudioRoute found.1).disableSndDevice found.1.outSndDevice).removeUsecase
          found.2).HdmiRouted defaultHdmiOutChannels)

def StartsOutputAlone (out : Nat) (opened : Bool) : Prop :=
  ((adev.outputs out).devices.meets outAuxDigital = true → adev.HdmiRouted (adev.outputs out).channels) ∧
    ((adev.setStreamHdmiChannels out).addUsecase (adev.outputs out).usecase (adev.outputs out).devices
      out).SelectsAlone (adev.outputs out).usecase ∧
    (opened = false → (adev.startedOutput out).StopsOutputAlone out)

def StopsInputAlone (input : Nat) : Prop :=
  ∀ found ∈ adev.getUsecaseFromList (adev.inputs input).usecase, adev.ReleasesAlone found.1.inSndDevice

def addedInput (input : Nat) : AudioDevice :=
  ({ adev with activeInput := some input } : AudioDevice).addUsecase (adev.inputs input).usecase
    (adev.inputs input).device input

def StartsInputAlone (input : Nat) (opened : Bool) : Prop :=
  (adev.addedInput input).SelectsAlone (adev.inputs input).usecase ∧
    (opened = false →
      ((adev.addedInput input).selectDevices (adev.inputs input).usecase).StopsInputAlone input)

def VoiceStopsAlone (usecaseId : UsecaseId) : Prop :=
  ∀ found ∈ adev.getUsecaseFromList usecaseId, adev.ReleasesAlone found.1.outSndDevice ∧
    ((({ adev with callActive := false } : AudioDevice).disableAudioRoute found.1).disableSndDevice
      found.1.outSndDevice).ReleasesAlone found.1.inSndDevice

def VoiceStartsAlone (usecaseId : UsecaseId) (opened : Bool) : Prop :=
  ∀ out ∈ adev.currentCallOutput,
    (adev.addUsecase usecaseId (adev.outputs out).devices out).SelectsAlone usecaseId ∧
      (opened = false →
        ((adev.addUsecase usecaseId (adev.outputs out).devices out).selectDevices
          usecaseId).VoiceStopsAlone usecaseId)

/-- The condition on a call: the last reference on a sound device is given up only while no other device with
its entry is in use, a usecase that moves goes to some device, and when HDMI is configured every usecase on it
has a device. -/
def CallsAlone : Call → Prop
  | .startOutputStream out opened => adev.StartsOutputAlone out opened
  | .stopOutputStream out => adev.StopsOutputAlone out
  | .startInputStream input opened => adev.StartsInputAlone input opened
  | .stopInputStream input => adev.StopsInputAlone input
  | .voiceStartUsecase usecaseId _ opened => adev.VoiceStartsAlone usecaseId opened
  | .voiceStopUsecase usecaseId => adev.VoiceStopsAlone usecaseId
  | .selectDevices ucId => adev.SelectsAlone ucId
  | .change _ => True

end

section

variable {adev : AudioDevice} {usecase : AudioUsecase} {position : Nat}

theorem Routed.congr {after : AudioDevice} (hrouted : adev.Routed)
    (hcount : after.sndDevRefCnt = adev.sndDevRefCnt) (happlied : after.applied = adev.applied)
    (hlist : after.usecaseList = adev.usecaseList) : after.Routed := by
  refine ⟨hrouted.names.congr hcount fun name => congrFun happlied (.device name), ?_⟩
  intro id backend
  rw [happlied, hlist]
  exact hrouted.routes id backend

theorem Routed.unroute (hrouted : adev.Routed) (hdistinct : adev.ids.Nodup)
    (hitem : adev.usecaseList[position]? = some usecase) :
    (adev.disableAudioRoute usecase).RoutedApart usecase position := by
  refine ⟨hitem, hdistinct, hrouted.names.resetPath usecase, ?_⟩
  have hreset : (adev.disableAudioRoute usecase).applied usecase.path = false := Function.update_self _ _ _
  apply hrouted.routes.apart hdistinct hitem
  · intro id backend hpath
    exact Function.update_of_ne (Ne.symm hpath) _ _
  · exact fun _ => hreset
  · intro happlied
    rw [hreset] at happlied
    exact Bool.noConfusion happlied

theorem RoutedApart.disableSndDevice (hrouted : adev.RoutedApart usecase position) {sndDevice : SndDevice}
    (halone : adev.ReleasesAlone sndDevice) :
    (adev.disableSndDevice sndDevice).RoutedApart usecase position where
  item := by
    rw [disableSndDevice_usecaseList]
    exact hrouted.item
  distinct := by
    rw [(disableSndDevice_same adev sndDevice).ids]
    exact hrouted.distinct
  names := hrouted.names.disableSndDevice halone
  routes := by
    rw [disableSndDevice_usecaseList]
    intro id backend
    rw [disableSndDevice_usecasePath]
    exact hrouted.routes id backend

theorem RoutedApart.removeUsecase (hrouted : adev.RoutedApart usecase position) :
    (adev.removeUsecase position).Routed :=
  ⟨hrouted.names.congr rfl fun _ => rfl, hrouted.routes⟩

theorem Routed.addUsecase (hrouted : adev.Routed) (id : UsecaseId) (devices : AudioDevices) (stream : Nat) :
    (adev.addUsecase id devices stream).Routed := by
  refine ⟨hrouted.names.congr rfl fun _ => rfl, ?_⟩
  intro other backend
  refine (hrouted.routes other backend).trans ⟨?_, ?_⟩
  · rintro ⟨usecase, hmem, hboth⟩
    exact ⟨usecase, List.mem_append_left _ hmem, hboth⟩
  · rintro ⟨usecase, hmem, hdevice, hpath⟩
    rcases List.mem_append.mp hmem with hmem | hmem
    · exact ⟨usecase, hmem, hdevice, hpath⟩
    · obtain rfl := List.mem_singleton.mp hmem
      exact absurd hdevice (by simp [AudioUsecase.HasDevice])

theorem Routed.stopOutputStream {out : Nat} (hrouted : adev.Routed) (hdistinct : adev.ids.Nodup)
    (halone : adev.StopsOutputAlone out) : (adev.stopOutputStream out).Routed := by
  rw [AudioDevice.stopOutputStream]
  split
  · exact hrouted
  rename_i usecase position hfound
  obtain ⟨hreleases, hhdmi⟩ := halone (usecase, position) hfound
  have hunrouted := hrouted.unroute hdistinct (getUsecaseFromList_item hfound)
  have hremoved := (RoutedApart.disableSndDevice hunrouted hreleases).removeUsecase
  dsimp only
  split
  · rename_i hmeets
    exact hremoved.checkAndSetHdmiChannels (hhdmi hmeets)
  · exact hremoved

theorem Routed.setStreamHdmiChannels {out : Nat} (hrouted : adev.Routed)
    (hhdmi : (adev.outputs out).devices.meets outAuxDigital = true →
      adev.HdmiRouted (adev.outputs out).channels) : (adev.setStreamHdmiChannels out).Routed := by
  rw [AudioDevice.setStreamHdmiChannels]
  split
  · rename_i hmeets
    exact hrouted.checkAndSetHdmiChannels (hhdmi hmeets)
  · exact hrouted

theorem Routed.startOutputStream {out : Nat} {opened : Bool} (hrouted : adev.Routed)
    (hdistinct : (adev.ids ++ [(adev.outputs out).usecase]).Nodup)
    (halone : adev.StartsOutputAlone out opened) : (adev.startOutputStream out opened).1.Routed := by
  obtain ⟨hhdmi, hselects, hstops⟩ := halone
  have hadded := (hrouted.setStreamHdmiChannels hhdmi).addUsecase (adev.outputs out).usecase
    (adev.outputs out).devices out
  have hids : ((adev.setStreamHdmiChannels out).addUsecase (adev.outputs out).usecase
      (adev.outputs out).devices out).ids.Nodup := by
    obtain ⟨current, applied, hset⟩ := setStreamHdmiChannels_eq adev out
    rw [addUsecase_ids, hset]
    exact hdistinct
  have hstarted : (adev.startedOutput out).Routed := hadded.selectDevices hids hselects
  have hstartedIds : (adev.startedOutput out).ids.Nodup := by
    rw [startedOutput, (selectDevices_same _ _).ids]
    exact hids
  rw [startOutputStream_eq]
  cases opened with
  | true => exact hstarted
  | false => exact hstarted.stopOutputStream hstartedIds (hstops rfl)

theorem Routed.stopInputStream {input : Nat} (hrouted : adev.Routed) (hdistinct : adev.ids.Nodup)
    (halone : adev.StopsInputAlone input) : (adev.stopInputStream input).Routed := by
  have hinactive : ({ adev with activeInput := none } : AudioDevice).Routed := hrouted.congr rfl rfl rfl
  rw [AudioDevice.stopInputStream]
  dsimp only
  split
  · exact hinactive
  · rename_i usecase position hfound
    have hunrouted := hinactive.unroute hdistinct (getUsecaseFromList_item hfound)
    exact (RoutedApart.disableSndDevice hunrouted (halone (usecase, position) hfound)).removeUsecase

theorem Routed.startInputStream {input : Nat} {opened : Bool} (hrouted : adev.Routed)
    (hdistinct : (adev.ids ++ [(adev.inputs input).usecase]).Nodup)
    (halone : adev.StartsInputAlone input opened) : (adev.startInputStream input opened).1.Routed := by
  obtain ⟨hselects, hstops⟩ := halone
  have hactive : ({ adev with activeInput := some input } : AudioDevice).Routed := hrouted.congr rfl rfl rfl
  have hids : (adev.addedInput input).ids.Nodup := by
    rw [addedInput, addUsecase_ids]
    exact hdistinct
  have hselected : ((adev.addedInput input).selectDevices (adev.inputs input).usecase).Routed :=
    (hactive.addUsecase _ _ _).selectDevices hids hselects
  have hselectedIds : ((adev.addedInput input).selectDevices (adev.inputs input).usecase).ids.Nodup := by
    rw [(selectDevices_same _ _).ids]
    exact hids
  rw [AudioDevice.startInputStream]
  dsimp only
  split
  · exact hrouted.congr rfl rfl rfl
  · cases opened with
    | true => exact hselected
    | false => exact hselected.stopInputStream hselectedIds (hstops rfl)

theorem Routed.voiceStopUsecase {usecaseId : UsecaseId} (hrouted : adev.Routed) (hdistinct : adev.ids.Nodup)
    (halone : adev.VoiceStopsAlone usecaseId) : (adev.voiceStopUsecase usecaseId).Routed := by
  have hinactive : ({ adev with callActive := false } : AudioDevice).Routed := hrouted.congr rfl rfl rfl
  rw [AudioDevice.voiceStopUsecase]
  split
  · exact hrouted
  · rename_i usecase position hfound
    obtain ⟨hout, hin⟩ := halone (usecase, position) hfound
    have hunrouted := hinactive.unroute hdistinct (getUsecaseFromList_item hfound)
    have hreleased := RoutedApart.disableSndDevice hunrouted hout
    exact (RoutedApart.disableSndDevice hreleased hin).removeUsecase

theorem Routed.voiceStartUsecase {usecaseId : UsecaseId} {opened : Bool} {next : AudioDevice}
    (hrouted : adev.Routed) (hdistinct : (adev.ids ++ [usecaseId]).Nodup)
    (halone : adev.VoiceStartsAlone usecaseId opened)
    (hnext : adev.voiceStartUsecase usecaseId opened = some next) : next.Routed := by
  obtain ⟨out, hout, rfl⟩ := Option.map_eq_some_iff.mp hnext
  obtain ⟨hselects, hstops⟩ := halone out hout
  have hids : (adev.addUsecase usecaseId (adev.outputs out).devices out).ids.Nodup := by
    rw [addUsecase_ids]
    exact hdistinct
  have hselected := (hrouted.addUsecase usecaseId (adev.outputs out).devices out).selectDevices hids hselects
  have hselectedIds : ((adev.addUsecase usecaseId (adev.outputs out).devices out).selectDevices
      usecaseId).ids.Nodup := by
    rw [(selectDevices_same _ _).ids]
    exact hids
  have htable := pcmDeviceTable_nonneg usecaseId
  dsimp only
  rw [if_neg (by omega)]
  cases opened with
  | true => exact hselected.congr rfl rfl rfl
  | false => exact hselected.voiceStopUsecase hselectedIds (hstops rfl)

theorem Routed.call {action : Call} {next : AudioDevice} (hrouted : adev.Routed)
    (hdistinct : (adev.listedIds action).Nodup) (halone : adev.CallsAlone action)
    (hnext : adev.call action = some next) : next.Routed := by
  cases action with
  | startOutputStream out opened =>
    obtain rfl := Option.some.inj hnext
    exact hrouted.startOutputStream hdistinct halone
  | stopOutputStream out =>
    obtain rfl := Option.some.inj hnext
    exact hrouted.stopOutputStream hdistinct halone
  | startInputStream input opened =>
    obtain rfl := Option.some.inj hnext
    exact hrouted.startInputStream hdistinct halone
  | stopInputStream input =>
    obtain rfl := Option.some.inj hnext
    exact hrouted.stopInputStream hdistinct halone
  | voiceStartUsecase usecaseId voice opened => exact hrouted.voiceStartUsecase hdistinct halone hnext
  | voiceStopUsecase usecaseId =>
    obtain rfl := Option.some.inj hnext
    exact hrouted.voiceStopUsecase hdistinct halone
  | selectDevices ucId =>
    obtain rfl := Option.some.inj hnext
    exact hrouted.selectDevices hdistinct halone
  | change settings =>
    obtain rfl := Option.some.inj hnext
    exact hrouted.congr rfl rfl rfl

theorem idle_routed (settings : AudioSettings) : (idle settings).Routed := by
  constructor
  · refine ⟨fun _ => Int.le_refl 0, fun name => ?_⟩
    refine ⟨fun happlied => Bool.noConfusion happlied, ?_⟩
    rintro ⟨sndDevice, -, -, hused⟩
    exact absurd hused (Int.lt_irrefl 0)
  · intro id backend
    refine ⟨fun happlied => Bool.noConfusion happlied, ?_⟩
    rintro ⟨usecase, hmem, -⟩
    exact absurd hmem List.not_mem_nil

end

/-! ### The paths of the list -/

/-- The paths that are applied in the mixer are the entries of the sound devices that the usecases in the list
use, and the paths of the usecases that have a device. -/
structure PathsApplied (adev : AudioDevice) : Prop where
  devices : ∀ name, adev.applied (.device name) = true ↔ ∃ usecase ∈ adev.usecaseList, usecase.UsesName name
  usecases : ∀ id backend, adev.applied (.usecase id backend) = true ↔
    ∃ usecase ∈ adev.usecaseList, usecase.HasDevice ∧ usecase.path = .usecase id backend

section

variable {adev : AudioDevice}

theorem references_pos {usecases : List AudioUsecase} {sndDevice : SndDevice} :
    0 < references usecases sndDevice ↔
      ∃ usecase ∈ usecases, usecase.outSndDevice = sndDevice ∨ usecase.inSndDevice = sndDevice := by
  rw [references_eq_countP, Nat.add_pos_iff_pos_or_pos, List.countP_pos_iff, List.countP_pos_iff]
  simp only [decide_eq_true_eq]
  constructor
  · rintro (⟨usecase, hmem, hdevice⟩ | ⟨usecase, hmem, hdevice⟩)
    · exact ⟨usecase, hmem, .inl hdevice⟩
    · exact ⟨usecase, hmem, .inr hdevice⟩
  · rintro ⟨usecase, hmem, hdevice | hdevice⟩
    · exact .inl ⟨usecase, hmem, hdevice⟩
    · exact .inr ⟨usecase, hmem, hdevice⟩

theorem Routed.pathsApplied (hrouted : adev.Routed) (hbalanced : adev.Balanced) : adev.PathsApplied := by
  refine ⟨fun name => (hrouted.names.applied name).trans ?_, hrouted.routes⟩
  constructor
  · rintro ⟨sndDevice, hdevice, hname, hused⟩
    rw [hbalanced.counts sndDevice hdevice, Int.natCast_pos, references_pos] at hused
    obtain ⟨usecase, hmem, rfl | rfl⟩ := hused
    · exact ⟨usecase, hmem, .inl ⟨hdevice, hname⟩⟩
    · exact ⟨usecase, hmem, .inr ⟨hdevice, hname⟩⟩
  · rintro ⟨usecase, hmem, ⟨hdevice, hname⟩ | ⟨hdevice, hname⟩⟩
    · refine ⟨usecase.outSndDevice, hdevice, hname, ?_⟩
      rw [hbalanced.counts _ hdevice, Int.natCast_pos, references_pos]
      exact ⟨usecase, hmem, .inl rfl⟩
    · refine ⟨usecase.inSndDevice, hdevice, hname, ?_⟩
      rw [hbalanced.counts _ hdevice, Int.natCast_pos, references_pos]
      exact ⟨usecase, hmem, .inr rfl⟩

/-- After each call of a run that starts without usecases, keeps the ids in the list distinct, and meets the
condition, the paths that are applied are those of the list. -/
theorem pathsApplied_of_meets (settings : AudioSettings) (calls : List Call) (last : AudioDevice)
    (hdistinct : RunMeets AudioDevice.call (fun adev action => (adev.listedIds action).Nodup)
      (idle settings) calls)
    (halone : RunMeets AudioDevice.call CallsAlone (idle settings) calls)
    (hrun : runSteps AudioDevice.call (idle settings) calls = some last) : last.PathsApplied := by
  have hbalanced : last.Balanced :=
    runSteps_state_of_meets Balanced (fun _ _ _ hlisted hbalanced => hbalanced.call hlisted) hdistinct
      (idle_balanced settings) hrun
  have hrouted : last.Routed :=
    runSteps_state_of_meets Routed
      (fun _ _ _ hboth hrouted hstep => hrouted.call hboth.1 hboth.2 hstep)
      (hdistinct.and _ halone) (idle_routed settings) hrun
  exact hrouted.pathsApplied hbalanced

end

end AudioDevice

/-! ### Runs with HDMI -/

def SndDevice.all : List SndDevice :=
  [.none, .outHandset, .outSpeaker, .outSpeakerReverse, .outHeadphones, .outSpeakerAndHeadphones,
    .outVoiceSpeaker, .outVoiceHeadphones, .outHdmi, .outSpeakerAndHdmi, .outBtSco, .outBtScoWb,
    .outVoiceHandset, .outVoiceHacHandset, .outVoiceTtyFullHeadphones, .outVoiceTtyVcoHeadphones,
    .outVoiceTtyHcoHandset, .inHandsetMic, .inSpeakerMic, .inHeadsetMic, .inHandsetMicAec,
    .inSpeakerMicAec, .inHeadsetMicAec, .inVoiceSpeakerMic, .inVoiceHeadsetMic, .inHdmiMic, .inBtScoMic,
    .inBtScoMicWb, .inCamcorderMic, .inVoiceDmicEf, .inVoiceDmicBs, .inVoiceSpeakerDmicEf,
    .inVoiceSpeakerDmicBs, .inVoiceTtyFullHeadsetMic, .inVoiceTtyVcoHandsetMic, .inVoiceTtyHcoHeadsetMic,
    .inVoiceRecMic, .inVoiceRecDmicEf, .inVoiceRecDmicBs, .inVoiceRecDmicEfFluence,
    .inVoiceRecDmicBsFluence, .inFmRadio]

theorem SndDevice.mem_all (sndDevice : SndDevice) : sndDevice ∈ SndDevice.all := by
  cases sndDevice <;> decide

namespace AudioDevice

instance (adev : AudioDevice) (sndDevice : SndDevice) : Decidable (adev.ReleasesAlone sndDevice) :=
  decidable_of_iff (sndDevice ≠ .none → adev.sndDevRefCnt sndDevice = 1 → ∀ other ∈ SndDevice.all,
    other ≠ sndDevice → deviceTable other = deviceTable sndDevice → adev.sndDevRefCnt other ≤ 0)
    (by simp [ReleasesAlone, SndDevice.mem_all])

instance instDecidableSwitchesAlone (switched : UsecaseId → Bool) (old : AudioUsecase → SndDevice) :
    ∀ adev usecases, Decidable (SwitchesAlone switched old adev usecases)
  | _, [] => isTrue trivial
  | adev, usecase :: usecases =>
    have := instDecidableSwitchesAlone switched old (adev.disableSndDevice (old usecase)) usecases
    have := instDecidableSwitchesAlone switched old adev usecases
    inferInstanceAs (Decidable (if switched usecase.id then
      adev.ReleasesAlone (old usecase) ∧
        SwitchesAlone switched old (adev.disableSndDevice (old usecase)) usecases
      else SwitchesAlone switched old adev usecases))

instance (adev : AudioDevice) (usecase : AudioUsecase) : Decidable (adev.LeavesAlone usecase) :=
  inferInstanceAs (Decidable (_ ∧ _))

instance (adev : AudioDevice) (position : Nat) (devices : AudioDevices) (outSndDevice : SndDevice) :
    Decidable (adev.EntersOutputAlone position devices outSndDevice) :=
  inferInstanceAs (Decidable (_ → _ → _))

instance (adev : AudioDevice) (position : Nat) (inSndDevice : SndDevice) :
    Decidable (adev.EntersInputAlone position inSndDevice) :=
  inferInstanceAs (Decidable (_ → _))

instance (adev : AudioDevice) (position : Nat) (outSndDevice inSndDevice : SndDevice) :
    Decidable (adev.MovesAlone position outSndDevice inSndDevice) :=
  inferInstanceAs (Decidable (∀ usecase ∈ adev.usecaseList[position]?, _ → _ ∧ _ ∧ _ ∧ _))

instance (adev : AudioDevice) (select : AudioDevice → UsecaseId → AudioDevice)
    (before : AudioDevice → UsecaseId → Prop) [∀ adev ucId, Decidable (before adev ucId)]
    (ucId : UsecaseId) : Decidable (adev.SelectsAloneWith select before ucId) :=
  inferInstanceAs (Decidable (∀ found ∈ adev.getUsecaseFromList ucId, (∀ ucId ∈ _, _) ∧ _))

instance (adev : AudioDevice) (ucId : UsecaseId) : Decidable (adev.SelectsAlone ucId) :=
  inferInstanceAs (Decidable (adev.SelectsAloneWith _ _ ucId))

instance (adev : AudioDevice) (channels : Nat) : Decidable (adev.HdmiRouted channels) :=
  inferInstanceAs (Decidable (_ → ∀ usecase ∈ adev.hdmiUsecases, _))

instance (adev : AudioDevice) (out : Nat) : Decidable (adev.StopsOutputAlone out) :=
  inferInstanceAs (Decidable (∀ found ∈ adev.getUsecaseFromList (adev.outputs out).usecase, _ ∧ (_ → _)))

instance (adev : AudioDevice) (out : Nat) (opened : Bool) : Decidable (adev.StartsOutputAlone out opened) :=
  inferInstanceAs (Decidable ((_ → _) ∧ _ ∧ (_ → _)))

instance (adev : AudioDevice) (input : Nat) : Decidable (adev.StopsInputAlone input) :=
  inferInstanceAs (Decidable (∀ found ∈ adev.getUsecaseFromList (adev.inputs input).usecase, _))

instance (adev : AudioDevice) (input : Nat) (opened : Bool) : Decidable (adev.StartsInputAlone input opened) :=
  inferInstanceAs (Decidable (_ ∧ (_ → _)))

instance (adev : AudioDevice) (usecaseId : UsecaseId) : Decidable (adev.VoiceStopsAlone usecaseId) :=
  inferInstanceAs (Decidable (∀ found ∈ adev.getUsecaseFromList usecaseId, _ ∧ _))

instance (adev : AudioDevice) (usecaseId : UsecaseId) (opened : Bool) :
    Decidable (adev.VoiceStartsAlone usecaseId opened) :=
  inferInstanceAs (Decidable (∀ out ∈ adev.currentCallOutput, _ ∧ (_ → _)))

instance (adev : AudioDevice) : ∀ action, Decidable (adev.CallsAlone action)
  | .startOutputStream out opened => inferInstanceAs (Decidable (adev.StartsOutputAlone out opened))
  | .stopOutputStream out => inferInstanceAs (Decidable (adev.StopsOutputAlone out))
  | .startInputStream input opened => inferInstanceAs (Decidable (adev.StartsInputAlone input opened))
  | .stopInputStream input => inferInstanceAs (Decidable (adev.StopsInputAlone input))
  | .voiceStartUsecase usecaseId _ opened => inferInstanceAs (Decidable (adev.VoiceStartsAlone usecaseId opened))
  | .voiceStopUsecase usecaseId => inferInstanceAs (Decidable (adev.VoiceStopsAlone usecaseId))
  | .selectDevices ucId => inferInstanceAs (Decidable (adev.SelectsAlone ucId))
  | .change _ => isTrue trivial

/-- The music takes the primary output along to the headset, and both stop. -/
theorem pathsApplied_headset :
    ∃ last, runSteps AudioDevice.call (idle (.twoOutputs outSpeaker outWiredHeadset))
        [.startOutputStream 0 true, .startOutputStream 1 true, .stopOutputStream 0] = some last ∧
      last.PathsApplied :=
  ⟨_, rfl, pathsApplied_of_meets (.twoOutputs outSpeaker outWiredHeadset)
    [.startOutputStream 0 true, .startOutputStream 1 true, .stopOutputStream 0] _ (by decide) (by decide) rfl⟩

/-- The music on HDMI keeps the speaker of a call that has ended, and resets it when it stops, while the
primary output plays on it. -/
theorem sharedSpeaker_reset :
    ¬∀ settings calls last,
      RunMeets AudioDevice.call (fun adev action => (adev.listedIds action).Nodup) (idle settings) calls →
        runSteps AudioDevice.call (idle settings) calls = some last → last.PathsApplied := by
  intro hpaths
  have hspeaker := (hpaths (.twoOutputs outSpeaker outAuxDigital)
    [.change { AudioSettings.twoOutputs outSpeaker outAuxDigital with
        mode := .inCall, inCall := true, currentCallOutput := some 0 },
      .voiceStartUsecase .voiceCall rfl true, .startOutputStream 1 true, .voiceStopUsecase .voiceCall,
      .change (.twoOutputs outSpeaker outAuxDigital), .startOutputStream 0 true, .stopOutputStream 1] _
    (by decide) rfl).devices .speaker
  exact absurd (hspeaker.mpr ⟨_, List.mem_cons_self, .inl ⟨by decide, rfl⟩⟩) (by decide)

end AudioDevice

end Nozomi
