import Nozomi.Audio.RefCount

/-!
# Usecases on the shared backend

The outputs of the hardware codec share one backend, and so do all inputs. A usecase that is moved takes the
others on its backend along, which `select_devices` leaves out where the usecase seems to stay where it is,
and where it goes nowhere.
-/

namespace Nozomi

open AudioDevices

/-! ### Agreement -/

def AgreeOn (property : AudioUsecase → Prop) (device : AudioUsecase → SndDevice)
    (usecases : List AudioUsecase) : Prop :=
  ∀ first ∈ usecases, ∀ second ∈ usecases, property first → property second → device first = device second

def AudioUsecase.PlaysOnCodec (usecase : AudioUsecase) : Prop :=
  usecase.type ≠ .pcmCapture ∧ usecase.devices.meets outAllCodecBackend = true

def AudioUsecase.Records (usecase : AudioUsecase) : Prop := usecase.type ≠ .pcmPlayback

instance (usecase : AudioUsecase) : Decidable usecase.PlaysOnCodec := inferInstanceAs (Decidable (_ ∧ _))

instance (usecase : AudioUsecase) : Decidable usecase.Records := inferInstanceAs (Decidable (_ ≠ _))

/-- All usecases that play on the codec have the same output device, and all that may record have the same
input device. -/
def SharesBackend (usecases : List AudioUsecase) : Prop :=
  AgreeOn AudioUsecase.PlaysOnCodec (·.outSndDevice) usecases ∧
    AgreeOn AudioUsecase.Records (·.inSndDevice) usecases

section

variable {property : AudioUsecase → Prop} {device : AudioUsecase → SndDevice}
  {usecases : List AudioUsecase}

theorem AgreeOn.subset {others : List AudioUsecase} (hagree : AgreeOn property device usecases)
    (hsubset : ∀ usecase ∈ others, usecase ∈ usecases) : AgreeOn property device others :=
  fun first hfirst second hsecond => hagree first (hsubset first hfirst) second (hsubset second hsecond)

theorem AgreeOn.of_eraseIdx {usecase : AudioUsecase} {position : Nat}
    (hitem : usecases[position]? = some usecase)
    (hothers : AgreeOn property device (usecases.eraseIdx position))
    (hown : property usecase → ∀ other ∈ usecases.eraseIdx position, property other →
      device other = device usecase) : AgreeOn property device usecases := by
  have hcases : ∀ other ∈ usecases, other = usecase ∨ other ∈ usecases.eraseIdx position := by
    intro other hother
    obtain ⟨index, hindex⟩ := List.getElem?_of_mem hother
    by_cases hposition : index = position
    · subst hposition
      exact .inl (Option.some.inj (hindex.symm.trans hitem))
    · exact .inr (List.mem_eraseIdx_iff_getElem?.mpr ⟨index, hposition, hindex⟩)
  intro first hfirst second hsecond hpfirst hpsecond
  rcases hcases first hfirst with rfl | hfirst <;> rcases hcases second hsecond with rfl | hsecond
  · rfl
  · exact (hown hpfirst second hsecond hpsecond).symm
  · exact hown hpsecond first hfirst hpfirst
  · exact hothers first hfirst second hsecond hpfirst hpsecond

theorem AgreeOn.of_taken {others : List AudioUsecase} (taken : Prop) [Decidable taken] (target : SndDevice)
    {moved : AudioUsecase} {position : Nat} (hmoved : usecases[position]? = some moved)
    (hothers : AgreeOn property device others)
    (hafter : ∀ routed ∈ usecases.eraseIdx position, property routed →
      ∃ other ∈ others, property other ∧ device routed = if taken then target else device other)
    (hown : property moved → device moved = target ∧
      (taken ∨ ∀ other ∈ others, property other → device other = target)) :
    AgreeOn property device usecases := by
  apply AgreeOn.of_eraseIdx hmoved
  · intro first hfirst second hsecond hpfirst hpsecond
    obtain ⟨other, hother, hpother, hfirstDevice⟩ := hafter first hfirst hpfirst
    obtain ⟨another, hanother, hpanother, hsecondDevice⟩ := hafter second hsecond hpsecond
    rw [hfirstDevice, hsecondDevice]
    split
    · rfl
    · exact hothers other hother another hanother hpother hpanother
  · intro hpmoved routed hrouted hprouted
    obtain ⟨hdevice, hthere⟩ := hown hpmoved
    obtain ⟨other, hother, hpother, hroutedDevice⟩ := hafter routed hrouted hprouted
    rw [hdevice, hroutedDevice]
    split
    · rfl
    · rename_i hstays
      rcases hthere with htaken | hthere
      · exact absurd htaken hstays
      · exact hthere other hother hpother

end

namespace AudioDevice

/-! ### Moving the others along -/

section

variable {adev : AudioDevice} {position : Nat} {routed : AudioUsecase}

theorem switchUsecases_others {switches : Nat → AudioUsecase → Bool} {old : AudioUsecase → SndDevice}
    {route : AudioUsecase → AudioUsecase} {sndDevice : SndDevice}
    (hrouted : routed ∈
      (adev.switchUsecases (adev.switchDevice switches) old route sndDevice).usecaseList.eraseIdx position) :
    ∃ usecase ∈ adev.usecaseList.eraseIdx position,
      routed = route usecase ∨
        routed = usecase ∧ ∃ index, index ≠ position ∧ switches index usecase = false := by
  obtain ⟨index, hposition, hindex⟩ := List.mem_eraseIdx_iff_getElem?.mp hrouted
  rw [switchUsecases, List.getElem?_map] at hindex
  obtain ⟨usecase, hitem, rfl⟩ := Option.map_eq_some_iff.mp hindex
  refine ⟨usecase, List.mem_eraseIdx_iff_getElem?.mpr ⟨index, hposition, hitem⟩, ?_⟩
  by_cases hswitched : adev.switchDevice switches usecase.id = true
  · exact .inl (if_pos hswitched)
  · refine .inr ⟨if_neg hswitched, index, hposition, Bool.eq_false_iff.mpr fun hswitches => hswitched ?_⟩
    exact switchDevice_eq_true.mpr ⟨usecase, index, hitem, rfl, hswitches⟩

theorem enterOutput_others {devices : AudioDevices} {outSndDevice : SndDevice}
    (hrouted : routed ∈ (adev.enterOutput position devices outSndDevice).usecaseList.eraseIdx position) :
    ∃ usecase ∈ adev.usecaseList.eraseIdx position,
      routed.id = usecase.id ∧ routed.devices = usecase.devices ∧
        routed.inSndDevice = usecase.inSndDevice ∧
        (usecase.PlaysOnCodec → routed.outSndDevice =
          if outSndDevice ≠ .none ∧ devices.meets outAllCodecBackend = true then outSndDevice
          else usecase.outSndDevice) := by
  rw [enterOutput] at hrouted
  by_cases hdevice : outSndDevice ≠ .none
  · rw [if_pos hdevice, enableSndDevice_usecaseList] at hrouted
    by_cases hcodec : devices.meets outAllCodecBackend = true
    · rw [if_pos hcodec] at hrouted
      obtain ⟨usecase, husecase, rfl | ⟨rfl, index, hposition, hkept⟩⟩ := switchUsecases_others hrouted
      · exact ⟨usecase, husecase, rfl, rfl, rfl, fun _ => (if_pos ⟨hdevice, hcodec⟩).symm⟩
      · refine ⟨routed, husecase, rfl, rfl, rfl, fun hplays => ?_⟩
        rw [if_pos ⟨hdevice, hcodec⟩]
        simpa [switchesPlayback, hplays.1, hplays.2, hposition, platformCheckBackendsMatch] using hkept
    · rw [if_neg hcodec] at hrouted
      exact ⟨routed, hrouted, rfl, rfl, rfl, fun _ => (if_neg fun hboth => hcodec hboth.2).symm⟩
  · rw [if_neg hdevice] at hrouted
    exact ⟨routed, hrouted, rfl, rfl, rfl, fun _ => (if_neg fun hboth => hdevice hboth.1).symm⟩

theorem enterInput_others {inSndDevice : SndDevice}
    (hrouted : routed ∈ (adev.enterInput position inSndDevice).usecaseList.eraseIdx position) :
    ∃ usecase ∈ adev.usecaseList.eraseIdx position,
      routed.id = usecase.id ∧ routed.devices = usecase.devices ∧
        routed.outSndDevice = usecase.outSndDevice ∧
        (usecase.Records → usecase.id ≠ .audioSpkrCalibTx → routed.inSndDevice =
          if inSndDevice ≠ .none then inSndDevice else usecase.inSndDevice) := by
  rw [enterInput] at hrouted
  by_cases hdevice : inSndDevice ≠ .none
  · rw [if_pos hdevice, enableSndDevice_usecaseList] at hrouted
    obtain ⟨usecase, husecase, rfl | ⟨rfl, index, hposition, hkept⟩⟩ := switchUsecases_others hrouted
    · exact ⟨usecase, husecase, rfl, rfl, rfl, fun _ _ => (if_pos hdevice).symm⟩
    · refine ⟨routed, husecase, rfl, rfl, rfl, fun hrecords hcalibration => ?_⟩
      rw [if_pos hdevice]
      have htype : routed.type ≠ .pcmPlayback := hrecords
      simpa [switchesCapture, htype, hcalibration, hposition] using hkept
  · rw [if_neg hdevice] at hrouted
    exact ⟨routed, hrouted, rfl, rfl, rfl, fun _ _ => (if_neg hdevice).symm⟩

theorem type_of_id {first second : AudioUsecase} (hid : first.id = second.id) : first.type = second.type := by
  rw [← first.typeOfId, hid, second.typeOfId]

theorem leaveSndDevice_usecaseList (adev : AudioDevice) (usecase : AudioUsecase) (sndDevice : SndDevice) :
    (adev.leaveSndDevice usecase sndDevice).usecaseList = adev.usecaseList := by
  rw [leaveSndDevice]
  split
  · exact disableSndDevice_usecaseList _ _
  · rfl

theorem leaveSndDevices_usecaseList (usecase : AudioUsecase) :
    (adev.leaveSndDevices usecase).usecaseList = adev.usecaseList := by
  rw [leaveSndDevices, leaveSndDevice_usecaseList, leaveSndDevice_usecaseList]

variable {usecase : AudioUsecase} {outSndDevice inSndDevice : SndDevice}

theorem moveUsecase_of_same (hitem : adev.usecaseList[position]? = some usecase)
    (hsame : outSndDevice = usecase.outSndDevice ∧ inSndDevice = usecase.inSndDevice) :
    adev.moveUsecase position outSndDevice inSndDevice = adev := by
  rw [moveUsecase, hitem]
  exact if_pos hsame

theorem moveUsecase_of_changed (hitem : adev.usecaseList[position]? = some usecase)
    (hchanged : ¬(outSndDevice = usecase.outSndDevice ∧ inSndDevice = usecase.inSndDevice)) :
    adev.moveUsecase position outSndDevice inSndDevice =
      ((((adev.leaveSndDevices usecase).enterOutput position usecase.devices outSndDevice).enterInput position
        inSndDevice).setSndDevices position outSndDevice inSndDevice).enableAudioRoute
          { usecase with inSndDevice := inSndDevice, outSndDevice := outSndDevice } := by
  rw [moveUsecase, hitem]
  exact if_neg hchanged

@[simp] theorem enableAudioRoute_usecaseList :
    (adev.enableAudioRoute usecase).usecaseList = adev.usecaseList := rfl

theorem moveUsecase_others (hitem : adev.usecaseList[position]? = some usecase)
    (hchanged : ¬(outSndDevice = usecase.outSndDevice ∧ inSndDevice = usecase.inSndDevice))
    (hrouted : routed ∈
      (adev.moveUsecase position outSndDevice inSndDevice).usecaseList.eraseIdx position) :
    ∃ other ∈ adev.usecaseList.eraseIdx position, routed.id = other.id ∧ routed.devices = other.devices ∧
      (other.PlaysOnCodec → routed.outSndDevice =
        if outSndDevice ≠ .none ∧ usecase.devices.meets outAllCodecBackend = true then outSndDevice
        else other.outSndDevice) ∧
      (other.Records → other.id ≠ .audioSpkrCalibTx → routed.inSndDevice =
        if inSndDevice ≠ .none then inSndDevice else other.inSndDevice) := by
  rw [moveUsecase_of_changed hitem hchanged, enableAudioRoute_usecaseList, setSndDevices,
    List.eraseIdx_modify_of_eq] at hrouted
  obtain ⟨entered, hentered, hid, hdevices, hout, hin⟩ := enterInput_others hrouted
  obtain ⟨other, hother, hotherId, hotherDevices, hotherIn, hotherOut⟩ := enterOutput_others hentered
  rw [leaveSndDevices_usecaseList] at hother
  refine ⟨other, hother, hid.trans hotherId, hdevices.trans hotherDevices, ?_, ?_⟩
  · intro hplays
    rw [hout, hotherOut hplays]
  · intro hrecords hcalibration
    have htype : entered.type = other.type := type_of_id hotherId
    rw [hin (by rwa [AudioUsecase.Records, htype]) (by rwa [hotherId]), hotherIn]

theorem switchUsecases_item {switched : UsecaseId → Bool} {old : AudioUsecase → SndDevice}
    {route : AudioUsecase → AudioUsecase} {sndDevice : SndDevice}
    (hroute : ∀ usecase, (route usecase).id = usecase.id ∧ (route usecase).devices = usecase.devices)
    (hitem : adev.usecaseList[position]? = some usecase) :
    ∃ moved, (adev.switchUsecases switched old route sndDevice).usecaseList[position]? = some moved ∧
      moved.id = usecase.id ∧ moved.devices = usecase.devices := by
  refine ⟨if switched usecase.id then route usecase else usecase, ?_, ?_⟩
  · rw [switchUsecases, List.getElem?_map, hitem]
    rfl
  · split
    · exact hroute usecase
    · exact ⟨rfl, rfl⟩

theorem enterOutput_item (devices : AudioDevices) (hitem : adev.usecaseList[position]? = some usecase) :
    ∃ moved, (adev.enterOutput position devices outSndDevice).usecaseList[position]? = some moved ∧
      moved.id = usecase.id ∧ moved.devices = usecase.devices := by
  rw [enterOutput]
  split
  · rw [enableSndDevice_usecaseList]
    split
    · exact switchUsecases_item (fun _ => ⟨rfl, rfl⟩) hitem
    · exact ⟨usecase, hitem, rfl, rfl⟩
  · exact ⟨usecase, hitem, rfl, rfl⟩

theorem enterInput_item (hitem : adev.usecaseList[position]? = some usecase) :
    ∃ moved, (adev.enterInput position inSndDevice).usecaseList[position]? = some moved ∧
      moved.id = usecase.id ∧ moved.devices = usecase.devices := by
  rw [enterInput]
  split
  · rw [enableSndDevice_usecaseList]
    exact switchUsecases_item (fun _ => ⟨rfl, rfl⟩) hitem
  · exact ⟨usecase, hitem, rfl, rfl⟩

theorem moveUsecase_item (hitem : adev.usecaseList[position]? = some usecase) :
    ∃ moved, (adev.moveUsecase position outSndDevice inSndDevice).usecaseList[position]? = some moved ∧
      moved.id = usecase.id ∧ moved.devices = usecase.devices ∧ moved.outSndDevice = outSndDevice ∧
      moved.inSndDevice = inSndDevice := by
  by_cases hsame : outSndDevice = usecase.outSndDevice ∧ inSndDevice = usecase.inSndDevice
  · rw [moveUsecase_of_same hitem hsame]
    exact ⟨usecase, hitem, rfl, rfl, hsame.1.symm, hsame.2.symm⟩
  have hleft : (adev.leaveSndDevices usecase).usecaseList[position]? = some usecase := by
    rw [leaveSndDevices_usecaseList, hitem]
  obtain ⟨entered, hentered, henteredId, henteredDevices⟩ :=
    @enterOutput_item _ position usecase outSndDevice usecase.devices hleft
  obtain ⟨moved, hmoved, hid, hdevices⟩ := @enterInput_item _ position entered inSndDevice hentered
  refine ⟨{ moved with inSndDevice := inSndDevice, outSndDevice := outSndDevice }, ?_,
    hid.trans henteredId, hdevices.trans henteredDevices, rfl, rfl⟩
  rw [moveUsecase_of_changed hitem hsame, enableAudioRoute_usecaseList, setSndDevices,
    List.getElem?_modify_eq, hmoved]
  rfl

/-! ### Agreement after a move -/

theorem moveUsecase_output (hitem : adev.usecaseList[position]? = some usecase)
    (hothers : AgreeOn AudioUsecase.PlaysOnCodec (·.outSndDevice) (adev.usecaseList.eraseIdx position))
    (hfits : usecase.PlaysOnCodec →
      outSndDevice ≠ .none ∧ ¬(outSndDevice = usecase.outSndDevice ∧ inSndDevice = usecase.inSndDevice) ∨
        ∀ other ∈ adev.usecaseList.eraseIdx position, other.PlaysOnCodec →
          other.outSndDevice = outSndDevice) :
    AgreeOn AudioUsecase.PlaysOnCodec (·.outSndDevice)
      (adev.moveUsecase position outSndDevice inSndDevice).usecaseList := by
  by_cases hsame : outSndDevice = usecase.outSndDevice ∧ inSndDevice = usecase.inSndDevice
  · rw [moveUsecase_of_same hitem hsame]
    apply AgreeOn.of_eraseIdx hitem hothers
    intro hplays other hother hotherPlays
    rcases hfits hplays with hchanged | hthere
    · exact absurd hsame hchanged.2
    · exact (hthere other hother hotherPlays).trans hsame.1
  have hplaysOf : ∀ {first second : AudioUsecase}, first.id = second.id → first.devices = second.devices →
      first.PlaysOnCodec → second.PlaysOnCodec := by
    intro first second hid hdevices hplays
    rwa [AudioUsecase.PlaysOnCodec, ← type_of_id hid, ← hdevices]
  obtain ⟨moved, hmoved, hid, hdevices, hout, -⟩ :=
    @moveUsecase_item adev position usecase outSndDevice inSndDevice hitem
  apply AgreeOn.of_taken (outSndDevice ≠ .none ∧ usecase.devices.meets outAllCodecBackend = true)
    outSndDevice hmoved hothers
  · intro routed hrouted hplays
    obtain ⟨other, hother, hotherId, hotherDevices, hotherOut, -⟩ :=
      moveUsecase_others hitem hsame hrouted
    have hotherPlays := hplaysOf hotherId hotherDevices hplays
    exact ⟨other, hother, hotherPlays, hotherOut hotherPlays⟩
  · intro hplays
    refine ⟨hout, ?_⟩
    have husecase := hplaysOf hid hdevices hplays
    exact (hfits husecase).imp_left fun hchanged => ⟨hchanged.1, husecase.2⟩

theorem moveUsecase_input (hitem : adev.usecaseList[position]? = some usecase)
    (hcalibration : .audioSpkrCalibTx ∉ adev.ids)
    (hothers : AgreeOn AudioUsecase.Records (·.inSndDevice) (adev.usecaseList.eraseIdx position))
    (hfits : usecase.Records →
      inSndDevice ≠ .none ∧ ¬(outSndDevice = usecase.outSndDevice ∧ inSndDevice = usecase.inSndDevice) ∨
        ∀ other ∈ adev.usecaseList.eraseIdx position, other.Records → other.inSndDevice = inSndDevice) :
    AgreeOn AudioUsecase.Records (·.inSndDevice)
      (adev.moveUsecase position outSndDevice inSndDevice).usecaseList := by
  by_cases hsame : outSndDevice = usecase.outSndDevice ∧ inSndDevice = usecase.inSndDevice
  · rw [moveUsecase_of_same hitem hsame]
    apply AgreeOn.of_eraseIdx hitem hothers
    intro hrecords other hother hotherRecords
    rcases hfits hrecords with hchanged | hthere
    · exact absurd hsame hchanged.2
    · exact (hthere other hother hotherRecords).trans hsame.2
  have hrecordsOf : ∀ {first second : AudioUsecase}, first.id = second.id → first.Records →
      second.Records := by
    intro first second hid hrecords
    rwa [AudioUsecase.Records, ← type_of_id hid]
  obtain ⟨moved, hmoved, hid, -, -, hin⟩ :=
    @moveUsecase_item adev position usecase outSndDevice inSndDevice hitem
  apply AgreeOn.of_taken (inSndDevice ≠ .none) inSndDevice hmoved hothers
  · intro routed hrouted hrecords
    obtain ⟨other, hother, hotherId, -, -, hotherIn⟩ := moveUsecase_others hitem hsame hrouted
    have hotherRecords := hrecordsOf hotherId hrecords
    refine ⟨other, hother, hotherRecords, hotherIn hotherRecords fun hotherCalibrates => ?_⟩
    rw [← hotherCalibrates] at hcalibration
    exact hcalibration (List.mem_map_of_mem (List.mem_of_mem_eraseIdx hother))
  · intro hrecords
    exact ⟨hin, (hfits (hrecordsOf hid hrecords)).imp_left And.left⟩

end

/-! ### What a selection chooses -/

section

variable (adev : AudioDevice)

def streamDevices (usecase : AudioUsecase) : AudioDevices :=
  if usecase.type = .pcmCapture then (adev.inputs usecase.stream).device
  else (adev.outputs usecase.stream).devices

def chosenSndDevices (usecase : AudioUsecase) : SndDevice × SndDevice :=
  match usecase.type with
  | .voiceCall | .pcmHfpCall =>
    (adev.platformGetOutputSndDevice (adev.outputs usecase.stream).devices,
      adev.platformGetInputSndDevice (adev.outputs usecase.stream).devices)
  | .pcmPlayback => (adev.playbackSndDevice usecase, .none)
  | .pcmCapture => (.none, adev.captureSndDevice usecase)

def selectsBefore (usecase : AudioUsecase) : Option UsecaseId :=
  if usecase.type = .pcmPlayback ∧ adev.selectsActiveInput usecase = true then
    (adev.activeInput.map adev.inputs).map (·.usecase)
  else none

theorem selectDevicesWith_found {select : AudioDevice → UsecaseId → AudioDevice} {ucId : UsecaseId}
    {usecase : AudioUsecase} {position : Nat}
    (hfound : adev.getUsecaseFromList ucId = some (usecase, position)) :
    adev.selectDevicesWith select ucId =
      (match adev.selectsBefore usecase with
        | some before => select (adev.setDevices position (adev.streamDevices usecase)) before
        | none => adev.setDevices position (adev.streamDevices usecase)).moveUsecase position
          (adev.chosenSndDevices usecase).1 (adev.chosenSndDevices usecase).2 := by
  cases htype : usecase.type with
  | voiceCall =>
    rw [selectDevicesWith_call select hfound (.inl htype)]
    simp [selectsBefore, streamDevices, chosenSndDevices, htype]
  | pcmHfpCall =>
    rw [selectDevicesWith_call select hfound (.inr htype)]
    simp [selectsBefore, streamDevices, chosenSndDevices, htype]
  | pcmCapture =>
    rw [selectDevicesWith_capture select hfound htype]
    simp [selectsBefore, streamDevices, chosenSndDevices, htype]
  | pcmPlayback =>
    rw [selectDevicesWith_playback select hfound htype]
    cases hactive : adev.activeInput with
    | none => simp [selectsBefore, streamDevices, chosenSndDevices, htype, hactive]
    | some input =>
      by_cases hselects : adev.selectsActiveInput usecase = true
      · simp [selectsBefore, streamDevices, chosenSndDevices, htype, hactive, hselects]
      · simp [selectsBefore, streamDevices, chosenSndDevices, htype, hselects]

theorem selectsBefore_capture {usecase : AudioUsecase} {before : UsecaseId}
    (hbefore : adev.selectsBefore usecase = some before) :
    usecase.type = .pcmPlayback ∧ before.type = .pcmCapture := by
  rw [selectsBefore] at hbefore
  split at hbefore
  · rename_i hplayback
    obtain ⟨stream, -, rfl⟩ := Option.map_eq_some_iff.mp hbefore
    exact ⟨hplayback.1, stream.usecaseType⟩
  · exact nomatch hbefore

/-- A usecase that plays on the codec goes to another device, or finds all others there; one that may record
goes to a device, or finds the others without one. -/
def MovesTogether (usecase : AudioUsecase) (position : Nat) : Prop :=
  (usecase.type ≠ .pcmCapture → (adev.streamDevices usecase).meets outAllCodecBackend = true →
    (adev.chosenSndDevices usecase).1 ≠ .none ∧
        adev.chosenSndDevices usecase ≠ (usecase.outSndDevice, usecase.inSndDevice) ∨
      ∀ other ∈ adev.usecaseList.eraseIdx position, other.PlaysOnCodec →
        other.outSndDevice = (adev.chosenSndDevices usecase).1) ∧
    (usecase.Records → (adev.chosenSndDevices usecase).2 ≠ .none ∨
      ∀ other ∈ adev.usecaseList.eraseIdx position, other.Records → other.inSndDevice = .none)

/-- The usecase of a selection moves together with the others, as does the one that is selected before. -/
def SelectsTogetherWith (before : AudioDevice → UsecaseId → Prop) (ucId : UsecaseId) : Prop :=
  ∀ found ∈ adev.getUsecaseFromList ucId, adev.MovesTogether found.1 found.2 ∧
    ∀ ucId ∈ adev.selectsBefore found.1,
      before (adev.setDevices found.2 (adev.streamDevices found.1)) ucId

def SelectsTogether (ucId : UsecaseId) : Prop :=
  adev.SelectsTogetherWith (fun adev ucId => adev.SelectsTogetherWith (fun _ _ => True) ucId) ucId

end

/-! ### A selection for an input -/

section

variable {adev : AudioDevice} {position : Nat} {usecase : AudioUsecase}

/-- Only inputs change their devices, and only what may record its input device. -/
def KeepsOutputs (before after : AudioDevice) : Prop :=
  ∀ (index : Nat) (routed : AudioUsecase), after.usecaseList[index]? = some routed →
    ∃ usecase, before.usecaseList[index]? = some usecase ∧ routed.id = usecase.id ∧
      (usecase.type ≠ .pcmCapture → routed.devices = usecase.devices ∧
        routed.outSndDevice = usecase.outSndDevice) ∧
      (usecase.type = .pcmPlayback → routed.inSndDevice = usecase.inSndDevice)

theorem KeepsOutputs.refl (adev : AudioDevice) : adev.KeepsOutputs adev :=
  fun _ usecase hitem => ⟨usecase, hitem, rfl, fun _ => ⟨rfl, rfl⟩, fun _ => rfl⟩

theorem KeepsOutputs.trans {first second third : AudioDevice} (hfirst : first.KeepsOutputs second)
    (hsecond : second.KeepsOutputs third) : first.KeepsOutputs third := by
  intro index routed hrouted
  obtain ⟨middle, hmiddle, hmiddleId, hmiddleOut, hmiddleIn⟩ := hsecond index routed hrouted
  obtain ⟨usecase, hitem, hid, hout, hin⟩ := hfirst index middle hmiddle
  have htype : middle.type = usecase.type := type_of_id hid
  rw [htype] at hmiddleOut hmiddleIn
  refine ⟨usecase, hitem, hmiddleId.trans hid, fun hcapture => ?_, fun hplayback => ?_⟩
  · exact ⟨(hmiddleOut hcapture).1.trans (hout hcapture).1, (hmiddleOut hcapture).2.trans (hout hcapture).2⟩
  · exact (hmiddleIn hplayback).trans (hin hplayback)

theorem KeepsOutputs.of_list {after : AudioDevice} (hlist : after.usecaseList = adev.usecaseList) :
    adev.KeepsOutputs after := by
  intro index routed hrouted
  rw [hlist] at hrouted
  exact KeepsOutputs.refl adev index routed hrouted

theorem KeepsOutputs.modify {route : AudioUsecase → AudioUsecase} {after : AudioDevice}
    (hlist : after.usecaseList = adev.usecaseList.modify position route)
    (hid : ∀ usecase, (route usecase).id = usecase.id)
    (hcapture : ∀ usecase, adev.usecaseList[position]? = some usecase → usecase.type = .pcmCapture) :
    adev.KeepsOutputs after := by
  intro index routed hrouted
  rw [hlist] at hrouted
  by_cases hposition : position = index
  · subst hposition
    rw [List.getElem?_modify_eq] at hrouted
    obtain ⟨usecase, hitem, rfl⟩ := Option.map_eq_some_iff.mp hrouted
    have htype := hcapture usecase hitem
    refine ⟨usecase, hitem, hid usecase, fun hother => absurd htype hother, fun hplayback => ?_⟩
    rw [htype] at hplayback
    exact UsecaseType.noConfusion hplayback
  · rw [List.getElem?_modify_ne _ _ hposition] at hrouted
    exact KeepsOutputs.refl adev index routed hrouted

theorem KeepsOutputs.enterInput (sndDevice : SndDevice) :
    adev.KeepsOutputs (adev.enterInput position sndDevice) := by
  rw [AudioDevice.enterInput]
  split
  · intro index routed hrouted
    rw [enableSndDevice_usecaseList, checkAndRouteCaptureUsecases, AudioDevice.switchUsecases,
      List.getElem?_map] at hrouted
    obtain ⟨usecase, hitem, rfl⟩ := Option.map_eq_some_iff.mp hrouted
    refine ⟨usecase, hitem, ?_, ?_, ?_⟩
    · split <;> rfl
    · intro _
      split <;> exact ⟨rfl, rfl⟩
    · intro hplayback
      split
      · rename_i hswitched
        exact absurd hplayback (switchDevice_type (by simp +contextual [switchesCapture]) hswitched)
      · rfl
  · exact KeepsOutputs.refl adev

theorem enterOutput_none (devices : AudioDevices) : adev.enterOutput position devices .none = adev :=
  if_neg (not_not.mpr rfl)

theorem KeepsOutputs.moveUsecase (hitem : adev.usecaseList[position]? = some usecase)
    (htype : usecase.type = .pcmCapture) (inSndDevice : SndDevice) :
    adev.KeepsOutputs (adev.moveUsecase position .none inSndDevice) := by
  by_cases hsame : SndDevice.none = usecase.outSndDevice ∧ inSndDevice = usecase.inSndDevice
  · rw [moveUsecase_of_same hitem hsame]
    exact KeepsOutputs.refl adev
  rw [moveUsecase_of_changed hitem hsame, enterOutput_none]
  have hentered : adev.KeepsOutputs ((adev.leaveSndDevices usecase).enterInput position inSndDevice) :=
    (KeepsOutputs.of_list (leaveSndDevices_usecaseList usecase)).trans (KeepsOutputs.enterInput inSndDevice)
  apply hentered.trans
  apply @KeepsOutputs.modify _ position
    (fun usecase => { usecase with inSndDevice := inSndDevice, outSndDevice := .none }) _ rfl
  · exact fun _ => rfl
  · intro routed hrouted
    obtain ⟨other, hother, hid, -, -⟩ := hentered position routed hrouted
    rw [hitem] at hother
    rw [type_of_id hid, ← Option.some.inj hother, htype]

theorem KeepsOutputs.setDevices (hitem : adev.usecaseList[position]? = some usecase)
    (htype : usecase.type = .pcmCapture) (devices : AudioDevices) :
    adev.KeepsOutputs (adev.setDevices position devices) := by
  apply @KeepsOutputs.modify _ position (fun usecase => { usecase with devices := devices }) _ rfl
  · exact fun _ => rfl
  · intro other hother
    rw [hitem] at hother
    rw [← Option.some.inj hother, htype]

theorem setDevices_item (hitem : adev.usecaseList[position]? = some usecase) (devices : AudioDevices) :
    (adev.setDevices position devices).usecaseList[position]? =
      some { usecase with devices := devices } := by
  rw [AudioDevice.setDevices, List.getElem?_modify_eq, hitem]
  rfl

theorem setDevices_others (position : Nat) (devices : AudioDevices) :
    (adev.setDevices position devices).usecaseList.eraseIdx position =
      adev.usecaseList.eraseIdx position := by
  rw [AudioDevice.setDevices, List.eraseIdx_modify_of_eq]

theorem input_moves {others : List AudioUsecase} {outSndDevice inSndDevice : SndDevice}
    (hgoes : inSndDevice ≠ .none ∨ ∀ other ∈ others, other.Records → other.inSndDevice = .none)
    (hown : usecase.inSndDevice ≠ .none →
      ∀ other ∈ others, other.Records → other.inSndDevice = usecase.inSndDevice) :
    inSndDevice ≠ .none ∧ ¬(outSndDevice = usecase.outSndDevice ∧ inSndDevice = usecase.inSndDevice) ∨
      ∀ other ∈ others, other.Records → other.inSndDevice = inSndDevice := by
  by_cases hdevice : inSndDevice = .none
  · subst hdevice
    exact .inr (hgoes.resolve_left (not_not.mpr rfl))
  · by_cases hsame : inSndDevice = usecase.inSndDevice
    · subst hsame
      exact .inr (hown hdevice)
    · exact .inl ⟨hdevice, fun hboth => hsame hboth.2⟩

theorem selectDevicesWith_input {select : AudioDevice → UsecaseId → AudioDevice}
    {before : AudioDevice → UsecaseId → Prop} {ucId : UsecaseId} (hcapture : ucId.type = .pcmCapture)
    (hcalibration : .audioSpkrCalibTx ∉ adev.ids) (htogether : adev.SelectsTogetherWith before ucId)
    (hagree : AgreeOn AudioUsecase.Records (·.inSndDevice) adev.usecaseList) :
    adev.KeepsOutputs (adev.selectDevicesWith select ucId) ∧
      AgreeOn AudioUsecase.Records (·.inSndDevice) (adev.selectDevicesWith select ucId).usecaseList := by
  cases hfound : adev.getUsecaseFromList ucId with
  | none =>
    rw [selectDevicesWith_none select hfound]
    exact ⟨KeepsOutputs.refl adev, hagree⟩
  | some found =>
    obtain ⟨usecase, position⟩ := found
    have htype : usecase.type = .pcmCapture := (getUsecaseFromList_type hfound).trans hcapture
    have hitem := getUsecaseFromList_item hfound
    have hset := setDevices_item hitem (adev.inputs usecase.stream).device
    have hrecords : usecase.Records := by
      rw [AudioUsecase.Records, htype]
      exact UsecaseType.noConfusion
    rw [selectDevicesWith_capture select hfound htype]
    constructor
    · exact (KeepsOutputs.setDevices hitem htype _).trans (KeepsOutputs.moveUsecase hset htype _)
    · have hchosen : adev.chosenSndDevices usecase = (.none, adev.captureSndDevice usecase) := by
        simp only [chosenSndDevices, htype]
      have hinput := (htogether (usecase, position) hfound).1.2 hrecords
      rw [hchosen] at hinput
      apply moveUsecase_input hset
      · rw [(setDevices_same adev _ _).ids]
        exact hcalibration
      · rw [setDevices_others]
        exact hagree.subset fun other hother => List.mem_of_mem_eraseIdx hother
      · intro _
        rw [setDevices_others]
        apply input_moves hinput
        intro _ other hother hotherRecords
        exact hagree other (List.mem_of_mem_eraseIdx hother) usecase (List.mem_of_getElem? hitem)
          hotherRecords hrecords

/-! ### Selections -/

theorem KeepsOutputs.before {after : AudioDevice} {routed : AudioUsecase} (hkeeps : adev.KeepsOutputs after)
    (hrouted : routed ∈ after.usecaseList.eraseIdx position) (hplays : routed.PlaysOnCodec) :
    ∃ usecase ∈ adev.usecaseList.eraseIdx position, usecase.PlaysOnCodec ∧
      routed.outSndDevice = usecase.outSndDevice := by
  obtain ⟨index, hposition, hindex⟩ := List.mem_eraseIdx_iff_getElem?.mp hrouted
  obtain ⟨usecase, hitem, hid, hout, -⟩ := hkeeps index routed hindex
  have htype : usecase.type ≠ .pcmCapture := by
    rw [← type_of_id hid]
    exact hplays.1
  refine ⟨usecase, List.mem_eraseIdx_iff_getElem?.mpr ⟨index, hposition, hitem⟩, ⟨htype, ?_⟩,
    (hout htype).2⟩
  rw [← (hout htype).1]
  exact hplays.2

theorem KeepsOutputs.agree {after : AudioDevice} (hkeeps : adev.KeepsOutputs after)
    (hagree : AgreeOn AudioUsecase.PlaysOnCodec (·.outSndDevice) (adev.usecaseList.eraseIdx position)) :
    AgreeOn AudioUsecase.PlaysOnCodec (·.outSndDevice) (after.usecaseList.eraseIdx position) := by
  intro first hfirst second hsecond hfirstPlays hsecondPlays
  obtain ⟨other, hother, hotherPlays, hfirstOut⟩ := hkeeps.before hfirst hfirstPlays
  obtain ⟨another, hanother, hanotherPlays, hsecondOut⟩ := hkeeps.before hsecond hsecondPlays
  show first.outSndDevice = second.outSndDevice
  rw [hfirstOut, hsecondOut]
  exact hagree other hother another hanother hotherPlays hanotherPlays

theorem KeepsOutputs.there {after : AudioDevice} {target : SndDevice} (hkeeps : adev.KeepsOutputs after)
    (hthere : ∀ other ∈ adev.usecaseList.eraseIdx position, other.PlaysOnCodec →
      other.outSndDevice = target) :
    ∀ other ∈ after.usecaseList.eraseIdx position, other.PlaysOnCodec → other.outSndDevice = target := by
  intro routed hrouted hplays
  obtain ⟨usecase, husecase, husecasePlays, hout⟩ := hkeeps.before hrouted hplays
  exact hout.trans (hthere usecase husecase husecasePlays)

theorem moveSelected_output {selected : AudioDevice} {moved : AudioUsecase}
    (hkeeps : (adev.setDevices position (adev.streamDevices usecase)).KeepsOutputs selected)
    (hmoved : selected.usecaseList[position]? = some moved) (hid : moved.id = usecase.id)
    (hdevices : moved.devices = adev.streamDevices usecase)
    (hout : moved.outSndDevice = usecase.outSndDevice) (hin : moved.inSndDevice = usecase.inSndDevice)
    (htogether : adev.MovesTogether usecase position)
    (hothers : AgreeOn AudioUsecase.PlaysOnCodec (·.outSndDevice) (adev.usecaseList.eraseIdx position)) :
    AgreeOn AudioUsecase.PlaysOnCodec (·.outSndDevice)
      (selected.moveUsecase position (adev.chosenSndDevices usecase).1
        (adev.chosenSndDevices usecase).2).usecaseList := by
  rw [← setDevices_others position (adev.streamDevices usecase)] at hothers
  apply moveUsecase_output hmoved (hkeeps.agree hothers)
  intro hplays
  rw [AudioUsecase.PlaysOnCodec, type_of_id hid, hdevices] at hplays
  rcases htogether.1 hplays.1 hplays.2 with ⟨hdevice, hchanged⟩ | hthere
  · refine .inl ⟨hdevice, fun hsame => hchanged ?_⟩
    rw [← hout, ← hin, ← hsame.1, ← hsame.2]
  · rw [← setDevices_others position (adev.streamDevices usecase)] at hthere
    exact .inr (hkeeps.there hthere)

theorem selectDevices_shares {ucId : UsecaseId}
    (hfound : adev.getUsecaseFromList ucId = some (usecase, position))
    (hcalibration : .audioSpkrCalibTx ∉ adev.ids) (htogether : adev.SelectsTogether ucId)
    (hothers : SharesBackend (adev.usecaseList.eraseIdx position))
    (hown : usecase.Records → usecase.inSndDevice ≠ .none →
      ∀ other ∈ adev.usecaseList.eraseIdx position, other.Records →
        other.inSndDevice = usecase.inSndDevice) :
    SharesBackend (adev.selectDevices ucId).usecaseList := by
  have hset := setDevices_item (getUsecaseFromList_item hfound) (adev.streamDevices usecase)
  have hsetIds : .audioSpkrCalibTx ∉ (adev.setDevices position (adev.streamDevices usecase)).ids := by
    rw [(setDevices_same adev _ _).ids]
    exact hcalibration
  obtain ⟨hmoves, hbefore⟩ := htogether (usecase, position) hfound
  rw [selectDevices, adev.selectDevicesWith_found hfound]
  cases hselects : adev.selectsBefore usecase with
  | none =>
    constructor
    · exact moveSelected_output (KeepsOutputs.refl _) hset rfl rfl rfl rfl hmoves hothers.1
    · apply moveUsecase_input hset hsetIds
      · rw [setDevices_others]
        exact hothers.2
      · intro hrecords
        rw [setDevices_others]
        exact input_moves (hmoves.2 hrecords) (hown hrecords)
  | some before =>
    obtain ⟨hplayback, hcapture⟩ := adev.selectsBefore_capture hselects
    have hnotRecords : ¬usecase.Records := fun hrecords => hrecords hplayback
    have hagree : AgreeOn AudioUsecase.Records (·.inSndDevice)
        (adev.setDevices position (adev.streamDevices usecase)).usecaseList := by
      apply AgreeOn.of_eraseIdx hset
      · rw [setDevices_others]
        exact hothers.2
      · exact fun hrecords => absurd hrecords hnotRecords
    obtain ⟨hkeeps, hagreeAfter⟩ :=
      @selectDevicesWith_input _ (fun adev _ => adev) _ _ hcapture hsetIds (hbefore before hselects) hagree
    have hsame := selectDevicesWith_same (adev.setDevices position (adev.streamDevices usecase))
      (fun next _ => SameUsecases.refl next) before
    have hlength : position < ((adev.setDevices position (adev.streamDevices usecase)).selectDevicesWith
        (fun adev _ => adev) before).usecaseList.length := by
      have hids := congrArg List.length hsame.ids
      rw [ids, ids, List.length_map, List.length_map] at hids
      rw [hids]
      exact (List.getElem?_eq_some_iff.mp hset).1
    obtain ⟨moved, hmoved⟩ : ∃ moved, ((adev.setDevices position
        (adev.streamDevices usecase)).selectDevicesWith (fun adev _ => adev) before).usecaseList[position]? =
          some moved := ⟨_, List.getElem?_eq_getElem hlength⟩
    obtain ⟨other, hother, hid, hout, hin⟩ := hkeeps position moved hmoved
    obtain rfl := Option.some.inj (hset.symm.trans hother)
    have hplayed := hout fun hcaptures => UsecaseType.noConfusion (hplayback.symm.trans hcaptures)
    constructor
    · exact moveSelected_output hkeeps hmoved hid hplayed.1 hplayed.2 (hin hplayback) hmoves hothers.1
    · apply moveUsecase_input hmoved
      · rw [hsame.ids]
        exact hsetIds
      · exact hagreeAfter.subset fun other hother => List.mem_of_mem_eraseIdx hother
      · intro hrecords
        rw [AudioUsecase.Records, type_of_id hid] at hrecords
        exact absurd hplayback hrecords

/-! ### Operations -/

/-- All usecases on a backend are on one device; there are none of the speaker protection. -/
structure Shared (adev : AudioDevice) : Prop where
  shares : SharesBackend adev.usecaseList
  calibration : .audioSpkrCalibTx ∉ adev.ids

theorem Shared.of_subset {after : AudioDevice} (hshared : adev.Shared)
    (hsubset : ∀ usecase ∈ after.usecaseList, usecase ∈ adev.usecaseList) : after.Shared := by
  constructor
  · exact ⟨hshared.shares.1.subset hsubset, hshared.shares.2.subset hsubset⟩
  · intro hmem
    obtain ⟨usecase, husecase, hid⟩ := List.mem_map.mp hmem
    exact hshared.calibration (List.mem_map.mpr ⟨usecase, hsubset usecase husecase, hid⟩)

theorem Shared.selectDevices {ucId : UsecaseId} (hshared : adev.Shared)
    (htogether : adev.SelectsTogether ucId) : (adev.selectDevices ucId).Shared := by
  constructor
  · cases hfound : adev.getUsecaseFromList ucId with
    | none =>
      rw [AudioDevice.selectDevices, selectDevicesWith_none _ hfound]
      exact hshared.shares
    | some found =>
      obtain ⟨usecase, position⟩ := found
      have hothers : ∀ other ∈ adev.usecaseList.eraseIdx position, other ∈ adev.usecaseList :=
        fun other hother => List.mem_of_mem_eraseIdx hother
      apply selectDevices_shares hfound hshared.calibration htogether
      · exact ⟨hshared.shares.1.subset hothers, hshared.shares.2.subset hothers⟩
      · intro hrecords _ other hother hotherRecords
        exact hshared.shares.2 other (hothers other hother) usecase
          (List.mem_of_getElem? (getUsecaseFromList_item hfound)) hotherRecords hrecords
  · rw [(selectDevices_same adev ucId).ids]
    exact hshared.calibration

theorem addUsecase_found {id : UsecaseId} (devices : AudioDevices) (stream : Nat) (hfresh : id ∉ adev.ids) :
    (adev.addUsecase id devices stream).getUsecaseFromList id =
      some (⟨id, id.type, rfl, devices, .none, .none, stream⟩, adev.usecaseList.length) := by
  have hother : adev.usecaseList.zipIdx.find? (fun entry => decide (entry.1.id = id)) = none := by
    rw [List.find?_eq_none]
    intro entry hentry hid
    have hmem := List.mem_of_getElem? (List.mk_mem_zipIdx_iff_getElem?.mp hentry)
    exact hfresh (List.mem_map.mpr ⟨entry.1, hmem, of_decide_eq_true hid⟩)
  rw [getUsecaseFromList, addUsecase, List.zipIdx_append, List.find?_append, hother]
  simp

def StartsTogether (adev : AudioDevice) (id : UsecaseId) (devices : AudioDevices) (stream : Nat) : Prop :=
  id ∉ adev.ids ∧ (adev.addUsecase id devices stream).SelectsTogether id

theorem Shared.start {id : UsecaseId} {devices : AudioDevices} {stream : Nat} (hshared : adev.Shared)
    (hcalibration : id ≠ .audioSpkrCalibTx) (htogether : adev.StartsTogether id devices stream) :
    ((adev.addUsecase id devices stream).selectDevices id).Shared := by
  have hids : .audioSpkrCalibTx ∉ (adev.addUsecase id devices stream).ids := by
    rw [addUsecase_ids, List.mem_append, List.mem_singleton]
    rintro (hmem | hid)
    · exact hshared.calibration hmem
    · exact hcalibration hid.symm
  have hothers : (adev.addUsecase id devices stream).usecaseList.eraseIdx adev.usecaseList.length =
      adev.usecaseList := by
    rw [addUsecase, List.eraseIdx_append_of_length_le (Nat.le_refl _)]
    simp
  constructor
  · apply selectDevices_shares (addUsecase_found devices stream htogether.1) hids htogether.2
    · rw [hothers]
      exact hshared.shares
    · exact fun _ hdevice => absurd rfl hdevice
  · rw [(selectDevices_same _ id).ids]
    exact hids

theorem Shared.removeUsecase (hshared : adev.Shared) (index : Nat) : (adev.removeUsecase index).Shared :=
  hshared.of_subset fun _ hmem => List.mem_of_mem_eraseIdx hmem

theorem Shared.disableAudioRoute (hshared : adev.Shared) (usecase : AudioUsecase) :
    (adev.disableAudioRoute usecase).Shared :=
  hshared.of_subset fun _ hmem => hmem

theorem Shared.disableSndDevice (hshared : adev.Shared) (sndDevice : SndDevice) :
    (adev.disableSndDevice sndDevice).Shared := by
  apply hshared.of_subset
  intro usecase hmem
  rwa [disableSndDevice_usecaseList] at hmem

theorem Shared.checkAndSetHdmiChannels (hshared : adev.Shared) (channels : Nat) :
    (adev.checkAndSetHdmiChannels channels).Shared := by
  obtain ⟨current, applied, hset⟩ := checkAndSetHdmiChannels_eq adev channels
  rw [hset]
  exact hshared.of_subset fun _ hmem => hmem

theorem Shared.stopOutputStream (hshared : adev.Shared) (out : Nat) : (adev.stopOutputStream out).Shared := by
  rw [AudioDevice.stopOutputStream]
  split
  · exact hshared
  · rename_i usecase position hfound
    have hremoved :=
      ((hshared.disableAudioRoute usecase).disableSndDevice usecase.outSndDevice).removeUsecase position
    dsimp only
    split
    · exact hremoved.checkAndSetHdmiChannels _
    · exact hremoved

theorem Shared.stopInputStream (hshared : adev.Shared) (input : Nat) :
    (adev.stopInputStream input).Shared := by
  have hinactive : ({ adev with activeInput := none } : AudioDevice).Shared :=
    hshared.of_subset fun _ hmem => hmem
  rw [AudioDevice.stopInputStream]
  dsimp only
  split
  · exact hinactive
  · exact ((hinactive.disableAudioRoute _).disableSndDevice _).removeUsecase _

theorem Shared.voiceStopUsecase (hshared : adev.Shared) (usecaseId : UsecaseId) :
    (adev.voiceStopUsecase usecaseId).Shared := by
  have hinactive : ({ adev with callActive := false } : AudioDevice).Shared :=
    hshared.of_subset fun _ hmem => hmem
  rw [AudioDevice.voiceStopUsecase]
  split
  · exact hshared
  · exact (((hinactive.disableAudioRoute _).disableSndDevice _).disableSndDevice _).removeUsecase _

theorem Shared.startOutputStream {out : Nat} (hshared : adev.Shared)
    (htogether : adev.StartsTogether (adev.outputs out).usecase (adev.outputs out).devices out)
    (opened : Bool) : (adev.startOutputStream out opened).1.Shared := by
  have hcalibration : (adev.outputs out).usecase ≠ .audioSpkrCalibTx := by
    intro hid
    have htype := (adev.outputs out).usecaseType
    rw [hid] at htype
    exact UsecaseType.noConfusion htype
  obtain ⟨current, applied, hset⟩ := setStreamHdmiChannels_eq adev out
  have hchannels : ({ adev with curHdmiChannels := current, applied := applied } : AudioDevice).Shared :=
    hshared.of_subset fun _ hmem => hmem
  have hstarted := hchannels.start hcalibration htogether
  rw [AudioDevice.startOutputStream, hset]
  dsimp only
  split
  · exact hshared
  · split
    · exact hstarted
    · exact hstarted.stopOutputStream out

theorem Shared.startInputStream {input : Nat} (hshared : adev.Shared)
    (htogether : ({ adev with activeInput := some input } : AudioDevice).StartsTogether
      (adev.inputs input).usecase (adev.inputs input).device input)
    (opened : Bool) : (adev.startInputStream input opened).1.Shared := by
  have hactive : ({ adev with activeInput := some input } : AudioDevice).Shared :=
    hshared.of_subset fun _ husecase => husecase
  have hstarted := hactive.start (adev.inputs input).noCalibration htogether
  rw [AudioDevice.startInputStream]
  dsimp only
  split
  · exact hshared.of_subset fun _ husecase => husecase
  · split
    · exact hstarted
    · exact hstarted.stopInputStream input

theorem Shared.voiceStartUsecase {usecaseId : UsecaseId} {opened : Bool} {out : Nat} {next : AudioDevice}
    (hshared : adev.Shared) (hout : adev.currentCallOutput = some out)
    (hcalibration : usecaseId ≠ .audioSpkrCalibTx)
    (htogether : adev.StartsTogether usecaseId (adev.outputs out).devices out)
    (hnext : adev.voiceStartUsecase usecaseId opened = some next) : next.Shared := by
  have hstarted := hshared.start hcalibration htogether
  rw [AudioDevice.voiceStartUsecase, hout] at hnext
  obtain rfl := Option.some.inj hnext
  dsimp only
  split
  · exact hstarted.voiceStopUsecase usecaseId
  · split
    · exact hstarted.of_subset fun _ hmem => hmem
    · exact hstarted.voiceStopUsecase usecaseId

theorem Shared.setStream (hshared : adev.Shared) (position out : Nat) :
    (adev.setStream position out).Shared := by
  have hids : (adev.setStream position out).ids = adev.ids := by
    apply map_modify
    exact fun _ => rfl
  have hbefore : ∀ routed ∈ (adev.setStream position out).usecaseList, ∃ usecase ∈ adev.usecaseList,
      routed.type = usecase.type ∧ routed.devices = usecase.devices ∧
        routed.outSndDevice = usecase.outSndDevice ∧ routed.inSndDevice = usecase.inSndDevice := by
    intro routed hrouted
    obtain ⟨index, hindex⟩ := List.getElem?_of_mem hrouted
    rw [AudioDevice.setStream, List.getElem?_modify] at hindex
    obtain ⟨usecase, hitem, rfl⟩ := Option.map_eq_some_iff.mp hindex
    refine ⟨usecase, List.mem_of_getElem? hitem, ?_⟩
    split <;> exact ⟨rfl, rfl, rfl, rfl⟩
  constructor
  · constructor
    · intro first hfirst second hsecond hfirstPlays hsecondPlays
      obtain ⟨other, hother, htype, hdevices, hout, -⟩ := hbefore first hfirst
      obtain ⟨another, hanother, htype', hdevices', hout', -⟩ := hbefore second hsecond
      rw [AudioUsecase.PlaysOnCodec, htype, hdevices] at hfirstPlays
      rw [AudioUsecase.PlaysOnCodec, htype', hdevices'] at hsecondPlays
      show first.outSndDevice = second.outSndDevice
      rw [hout, hout']
      exact hshared.shares.1 other hother another hanother hfirstPlays hsecondPlays
    · intro first hfirst second hsecond hfirstRecords hsecondRecords
      obtain ⟨other, hother, htype, -, -, hin⟩ := hbefore first hfirst
      obtain ⟨another, hanother, htype', -, -, hin'⟩ := hbefore second hsecond
      rw [AudioUsecase.Records, htype] at hfirstRecords
      rw [AudioUsecase.Records, htype'] at hsecondRecords
      show first.inSndDevice = second.inSndDevice
      rw [hin, hin']
      exact hshared.shares.2 other hother another hanother hfirstRecords hsecondRecords
  · rw [hids]
    exact hshared.calibration

def UpdatesTogether (adev : AudioDevice) (entry : AudioUsecase × Nat) : Prop :=
  entry.1.type = .voiceCall → ∀ out ∈ adev.currentCallOutput,
    (adev.setStream entry.2 out).SelectsTogether entry.1.id

theorem Shared.voiceUpdateDevices {entry : AudioUsecase × Nat} {next : AudioDevice} (hshared : adev.Shared)
    (htogether : adev.UpdatesTogether entry) (hnext : adev.voiceUpdateDevices entry = some next) :
    next.Shared := by
  rw [AudioDevice.voiceUpdateDevices] at hnext
  split at hnext
  · rename_i htype
    obtain ⟨out, hout, rfl⟩ := Option.map_eq_some_iff.mp hnext
    exact (hshared.setStream entry.2 out).selectDevices (htogether htype out hout)
  · obtain rfl := Option.some.inj hnext
    exact hshared

def UpdatesAllTogether (adev : AudioDevice) : Prop :=
  RunMeets AudioDevice.voiceUpdateDevices UpdatesTogether adev adev.usecaseList.zipIdx

theorem Shared.updateAll {next : AudioDevice} (hshared : adev.Shared)
    (htogether : adev.UpdatesAllTogether)
    (hnext : adev.voiceUpdateDevicesForAllVoiceUsecases = some next) : next.Shared :=
  runSteps_state_of_meets Shared
    (fun _ _ _ hupdates hstate hstep => hstate.voiceUpdateDevices hupdates hstep) htogether hshared hnext

def RoutesOutputTogether (adev : AudioDevice) (out : Nat) (devices : AudioDevices) : Prop :=
  (adev.outputs out).standby = false →
    (adev.setOutput out { adev.outputs out with devices := devices }).SelectsTogether
      (adev.outputs out).usecase

/-- The condition on `out_set_parameters`, for the call. -/
def RoutesCallTogether (adev : AudioDevice) (out : Nat) : Prop :=
  adev.outputDrivesCall out = true →
    if adev.inCall = true then
      ({ adev with currentCallOutput := some out } : AudioDevice).UpdatesAllTogether
    else adev.mode = .inCall →
      ({ adev with currentCallOutput := some out, inCall := true } : AudioDevice).StartsTogether .voiceCall
        (adev.outputs out).devices out

/-- The condition on an operation: each usecase that it starts has an id of its own, and each that it selects
moves together with the others on its backend. -/
def OperatesTogether (adev : AudioDevice) : Operation → Prop
  | .outWrite out _ => (adev.outputs out).standby = true →
    (adev.setOutput out { adev.outputs out with standby := false }).StartsTogether
      (adev.outputs out).usecase (adev.outputs out).devices out
  | .inRead input _ => (adev.inputs input).standby = true →
    ({ adev with activeInput := some input } : AudioDevice).StartsTogether (adev.inputs input).usecase
      (adev.inputs input).device input
  | .outSetParameters out val _ => adev.routedDevices out val ≠ deviceNone →
    adev.RoutesOutputTogether out (adev.routedDevices out val) ∧
      (adev.routeOutput out (adev.routedDevices out val)).RoutesCallTogether out
  | .voiceUpdateDevices => adev.UpdatesAllTogether
  | .outStandby _ | .inStandby _ | .adevSetMode _ | .change _ => True

theorem Shared.routeOutput {out : Nat} {devices : AudioDevices} (hshared : adev.Shared)
    (htogether : adev.RoutesOutputTogether out devices) : (adev.routeOutput out devices).Shared := by
  have hrouted : (adev.setOutput out { adev.outputs out with devices := devices }).Shared :=
    hshared.of_subset fun _ husecase => husecase
  rw [AudioDevice.routeOutput]
  dsimp only
  split
  · exact hrouted
  · rename_i hstandby
    exact hrouted.selectDevices (htogether (Bool.eq_false_iff.mpr hstandby))

theorem Shared.routeCall {out : Nat} {opened : Bool} {next : AudioDevice} (hshared : adev.Shared)
    (htogether : adev.RoutesCallTogether out) (hnext : adev.routeCall out opened = some next) :
    next.Shared := by
  rw [AudioDevice.routeCall] at hnext
  by_cases hdrives : adev.outputDrivesCall out = true
  · rw [if_pos hdrives] at hnext
    have hcall := htogether hdrives
    by_cases hin : adev.inCall = true
    · rw [if_neg (by simp [hin])] at hnext
      rw [if_pos hin] at hcall
      have hcurrent : ({ adev with currentCallOutput := some out } : AudioDevice).Shared :=
        hshared.of_subset fun _ husecase => husecase
      exact hcurrent.updateAll hcall hnext
    rw [if_pos (by simp [hin])] at hnext
    rw [if_neg hin] at hcall
    split at hnext
    · rename_i hmode
      have hcurrent : ({ adev with currentCallOutput := some out, inCall := true } : AudioDevice).Shared :=
        hshared.of_subset fun _ husecase => husecase
      exact hcurrent.voiceStartUsecase rfl (by decide) (hcall hmode) hnext
    · obtain rfl := Option.some.inj hnext
      exact hshared
  · rw [if_neg hdrives] at hnext
    obtain rfl := Option.some.inj hnext
    exact hshared

theorem Shared.operate {operation : Operation} {next : AudioDevice} (hshared : adev.Shared)
    (htogether : adev.OperatesTogether operation) (hnext : adev.operate operation = some next) :
    next.Shared := by
  cases operation with
  | outWrite out opened =>
    obtain rfl := Option.some.inj hnext
    rw [AudioDevice.outWrite]
    split
    · rename_i hstandby
      have hawake : (adev.setOutput out { adev.outputs out with standby := false }).Shared :=
        hshared.of_subset fun _ husecase => husecase
      have hstarted : ((adev.setOutput out { adev.outputs out with standby := false }).startOutputStream out
          opened).1.Shared := by
        apply hawake.startOutputStream
        have hstream : (adev.setOutput out { adev.outputs out with standby := false }).outputs out =
            { adev.outputs out with standby := false } := Function.update_self _ _ _
        rw [hstream]
        exact htogether hstandby
      dsimp only
      split
      · exact hstarted
      · exact hstarted.of_subset fun _ husecase => husecase
    · exact hshared
  | outStandby out =>
    obtain rfl := Option.some.inj hnext
    rw [AudioDevice.outStandby]
    split
    · exact hshared
    · have hasleep : (adev.setOutput out { adev.outputs out with standby := true }).Shared :=
        hshared.of_subset fun _ husecase => husecase
      exact hasleep.stopOutputStream out
  | inRead input opened =>
    obtain rfl := Option.some.inj hnext
    rw [AudioDevice.inRead]
    split
    · rename_i hstandby
      have hstarted := hshared.startInputStream (htogether hstandby) opened
      dsimp only
      split
      · exact hstarted.of_subset fun _ husecase => husecase
      · exact hstarted
    · exact hshared
  | inStandby input =>
    obtain rfl := Option.some.inj hnext
    rw [AudioDevice.inStandby]
    split
    · exact hshared
    · have hasleep : (adev.setInput input { adev.inputs input with standby := true }).Shared :=
        hshared.of_subset fun _ husecase => husecase
      exact hasleep.stopInputStream input
  | outSetParameters out val opened =>
    rw [AudioDevice.operate, AudioDevice.outSetParameters] at hnext
    split at hnext
    · rename_i hdevices
      obtain ⟨hroutes, hcall⟩ := htogether hdevices
      exact (hshared.routeOutput hroutes).routeCall hcall hnext
    · obtain rfl := Option.some.inj hnext
      exact hshared
  | adevSetMode mode =>
    obtain rfl := Option.some.inj hnext
    rw [AudioDevice.adevSetMode]
    split
    · dsimp only
      split
      · have hended : ({ adev with mode := mode, inCall := false } : AudioDevice).Shared :=
          hshared.of_subset fun _ husecase => husecase
        exact (hended.voiceStopUsecase .voiceCall).of_subset fun _ husecase => husecase
      · exact hshared.of_subset fun _ husecase => husecase
    · exact hshared
  | voiceUpdateDevices => exact hshared.updateAll htogether hnext
  | change settings =>
    obtain rfl := Option.some.inj hnext
    exact hshared.of_subset fun _ husecase => husecase

/-- In a run whose operations all meet the condition, the usecases on each backend are together after each
operation. -/
theorem sharesBackend_of_meets (settings : AudioSettings) (operations : List Operation)
    (last : AudioDevice) (htogether : RunMeets operate OperatesTogether (idle settings) operations)
    (hrun : runSteps operate (idle settings) operations = some last) : SharesBackend last.usecaseList := by
  have hidle : (idle settings).Shared := by
    refine ⟨⟨?_, ?_⟩, List.not_mem_nil⟩ <;>
      exact fun first hfirst => absurd hfirst List.not_mem_nil
  exact (runSteps_state_of_meets Shared (fun _ _ _ hmeets hstate hstep => hstate.operate hmeets hstep)
    htogether hidle hrun).shares

end

/-! ### Runs on two outputs -/

instance (property : AudioUsecase → Prop) [DecidablePred property] (device : AudioUsecase → SndDevice)
    (usecases : List AudioUsecase) : Decidable (AgreeOn property device usecases) :=
  inferInstanceAs (Decidable (∀ first ∈ usecases, ∀ second ∈ usecases, property first → property second →
    device first = device second))

instance (usecases : List AudioUsecase) : Decidable (SharesBackend usecases) :=
  inferInstanceAs (Decidable (_ ∧ _))

instance (adev : AudioDevice) (usecase : AudioUsecase) (position : Nat) :
    Decidable (adev.MovesTogether usecase position) :=
  inferInstanceAs (Decidable (_ ∧ _))

instance (before : AudioDevice → UsecaseId → Prop) [∀ adev ucId, Decidable (before adev ucId)]
    (adev : AudioDevice) (ucId : UsecaseId) : Decidable (adev.SelectsTogetherWith before ucId) :=
  inferInstanceAs (Decidable (∀ found ∈ adev.getUsecaseFromList ucId, _ ∧ ∀ ucId ∈ _, _))

instance (adev : AudioDevice) (ucId : UsecaseId) : Decidable (adev.SelectsTogether ucId) :=
  inferInstanceAs (Decidable (adev.SelectsTogetherWith _ ucId))

instance (adev : AudioDevice) (id : UsecaseId) (devices : AudioDevices) (stream : Nat) :
    Decidable (adev.StartsTogether id devices stream) :=
  inferInstanceAs (Decidable (_ ∧ _))

instance (adev : AudioDevice) (entry : AudioUsecase × Nat) : Decidable (adev.UpdatesTogether entry) :=
  inferInstanceAs (Decidable (_ → ∀ out ∈ adev.currentCallOutput, _))

instance (adev : AudioDevice) : Decidable adev.UpdatesAllTogether :=
  inferInstanceAs (Decidable (RunMeets _ _ _ _))

instance (adev : AudioDevice) (out : Nat) (devices : AudioDevices) :
    Decidable (adev.RoutesOutputTogether out devices) :=
  inferInstanceAs (Decidable (_ → _))

instance (adev : AudioDevice) (out : Nat) : Decidable (adev.RoutesCallTogether out) :=
  inferInstanceAs (Decidable (adev.outputDrivesCall out = true →
    if adev.inCall = true then
      ({ adev with currentCallOutput := some out } : AudioDevice).UpdatesAllTogether
    else adev.mode = .inCall →
      ({ adev with currentCallOutput := some out, inCall := true } : AudioDevice).StartsTogether .voiceCall
        (adev.outputs out).devices out))

instance (adev : AudioDevice) : ∀ operation, Decidable (adev.OperatesTogether operation)
  | .outWrite _ _ => inferInstanceAs (Decidable (_ → _))
  | .inRead _ _ => inferInstanceAs (Decidable (_ → _))
  | .outSetParameters _ _ _ => inferInstanceAs (Decidable (_ → _ ∧ _))
  | .voiceUpdateDevices => inferInstanceAs (Decidable (UpdatesAllTogether _))
  | .outStandby _ | .inStandby _ | .adevSetMode _ | .change _ => isTrue trivial

/-- The music follows the primary output from the speaker to the headset, and a call to the earpiece. -/
theorem sharesBackend_headset :
    ∃ last, runSteps operate (idle (.twoOutputs outSpeaker outSpeaker))
        [.outWrite 0 true, .outWrite 1 true, .outSetParameters 0 outWiredHeadset true, .adevSetMode .inCall,
          .outSetParameters 0 outEarpiece true] = some last ∧
      SharesBackend last.usecaseList :=
  ⟨_, rfl, sharesBackend_of_meets (.twoOutputs outSpeaker outSpeaker)
    [.outWrite 0 true, .outWrite 1 true, .outSetParameters 0 outWiredHeadset true, .adevSetMode .inCall,
      .outSetParameters 0 outEarpiece true] _ (by decide) rfl⟩

/-- The music on HDMI is lent the earpiece of a call, which it has when it is routed to the earpiece later:
nothing seems to change, and the primary output stays on the speaker. -/
theorem lentEarpiece_apart :
    ¬∀ settings operations last, runSteps operate (idle settings) operations = some last →
      SharesBackend last.usecaseList := by
  intro hshares
  exact absurd (hshares (.twoOutputs outEarpiece outAuxDigital)
    [.adevSetMode .inCall, .outSetParameters 0 outEarpiece true, .outWrite 1 true, .adevSetMode .normal,
      .outSetParameters 0 outSpeaker true, .outWrite 0 true, .outSetParameters 1 outEarpiece true] _ rfl)
    (by decide)

end AudioDevice

end Nozomi
