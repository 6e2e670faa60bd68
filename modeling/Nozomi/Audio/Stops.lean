import Mathlib.Data.List.Nodup
import Nozomi.Audio.Lifetimes

/-!
# Which entry a stream removes

A stream removes the first entry with its usecase. That is its own where every stream that is started finds
its usecase unused, since the usecase is not looked up then, but when the stream is opened.
-/

namespace Nozomi

open AudioDevices

namespace AudioDevice

/-! ### Stopping an output -/

section

variable (adev : AudioDevice) (out : Nat)

/-- A stop of an output removes the entry of this output, which has no other. -/
def StopsOwn : Prop :=
  ∃ usecase position, adev.usecaseList[position]? = some usecase ∧ usecase.stream = out ∧
    (adev.stopOutputStream out).usecaseList = adev.usecaseList.eraseIdx position ∧
    ∀ other ∈ adev.usecaseList.eraseIdx position, other.stream ≠ out

def startedOutput : AudioDevice :=
  ((adev.setStreamHdmiChannels out).addUsecase (adev.outputs out).usecase (adev.outputs out).devices
    out).selectDevices (adev.outputs out).usecase

theorem startOutputStream_eq (opened : Bool) :
    adev.startOutputStream out opened =
      if opened then (adev.startedOutput out, true)
      else ((adev.startedOutput out).stopOutputStream out, false) := by
  have htable := (pcmDeviceTable_nonneg (adev.outputs out).usecase).1
  rw [startOutputStream]
  dsimp only
  rw [if_neg (by omega)]
  rfl

theorem startedOutput_outputs : (adev.startedOutput out).outputs = adev.outputs := by
  obtain ⟨current, applied, hset⟩ := setStreamHdmiChannels_eq adev out
  rw [startedOutput, hset]
  have houtputs := congrArg AudioSettings.outputs (selectDevices_same (({ adev with
    curHdmiChannels := current, applied := applied } : AudioDevice).addUsecase (adev.outputs out).usecase
      (adev.outputs out).devices out) (adev.outputs out).usecase).2
  exact houtputs

theorem startedOutput_entries :
    (adev.startedOutput out).entries = adev.entries ++ [((adev.outputs out).usecase, out)] := by
  obtain ⟨current, applied, hset⟩ := setStreamHdmiChannels_eq adev out
  rw [startedOutput, hset, (selectDevices_same _ _).1, entries, addUsecase, List.map_append]
  rfl

end

section

variable {adev : AudioDevice} {out : Nat} {usecase : AudioUsecase} {position : Nat}

theorem stopOutputStream_usecaseList
    (hfound : adev.getUsecaseFromList (adev.outputs out).usecase = some (usecase, position)) :
    (adev.stopOutputStream out).usecaseList = adev.usecaseList.eraseIdx position := by
  have hremoved : (((adev.disableAudioRoute usecase).disableSndDevice usecase.outSndDevice).removeUsecase
      position).usecaseList = adev.usecaseList.eraseIdx position := by
    rw [removeUsecase, disableSndDevice_usecaseList]
    rfl
  rw [stopOutputStream, hfound]
  dsimp only
  split
  · obtain ⟨current, applied, hset⟩ := checkAndSetHdmiChannels_eq
      (((adev.disableAudioRoute usecase).disableSndDevice usecase.outSndDevice).removeUsecase position)
      defaultHdmiOutChannels
    rw [hset]
    exact hremoved
  · exact hremoved

theorem stopOutputStream_outputs : (adev.stopOutputStream out).outputs = adev.outputs := by
  rw [stopOutputStream]
  split
  · rfl
  rename_i usecase position hfound
  have hremoved : (((adev.disableAudioRoute usecase).disableSndDevice usecase.outSndDevice).removeUsecase
      position).outputs = adev.outputs :=
    congrArg AudioSettings.outputs (disableSndDevice_settings _ usecase.outSndDevice)
  dsimp only
  split
  · obtain ⟨current, applied, hset⟩ := checkAndSetHdmiChannels_eq
      (((adev.disableAudioRoute usecase).disableSndDevice usecase.outSndDevice).removeUsecase position)
      defaultHdmiOutChannels
    rw [hset]
    exact hremoved
  · exact hremoved

theorem mem_entries {entry : UsecaseId × Nat} :
    entry ∈ adev.entries ↔ ∃ usecase ∈ adev.usecaseList, (usecase.id, usecase.stream) = entry :=
  List.mem_map

theorem eq_of_id (hdistinct : adev.ids.Nodup) {first second : AudioUsecase}
    (hfirst : first ∈ adev.usecaseList) (hsecond : second ∈ adev.usecaseList)
    (hid : first.id = second.id) : first = second :=
  List.inj_on_of_nodup_map hdistinct hfirst hsecond hid

theorem stopsOwn_of_listed (hdistinct : adev.ids.Nodup)
    (hlisted : ((adev.outputs out).usecase, out) ∈ adev.entries)
    (hown : ∀ entry ∈ adev.entries, entry.2 = out → entry.1 = (adev.outputs out).usecase) :
    adev.StopsOwn out ∧
      (adev.stopOutputStream out).entries.Sublist adev.entries ∧
      ∀ entry, entry ∈ (adev.stopOutputStream out).entries ↔ entry ∈ adev.entries ∧ entry.2 ≠ out := by
  obtain ⟨usecase, hmem, hentry⟩ := mem_entries.mp hlisted
  obtain ⟨hid, hstream⟩ := Prod.mk.inj hentry
  have hsome : (adev.getUsecaseFromList (adev.outputs out).usecase).isSome = true := by
    rw [isSome_getUsecaseFromList, ← hid]
    exact List.mem_map_of_mem hmem
  obtain ⟨⟨found, position⟩, hfound⟩ := Option.isSome_iff_exists.mp hsome
  have hitem := getUsecaseFromList_item hfound
  obtain rfl : found = usecase := by
    apply eq_of_id hdistinct (List.mem_of_getElem? hitem) hmem
    rw [getUsecaseFromList_id hfound, hid]
  have hlist := stopOutputStream_usecaseList hfound
  have hperm := ids_perm hitem
  have hothers : ∀ other ∈ adev.usecaseList.eraseIdx position, other.stream ≠ out := by
    intro other hother hsame
    have hnodup := hperm.nodup_iff.mpr hdistinct
    have hotherId : other.id = found.id := by
      have hotherMem := List.mem_of_mem_eraseIdx hother
      have hsameId := hown (other.id, other.stream) (mem_entries.mpr ⟨other, hotherMem, rfl⟩) hsame
      exact hsameId.trans hid.symm
    apply (List.nodup_cons.mp hnodup).1
    rw [← hotherId]
    exact List.mem_map_of_mem hother
  refine ⟨⟨found, position, hitem, hstream, hlist, hothers⟩, ?_, ?_⟩
  · rw [entries, hlist]
    exact (List.eraseIdx_sublist _ _).map _
  · intro entry
    rw [mem_entries, mem_entries, hlist]
    constructor
    · rintro ⟨other, hother, rfl⟩
      exact ⟨⟨other, List.mem_of_mem_eraseIdx hother, rfl⟩, hothers other hother⟩
    · rintro ⟨⟨other, hother, rfl⟩, hne⟩
      refine ⟨other, ?_, rfl⟩
      obtain ⟨index, hindex⟩ := List.getElem?_of_mem hother
      apply List.mem_eraseIdx_iff_getElem?.mpr
      refine ⟨index, ?_, hindex⟩
      rintro rfl
      rw [hitem] at hindex
      obtain rfl := Option.some.inj hindex
      exact hne hstream

theorem getUsecaseFromList_first {id : UsecaseId} {other : AudioUsecase} {index : Nat}
    (hfound : adev.getUsecaseFromList id = some (usecase, position))
    (hother : adev.usecaseList[index]? = some other) (hid : other.id = id) : position ≤ index := by
  obtain ⟨-, place, hplace, hget, hbefore⟩ := List.find?_eq_some_iff_getElem.mp hfound
  rw [List.getElem_zipIdx] at hget
  obtain ⟨-, rfl⟩ := Prod.mk.inj hget
  by_contra hlt
  have hindex : index < place := by omega
  have hfalse := hbefore index hindex
  obtain ⟨hlength, hgetOther⟩ := List.getElem?_eq_some_iff.mp hother
  simp [List.getElem_zipIdx, hgetOther, hid] at hfalse

theorem not_stopsOwn {before : List (UsecaseId × Nat)}
    (hentries : adev.entries = before ++ [((adev.outputs out).usecase, out)])
    (hlisted : (adev.outputs out).usecase ∈ before.map (·.1))
    (hothers : ∀ entry ∈ before, entry.2 ≠ out) : ¬adev.StopsOwn out := by
  rintro ⟨usecase, position, hitem, hstream, hlist, hleft⟩
  have hentry : adev.entries[position]? = some (usecase.id, usecase.stream) := by
    rw [entries, List.getElem?_map, hitem]
    rfl
  have hlast : ¬position < before.length := by
    intro hlt
    rw [hentries, List.getElem?_append_left hlt] at hentry
    exact hothers _ (List.mem_of_getElem? hentry) hstream
  obtain ⟨early, hearly, hearlyId⟩ := List.mem_map.mp hlisted
  obtain ⟨index, hindex⟩ := List.getElem?_of_mem hearly
  have hindexLt : index < before.length := (List.getElem?_eq_some_iff.mp hindex).1
  have hindexEntry : adev.entries[index]? = some early := by
    rw [hentries, List.getElem?_append_left hindexLt, hindex]
  rw [entries, List.getElem?_map] at hindexEntry
  obtain ⟨other, hother, rfl⟩ := Option.map_eq_some_iff.mp hindexEntry
  have hsome : (adev.getUsecaseFromList (adev.outputs out).usecase).isSome = true := by
    rw [isSome_getUsecaseFromList, ← hearlyId]
    exact List.mem_map_of_mem (List.mem_of_getElem? hother)
  obtain ⟨⟨found, place⟩, hfound⟩ := Option.isSome_iff_exists.mp hsome
  have hplace : place ≤ index := getUsecaseFromList_first hfound hother hearlyId
  have hkept : usecase ∈ adev.usecaseList.eraseIdx place :=
    List.mem_eraseIdx_iff_getElem?.mpr ⟨position, by omega, hitem⟩
  rw [← stopOutputStream_usecaseList hfound, hlist] at hkept
  exact hleft usecase hkept hstream

/-! ### The entries of the open outputs -/

/-- The entries are those of the open outputs that are not in standby, with distinct ids. -/
structure PlaysOpen (adev : AudioDevice) (openOutputs : List Nat) : Prop where
  distinct : adev.ids.Nodup
  playing : ∀ entry ∈ adev.entries, entry.2 ∈ openOutputs ∧ (adev.outputs entry.2).standby = false ∧
    entry.1 = (adev.outputs entry.2).usecase
  listed : ∀ out ∈ openOutputs, (adev.outputs out).standby = false →
    ((adev.outputs out).usecase, out) ∈ adev.entries

section

variable {openOutputs : List Nat}

theorem setOutput_self (stream : StreamOut) : (adev.setOutput out stream).outputs out = stream :=
  Function.update_self _ _ _

theorem setOutput_ne {stream : StreamOut} {other : Nat} (hne : other ≠ out) :
    (adev.setOutput out stream).outputs other = adev.outputs other :=
  Function.update_of_ne hne _ _

theorem PlaysOpen.stopsOwn {device : AudioDevice} (hplays : adev.PlaysOpen openOutputs)
    (hlisted : ((adev.outputs out).usecase, out) ∈ adev.entries)
    (hentries : device.entries = adev.entries)
    (husecases : ∀ out, (device.outputs out).usecase = (adev.outputs out).usecase) :
    device.StopsOwn out ∧ (device.stopOutputStream out).entries.Sublist adev.entries ∧
      ∀ entry, entry ∈ (device.stopOutputStream out).entries ↔ entry ∈ adev.entries ∧ entry.2 ≠ out := by
  rw [← hentries]
  apply stopsOwn_of_listed
  · rw [← entries_ids, hentries, entries_ids]
    exact hplays.distinct
  · rw [hentries, husecases]
    exact hlisted
  · intro entry hentry hsame
    rw [hentries] at hentry
    rw [husecases, (hplays.playing entry hentry).2.2, hsame]

theorem PlaysOpen.standby (hplays : adev.PlaysOpen openOutputs) (device : AudioDevice)
    (hdistinct : device.entries.Sublist adev.entries)
    (hentries : ∀ entry, entry ∈ device.entries ↔ entry ∈ adev.entries ∧ entry.2 ≠ out)
    (hself : (device.outputs out).standby = true)
    (hothers : ∀ other, other ≠ out → device.outputs other = adev.outputs other) :
    device.PlaysOpen openOutputs where
  distinct := by
    rw [← entries_ids]
    apply (hdistinct.map _).nodup
    rw [entries_ids]
    exact hplays.distinct
  playing := by
    intro entry hentry
    obtain ⟨hmem, hne⟩ := (hentries entry).mp hentry
    rw [hothers _ hne]
    exact hplays.playing entry hmem
  listed := by
    intro other hother hstandby
    by_cases hsame : other = out
    · rw [hsame, hself] at hstandby
      exact Bool.noConfusion hstandby
    · rw [hothers _ hsame] at hstandby ⊢
      exact (hentries _).mpr ⟨hplays.listed other hother hstandby, hsame⟩

def standbyStops (adev : AudioDevice) (out : Nat) : List (AudioDevice × Nat) :=
  if (adev.outputs out).standby then []
  else [(adev.setOutput out { adev.outputs out with standby := true }, out)]

theorem PlaysOpen.outStandby (hplays : adev.PlaysOpen openOutputs) (hout : out ∈ openOutputs) :
    (∀ stop ∈ adev.standbyStops out, stop.1.StopsOwn stop.2) ∧
      (adev.outStandby out).PlaysOpen openOutputs ∧ ((adev.outStandby out).outputs out).standby = true := by
  rw [standbyStops, AudioDevice.outStandby]
  by_cases hstandby : (adev.outputs out).standby = true
  · rw [if_pos hstandby, if_pos hstandby]
    exact ⟨fun _ hstop => absurd hstop List.not_mem_nil, hplays, hstandby⟩
  rw [if_neg hstandby, if_neg hstandby]
  have hlisted := hplays.listed out hout (Bool.eq_false_iff.mpr hstandby)
  have husecases : ∀ other, ((adev.setOutput out { adev.outputs out with standby := true }).outputs
      other).usecase = (adev.outputs other).usecase :=
    (@KeepsCall.setOutput adev out { adev.outputs out with standby := true } rfl).usecases
  obtain ⟨hstops, hsublist, hentries⟩ := @PlaysOpen.stopsOwn _ _ _
    (adev.setOutput out { adev.outputs out with standby := true }) hplays hlisted rfl husecases
  have hself : (((adev.setOutput out { adev.outputs out with standby := true }).stopOutputStream
      out).outputs out).standby = true := by
    rw [stopOutputStream_outputs, setOutput_self]
  refine ⟨?_, ?_, hself⟩
  · intro stop hstop
    obtain rfl := List.mem_singleton.mp hstop
    exact hstops
  · apply hplays.standby _ hsublist hentries hself
    intro other hne
    rw [stopOutputStream_outputs, setOutput_ne hne]

def wokenOutput (adev : AudioDevice) (out : Nat) : AudioDevice :=
  (adev.setOutput out { adev.outputs out with standby := false }).startedOutput out

theorem wokenOutput_entries :
    (adev.wokenOutput out).entries = adev.entries ++ [((adev.outputs out).usecase, out)] := by
  rw [wokenOutput, startedOutput_entries, setOutput_self]
  rfl

theorem wokenOutput_self : (adev.wokenOutput out).outputs out = { adev.outputs out with standby := false } := by
  rw [wokenOutput, startedOutput_outputs, setOutput_self]

theorem wokenOutput_ne {other : Nat} (hne : other ≠ out) :
    (adev.wokenOutput out).outputs other = adev.outputs other := by
  rw [wokenOutput, startedOutput_outputs, setOutput_ne hne]

theorem outWrite_of_standby (hstandby : (adev.outputs out).standby = true) (opened : Bool) :
    adev.outWrite out opened =
      if opened then adev.wokenOutput out
      else ((adev.wokenOutput out).stopOutputStream out).setOutput out
        { ((adev.wokenOutput out).stopOutputStream out).outputs out with standby := true } := by
  rw [outWrite, if_pos hstandby, startOutputStream_eq]
  cases opened <;> rfl

theorem outWrite_of_awake (hstandby : ¬(adev.outputs out).standby = true) (opened : Bool) :
    adev.outWrite out opened = adev := by
  rw [outWrite, if_neg hstandby]

def startStops (adev : AudioDevice) (out : Nat) (opened : Bool) : List (AudioDevice × Nat) :=
  if (adev.outputs out).standby = true ∧ opened = false then [(adev.wokenOutput out, out)] else []

theorem PlaysOpen.not_listed (hplays : adev.PlaysOpen openOutputs)
    (hstandby : (adev.outputs out).standby = true) : ∀ entry ∈ adev.entries, entry.2 ≠ out := by
  intro entry hentry hsame
  have hawake := (hplays.playing entry hentry).2.1
  rw [hsame, hstandby] at hawake
  exact Bool.noConfusion hawake

theorem PlaysOpen.wokenOutput (hplays : adev.PlaysOpen openOutputs) (hout : out ∈ openOutputs)
    (hstandby : (adev.outputs out).standby = true) (hfresh : (adev.outputs out).usecase ∉ adev.ids) :
    (adev.wokenOutput out).PlaysOpen openOutputs where
  distinct := by
    rw [← entries_ids, wokenOutput_entries, List.map_append, entries_ids]
    exact List.nodup_append_comm.mp (List.nodup_cons.mpr ⟨hfresh, hplays.distinct⟩)
  playing := by
    intro entry hentry
    rw [wokenOutput_entries] at hentry
    rcases List.mem_append.mp hentry with hmem | hmem
    · rw [wokenOutput_ne (hplays.not_listed hstandby entry hmem)]
      exact hplays.playing entry hmem
    · obtain rfl := List.mem_singleton.mp hmem
      rw [wokenOutput_self]
      exact ⟨hout, rfl, rfl⟩
  listed := by
    intro other hother hawake
    rw [wokenOutput_entries]
    by_cases hsame : other = out
    · subst hsame
      rw [wokenOutput_self]
      exact List.mem_append_right _ List.mem_cons_self
    · rw [wokenOutput_ne hsame] at hawake ⊢
      exact List.mem_append_left _ (hplays.listed other hother hawake)

theorem PlaysOpen.outWrite (hplays : adev.PlaysOpen openOutputs) (hout : out ∈ openOutputs)
    (hfresh : (adev.outputs out).standby = true → (adev.outputs out).usecase ∉ adev.ids) (opened : Bool) :
    (∀ stop ∈ adev.startStops out opened, stop.1.StopsOwn stop.2) ∧
      (adev.outWrite out opened).PlaysOpen openOutputs := by
  rw [startStops]
  by_cases hstandby : (adev.outputs out).standby = true
  · have hwoken := hplays.wokenOutput hout hstandby (hfresh hstandby)
    rw [outWrite_of_standby hstandby]
    cases opened with
    | true =>
      rw [if_neg (by simp), if_pos rfl]
      exact ⟨fun _ hstop => absurd hstop List.not_mem_nil, hwoken⟩
    | false =>
      rw [if_pos ⟨hstandby, rfl⟩, if_neg Bool.false_ne_true]
      have hawake : ((adev.wokenOutput out).outputs out).standby = false := by rw [wokenOutput_self]
      obtain ⟨hstops, hsublist, hentries⟩ :=
        hwoken.stopsOwn (hwoken.listed out hout hawake) rfl fun _ => rfl
      refine ⟨?_, ?_⟩
      · intro stop hstop
        obtain rfl := List.mem_singleton.mp hstop
        exact hstops
      · apply hwoken.standby (((adev.wokenOutput out).stopOutputStream out).setOutput out
          { ((adev.wokenOutput out).stopOutputStream out).outputs out with standby := true }) hsublist hentries
        · rw [setOutput_self]
        · intro other hne
          rw [setOutput_ne hne, stopOutputStream_outputs]
  · rw [if_neg fun hboth => hstandby hboth.1, outWrite_of_awake hstandby]
    exact ⟨fun _ hstop => absurd hstop List.not_mem_nil, hplays⟩

theorem PlaysOpen.not_outWrite (hplays : adev.PlaysOpen openOutputs)
    (hstandby : (adev.outputs out).standby = true) (hlisted : (adev.outputs out).usecase ∈ adev.ids)
    {opened : Bool} (hstops : ∀ stop ∈ adev.startStops out opened, stop.1.StopsOwn stop.2) :
    ¬(adev.outWrite out opened).ids.Nodup ∧
      ¬∀ stop ∈ (adev.outWrite out opened).standbyStops out, stop.1.StopsOwn stop.2 := by
  rw [← entries_ids] at hlisted
  have hnotOwn : ∀ device : AudioDevice, device.entries = (adev.wokenOutput out).entries →
      (device.outputs out).usecase = (adev.outputs out).usecase → ¬device.StopsOwn out := by
    intro device hentries husecase
    rw [wokenOutput_entries, ← husecase] at hentries
    rw [← husecase] at hlisted
    exact not_stopsOwn hentries hlisted (hplays.not_listed hstandby)
  cases opened with
  | false =>
    rw [startStops, if_pos ⟨hstandby, rfl⟩] at hstops
    exact absurd (hstops _ List.mem_cons_self) (hnotOwn _ rfl (by rw [wokenOutput_self]))
  | true =>
    rw [outWrite_of_standby hstandby, if_pos rfl]
    constructor
    · rw [← entries_ids, wokenOutput_entries, List.map_append]
      intro hnodup
      exact (List.nodup_append.mp hnodup).2.2 _ hlisted _ List.mem_cons_self rfl
    · intro hown
      rw [standbyStops, if_neg (by simp [wokenOutput_self])] at hown
      refine absurd (hown _ List.mem_cons_self) (hnotOwn _ rfl ?_)
      rw [setOutput_self, wokenOutput_self]

end

end

end AudioDevice

namespace AudioHw

/-! ### Runs of calls for outputs -/

section

variable (adev : AudioHw)

def outputStops : OutputCall → List (AudioDevice × Nat)
  | .adevOpenOutputStream _ _ => []
  | .outWrite out opened written =>
    adev.startStops out opened ++
      if ((adev.outWrite out opened).outputs out).usecase ≠ .audioPlaybackOffload ∧ written = false then
        (adev.outWrite out opened).standbyStops out
      else []
  | .outStandby out | .adevCloseOutputStream out => adev.standbyStops out

/-- After the call no two entries have the same id, and each stop in it removes the entry of its stream and no
other. -/
def StopsOwnIn (call : OutputCall) : Prop :=
  (∀ next, adev.outputCall call = some next → next.ids.Nodup) ∧
    ∀ stop ∈ adev.outputStops call, stop.1.StopsOwn stop.2

/-- The condition on a call: the usecase of an output that is started by a write is not in the list. -/
def StartsUnused : OutputCall → Prop
  | .outWrite out _ _ => (adev.outputs out).standby = true → (adev.outputs out).usecase ∉ adev.ids
  | .adevOpenOutputStream _ _ | .outStandby _ | .adevCloseOutputStream _ => True

end

section

variable {adev next : AudioHw} {out : Nat}

theorem stream_standby {request : OutputRequest} {stream : StreamOut}
    (hstream : request.stream = some stream) : stream.standby = true := by
  rw [OutputRequest.stream] at hstream
  repeat' split at hstream
  all_goals cases hstream
  all_goals rfl

theorem plays_of_open (hplays : adev.PlaysOpen adev.openOutputs) {request : OutputRequest}
    (hout : out ∉ adev.openOutputs) :
    (adev.adevOpenOutputStream out request).PlaysOpen (adev.adevOpenOutputStream out request).openOutputs := by
  cases hstream : request.stream with
  | none =>
    rw [adevOpenOutputStream_refused adev hstream]
    exact hplays
  | some stream =>
    rw [adevOpenOutputStream_eq adev hstream out]
    have hself : (Function.update adev.outputs out stream out).standby = true := by
      rw [Function.update_self, stream_standby hstream]
    refine ⟨hplays.distinct, ?_, ?_⟩
    · intro entry hentry
      obtain ⟨hopen, hplaying⟩ := hplays.playing entry hentry
      have hne : entry.2 ≠ out := by
        rintro rfl
        exact hout hopen
      dsimp only
      rw [Function.update_of_ne hne]
      refine ⟨?_, hplaying⟩
      split
      · exact List.mem_cons_of_mem _ hopen
      · exact hopen
    · intro other hother hawake
      dsimp only at hother hawake ⊢
      by_cases hsame : other = out
      · rw [hsame, hself] at hawake
        exact Bool.noConfusion hawake
      · rw [Function.update_of_ne hsame] at hawake ⊢
        refine hplays.listed other ?_ hawake
        split at hother
        · exact (List.mem_cons.mp hother).resolve_left hsame
        · exact hother

theorem plays_of_close (hplays : adev.PlaysOpen adev.openOutputs) (hout : out ∈ adev.openOutputs) :
    (adev.adevCloseOutputStream out).PlaysOpen (adev.adevCloseOutputStream out).openOutputs := by
  obtain ⟨-, hasleep, hstandby⟩ := hplays.outStandby hout
  rw [adevCloseOutputStream_eq adev out]
  refine ⟨hasleep.distinct, ?_, ?_⟩
  · intro entry hentry
    obtain ⟨hopen, hplaying⟩ := hasleep.playing entry hentry
    have hne := hasleep.not_listed hstandby entry hentry
    exact ⟨(List.mem_erase_of_ne hne).mpr hopen, hplaying⟩
  · exact fun other hother hawake => hasleep.listed other (List.mem_of_mem_erase hother) hawake

theorem outputCall_stops_iff {call : OutputCall} (hplays : adev.PlaysOpen adev.openOutputs)
    (hnext : adev.outputCall call = some next) :
    (adev.StopsOwnIn call ↔ adev.StartsUnused call) ∧
      (adev.StartsUnused call → next.PlaysOpen next.openOutputs) := by
  have hmeets : next.PlaysOpen next.openOutputs → (∀ stop ∈ adev.outputStops call, stop.1.StopsOwn stop.2) →
      adev.StopsOwnIn call := by
    intro hafter hstops
    refine ⟨?_, hstops⟩
    intro after hnextAfter
    obtain rfl := Option.some.inj (hnext.symm.trans hnextAfter)
    exact hafter.distinct
  cases call with
  | adevOpenOutputStream out request =>
    rw [outputCall] at hnext
    split at hnext
    · cases hnext
    · rename_i hout
      obtain rfl := Option.some.inj hnext
      have hafter := @plays_of_open _ out hplays request hout
      exact ⟨⟨fun _ => trivial, fun _ => hmeets hafter fun _ hstop => absurd hstop List.not_mem_nil⟩,
        fun _ => hafter⟩
  | outStandby out =>
    rw [outputCall] at hnext
    split at hnext
    · rename_i hout
      obtain rfl := Option.some.inj hnext
      obtain ⟨hstops, hafter, -⟩ := hplays.outStandby hout
      exact ⟨⟨fun _ => trivial, fun _ => hmeets hafter hstops⟩, fun _ => hafter⟩
    · cases hnext
  | adevCloseOutputStream out =>
    rw [outputCall] at hnext
    split at hnext
    · rename_i hout
      obtain rfl := Option.some.inj hnext
      have hafter := plays_of_close hplays hout
      exact ⟨⟨fun _ => trivial, fun _ => hmeets hafter (hplays.outStandby hout).1⟩, fun _ => hafter⟩
    · cases hnext
  | outWrite out opened written =>
    rw [outputCall] at hnext
    split at hnext
    · rename_i hout
      obtain rfl := Option.some.inj hnext
      have hkept : adev.StartsUnused (.outWrite out opened written) →
          (adev.outWriteSamples out opened written).PlaysOpen adev.openOutputs ∧
            ∀ stop ∈ adev.outputStops (.outWrite out opened written), stop.1.StopsOwn stop.2 := by
        intro hunused
        obtain ⟨hstops, hwritten⟩ := hplays.outWrite hout hunused opened
        rw [outWriteSamples, outputStops]
        dsimp only
        split
        · obtain ⟨hstandbyStops, hasleep, -⟩ := hwritten.outStandby hout
          refine ⟨hasleep, fun stop hstop => ?_⟩
          exact (List.mem_append.mp hstop).elim (hstops stop) (hstandbyStops stop)
        · exact ⟨hwritten, fun stop hstop => hstops stop (by simpa using hstop)⟩
      have hopen : (adev.outWriteSamples out opened written).openOutputs = adev.openOutputs := by
        rw [outWriteSamples]
        dsimp only
        split <;> rfl
      rw [hopen] at hmeets ⊢
      refine ⟨⟨?_, fun hunused => hmeets (hkept hunused).1 (hkept hunused).2⟩,
        fun hunused => (hkept hunused).1⟩
      rintro ⟨hnodup, hstops⟩ hstandby hlisted
      have hafter : (adev.outWriteSamples out opened written).ids.Nodup :=
        hnodup _ (by rw [outputCall, if_pos hout])
      rw [outputStops] at hstops
      obtain ⟨hduplicate, hremoves⟩ := hplays.not_outWrite hstandby hlisted
        fun stop hstop => hstops stop (List.mem_append_left _ hstop)
      rw [outWriteSamples] at hafter
      dsimp only at hafter
      split at hafter
      · rename_i hfails
        refine hremoves fun stop hstop => hstops stop (List.mem_append_right _ ?_)
        rw [if_pos hfails]
        exact hstop
      · exact hduplicate hafter
    · cases hnext

theorem start_plays (platform : PlatformData) (outputs : Nat → StreamOut) (inputs : Nat → StreamIn) :
    (start platform outputs inputs).PlaysOpen (start platform outputs inputs).openOutputs :=
  ⟨List.nodup_nil, fun _ hentry => absurd hentry List.not_mem_nil, fun _ hout => absurd hout List.not_mem_nil⟩

/-- In a run of calls for outputs the ids stay distinct, and every stop removes the entry of its stream and no
other, exactly where no write starts an output whose usecase is in the list. -/
theorem stopsOwn_iff (platform : PlatformData) (outputs : Nat → StreamOut) (inputs : Nat → StreamIn)
    (calls : List OutputCall) (last : AudioHw)
    (hrun : runSteps outputCall (start platform outputs inputs) calls = some last) :
    RunMeets outputCall StopsOwnIn (start platform outputs inputs) calls ↔
      RunMeets outputCall StartsUnused (start platform outputs inputs) calls := by
  apply runMeets_congr_of_meets (fun adev => adev.PlaysOpen adev.openOutputs) _ _ _
    (start_plays platform outputs inputs) hrun
  · exact fun adev call next hunused hplays hnext => (outputCall_stops_iff hplays hnext).2 hunused
  · exact fun adev call next hplays hnext => (outputCall_stops_iff hplays hnext).1

end

instance (adev : AudioHw) : ∀ call, Decidable (adev.StartsUnused call)
  | .outWrite _ _ _ => inferInstanceAs (Decidable (_ → _))
  | .adevOpenOutputStream _ _ | .outStandby _ | .adevCloseOutputStream _ => isTrue trivial

/-- The primary output and the offloaded one play at once. -/
theorem stopsOwn_music :
    RunMeets outputCall StopsOwnIn fresh
      [.adevOpenOutputStream 0 .primaryOutput, .adevOpenOutputStream 1 (.offloaded false),
        .outWrite 0 true true, .outWrite 1 true true, .outWrite 0 true false, .adevCloseOutputStream 1] :=
  (stopsOwn_iff _ _ _ _ _ rfl).mpr (by decide)

/-- Two outputs for offloaded music are opened before one of them is started. -/
theorem secondOffload_listed :
    ¬∀ platform outputs inputs calls last,
      runSteps outputCall (start platform outputs inputs) calls = some last →
        RunMeets outputCall StopsOwnIn (start platform outputs inputs) calls := by
  intro hstops
  have hrun := hstops _ _ _ [.adevOpenOutputStream 0 (.offloaded false),
    .adevOpenOutputStream 1 (.offloaded false), .outWrite 0 true true, .outWrite 1 true true] _
    (show runSteps outputCall fresh _ = _ from rfl)
  have hdistinct := (((hrun.2 _ rfl).2 _ rfl).2 _ rfl).1.1 _ rfl
  exact absurd hdistinct (by decide)

end AudioHw

end Nozomi
