import Mathlib.Algebra.Order.Group.Multiset
import Mathlib.Tactic.Abel
import Nozomi.Base.Counter
import Nozomi.Base.Run
import Nozomi.Venc.Buffers.Code

/-!
# The pending counters of the encoder

`pending_input_buffers` and `pending_output_buffers` count the buffers that passed the index check of their
proxy and were not processed since. They do so as long as the driver takes what it is given: behind a failed
`dev_empty_buf` or `dev_fill_buf` the counter is lowered at once and again by the done event that was posted.
-/

namespace Nozomi.Venc

open OmxVideo

/-! ### The invariant -/

def expectedInput (video : OmxVideo) : Multiset InputHeader :=
  ↑video.driverInput + ↑(video.mEtbQ.filterMap EtbEntry.ebdHeader)

def expectedOutput (video : OmxVideo) : Multiset Nat :=
  ↑video.driverOutput + ↑(video.mCmdQ.filterMap CmdEntry.fbdBuffer)

/-- The driver takes what it is given, and memory that is not a buffer of the client's own. -/
def DeviceScript.Accepts (device : DeviceScript) : Prop :=
  device.etb.emptyBuf ∧ (∀ outcome ∈ device.queued, outcome.useBuf ∧ outcome.empty.emptyBuf) ∧
    (∀ outcome ∈ device.conversions, outcome.useBuf ∧ outcome.empty.emptyBuf) ∧ device.fillBuf

instance (device : DeviceScript) : Decidable device.Accepts :=
  inferInstanceAs (Decidable (device.etb.emptyBuf ∧
    (∀ outcome ∈ device.queued, outcome.useBuf ∧ outcome.empty.emptyBuf) ∧
    (∀ outcome ∈ device.conversions, outcome.useBuf ∧ outcome.empty.emptyBuf) ∧ device.fillBuf))

/-- What the input side does not change: the index check of `empty_buffer_done`, and the queue and the number of
the output buffers. -/
structure Outside where
  passesDone : InputHeader → Bool
  mFtbQ : List Nat
  outBufferCountActual : Nat

def outsideOf (video : OmxVideo) : Outside := ⟨video.passesDone, video.mFtbQ, video.outBufferCountActual⟩

/-- Both counters cover what is expected, beside done events that the message thread is about to process. What
waits to be emptied passes the index check of `empty_buffer_done`. -/
def Accounted (outside : Outside) (inputs : Multiset InputHeader) (outputs : Multiset Nat)
    (video : OmxVideo) : Prop :=
  video.device.Accepts ∧ outsideOf video = outside ∧
    (∀ buffer, .etb buffer ∈ video.mEtbQ → outside.passesDone buffer = true) ∧
    Balanced video.pendingInputBuffers ↑video.countedInput (inputs + expectedInput video) ∧
    Balanced video.pendingOutputBuffers ↑video.countedOutput (outputs + expectedOutput video)

def Accounts {α : Type} (outside : Outside) (inputs : Multiset InputHeader) (outputs : Multiset Nat)
    (code : VencM α) : Prop :=
  Establishes (Accounted outside inputs outputs) code fun _ => Accounted outside inputs outputs

section

variable {α : Type} {outside : Outside} {inputs : Multiset InputHeader} {outputs : Multiset Nat} {video : OmxVideo}

theorem accounts_pure (value : α) : Accounts outside inputs outputs (pure value) :=
  establishes_pure fun _ hvideo => hvideo

theorem accounts_throw (reason : VencExit) : Accounts outside inputs outputs (throw reason : VencM α) :=
  establishes_throw reason

theorem accounts_change {change : OmxVideo → OmxVideo} {rest : PUnit → VencM α}
    (hchange : ∀ video, Accounted outside inputs outputs video → Accounted outside inputs outputs (change video))
    (hrest : ∀ value, Accounts outside inputs outputs (rest value)) :
    Accounts outside inputs outputs (modify change >>= rest) :=
  establishes_change _ hchange hrest

theorem Accounts.bind {β : Type} {code : VencM α} {rest : α → VencM β} (hcode : Accounts outside inputs outputs code)
    (hrest : ∀ value, Accounts outside inputs outputs (rest value)) :
    Accounts outside inputs outputs (code >>= rest) :=
  Establishes.bind hcode hrest

theorem filterMap_insertEntry_le {α β : Type} (f : α → Option β) (queue : List α) (entry : α) :
    (↑((insertEntry queue entry).filterMap f) : Multiset β) ≤ ↑(f entry).toList + ↑(queue.filterMap f) := by
  unfold insertEntry
  split
  · cases hf : f entry with
    | none => simp [List.filterMap_append, hf]
    | some value =>
      have hcomm := Multiset.add_comm (↑(queue.filterMap f)) {value}
      simpa [List.filterMap_append, hf, ← Multiset.coe_add, ← Multiset.cons_coe] using hcomm.le
  · exact Multiset.le_add_left _ _

theorem mem_of_mem_insertEntry {α : Type} {queue : List α} {entry other : α}
    (hmem : other ∈ insertEntry queue entry) : other ∈ queue ∨ other = entry := by
  unfold insertEntry at hmem
  split at hmem
  · simpa using hmem
  · exact .inl hmem

theorem establishes_postEtb {entry : EtbEntry}
    (hentry : ∀ buffer, entry = .etb buffer → outside.passesDone buffer = true) :
    Establishes (Accounted outside (↑entry.ebdHeader.toList + inputs) outputs) (postEtb entry)
      fun _ => Accounted outside inputs outputs := by
  refine establishes_get fun _ => establishes_ite (fun _ => establishes_throw _) fun _ => ?_
  rintro video ⟨⟨hdevice, hout, hetb, hinput, houtput⟩, rfl⟩
  refine ⟨hdevice, hout, ?_, hinput.mono ?_, houtput⟩
  · intro buffer hmem
    rcases mem_of_mem_insertEntry hmem with hmem | heq
    · exact hetb buffer hmem
    · exact hentry buffer heq.symm
  have hle := filterMap_insertEntry_le EtbEntry.ebdHeader video.mEtbQ entry
  calc inputs + (↑video.driverInput + ↑((insertEntry video.mEtbQ entry).filterMap EtbEntry.ebdHeader))
      ≤ inputs + (↑video.driverInput +
          (↑entry.ebdHeader.toList + ↑(video.mEtbQ.filterMap EtbEntry.ebdHeader))) := by gcongr
    _ = ↑entry.ebdHeader.toList + inputs + expectedInput video := by
        rw [expectedInput]
        abel

variable (buffer source : InputHeader)

theorem establishes_postEbd :
    Establishes (Accounted outside (buffer ::ₘ inputs) outputs) (postEtb (.ebd buffer))
      fun _ => Accounted outside inputs outputs := by
  have hpost := @establishes_postEtb outside inputs outputs (.ebd buffer) nofun
  rwa [EtbEntry.ebdHeader, Option.toList_some, Multiset.coe_singleton, Multiset.singleton_add] at hpost

theorem establishes_postCmd (entry : CmdEntry) :
    Establishes (Accounted outside inputs (↑entry.fbdBuffer.toList + outputs)) (postCmd entry)
      fun _ => Accounted outside inputs outputs := by
  refine establishes_get fun _ => establishes_ite (fun _ => establishes_throw _) fun _ => ?_
  rintro video ⟨⟨hdevice, hout, hetb, hinput, houtput⟩, rfl⟩
  refine ⟨hdevice, hout, hetb, hinput, houtput.mono ?_⟩
  have hle := filterMap_insertEntry_le CmdEntry.fbdBuffer video.mCmdQ entry
  calc outputs + (↑video.driverOutput + ↑((insertEntry video.mCmdQ entry).filterMap CmdEntry.fbdBuffer))
      ≤ outputs + (↑video.driverOutput +
          (↑entry.fbdBuffer.toList + ↑(video.mCmdQ.filterMap CmdEntry.fbdBuffer))) := by gcongr
    _ = ↑entry.fbdBuffer.toList + outputs + expectedOutput video := by
        rw [expectedOutput]
        abel

theorem establishes_postFbd (buffer : Nat) :
    Establishes (Accounted outside inputs (buffer ::ₘ outputs)) (postCmd (.fbd buffer))
      fun _ => Accounted outside inputs outputs := by
  have hpost := @establishes_postCmd outside inputs outputs (.fbd buffer)
  rwa [CmdEntry.fbdBuffer, Option.toList_some, Multiset.coe_singleton, Multiset.singleton_add] at hpost

/-! ### The input port -/

theorem accounts_emptyThisBuffer (header : BufferHeader) :
    Accounts outside inputs outputs (emptyThisBuffer buffer header) := by
  refine accounts_change (fun _ hvideo => hvideo) fun _ => ?_
  refine establishes_get_of (fun video => video.passesDone = outside.passesDone)
    (fun _ hvideo => congrArg Outside.passesDone hvideo.2.1) fun video hdone => ?_
  iterate 5 refine establishes_ite (fun _ => accounts_pure _) fun _ => ?_
  refine establishes_ite (fun _ => accounts_pure _) fun hindex => ?_
  have hpasses : outside.passesDone buffer = true := by
    rw [← hdone, OmxVideo.passesDone]
    split at hindex <;> simp [hindex]
  have hpost : Accounts outside inputs outputs (postEtb (video.mInputMsgId.entry buffer)) := by
    cases video.mInputMsgId with
    | generateEtb =>
      refine Establishes.imp (establishes_postEtb ?_) (fun _ hvideo => ?_) fun _ _ hvideo => hvideo
      · rintro other ⟨⟩
        exact hpasses
      · rwa [InputMsgId.entry, EtbEntry.ebdHeader, Option.toList_none, Multiset.coe_nil, zero_add]
    | generateEtbOpq =>
      refine Establishes.imp (establishes_postEtb nofun) (fun _ hvideo => ?_) fun _ _ hvideo => hvideo
      rwa [InputMsgId.entry, EtbEntry.ebdHeader, Option.toList_none, Multiset.coe_nil, zero_add]
  exact hpost.bind fun _ => accounts_change (fun _ hvideo => hvideo) fun _ => accounts_pure _

theorem accounts_checkMedia : Accounts outside inputs outputs (checkMedia buffer) := by
  refine establishes_look fun video => ?_
  split
  · exact accounts_pure _
  · split
    · exact accounts_pure _
    · exact accounts_pure _
    · exact establishes_throw _
    · exact accounts_pure _
    · exact accounts_pure _

theorem accounts_useMedia (useBuf : Bool) : Accounts outside inputs outputs (useMedia buffer useBuf) := by
  refine establishes_look fun video => establishes_ite (fun _ => ?_) fun _ => ?_
  · exact (accounts_checkMedia buffer).bind fun _ => accounts_pure _
  · exact accounts_pure _

theorem accounts_emptyThisBufferProxy {outcome : EmptyOutcome} (hempty : outcome.emptyBuf = true) :
    Accounts outside inputs outputs (emptyThisBufferProxy buffer outcome) := by
  refine establishes_look fun video => ?_
  refine establishes_ite (fun _ => accounts_pure _) fun _ => ?_
  have hraise : ∀ video, Accounted outside inputs outputs video → Accounted outside (buffer ::ₘ inputs) outputs
      { video with
        pendingInputBuffers := video.pendingInputBuffers + 1
        countedInput := buffer :: video.countedInput } := by
    rintro video ⟨hdevice, hout, hetb, hinput, houtput⟩
    refine ⟨hdevice, hout, hetb, ?_, houtput⟩
    rw [Multiset.cons_add]
    exact hinput.raise buffer
  have hgive : ∀ video, Accounted outside (buffer ::ₘ inputs) outputs video → Accounted outside inputs outputs
      { video with driverInput := video.driverInput ++ [buffer] } := by
    rintro video ⟨hdevice, hout, hetb, hinput, houtput⟩
    refine ⟨hdevice, hout, hetb, hinput.mono (le_of_eq ?_), houtput⟩
    simp only [expectedInput, ← Multiset.coe_add, Multiset.coe_singleton, ← Multiset.singleton_add]
    abel
  refine establishes_change _ hraise fun _ => establishes_ite (fun _ => ?_) fun _ => ?_
  · exact (establishes_postEbd buffer).bind fun _ => accounts_pure _
  refine Establishes.bind (accounts_useMedia buffer outcome.useBuf) fun used => ?_
  refine establishes_ite (fun _ => ?_) fun _ => ?_
  · exact (establishes_postEbd buffer).bind fun _ => accounts_pure _
  · rw [if_pos hempty]
    exact establishes_change _ hgive fun _ => accounts_pure _

/-! ### The opaque path -/

theorem accounted_popSource (hvideo : Accounted outside inputs outputs video) :
    Accounted outside inputs outputs video.popSource := by
  unfold popSource
  split <;> exact hvideo

theorem accounted_popDest (hvideo : Accounted outside inputs outputs video) :
    Accounted outside inputs outputs video.popDest := by
  unfold popDest
  split <;> exact hvideo

theorem establishes_nextQueued : Establishes (Accounted outside inputs outputs) nextQueued
    fun outcome next => (outcome.useBuf ∧ outcome.empty.emptyBuf) ∧ Accounted outside inputs outputs next := by
  rintro video ⟨⟨hetb, hqueued, hconversions, hfill⟩, hcounters⟩
  rw [nextQueued, ends_modifyGet]
  split
  case h_1 outcome rest hdevice =>
    rw [hdevice] at hqueued
    exact ⟨hqueued outcome List.mem_cons_self,
      ⟨hetb, fun other hother => hqueued other (List.mem_cons_of_mem _ hother), hconversions, hfill⟩,
      hcounters⟩
  case h_2 => exact ⟨⟨rfl, rfl⟩, ⟨hetb, hqueued, hconversions, hfill⟩, hcounters⟩

theorem establishes_nextConversion : Establishes (Accounted outside inputs outputs) nextConversion
    fun outcome next => (outcome.useBuf ∧ outcome.empty.emptyBuf) ∧ Accounted outside inputs outputs next := by
  rintro video ⟨⟨hetb, hqueued, hconversions, hfill⟩, hcounters⟩
  rw [nextConversion, ends_modifyGet]
  split
  case h_1 outcome rest hdevice =>
    rw [hdevice] at hconversions
    exact ⟨hconversions outcome List.mem_cons_self,
      ⟨hetb, hqueued, fun other hother => hconversions other (List.mem_cons_of_mem _ hother), hfill⟩,
      hcounters⟩
  case h_2 => exact ⟨⟨rfl, rfl⟩, ⟨hetb, hqueued, hconversions, hfill⟩, hcounters⟩

theorem accounts_queueMetaBuffer : Accounts outside inputs outputs (queueMetaBuffer source) := by
  have hqueue : Accounts outside inputs outputs (queueSource source) := by
    refine establishes_nextQueued.bind fun outcome => establishes_of fun houtcome => ?_
    refine establishes_look fun video => establishes_ite (fun hfails => ?_) fun _ => ?_
    · simp [houtcome.1] at hfails
    · exact accounts_emptyThisBufferProxy source houtcome.2
  refine hqueue.bind fun ret => establishes_ite (fun _ => ?_) fun _ => ?_
  · exact accounts_change (fun _ hvideo => accounted_popSource hvideo) fun _ => accounts_pure _
  · exact accounts_change (fun _ hvideo => hvideo) fun _ => accounts_pure _

theorem accounts_copyHeader (dest : InputHeader) (length : Nat) (keepOffset : Bool) :
    Accounts outside inputs outputs (copyHeader source dest length keepOffset) :=
  establishes_modify fun _ hvideo => hvideo

theorem accounts_convertFrame (dest : InputHeader) (outcome : ConversionOutcome) :
    Accounts outside inputs outputs (convertFrame source dest outcome) := by
  refine establishes_look fun video => establishes_ite (fun _ => ?_) fun _ => ?_
  · exact (accounts_copyHeader source dest _ _).bind fun _ => accounts_pure _
  refine establishes_ite (fun _ => accounts_pure _) fun _ => ?_
  refine establishes_ite (fun _ => accounts_pure _) fun _ => ?_
  split
  · exact accounts_pure _
  · refine establishes_ite (fun _ => ?_) fun _ => ?_
    · exact (accounts_copyHeader source dest _ _).bind fun _ => accounts_pure _
    · exact (accounts_copyHeader source dest _ _).bind fun _ => accounts_pure _

theorem accounts_convertQueueBuffer (dest : InputHeader) :
    Accounts outside inputs outputs (convertQueueBuffer source dest) := by
  have hqueue : Accounts outside inputs outputs (queueConverted source dest) := by
    refine establishes_nextConversion.bind fun outcome => establishes_of fun houtcome => ?_
    refine (accounts_convertFrame source dest outcome).bind fun ret => ?_
    refine establishes_ite (fun _ => accounts_pure _) fun _ => ?_
    refine establishes_ite (fun hfails => ?_) fun _ => ?_
    · simp [houtcome.1] at hfails
    · exact accounts_emptyThisBufferProxy dest houtcome.2
  refine hqueue.bind fun ret => establishes_ite (fun _ => ?_) fun _ => ?_
  · refine accounts_change (fun _ hvideo => hvideo) fun _ => ?_
    exact accounts_change (fun _ hvideo => accounted_popDest (accounted_popSource hvideo)) fun _ =>
      accounts_pure _
  · exact accounts_change (fun _ hvideo => hvideo) fun _ => accounts_pure _

theorem accounts_pushFrame (dest : InputHeader) : Accounts outside inputs outputs (pushFrame source dest) := by
  refine establishes_look fun video => ?_
  refine establishes_ite (fun _ => accounts_pure _) fun _ => ?_
  split
  · exact establishes_throw _
  · exact accounts_queueMetaBuffer source
  · exact accounts_convertQueueBuffer source dest
  · exact accounts_pure _

theorem accounts_pushFrames (fuel : Nat) : Accounts outside inputs outputs (pushFrames fuel) := by
  induction fuel with
  | zero => exact establishes_throw _
  | succ fuel ih =>
    refine establishes_look fun video => ?_
    split
    · refine (accounts_pushFrame _ _).bind fun ret => ?_
      exact establishes_ite (fun _ => ih) fun _ => accounts_pure _
    · exact accounts_pure _

theorem accounts_pushInputBuffer : Accounts outside inputs outputs pushInputBuffer :=
  accounts_change (fun _ hvideo => accounted_popDest (accounted_popSource hvideo)) fun _ =>
    establishes_look fun _ => accounts_pushFrames _

theorem accounts_openConverter (format : PixelFormat) :
    Accounts outside inputs outputs (openConverter format) := by
  refine accounts_change (fun video hvideo => ?_) fun _ => ?_
  · split <;> exact hvideo
  refine establishes_look fun video => establishes_ite (fun _ => accounts_pure _) fun _ => ?_
  cases format with
  | rgba8888 =>
    refine establishes_ite (fun _ => ?_) fun _ => accounts_pure _
    exact accounts_change (fun _ hvideo => hvideo) fun _ => accounts_pure _
  | nv12Encodeable => exact accounts_pure _
  | other code => exact accounts_pure _

theorem accounts_callEmptyBufferDone : Accounts outside inputs outputs (callEmptyBufferDone buffer) :=
  establishes_modify fun _ hvideo => hvideo

theorem accounts_queueOpaque : Accounts outside inputs outputs (queueOpaque buffer) := by
  refine establishes_look fun video => establishes_ite (fun _ => ?_) fun _ => ?_
  · exact (accounts_callEmptyBufferDone buffer).bind fun _ => accounts_pure _
  refine establishes_ite (fun _ => ?_) fun _ => ?_
  · exact accounts_change (fun _ hvideo => hvideo) fun _ => accounts_pushInputBuffer
  refine establishes_ite (fun _ => ?_) fun _ => ?_
  · exact accounts_change (fun _ hvideo => hvideo) fun _ => accounts_pure _
  · exact (accounts_callEmptyBufferDone buffer).bind fun _ => accounts_pure _

theorem accounts_emptyThisBufferOpaque : Accounts outside inputs outputs (emptyThisBufferOpaque buffer) := by
  refine establishes_look fun video => establishes_ite (fun _ => accounts_pure _) fun _ => ?_
  refine establishes_ite (fun _ => accounts_queueOpaque buffer) fun _ => ?_
  split
  · exact accounts_throw _
  · refine (accounts_openConverter _).bind fun failed => ?_
    refine establishes_ite (fun _ => ?_) fun _ => accounts_queueOpaque buffer
    exact (accounts_callEmptyBufferDone buffer).bind fun _ => accounts_pure _

def lowered (outside : Outside) (buffer : InputHeader) (video : OmxVideo) : OmxVideo :=
  if outside.passesDone buffer then { video with pendingInputBuffers := video.pendingInputBuffers - 1 }
  else video

theorem accounts_returnInput : Accounts outside inputs outputs (returnInput buffer) := by
  refine establishes_look fun video => establishes_ite (fun _ => ?_) fun _ => ?_
  · refine establishes_ite (fun _ => ?_) fun _ => establishes_ite (fun _ => ?_) fun _ => ?_
    · exact accounts_change (fun _ hvideo => hvideo) fun _ => accounts_pushInputBuffer
    · exact accounts_change (fun _ hvideo => hvideo) fun _ => accounts_pure _
    · exact (accounts_callEmptyBufferDone buffer).bind fun _ => accounts_pure _
  · exact (accounts_callEmptyBufferDone buffer).bind fun _ => accounts_pure _

theorem establishes_emptyBufferDone :
    Establishes (fun video => video.passesDone = outside.passesDone ∧
        Accounted outside inputs outputs (lowered outside buffer video))
      (emptyBufferDone buffer) fun _ => Accounted outside inputs outputs := by
  refine establishes_get fun _ => ?_
  rintro video ⟨⟨hdone, hlowered⟩, rfl⟩
  rw [hdone]
  by_cases hpasses : outside.passesDone buffer = true
  · rw [lowered, if_pos hpasses] at hlowered
    rw [if_neg (by simp [hpasses])]
    exact accounts_returnInput buffer _ hlowered
  · rw [lowered, if_neg hpasses] at hlowered
    rw [if_pos (by simp [hpasses])]
    exact hlowered

theorem establishes_processEbd :
    Establishes (Accounted outside (buffer ::ₘ inputs) outputs) (processEbd buffer)
      fun _ => Accounted outside inputs outputs := by
  refine establishes_change _ (fun video hvideo => ?_) fun _ => establishes_emptyBufferDone buffer
  obtain ⟨hdevice, hout, hetb, hinput, houtput⟩ := hvideo
  have hdone : video.passesDone = outside.passesDone := congrArg Outside.passesDone hout
  rw [Multiset.cons_add] at hinput
  by_cases hpasses : outside.passesDone buffer = true
  · rw [hdone, if_pos hpasses, lowered, if_pos hpasses]
    exact ⟨hdone, hdevice, hout, hetb, hinput.lower, houtput⟩
  · rw [hdone, if_neg hpasses, lowered, if_neg hpasses]
    exact ⟨hdone, hdevice, hout, hetb, hinput.mono (Multiset.le_cons_self _ _), houtput⟩

/-! ### Flushes -/

theorem accounts_flushEtb {entry : EtbEntry}
    (hentry : ∀ buffer, entry = .etb buffer → outside.passesDone buffer = true) :
    Establishes (Accounted outside (↑entry.ebdHeader.toList + inputs) outputs) (flushEtb entry)
      fun _ => Accounted outside inputs outputs := by
  cases entry with
  | etb buffer =>
    rw [EtbEntry.ebdHeader, Option.toList_none, Multiset.coe_nil, zero_add]
    refine establishes_change _ (fun video hvideo => ?_) fun _ =>
      (establishes_emptyBufferDone buffer).bind fun _ => accounts_pure _
    obtain ⟨hdevice, hout, hetb, hinput, houtput⟩ := hvideo
    refine ⟨congrArg Outside.passesDone hout, ?_⟩
    rw [lowered, if_pos (hentry buffer rfl)]
    exact ⟨hdevice, hout, hetb, hinput.raise_lower, houtput⟩
  | etbOpq buffer =>
    rw [EtbEntry.ebdHeader, Option.toList_none, Multiset.coe_nil, zero_add]
    exact accounts_callEmptyBufferDone buffer
  | ebd buffer =>
    rw [EtbEntry.ebdHeader, Option.toList_some, Multiset.coe_singleton, Multiset.singleton_add]
    exact (establishes_processEbd buffer).bind fun _ => accounts_pure _

theorem coe_filterMap_cons {α β : Type} (f : α → Option β) (value : α) (values : List α) :
    (↑((value :: values).filterMap f) : Multiset β) = ↑(f value).toList + ↑(values.filterMap f) := by
  cases hf : f value with
  | none => simp [hf]
  | some result => simp [hf, ← Multiset.cons_coe]

theorem establishes_drainEtb {entries : List EtbEntry}
    (hentries : ∀ buffer, .etb buffer ∈ entries → outside.passesDone buffer = true) :
    Establishes (Accounted outside (↑(entries.filterMap EtbEntry.ebdHeader) + inputs) outputs)
      (drainEtb entries) fun _ => Accounted outside inputs outputs := by
  induction entries with
  | nil =>
    rw [List.filterMap_nil, Multiset.coe_nil, zero_add]
    exact accounts_pure _
  | cons entry rest ih =>
    rw [coe_filterMap_cons, add_assoc]
    refine (accounts_flushEtb fun buffer heq => hentries buffer ?_).bind fun _ =>
      ih fun buffer hmem => hentries buffer (List.mem_cons_of_mem _ hmem)
    rw [heq]
    exact List.mem_cons_self

theorem accounts_executeInputFlush : Accounts outside inputs outputs executeInputFlush := by
  have htake : Establishes (Accounted outside inputs outputs) takeEtb fun entries next =>
      (∀ buffer, .etb buffer ∈ entries → outside.passesDone buffer = true) ∧
        Accounted outside (↑(entries.filterMap EtbEntry.ebdHeader) + inputs) outputs next := by
    rintro video ⟨hdevice, hout, hetb, hinput, houtput⟩
    refine ⟨hetb, hdevice, hout, nofun, hinput.mono (le_of_eq ?_), houtput⟩
    simp only [expectedInput, List.filterMap_nil, Multiset.coe_nil]
    abel
  refine accounts_change (fun _ hvideo => hvideo) fun _ => htake.bind fun entries => ?_
  refine establishes_of fun hentries => (establishes_drainEtb hentries).bind fun _ => ?_
  refine accounts_change (fun video hvideo => ?_) fun _ => establishes_modify fun _ hvideo => hvideo
  split <;> exact hvideo

def Outside.Fills (outside : Outside) : Prop := ∀ buffer ∈ outside.mFtbQ, buffer ≤ outside.outBufferCountActual

theorem accounts_drainFtb {buffers : List Nat} (hbuffers : ∀ buffer ∈ buffers, buffer ≤ outside.outBufferCountActual) :
    Accounts outside inputs outputs (drainFtb buffers) := by
  induction buffers with
  | nil => exact accounts_pure _
  | cons buffer rest ih =>
    rintro video ⟨hdevice, hout, hetb, hinput, houtput⟩
    have hcount : ¬ video.outBufferCountActual < buffer := by
      rw [show video.outBufferCountActual = outside.outBufferCountActual from
        congrArg Outside.outBufferCountActual hout]
      exact Nat.not_lt.mpr (hbuffers buffer List.mem_cons_self)
    have hrest := ih fun other hmem => hbuffers other (List.mem_cons_of_mem _ hmem)
    simp only [drainFtb, fillBufferDone, callFillBufferDone, ends_bind, ends_modify, ends_get]
    rw [if_neg hcount]
    exact hrest _ ⟨hdevice, hout, hetb, hinput, houtput.raise_lower⟩

theorem establishes_executeOutputFlush (hfills : outside.Fills) :
    Establishes (Accounted outside inputs outputs) executeOutputFlush
      fun _ => Accounted { outside with mFtbQ := [] } inputs outputs := by
  have htake : Establishes (Accounted outside inputs outputs) takeFtb fun buffers next =>
      buffers = outside.mFtbQ ∧ Accounted { outside with mFtbQ := [] } inputs outputs next := by
    rintro video ⟨hdevice, hout, hetb, hinput, houtput⟩
    refine ⟨congrArg Outside.mFtbQ hout, hdevice, ?_, hetb, hinput, houtput⟩
    rw [← hout]
    rfl
  refine establishes_change (Accounted outside inputs outputs) (fun _ hvideo => hvideo) fun _ =>
    htake.bind fun buffers => establishes_of fun hbuffers => ?_
  have hdrain : Accounts { outside with mFtbQ := [] } inputs outputs (drainFtb buffers) :=
    accounts_drainFtb (hbuffers ▸ hfills)
  exact hdrain.bind fun _ => establishes_modify fun _ hvideo => hvideo

def Settled (inputs : Multiset InputHeader) (outputs : Multiset Nat) (video : OmxVideo) : Prop :=
  Accounted (outsideOf video) inputs outputs video

theorem Accounted.settled (hvideo : Accounted outside inputs outputs video) : Settled inputs outputs video := by
  have hout : outsideOf video = outside := hvideo.2.1
  rwa [Settled, hout]

/-! ### The output port -/

theorem settled_fillThisBuffer (buffer : Nat) (header : BufferHeader) :
    Establishes (Settled inputs outputs) (fillThisBuffer buffer header) fun _ => Settled inputs outputs := by
  refine establishes_look fun video => ?_
  iterate 5 refine establishes_ite (fun _ => establishes_pure fun _ hvideo => hvideo) fun _ => ?_
  have hpost : Establishes (Settled inputs outputs) (postFtb buffer) fun _ => Settled inputs outputs := by
    refine establishes_get fun _ => establishes_ite (fun _ => establishes_throw _) fun _ => ?_
    rintro now ⟨⟨hdevice, _, hetb, hinput, houtput⟩, rfl⟩
    exact ⟨hdevice, rfl, hetb, hinput, houtput⟩
  exact hpost.bind fun _ => establishes_pure fun _ hvideo => hvideo

theorem accounts_fillThisBufferProxy (buffer : Nat) :
    Accounts outside inputs outputs (fillThisBufferProxy buffer) := by
  refine establishes_get_of (fun video => video.device.fillBuf = true) (fun _ hvideo => hvideo.1.2.2.2)
    fun video hfill => ?_
  refine establishes_ite (fun _ => accounts_pure _) fun _ => ?_
  have hraise : ∀ video, Accounted outside inputs outputs video → Accounted outside inputs (buffer ::ₘ outputs)
      { video with
        pendingOutputBuffers := video.pendingOutputBuffers + 1
        countedOutput := buffer :: video.countedOutput } := by
    rintro video ⟨hdevice, hout, hetb, hinput, houtput⟩
    refine ⟨hdevice, hout, hetb, hinput, ?_⟩
    rw [Multiset.cons_add]
    exact houtput.raise buffer
  have hgive : ∀ video, Accounted outside inputs (buffer ::ₘ outputs) video → Accounted outside inputs outputs
      { video with driverOutput := video.driverOutput ++ [buffer] } := by
    rintro video ⟨hdevice, hout, hetb, hinput, houtput⟩
    refine ⟨hdevice, hout, hetb, hinput, houtput.mono (le_of_eq ?_)⟩
    simp only [expectedOutput, ← Multiset.coe_add, Multiset.coe_singleton, ← Multiset.singleton_add]
    abel
  refine establishes_change _ hraise fun _ => establishes_ite (fun _ => ?_) fun _ => ?_
  · exact (establishes_postFbd buffer).bind fun _ => accounts_pure _
  · rw [if_pos hfill]
    exact establishes_change _ hgive fun _ => accounts_pure _

theorem establishes_processFbd (buffer : Nat) :
    Establishes (Accounted outside inputs (buffer ::ₘ outputs)) (processFbd buffer)
      fun _ => Accounted outside inputs outputs := by
  rintro video ⟨hdevice, hout, hetb, hinput, houtput⟩
  rw [Multiset.cons_add] at houtput
  simp only [processFbd, fillBufferDone, callFillBufferDone, ends_bind, ends_modify, ends_get]
  by_cases hindex : video.outBufferCountActual < buffer
  · rw [if_pos hindex, if_pos hindex]
    exact ⟨hdevice, hout, hetb, hinput, houtput.mono (Multiset.le_cons_self _ _)⟩
  · rw [if_neg hindex, if_neg hindex]
    exact ⟨hdevice, hout, hetb, hinput, houtput.lower⟩

/-! ### The message thread -/

theorem accounts_report (ret : ErrorType) : Accounts outside inputs outputs (report ret) :=
  establishes_modify fun _ hvideo => hvideo

theorem accounts_flushInput : Accounts outside inputs outputs flushInput :=
  accounts_change (fun _ hvideo => hvideo) fun _ => accounts_executeInputFlush

theorem settled_flushOutput (hfills : outside.Fills) :
    Establishes (Accounted outside inputs outputs) flushOutput fun _ => Settled inputs outputs := by
  refine establishes_change (Accounted outside inputs outputs) (fun _ hvideo => hvideo) fun _ => ?_
  exact (establishes_executeOutputFlush hfills).imp (fun _ hvideo => hvideo) fun _ _ hnext => hnext.settled

theorem settled_executeOmxFlush {flushType : FlushType} (hfills : flushType ≠ .input → outside.Fills) :
    Establishes (Accounted outside inputs outputs) (executeOmxFlush flushType) fun _ => Settled inputs outputs := by
  cases flushType with
  | input => exact accounts_flushInput.imp (fun _ hvideo => hvideo) fun _ _ hnext => hnext.settled
  | output => exact settled_flushOutput (hfills nofun)
  | all => exact Establishes.bind accounts_flushInput fun _ => settled_flushOutput (hfills nofun)

theorem establishes_completeBufferDones (buffers : List InputHeader) :
    Establishes (Accounted outside (↑buffers + inputs) outputs) (completeBufferDones buffers)
      fun _ => Accounted outside inputs outputs := by
  induction buffers with
  | nil =>
    rw [Multiset.coe_nil, zero_add]
    exact accounts_pure _
  | cons buffer rest ih =>
    rw [← Multiset.cons_coe, Multiset.cons_add]
    refine (establishes_processEbd buffer).bind fun ret => ?_
    exact Establishes.bind (accounts_report ret) fun _ => ih

theorem accounts_completePendingBufferDoneCbs :
    Accounts outside inputs outputs completePendingBufferDoneCbs := by
  have htake : Establishes (Accounted outside inputs outputs) takeEbds fun buffers next =>
      Accounted outside (↑buffers + inputs) outputs next := by
    rintro video ⟨hdevice, hout, hetb, hinput, houtput⟩
    refine ⟨hdevice, hout, fun buffer hmem => hetb buffer (List.mem_of_mem_filter hmem),
      hinput.mono (le_of_eq ?_), houtput⟩
    have hnone : (video.mEtbQ.filter fun entry => entry.ebdHeader.isNone).filterMap EtbEntry.ebdHeader = [] := by
      simp [List.filterMap_eq_nil_iff]
    simp only [expectedInput, hnone, Multiset.coe_nil]
    abel
  exact htake.bind fun buffers => establishes_completeBufferDones buffers

def CmdEntry.flushesOutput : CmdEntry → Bool
  | event (.command _ _ _ (some flushType)) => flushType != .input
  | event _ | fbd _ => false

theorem settled_processCmd {entry : CmdEntry} (hfills : entry.flushesOutput = true → outside.Fills) :
    Establishes (Accounted outside inputs (↑entry.fbdBuffer.toList + outputs)) (processCmd entry)
      fun _ => Settled inputs outputs := by
  have hsettle : ∀ {code : VencM Unit}, Accounts outside inputs outputs code →
      Establishes (Accounted outside inputs outputs) code fun _ => Settled inputs outputs :=
    fun hcode => hcode.imp (fun _ hvideo => hvideo) fun _ _ hnext => hnext.settled
  cases entry with
  | fbd buffer =>
    rw [CmdEntry.fbdBuffer, Option.toList_some, Multiset.coe_singleton, Multiset.singleton_add]
    exact (establishes_processFbd buffer).bind fun ret => hsettle (accounts_report ret)
  | event event =>
    rw [CmdEntry.fbdBuffer, Option.toList_none, Multiset.coe_nil, zero_add]
    cases event with
    | command state inputEnabled outputEnabled flush =>
      refine establishes_change (Accounted outside inputs outputs) (fun _ hvideo => hvideo) fun _ => ?_
      cases flush with
      | none => exact hsettle (accounts_pure _)
      | some flushType =>
        exact settled_executeOmxFlush fun hne => hfills (by simpa [CmdEntry.flushesOutput] using hne)
    | eventInputFlush => exact hsettle (establishes_modify fun _ hvideo => hvideo)
    | eventOutputFlush => exact hsettle (establishes_modify fun _ hvideo => hvideo)
    | buffersDone => exact hsettle accounts_completePendingBufferDoneCbs

theorem establishes_processEtb (entry : EtbEntry) :
    Establishes (Accounted outside (↑entry.ebdHeader.toList + inputs) outputs) (processEtb entry)
      fun _ => Accounted outside inputs outputs := by
  cases entry with
  | etb buffer =>
    rw [EtbEntry.ebdHeader, Option.toList_none, Multiset.coe_nil, zero_add]
    refine establishes_get_of (fun video => video.device.etb.emptyBuf = true) (fun _ hvideo => hvideo.1.1)
      fun video hempty => ?_
    exact Establishes.bind (accounts_emptyThisBufferProxy buffer hempty) accounts_report
  | etbOpq buffer =>
    rw [EtbEntry.ebdHeader, Option.toList_none, Multiset.coe_nil, zero_add]
    exact Establishes.bind (accounts_emptyThisBufferOpaque buffer) accounts_report
  | ebd buffer =>
    rw [EtbEntry.ebdHeader, Option.toList_some, Multiset.coe_singleton, Multiset.singleton_add]
    exact (establishes_processEbd buffer).bind accounts_report

theorem settled_processEventCb (hvideo : Settled inputs outputs video)
    (hfills : ∀ entry ∈ video.mCmdQ.head?, entry.flushesOutput = true → (outsideOf video).Fills) :
    Ends processEventCb (fun _ => Settled inputs outputs) (fun _ _ => True) video := by
  obtain ⟨hdevice, _, hetb, hinput, houtput⟩ := hvideo
  unfold processEventCb
  rw [ends_bind, ends_get]
  split
  case h_1 entry rest hcmd =>
    refine settled_processCmd (hfills entry (by simp [hcmd])) _ ⟨hdevice, rfl, hetb, hinput, ?_⟩
    refine houtput.mono (le_of_eq ?_)
    simp only [expectedOutput, hcmd, coe_filterMap_cons]
    abel
  case h_2 _ buffer rest _ _ =>
    have hproxy : Accounts { outsideOf video with mFtbQ := rest } inputs outputs
        (fillThisBufferProxy buffer >>= report) :=
      (accounts_fillThisBufferProxy buffer).bind accounts_report
    exact (hproxy { video with mFtbQ := rest } ⟨hdevice, rfl, hetb, hinput, houtput⟩).imp
      (fun _ _ hnext => hnext.settled) fun _ _ _ => trivial
  case h_3 entry rest _ _ hqueue =>
    have hentry : Accounted (outsideOf video) (↑entry.ebdHeader.toList + inputs) outputs
        { video with mEtbQ := rest } := by
      refine ⟨hdevice, rfl, fun buffer hmem => hetb buffer ?_, hinput.mono (le_of_eq ?_), houtput⟩
      · rw [hqueue]
        exact List.mem_cons_of_mem _ hmem
      · simp only [expectedInput, hqueue, coe_filterMap_cons]
        abel
    exact (establishes_processEtb entry _ hentry).imp (fun _ _ hnext => hnext.settled) fun _ _ _ => trivial
  case h_4 => exact ⟨hdevice, rfl, hetb, hinput, houtput⟩

end

/-! ### Runs -/

def PendingAccounted (video : OmxVideo) : Prop :=
  video.pendingInputBuffers = video.countedInput.length ∧
    video.pendingOutputBuffers = video.countedOutput.length ∧
    0 ≤ video.pendingInputBuffers ∧ 0 ≤ video.pendingOutputBuffers

/-- In a step of the message thread the driver takes what it is given, and a flush of the output port finds
buffers that pass the index check of `fill_buffer_done`. -/
def DriverAccepts (video : OmxVideo) : VencAction → Prop
  | .process device => device.Accepts ∧
      ∀ entry ∈ video.mCmdQ.head?, entry.flushesOutput = true →
        ∀ buffer ∈ video.mFtbQ, buffer ≤ video.outBufferCountActual
  | .etb .. | .ftb .. | .post _ | .inputDone _ | .outputDone _ => True

instance : ∀ video action, Decidable (DriverAccepts video action)
  | _, .etb .. | _, .ftb .. | _, .post _ | _, .inputDone _ | _, .outputDone _ =>
    inferInstanceAs (Decidable True)
  | video, .process device =>
    inferInstanceAs (Decidable (device.Accepts ∧ ∀ entry ∈ video.mCmdQ.head?, entry.flushesOutput = true →
      ∀ buffer ∈ video.mFtbQ, buffer ≤ video.outBufferCountActual))

theorem settled_vencStep {video next : OmxVideo} {action : VencAction} (haccepts : DriverAccepts video action)
    (hvideo : Settled 0 0 video) (hstep : vencStep video action = some next) : Settled 0 0 next := by
  refine of_vencStep hstep fun hpossible => ?_
  obtain ⟨hdevice, _, hetb, hinput, houtput⟩ := hvideo
  cases action with
  | etb buffer header =>
    have hcode : Accounts (outsideOf video) 0 0 (emptyThisBuffer buffer header >>= fun _ => pure PUnit.unit) :=
      (accounts_emptyThisBuffer buffer header).bind fun _ => accounts_pure _
    exact (hcode video ⟨hdevice, rfl, hetb, hinput, houtput⟩).imp (fun _ _ hnext => hnext.settled)
      fun _ _ _ => trivial
  | ftb buffer header =>
    have hcode : Establishes (Settled 0 0) (fillThisBuffer buffer header >>= fun _ => pure PUnit.unit)
        fun _ => Settled 0 0 :=
      (settled_fillThisBuffer buffer header).bind fun _ => establishes_pure fun _ hvideo => hvideo
    exact hcode video ⟨hdevice, rfl, hetb, hinput, houtput⟩
  | post event =>
    have hpost := @establishes_postCmd (outsideOf video) 0 0 (.event event)
    rw [CmdEntry.fbdBuffer, Option.toList_none, Multiset.coe_nil, zero_add] at hpost
    exact (hpost video ⟨hdevice, rfl, hetb, hinput, houtput⟩).imp (fun _ _ hnext => hnext.settled)
      fun _ _ _ => trivial
  | process device =>
    exact @settled_processEventCb 0 0 { video with device := device }
      ⟨haccepts.1, rfl, hetb, hinput, houtput⟩ haccepts.2
  | inputDone buffer =>
    have hmem : buffer ∈ video.driverInput := by simpa [VencAction.possible] using hpossible
    have htaken : Accounted (outsideOf video) (buffer ::ₘ 0) 0
        { video with driverInput := video.driverInput.erase buffer } := by
      refine ⟨hdevice, rfl, hetb, hinput.mono (le_of_eq ?_), houtput⟩
      simp only [expectedInput, ← Multiset.coe_erase, Multiset.cons_add, zero_add]
      rw [← Multiset.cons_add, Multiset.cons_erase (by simpa using hmem)]
    exact (establishes_postEbd buffer _ htaken).imp (fun _ _ hnext => hnext.settled) fun _ _ _ => trivial
  | outputDone buffer =>
    have hmem : buffer ∈ video.driverOutput := by simpa [VencAction.possible] using hpossible
    have htaken : Accounted (outsideOf video) 0 (buffer ::ₘ 0)
        { video with driverOutput := video.driverOutput.erase buffer } := by
      refine ⟨hdevice, rfl, hetb, hinput, houtput.mono (le_of_eq ?_)⟩
      simp only [expectedOutput, ← Multiset.coe_erase, Multiset.cons_add, zero_add]
      rw [← Multiset.cons_add, Multiset.cons_erase (by simpa using hmem)]
    exact (establishes_postFbd buffer _ htaken).imp (fun _ _ hnext => hnext.settled) fun _ _ _ => trivial

theorem OmxVideo.Fresh.settled {video : OmxVideo} (hfresh : video.Fresh) : Settled 0 0 video := by
  refine ⟨?_, rfl, ?_, ?_, ?_⟩
  · rw [hfresh.device]
    exact ⟨rfl, nofun, nofun, rfl⟩
  · rw [hfresh.mEtbQ]
    nofun
  · rw [expectedInput, hfresh.pendingInputBuffers, hfresh.countedInput, hfresh.driverInput, hfresh.mEtbQ]
    exact Balanced.zero
  · rw [expectedOutput, hfresh.pendingOutputBuffers, hfresh.countedOutput, hfresh.driverOutput, hfresh.mCmdQ]
    exact Balanced.zero

/-- Where the driver takes what it is given, the pending counters are right in every state of a run. -/
theorem pendingBuffers_accounted {first last : OmxVideo} {actions : List VencAction} (hfresh : first.Fresh)
    (haccepts : RunMeets vencStep DriverAccepts first actions)
    (hrun : runSteps vencStep first actions = some last) : PendingAccounted last := by
  have hlast : Settled 0 0 last := runSteps_state_of_meets (Settled 0 0)
    (fun _ _ _ haccepts hvideo hstep => settled_vencStep haccepts hvideo hstep) haccepts hfresh.settled hrun
  obtain ⟨_, _, _, hinput, houtput⟩ := hlast
  exact ⟨hinput.1, houtput.1, hinput.nonneg, houtput.nonneg⟩

def emptyOnce (emptyBuf : Bool) : List VencAction :=
  [.etb (.inpMem 0) ⟨true, omxSpecVersion, inputPortIndex, 0, 0, 0, 0, none⟩,
    .process { DeviceScript.succeeding with etb := ⟨true, emptyBuf⟩ },
    .process .succeeding]

theorem emptyOnce_accounted :
    PendingAccounted ((runSteps vencStep (OmxVideo.start 1 0 1 false) (emptyOnce true)).get (by decide +kernel)) :=
  pendingBuffers_accounted (OmxVideo.start_fresh 1 0 1 false) (by decide +kernel) (Option.some_get _).symm

/-- Behind a `dev_empty_buf` that failed, the counter is lowered twice. -/
theorem failedEmpty_not_accounted : ¬ ∀ (first last : OmxVideo) (actions : List VencAction), first.Fresh →
    runSteps vencStep first actions = some last → PendingAccounted last := by
  intro haccounted
  have hpending : (runSteps vencStep (OmxVideo.start 1 0 1 false) (emptyOnce false)).map
      OmxVideo.pendingInputBuffers = some (-1) := by decide +kernel
  obtain ⟨last, hrun, hlast⟩ := Option.map_eq_some_iff.mp hpending
  have hnonneg := (haccounted _ last _ (OmxVideo.start_fresh 1 0 1 false) hrun).2.2.1
  omega

end Nozomi.Venc
