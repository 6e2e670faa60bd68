import Mathlib.Algebra.Order.Group.Multiset
import Mathlib.Tactic.Abel
import Nozomi.Base.Run
import Nozomi.Venc.Buffers.Code

/-!
# Where the headers of the opaque path are

Each header that the client submitted and did not get back, and each internal header, is in one place: nothing
is lost and nothing is in two places at once. This holds as long as every conversion succeeds, since the error
exits of `convert_queue_buffer` forget the source frame and keep the destination frame beside its done event.
-/

namespace Nozomi.Venc

open OmxVideo

/-! ### Headers -/

def IsClient (count : Nat) (buffer : InputHeader) : Prop := ∃ index < count, buffer = .metaBuffer index

def IsInternal (count : Nat) (buffer : InputHeader) : Prop := ∃ index < count, buffer = .inpMem index

def internals (count : Nat) : Multiset InputHeader := ↑((List.range count).map InputHeader.inpMem)
def clients (count : Nat) : Multiset InputHeader := ↑((List.range count).map InputHeader.metaBuffer)

variable {count : Nat} {video : OmxVideo}

theorem mem_internals {buffer : InputHeader} : buffer ∈ internals count ↔ IsInternal count buffer := by
  simp [internals, IsInternal, eq_comm]

theorem mem_clients {buffer : InputHeader} : buffer ∈ clients count ↔ IsClient count buffer := by
  simp [clients, IsClient, eq_comm]

theorem nodup_internals (count : Nat) : (internals count).Nodup :=
  List.nodup_range.map fun _ _ heq => InputHeader.inpMem.inj heq

theorem nodup_clients (count : Nat) : (clients count).Nodup :=
  List.nodup_range.map fun _ _ heq => InputHeader.metaBuffer.inj heq

/-! ### The invariant -/

def held (video : OmxVideo) : Multiset InputHeader :=
  ↑(video.mEtbQ.map EtbEntry.header) + ↑video.psourceFrame.toList + ↑video.mOpqMetaQ + ↑video.driverInput +
    ↑video.pdestFrame.toList + ↑video.mOpqPmemQ

/-- The opaque path is in use, with as many buffers as there is room for. -/
def OpaqueMode (count : Nat) (video : OmxVideo) : Prop :=
  video.nBufferCountActual = count ∧ count ≤ maxNumInputBuffers ∧ 0 < video.nBufferSize ∧
    video.mUseProxyColorFormat = true ∧ video.mInputMsgId = .generateEtbOpq

def WellKept (count : Nat) (video : OmxVideo) : Prop :=
  (∀ buffer ∈ video.psourceFrame, IsClient count buffer) ∧
    (∀ buffer ∈ video.mOpqMetaQ, IsClient count buffer) ∧
    (∀ buffer ∈ video.pdestFrame, IsInternal count buffer) ∧
    (∀ buffer ∈ video.mOpqPmemQ, IsInternal count buffer) ∧
    (∀ buffer, .etb buffer ∉ video.mEtbQ) ∧
    (∀ buffer, .etbOpq buffer ∈ video.mEtbQ → IsClient count buffer) ∧
    ∀ buffer ∈ video.emptied, IsClient count buffer

def ConversionOutcome.Succeeds (nBufferSize : Nat) (outcome : ConversionOutcome) : Prop :=
  outcome.mmap ∧ outcome.convert ∧ (∃ size ∈ outcome.bufferSize, sizeFits nBufferSize size) ∧ outcome.useBuf ∧
    outcome.empty.emptyBuf

/-- Beside some headers that are missing for the moment and some that are named once too often, each header
that came in is held or was returned. The client submits what it has. -/
def Placed (count : Nat) (frames : Option InputHeader × Option InputHeader)
    (missing extra : Multiset InputHeader) (video : OmxVideo) : Prop :=
  OpaqueMode count video ∧ (video.psourceFrame, video.pdestFrame) = frames ∧
    (∀ outcome ∈ video.device.conversions, outcome.Succeeds video.nBufferSize) ∧ WellKept count video ∧
    missing + held video + ↑video.emptied = ↑video.submitted + internals count + extra ∧
    (↑video.submitted : Multiset InputHeader) ≤ ↑video.emptied + clients count

section

variable {α : Type} {count : Nat} {frames : Option InputHeader × Option InputHeader}
  {missing extra : Multiset InputHeader} {video : OmxVideo}

theorem Placed.held_le (hplaced : Placed count frames missing extra video) :
    held video ≤ clients count + internals count + extra := by
  obtain ⟨_, _, _, _, hconserved, howned⟩ := hplaced
  have hle : held video + ↑video.emptied ≤ clients count + internals count + extra + ↑video.emptied :=
    calc held video + ↑video.emptied
        ≤ missing + held video + ↑video.emptied := by
          rw [add_assoc]
          exact Multiset.le_add_left _ _
      _ = ↑video.submitted + internals count + extra := hconserved
      _ ≤ ↑video.emptied + clients count + internals count + extra := by gcongr
      _ = clients count + internals count + extra + ↑video.emptied := by abel
  exact le_of_add_le_add_right hle

theorem Placed.card_held (hplaced : Placed count frames missing extra video) :
    (held video).card ≤ 64 + extra.card := by
  have hcard := Multiset.card_le_card hplaced.held_le
  have hcount : count ≤ 32 := hplaced.1.2.1
  simp only [Multiset.card_add, clients, internals, Multiset.coe_card, List.length_map,
    List.length_range] at hcard
  omega

variable {buffer source : InputHeader}

theorem Placed.known (hplaced : Placed count frames missing 0 video) (hmem : buffer ∈ missing + held video) :
    IsClient count buffer ∨ IsInternal count buffer := by
  obtain ⟨_, _, _, hkept, hconserved, howned⟩ := hplaced
  have hall : buffer ∈ (↑video.submitted + internals count + 0 : Multiset InputHeader) :=
    hconserved ▸ Multiset.mem_add.mpr (.inl hmem)
  rw [add_zero, Multiset.mem_add, mem_internals] at hall
  apply hall.imp_left
  intro hsubmitted
  rcases Multiset.mem_add.mp (Multiset.mem_of_le howned hsubmitted) with hemptied | hclient
  · exact hkept.2.2.2.2.2.2 buffer hemptied
  · exact mem_clients.mp hclient

theorem placed_cons_cons :
    Placed count frames (buffer ::ₘ missing) (buffer ::ₘ extra) video ↔
      Placed count frames missing extra video := by
  unfold Placed
  rw [show buffer ::ₘ missing + held video + ↑video.emptied =
      buffer ::ₘ (missing + held video + ↑video.emptied) by simp,
    show ↑video.submitted + internals count + (buffer ::ₘ extra) =
      buffer ::ₘ (↑video.submitted + internals count + extra) by simp, Multiset.cons_inj_right]

theorem Placed.name {next : OmxVideo} (hplaced : Placed count frames missing extra video)
    (hheld : held next + ↑next.emptied = buffer ::ₘ (held video + ↑video.emptied))
    (hmode : OpaqueMode count next ∧ (next.psourceFrame, next.pdestFrame) = frames ∧
      (∀ outcome ∈ next.device.conversions, outcome.Succeeds next.nBufferSize) ∧ WellKept count next)
    (hsubmitted : next.submitted = video.submitted)
    (hemptied : (↑video.emptied : Multiset InputHeader) ≤ ↑next.emptied) :
    Placed count frames missing (buffer ::ₘ extra) next := by
  obtain ⟨_, _, _, _, hconserved, howned⟩ := hplaced
  obtain ⟨hnext, hframes, hdevice, hkept⟩ := hmode
  refine ⟨hnext, hframes, hdevice, hkept, ?_, ?_⟩
  · rw [add_assoc, hheld, Multiset.add_cons, ← add_assoc, hconserved, hsubmitted, Multiset.add_cons]
  · rw [hsubmitted]
    exact howned.trans (by gcongr)

/-! ### Posting and giving -/

theorem Placed.room (hplaced : Placed count frames missing extra video) (hextra : extra.card ≤ 2) :
    video.mEtbQ.length < cmdqSize ∧ video.mOpqMetaQ.length < cmdqSize ∧ video.mOpqPmemQ.length < cmdqSize := by
  have hcard := hplaced.card_held
  simp only [held, Multiset.card_add, Multiset.coe_card, List.length_map] at hcard
  rw [cmdqSize]
  omega

theorem insertEntry_of_room {queue : List α} {entry : α} (hroom : queue.length < cmdqSize) :
    insertEntry queue entry = queue ++ [entry] := if_pos hroom

theorem Placed.post {entry : EtbEntry} (hplaced : Placed count frames missing extra video)
    (hextra : extra.card ≤ 2) (hetb : ∀ buffer, entry ≠ .etb buffer)
    (hclient : ∀ buffer, entry = .etbOpq buffer → IsClient count buffer) :
    Placed count frames missing (entry.header ::ₘ extra)
      { video with mEtbQ := insertEntry video.mEtbQ entry } := by
  rw [insertEntry_of_room (hplaced.room hextra).1]
  refine hplaced.name ?_ ?_ rfl (le_refl _)
  · simp only [held, List.map_append, List.map_cons, List.map_nil, ← Multiset.coe_add, Multiset.coe_singleton,
      ← Multiset.singleton_add]
    abel
  · obtain ⟨hmode, hframes, hdevice, ⟨hsource, hmeta, hdest, hpmem, hqueue, hopaque, hemptied⟩, _⟩ := hplaced
    refine ⟨hmode, hframes, hdevice, hsource, hmeta, hdest, hpmem, ?_, ?_, hemptied⟩
    · intro buffer hmem
      rcases List.mem_append.mp hmem with hmem | hmem
      · exact hqueue buffer hmem
      · exact hetb buffer (List.mem_singleton.mp hmem).symm
    · intro buffer hmem
      rcases List.mem_append.mp hmem with hmem | hmem
      · exact hopaque buffer hmem
      · exact hclient buffer (List.mem_singleton.mp hmem).symm

theorem placed_postEbd (buffer : InputHeader) (hextra : extra.card ≤ 2) :
    Establishes (Placed count frames missing extra) (postEtb (.ebd buffer))
      fun _ => Placed count frames missing (buffer ::ₘ extra) := by
  refine establishes_get fun _ => establishes_ite (fun _ => establishes_throw _) fun _ => ?_
  rintro video ⟨hplaced, rfl⟩
  exact hplaced.post hextra nofun nofun

theorem Placed.empty (hplaced : Placed count frames missing extra video) (hclient : IsClient count buffer) :
    Placed count frames missing (buffer ::ₘ extra) { video with emptied := video.emptied ++ [buffer] } := by
  refine hplaced.name ?_ ?_ rfl ?_
  · simp only [held, ← Multiset.coe_add, Multiset.coe_singleton, ← Multiset.singleton_add]
    abel
  · obtain ⟨hmode, hframes, hdevice, ⟨hsource, hmeta, hdest, hpmem, hqueue, hopaque, hemptied⟩, _⟩ := hplaced
    refine ⟨hmode, hframes, hdevice, hsource, hmeta, hdest, hpmem, hqueue, hopaque, ?_⟩
    intro other hmem
    rcases List.mem_append.mp hmem with hmem | hmem
    · exact hemptied other hmem
    · exact List.mem_singleton.mp hmem ▸ hclient
  · rw [← Multiset.coe_add]
    exact Multiset.le_add_right _ _

theorem placed_callEmptyBufferDone (hclient : IsClient count buffer) :
    Establishes (Placed count frames missing extra) (callEmptyBufferDone buffer)
      fun _ => Placed count frames missing (buffer ::ₘ extra) :=
  establishes_modify fun _ hplaced => hplaced.empty hclient

theorem placed_emptyThisBufferProxy (outcome : EmptyOutcome)
    (hknown : IsClient count buffer ∨ IsInternal count buffer) (hextra : extra.card ≤ 2) :
    Establishes (Placed count frames missing extra) (emptyThisBufferProxy buffer outcome) fun ret next =>
      (outcome.emptyBuf = true → ret = .none) ∧ Placed count frames missing (buffer ::ₘ extra) next := by
  refine establishes_get_of (fun video => video.nBufferCountActual = count)
    (fun _ hplaced => hplaced.1.1) fun video hcount => ?_
  refine establishes_ite (fun hfails => ?_) fun _ => ?_
  · exfalso
    rcases hknown with ⟨index, hindex, rfl⟩ | ⟨index, hindex, rfl⟩
    · simp [OmxVideo.passesProxy, OmxVideo.bufIndexMeta, notBelow, hcount, Nat.not_le.mpr hindex] at hfails
    · simp [OmxVideo.passesProxy, OmxVideo.bufIndex, notBelow, hcount, Nat.not_le.mpr hindex] at hfails
  refine establishes_change (Placed count frames missing extra) (fun _ hplaced => hplaced) fun _ => ?_
  refine establishes_ite (fun _ => ?_) fun _ => ?_
  · exact (placed_postEbd buffer hextra).bind fun _ =>
      establishes_pure fun _ hplaced => ⟨fun _ => rfl, hplaced⟩
  have huse : Establishes (Placed count frames missing extra) (useMedia buffer outcome.useBuf) fun used next =>
      used = true ∧ Placed count frames missing extra next := by
    refine establishes_get_of (fun video => video.mUseProxyColorFormat = true)
      (fun _ hplaced => hplaced.1.2.2.2.1) fun video hproxy => ?_
    rw [if_neg (by simp [hproxy])]
    exact establishes_pure fun _ hplaced => ⟨rfl, hplaced⟩
  refine huse.bind fun used => establishes_of fun hused => ?_
  rw [if_neg (by simp [hused])]
  refine establishes_ite (fun _ => ?_) fun hfails => ?_
  · refine establishes_change (Placed count frames missing (buffer ::ₘ extra)) (fun video hplaced => ?_) fun _ =>
      establishes_pure fun _ hplaced => ⟨fun _ => rfl, hplaced⟩
    refine hplaced.name ?_ ⟨hplaced.1, hplaced.2.1, hplaced.2.2.1, hplaced.2.2.2.1⟩ rfl (le_refl _)
    simp only [held, ← Multiset.coe_add, Multiset.coe_singleton, ← Multiset.singleton_add]
    abel
  · refine (placed_postEbd buffer hextra).bind fun _ => ?_
    exact establishes_change (Placed count frames missing (buffer ::ₘ extra)) (fun _ hplaced => hplaced) fun _ =>
      establishes_pure fun _ hplaced => ⟨fun hempty => absurd hempty hfails, hplaced⟩

/-! ### The opaque path -/

def Tidy (count : Nat) (missing : Multiset InputHeader) (video : OmxVideo) : Prop :=
  Placed count (video.psourceFrame, video.pdestFrame) missing 0 video

theorem Placed.tidy (hplaced : Placed count frames missing 0 video) : Tidy count missing video := by
  rwa [Tidy, hplaced.2.1]

theorem tidy_popSource (htidy : Tidy count missing video) : Tidy count missing video.popSource := by
  unfold popSource
  split
  case h_1 buffer rest hsource hqueue =>
    obtain ⟨hmode, _, hdevice, ⟨_, hmeta, hdest, hpmem, hkept⟩, hconserved, howned⟩ := htidy
    rw [hqueue] at hmeta
    refine ⟨hmode, rfl, hdevice, ⟨?_, fun other hmem => hmeta other (List.mem_cons_of_mem _ hmem), hdest, hpmem,
      hkept⟩, ?_, howned⟩
    · rintro other ⟨⟩
      exact hmeta buffer List.mem_cons_self
    · rw [← hconserved]
      simp only [held, hsource, hqueue, Option.toList_some, Option.toList_none, ← Multiset.cons_coe,
        Multiset.coe_nil, ← Multiset.singleton_add]
      abel
  case h_2 => exact htidy

theorem tidy_popDest (htidy : Tidy count missing video) : Tidy count missing video.popDest := by
  unfold popDest
  split
  case h_1 buffer rest hdest hqueue =>
    obtain ⟨hmode, _, hdevice, ⟨hsource, hmeta, _, hpmem, hkept⟩, hconserved, howned⟩ := htidy
    rw [hqueue] at hpmem
    refine ⟨hmode, rfl, hdevice, ⟨hsource, hmeta, ?_, fun other hmem => hpmem other (List.mem_cons_of_mem _ hmem),
      hkept⟩, ?_, howned⟩
    · rintro other ⟨⟩
      exact hpmem buffer List.mem_cons_self
    · rw [← hconserved]
      simp only [held, hdest, hqueue, Option.toList_some, Option.toList_none, ← Multiset.cons_coe,
        Multiset.coe_nil, ← Multiset.singleton_add]
      abel
  case h_2 => exact htidy

theorem Placed.dropSource {dest : Option InputHeader}
    (hplaced : Placed count (some source, dest) missing (source ::ₘ extra) video) :
    Placed count (none, dest) missing extra { video with psourceFrame := none } := by
  obtain ⟨hmode, hframes, hdevice, ⟨_, hmeta, hdest, hpmem, hkept⟩, hconserved, howned⟩ := hplaced
  obtain ⟨hsource, hdestFrame⟩ := Prod.mk.inj hframes
  refine ⟨hmode, by rw [hdestFrame], hdevice, ⟨nofun, hmeta, hdest, hpmem, hkept⟩, ?_, howned⟩
  rw [Multiset.add_cons] at hconserved
  apply (Multiset.cons_inj_right source).mp
  rw [← hconserved]
  simp only [held, hsource, Option.toList_some, Option.toList_none, Multiset.coe_singleton, Multiset.coe_nil,
    ← Multiset.singleton_add]
  abel

theorem Placed.dropDest {source : Option InputHeader} {dest : InputHeader}
    (hplaced : Placed count (source, some dest) missing (dest ::ₘ extra) video) :
    Placed count (source, none) missing extra { video with pdestFrame := none } := by
  obtain ⟨hmode, hframes, hdevice, ⟨hsource, hmeta, _, hpmem, hkept⟩, hconserved, howned⟩ := hplaced
  obtain ⟨hsourceFrame, hdest⟩ := Prod.mk.inj hframes
  refine ⟨hmode, by rw [hsourceFrame], hdevice, ⟨hsource, hmeta, nofun, hpmem, hkept⟩, ?_, howned⟩
  rw [Multiset.add_cons] at hconserved
  apply (Multiset.cons_inj_right dest).mp
  rw [← hconserved]
  simp only [held, hdest, Option.toList_some, Option.toList_none, Multiset.coe_singleton, Multiset.coe_nil,
    ← Multiset.singleton_add]
  abel

theorem placed_queueMetaBuffer {dest : Option InputHeader} (hsource : IsClient count source) :
    Establishes (Placed count (some source, dest) missing 0) (queueMetaBuffer source)
      fun _ => Tidy count missing := by
  have hqueue : Establishes (Placed count (some source, dest) missing 0) (queueSource source)
      fun _ => Placed count (some source, dest) missing (source ::ₘ 0) := by
    have hnext : Establishes (Placed count (some source, dest) missing 0) nextQueued
        fun _ => Placed count (some source, dest) missing 0 := by
      intro video hplaced
      rw [nextQueued, ends_modifyGet]
      split <;> exact hplaced
    refine hnext.bind fun outcome => establishes_look fun video => establishes_ite (fun _ => ?_) fun _ => ?_
    · exact (placed_postEbd source (by simp)).bind fun _ => establishes_pure fun _ hplaced => hplaced
    · exact (placed_emptyThisBufferProxy outcome.empty (.inl hsource) (by simp)).imp
        (fun _ hplaced => hplaced) fun _ _ hnext => hnext.2
  refine hqueue.bind fun ret => establishes_ite (fun _ => ?_) fun _ => ?_
  · refine establishes_change (Tidy count missing) (fun video hplaced => ?_) fun _ =>
      establishes_pure fun _ htidy => htidy
    exact tidy_popSource hplaced.dropSource.tidy
  · refine establishes_change (Tidy count missing) (fun video hplaced => ?_) fun _ =>
      establishes_pure fun _ htidy => htidy
    exact hplaced.dropSource.tidy

theorem placed_nextConversion : Establishes (Placed count frames missing 0) nextConversion
    fun outcome next => (outcome.useBuf ∧ outcome.empty.emptyBuf) ∧
      outcome.Succeeds next.nBufferSize ∧ Placed count frames missing 0 next := by
  rintro video ⟨hmode, hframes, hdevice, hplaced⟩
  rw [nextConversion, ends_modifyGet]
  split
  case h_1 outcome rest hconversions =>
    rw [hconversions] at hdevice
    have hfirst := hdevice outcome List.mem_cons_self
    exact ⟨hfirst.2.2.2, hfirst, hmode, hframes, fun other hmem => hdevice other (List.mem_cons_of_mem _ hmem),
      hplaced⟩
  case h_2 =>
    have hsize : sizeFits video.nBufferSize video.nBufferSize = true := by simp [sizeFits, hmode.2.2.1]
    exact ⟨⟨rfl, rfl⟩, ⟨rfl, rfl, ⟨_, rfl, hsize⟩, rfl, rfl⟩, hmode, hframes, hdevice, hplaced⟩

theorem placed_convertFrame (source dest : InputHeader) (outcome : ConversionOutcome) :
    Establishes (fun video => outcome.Succeeds video.nBufferSize ∧ Placed count frames missing 0 video)
      (convertFrame source dest outcome) fun ret next => ret = .none ∧ Placed count frames missing 0 next := by
  have hcopy : ∀ length keepOffset, Establishes (Placed count frames missing 0)
      (copyHeader source dest length keepOffset >>= fun _ => pure ErrorType.none)
      fun ret next => ret = .none ∧ Placed count frames missing 0 next := fun length keepOffset =>
    establishes_change (Placed count frames missing 0) (fun _ hplaced => hplaced) fun _ =>
      establishes_pure fun _ hplaced => ⟨rfl, hplaced⟩
  refine establishes_get_of (fun video => outcome.Succeeds video.nBufferSize) (fun _ hboth => hboth.1)
    fun video hsucceeds => ?_
  obtain ⟨hmmap, hconvert, ⟨size, hsize, hfits⟩, -, -⟩ := hsucceeds
  refine Establishes.imp ?_ (fun _ hboth => hboth.2) fun _ _ hnext => hnext
  refine establishes_ite (fun _ => hcopy _ _) fun _ => ?_
  rw [if_neg (by simp [hmmap]), if_neg (by simp [hconvert]), Option.mem_def.mp hsize]
  dsimp only
  rw [if_pos hfits]
  exact hcopy _ _

theorem placed_convertQueueBuffer {dest : InputHeader} (hsource : IsClient count source)
    (hdest : IsInternal count dest) :
    Establishes (Placed count (some source, some dest) missing 0) (convertQueueBuffer source dest)
      fun _ => Tidy count missing := by
  have hqueue : Establishes (Placed count (some source, some dest) missing 0) (queueConverted source dest)
      fun ret next => ret = .none ∧ Placed count (some source, some dest) missing (dest ::ₘ 0) next := by
    refine placed_nextConversion.bind fun outcome => establishes_of fun ⟨huse, hempty⟩ => ?_
    refine (placed_convertFrame source dest outcome).bind fun ret => establishes_of fun hret => ?_
    rw [if_neg (by simp [hret]), if_neg (by simp [huse])]
    exact (placed_emptyThisBufferProxy outcome.empty (.inr hdest) (by simp)).imp (fun _ hplaced => hplaced)
      fun _ _ hnext => ⟨hnext.1 hempty, hnext.2⟩
  refine hqueue.bind fun ret => establishes_of fun hret => ?_
  rw [if_pos hret]
  refine (placed_callEmptyBufferDone hsource).bind fun _ => ?_
  refine establishes_change (Tidy count missing) (fun video hplaced => ?_) fun _ =>
    establishes_pure fun _ htidy => htidy
  exact tidy_popDest (tidy_popSource hplaced.dropSource.dropDest.tidy)

theorem placed_pushFrame {dest : InputHeader} (hsource : IsClient count source) (hdest : IsInternal count dest) :
    Establishes (Placed count (some source, some dest) missing 0) (pushFrame source dest)
      fun _ => Tidy count missing := by
  have hkeep : Establishes (Placed count (some source, some dest) missing 0)
      (pure ErrorType.badParameter : VencM ErrorType) fun _ => Tidy count missing :=
    establishes_pure fun _ hplaced => hplaced.tidy
  refine establishes_look fun video => establishes_ite (fun _ => hkeep) fun _ => ?_
  split
  · exact establishes_throw _
  · exact placed_queueMetaBuffer hsource
  · exact placed_convertQueueBuffer hsource hdest
  · exact hkeep

theorem tidy_pushFrames (fuel : Nat) :
    Establishes (Tidy count missing) (pushFrames fuel) fun _ => Tidy count missing := by
  induction fuel with
  | zero => exact establishes_throw _
  | succ fuel ih =>
    refine establishes_get fun now => ?_
    split
    case h_1 source dest hsourceFrame hdestFrame =>
      rintro video ⟨htidy, rfl⟩
      have hsource := htidy.2.2.2.1.1 source (by rw [hsourceFrame]; rfl)
      have hdest := htidy.2.2.2.1.2.2.1 dest (by rw [hdestFrame]; rfl)
      rw [Tidy, hsourceFrame, hdestFrame] at htidy
      refine Establishes.bind (placed_pushFrame hsource hdest) (fun ret => ?_) video htidy
      exact establishes_ite (fun _ => ih) fun _ => establishes_pure fun _ htidy => htidy
    case h_2 => exact establishes_pure fun _ htidy => htidy.1

theorem tidy_pushInputBuffer : Establishes (Tidy count missing) pushInputBuffer fun _ => Tidy count missing :=
  establishes_change (Tidy count missing) (fun _ htidy => tidy_popDest (tidy_popSource htidy)) fun _ =>
    establishes_look fun _ => tidy_pushFrames _

theorem tidy_callEmptyBufferDone (ret : α) (hclient : IsClient count buffer) :
    Establishes (Tidy count (buffer ::ₘ missing)) (callEmptyBufferDone buffer >>= fun _ => pure ret)
      fun _ => Tidy count missing := by
  refine establishes_change (Tidy count missing) (fun video htidy => ?_) fun _ =>
    establishes_pure fun _ htidy => htidy
  exact (placed_cons_cons.mp (htidy.empty hclient)).tidy

theorem tidy_setSource (htidy : Tidy count (buffer ::ₘ missing) video) (hnone : video.psourceFrame = none)
    (hclient : IsClient count buffer) : Tidy count missing { video with psourceFrame := some buffer } := by
  obtain ⟨hmode, _, hdevice, ⟨_, hmeta, hdest, hpmem, hkept⟩, hconserved, howned⟩ := htidy
  refine ⟨hmode, rfl, hdevice, ⟨?_, hmeta, hdest, hpmem, hkept⟩, ?_, howned⟩
  · rintro other ⟨⟩
    exact hclient
  · rw [← hconserved]
    simp only [held, hnone, Option.toList_some, Option.toList_none, Multiset.coe_singleton, Multiset.coe_nil,
      ← Multiset.singleton_add]
    abel

theorem tidy_setDest (htidy : Tidy count (buffer ::ₘ missing) video) (hnone : video.pdestFrame = none)
    (hinternal : IsInternal count buffer) : Tidy count missing { video with pdestFrame := some buffer } := by
  obtain ⟨hmode, _, hdevice, ⟨hsource, hmeta, _, hpmem, hkept⟩, hconserved, howned⟩ := htidy
  refine ⟨hmode, rfl, hdevice, ⟨hsource, hmeta, ?_, hpmem, hkept⟩, ?_, howned⟩
  · rintro other ⟨⟩
    exact hinternal
  · rw [← hconserved]
    simp only [held, hnone, Option.toList_some, Option.toList_none, Multiset.coe_singleton, Multiset.coe_nil,
      ← Multiset.singleton_add]
    abel

theorem tidy_queueSource (htidy : Tidy count (buffer ::ₘ missing) video) (hclient : IsClient count buffer) :
    Tidy count missing { video with mOpqMetaQ := video.mOpqMetaQ ++ [buffer] } := by
  obtain ⟨hmode, _, hdevice, ⟨hsource, hmeta, hkept⟩, hconserved, howned⟩ := htidy
  refine ⟨hmode, rfl, hdevice, ⟨hsource, ?_, hkept⟩, ?_, howned⟩
  · intro other hmem
    rcases List.mem_append.mp hmem with hmem | hmem
    · exact hmeta other hmem
    · exact List.mem_singleton.mp hmem ▸ hclient
  · rw [← hconserved]
    simp only [held, ← Multiset.coe_add, Multiset.coe_singleton, ← Multiset.singleton_add]
    abel

theorem tidy_queueDest (htidy : Tidy count (buffer ::ₘ missing) video) (hinternal : IsInternal count buffer) :
    Tidy count missing { video with mOpqPmemQ := video.mOpqPmemQ ++ [buffer] } := by
  obtain ⟨hmode, _, hdevice, ⟨hsource, hmeta, hdest, hpmem, hkept⟩, hconserved, howned⟩ := htidy
  refine ⟨hmode, rfl, hdevice, ⟨hsource, hmeta, hdest, ?_, hkept⟩, ?_, howned⟩
  · intro other hmem
    rcases List.mem_append.mp hmem with hmem | hmem
    · exact hpmem other hmem
    · exact List.mem_singleton.mp hmem ▸ hinternal
  · rw [← hconserved]
    simp only [held, ← Multiset.coe_add, Multiset.coe_singleton, ← Multiset.singleton_add]
    abel

theorem tidy_queueOpaque (hclient : IsClient count buffer) :
    Establishes (Tidy count (buffer ::ₘ missing)) (queueOpaque buffer) fun _ => Tidy count missing := by
  refine establishes_get fun now => establishes_ite (fun _ => ?_) fun _ => ?_
  · exact (tidy_callEmptyBufferDone _ hclient).imp (fun _ hvideo => hvideo.1) fun _ _ htidy => htidy
  refine establishes_ite (fun hnone => ?_) fun _ => ?_
  · refine establishes_change (Tidy count missing) ?_ fun _ => tidy_pushInputBuffer
    rintro video ⟨htidy, rfl⟩
    exact tidy_setSource htidy (Option.isNone_iff_eq_none.mp hnone) hclient
  refine establishes_ite (fun _ => ?_) fun hfull => ?_
  · refine establishes_change (Tidy count missing) ?_ fun _ => establishes_pure fun _ htidy => htidy
    rintro video ⟨htidy, rfl⟩
    exact tidy_queueSource htidy hclient
  · rintro video ⟨htidy, rfl⟩
    exact absurd (htidy.room (by simp)).2.1 hfull

theorem tidy_openConverter (format : PixelFormat) :
    Establishes (Tidy count missing) (openConverter format) fun _ => Tidy count missing := by
  refine establishes_change (Tidy count missing) (fun video htidy => ?_) fun _ => ?_
  · split <;> exact htidy
  refine establishes_look fun video =>
    establishes_ite (fun _ => establishes_pure fun _ htidy => htidy) fun _ => ?_
  cases format with
  | rgba8888 =>
    refine establishes_ite (fun _ => ?_) fun _ => establishes_pure fun _ htidy => htidy
    exact establishes_change (Tidy count missing) (fun _ htidy => htidy) fun _ =>
      establishes_pure fun _ htidy => htidy
  | nv12Encodeable => exact establishes_pure fun _ htidy => htidy
  | other code => exact establishes_pure fun _ htidy => htidy

theorem tidy_emptyThisBufferOpaque (hclient : IsClient count buffer) :
    Establishes (Tidy count (buffer ::ₘ missing)) (emptyThisBufferOpaque buffer)
      fun _ => Tidy count missing := by
  refine establishes_get_of (fun video => video.nBufferCountActual = count) (fun _ htidy => htidy.1.1)
    fun video hcount => establishes_ite (fun hfails => ?_) fun _ => ?_
  · obtain ⟨index, hindex, rfl⟩ := hclient
    simp [OmxVideo.bufIndexMeta, notBelow, hcount, Nat.not_le.mpr hindex] at hfails
  refine establishes_ite (fun _ => tidy_queueOpaque hclient) fun _ => ?_
  split
  · exact establishes_throw _
  · refine (tidy_openConverter _).bind fun failed => establishes_ite (fun _ => ?_) fun _ => ?_
    · exact tidy_callEmptyBufferDone _ hclient
    · exact tidy_queueOpaque hclient

theorem tidy_returnInput (hknown : IsClient count buffer ∨ IsInternal count buffer) :
    Establishes (Tidy count (buffer ::ₘ missing)) (returnInput buffer) fun _ => Tidy count missing := by
  refine establishes_get fun now => ?_
  rcases hknown with hclient | hinternal
  · rw [if_neg]
    · exact (tidy_callEmptyBufferDone _ hclient).imp (fun _ hvideo => hvideo.1) fun _ _ htidy => htidy
    · obtain ⟨index, hindex, rfl⟩ := hclient
      simp [OmxVideo.bufIndex, notBelow]
  rintro video ⟨htidy, rfl⟩
  have hbelow : (video.mUseProxyColorFormat && !notBelow video.nBufferCountActual (bufIndex buffer)) = true := by
    obtain ⟨index, hindex, rfl⟩ := hinternal
    simp [OmxVideo.bufIndex, notBelow, htidy.1.1, htidy.1.2.2.2.1, hindex]
  rw [if_pos hbelow]
  by_cases hnone : video.pdestFrame.isNone = true
  · rw [if_pos hnone]
    exact tidy_pushInputBuffer _ (tidy_setDest htidy (Option.isNone_iff_eq_none.mp hnone) hinternal)
  · rw [if_neg hnone, if_pos (htidy.room (by simp)).2.2]
    exact tidy_queueDest htidy hinternal

theorem tidy_processEbd (hknown : IsClient count buffer ∨ IsInternal count buffer) :
    Establishes (Tidy count (buffer ::ₘ missing)) (processEbd buffer) fun _ => Tidy count missing := by
  refine establishes_change (Tidy count (buffer ::ₘ missing)) (fun video htidy => ?_) fun _ => ?_
  · split <;> exact htidy
  refine establishes_get_of (fun video => video.nBufferCountActual = count) (fun _ htidy => htidy.1.1)
    fun video hcount => establishes_ite (fun hfails => ?_) fun _ => ?_
  · exfalso
    rcases hknown with ⟨index, hindex, rfl⟩ | ⟨index, hindex, rfl⟩
    · simp [OmxVideo.passesDone, OmxVideo.bufIndexMeta, above, hcount, Nat.not_lt.mpr hindex.le] at hfails
    · simp [OmxVideo.passesDone, OmxVideo.bufIndex, above, hcount, Nat.not_lt.mpr hindex.le] at hfails
  · exact establishes_change (Tidy count (buffer ::ₘ missing)) (fun _ htidy => htidy) fun _ =>
      tidy_returnInput hknown

/-! ### Flushes -/

def EtbEntry.Kept (count : Nat) : EtbEntry → Prop
  | etb _ => False
  | etbOpq buffer => IsClient count buffer
  | ebd buffer => IsClient count buffer ∨ IsInternal count buffer

theorem tidy_flushEtb {entry : EtbEntry} (hkept : entry.Kept count) :
    Establishes (Tidy count (entry.header ::ₘ missing)) (flushEtb entry) fun _ => Tidy count missing := by
  cases entry with
  | etb buffer => exact hkept.elim
  | etbOpq buffer =>
    exact (tidy_callEmptyBufferDone () hkept)
  | ebd buffer => exact (tidy_processEbd hkept).bind fun _ => establishes_pure fun _ htidy => htidy

theorem tidy_drainEtb {entries : List EtbEntry} (hkept : ∀ entry ∈ entries, entry.Kept count) :
    Establishes (Tidy count (↑(entries.map EtbEntry.header) + missing)) (drainEtb entries)
      fun _ => Tidy count missing := by
  induction entries with
  | nil =>
    rw [List.map_nil, Multiset.coe_nil, zero_add]
    exact establishes_pure fun _ htidy => htidy
  | cons entry rest ih =>
    rw [List.map_cons, ← Multiset.cons_coe, Multiset.cons_add]
    exact (tidy_flushEtb (hkept entry List.mem_cons_self)).bind fun _ =>
      ih fun other hmem => hkept other (List.mem_cons_of_mem _ hmem)

theorem Tidy.kept (htidy : Tidy count missing video) : ∀ entry ∈ video.mEtbQ, entry.Kept count := by
  intro entry hmem
  cases entry with
  | etb buffer => exact htidy.2.2.2.1.2.2.2.2.1 buffer hmem
  | etbOpq buffer => exact htidy.2.2.2.1.2.2.2.2.2.1 buffer hmem
  | ebd buffer =>
    apply htidy.known
    have hheader : buffer ∈ video.mEtbQ.map EtbEntry.header := List.mem_map.mpr ⟨_, hmem, rfl⟩
    simp [held, hheader]

theorem tidy_returnOpaque : Establishes (Tidy count missing) returnOpaque fun _ => Tidy count missing := by
  refine establishes_modify fun video htidy => ?_
  have hroom := (htidy.room (by simp)).2.2
  obtain ⟨hmode, _, hdevice, ⟨hsource, hmeta, hdest, hpmem, hqueue, hopaque, hemptied⟩, hconserved, howned⟩ := htidy
  rw [if_pos hmode.2.2.2.1]
  have hpmemQ : video.pdestFrame.elim video.mOpqPmemQ (insertEntry video.mOpqPmemQ) =
      video.mOpqPmemQ ++ video.pdestFrame.toList := by
    cases video.pdestFrame with
    | none => simp
    | some dest => exact insertEntry_of_room hroom
  refine ⟨hmode, rfl, hdevice, ⟨nofun, nofun, nofun, ?_, hqueue, hopaque, ?_⟩, ?_, ?_⟩
  · intro buffer hmem
    rw [hpmemQ] at hmem
    rcases List.mem_append.mp hmem with hmem | hmem
    · exact hpmem buffer hmem
    · exact hdest buffer (Option.mem_toList.mp hmem)
  · intro buffer hmem
    rcases List.mem_append.mp hmem with hmem | hmem
    · rcases List.mem_append.mp hmem with hmem | hmem
      · exact hemptied buffer hmem
      · exact hsource buffer (Option.mem_toList.mp hmem)
    · exact hmeta buffer hmem
  · rw [← hconserved]
    simp only [held, hpmemQ, Option.toList_none, Multiset.coe_nil, ← Multiset.coe_add]
    abel
  · refine howned.trans ?_
    rw [← Multiset.coe_add, ← Multiset.coe_add, add_assoc (↑video.emptied : Multiset InputHeader)]
    gcongr
    exact Multiset.le_add_right _ _

theorem tidy_executeInputFlush :
    Establishes (Tidy count missing) executeInputFlush fun _ => Tidy count missing := by
  have htake : Establishes (Tidy count missing) takeEtb fun entries next =>
      (∀ entry ∈ entries, entry.Kept count) ∧
        Tidy count (↑(entries.map EtbEntry.header) + missing) next := by
    intro video htidy
    refine ⟨htidy.kept, ?_⟩
    obtain ⟨hmode, _, hdevice, ⟨hsource, hmeta, hdest, hpmem, _, _, hemptied⟩, hconserved, howned⟩ := htidy
    refine ⟨hmode, rfl, hdevice, ⟨hsource, hmeta, hdest, hpmem, nofun, nofun, hemptied⟩, ?_, howned⟩
    rw [← hconserved]
    simp only [held, List.map_nil, Multiset.coe_nil]
    abel
  refine establishes_change (Tidy count missing) (fun _ htidy => htidy) fun _ => htake.bind fun entries => ?_
  refine establishes_of fun hkept => (tidy_drainEtb hkept).bind fun _ => ?_
  exact tidy_returnOpaque.bind fun _ => establishes_modify fun _ htidy => htidy

theorem tidy_drainFtb (buffers : List Nat) :
    Establishes (Tidy count missing) (drainFtb buffers) fun _ => Tidy count missing := by
  induction buffers with
  | nil => exact establishes_pure fun _ htidy => htidy
  | cons buffer rest ih =>
    have hfill : Establishes (Tidy count missing) (fillBufferDone buffer) fun _ => Tidy count missing := by
      refine establishes_look fun video => establishes_ite (fun _ => establishes_pure fun _ htidy => htidy) fun _ => ?_
      refine establishes_change (Tidy count missing) (fun _ htidy => htidy) fun _ => ?_
      exact establishes_change (Tidy count missing) (fun _ htidy => htidy) fun _ =>
        establishes_pure fun _ htidy => htidy
    exact establishes_change (Tidy count missing) (fun _ htidy => htidy) fun _ => hfill.bind fun _ => ih

theorem tidy_executeOmxFlush (flushType : FlushType) :
    Establishes (Tidy count missing) (executeOmxFlush flushType) fun _ => Tidy count missing := by
  have hinput : Establishes (Tidy count missing) flushInput fun _ => Tidy count missing :=
    establishes_change (Tidy count missing) (fun _ htidy => htidy) fun _ => tidy_executeInputFlush
  have houtput : Establishes (Tidy count missing) flushOutput fun _ => Tidy count missing := by
    refine establishes_change (Tidy count missing) (fun _ htidy => htidy) fun _ => ?_
    refine establishes_change (Tidy count missing) (fun _ htidy => htidy) fun _ => ?_
    have htake : Establishes (Tidy count missing) takeFtb fun _ => Tidy count missing := fun _ htidy => htidy
    exact htake.bind fun buffers => (tidy_drainFtb buffers).bind fun _ => establishes_modify fun _ htidy => htidy
  cases flushType with
  | input => exact hinput
  | output => exact houtput
  | all => exact hinput.bind fun _ => houtput

/-! ### The message thread -/

theorem tidy_report (ret : ErrorType) :
    Establishes (Tidy count missing) (report ret) fun _ => Tidy count missing :=
  establishes_modify fun _ htidy => htidy

theorem tidy_postCmd (entry : CmdEntry) :
    Establishes (Tidy count missing) (postCmd entry) fun _ => Tidy count missing := by
  refine establishes_get fun _ => establishes_ite (fun _ => establishes_throw _) fun _ => ?_
  rintro now ⟨htidy, rfl⟩
  exact htidy

theorem tidy_postFtb (buffer : Nat) :
    Establishes (Tidy count missing) (postFtb buffer) fun _ => Tidy count missing := by
  refine establishes_get fun _ => establishes_ite (fun _ => establishes_throw _) fun _ => ?_
  rintro now ⟨htidy, rfl⟩
  exact htidy

theorem tidy_completeBufferDones {buffers : List InputHeader}
    (hknown : ∀ buffer ∈ buffers, IsClient count buffer ∨ IsInternal count buffer) :
    Establishes (Tidy count (↑buffers + missing)) (completeBufferDones buffers) fun _ => Tidy count missing := by
  induction buffers with
  | nil =>
    rw [Multiset.coe_nil, zero_add]
    exact establishes_pure fun _ htidy => htidy
  | cons buffer rest ih =>
    rw [← Multiset.cons_coe, Multiset.cons_add]
    refine (tidy_processEbd (hknown buffer List.mem_cons_self)).bind fun ret => ?_
    exact (tidy_report ret).bind fun _ => ih fun other hmem => hknown other (List.mem_cons_of_mem _ hmem)

theorem coe_map_header (entries : List EtbEntry) : (↑(entries.map EtbEntry.header) : Multiset InputHeader) =
    ↑(entries.filterMap EtbEntry.ebdHeader) +
      ↑((entries.filter fun entry => entry.ebdHeader.isNone).map EtbEntry.header) := by
  induction entries with
  | nil => rfl
  | cons entry rest ih =>
    cases entry with
    | etb buffer | etbOpq buffer =>
      rw [List.filterMap_cons_none rfl, List.filter_cons_of_pos rfl, List.map_cons, List.map_cons,
        ← Multiset.cons_coe, ← Multiset.cons_coe, ih, Multiset.add_cons]
    | ebd buffer =>
      have hheader : (EtbEntry.ebd buffer).ebdHeader = some buffer := rfl
      rw [List.filterMap_cons_some hheader, List.filter_cons_of_neg (by simp [hheader]), List.map_cons,
        ← Multiset.cons_coe, ← Multiset.cons_coe, ih, Multiset.cons_add, EtbEntry.header]

theorem tidy_completePendingBufferDoneCbs :
    Establishes (Tidy count missing) completePendingBufferDoneCbs fun _ => Tidy count missing := by
  have htake : Establishes (Tidy count missing) takeEbds fun buffers next =>
      (∀ buffer ∈ buffers, IsClient count buffer ∨ IsInternal count buffer) ∧
        Tidy count (↑buffers + missing) next := by
    intro video htidy
    have hknown : ∀ buffer ∈ video.mEtbQ.filterMap EtbEntry.ebdHeader,
        IsClient count buffer ∨ IsInternal count buffer := by
      intro buffer hmem
      obtain ⟨entry, hentry, hheader⟩ := List.mem_filterMap.mp hmem
      have hkept := htidy.kept entry hentry
      cases entry <;> cases hheader
      exact hkept
    refine ⟨hknown, ?_⟩
    obtain ⟨hmode, _, hdevice, ⟨hsource, hmeta, hdest, hpmem, hqueue, hopaque, hemptied⟩, hconserved, howned⟩ := htidy
    refine ⟨hmode, rfl, hdevice, ⟨hsource, hmeta, hdest, hpmem,
      fun buffer hmem => hqueue buffer (List.mem_of_mem_filter hmem),
      fun buffer hmem => hopaque buffer (List.mem_of_mem_filter hmem), hemptied⟩, ?_, howned⟩
    rw [← hconserved]
    simp only [held, coe_map_header video.mEtbQ]
    abel
  exact htake.bind fun buffers => establishes_of fun hknown => tidy_completeBufferDones hknown

theorem tidy_processCmd (entry : CmdEntry) :
    Establishes (Tidy count missing) (processCmd entry) fun _ => Tidy count missing := by
  cases entry with
  | fbd buffer =>
    have hfill : Establishes (Tidy count missing) (processFbd buffer) fun _ => Tidy count missing := by
      intro video htidy
      simp only [processFbd, fillBufferDone, callFillBufferDone, ends_bind, ends_modify, ends_get]
      by_cases hindex : video.outBufferCountActual < buffer
      · rw [if_pos hindex, if_pos hindex]
        exact htidy
      · rw [if_neg hindex, if_neg hindex]
        exact htidy
    exact hfill.bind tidy_report
  | event event =>
    cases event with
    | command state inputEnabled outputEnabled flush =>
      refine establishes_change (Tidy count missing) (fun _ htidy => htidy) fun _ => ?_
      cases flush with
      | none => exact establishes_pure fun _ htidy => htidy
      | some flushType => exact tidy_executeOmxFlush flushType
    | eventInputFlush => exact establishes_modify fun _ htidy => htidy
    | eventOutputFlush => exact establishes_modify fun _ htidy => htidy
    | buffersDone => exact tidy_completePendingBufferDoneCbs

theorem tidy_processEtb {entry : EtbEntry} (hkept : entry.Kept count) :
    Establishes (Tidy count (entry.header ::ₘ missing)) (processEtb entry) fun _ => Tidy count missing := by
  cases entry with
  | etb buffer => exact hkept.elim
  | etbOpq buffer => exact (tidy_emptyThisBufferOpaque hkept).bind tidy_report
  | ebd buffer => exact (tidy_processEbd hkept).bind tidy_report

theorem tidy_processFtb (buffer : Nat) :
    Establishes (Tidy count missing) (fillThisBufferProxy buffer >>= report) fun _ => Tidy count missing := by
  have hpost : Establishes (Tidy count missing) (postCmd (.fbd buffer)) fun _ => Tidy count missing :=
    tidy_postCmd (.fbd buffer)
  have hfill : Establishes (Tidy count missing) (fillThisBufferProxy buffer) fun _ => Tidy count missing := by
    refine establishes_look fun video => establishes_ite (fun _ => establishes_pure fun _ htidy => htidy) fun _ => ?_
    refine establishes_change (Tidy count missing) (fun _ htidy => htidy) fun _ => ?_
    refine establishes_ite (fun _ => hpost.bind fun _ => establishes_pure fun _ htidy => htidy) fun _ => ?_
    refine establishes_ite (fun _ => ?_) fun _ => hpost.bind fun _ => ?_
    · exact establishes_change (Tidy count missing) (fun _ htidy => htidy) fun _ =>
        establishes_pure fun _ htidy => htidy
    · exact establishes_change (Tidy count missing) (fun _ htidy => htidy) fun _ =>
        establishes_pure fun _ htidy => htidy
  exact hfill.bind tidy_report

theorem tidy_processEventCb : Establishes (Tidy count missing) processEventCb fun _ => Tidy count missing := by
  intro video htidy
  unfold processEventCb
  rw [ends_bind, ends_get]
  split
  case h_1 entry rest _ => exact tidy_processCmd entry { video with mCmdQ := rest } htidy
  case h_2 _ buffer rest _ _ => exact tidy_processFtb buffer { video with mFtbQ := rest } htidy
  case h_3 entry rest _ _ hqueue =>
    refine tidy_processEtb (htidy.kept entry (by rw [hqueue]; exact List.mem_cons_self)) { video with mEtbQ := rest } ?_
    obtain ⟨hmode, _, hdevice, ⟨hsource, hmeta, hdest, hpmem, hetb, hopaque, hemptied⟩, hconserved, howned⟩ := htidy
    rw [hqueue] at hetb hopaque
    refine ⟨hmode, rfl, hdevice, ⟨hsource, hmeta, hdest, hpmem,
      fun buffer hmem => hetb buffer (List.mem_cons_of_mem _ hmem),
      fun buffer hmem => hopaque buffer (List.mem_cons_of_mem _ hmem), hemptied⟩, ?_, howned⟩
    rw [← hconserved]
    simp only [held, hqueue, List.map_cons, ← Multiset.cons_coe, ← Multiset.singleton_add]
    abel
  case h_4 => exact htidy

/-! ### The client and the driver -/

theorem Placed.submit (hplaced : Placed count frames missing (buffer ::ₘ 0) video)
    (hclient : IsClient count buffer) (hhas : video.submitted.count buffer = video.emptied.count buffer) :
    Placed count frames missing 0 { video with submitted := video.submitted ++ [buffer] } := by
  obtain ⟨hmode, hframes, hdevice, hkept, hconserved, howned⟩ := hplaced
  refine ⟨hmode, hframes, hdevice, hkept, ?_, ?_⟩
  · refine hconserved.trans ?_
    simp only [← Multiset.coe_add, Multiset.coe_singleton, ← Multiset.singleton_add]
    abel
  · show (↑(video.submitted ++ [buffer]) : Multiset InputHeader) ≤ ↑video.emptied + clients count
    rw [← Multiset.coe_add, Multiset.coe_singleton, Multiset.le_iff_count]
    intro other
    have hother := Multiset.le_iff_count.mp howned other
    rw [Multiset.count_add, Multiset.coe_count, Multiset.coe_count] at hother
    rw [Multiset.count_add, Multiset.count_add, Multiset.coe_count, Multiset.coe_count, Multiset.count_singleton]
    by_cases heq : other = buffer
    · have hone : 1 ≤ (clients count).count buffer := Multiset.one_le_count_iff_mem.mpr (mem_clients.mpr hclient)
      rw [if_pos heq, heq]
      omega
    · rw [if_neg heq]
      omega

theorem isClient_of_accepted (hmode : OpaqueMode count video) (hother : buffer ≠ .metaBuffer count)
    (hindex : ¬ above video.nBufferCountActual
      (if video.mUseProxyColorFormat then video.bufIndexMeta buffer else bufIndex buffer) = true) :
    IsClient count buffer := by
  obtain ⟨hcount, _, _, hproxy, _⟩ := hmode
  rw [if_pos hproxy, hcount] at hindex
  cases buffer with
  | inpMem index => simp [OmxVideo.bufIndexMeta, hproxy, above] at hindex
  | metaBuffer index =>
    have hle : index ≤ count := by simpa [OmxVideo.bufIndexMeta, above] using hindex
    exact ⟨index, lt_of_le_of_ne hle fun heq => hother (heq ▸ rfl), rfl⟩

theorem tidy_emptyThisBuffer {header : BufferHeader} (htidy : Tidy count missing video)
    (hother : buffer ≠ .metaBuffer count) (hhas : video.submitted.count buffer = video.emptied.count buffer) :
    Ends (emptyThisBuffer buffer header) (fun _ => Tidy count missing) (fun _ _ => True) video := by
  unfold emptyThisBuffer
  rw [ends_bind, ends_modify, ends_bind, ends_get]
  have hreject : ∀ ret : ErrorType, Ends (pure ret : VencM ErrorType) (fun _ => Tidy count missing) (fun _ _ => True)
      { video with header := Function.update video.header buffer header } := fun _ => htidy
  simp only [ends_ite]
  refine ⟨fun _ => hreject _, fun _ => ⟨fun _ => hreject _, fun _ => ⟨fun _ => hreject _, fun _ => ⟨fun _ => hreject _,
    fun _ => ⟨fun _ => hreject _, fun _ => ⟨fun _ => hreject _, fun hindex => ?_⟩⟩⟩⟩⟩⟩
  have hclient : IsClient count buffer := isClient_of_accepted htidy.1 hother hindex
  have hid : video.mInputMsgId.entry buffer = .etbOpq buffer := by
    rw [htidy.1.2.2.2.2]
    rfl
  rw [ends_bind, postEtb, ends_bind, ends_get, ends_ite]
  refine ⟨fun _ => trivial, fun _ => ?_⟩
  rw [ends_set, hid]
  have hposted : Placed count (video.psourceFrame, video.pdestFrame) missing (buffer ::ₘ 0)
      { video with mEtbQ := insertEntry video.mEtbQ (.etbOpq buffer) } := by
    refine htidy.post (by simp) (by rintro _ ⟨⟩) ?_
    rintro other ⟨⟩
    exact hclient
  exact (hposted.submit hclient hhas).tidy

end

/-! ### Runs -/

def clientPlaces (video : OmxVideo) : List InputHeader :=
  video.mEtbQ.map EtbEntry.header ++ video.psourceFrame.toList ++ video.mOpqMetaQ ++ video.driverInput

def internalPlaces (video : OmxVideo) : List InputHeader :=
  video.pdestFrame.toList ++ video.mOpqPmemQ ++ video.mEtbQ.filterMap EtbEntry.ebdHeader ++ video.driverInput

/-- Each header of the client that was submitted and not returned is in one place, and is returned at most once
for each submission. Each internal header is in one place, and is never returned. -/
structure PlacedOnce (video : OmxVideo) : Prop where
  outstanding : ∀ index, video.emptied.count (.metaBuffer index) < video.submitted.count (.metaBuffer index) →
    (clientPlaces video).count (.metaBuffer index) = 1
  returned : ∀ index, video.emptied.count (.metaBuffer index) ≤ video.submitted.count (.metaBuffer index)
  internal : ∀ index < video.nBufferCountActual, (internalPlaces video).count (.inpMem index) = 1
  kept : ∀ index, .inpMem index ∉ video.emptied

/-- The component with the opaque path set up: the internal headers, which have memory, wait in
`m_opq_pmem_q`. -/
structure OmxVideo.OpaqueStart (video : OmxVideo) : Prop extends video.Fresh where
  useProxyColorFormat : video.mUseProxyColorFormat = true
  inputMsgId : video.mInputMsgId = .generateEtbOpq
  fewBuffers : video.nBufferCountActual ≤ maxNumInputBuffers
  hasMemory : 0 < video.nBufferSize
  mOpqPmemQ : video.mOpqPmemQ.Perm ((List.range video.nBufferCountActual).map .inpMem)

def ClientSubmits (video : OmxVideo) : VencAction → Prop
  | .etb buffer _ => buffer ≠ .metaBuffer video.nBufferCountActual ∧
      video.submitted.count buffer = video.emptied.count buffer
  | .process _ | .ftb .. | .post _ | .inputDone _ | .outputDone _ => True

def ConversionsSucceed (video : OmxVideo) : VencAction → Prop
  | .process device => ∀ outcome ∈ device.conversions, outcome.Succeeds video.nBufferSize
  | .etb .. | .ftb .. | .post _ | .inputDone _ | .outputDone _ => True

instance : ∀ video action, Decidable (ClientSubmits video action)
  | video, .etb buffer _ => inferInstanceAs (Decidable (buffer ≠ .metaBuffer video.nBufferCountActual ∧
      video.submitted.count buffer = video.emptied.count buffer))
  | _, .process _ | _, .ftb .. | _, .post _ | _, .inputDone _ | _, .outputDone _ =>
    inferInstanceAs (Decidable True)

instance (nBufferSize : Nat) (outcome : ConversionOutcome) : Decidable (outcome.Succeeds nBufferSize) :=
  inferInstanceAs (Decidable (outcome.mmap ∧ outcome.convert ∧
    (∃ size ∈ outcome.bufferSize, sizeFits nBufferSize size) ∧ outcome.useBuf ∧ outcome.empty.emptyBuf))

instance : ∀ video action, Decidable (ConversionsSucceed video action)
  | video, .process device =>
    inferInstanceAs (Decidable (∀ outcome ∈ device.conversions, outcome.Succeeds video.nBufferSize))
  | _, .etb .. | _, .ftb .. | _, .post _ | _, .inputDone _ | _, .outputDone _ =>
    inferInstanceAs (Decidable True)

theorem tidy_vencStep {next : OmxVideo} {action : VencAction} (hclient : ClientSubmits video action)
    (hsucceed : ConversionsSucceed video action) (htidy : Tidy count 0 video)
    (hstep : vencStep video action = some next) : Tidy count 0 next := by
  refine of_vencStep hstep fun hpossible => ?_
  cases action with
  | etb buffer header =>
    obtain ⟨hother, hhas⟩ := hclient
    rw [htidy.1.1] at hother
    rw [VencAction.code, ends_bind]
    exact tidy_emptyThisBuffer htidy hother hhas
  | ftb buffer header =>
    have hfill : Establishes (Tidy count 0) (fillThisBuffer buffer header) fun _ => Tidy count 0 := by
      refine establishes_look fun video => ?_
      iterate 5 refine establishes_ite (fun _ => establishes_pure fun _ htidy => htidy) fun _ => ?_
      exact (tidy_postFtb buffer).bind fun _ => establishes_pure fun _ htidy => htidy
    rw [VencAction.code, ends_bind]
    exact hfill video htidy
  | post event => exact tidy_postCmd (.event event) video htidy
  | process device =>
    exact tidy_processEventCb { video with device := device }
      ⟨htidy.1, rfl, hsucceed, htidy.2.2.2⟩
  | inputDone buffer =>
    have hmem : buffer ∈ video.driverInput := by simpa [VencAction.possible] using hpossible
    have htaken : Placed count (video.psourceFrame, video.pdestFrame) (buffer ::ₘ 0) 0
        { video with driverInput := video.driverInput.erase buffer } := by
      obtain ⟨hmode, hframes, hdevice, hkept, hconserved, howned⟩ := htidy
      refine ⟨hmode, hframes, hdevice, hkept, ?_, howned⟩
      have hcons : (↑video.driverInput : Multiset InputHeader) = buffer ::ₘ ↑(video.driverInput.erase buffer) := by
        rw [← Multiset.coe_erase, Multiset.cons_erase (by simpa using hmem)]
      rw [← hconserved]
      simp only [held, hcons, ← Multiset.singleton_add]
      abel
    refine (placed_postEbd buffer (by simp) _ htaken).imp (fun _ _ hnext => ?_) fun _ _ _ => trivial
    exact (placed_cons_cons.mp hnext).tidy
  | outputDone buffer =>
    exact tidy_postCmd (.fbd buffer) { video with driverOutput := video.driverOutput.erase buffer } htidy

theorem OmxVideo.OpaqueStart.tidy (hstart : video.OpaqueStart) : Tidy video.nBufferCountActual 0 video := by
  refine ⟨⟨rfl, hstart.fewBuffers, hstart.hasMemory, hstart.useProxyColorFormat, hstart.inputMsgId⟩, rfl, ?_,
    ⟨?_, ?_, ?_, ?_, ?_, ?_, ?_⟩, ?_, ?_⟩
  · rw [hstart.device]
    nofun
  · simp [hstart.psourceFrame]
  · simp [hstart.mOpqMetaQ]
  · simp [hstart.pdestFrame]
  · intro buffer hmem
    exact mem_internals.mp (hstart.mOpqPmemQ.mem_iff.mp hmem)
  · simp [hstart.mEtbQ]
  · simp [hstart.mEtbQ]
  · simp [hstart.emptied]
  · simp [held, hstart.mEtbQ, hstart.psourceFrame, hstart.mOpqMetaQ, hstart.pdestFrame, hstart.driverInput,
      hstart.emptied, hstart.submitted, internals, hstart.mOpqPmemQ]
  · rw [hstart.submitted]
    exact Multiset.zero_le _

theorem Tidy.count_held (htidy : Tidy count 0 video) (buffer : InputHeader) :
    (held video).count buffer + video.emptied.count buffer =
      video.submitted.count buffer + (internals count).count buffer := by
  have hconserved := congrArg (Multiset.count buffer) htidy.2.2.2.2.1
  simpa only [Multiset.count_add, Multiset.count_zero, Multiset.coe_count, zero_add, add_zero] using hconserved

theorem held_eq_clientPlaces (video : OmxVideo) :
    held video = ↑(clientPlaces video) + (↑video.pdestFrame.toList + ↑video.mOpqPmemQ) := by
  simp only [held, clientPlaces, ← Multiset.coe_add]
  abel

theorem held_eq_internalPlaces (video : OmxVideo) : held video = ↑(internalPlaces video) +
    (↑((video.mEtbQ.filter fun entry => entry.ebdHeader.isNone).map EtbEntry.header) +
      ↑video.psourceFrame.toList + ↑video.mOpqMetaQ) := by
  simp only [held, internalPlaces, coe_map_header video.mEtbQ, ← Multiset.coe_add]
  abel

theorem Tidy.count_client (htidy : Tidy count 0 video) (index : Nat) :
    (held video).count (.metaBuffer index) = (clientPlaces video).count (.metaBuffer index) := by
  obtain ⟨_, _, hdest, hpmem, _⟩ := htidy.2.2.2.1
  have hnone : (↑video.pdestFrame.toList + ↑video.mOpqPmemQ : Multiset InputHeader).count
      (.metaBuffer index) = 0 := by
    apply Multiset.count_eq_zero_of_notMem
    intro hmem
    rcases Multiset.mem_add.mp hmem with hmem | hmem
    · obtain ⟨_, _, heq⟩ := hdest _ (Option.mem_toList.mp hmem)
      cases heq
    · obtain ⟨_, _, heq⟩ := hpmem _ hmem
      cases heq
  rw [held_eq_clientPlaces, Multiset.count_add, hnone, Multiset.coe_count, Nat.add_zero]

theorem Tidy.count_internal (htidy : Tidy count 0 video) (index : Nat) :
    (held video).count (.inpMem index) = (internalPlaces video).count (.inpMem index) := by
  obtain ⟨hsource, hmeta, _⟩ := htidy.2.2.2.1
  have hnone : (↑((video.mEtbQ.filter fun entry => entry.ebdHeader.isNone).map EtbEntry.header) +
      ↑video.psourceFrame.toList + ↑video.mOpqMetaQ : Multiset InputHeader).count (.inpMem index) = 0 := by
    apply Multiset.count_eq_zero_of_notMem
    intro hmem
    rcases Multiset.mem_add.mp hmem with hmem | hmem
    · rcases Multiset.mem_add.mp hmem with hmem | hmem
      · obtain ⟨entry, hentry, hheader⟩ := List.mem_map.mp (Multiset.mem_coe.mp hmem)
        obtain ⟨hqueued, hebd⟩ := List.mem_filter.mp hentry
        have hkept := htidy.kept entry hqueued
        cases entry with
        | etb buffer => exact hkept.elim
        | etbOpq buffer =>
          obtain ⟨_, _, rfl⟩ := hkept
          cases hheader
        | ebd buffer => simp [EtbEntry.ebdHeader] at hebd
      · obtain ⟨_, _, heq⟩ := hsource _ (Option.mem_toList.mp hmem)
        cases heq
    · obtain ⟨_, _, heq⟩ := hmeta _ hmem
      cases heq
  rw [held_eq_internalPlaces, Multiset.count_add, hnone, Multiset.coe_count, Nat.add_zero]

theorem Tidy.placedOnce (htidy : Tidy count 0 video) : PlacedOnce video := by
  have hinternals : ∀ index, (internals count).count (.metaBuffer index) = 0 := by
    intro index
    apply Multiset.count_eq_zero_of_notMem
    rw [mem_internals]
    rintro ⟨_, _, heq⟩
    cases heq
  have hemptied : ∀ index, .inpMem index ∉ video.emptied := by
    intro index hmem
    obtain ⟨_, _, heq⟩ := htidy.2.2.2.1.2.2.2.2.2.2 _ hmem
    cases heq
  have howned : ∀ buffer, video.submitted.count buffer ≤
      video.emptied.count buffer + (clients count).count buffer := by
    intro buffer
    have hle := Multiset.le_iff_count.mp htidy.2.2.2.2.2 buffer
    rwa [Multiset.count_add, Multiset.coe_count, Multiset.coe_count] at hle
  refine ⟨fun index hlt => ?_, fun index => ?_, fun index hindex => ?_, hemptied⟩
  · have hheld := htidy.count_held (.metaBuffer index)
    have hone := Multiset.nodup_iff_count_le_one.mp (nodup_clients count) (.metaBuffer index)
    have hsubmitted := howned (.metaBuffer index)
    rw [htidy.count_client, hinternals] at hheld
    omega
  · have hheld := htidy.count_held (.metaBuffer index)
    rw [hinternals] at hheld
    omega
  · have hheld := htidy.count_held (.inpMem index)
    have hone : (internals count).count (.inpMem index) = 1 := by
      apply Multiset.count_eq_one_of_mem (nodup_internals count)
      exact mem_internals.mpr ⟨index, htidy.1.1 ▸ hindex, rfl⟩
    have hclients : (clients count).count (.inpMem index) = 0 := by
      apply Multiset.count_eq_zero_of_notMem
      rw [mem_clients]
      rintro ⟨_, _, heq⟩
      cases heq
    have hsubmitted := howned (.inpMem index)
    rw [hclients, List.count_eq_zero_of_not_mem (hemptied index)] at hsubmitted
    rw [htidy.count_internal, hone, List.count_eq_zero_of_not_mem (hemptied index)] at hheld
    omega

/-- Where every conversion succeeds, no header of the opaque path is lost or doubled in a run. -/
theorem headers_placedOnce {first last : OmxVideo} {actions : List VencAction} (hstart : first.OpaqueStart)
    (hclient : RunMeets vencStep ClientSubmits first actions)
    (hsucceed : RunMeets vencStep ConversionsSucceed first actions)
    (hrun : runSteps vencStep first actions = some last) : PlacedOnce last := by
  have hlast : Tidy first.nBufferCountActual 0 last := runSteps_state_of_meets (Tidy first.nBufferCountActual 0)
    (fun _ _ _ hmeets htidy hstep => tidy_vencStep hmeets.1 hmeets.2 htidy hstep) (hclient.and _ hsucceed)
    hstart.tidy hrun
  exact hlast.placedOnce

theorem start_opaqueStart {nBufferSize outCount : Nat} (hcount : count ≤ maxNumInputBuffers)
    (hsize : 0 < nBufferSize) : (OmxVideo.start count nBufferSize outCount true).OpaqueStart :=
  { OmxVideo.start_fresh count nBufferSize outCount true with
    useProxyColorFormat := rfl
    inputMsgId := rfl
    fewBuffers := hcount
    hasMemory := hsize
    mOpqPmemQ := .refl _ }

def convertOnce (mmap : Bool) : List VencAction :=
  [.etb (.metaBuffer 0) ⟨true, omxSpecVersion, inputPortIndex, 16, 0, 0, 0,
      some ⟨.grallocSource, some ⟨1, 2, .rgba8888⟩⟩⟩,
    .process { DeviceScript.succeeding with conversions := [⟨mmap, true, some 16, true, true, true⟩] }]

theorem convertOnce_placedOnce :
    PlacedOnce ((runSteps vencStep (OmxVideo.start 1 16 1 true) (convertOnce true)).get (by decide +kernel)) :=
  headers_placedOnce (start_opaqueStart (by decide) (by decide)) (by decide +kernel) (by decide +kernel)
    (Option.some_get _).symm

/-- Behind an `mmap` that failed, the header of the client is nowhere. -/
theorem failedMmap_not_placedOnce : ¬ ∀ (first last : OmxVideo) (actions : List VencAction), first.OpaqueStart →
    RunMeets vencStep ClientSubmits first actions → runSteps vencStep first actions = some last →
    PlacedOnce last := by
  intro hplaced
  have hlost : (runSteps vencStep (OmxVideo.start 1 16 1 true) (convertOnce false)).map
      (fun last => (last.submitted, last.emptied, clientPlaces last)) =
        some ([.metaBuffer 0], [], []) := by decide +kernel
  obtain ⟨last, hrun, hlast⟩ := Option.map_eq_some_iff.mp hlost
  simp only [Prod.mk.injEq] at hlast
  obtain ⟨hsubmitted, hemptied, hplaces⟩ := hlast
  have hone := (hplaced _ last _ (start_opaqueStart (by decide) (by decide)) (by decide +kernel) hrun).outstanding 0
  rw [hsubmitted, hemptied, hplaces] at hone
  simp at hone

end Nozomi.Venc
