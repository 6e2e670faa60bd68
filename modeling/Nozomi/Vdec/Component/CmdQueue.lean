import Nozomi.Vdec.Component.Queues

/-!
# The words of a command queue

`omx_cmd_queue` as it is stored: an array and three words. It answers as a queue of at most
`OMX_CORE_CONTROL_CMDQ_SIZE` entries does, however often its indices wrap.
-/

namespace Nozomi

/-- `struct omx_event`. -/
structure QueueEntry where
  param1 : BitVec 32
  param2 : BitVec 32
  id : BitVec 32
  deriving DecidableEq, Repr

/-- `struct omx_cmd_queue`. -/
structure CmdQueueData where
  mQ : Nat → QueueEntry
  mRead : BitVec 32
  mWrite : BitVec 32
  mSize : BitVec 32

inductive CmdQueueCall where
  | insertEntry (entry : QueueEntry)
  | popEntry
  deriving DecidableEq, Repr

/-- What `insert_entry` and `pop_entry` return, with the entry that was popped. -/
inductive CmdQueueAnswer where
  | inserted (ret : Bool)
  | popped (entry : Option QueueEntry)
  deriving DecidableEq, Repr

namespace CmdQueueData

abbrev cmdqWord : BitVec 32 := BitVec.ofNat 32 cmdqSize

def init : CmdQueueData := ⟨fun _ => ⟨0, 0, 0⟩, 0, 0, 0⟩

def insertEntry (queue : CmdQueueData) (entry : QueueEntry) : CmdQueueData × Bool :=
  if queue.mSize < cmdqWord then
    let mWrite := queue.mWrite + 1
    ({ queue with
        mQ := Function.update queue.mQ queue.mWrite.toNat entry
        mWrite := if cmdqWord ≤ mWrite then 0 else mWrite
        mSize := queue.mSize + 1 }, true)
  else (queue, false)

def popEntry (queue : CmdQueueData) : CmdQueueData × Option QueueEntry :=
  if 0 < queue.mSize then
    let mRead := queue.mRead + 1
    ({ queue with mRead := if cmdqWord ≤ mRead then 0 else mRead, mSize := queue.mSize - 1 },
      some (queue.mQ queue.mRead.toNat))
  else (queue, none)

def step (queue : CmdQueueData) : CmdQueueCall → CmdQueueData × CmdQueueAnswer
  | .insertEntry entry => (queue.insertEntry entry).map id .inserted
  | .popEntry => queue.popEntry.map id .popped

/-- A queue of at most `OMX_CORE_CONTROL_CMDQ_SIZE` entries. -/
def boundedStep (entries : List QueueEntry) : CmdQueueCall → List QueueEntry × CmdQueueAnswer
  | .insertEntry entry =>
    if entries.length < cmdqSize then (entries ++ [entry], .inserted true) else (entries, .inserted false)
  | .popEntry => (entries.tail, .popped entries.head?)

/-- The words are those of a ring. -/
structure Stores (queue : CmdQueueData) (ring : Ring QueueEntry cmdqSize) : Prop where
  mQ_eq : queue.mQ = ring.cells
  mRead_eq : queue.mRead.toNat = ring.read
  mWrite_eq : queue.mWrite.toNat = ring.write
  mSize_eq : queue.mSize.toNat = ring.size

/-- The indices and the size are in their ranges and fit each other, and the entries lie between the indices. -/
structure Holds (queue : CmdQueueData) (entries : List QueueEntry) : Prop where
  mSize_eq : queue.mSize.toNat = entries.length
  mSize_le : queue.mSize.toNat ≤ cmdqSize
  mRead_lt : queue.mRead.toNat < cmdqSize
  mWrite_lt : queue.mWrite.toNat < cmdqSize
  mWrite_eq : queue.mWrite.toNat = (queue.mRead.toNat + queue.mSize.toNat) % cmdqSize
  entries_eq : entries =
    (List.range queue.mSize.toNat).map fun i => queue.mQ ((queue.mRead.toNat + i) % cmdqSize)

variable {queue : CmdQueueData} {ring : Ring QueueEntry cmdqSize}

theorem toNat_add_one {word : BitVec 32} (hword : word.toNat < cmdqSize) : (word + 1).toNat = word.toNat + 1 := by
  unfold cmdqSize at hword
  exact BitVec.toNat_add_of_lt (by simpa using by omega)

theorem toNat_nextWord {index : BitVec 32} (hindex : index.toNat < cmdqSize) :
    (if cmdqWord ≤ index + 1 then 0 else index + 1).toNat = Ring.nextIndex cmdqSize index.toNat := by
  have hle : cmdqWord ≤ index + 1 ↔ cmdqSize ≤ index.toNat + 1 := by
    rw [BitVec.le_def, toNat_add_one hindex]
    rfl
  unfold Ring.nextIndex
  by_cases hwraps : cmdqSize ≤ index.toNat + 1
  · rw [if_pos (hle.2 hwraps), if_pos hwraps]
    rfl
  · rw [if_neg (mt hle.1 hwraps), if_neg hwraps, toNat_add_one hindex]

theorem Stores.mWrite_lt (hstores : queue.Stores ring) : queue.mWrite.toNat < cmdqSize := by
  rw [hstores.mWrite_eq, ring.write_eq]
  exact Nat.mod_lt _ (by decide)

theorem Stores.holds (hstores : queue.Stores ring) : queue.Holds ring.contents := by
  refine ⟨?_, ?_, ?_, hstores.mWrite_lt, ?_, ?_⟩
  · rw [hstores.mSize_eq, ring.length_contents]
  · exact hstores.mSize_eq ▸ ring.size_le
  · exact hstores.mRead_eq ▸ ring.read_lt
  · rw [hstores.mWrite_eq, hstores.mRead_eq, hstores.mSize_eq, ring.write_eq]
  · rw [hstores.mQ_eq, hstores.mRead_eq, hstores.mSize_eq]
    rfl

theorem Stores.insertEntry (hstores : queue.Stores ring) (entry : QueueEntry) :
    (queue.insertEntry entry).1.Stores (ring.insert entry).1 ∧
      (queue.insertEntry entry).2 = (ring.insert entry).2 := by
  have hroom : queue.mSize < cmdqWord ↔ ring.size < cmdqSize := by
    rw [BitVec.lt_def, hstores.mSize_eq]
    rfl
  unfold CmdQueueData.insertEntry Ring.insert
  by_cases hsize : ring.size < cmdqSize
  · rw [if_pos (hroom.2 hsize), dif_pos hsize]
    refine ⟨⟨?_, hstores.mRead_eq, ?_, ?_⟩, rfl⟩
    · rw [hstores.mQ_eq, hstores.mWrite_eq]
    · exact (toNat_nextWord hstores.mWrite_lt).trans (congrArg _ hstores.mWrite_eq)
    · have hword : queue.mSize.toNat < cmdqSize := hstores.mSize_eq ▸ hsize
      exact (toNat_add_one hword).trans (congrArg (· + 1) hstores.mSize_eq)
  · rw [if_neg (mt hroom.1 hsize), dif_neg hsize]
    exact ⟨hstores, rfl⟩

theorem Stores.popEntry (hstores : queue.Stores ring) :
    queue.popEntry.1.Stores ring.pop.1 ∧ queue.popEntry.2 = ring.pop.2 := by
  have hsome : 0 < queue.mSize ↔ 0 < ring.size := by
    rw [BitVec.lt_def, hstores.mSize_eq]
    rfl
  unfold CmdQueueData.popEntry Ring.pop
  by_cases hsize : 0 < ring.size
  · rw [if_pos (hsome.2 hsize), dif_pos hsize]
    refine ⟨⟨hstores.mQ_eq, ?_, hstores.mWrite_eq, ?_⟩, ?_⟩
    · have hread : queue.mRead.toNat < cmdqSize := hstores.mRead_eq ▸ ring.read_lt
      exact (toNat_nextWord hread).trans (congrArg _ hstores.mRead_eq)
    · have hone : (1 : BitVec 32) ≤ queue.mSize := by
        rw [BitVec.le_def, hstores.mSize_eq]
        exact hsize
      rw [BitVec.toNat_sub_of_le hone, hstores.mSize_eq]
      rfl
    · rw [hstores.mQ_eq, hstores.mRead_eq]
  · rw [if_neg (mt hsome.1 hsize), dif_neg hsize]
    exact ⟨hstores, rfl⟩

/-- The ring answers for the words, and the bounded queue for the ring. -/
theorem Stores.step (hstores : queue.Stores ring) (call : CmdQueueCall) :
    ∃ next : Ring QueueEntry cmdqSize, (queue.step call).1.Stores next ∧
      boundedStep ring.contents call = (next.contents, (queue.step call).2) := by
  cases call with
  | insertEntry entry =>
    obtain ⟨hnext, hret⟩ := hstores.insertEntry entry
    refine ⟨(ring.insert entry).1, hnext, ?_⟩
    simp only [boundedStep, Ring.length_contents]
    by_cases hroom : ring.size < cmdqSize
    · have htrue : (ring.insert entry).2 = true := by rw [Ring.insert, dif_pos hroom]
      rw [if_pos hroom, Ring.contents_insert hroom]
      exact congrArg (Prod.mk _) (congrArg CmdQueueAnswer.inserted (hret.trans htrue).symm)
    · rw [Ring.insert_of_full hroom] at hret ⊢
      rw [if_neg hroom]
      exact congrArg (Prod.mk _) (congrArg CmdQueueAnswer.inserted hret.symm)
  | popEntry =>
    obtain ⟨hnext, hret⟩ := hstores.popEntry
    refine ⟨ring.pop.1, hnext, ?_⟩
    cases hcontents : ring.contents with
    | nil =>
      rw [Ring.pop_of_nil hcontents] at hret ⊢
      exact Prod.ext hcontents.symm (congrArg CmdQueueAnswer.popped hret.symm)
    | cons entry rest =>
      obtain ⟨next, hpop, hrest⟩ := Ring.pop_of_cons hcontents
      rw [hpop] at hret ⊢
      exact Prod.ext hrest.symm (congrArg CmdQueueAnswer.popped hret.symm)

/-- The ring answers like a list of at most `OMX_CORE_CONTROL_CMDQ_SIZE` entries, and holds what the list holds. -/
theorem cmdQueue_answers (calls : List CmdQueueCall) :
    (answers step init calls).1.Holds (answers boundedStep [] calls).1 ∧
      (answers step init calls).2 = (answers boundedStep [] calls).2 := by
  have hstart : ∃ ring : Ring QueueEntry cmdqSize, init.Stores ring ∧ ring.contents = [] :=
    ⟨.empty ⟨0, 0, 0⟩ (by decide), ⟨rfl, rfl, rfl, rfl⟩, Ring.contents_empty _ _⟩
  have hstep : ∀ (queue : CmdQueueData) (entries : List QueueEntry) (call : CmdQueueCall),
      (∃ ring : Ring QueueEntry cmdqSize, queue.Stores ring ∧ ring.contents = entries) →
      (∃ ring : Ring QueueEntry cmdqSize, (queue.step call).1.Stores ring ∧
        ring.contents = (boundedStep entries call).1) ∧ (queue.step call).2 = (boundedStep entries call).2 := by
    rintro queue _ call ⟨ring, hstores, rfl⟩
    obtain ⟨next, hnext, hspec⟩ := hstores.step call
    rw [hspec]
    exact ⟨⟨next, hnext, rfl⟩, rfl⟩
  obtain ⟨⟨ring, hstores, hcontents⟩, hanswers⟩ := answers_simulate hstep calls init [] hstart
  exact ⟨hcontents ▸ hstores.holds, hanswers⟩

end CmdQueueData

end Nozomi
