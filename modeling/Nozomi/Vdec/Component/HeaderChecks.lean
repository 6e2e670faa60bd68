import Nozomi.Vdec.Component.Code

/-!
# The range checks of buffer headers

Seven functions of `omx_vdec.cpp` are given the address of a buffer header and take its place in an array from
a difference of pointers, an `int` that is compared with an `uint32_t`. Each is modelled up to that comparison:
the error that it returns there or before, or the place with which the rest of it uses the header, and the
places at which arrays were indexed in front of the comparison. A difference can be any value, since the
arrays are allocated apart.
-/

namespace Nozomi

/-- `m_inp_mem_ptr`, `m_inp_heap_ptr`, `m_out_mem_ptr` and `m_out_mem_ptr_client`. -/
inductive HeaderArray where
  | inpMem | inpHeap | outMem | outMemClient
  deriving DecidableEq, Repr

/-- The members of `omx_vdec` that the checks read. -/
structure HeaderPorts where
  mState : StateType
  inpBEnabled : Bool
  outBEnabled : Bool
  /-- `drv_ctx.ip_buf.actualcount` and `drv_ctx.op_buf.actualcount`. -/
  ipActualcount : BitVec 32
  opActualcount : BitVec 32
  arbitraryBytes : Bool
  inputUseBuffer : Bool
  /-- `enabled` of `client_buffers`. -/
  colorConvert : Bool
  /-- `m_desc_buffer_ptr` is not `NULL`. -/
  hasDescBuffers : Bool
  deriving DecidableEq, Repr

/-- A pointer to a header: its difference from each array, and two fields behind it. -/
structure HeaderPointer where
  isNull : Bool
  difference : HeaderArray → BitVec 32
  nInputPortIndex : Nat
  hasInputPortPrivate : Bool

/-- What a function does up to its comparison. -/
structure HeaderCheck where
  result : Except ErrorType (HeaderArray × BitVec 32)
  indexed : List (HeaderArray × BitVec 32)

namespace HeaderPorts

variable (ports : HeaderPorts) (buffer : HeaderPointer)

def actualcount : HeaderArray → BitVec 32
  | .inpMem | .inpHeap => ports.ipActualcount
  | .outMem | .outMemClient => ports.opActualcount

def refuse (error : ErrorType) : HeaderCheck := ⟨.error error, []⟩

def checkAbove (array : HeaderArray) : Except ErrorType (HeaderArray × BitVec 32) :=
  if ports.actualcount array < buffer.difference array then .error .badParameter
  else .ok (array, buffer.difference array)

def checkAtLeast (array : HeaderArray) : Except ErrorType (HeaderArray × BitVec 32) :=
  if ports.actualcount array ≤ buffer.difference array then .error .badParameter
  else .ok (array, buffer.difference array)

def emptyThisBuffer : HeaderCheck :=
  if ports.mState = .invalid then refuse .invalidState
  else if buffer.isNull then refuse .badParameter
  else if !ports.inpBEnabled then refuse .incorrectStateOperation
  else if buffer.nInputPortIndex ≠ inputPortIndex then refuse .badPortIndex
  else if ports.arbitraryBytes then ⟨ports.checkAbove buffer .inpHeap, []⟩
  else if ports.inputUseBuffer then
    -- three fields are copied from the one array to the other
    ⟨ports.checkAbove buffer .inpHeap,
      [(.inpMem, buffer.difference .inpHeap), (.inpHeap, buffer.difference .inpHeap)]⟩
  else ⟨ports.checkAbove buffer .inpMem, []⟩

def emptyThisBufferProxy : HeaderCheck :=
  if buffer.isNull || !buffer.hasInputPortPrivate then refuse .badParameter
  else ⟨ports.checkAbove buffer .inpMem, []⟩

def emptyBufferDone : HeaderCheck :=
  if buffer.isNull then refuse .badParameter else ⟨ports.checkAbove buffer .inpMem, []⟩

def ilBufHdr : HeaderArray := if ports.colorConvert then .outMemClient else .outMem

def fillThisBuffer : HeaderCheck :=
  if ports.mState = .invalid then refuse .invalidState
  else if !ports.outBEnabled then refuse .incorrectStateOperation
  else if buffer.isNull then refuse .badParameter
  else ⟨ports.checkAtLeast buffer ports.ilBufHdr, []⟩

def fillThisBufferProxy : HeaderCheck :=
  if buffer.isNull then refuse .badParameter else ⟨ports.checkAbove buffer ports.ilBufHdr, []⟩

def fillBufferDone : HeaderCheck :=
  if buffer.isNull then refuse .badParameter else ⟨ports.checkAtLeast buffer .outMem, []⟩

def handleDemuxData : HeaderCheck :=
  if !ports.hasDescBuffers then refuse .badParameter else ⟨ports.checkAbove buffer .inpMem, []⟩

end HeaderPorts

/-- The functions that are given a header. -/
inductive HeaderEntry where
  | emptyThisBuffer | emptyThisBufferProxy | emptyBufferDone
  | fillThisBuffer | fillThisBufferProxy | fillBufferDone
  | handleDemuxData
  deriving DecidableEq, Repr

namespace HeaderPorts

variable (ports : HeaderPorts) (buffer : HeaderPointer)

def check : HeaderEntry → HeaderCheck
  | .emptyThisBuffer => ports.emptyThisBuffer buffer
  | .emptyThisBufferProxy => ports.emptyThisBufferProxy buffer
  | .emptyBufferDone => ports.emptyBufferDone buffer
  | .fillThisBuffer => ports.fillThisBuffer buffer
  | .fillThisBufferProxy => ports.fillThisBufferProxy buffer
  | .fillBufferDone => ports.fillBufferDone buffer
  | .handleDemuxData => ports.handleDemuxData buffer

/-- A header is accepted only below `actualcount`, and no array is indexed before that is known. -/
def StrictlyInside (checked : HeaderCheck) : Prop :=
  (∀ array index, checked.result = .ok (array, index) → index < ports.actualcount array) ∧
    checked.indexed = []

def Compares : HeaderEntry → Prop
  | .emptyThisBuffer => ports.mState ≠ .invalid ∧ buffer.isNull = false ∧ ports.inpBEnabled = true ∧
      buffer.nInputPortIndex = inputPortIndex
  | .emptyThisBufferProxy => buffer.isNull = false ∧ buffer.hasInputPortPrivate = true
  | .fillThisBuffer => ports.mState ≠ .invalid ∧ ports.outBEnabled = true ∧ buffer.isNull = false
  | .handleDemuxData => ports.hasDescBuffers = true
  | .emptyBufferDone | .fillThisBufferProxy | .fillBufferDone => buffer.isNull = false

/-- The header is not the one behind the last one of its array, for the functions that compare with `>`, and
`empty_this_buffer` copies nothing from the client's headers. -/
def NotEnd : HeaderEntry → Prop
  | .emptyThisBuffer =>
    if ports.arbitraryBytes then buffer.difference .inpHeap ≠ ports.ipActualcount
    else ports.inputUseBuffer = false ∧ buffer.difference .inpMem ≠ ports.ipActualcount
  | .emptyThisBufferProxy | .emptyBufferDone | .handleDemuxData =>
    buffer.difference .inpMem ≠ ports.ipActualcount
  | .fillThisBufferProxy => buffer.difference ports.ilBufHdr ≠ ports.opActualcount
  | .fillThisBuffer | .fillBufferDone => True

theorem strictlyInside_refuse (error : ErrorType) : ports.StrictlyInside (refuse error) :=
  ⟨fun _ _ hresult => (by cases hresult), rfl⟩

theorem strictlyInside_checkAbove (array : HeaderArray) :
    ports.StrictlyInside ⟨ports.checkAbove buffer array, []⟩ ↔
      buffer.difference array ≠ ports.actualcount array := by
  unfold StrictlyInside checkAbove
  simp only [and_true]
  split
  next habove =>
    refine iff_of_true (fun _ _ hresult => by cases hresult) ?_
    intro hend
    exact absurd habove (by simp [hend])
  next hbelow =>
    constructor
    · intro hstrict hend
      have hlt := hstrict array _ rfl
      exact absurd hlt (by simp [hend])
    · intro hne other index hresult
      obtain ⟨rfl, rfl⟩ := Prod.mk.inj (Except.ok.inj hresult)
      exact BitVec.lt_of_le_ne (BitVec.not_lt.mp hbelow) hne

theorem strictlyInside_checkAtLeast (array : HeaderArray) :
    ports.StrictlyInside ⟨ports.checkAtLeast buffer array, []⟩ := by
  refine ⟨fun other index hresult => ?_, rfl⟩
  unfold checkAtLeast at hresult
  split at hresult
  next => cases hresult
  next hbelow =>
    obtain ⟨rfl, rfl⟩ := Prod.mk.inj (Except.ok.inj hresult)
    exact BitVec.not_le.mp hbelow

theorem emptyThisBuffer_strictlyInside_iff :
    ports.StrictlyInside (ports.emptyThisBuffer buffer) ↔
      (ports.Compares buffer .emptyThisBuffer → ports.NotEnd buffer .emptyThisBuffer) := by
  have habove := ports.strictlyInside_checkAbove buffer
  have hrefuse := ports.strictlyInside_refuse
  unfold emptyThisBuffer
  simp only [Compares, NotEnd]
  split
  next hinvalid => exact iff_of_true (hrefuse _) fun hcompares => absurd hinvalid hcompares.1
  split
  next hnull => exact iff_of_true (hrefuse _) fun hcompares => absurd hnull (by simp [hcompares.2.1])
  split
  next hdisabled => exact iff_of_true (hrefuse _) fun hcompares => by simp [hcompares.2.2.1] at hdisabled
  split
  next hport => exact iff_of_true (hrefuse _) fun hcompares => absurd hcompares.2.2.2 hport
  next hinvalid hnull henabled hport =>
    have hcompares : ports.mState ≠ .invalid ∧ buffer.isNull = false ∧ ports.inpBEnabled = true ∧
        buffer.nInputPortIndex = inputPortIndex :=
      ⟨hinvalid, by simpa using hnull, by simpa using henabled, by simpa using hport⟩
    simp only [hcompares, ne_eq, not_false_eq_true, and_self, true_implies]
    split
    · exact habove .inpHeap
    split
    next huse => exact iff_of_false (fun hstrict => by cases hstrict.2) fun hnot => by simp [huse] at hnot
    next huse =>
      simp only [huse, true_and]
      exact habove .inpMem

/-- The checks keep every header strictly inside its array, but for the one behind its end where the comparison
is `>`, and no array is indexed in front of them, but by `empty_this_buffer` for a client's own buffer. -/
theorem check_strictlyInside_iff (entry : HeaderEntry) :
    ports.StrictlyInside (ports.check buffer entry) ↔ (ports.Compares buffer entry → ports.NotEnd buffer entry) := by
  have habove := ports.strictlyInside_checkAbove buffer
  have hatLeast := ports.strictlyInside_checkAtLeast buffer
  have hrefuse := ports.strictlyInside_refuse
  cases entry with
  | emptyThisBuffer => exact ports.emptyThisBuffer_strictlyInside_iff buffer
  | emptyThisBufferProxy =>
    unfold check emptyThisBufferProxy
    simp only [Compares, NotEnd]
    split
    next hrefused =>
      refine iff_of_true (hrefuse _) fun hcompares => ?_
      simp [hcompares.1, hcompares.2] at hrefused
    next hreached =>
      have hcompares : buffer.isNull = false ∧ buffer.hasInputPortPrivate = true := by simpa using hreached
      simp only [hcompares, and_self, true_implies]
      exact habove .inpMem
  | emptyBufferDone =>
    unfold check emptyBufferDone
    simp only [Compares, NotEnd]
    split
    next hnull => exact iff_of_true (hrefuse _) fun hcompares => absurd hnull (by simp [hcompares])
    next hsome =>
      simp only [Bool.not_eq_true] at hsome
      simp only [hsome, true_implies]
      exact habove .inpMem
  | fillThisBuffer =>
    refine iff_of_true ?_ fun _ => trivial
    unfold check fillThisBuffer
    split_ifs
    · exact hrefuse _
    · exact hrefuse _
    · exact hrefuse _
    · exact hatLeast _
  | fillThisBufferProxy =>
    unfold check fillThisBufferProxy
    simp only [Compares, NotEnd]
    split
    next hnull => exact iff_of_true (hrefuse _) fun hcompares => absurd hnull (by simp [hcompares])
    next hsome =>
      simp only [Bool.not_eq_true] at hsome
      have hcount : ports.actualcount ports.ilBufHdr = ports.opActualcount := by
        unfold ilBufHdr
        split <;> rfl
      simp only [hsome, true_implies]
      rw [habove, hcount]
  | fillBufferDone =>
    refine iff_of_true ?_ fun _ => trivial
    unfold check fillBufferDone
    split_ifs
    · exact hrefuse _
    · exact hatLeast _
  | handleDemuxData =>
    unfold check handleDemuxData
    simp only [Compares, NotEnd]
    split
    next hnone => exact iff_of_true (hrefuse _) fun hcompares => by simp [hcompares] at hnone
    next hsome =>
      simp only [Bool.not_eq_true', Bool.not_eq_false] at hsome
      simp only [hsome, true_implies]
      exact habove .inpMem

/-- The header behind the last one of four. -/
theorem check_not_strictlyInside :
    let ports : HeaderPorts := ⟨.executing, true, true, 4, 4, false, false, false, false⟩
    let buffer : HeaderPointer := ⟨false, fun _ => 4, 0, true⟩
    ¬ports.StrictlyInside (ports.check buffer .emptyThisBuffer) := by
  intro ports buffer hstrict
  have hlt : (4 : BitVec 32) < 4 := hstrict.1 .inpMem 4 rfl
  exact absurd hlt (by decide)

end HeaderPorts

end Nozomi
