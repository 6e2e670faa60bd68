import Nozomi.Base.Access
import Nozomi.Vdec.H264Utils.Extraction

/-!
# Where `extract_rbsp` reads and writes

`extract_rbsp` over a memory that goes on behind the buffer, with its accesses to the two arrays. In a buffer
that is long enough for what is read without a test, and for the NAL unit that a length field announces, it
stays in bounds.
-/

namespace Nozomi

inductive ExtractArray
  | buffer
  | rbspBistream
  deriving DecidableEq, Repr

namespace ExtractArray

def readBuffer (pos : Nat) : Access ExtractArray := ⟨buffer, pos⟩

def writeRbsp (pos : Nat) : Access ExtractArray := ⟨rbspBistream, pos⟩

end ExtractArray

open ExtractArray

def searchRun (buffer : Nat → UInt8) :
    (rounds : Nat) → (coef2 coef3 : UInt8) → (pos : Nat) → Option Nat × List (Access ExtractArray)
  | 0, _, _, _ => (none, [])
  | rounds + 1, coef2, coef3, pos =>
    if coef2 = 0 ∧ coef3 = 0 ∧ buffer pos = 1 then (some (pos + 1), [readBuffer pos])
    else
      let (start, accesses) := searchRun buffer rounds coef3 (buffer pos) (pos + 1)
      (start, readBuffer pos :: accesses)

/-- What the loop that copies the payload leaves: what it has written, the position of the next start code,
its accesses, and the values of `*rbsp_length` from which it has taken 2. -/
structure PayloadRun where
  rbsp : List UInt8
  leftAt : Option Nat
  accesses : List (Access ExtractArray)
  backOffs : List Nat

def PayloadRun.after (first : List (Access ExtractArray)) (run : PayloadRun) : PayloadRun :=
  { run with accesses := first ++ run.accesses }

def payloadRun (buffer : Nat → UInt8) (startCode : Bool) :
    (rounds zeroCount pos : Nat) → (rbsp : List UInt8) → PayloadRun
  | 0, _, _, rbsp => ⟨rbsp, none, [], []⟩
  | rounds + 1, zeroCount, pos, rbsp =>
    if zeroCount = 2 ∧ buffer pos = 3 then
      (payloadRun buffer startCode rounds 0 (pos + 1) rbsp).after [readBuffer pos]
    else if zeroCount = 2 ∧ buffer pos ≤ 1 ∧ startCode then
      ⟨rbsp, some (pos - 2), [readBuffer pos], [rbsp.length]⟩
    else
      let zeroCount := if zeroCount = 2 then 0 else zeroCount
      (payloadRun buffer startCode rounds (if buffer pos = 0 then zeroCount + 1 else 0) (pos + 1)
        (rbsp ++ [buffer pos])).after [readBuffer pos, writeRbsp rbsp.length]

/-- A call of `extract_rbsp` with its accesses. -/
structure ExtractRun where
  extraction : Extraction
  accesses : List (Access ExtractArray)
  backOffs : List Nat

def extractFrom (buffer : Nat → UInt8) (startCode : Bool) (limit : Nat) :
    Option Nat × List (Access ExtractArray) → ExtractRun
  | (none, accesses) => ⟨⟨false, none, [], 0⟩, accesses, []⟩
  | (some pos, accesses) =>
    if pos + 1 > limit then ⟨⟨false, none, [], 0⟩, accesses, []⟩
    else
      let nalu := Nalu.ofByte (buffer pos)
      if nalu.naluType = naluTypeEoseq ∨ nalu.naluType = naluTypeEostream then
        ⟨⟨limit % 256 ≠ 0, some nalu, [], 0⟩, accesses ++ [readBuffer pos], []⟩
      else
        let payload := payloadRun buffer startCode (limit - (pos + 1)) 0 (pos + 1) []
        ⟨⟨payload.leftAt.all (· % 256 ≠ 0), some nalu, payload.rbsp,
            if payload.leftAt.isSome then payload.rbsp.length - 2 else payload.rbsp.length⟩,
          accesses ++ readBuffer pos :: payload.accesses, payload.backOffs⟩

def lengthField (buffer : Nat → UInt8) (size : Nat) : List UInt8 := (List.range size).map buffer

def extractRbspRun (buffer : Nat → UInt8) (bufferLength sizeOfNalLengthField : Nat) : ExtractRun :=
  if sizeOfNalLengthField = 0 then
    let (start, accesses) := searchRun buffer (bufferLength - 2) (buffer 0) (buffer 1) 2
    extractFrom buffer true bufferLength (start, readBuffer 0 :: readBuffer 1 :: accesses)
  else
    let nalLen := nalLengthField (lengthField buffer sizeOfNalLengthField) sizeOfNalLengthField
    let accesses := (List.range sizeOfNalLengthField).map readBuffer
    extractFrom buffer false ((nalLen + sizeOfNalLengthField) % 2 ^ 32)
      (if nalLen ≥ bufferLength then none else some sizeOfNalLengthField, accesses)

/-! ### It is `extract_rbsp` -/

variable (buffer : Nat → UInt8)

def bytesFrom (pos count : Nat) : List UInt8 := (List.range' pos count).map buffer

theorem bytesFrom_succ (pos count : Nat) :
    bytesFrom buffer pos (count + 1) = buffer pos :: bytesFrom buffer (pos + 1) count := by
  rw [bytesFrom, List.range'_succ, List.map_cons, bytesFrom]

theorem searchRun_fst (rounds : Nat) (coef2 coef3 : UInt8) (pos : Nat) :
    (searchRun buffer rounds coef2 coef3 pos).1 =
      findStartCode coef2 coef3 pos (bytesFrom buffer pos rounds) := by
  induction rounds generalizing coef2 coef3 pos with
  | zero => rfl
  | succ rounds ih =>
    rw [searchRun, bytesFrom_succ, findStartCode]
    split
    · rfl
    · exact ih coef3 (buffer pos) (pos + 1)

theorem payloadRun_rbsp (startCode : Bool) (rounds zeroCount pos : Nat) (rbsp : List UInt8) :
    ((payloadRun buffer startCode rounds zeroCount pos rbsp).rbsp,
        (payloadRun buffer startCode rounds zeroCount pos rbsp).leftAt) =
      extractLoop startCode zeroCount pos rbsp (bytesFrom buffer pos rounds) := by
  induction rounds generalizing zeroCount pos rbsp with
  | zero => rfl
  | succ rounds ih =>
    rw [payloadRun, bytesFrom_succ, extractLoop]
    split
    · exact ih 0 (pos + 1) rbsp
    · split
      · rfl
      · exact ih _ (pos + 1) (rbsp ++ [buffer pos])

theorem bytesFrom_getD {pos count index : Nat} (hindex : index < count) :
    (bytesFrom buffer pos count).getD index 0 = buffer (pos + index) := by
  have hlength : index < (bytesFrom buffer pos count).length := by simpa [bytesFrom] using hindex
  rw [List.getD_eq_getElem _ _ hlength]
  simp [bytesFrom]

theorem bytesFrom_window {pos count start limit : Nat} (hlimit : limit ≤ count) :
    ((bytesFrom buffer pos count).take limit).drop start = bytesFrom buffer (pos + start) (limit - start) := by
  rw [bytesFrom, ← List.map_take, ← List.map_drop, List.take_range'_of_length_ge hlimit, List.drop_range',
    Nat.mul_one, bytesFrom]

theorem lengthField_eq (size : Nat) : lengthField buffer size = bytesFrom buffer 0 size := by
  rw [lengthField, bytesFrom, List.range_eq_range']

theorem nalLengthField_bytesFrom {size count : Nat} (hsize : size ≤ count) :
    nalLengthField (bytesFrom buffer 0 count) size = nalLengthField (lengthField buffer size) size := by
  rw [nalLengthField, nalLengthField]
  apply List.foldl_ext
  intro length pos hpos
  have hpos := List.mem_range.mp hpos
  rw [lengthField_eq, bytesFrom_getD buffer (Nat.lt_of_lt_of_le hpos hsize), bytesFrom_getD buffer hpos]

/-- Run access by access over a memory that goes on behind the buffer, `extract_rbsp` gives what the extraction of
the first bytes gives. -/
theorem extractRbspRun_extraction (bufferLength sizeOfNalLengthField : Nat)
    (hroom : bufferLength + sizeOfNalLengthField < 2 ^ 32) :
    (extractRbspRun buffer bufferLength sizeOfNalLengthField).extraction =
      extractRbsp (bytesFrom buffer 0 (bufferLength + sizeOfNalLengthField)) bufferLength
        sizeOfNalLengthField := by
  generalize hbytes : bytesFrom buffer 0 (bufferLength + sizeOfNalLengthField) = bytes
  -- From the header on, with the payload in front of `limit`.
  have hfrom : ∀ (startCode : Bool) (limit pos : Nat) (accesses : List (Access ExtractArray)),
      limit ≤ bufferLength + sizeOfNalLengthField →
      (extractFrom buffer startCode limit (some pos, accesses)).extraction =
        if pos + 1 > limit then ⟨false, none, [], 0⟩
        else if (Nalu.ofByte (bytes.getD pos 0)).naluType = naluTypeEoseq ∨
            (Nalu.ofByte (bytes.getD pos 0)).naluType = naluTypeEostream then
          ⟨limit % 256 ≠ 0, some (Nalu.ofByte (bytes.getD pos 0)), [], 0⟩
        else .ofPayload startCode (pos + 1) (Nalu.ofByte (bytes.getD pos 0))
          ((bytes.take limit).drop (pos + 1)) := by
    intro startCode limit pos accesses hlimit
    rw [extractFrom]
    by_cases hpast : pos + 1 > limit
    · rw [if_pos hpast, if_pos hpast]
    have hheader : bytes.getD pos 0 = buffer pos := by
      rw [← hbytes, bytesFrom_getD buffer (by omega), Nat.zero_add]
    have hpayload := payloadRun_rbsp buffer startCode (limit - (pos + 1)) 0 (pos + 1) []
    have hwindow : (bytes.take limit).drop (pos + 1) =
        bytesFrom buffer (pos + 1) (limit - (pos + 1)) := by
      rw [← hbytes, bytesFrom_window buffer hlimit, Nat.zero_add]
    rw [if_neg hpast, if_neg hpast, hheader, hwindow, Extraction.ofPayload, ← hpayload]
    dsimp only
    split <;> rfl
  rw [extractRbspRun, extractRbsp]
  by_cases hmode : sizeOfNalLengthField = 0
  · subst hmode
    have hsearch : findStartCode (bytes.getD 0 0) (bytes.getD 1 0) 2 ((bytes.take bufferLength).drop 2) =
        (searchRun buffer (bufferLength - 2) (buffer 0) (buffer 1) 2).1 := by
      rw [searchRun_fst, ← hbytes, bytesFrom_window buffer (Nat.le_add_right _ _)]
      by_cases hshort : bufferLength ≤ 2
      · rw [Nat.sub_eq_zero_of_le hshort]
        rfl
      · rw [bytesFrom_getD buffer (by omega), bytesFrom_getD buffer (by omega)]
    simp only [if_true, decide_true, hsearch]
    cases hstart : (searchRun buffer (bufferLength - 2) (buffer 0) (buffer 1) 2).1 with
    | none => rfl
    | some pos =>
      rw [hfrom true bufferLength pos _ (Nat.le_add_right _ _)]
      rfl
  · have hlength : nalLengthField bytes sizeOfNalLengthField =
        nalLengthField (lengthField buffer sizeOfNalLengthField) sizeOfNalLengthField := by
      rw [← hbytes, nalLengthField_bytesFrom buffer (Nat.le_add_left _ _)]
    simp only [if_neg hmode, decide_eq_false hmode, Bool.false_eq_true, if_false, hlength]
    generalize nalLengthField (lengthField buffer sizeOfNalLengthField) sizeOfNalLengthField = nalLen
    by_cases hpast : nalLen ≥ bufferLength
    · simp only [if_pos hpast]
      rfl
    · simp only [if_neg hpast]
      rw [Nat.mod_eq_of_lt (by omega), hfrom false (nalLen + sizeOfNalLengthField) _ _ (by omega)]
      rfl

/-- The NAL unit of the length field runs behind the buffer. -/
theorem extractRbspRun_extraction_behind :
    (extractRbspRun (fun pos => [0, 2, 0x61, 0x88].getD pos 0) 3 2).extraction =
        extractRbsp (bytesFrom (fun pos => [0, 2, 0x61, 0x88].getD pos 0) 0 5) 3 2 ∧
      ¬InBounds (fun _ => 3) (extractRbspRun (fun pos => [0, 2, 0x61, 0x88].getD pos 0) 3 2).accesses :=
  ⟨extractRbspRun_extraction _ 3 2 (by decide), by decide⟩

/-! ### Its bounds -/

def extractSize (bufferLength : Nat) : ExtractArray → Nat := fun _ => bufferLength

/-- Accesses stay in bounds and `*rbsp_length` does not wrap. -/
structure ExtractRun.Safe (run : ExtractRun) (bufferLength : Nat) : Prop where
  inBounds : InBounds (extractSize bufferLength) run.accesses
  backOffs : ∀ rbspLength ∈ run.backOffs, 2 ≤ rbspLength

/-- What is read without a test is in the buffer: two bytes for a start code, or the length field, and with
it the NAL unit that it announces, if that does not seem longer than the buffer and is no end of sequence or
stream. -/
def ExtractFits (bufferLength size : Nat) : Prop :=
  if size = 0 then 2 ≤ bufferLength
  else size ≤ bufferLength ∧
    (bufferLength ≤ bigEndian (lengthField buffer size) ∨
      (bigEndian (lengthField buffer size) + size) % 2 ^ 32 ≤ bufferLength ∨
      size < bufferLength ∧ ¬(Nalu.ofByte (buffer size)).HasPayload)

section

variable {buffer : Nat → UInt8} {bufferLength : Nat}

theorem inBounds_readBuffer (pos : Nat) (accesses : List (Access ExtractArray)) :
    InBounds (extractSize bufferLength) (readBuffer pos :: accesses) ↔
      pos < bufferLength ∧ InBounds (extractSize bufferLength) accesses := by
  rw [inBounds_cons]
  simp [readBuffer, extractSize]

theorem inBounds_writeRbsp (pos : Nat) (accesses : List (Access ExtractArray)) :
    InBounds (extractSize bufferLength) (writeRbsp pos :: accesses) ↔
      pos < bufferLength ∧ InBounds (extractSize bufferLength) accesses := by
  rw [inBounds_cons]
  simp [writeRbsp, extractSize]

theorem inBounds_lengthField (size : Nat) :
    InBounds (extractSize bufferLength) ((List.range size).map readBuffer) ↔ size ≤ bufferLength := by
  induction size with
  | zero => simp
  | succ size ih =>
    rw [List.range_succ, List.map_append, inBounds_append, ih, List.map_singleton, inBounds_readBuffer]
    simp only [inBounds_nil, and_true]
    omega

theorem searchRun_inBounds {rounds pos : Nat} (coef2 coef3 : UInt8) (hend : pos + rounds ≤ bufferLength) :
    InBounds (extractSize bufferLength) (searchRun buffer rounds coef2 coef3 pos).2 ∧
      ∀ start ∈ (searchRun buffer rounds coef2 coef3 pos).1, start ≤ bufferLength := by
  induction rounds generalizing coef2 coef3 pos with
  | zero => exact ⟨inBounds_nil, nofun⟩
  | succ rounds ih =>
    rw [searchRun]
    split
    · refine ⟨(inBounds_readBuffer pos _).mpr ⟨by omega, inBounds_nil⟩, ?_⟩
      rintro start ⟨⟩
      omega
    · have hrest : pos + 1 + rounds ≤ bufferLength := by omega
      obtain ⟨hbounds, hstart⟩ := ih coef3 (buffer pos) hrest
      exact ⟨(inBounds_readBuffer pos _).mpr ⟨by omega, hbounds⟩, hstart⟩

theorem payloadRun_backOffs (startCode : Bool) {rounds zeroCount pos : Nat} {rbsp : List UInt8}
    (hzeros : zeroCount ≤ rbsp.length) :
    ∀ rbspLength ∈ (payloadRun buffer startCode rounds zeroCount pos rbsp).backOffs, 2 ≤ rbspLength := by
  induction rounds generalizing zeroCount pos rbsp with
  | zero => exact nofun
  | succ rounds ih =>
    rw [payloadRun]
    split
    · exact ih (Nat.zero_le _)
    split
    · rename_i hleaves
      intro rbspLength hback
      rw [List.mem_singleton.mp hback, ← hleaves.1]
      exact hzeros
    · apply ih
      rw [List.length_append, List.length_singleton]
      split
      · split <;> omega
      · exact Nat.zero_le _

theorem payloadRun_lengthField_backOffs (rounds zeroCount pos : Nat) (rbsp : List UInt8) :
    (payloadRun buffer false rounds zeroCount pos rbsp).backOffs = [] := by
  induction rounds generalizing zeroCount pos rbsp with
  | zero => rfl
  | succ rounds ih =>
    rw [payloadRun, if_neg (c := zeroCount = 2 ∧ buffer pos ≤ 1 ∧ false = true) (by simp)]
    split
    · exact ih _ _ _
    · exact ih _ _ _

theorem payloadRun_inBounds (startCode : Bool) {rounds zeroCount pos : Nat} {rbsp : List UInt8}
    (hwritten : rbsp.length ≤ pos) (hend : pos + rounds ≤ bufferLength) :
    InBounds (extractSize bufferLength)
      (payloadRun buffer startCode rounds zeroCount pos rbsp).accesses := by
  induction rounds generalizing zeroCount pos rbsp with
  | zero => exact inBounds_nil
  | succ rounds ih =>
    rw [payloadRun]
    split
    · have hbehind : rbsp.length ≤ pos + 1 := by omega
      exact (inBounds_readBuffer pos _).mpr ⟨by omega, ih hbehind (by omega)⟩
    · split
      · exact (inBounds_readBuffer pos _).mpr ⟨by omega, inBounds_nil⟩
      · have hgrown : (rbsp ++ [buffer pos]).length ≤ pos + 1 := by simpa using hwritten
        refine (inBounds_readBuffer pos _).mpr ⟨by omega, ?_⟩
        refine (inBounds_writeRbsp rbsp.length _).mpr ⟨by omega, ?_⟩
        exact ih hgrown (by omega)

theorem le_of_payloadRun_inBounds {rounds zeroCount pos : Nat} {rbsp : List UInt8}
    (hbefore : pos ≤ bufferLength) (hbounds : InBounds (extractSize bufferLength)
      (payloadRun buffer false rounds zeroCount pos rbsp).accesses) : pos + rounds ≤ bufferLength := by
  induction rounds generalizing zeroCount pos rbsp with
  | zero => exact hbefore
  | succ rounds ih =>
    rw [payloadRun] at hbounds
    rw [Nat.add_comm rounds, ← Nat.add_assoc]
    split at hbounds
    · obtain ⟨hread, hrest⟩ := (inBounds_readBuffer pos _).mp hbounds
      exact ih hread hrest
    · split at hbounds
      · rename_i hleaves
        exact absurd hleaves.2.2 Bool.false_ne_true
      · obtain ⟨hread, hrest⟩ := (inBounds_readBuffer pos _).mp hbounds
        exact ih hread ((inBounds_writeRbsp rbsp.length _).mp hrest).2

theorem extractFrom_accesses (startCode : Bool) (limit : Nat) (start : Option Nat)
    (accesses : List (Access ExtractArray))
    (hbounds : InBounds (extractSize bufferLength)
      (extractFrom buffer startCode limit (start, accesses)).accesses) :
    InBounds (extractSize bufferLength) accesses := by
  cases start with
  | none => exact hbounds
  | some pos =>
    rw [extractFrom] at hbounds
    split at hbounds
    · exact hbounds
    · dsimp only at hbounds
      split at hbounds
      · exact ((inBounds_append _ _).mp hbounds).1
      · exact ((inBounds_append _ _).mp hbounds).1

theorem extractFrom_safe_startCode {start : Option Nat} {accesses : List (Access ExtractArray)}
    (haccesses : InBounds (extractSize bufferLength) accesses) :
    (extractFrom buffer true bufferLength (start, accesses)).Safe bufferLength := by
  cases start with
  | none => exact ⟨haccesses, nofun⟩
  | some pos =>
    rw [extractFrom]
    split
    · exact ⟨haccesses, nofun⟩
    rename_i hbefore
    dsimp only
    split
    · have hheader : InBounds (extractSize bufferLength) [readBuffer pos] :=
        (inBounds_readBuffer pos _).mpr ⟨by omega, inBounds_nil⟩
      exact ⟨(inBounds_append _ _).mpr ⟨haccesses, hheader⟩, nofun⟩
    · refine ⟨?_, payloadRun_backOffs true (Nat.zero_le _)⟩
      refine (inBounds_append _ _).mpr ⟨haccesses, (inBounds_readBuffer pos _).mpr ⟨by omega, ?_⟩⟩
      exact payloadRun_inBounds true (Nat.zero_le _) (by omega)

theorem extractFrom_safe_lengthField {limit pos : Nat} {accesses : List (Access ExtractArray)} :
    (extractFrom buffer false limit (some pos, accesses)).Safe bufferLength ↔
      InBounds (extractSize bufferLength) accesses ∧
        (limit ≤ pos ∨ limit ≤ bufferLength ∨
          pos < bufferLength ∧ ¬(Nalu.ofByte (buffer pos)).HasPayload) := by
  rw [extractFrom]
  split
  · rename_i hpast
    constructor
    · intro hsafe
      exact ⟨hsafe.inBounds, .inl (by omega)⟩
    · rintro ⟨haccesses, -⟩
      exact ⟨haccesses, nofun⟩
  rename_i hbefore
  dsimp only
  rw [Nalu.not_hasPayload_iff]
  split
  · rename_i hends
    constructor
    · intro hsafe
      obtain ⟨haccesses, hrest⟩ := (inBounds_append _ _).mp hsafe.inBounds
      exact ⟨haccesses, .inr (.inr ⟨((inBounds_readBuffer pos _).mp hrest).1, hends⟩)⟩
    · rintro ⟨haccesses, hfits⟩
      have hheader : InBounds (extractSize bufferLength) [readBuffer pos] :=
        (inBounds_readBuffer pos _).mpr ⟨by omega, inBounds_nil⟩
      exact ⟨(inBounds_append _ _).mpr ⟨haccesses, hheader⟩, nofun⟩
  · rename_i hends
    constructor
    · intro hsafe
      obtain ⟨haccesses, hrest⟩ := (inBounds_append _ _).mp hsafe.inBounds
      obtain ⟨hheader, hpayload⟩ := (inBounds_readBuffer pos _).mp hrest
      have hend := le_of_payloadRun_inBounds hheader hpayload
      exact ⟨haccesses, .inr (.inl (by omega))⟩
    · rintro ⟨haccesses, hfits⟩
      have hend : limit ≤ bufferLength := by
        rcases hfits with hfits | hfits | hfits
        · omega
        · exact hfits
        · exact absurd hfits.2 hends
      refine ⟨?_, ?_⟩
      · refine (inBounds_append _ _).mpr ⟨haccesses, (inBounds_readBuffer pos _).mpr ⟨by omega, ?_⟩⟩
        exact payloadRun_inBounds false (Nat.zero_le _) (by omega)
      · rw [payloadRun_lengthField_backOffs]
        exact nofun

end

/-- `extract_rbsp` reads and writes within the length of the buffer, and `*rbsp_length` does not wrap, if and
only if the buffer is long enough for what is read without a test. -/
theorem extractRbspRun_safe {bufferLength sizeOfNalLengthField : Nat} (hsize : sizeOfNalLengthField ≤ 4) :
    (extractRbspRun buffer bufferLength sizeOfNalLengthField).Safe bufferLength ↔
      ExtractFits buffer bufferLength sizeOfNalLengthField := by
  rw [extractRbspRun, ExtractFits]
  by_cases hmode : sizeOfNalLengthField = 0
  · rw [if_pos hmode, if_pos hmode]
    dsimp only
    constructor
    · intro hsafe
      have hreads := extractFrom_accesses true bufferLength _ _ hsafe.inBounds
      obtain ⟨-, hreads⟩ := (inBounds_readBuffer 0 _).mp hreads
      exact ((inBounds_readBuffer 1 _).mp hreads).1
    · intro hroom
      apply extractFrom_safe_startCode
      have hend : 2 + (bufferLength - 2) ≤ bufferLength := by omega
      have hsearch := @searchRun_inBounds buffer _ _ _ (buffer 0) (buffer 1) hend
      exact (inBounds_readBuffer 0 _).mpr ⟨by omega, (inBounds_readBuffer 1 _).mpr ⟨hroom, hsearch.1⟩⟩
  · rw [if_neg hmode, if_neg hmode]
    have hvalue : nalLengthField (lengthField buffer sizeOfNalLengthField) sizeOfNalLengthField =
        bigEndian (lengthField buffer sizeOfNalLengthField) := by
      have hlength : (lengthField buffer sizeOfNalLengthField).length = sizeOfNalLengthField := by
        simp [lengthField]
      rw [nalLengthField_eq hsize hlength.ge, List.take_of_length_le hlength.le]
    dsimp only
    rw [hvalue]
    split
    · rename_i hlong
      rw [← @inBounds_lengthField bufferLength]
      constructor
      · intro hsafe
        exact ⟨hsafe.inBounds, .inl hlong⟩
      · rintro ⟨hbounds, -⟩
        exact ⟨hbounds, nofun⟩
    · rename_i hshort
      rw [extractFrom_safe_lengthField, inBounds_lengthField]
      generalize (bigEndian (lengthField buffer sizeOfNalLengthField) + sizeOfNalLengthField) % 2 ^ 32 = limit
      constructor
      · rintro ⟨hfield, hfits | hfits⟩
        · exact ⟨hfield, .inr (.inl (by omega))⟩
        · exact ⟨hfield, .inr hfits⟩
      · rintro ⟨hfield, hfits | hfits⟩
        · exact absurd hfits hshort
        · exact ⟨hfield, .inr hfits⟩

/-- A slice behind a length field of two bytes. -/
theorem extractRbspRun_safe_slice :
    2 ≤ 4 ∧ ((extractRbspRun (fun pos => [0, 2, 0x65, 0x88].getD pos 0) 4 2).Safe 4 ↔
      ExtractFits (fun pos => [0, 2, 0x65, 0x88].getD pos 0) 4 2) :=
  ⟨by decide, extractRbspRun_safe _ (by decide)⟩

/-- An empty buffer is read. -/
theorem extractRbspRun_not_safe :
    ¬∀ (buffer : Nat → UInt8) (bufferLength sizeOfNalLengthField : Nat), sizeOfNalLengthField ≤ 4 →
      (extractRbspRun buffer bufferLength sizeOfNalLengthField).Safe bufferLength := by
  intro hsafe
  have hbounds := (hsafe (fun _ => 0) 0 0 (by decide)).inBounds
  revert hbounds
  decide

end Nozomi
