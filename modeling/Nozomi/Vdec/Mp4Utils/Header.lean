import Nozomi.Base.EarlyExit
import Nozomi.Vdec.Mp4Utils.NotCodedVops
import Nozomi.Vdec.Mp4Utils.StartCodes

/-!
# Headers of video object layers

`parseHeader` goes from start code to start code and reads the fields of the layer up to its time resolution. Each
search goes over as many bytes as the data has, wherever it begins, and each field is taken from a word of four bytes.
-/

namespace Nozomi

namespace Mp4Utils

/-- The parser reads outside of the data, or returns `false`. -/
inductive HeaderExit where
  | outside
  | rejected
  deriving DecidableEq, Repr

structure PosInfo where
  bitPos : Nat
  bytePtr : Nat
  deriving DecidableEq, Repr

abbrev HeaderReader := EStateM HeaderExit PosInfo

def PosInfo.normalize (pos : PosInfo) : PosInfo :=
  whileLoop (fun pos => decide (8 ≤ pos.bitPos)) (fun pos => ⟨pos.bitPos - 8, pos.bytePtr + 1⟩) (pos.bitPos / 8) pos

def readBitField (data : List UInt8) (size : Nat) : HeaderReader Nat := do
  let pos ← get
  match data.drop pos.bytePtr with
  | first :: second :: third :: fourth :: _ =>
    let bitBuf := first.toNat <<< 24 ||| second.toNat <<< 16 ||| third.toNat <<< 8 ||| fourth.toNat
    set ({ pos with bitPos := pos.bitPos + size } : PosInfo).normalize
    pure ((bitBuf >>> (32 - pos.bitPos - size)) &&& (0xFFFFFFFF >>> (32 - size)))
  | _ => throw .outside

def seekCode (data : List UInt8) (size : Nat) (codeMask referenceCode : BitVec 32) : HeaderReader Bool := do
  let pos ← get
  match findCode data pos.bytePtr size codeMask referenceCode with
  | none => throw .outside
  | some none => pure false
  | some (some bytePtr) =>
    set { pos with bytePtr := bytePtr }
    pure true

def require (condition : Prop) [Decidable condition] : HeaderReader PUnit :=
  if condition then pure ⟨⟩ else throw .rejected

def skipFields (data : List UInt8) (condition : Prop) [Decidable condition] (first second : Nat) :
    HeaderReader PUnit :=
  if condition then do
    let _ ← readBitField data first
    let _ ← readBitField data second
    pure ⟨⟩
  else pure ⟨⟩

def readMarker (data : List UInt8) : HeaderReader PUnit := do
  let markerBit ← readBitField data 1
  require (markerBit = 1)

def rejectCode (data : List UInt8) (referenceCode : BitVec 32) : HeaderReader PUnit := do
  set (⟨0, 0⟩ : PosInfo)
  let found ← seekCode data 4 0xFFFFFFFF referenceCode
  require (found = false)

def parseSequence (data : List UInt8) : HeaderReader PUnit := do
  set (⟨0, 0⟩ : PosInfo)
  let found ← seekCode data data.length 0xFFFFFFFF 0x1B0
  if found then do
    -- profile_and_level_indication
    let _ ← readBitField data 8
    pure ⟨⟩
  else set (⟨0, 0⟩ : PosInfo)

def parseVisualObject (data : List UInt8) : HeaderReader PUnit := do
  let found ← seekCode data data.length 0xFFFFFFFF 0x1B5
  if found then do
    let identifier ← readBitField data 1
    skipFields data (identifier ≠ 0) 4 3
    let visualObjectType ← readBitField data 4
    require (visualObjectType = 1)
    let found ← seekCode data data.length 0xFFFFFFE0 0x100
    require (found = true)
  else set (⟨0, 0⟩ : PosInfo)

def seekLayer (data : List UInt8) : HeaderReader PUnit := do
  modify fun pos => { pos with bitPos := 0 }
  let found ← seekCode data data.length 0xFFFFFFF0 0x120
  if found then pure ⟨⟩ else set (⟨0, 0⟩ : PosInfo)

def objectTypes : List Nat := [0x1, 0x2, 0x3, 0x11, 0x0, 0x4]

def parseVbvParameters (data : List UInt8) : HeaderReader PUnit := do
  let _ ← readBitField data 15
  readMarker data
  let _ ← readBitField data 15
  readMarker data
  let _ ← readBitField data 15
  readMarker data
  let _ ← readBitField data 3
  let _ ← readBitField data 11
  readMarker data
  let _ ← readBitField data 15
  readMarker data

def parseControlParameters (data : List UInt8) : HeaderReader PUnit := do
  let volControlParameters ← readBitField data 1
  if volControlParameters ≠ 0 then do
    let chromaFormat ← readBitField data 2
    require (chromaFormat = 1)
    let _ ← readBitField data 1
    let vbvParameters ← readBitField data 1
    if vbvParameters ≠ 0 then parseVbvParameters data else pure ⟨⟩
  else pure ⟨⟩

def parseResolution (data : List UInt8) : HeaderReader Nat := do
  let shape ← readBitField data 2
  require (shape = 0)
  readMarker data
  readBitField data 16

def parseLayer (data : List UInt8) : HeaderReader Nat := do
  let _ ← readBitField data 1
  let objectType ← readBitField data 8
  require (objectType ∈ objectTypes)
  let identifier ← readBitField data 1
  skipFields data (identifier ≠ 0) 4 3
  let aspectRatioInfo ← readBitField data 4
  skipFields data (aspectRatioInfo = 15) 8 8
  parseControlParameters data
  parseResolution data

def readHeader (data : List UInt8) : HeaderReader Nat := do
  rejectCode data 0x1B6
  rejectCode data 0x1B3
  parseSequence data
  parseVisualObject data
  seekLayer data
  parseLayer data

def parseHeader (utils : Mp4Utils) (data : List UInt8) : Option (Bool × Mp4Utils) :=
  match readHeader data ⟨0, 0⟩ with
  | .ok resolution _ => some (true, ⟨BitVec.ofNat 32 resolution, true⟩)
  | .error .rejected _ => some (false, utils)
  | .error .outside _ => none

/-! ### Positions and fields -/

def bitAt (position : Nat) : PosInfo := ⟨position % 8, position / 8⟩

def fieldAt (data : List UInt8) (position size : Nat) : Nat := bitsValue (((bytesBits data).drop position).take size)

/-- The word of four bytes for a field that begins at the position lies in the data. -/
def WordInside (data : List UInt8) (position : Nat) : Prop := position / 8 + 4 ≤ data.length

instance (data : List UInt8) (position : Nat) : Decidable (WordInside data position) :=
  inferInstanceAs (Decidable (_ ≤ _))

/-- The computation makes no read outside, and a condition holds where it goes on. -/
def Stays {α : Type} (code : HeaderReader α) (post : α → PosInfo → Prop) (pos : PosInfo) : Prop :=
  Ends code post (fun exit _ => exit ≠ .outside) pos

theorem normalize_eq (bytes : Nat) :
    ∀ bitPos bytePtr, bitPos / 8 = bytes →
      (⟨bitPos, bytePtr⟩ : PosInfo).normalize = ⟨bitPos % 8, bytePtr + bytes⟩ := by
  unfold PosInfo.normalize
  induction bytes with
  | zero =>
    intro bitPos bytePtr hbytes
    have hlast : bitPos < 8 := by omega
    dsimp only
    rw [hbytes, whileLoop, Nat.mod_eq_of_lt hlast]
    rfl
  | succ bytes ih =>
    intro bitPos bytePtr hbytes
    have hmore : 8 ≤ bitPos := by omega
    have hnext := ih (bitPos - 8) (bytePtr + 1) (by omega)
    dsimp only at hnext ⊢
    rw [show (bitPos - 8) / 8 = bytes by omega] at hnext
    rw [hbytes, whileLoop, if_pos (decide_eq_true hmore), hnext, PosInfo.mk.injEq]
    omega

theorem normalize_bitAt (position size : Nat) :
    ({ bitAt position with bitPos := (bitAt position).bitPos + size } : PosInfo).normalize =
      bitAt (position + size) := by
  have hloop := normalize_eq _ (position % 8 + size) (position / 8) rfl
  rw [bitAt, bitAt, hloop, PosInfo.mk.injEq]
  omega

theorem drop_bytesBits (data : List UInt8) (count : Nat) :
    (bytesBits data).drop (8 * count) = bytesBits (data.drop count) := by
  by_cases hcount : count ≤ data.length
  · conv_lhs => rw [← List.take_append_drop count data]
    rw [bytesBits_append, List.drop_left' (by rw [bytesBits_length, List.length_take, Nat.min_eq_left hcount])]
  · rw [List.drop_eq_nil_of_le (by rw [bytesBits_length]; omega), List.drop_eq_nil_of_le (by omega), bytesBits_nil]

theorem fieldAt_eq {data rest : List UInt8} {position size : Nat} {first second third fourth : UInt8}
    (hdata : data.drop (position / 8) = first :: second :: third :: fourth :: rest) (hsize : position % 8 + size ≤ 32) :
    fieldAt data position size =
      ((first.toNat <<< 24 ||| second.toNat <<< 16 ||| third.toNat <<< 8 ||| fourth.toNat) >>>
        (32 - position % 8 - size)) % 2 ^ size := by
  have hword : first.toNat <<< 24 ||| second.toNat <<< 16 ||| third.toNat <<< 8 ||| fourth.toNat =
      bitsValue (bytesBits [first, second, third, fourth]) := by
    have hsecond := shifted_or_byte first.toNat second 16
    have hthird := shifted_or_byte (first.toNat * 256 + second.toNat) third 8
    have hfourth := shifted_or_byte ((first.toNat * 256 + second.toNat) * 256 + third.toNat) fourth 0
    rw [Nat.shiftLeft_zero, Nat.pow_zero, Nat.mul_one] at hfourth
    rw [Nat.shiftLeft_eq first.toNat, hsecond, hthird, hfourth]
    simp only [bytesBits_cons, bytesBits_nil, bitsValue_append, bitsValue_byteBits, List.length_append, byteBits_length,
      List.length_nil, bitsValue_nil]
    omega
  have hbits : bytesBits [first, second, third, fourth] =
      natBits 32 (bitsValue (bytesBits [first, second, third, fourth])) :=
    (natBits_bitsValue (bytesBits [first, second, third, fourth])).symm
  have hposition : position = 8 * (position / 8) + position % 8 := (Nat.div_add_mod position 8).symm
  have hdrop : ((bytesBits data).drop position).take size =
      ((bytesBits [first, second, third, fourth]).drop (position % 8)).take size := by
    conv_lhs => rw [hposition]
    rw [← List.drop_drop, drop_bytesBits, hdata,
      show first :: second :: third :: fourth :: rest = [first, second, third, fourth] ++ rest from rfl,
      bytesBits_append, List.drop_append_of_le_length (by rw [bytesBits_length, List.length_cons]; simp; omega),
      List.take_append_of_le_length (by rw [List.length_drop, bytesBits_length]; simp; omega)]
  rw [fieldAt, hdrop, hbits, natBits_window _ hsize, bitsValue_natBits, hword]

section

variable {data : List UInt8} {position size : Nat}

theorem stays_readBitField (hsize : size ≤ 25) {post : Nat → PosInfo → Prop} :
    Stays (readBitField data size) post (bitAt position) ↔
      WordInside data position ∧ post (fieldAt data position size) (bitAt (position + size)) := by
  unfold Stays readBitField
  rw [ends_bind, ends_get]
  change Ends (match data.drop (position / 8) with
    | first :: second :: third :: fourth :: _ => _
    | _ => _) _ _ _ ↔ _
  by_cases hinside : WordInside data position
  · rw [and_iff_right hinside]
    have hmask : ∀ size ≤ 25, 0xFFFFFFFF >>> (32 - size) = 2 ^ size - 1 := by decide
    have hlength : (data.drop (position / 8)).length = data.length - position / 8 := List.length_drop
    rw [WordInside] at hinside
    match hdrop : data.drop (position / 8) with
    | [] | [_] | [_, _] | [_, _, _] =>
      rw [hdrop] at hlength
      simp at hlength
      omega
    | first :: second :: third :: fourth :: rest =>
      dsimp only
      rw [ends_bind, ends_set, ends_pure, normalize_bitAt, hmask size hsize, Nat.and_two_pow_sub_one_eq_mod,
        fieldAt_eq hdrop (by omega)]
      rfl
  · refine iff_of_false (fun hends => ?_) fun h => hinside h.1
    have hlength : (data.drop (position / 8)).length = data.length - position / 8 := List.length_drop
    rw [WordInside] at hinside
    match hdrop : data.drop (position / 8) with
    | [] | [_] | [_, _] | [_, _, _] =>
      rw [hdrop] at hends
      exact hends rfl
    | first :: second :: third :: fourth :: rest =>
      rw [hdrop] at hlength
      simp at hlength
      omega

end

end Mp4Utils

end Nozomi
