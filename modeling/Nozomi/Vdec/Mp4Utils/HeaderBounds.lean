import Nozomi.Vdec.Mp4Utils.Header

/-!
# Headers that are read inside of the data

Each field needs the four bytes from its first bit on, so the last field that is read decides. A search from the start
of the data ends with it; one behind an earlier code must find its code.
-/

namespace Nozomi

namespace Mp4Utils

section

variable {data : List UInt8} {position : Nat} {α β : Type}

theorem stays_pure {value : α} {post : α → PosInfo → Prop} {pos : PosInfo} :
    Stays (pure value) post pos ↔ post value pos := Iff.rfl

theorem stays_bind {code : HeaderReader α} {next : α → HeaderReader β} {post : β → PosInfo → Prop} {pos : PosInfo} :
    Stays (code >>= next) post pos ↔ Stays code (fun value => Stays (next value) post) pos :=
  ends_bind code next

theorem stays_ite {condition : Prop} [Decidable condition] {first second : HeaderReader α}
    {post : α → PosInfo → Prop} {pos : PosInfo} :
    Stays (if condition then first else second) post pos ↔
      (condition → Stays first post pos) ∧ (¬condition → Stays second post pos) :=
  ends_ite first second

variable {post : PUnit → PosInfo → Prop}

theorem stays_require {condition : Prop} [Decidable condition] {pos : PosInfo} :
    Stays (require condition) post pos ↔ (condition → post ⟨⟩ pos) := by
  unfold Stays require
  rw [ends_ite, ends_pure, ends_throw]
  exact and_iff_left fun _ => nofun

theorem stays_readMarker :
    Stays (readMarker data) post (bitAt position) ↔
      WordInside data position ∧ (fieldAt data position 1 = 1 → post ⟨⟩ (bitAt (position + 1))) := by
  rw [readMarker, stays_bind, stays_readBitField (by decide), stays_require]

theorem stays_skipFields {condition : Prop} [Decidable condition] {first second : Nat} (hfirst : first ≤ 25)
    (hsecond : second ≤ 25) :
    Stays (skipFields data condition first second) post (bitAt position) ↔
      (condition → WordInside data position ∧ WordInside data (position + first)) ∧
        post ⟨⟩ (bitAt (position + if condition then first + second else 0)) := by
  unfold skipFields
  split
  next hcondition =>
    rw [stays_bind, stays_readBitField hfirst, stays_bind, stays_readBitField hsecond, stays_pure, forall_prop_of_true
      hcondition, Nat.add_assoc, and_assoc]
  next hcondition =>
    rw [stays_pure, Nat.add_zero]
    exact (and_iff_right fun h => absurd h hcondition).symm

theorem WordInside.mono {earlier : Nat} (hinside : WordInside data position) (hle : earlier ≤ position) :
    WordInside data earlier := by
  unfold WordInside at *
  omega

end

/-! ### The last field -/

section

variable (data : List UInt8) (position : Nat)

def lastInResolution : Nat :=
  if fieldAt data position 2 ≠ 0 then position
  else if fieldAt data (position + 2) 1 ≠ 1 then position + 2
  else position + 3

def vbvMarkers : List Nat := [15, 31, 47, 62, 78]

def lastInVbv : Nat :=
  vbvMarkers.foldr (fun marker last => if fieldAt data (position + marker) 1 ≠ 1 then position + marker else last)
    (lastInResolution data (position + 79))

def lastInControl : Nat :=
  if fieldAt data position 1 = 0 then lastInResolution data (position + 1)
  else if fieldAt data (position + 1) 2 ≠ 1 then position + 1
  else if fieldAt data (position + 4) 1 = 0 then lastInResolution data (position + 5)
  else lastInVbv data (position + 5)

def lastInLayer : Nat :=
  if fieldAt data (position + 1) 8 ∉ objectTypes then position + 1
  else
    let aspect := position + 10 + if fieldAt data (position + 9) 1 ≠ 0 then 7 else 0
    lastInControl data (aspect + 4 + if fieldAt data aspect 4 = 15 then 16 else 0)

theorem le_lastInResolution : position ≤ lastInResolution data position := by
  unfold lastInResolution
  split
  · exact le_rfl
  · split <;> omega

theorem le_lastInVbv : position + 15 ≤ lastInVbv data position := by
  have := le_lastInResolution data (position + 79)
  simp only [lastInVbv, vbvMarkers, List.foldr_cons, List.foldr_nil]
  split_ifs <;> omega

theorem le_lastInControl : position ≤ lastInControl data position := by
  have := le_lastInResolution data (position + 1)
  have := le_lastInResolution data (position + 5)
  have := le_lastInVbv data (position + 5)
  unfold lastInControl
  split
  · omega
  · split
    · omega
    · split <;> omega

end

/-! ### The reads -/

section

variable {data : List UInt8} {position : Nat}

theorem inside_unless_iff {condition : Prop} [Decidable (¬condition)] {last : Nat} (hle : position ≤ last) :
    WordInside data position ∧ (condition → WordInside data last) ↔
      WordInside data (if ¬condition then position else last) := by
  split
  next hends => exact and_iff_left fun h => absurd h hends
  next hgoes =>
    rw [forall_prop_of_true (not_not.mp hgoes)]
    exact and_iff_right_of_imp fun hlast => hlast.mono hle

theorem inside_and_iff {last : Nat} (hle : position ≤ last) :
    WordInside data position ∧ WordInside data last ↔ WordInside data last :=
  and_iff_right_of_imp fun hlast => hlast.mono hle

theorem stays_parseResolution :
    Stays (parseResolution data) (fun _ _ => True) (bitAt position) ↔
      WordInside data (lastInResolution data position) := by
  unfold parseResolution lastInResolution
  simp (disch := decide) only [stays_bind, stays_readBitField, stays_require, stays_readMarker, and_true,
    Nat.add_assoc, Nat.reduceAdd]
  rw [inside_unless_iff (by omega), inside_unless_iff (by split <;> omega)]

theorem stays_parseVbvParameters :
    Stays (parseVbvParameters data) (fun _ pos => Stays (parseResolution data) (fun _ _ => True) pos)
        (bitAt position) ↔ WordInside data (lastInVbv data position) := by
  have hlast := le_lastInResolution data (position + 79)
  unfold parseVbvParameters lastInVbv vbvMarkers
  simp (disch := decide) only [stays_bind, stays_readBitField, stays_readMarker, stays_parseResolution, Nat.add_assoc,
    Nat.reduceAdd, List.foldr_cons, List.foldr_nil]
  unfold WordInside
  split_ifs <;> omega

theorem stays_parseControlParameters :
    Stays (parseControlParameters data) (fun _ pos => Stays (parseResolution data) (fun _ _ => True) pos)
        (bitAt position) ↔ WordInside data (lastInControl data position) := by
  have hbehind := le_lastInResolution data (position + 1)
  have hbehindVbv := le_lastInResolution data (position + 5)
  have hvbv := le_lastInVbv data (position + 5)
  unfold parseControlParameters lastInControl
  simp (disch := decide) only [stays_bind, stays_readBitField, stays_ite, stays_require, stays_pure,
    stays_parseVbvParameters, stays_parseResolution, Nat.add_assoc, Nat.reduceAdd]
  unfold WordInside
  split_ifs <;> omega

theorem stays_parseLayer :
    Stays (parseLayer data) (fun _ _ => True) (bitAt position) ↔ WordInside data (lastInLayer data position) := by
  unfold parseLayer lastInLayer
  simp (disch := decide) only [stays_bind, stays_readBitField, stays_require, stays_skipFields,
    stays_parseControlParameters, Nat.add_assoc, Nat.reduceAdd]
  by_cases htype : fieldAt data (position + 1) 8 ∈ objectTypes
  · rw [forall_prop_of_true htype, if_neg (not_not.mpr htype)]
    generalize hidentified : (if fieldAt data (position + 9) 1 ≠ 0 then 7 else 0) = identified
    generalize hextended : (if fieldAt data (position + (10 + identified)) 4 = 15 then 16 else 0) = extended
    have hlast := le_lastInControl data (position + (10 + (identified + (4 + extended))))
    unfold WordInside
    split_ifs at hidentified hextended <;> omega
  · rw [if_pos htype, and_iff_left fun h => absurd h htype]
    exact inside_and_iff (Nat.le_add_right _ _)

end

/-! ### The searches -/

def vopCode : StartCodes := .single 0xB6 (by decide)
def govCode : StartCodes := .single 0xB3 (by decide)
def sequenceCode : StartCodes := .single 0xB0 (by decide)
def visualObjectCode : StartCodes := .single 0xB5 (by decide)

def videoObjectCodes : StartCodes := ⟨0, 32, ⟨5, by decide, rfl⟩, by decide, by decide⟩

def layerCodes : StartCodes := ⟨0x20, 16, ⟨4, by decide, rfl⟩, by decide, by decide⟩

section

variable {data : List UInt8} {pos : PosInfo}

theorem bitAt_mul (bytePtr : Nat) : bitAt (8 * bytePtr) = ⟨0, bytePtr⟩ := by
  rw [bitAt, PosInfo.mk.injEq]
  omega

theorem stays_seekCode (codes : StartCodes) (size : Nat) {post : Bool → PosInfo → Prop} :
    Stays (seekCode data size codes.mask codes.reference) post pos ↔
      match codes.firstEnd (data.drop pos.bytePtr) with
      | some stop => if stop ≤ size then post true { pos with bytePtr := pos.bytePtr + stop } else post false pos
      | none => size ≤ data.length - pos.bytePtr ∧ post false pos := by
  unfold Stays seekCode
  rw [ends_bind, ends_get, StartCodes.findCode_eq]
  cases codes.firstEnd (data.drop pos.bytePtr) with
  | none =>
    dsimp only
    by_cases hinside : size ≤ data.length - pos.bytePtr
    · rw [if_pos hinside]
      exact (and_iff_right hinside).symm
    · rw [if_neg hinside]
      exact iff_of_false (fun hends => hends rfl) fun h => hinside h.1
  | some stop =>
    dsimp only
    by_cases hfound : stop ≤ size
    · rw [if_pos hfound, if_pos hfound]
      rfl
    · rw [if_neg hfound, if_neg hfound]
      rfl

theorem stays_search (codes : StartCodes) (hdata : 0 < data.length) {post : Bool → PosInfo → Prop} :
    Stays (seekCode data data.length codes.mask codes.reference) post pos ↔
      match codes.firstEnd (data.drop pos.bytePtr) with
      | some stop => post true { pos with bytePtr := pos.bytePtr + stop }
      | none => pos.bytePtr = 0 ∧ post false pos := by
  rw [stays_seekCode]
  cases hend : codes.firstEnd (data.drop pos.bytePtr) with
  | none => exact and_congr_left fun _ => by omega
  | some stop =>
    have hstop := (StartCodes.firstEnd_bounds _ hend).2
    rw [List.length_drop] at hstop
    dsimp only
    rw [if_pos (by omega)]

variable {post : PUnit → PosInfo → Prop}

theorem stays_rejectCode (codes : StartCodes) (hmask : codes.mask = 0xFFFFFFFF) :
    Stays (rejectCode data codes.reference) post pos ↔
      4 ≤ data.length ∧ (codes.firstEnd data ≠ some 4 → post ⟨⟩ ⟨0, 0⟩) := by
  unfold rejectCode
  rw [← hmask, stays_bind]
  change Stays (seekCode data 4 codes.mask codes.reference >>= _) _ ⟨0, 0⟩ ↔ _
  rw [stays_bind, stays_seekCode]
  simp only [stays_require, List.drop_zero, Nat.sub_zero]
  cases hend : codes.firstEnd data with
  | none => simp
  | some stop =>
    obtain ⟨hleast, hlength⟩ := StartCodes.firstEnd_bounds _ hend
    dsimp only
    rw [and_iff_right (hleast.trans hlength)]
    by_cases hfour : stop = 4
    · subst hfour
      simp
    · rw [if_neg (by omega)]
      simp [hfour]

theorem stays_parseSequence (hdata : 0 < data.length) :
    Stays (parseSequence data) post pos ↔
      match sequenceCode.firstEnd data with
      | some stop => WordInside data (8 * stop) ∧ post ⟨⟩ (bitAt (8 * (stop + 1)))
      | none => post ⟨⟩ (bitAt 0) := by
  unfold parseSequence
  rw [stays_bind]
  change Stays (seekCode data data.length sequenceCode.mask sequenceCode.reference >>= _) _ ⟨0, 0⟩ ↔ _
  rw [stays_bind, stays_search _ hdata, List.drop_zero]
  cases sequenceCode.firstEnd data with
  | none => exact and_iff_right rfl
  | some stop =>
    dsimp only
    rw [if_pos rfl, Nat.zero_add, ← bitAt_mul, stays_bind, stays_readBitField (by decide), Nat.mul_succ]
    rfl

def visualObjectTypeAt (data : List UInt8) (position : Nat) : Nat :=
  position + 1 + if fieldAt data position 1 ≠ 0 then 7 else 0

theorem stays_parseVisualObject (hdata : 0 < data.length) (start : Nat) :
    Stays (parseVisualObject data) post (bitAt (8 * start)) ↔
      match visualObjectCode.firstEnd (data.drop start) with
      | some stop =>
        let typeAt := visualObjectTypeAt data (8 * (start + stop))
        WordInside data typeAt ∧ (fieldAt data typeAt 4 = 1 →
          ∃ behind, videoObjectCodes.firstEnd (data.drop ((typeAt + 4) / 8)) = some behind ∧
            post ⟨⟩ ⟨(typeAt + 4) % 8, (typeAt + 4) / 8 + behind⟩)
      | none => start = 0 ∧ post ⟨⟩ (bitAt 0) := by
  unfold parseVisualObject
  rw [bitAt_mul]
  change Stays (seekCode data data.length visualObjectCode.mask visualObjectCode.reference >>= _) _ _ ↔ _
  rw [stays_bind, stays_search _ hdata]
  dsimp only
  cases hend : visualObjectCode.firstEnd (data.drop start) with
  | none => rfl
  | some stop =>
    dsimp only
    rw [if_pos rfl, ← bitAt_mul]
    have hstop := (StartCodes.firstEnd_bounds _ hend).1
    generalize hposition : 8 * (start + stop) = position
    have htypeAt : position + 1 + (if fieldAt data position 1 ≠ 0 then 4 + 3 else 0) =
        visualObjectTypeAt data position := rfl
    simp (disch := decide) only [stays_bind, stays_readBitField, stays_skipFields, stays_require, htypeAt]
    have hlast : WordInside data (visualObjectTypeAt data position) → WordInside data position ∧
        (fieldAt data position 1 ≠ 0 → WordInside data (position + 1) ∧ WordInside data (position + 1 + 4)) := by
      unfold visualObjectTypeAt WordInside
      split <;> omega
    have hbehind : 0 < (visualObjectTypeAt data position + 4) / 8 := by omega
    generalize visualObjectTypeAt data position = typeAt at *
    have hsearch : Stays (seekCode data data.length 0xFFFFFFE0 0x100) (fun found => Stays (require (found = true)) post)
          (bitAt (typeAt + 4)) ↔
        ∃ behind, videoObjectCodes.firstEnd (data.drop ((typeAt + 4) / 8)) = some behind ∧
          post ⟨⟩ ⟨(typeAt + 4) % 8, (typeAt + 4) / 8 + behind⟩ := by
      change Stays (seekCode data data.length videoObjectCodes.mask videoObjectCodes.reference) _ _ ↔ _
      rw [stays_search _ hdata]
      change (match videoObjectCodes.firstEnd (data.drop ((typeAt + 4) / 8)) with | some _ => _ | none => _) ↔ _
      cases videoObjectCodes.firstEnd (data.drop ((typeAt + 4) / 8)) with
      | none => exact iff_of_false (fun h => hbehind.ne' h.1) fun ⟨_, h, _⟩ => nomatch h
      | some behind => simp [bitAt, stays_require]
    rw [hsearch]
    tauto

theorem stays_seekLayer (hdata : 0 < data.length) :
    Stays (seekLayer data) post pos ↔
      match layerCodes.firstEnd (data.drop pos.bytePtr) with
      | some stop => post ⟨⟩ (bitAt (8 * (pos.bytePtr + stop)))
      | none => pos.bytePtr = 0 ∧ post ⟨⟩ (bitAt 0) := by
  unfold seekLayer
  rw [stays_bind]
  change Stays (seekCode data data.length layerCodes.mask layerCodes.reference >>= _) _ ⟨0, pos.bytePtr⟩ ↔ _
  rw [stays_bind, stays_search _ hdata]
  dsimp only
  cases layerCodes.firstEnd (data.drop pos.bytePtr) with
  | none => rfl
  | some stop =>
    dsimp only
    rw [if_pos rfl, bitAt_mul]
    rfl

end

/-! ### The header -/

section

variable (data : List UInt8)

/-- The layer, which is looked for from a place on, is read inside of the data. -/
def LayerInside (start : Nat) : Prop :=
  match layerCodes.firstEnd (data.drop start) with
  | some stop => WordInside data (lastInLayer data (8 * (start + stop)))
  | none => start = 0 ∧ WordInside data (lastInLayer data 0)

def VisualObjectInside (start : Nat) : Prop :=
  match visualObjectCode.firstEnd (data.drop start) with
  | some stop =>
    let typeAt := visualObjectTypeAt data (8 * (start + stop))
    WordInside data typeAt ∧ (fieldAt data typeAt 4 = 1 →
      ∃ behind, videoObjectCodes.firstEnd (data.drop ((typeAt + 4) / 8)) = some behind ∧
        LayerInside data ((typeAt + 4) / 8 + behind))
  | none => start = 0 ∧ LayerInside data 0

/-- The data has four bytes. If these are no start code of a plane or of a group of them, each code that is looked for
behind another one is there, and behind each code there are the four bytes from the last field on that is read. -/
def HeaderInside : Prop :=
  4 ≤ data.length ∧ (vopCode.firstEnd data ≠ some 4 → govCode.firstEnd data ≠ some 4 →
    match sequenceCode.firstEnd data with
    | some stop => WordInside data (8 * stop) ∧ VisualObjectInside data (stop + 1)
    | none => VisualObjectInside data 0)

variable {data}

theorem stays_layer_iff (hdata : 0 < data.length) (pos : PosInfo) :
    Stays (seekLayer data >>= fun _ => parseLayer data) (fun _ _ => True) pos ↔ LayerInside data pos.bytePtr := by
  rw [stays_bind, stays_seekLayer hdata, LayerInside]
  cases layerCodes.firstEnd (data.drop pos.bytePtr) with
  | none => exact and_congr_right fun _ => stays_parseLayer
  | some stop => exact stays_parseLayer

theorem stays_visualObject_iff (hdata : 0 < data.length) (start : Nat) :
    Stays (parseVisualObject data >>= fun _ => seekLayer data >>= fun _ => parseLayer data) (fun _ _ => True)
        (bitAt (8 * start)) ↔ VisualObjectInside data start := by
  rw [stays_bind, stays_parseVisualObject hdata, VisualObjectInside]
  simp only [stays_layer_iff hdata]
  rfl

theorem stays_readHeader : Stays (readHeader data) (fun _ _ => True) ⟨0, 0⟩ ↔ HeaderInside data := by
  unfold readHeader HeaderInside
  change Stays (rejectCode data vopCode.reference >>= fun _ => rejectCode data govCode.reference >>= _) _ _ ↔ _
  rw [stays_bind, stays_rejectCode vopCode (by decide)]
  refine and_congr_right fun hlength => imp_congr_right fun _ => ?_
  rw [stays_bind, stays_rejectCode govCode (by decide), and_iff_right hlength]
  refine imp_congr_right fun _ => ?_
  have hdata : 0 < data.length := by omega
  rw [stays_bind, stays_parseSequence hdata]
  cases sequenceCode.firstEnd data with
  | none => exact stays_visualObject_iff hdata 0
  | some stop => exact and_congr_right fun _ => stays_visualObject_iff hdata (stop + 1)

/-- The parser stays in the data exactly where its searches find their codes and its fields are long enough inside. -/
theorem parseHeader_ne_none_iff (utils : Mp4Utils) (data : List UInt8) :
    utils.parseHeader data ≠ none ↔ HeaderInside data := by
  rw [← stays_readHeader, parseHeader, Stays, Ends]
  cases readHeader data ⟨0, 0⟩ with
  | ok resolution pos => exact iff_of_true (Option.some_ne_none _) trivial
  | error exit pos => cases exit <;> simp

/-- A start code of a sequence with one byte behind it. -/
theorem parseHeader_eq_none : (⟨0, false⟩ : Mp4Utils).parseHeader [0, 0, 1, 0xB0, 1] = none := by decide

end

end Mp4Utils

end Nozomi
