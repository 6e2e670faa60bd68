import Nozomi.Image.Mkelf

/-!
# From the input files to the image and back

The data of a segment lie behind its program header and in front of the data of the next one, so that
what is written is read again. The exceptions come from the reader: a size of 0 stands for the rest of the
file, and an offset that is negative as a `long` leaves the file at its beginning.
-/

namespace Nozomi

/-! ### Packed fields -/

theorem pack_eq_some {fields : List (Nat × Nat)} {bytes : List UInt8} (hpack : pack fields = some bytes) :
    bytes = fields.flatMap (fun field => toLittleEndian field.1 field.2) ∧
      ∀ field ∈ fields, field.2 < 256 ^ field.1 := by
  rw [pack] at hpack
  split at hpack
  next hall => exact ⟨(Option.some.inj hpack).symm, hall⟩
  next => cases hpack

theorem flatMap_toLittleEndian_length (fields : List (Nat × Nat)) :
    (fields.flatMap fun field => toLittleEndian field.1 field.2).length = (fields.map (·.1)).sum := by
  rw [List.length_flatMap]
  congr 1
  exact List.map_congr_left fun field _ => toLittleEndian_length field.1 field.2

theorem pack_length {fields : List (Nat × Nat)} {bytes : List UInt8} (hpack : pack fields = some bytes) :
    bytes.length = (fields.map (·.1)).sum := by
  rw [(pack_eq_some hpack).1, flatMap_toLittleEndian_length]

theorem pack_field (front back : List (Nat × Nat)) {width value : Nat} {bytes : List UInt8}
    (hpack : pack (front ++ (width, value) :: back) = some bytes) :
    storedField bytes (front.map (·.1)).sum width = value := by
  obtain ⟨rfl, hfits⟩ := pack_eq_some hpack
  rw [storedField, List.flatMap_append, readAt_append_right _ (flatMap_toLittleEndian_length front),
    List.flatMap_cons, List.take_left' (toLittleEndian_length width value)]
  exact littleEndian_toLittleEndian (hfits (width, value) (by simp))

theorem readAt_flatten {size position count : Nat} (hcount : position + count ≤ size) :
    ∀ {blocks : List (List UInt8)} {k : Nat} {block : List UInt8}, (∀ block ∈ blocks, block.length = size) →
      blocks[k]? = some block → readAt blocks.flatten (k * size + position) count = readAt block position count := by
  intro blocks
  induction blocks with
  | nil => intro k block _ hblock; simp at hblock
  | cons first blocks ih =>
    intro k block hsize hblock
    have hfirst := hsize first List.mem_cons_self
    cases k with
    | zero =>
      obtain rfl : first = block := by simpa using hblock
      rw [Nat.zero_mul, Nat.zero_add, List.flatten_cons, ← @readAt_take _ _ size _ hcount,
        List.take_left' hfirst]
    | succ k =>
      rw [← ih (fun block hmem => hsize block (List.mem_cons_of_mem first hmem))
        (by simpa using hblock), readAt, readAt, List.flatten_cons, Nat.succ_mul,
        show k * size + size + position = first.length + (k * size + position) by omega,
        List.drop_append, List.drop_of_length_le (by omega), List.nil_append, Nat.add_sub_cancel_left]

/-! ### The segments -/

def bytesBefore (inputs : List MkelfInput) (k : Nat) : Nat := ((inputs.take k).map (·.2.length)).sum

def bytesTotal (inputs : List MkelfInput) : Nat := (inputs.map (·.2.length)).sum

variable (inputs : List MkelfInput)

theorem foldl_layout :
    ∀ (offset : Nat) (file : List UInt8), ∃ image,
      (layout offset inputs).foldl (fun elf segment => writeAt elf segment.offset segment.data) file = image ∧
      (∀ bound ≤ offset, bound ≤ file.length → image.take bound = file.take bound) ∧
      image.length =
        (if bytesTotal inputs = 0 then file.length else max file.length (offset + bytesTotal inputs)) ∧
      ∀ k seg data, inputs[k]? = some (seg, data) →
        readAt image (offset + bytesBefore inputs k) data.length = data := by
  induction inputs with
  | nil =>
    intro offset file
    exact ⟨file, rfl, fun _ _ _ => rfl, rfl, by simp⟩
  | cons input inputs ih =>
    obtain ⟨seg, data⟩ := input
    intro offset file
    obtain ⟨image, heq, htake, hlength, hread⟩ := ih (offset + data.length) (writeAt file offset data)
    have hgrows : file.length ≤ (writeAt file offset data).length := length_le_writeAt
    have htotal : bytesTotal ((seg, data) :: inputs) = data.length + bytesTotal inputs := by
      rw [bytesTotal, bytesTotal, List.map_cons, List.sum_cons]
    refine ⟨image, heq, fun bound hoffset hbound => ?_, ?_, fun k seg' data' hk => ?_⟩
    · rw [htake bound (by omega) (by omega), take_writeAt hoffset hbound]
    · rw [hlength, htotal]
      by_cases hdata : data = []
      · rw [hdata, writeAt_nil, List.length_nil, Nat.zero_add, Nat.add_zero]
      · have hpos := List.length_pos_iff.mpr hdata
        rw [writeAt_length hdata]
        split <;> split <;> omega
    · cases k with
      | zero =>
        obtain ⟨rfl, rfl⟩ : seg = seg' ∧ data = data' := by simpa using hk
        rw [bytesBefore, List.take_zero, List.map_nil, List.sum_nil, Nat.add_zero]
        by_cases hdata : data = []
        · rw [hdata, readAt, List.length_nil, List.take_zero]
        · have hend := @writeAt_length file data offset hdata
          rw [← @readAt_take _ _ (offset + data.length) _ (Nat.le_refl _),
            htake _ (Nat.le_refl _) (by omega), readAt_take (Nat.le_refl _), readAt_writeAt_self]
      | succ k =>
        have hbefore : bytesBefore ((seg, data) :: inputs) (k + 1) = data.length + bytesBefore inputs k := by
          rw [bytesBefore, bytesBefore, List.take_succ_cons, List.map_cons, List.sum_cons]
        rw [hbefore, ← Nat.add_assoc]
        exact hread k seg' data' (by simpa using hk)

theorem layout_length : ∀ offset, (layout offset inputs).length = inputs.length := by
  induction inputs with
  | nil => exact fun _ => rfl
  | cons input inputs ih =>
    intro offset
    rw [layout, List.length_cons, List.length_cons, ih]

theorem layout_getElem? :
    ∀ (offset k : Nat) (seg : Seg) (data : List UInt8), inputs[k]? = some (seg, data) →
      (layout offset inputs)[k]? = some ⟨seg, offset + bytesBefore inputs k, data⟩ := by
  induction inputs with
  | nil => intro offset k seg data hk; simp at hk
  | cons input inputs ih =>
    obtain ⟨first, bytes⟩ := input
    intro offset k seg data hk
    cases k with
    | zero =>
      obtain ⟨rfl, rfl⟩ : first = seg ∧ bytes = data := by simpa using hk
      rfl
    | succ k =>
      have hbefore : bytesBefore ((first, bytes) :: inputs) (k + 1) = bytes.length + bytesBefore inputs k := by
        rw [bytesBefore, bytesBefore, List.take_succ_cons, List.map_cons, List.sum_cons]
      rw [layout, List.getElem?_cons_succ, ih _ k seg data (by simpa using hk), hbefore, Nat.add_assoc]

/-! ### The headers -/

theorem mapM_eq_some {α β : Type} {f : α → Option β} :
    ∀ {items : List α} {results : List β}, items.mapM f = some results →
      results.length = items.length ∧
        ∀ (k : Nat) (item : α), items[k]? = some item → ∃ result, f item = some result ∧ results[k]? = some result := by
  intro items
  induction items with
  | nil =>
    intro results heq
    obtain rfl : [] = results := by simpa using heq
    exact ⟨rfl, by simp⟩
  | cons first items ih =>
    intro results heq
    rw [List.mapM_cons] at heq
    obtain ⟨result, hfirst, heq⟩ := Option.bind_eq_some_iff.mp heq
    obtain ⟨rest, hrest, heq⟩ := Option.bind_eq_some_iff.mp heq
    obtain rfl := Option.some.inj heq
    obtain ⟨hlength, hall⟩ := ih hrest
    refine ⟨congrArg (· + 1) hlength, fun k item hk => ?_⟩
    cases k with
    | zero =>
      obtain rfl : first = item := by simpa using hk
      exact ⟨result, hfirst, rfl⟩
    | succ k => exact hall k item (by simpa using hk)

def headersSize (phnum : Nat) : Nat := 52 + phnum * 32

theorem writeElfPhdr_fields {segment : Segment} {phdr : List UInt8}
    (hwrite : segment.writeElfPhdr = some phdr) :
    phdr.length = 32 ∧ storedField phdr 4 4 = segment.offset ∧
      storedField phdr 16 4 = segment.data.length ∧ segment.offset < ulongSize ∧
      segment.data.length < ulongSize := by
  rw [Segment.writeElfPhdr] at hwrite
  have hfits := (pack_eq_some hwrite).2
  have hoffset := hfits (4, segment.offset) (by simp)
  have hsize := hfits (4, segment.data.length) (by simp)
  exact ⟨pack_length hwrite, pack_field [(4, segment.pType)] _ hwrite,
    pack_field [(4, segment.pType), (4, segment.offset), (4, segment.seg.addr), (4, segment.seg.addr)] _
      hwrite, hoffset, hsize⟩

theorem writeElfHeader_fields {entry phnum : Nat} {header : List UInt8}
    (hwrite : writeElfHeader entry phnum = some header) :
    header.length = 52 ∧ readAt header 0 5 = [0x7f, 0x45, 0x4c, 0x46, 1] ∧
      storedField header 28 4 = 52 ∧ storedField header 42 2 = 32 ∧ storedField header 44 2 = phnum := by
  obtain ⟨fields, hpack, rfl⟩ := Option.map_eq_some_iff.mp hwrite
  have hshift : ∀ position count, readAt (eIdent ++ fields) (16 + position) count =
      readAt fields position count := by
    intro position count
    rw [readAt, readAt, List.drop_append, List.drop_of_length_le (by simp [eIdent]), List.nil_append]
    simp [eIdent]
  have hlength : fields.length = 36 := pack_length hpack
  refine ⟨by rw [List.length_append, hlength]; rfl, rfl, ?_, ?_, ?_⟩
  · rw [storedField, hshift 12 4]
    exact pack_field [(2, 2), (2, 40), (4, 1), (4, entry)] _ hpack
  · rw [storedField, hshift 26 2]
    exact pack_field [(2, 2), (2, 40), (4, 1), (4, entry), (4, 52), (4, 0), (4, 0), (2, 52)] _ hpack
  · rw [storedField, hshift 28 2]
    exact pack_field [(2, 2), (2, 40), (4, 1), (4, entry), (4, 52), (4, 0), (4, 0), (2, 52), (2, 32)] _ hpack

theorem writeHeaders_fields {segments : List Segment} {headers : List UInt8}
    (hwrite : writeHeaders segments = some headers) :
    headers.length = headersSize segments.length ∧ readAt headers 0 5 = [0x7f, 0x45, 0x4c, 0x46, 1] ∧
      storedField headers 28 4 = 52 ∧ storedField headers 42 2 = 32 ∧
      storedField headers 44 2 = segments.length ∧
      ∀ k segment, segments[k]? = some segment →
        storedField headers (52 + k * 32 + 4) 4 = segment.offset ∧
        storedField headers (52 + k * 32 + 16) 4 = segment.data.length ∧
        segment.offset < ulongSize ∧ segment.data.length < ulongSize := by
  rw [writeHeaders.eq_def] at hwrite
  split at hwrite
  · cases hwrite
  next first rest =>
    obtain ⟨header, hheader, hwrite⟩ := Option.bind_eq_some_iff.mp hwrite
    obtain ⟨phdrs, hphdrs, hwrite⟩ := Option.bind_eq_some_iff.mp hwrite
    obtain rfl := Option.some.inj hwrite
    obtain ⟨hlength, hident, hphoff, hphentsize, hphnum⟩ := writeElfHeader_fields hheader
    obtain ⟨hcount, hall⟩ := mapM_eq_some hphdrs
    have hblocks : ∀ phdr ∈ phdrs, phdr.length = 32 := by
      intro phdr hmem
      obtain ⟨k, hk⟩ := List.getElem?_of_mem hmem
      have hlt : k < (first :: rest).length := hcount ▸ (List.getElem?_eq_some_iff.mp hk).1
      obtain ⟨phdr', hwrite, hk'⟩ := hall k _ (List.getElem?_eq_getElem hlt)
      obtain rfl := Option.some.inj (hk.symm.trans hk')
      exact (writeElfPhdr_fields hwrite).1
    have hfront : ∀ {position count}, position + count ≤ 52 →
        readAt (header ++ phdrs.flatten) position count = readAt header position count := by
      intro position count hle
      rw [← @readAt_take _ _ 52 _ hle, List.take_left' hlength]
    have hback : ∀ {k position count segment}, position + count ≤ 32 →
        (first :: rest)[k]? = some segment → ∃ phdr, segment.writeElfPhdr = some phdr ∧
          storedField (header ++ phdrs.flatten) (52 + k * 32 + position) count =
            storedField phdr position count := by
      intro k position count segment hle hk
      obtain ⟨phdr, hwrite, hphdr⟩ := hall k segment hk
      refine ⟨phdr, hwrite, ?_⟩
      rw [storedField, storedField, ← readAt_flatten hle hblocks hphdr, readAt, readAt,
        Nat.add_assoc, ← hlength, List.drop_length_add_append]
    refine ⟨?_, (hfront (by omega)).trans hident, ?_, ?_, ?_, fun k segment hk => ?_⟩
    · have hflatten : phdrs.flatten.length = phdrs.length * 32 := by
        rw [List.length_flatten, List.map_eq_replicate_iff.mpr hblocks, List.sum_replicate_nat]
      rw [List.length_append, hlength, hflatten, hcount, headersSize]
    · rw [storedField, hfront (by omega)]
      exact hphoff
    · rw [storedField, hfront (by omega)]
      exact hphentsize
    · rw [storedField, hfront (by omega)]
      exact hphnum
    · obtain ⟨phdr, hwrite, hoffset⟩ := @hback k 4 4 segment (by omega) hk
      obtain ⟨phdr', hwrite', hsize⟩ := @hback k 16 4 segment (by omega) hk
      obtain rfl := Option.some.inj (hwrite.symm.trans hwrite')
      obtain ⟨-, hfield, hfield', hoffsetLt, hsizeLt⟩ := writeElfPhdr_fields hwrite
      exact ⟨hoffset.trans hfield, hsize.trans hfield', hoffsetLt, hsizeLt⟩

/-! ### The image -/

def segmentOffset (inputs : List MkelfInput) (k : Nat) : Nat := 4096 + bytesBefore inputs k

def imageSize (inputs : List MkelfInput) : Nat :=
  if bytesTotal inputs = 0 then headersSize inputs.length
  else max (headersSize inputs.length) (4096 + bytesTotal inputs)

theorem makeElf_fields {inputs : List MkelfInput} {image : List UInt8} (hmake : makeElf inputs = some image) :
    image.length = imageSize inputs ∧ ∀ (k : Nat) (seg : Seg) (data : List UInt8),
      inputs[k]? = some (seg, data) →
        readAt image (segmentOffset inputs k) data.length = data ∧
        segmentOffset inputs k < ulongSize ∧
        (k < 3 → storedPhdr image k = some ⟨segmentOffset inputs k, data.length⟩) := by
  obtain ⟨headers, hheaders, hwrites⟩ := Option.map_eq_some_iff.mp hmake
  obtain ⟨image', heq, htake, hlength, hread⟩ := foldl_layout inputs 4096 headers
  obtain rfl : image' = image := heq.symm.trans hwrites
  obtain ⟨hsize, hident, hphoff, hphentsize, hphnum, hfields⟩ := writeHeaders_fields hheaders
  rw [layout_length] at hsize hphnum
  have himage : image'.length = imageSize inputs := by rw [hlength, hsize, imageSize]
  refine ⟨himage, fun k seg data hk => ?_⟩
  obtain ⟨hoffset, hfilesz, hoffsetLt, -⟩ := hfields k _ (layout_getElem? inputs 4096 k seg data hk)
  refine ⟨hread k seg data hk, hoffsetLt, fun hfirst => ?_⟩
  have hlt : k < inputs.length := (List.getElem?_eq_some_iff.mp hk).1
  have hbound : image'.take (52 + k * 32 + 32) = headers.take (52 + k * 32 + 32) :=
    htake _ (by omega) (by rw [hsize, headersSize]; omega)
  have hsame : ∀ {position count}, position + count ≤ 52 + k * 32 + 32 →
      readAt image' position count = readAt headers position count := by
    intro position count hle
    rw [← readAt_take hle, hbound, readAt_take hle]
  have hstored : ∀ {position count}, position + count ≤ 52 + k * 32 + 32 →
      storedField image' position count = storedField headers position count := by
    intro position count hle
    rw [storedField, storedField, hsame hle]
  have hheadersLe : headersSize inputs.length ≤ image'.length := by
    rw [himage, imageSize]
    split <;> omega
  rw [headersSize] at hheadersLe
  rw [storedPhdr, @hsame 0 5 (by omega), hident, @hstored 28 4 (by omega), hphoff,
    @hstored 42 2 (by omega), hphentsize, @hstored 44 2 (by omega), hphnum,
    @hstored (52 + k * 32 + 4) 4 (by omega), hoffset, @hstored (52 + k * 32 + 16) 4 (by omega), hfilesz]
  exact if_pos ⟨rfl, hlt, by omega⟩

/-! ### The round trip -/

/-- When a file is extracted as it was. An empty one has to end the image. The other condition on a file that
is not empty leaves out offsets that are negative as a `long`, unless the image begins with the same bytes. -/
def Extractable (allocates : Nat → Bool) (inputs : List MkelfInput) (image : List UInt8) (k : Nat)
    (data : List UInt8) : Prop :=
  allocates data.length = true ∧
    if data = [] then
      imageSize inputs < longSize ∧ imageSize inputs = segmentOffset inputs k ∨
        longSize ≤ imageSize inputs ∧ segmentOffset inputs k = ulongSize - 1
    else segmentOffset inputs k < longSize ∨ data <+: image

theorem copyFilePart_eq_some_iff {allocates : Nat → Bool} {infile data : List UInt8} {offset : Nat}
    (hoffset : offset ≠ 0) (hlt : offset < ulongSize) (hread : readAt infile offset data.length = data) :
    copyFilePart allocates infile offset data.length = some data ↔
      allocates data.length = true ∧
        if data = [] then
          infile.length < longSize ∧ infile.length = offset ∨
            longSize ≤ infile.length ∧ offset = ulongSize - 1
        else offset < longSize ∨ data <+: infile := by
  rw [copyFilePart, if_pos hoffset]
  by_cases hdata : data = []
  · subst hdata
    rw [List.length_nil, if_pos rfl, if_pos rfl]
    dsimp only
    generalize hsize : (ftellEnd infile + (ulongSize - offset)) % ulongSize = fileSize
    have hzero : fileSize = 0 ↔ infile.length < longSize ∧ infile.length = offset ∨
        longSize ≤ infile.length ∧ offset = ulongSize - 1 := by
      have hulong : ulongSize = 2 ^ 32 := rfl
      have hlong : longSize = 2 ^ 31 := rfl
      rw [← hsize, ftellEnd]
      by_cases hsmall : infile.length < longSize
      · rw [if_pos hsmall, hulong]
        omega
      · rw [if_neg hsmall, hulong]
        omega
    rw [← hzero]
    by_cases hnone : fileSize = 0
    · subst hnone
      cases allocates 0 <;> simp [readAt]
    rw [and_iff_right_of_imp (fun h => absurd h hnone), iff_false_right hnone]
    split
    · simp
    split
    · simp
    next hfull =>
      intro heq
      rw [not_not] at hfull
      rw [Option.some.inj heq] at hfull
      exact hnone hfull.symm
  · have hlength : data.length ≠ 0 := fun hzero => hdata (List.eq_nil_of_length_eq_zero hzero)
    rw [if_neg hlength, if_neg hdata, fseekSet]
    cases allocates data.length with
    | false => simp
    | true =>
      simp only [Bool.not_true, Bool.false_eq_true, if_false, true_and]
      by_cases hseek : offset < longSize
      · rw [if_pos hseek, hread]
        simp [hseek]
      · rw [if_neg hseek, readAt, List.drop_zero, List.prefix_iff_eq_take]
        simp only [hseek, false_or]
        split
        next hshort =>
          refine ⟨fun heq => absurd heq (by simp), fun heq => absurd ?_ hshort⟩
          exact congrArg List.length heq.symm
        next => rw [Option.some.injEq, eq_comm]

theorem extract_eq_some_iff {gelfGetphdr : List UInt8 → Nat → Option GElfPhdr}
    (hlibelf : ∀ image index phdr, storedPhdr image index = some phdr → gelfGetphdr image index = some phdr)
    (allocates : Nat → Bool) {inputs : List MkelfInput} {image : List UInt8}
    (hmake : makeElf inputs = some image) {ramdiskLoc : Nat} (hloc : ramdiskLoc ∈ [1, 2, 3]) {seg : Seg}
    {data : List UInt8} (hfile : inputs[ramdiskLoc - 1]? = some (seg, data)) :
    extract gelfGetphdr allocates image ramdiskLoc = some data ↔
      Extractable allocates inputs image (ramdiskLoc - 1) data := by
  obtain ⟨hlength, hfields⟩ := makeElf_fields hmake
  obtain ⟨hread, hlt, hstored⟩ := hfields _ seg data hfile
  have hfirst : ramdiskLoc - 1 < 3 := by
    simp only [List.mem_cons, List.not_mem_nil, or_false] at hloc
    omega
  have hoffset : segmentOffset inputs (ramdiskLoc - 1) ≠ 0 := by
    rw [segmentOffset]
    omega
  rw [extract, extractElf, hlibelf _ _ _ (hstored hfirst), Extractable, ← hlength]
  exact copyFilePart_eq_some_iff hoffset hlt hread

/-- The round trip, from the arguments of `mkelf.py`. -/
theorem mkelf_extract_iff {gelfGetphdr : List UInt8 → Nat → Option GElfPhdr}
    (hlibelf : ∀ image index phdr, storedPhdr image index = some phdr → gelfGetphdr image index = some phdr)
    (allocates : Nat → Bool) {args : List (List Char)} {files : List Char → Option (List UInt8)}
    {inputs : List MkelfInput} {image : List UInt8} (hread : readInputs args files = some inputs)
    (himage : mkelf args files = some image) {ramdiskLoc : Nat} (hloc : ramdiskLoc ∈ [1, 2, 3])
    {arg : List Char} {seg : Seg} {data : List UInt8} (harg : args[ramdiskLoc - 1]? = some arg)
    (hseg : parseInput arg = some seg) (hfile : files seg.file = some data) :
    extract gelfGetphdr allocates image ramdiskLoc = some data ↔
      Extractable allocates inputs image (ramdiskLoc - 1) data := by
  have hmake : makeElf inputs = some image := by
    rw [mkelf, hread] at himage
    exact himage
  obtain ⟨input, hinput, hget⟩ := (mapM_eq_some hread).2 _ _ harg
  obtain rfl : (seg, data) = input := by simpa [hseg, hfile] using hinput
  exact extract_eq_some_iff hlibelf allocates hmake hloc hget

def sampleArgs : List (List Char) :=
  [['a', '@', '0', 'x', '0'], ['b', '@', '0', 'x', '1'], ['c', '@', '0', 'x', '2']]

def sampleFiles (bytes : List UInt8) (name : List Char) : Option (List UInt8) :=
  if name = ['b'] then some bytes else some [1, 2]

theorem sampleArgs_inputs (bytes : List UInt8) : readInputs sampleArgs (sampleFiles bytes) =
    some [(⟨['a'], 0, none⟩, [1, 2]), (⟨['b'], 1, none⟩, bytes), (⟨['c'], 2, none⟩, [1, 2])] := by
  rfl

theorem mkelf_extract_second : ∃ image, mkelf sampleArgs (sampleFiles [3]) = some image ∧
    extract storedPhdr (fun _ => true) image 2 = some [3] := by
  have himage : (mkelf sampleArgs (sampleFiles [3])).isSome = true := by
    rw [mkelf, sampleArgs_inputs]
    rfl
  obtain ⟨image, himage⟩ := Option.isSome_iff_exists.mp himage
  exact ⟨image, himage, (mkelf_extract_iff (fun _ _ _ hstored => hstored) (fun _ => true)
    (sampleArgs_inputs [3]) himage (by decide) rfl (rfl : parseInput _ = some ⟨['b'], 1, none⟩) rfl).mpr
      ⟨rfl, .inl (by decide)⟩⟩

/-- An empty file in front of another one does not come out empty. -/
theorem mkelf_extract_empty : ∃ image, mkelf sampleArgs (sampleFiles []) = some image ∧
    extract storedPhdr (fun _ => true) image 2 ≠ some [] := by
  have himage : (mkelf sampleArgs (sampleFiles [])).isSome = true := by
    rw [mkelf, sampleArgs_inputs]
    rfl
  obtain ⟨image, himage⟩ := Option.isSome_iff_exists.mp himage
  refine ⟨image, himage, fun hextract => ?_⟩
  have hmake := himage
  rw [mkelf, sampleArgs_inputs, Option.bind_some] at hmake
  have hempty := (@extract_eq_some_iff storedPhdr (fun _ _ _ hstored => hstored) (fun _ => true) _ image hmake
    2 (by decide) ⟨['b'], 1, none⟩ [] rfl).mp hextract
  have hend := hempty.2
  rw [if_pos rfl] at hend
  exact absurd hend (by decide)

end Nozomi
