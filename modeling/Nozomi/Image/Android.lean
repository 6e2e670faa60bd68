import Nozomi.Image.RoundTrip

/-!
# The ramdisk of an Android boot image

`extract_android` of `extract_elf_ramdisk.c`, for images in the layout that `bootimg.h` describes. The
fields of the header and `unsigned long` have 32 bits. The files can be opened, and the program ends without
an output where it calls `exit(-1)`.
-/

namespace Nozomi

/-- The fields of `boot_img_hdr` that the program reads. -/
structure BootImgHdr where
  kernelSize : BitVec 32
  ramdiskSize : BitVec 32
  pageSize : BitVec 32
  deriving DecidableEq, Repr

def headerSize : Nat := 608

def BootImgHdr.ofBytes (buffer : List UInt8) : BootImgHdr :=
  ⟨BitVec.ofNat 32 (storedField buffer 8 4), BitVec.ofNat 32 (storedField buffer 16 4),
    BitVec.ofNat 32 (storedField buffer 36 4)⟩

def elfRamdiskLocation : Nat := 2

def extractAndroid (allocates : Nat → Bool) (image : List UInt8) (ramdiskLoc : Nat) : Option (Nat × Nat) :=
  if ramdiskLoc = 3 then none
  else if !allocates headerSize then none
  else
    let buffer := readAt image 0 headerSize
    if buffer.length ≠ headerSize then none
    else
      let header := BootImgHdr.ofBytes buffer
      if header.pageSize = 0 then none
      else if ramdiskLoc = elfRamdiskLocation then
        if header.ramdiskSize = 0 then none
        else
          let offset := (header.kernelSize / header.pageSize + 1) * header.pageSize + header.pageSize
          some (offset.toNat, header.ramdiskSize.toNat)
      else if header.kernelSize = 0 then none
      else some (header.pageSize.toNat, header.kernelSize.toNat)

/-! ### The layout -/

def pagesFor (size pageSize : Nat) : Nat := (size + pageSize - 1) / pageSize

theorem pagesFor_of_dvd {size pageSize : Nat} (hpos : 0 < pageSize) (hdvd : pageSize ∣ size) :
    pagesFor size pageSize = size / pageSize := by
  obtain ⟨count, rfl⟩ := hdvd
  have hless : pageSize - 1 < pageSize := by omega
  rw [pagesFor, Nat.add_sub_assoc hpos, Nat.mul_add_div hpos, Nat.div_eq_of_lt hless,
    Nat.mul_div_cancel_left _ hpos, Nat.add_zero]

theorem pagesFor_of_not_dvd {size pageSize : Nat} (hpos : 0 < pageSize) (hnot : ¬pageSize ∣ size) :
    pagesFor size pageSize = size / pageSize + 1 := by
  have hrest : 0 < size % pageSize := Nat.pos_of_ne_zero fun hzero => hnot (Nat.dvd_of_mod_eq_zero hzero)
  have hless := Nat.mod_lt size hpos
  have hsplit := Nat.div_add_mod size pageSize
  have hsum : size + pageSize - 1 = pageSize * (size / pageSize + 1) + (size % pageSize - 1) := by
    rw [Nat.mul_add, Nat.mul_one]
    omega
  have hzero : (size % pageSize - 1) / pageSize = 0 := Nat.div_eq_of_lt (by omega)
  rw [pagesFor, hsum, Nat.mul_add_div hpos, hzero, Nat.add_zero]

/-- A boot image: a page with the header, the kernel filled up to whole pages, the ramdisk, and what follows
it. The kernel and the page may have any size that the header can store. -/
structure BootImage where
  page : List UInt8
  kernel : List UInt8
  filling : List UInt8
  ramdisk : List UInt8
  rest : List UInt8
  page_pos : 0 < page.length
  filled : kernel.length + filling.length = pagesFor kernel.length page.length * page.length
  ramdisk_pos : 0 < ramdisk.length
  complete : headerSize ≤ (page ++ kernel ++ filling ++ ramdisk ++ rest).length
  kernel_stored : storedField (page ++ kernel ++ filling ++ ramdisk ++ rest) 8 4 = kernel.length
  ramdisk_stored : storedField (page ++ kernel ++ filling ++ ramdisk ++ rest) 16 4 = ramdisk.length
  page_stored : storedField (page ++ kernel ++ filling ++ ramdisk ++ rest) 36 4 = page.length

namespace BootImage

variable (boot : BootImage)

def image : List UInt8 := boot.page ++ boot.kernel ++ boot.filling ++ boot.ramdisk ++ boot.rest

def header : BootImgHdr := .ofBytes (readAt boot.image 0 headerSize)

def ramdiskStart : Nat := boot.page.length * (1 + pagesFor boot.kernel.length boot.page.length)

theorem storedField_header {position width : Nat} (hinside : position + width ≤ headerSize) :
    storedField (readAt boot.image 0 headerSize) position width = storedField boot.image position width := by
  have hfront : readAt boot.image 0 headerSize = boot.image.take headerSize := rfl
  rw [storedField, storedField, hfront, readAt_take hinside]

theorem storedField_lt (image : List UInt8) (position : Nat) : storedField image position 4 < 2 ^ 32 := by
  have hlength : (readAt image position 4).reverse.length ≤ 4 := by
    rw [List.length_reverse, readAt, List.length_take]
    exact Nat.min_le_left _ _
  calc storedField image position 4 < 256 ^ (readAt image position 4).reverse.length := bigEndian_lt _
    _ ≤ 256 ^ 4 := Nat.pow_le_pow_right (by decide) hlength
    _ = 2 ^ 32 := by decide

theorem header_sizes : boot.header.kernelSize.toNat = boot.kernel.length ∧
    boot.header.ramdiskSize.toNat = boot.ramdisk.length ∧ boot.header.pageSize.toNat = boot.page.length := by
  have hfield : ∀ position, position + 4 ≤ headerSize →
      (BitVec.ofNat 32 (storedField (readAt boot.image 0 headerSize) position 4)).toNat =
        storedField boot.image position 4 := by
    intro position hinside
    rw [boot.storedField_header hinside, BitVec.toNat_ofNat, Nat.mod_eq_of_lt (storedField_lt _ _)]
  exact ⟨(hfield 8 (by decide)).trans boot.kernel_stored, (hfield 16 (by decide)).trans boot.ramdisk_stored,
    (hfield 36 (by decide)).trans boot.page_stored⟩

theorem extractAndroid_ramdisk {allocates : Nat → Bool} (hmalloc : allocates headerSize = true) :
    extractAndroid allocates boot.image elfRamdiskLocation =
      some ((boot.kernel.length / boot.page.length + 2) * boot.page.length % ulongSize,
        boot.ramdisk.length) := by
  obtain ⟨hkernel, hramdisk, hpage⟩ := boot.header_sizes
  have hcomplete : (readAt boot.image 0 headerSize).length = headerSize := by
    rw [readAt, List.drop_zero, List.length_take]
    exact Nat.min_eq_left boot.complete
  have hpageNe : boot.header.pageSize ≠ 0 := by
    intro hzero
    have hpos := boot.page_pos
    rw [← hpage, hzero] at hpos
    exact absurd hpos (by decide)
  have hramdiskNe : boot.header.ramdiskSize ≠ 0 := by
    intro hzero
    have hpos := boot.ramdisk_pos
    rw [← hramdisk, hzero] at hpos
    exact absurd hpos (by decide)
  have hoffset : ((boot.header.kernelSize / boot.header.pageSize + 1) * boot.header.pageSize +
      boot.header.pageSize).toNat =
        (boot.kernel.length / boot.page.length + 2) * boot.page.length % ulongSize := by
    have hone : (1 : BitVec 32).toNat = 1 := rfl
    simp only [BitVec.toNat_add, BitVec.toNat_mul, BitVec.toNat_udiv, hkernel, hpage, hone,
      Nat.mod_add_mod, Nat.mod_mul_mod, ulongSize]
    congr 1
    ring
  rw [extractAndroid, if_neg (by decide), hmalloc, Bool.not_true, if_neg Bool.false_ne_true]
  dsimp only
  rw [if_neg (not_not.mpr hcomplete), ← header, if_neg hpageNe, if_pos rfl, if_neg hramdiskNe, hoffset,
    hramdisk]

/-- The offset is where the ramdisk starts exactly when the kernel does not fill its last page and the offset
fits 32 bits. -/
theorem extractAndroid_ramdiskStart_iff (allocates : Nat → Bool) :
    (∃ size, extractAndroid allocates boot.image elfRamdiskLocation = some (boot.ramdiskStart, size)) ↔
      allocates headerSize = true ∧ ¬boot.page.length ∣ boot.kernel.length ∧
        (boot.kernel.length / boot.page.length + 2) * boot.page.length < ulongSize := by
  cases hmalloc : allocates headerSize with
  | false =>
    have hnone : extractAndroid allocates boot.image elfRamdiskLocation = none := by
      rw [extractAndroid, if_neg (by decide), hmalloc, Bool.not_false, if_pos rfl]
    simp [hnone]
  | true =>
    simp only [boot.extractAndroid_ramdisk hmalloc, Option.some.injEq, Prod.mk.injEq, exists_and_left,
      exists_eq', and_true, true_and]
    have hpage : boot.page.length < ulongSize := boot.page_stored ▸ storedField_lt _ _
    have hpos := boot.page_pos
    have hulong : ulongSize = 2 ^ 32 := rfl
    rw [ramdiskStart]
    by_cases hdvd : boot.page.length ∣ boot.kernel.length
    · -- A kernel that fills its last page takes the quotient of pages, and the code adds one.
      rw [pagesFor_of_dvd hpos hdvd, iff_false_right (fun h => h.1 hdvd),
        show (boot.kernel.length / boot.page.length + 2) * boot.page.length =
          boot.page.length * (1 + boot.kernel.length / boot.page.length) + boot.page.length by ring]
      intro heq
      rw [hulong] at heq hpage
      omega
    · rw [pagesFor_of_not_dvd hpos hdvd, and_iff_right hdvd,
        show boot.page.length * (1 + (boot.kernel.length / boot.page.length + 1)) =
          (boot.kernel.length / boot.page.length + 2) * boot.page.length by ring, hulong]
      omega

end BootImage

def headerPage (kernelSize : Nat) : List UInt8 :=
  [0x41, 0x4e, 0x44, 0x52, 0x4f, 0x49, 0x44, 0x21] ++ toLittleEndian 4 kernelSize ++ toLittleEndian 4 0 ++
    toLittleEndian 4 1 ++ List.replicate 16 0 ++ toLittleEndian 4 608 ++ List.replicate 568 0

theorem headerPage_length (kernelSize : Nat) : (headerPage kernelSize).length = 608 := by
  simp only [headerPage, List.length_append, List.length_cons, List.length_nil, toLittleEndian_length,
    List.length_replicate]

def wholePageImage : BootImage where
  page := headerPage 608
  kernel := List.replicate 608 0
  filling := []
  ramdisk := [7]
  rest := []
  page_pos := by rw [headerPage_length]; decide
  filled := by rw [headerPage_length, List.length_replicate]; decide
  ramdisk_pos := by decide
  complete := by
    simp only [List.length_append, headerPage_length, headerSize]
    omega
  kernel_stored := by rw [List.length_replicate]; decide +kernel
  ramdisk_stored := by decide +kernel
  page_stored := by rw [headerPage_length]; decide +kernel

/-- The ramdisk starts behind two pages, and the offset is that of the third one. -/
theorem wholePageImage_missed :
    ¬∃ size, extractAndroid (fun _ => true) wholePageImage.image elfRamdiskLocation =
      some (wholePageImage.ramdiskStart, size) := by
  have hpage : wholePageImage.page.length = 608 := headerPage_length 608
  have hkernel : wholePageImage.kernel.length = 608 := List.length_replicate
  have hoffset : (608 / 608 + 2) * 608 % ulongSize = 1824 := by decide
  have hstart : wholePageImage.ramdiskStart = 1216 := by
    rw [BootImage.ramdiskStart, hpage, hkernel]
    decide
  rw [wholePageImage.extractAndroid_ramdisk rfl, hpage, hkernel, hoffset, hstart]
  rintro ⟨size, hsize⟩
  cases hsize

end Nozomi
