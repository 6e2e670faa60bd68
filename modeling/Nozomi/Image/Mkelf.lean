import Nozomi.Base.BigEndian
import Nozomi.Base.SeekFile

/-!
# The image that `mkelf.py` writes

The arguments are those that the option parser leaves, and a string is the list of its characters. The
script ends without an image where it calls `fatal`, where a file is missing, and where `struct.pack`
refuses a number. The output is none of the input files.

`extract_elf` and `copy_file_part` of `extract_elf_ramdisk.c` copy a segment of it, where the output is not unzipped.
That program is built for a processor on which `long` and `unsigned long` have 32 bits. `gelf_getphdr` of libelf is a
parameter; for an image that is well formed it returns the fields that are stored. The files can be opened, and the
program ends without an output where it calls `exit(-1)`.
-/

namespace Nozomi

/-! ### The arguments -/

inductive SegFlags where
  | ramdisk
  | ipl
  | entry
  | rpm
  | cmdline
  deriving DecidableEq, Repr

/-- An entry of the list that `parse_inputs` returns; the address is what `long` makes of it. -/
structure Seg where
  file : List Char
  addr : Nat
  flags : Option SegFlags
  deriving DecidableEq, Repr

def isHexDigit (c : Char) : Bool :=
  c.isDigit || decide ('a' ≤ c ∧ c ≤ 'f') || decide ('A' ≤ c ∧ c ≤ 'F')

def hexDigit (c : Char) : Nat :=
  if c.isDigit then c.toNat - 48 else if 'a' ≤ c then c.toNat - 87 else c.toNat - 55

def parseFlags (rest : List Char) : Option (Option SegFlags) :=
  let rest := if rest.getLast? = some '\n' then rest.dropLast else rest
  if rest = [] then some none
  else if rest = [',', 'r', 'a', 'm', 'd', 'i', 's', 'k'] then some (some .ramdisk)
  else if rest = [',', 'i', 'p', 'l'] then some (some .ipl)
  else if rest = [',', 'e', 'n', 't', 'r', 'y'] then some (some .entry)
  else if rest = [',', 'r', 'p', 'm'] then some (some .rpm)
  else none

def parseAddr (token : List Char) : Option (Nat × Option SegFlags) :=
  if token = ['c', 'm', 'd', 'l', 'i', 'n', 'e'] then some (0, some .cmdline)
  else
    match token with
    | '0' :: 'x' :: rest =>
      let digits := rest.takeWhile isHexDigit
      if digits = [] then none
      else
        (parseFlags (rest.dropWhile isHexDigit)).map fun flags =>
          (digits.foldl (fun value c => 16 * value + hexDigit c) 0, flags)
    | _ => none

def parseInput (arg : List Char) : Option Seg :=
  match arg.splitOn '@' with
  | [file, token] => (parseAddr token).map fun (addr, flags) => ⟨file, addr, flags⟩
  | _ => none

/-! ### The headers -/

def pack (fields : List (Nat × Nat)) : Option (List UInt8) :=
  if ∀ field ∈ fields, field.2 < 256 ^ field.1 then
    some (fields.flatMap fun field => toLittleEndian field.1 field.2)
  else none

def eIdent : List UInt8 := [0x7f, 0x45, 0x4c, 0x46, 1, 1, 1, 0x61, 0, 0, 0, 0, 0, 0, 0, 0]

def writeElfHeader (entry phnum : Nat) : Option (List UInt8) :=
  (pack [(2, 2), (2, 40), (4, 1), (4, entry), (4, 52), (4, 0), (4, 0), (2, 52), (2, 32), (2, phnum), (2, 0),
    (2, 0), (2, 0)]).map fun fields => eIdent ++ fields

/-- A segment of the image, with the bytes of its file. -/
structure Segment where
  seg : Seg
  offset : Nat
  data : List UInt8

namespace Segment

variable (segment : Segment)

def pFlags : Nat :=
  match segment.seg.flags with
  | some .ramdisk => 0x80000000
  | some .ipl => 0x40000000
  | some .cmdline => 0x20000000
  | some .rpm => 0x01000000
  | some .entry => 0
  | none => 0

def pType : Nat := if segment.seg.flags = some .cmdline then 4 else 1

def writeElfPhdr : Option (List UInt8) :=
  pack [(4, segment.pType), (4, segment.offset), (4, segment.seg.addr), (4, segment.seg.addr),
    (4, segment.data.length), (4, segment.data.length), (4, segment.pFlags), (4, 0)]

end Segment

/-! ### `main` -/

abbrev MkelfInput := Seg × List UInt8

def readInputs (args : List (List Char)) (files : List Char → Option (List UInt8)) :
    Option (List MkelfInput) :=
  args.mapM fun arg => do
    let seg ← parseInput arg
    let data ← files seg.file
    return (seg, data)

def layout : Nat → List MkelfInput → List Segment
  | _, [] => []
  | offset, (seg, data) :: inputs => ⟨seg, offset, data⟩ :: layout (offset + data.length) inputs

def writeHeaders (segments : List Segment) : Option (List UInt8) :=
  match segments with
  | [] => none
  | first :: _ => do
    let header ← writeElfHeader first.seg.addr segments.length
    let phdrs ← segments.mapM Segment.writeElfPhdr
    return header ++ phdrs.flatten

def makeElf (inputs : List MkelfInput) : Option (List UInt8) :=
  let segments := layout 4096 inputs
  (writeHeaders segments).map fun headers =>
    segments.foldl (fun elf segment => writeAt elf segment.offset segment.data) headers

def mkelf (args : List (List Char)) (files : List Char → Option (List UInt8)) : Option (List UInt8) :=
  (readInputs args files).bind makeElf

/-! ### The segment that `extract_elf_ramdisk` copies -/

/-- `GElf_Phdr`, where the program reads it. -/
structure GElfPhdr where
  pOffset : Nat
  pFilesz : Nat
  deriving DecidableEq, Repr

def storedField (image : List UInt8) (position width : Nat) : Nat :=
  littleEndian (readAt image position width)

def storedPhdr (image : List UInt8) (index : Nat) : Option GElfPhdr :=
  let ePhoff := storedField image 28 4
  let ePhentsize := storedField image 42 2
  let ePhnum := storedField image 44 2
  let position := ePhoff + index * ePhentsize
  if readAt image 0 5 = [0x7f, 0x45, 0x4c, 0x46, 1] ∧ index < ePhnum ∧
      position + ePhentsize ≤ image.length then
    some ⟨storedField image (position + 4) 4, storedField image (position + 16) 4⟩
  else none

def extractElf (gelfGetphdr : List UInt8 → Nat → Option GElfPhdr) (image : List UInt8) (ramdiskLoc : Nat) :
    Option (Nat × Nat) :=
  (gelfGetphdr image (ramdiskLoc - 1)).map fun phdr => (phdr.pOffset, phdr.pFilesz)

def ulongSize : Nat := 2 ^ 32

def longSize : Nat := 2 ^ 31

def fseekSet (current position : Nat) : Nat := if position < longSize then position else current

def ftellEnd (infile : List UInt8) : Nat :=
  if infile.length < longSize then infile.length else ulongSize - 1

def copyFilePart (allocates : Nat → Bool) (infile : List UInt8) (offset fileSize : Nat) :
    Option (List UInt8) :=
  let fileSize :=
    if fileSize = 0 then (ftellEnd infile + (ulongSize - offset)) % ulongSize else fileSize
  if !allocates fileSize then none
  else
    let position := if offset ≠ 0 then fseekSet 0 offset else 0
    let buffer := readAt infile position fileSize
    if buffer.length ≠ fileSize then none else some buffer

def extract (gelfGetphdr : List UInt8 → Nat → Option GElfPhdr) (allocates : Nat → Bool)
    (image : List UInt8) (ramdiskLoc : Nat) : Option (List UInt8) :=
  (extractElf gelfGetphdr image ramdiskLoc).bind fun part =>
    copyFilePart allocates image part.1 part.2

end Nozomi
