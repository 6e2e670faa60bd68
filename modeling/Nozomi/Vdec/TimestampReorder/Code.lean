import Nozomi.Vdec.Buffer

/-!
# The timestamp reorder tables

`omx_time_stamp_reorder` of `ts_parser.cpp`: timestamps of input buffers are put into the last of a
list of tables and taken out, least first, from the first of them. The circular list is modelled by the
list of its tables from `phead` on, so `phead->prev` is the last one; no table is `phead == NULL`.
-/

namespace Nozomi

def timeSz : Nat := 64

structure Timestamp where
  timestamps : Int
  inUse : Bool
  deriving DecidableEq, Repr

/-- `struct time_stamp_list`, without its links. -/
structure TimeStampList where
  inputTimestamps : List Timestamp
  entriesFilled : Nat
  deriving DecidableEq, Repr

structure TimeStampReorder where
  reorderTs : Bool
  error : Bool
  tables : List TimeStampList
  deriving DecidableEq, Repr

namespace TimeStampList

def new : TimeStampList := ⟨List.replicate timeSz ⟨-1, false⟩, 0⟩

def firstFree (table : TimeStampList) : Option Nat :=
  table.inputTimestamps.findIdx? fun entry => !entry.inUse

def take (table : TimeStampList) (index : Nat) (timestamp : Int) : TimeStampList :=
  ⟨table.inputTimestamps.set index ⟨timestamp, true⟩, table.entriesFilled + 1⟩

def release (table : TimeStampList) (index : Nat) : TimeStampList :=
  ⟨table.inputTimestamps.modify index fun entry => { entry with inUse := false },
    sub32 table.entriesFilled 1⟩

/-- `element` and `duplicate`, each an index and the timestamp there. -/
structure Selection where
  element : Option (Nat × Int)
  duplicate : Option (Nat × Int)

def selectStep (selection : Selection) (entry : Timestamp × Nat) : Selection :=
  if entry.1.inUse then
    match selection.element with
    | none => { selection with element := some (entry.2, entry.1.timestamps) }
    | some element =>
      if element.2 > entry.1.timestamps then ⟨some (entry.2, entry.1.timestamps), none⟩
      else if element.2 = entry.1.timestamps then
        { selection with duplicate := some (entry.2, entry.1.timestamps) }
      else selection
  else selection

def select (table : TimeStampList) : Selection :=
  table.inputTimestamps.zipIdx.foldl selectStep ⟨none, none⟩

def selectDuplicateStep (duplicate : Option (Nat × Int)) (entry : Timestamp × Nat) :
    Option (Nat × Int) :=
  if entry.1.inUse then
    match duplicate with
    | none => some (entry.2, entry.1.timestamps)
    | some found => if found.2 > entry.1.timestamps then some (entry.2, entry.1.timestamps) else found
  else duplicate

def selectDuplicate (table : TimeStampList) : Option (Nat × Int) :=
  table.inputTimestamps.zipIdx.foldl selectDuplicateStep none

def takeNext (table : TimeStampList) (isInterlaced : Bool) :
    TimeStampList × Option Int :=
  let selection := table.select
  match selection.element with
  | none => (table, none)
  | some (index, timestamp) =>
    let table := table.release index
    if isInterlaced then
      match selection.duplicate with
      | some (second, _) => (table.release second, some timestamp)
      | none =>
        match table.selectDuplicate with
        | some (second, _) => (table.release second, some timestamp)
        | none => (table, some timestamp)
    else (table, some timestamp)

def removeStep (ts : Int) (state : TimeStampList × Nat) (index : Nat) : TimeStampList × Nat :=
  if state.2 ≠ 0 then
    match state.1.inputTimestamps[index]? with
    | some entry =>
      if entry.inUse ∧ entry.timestamps = ts then (state.1.release index, state.2 - 1) else state
    | none => state
  else state

def numEntRemove (isInterlaced : Bool) : Nat := if isInterlaced then 2 else 1

def remove (table : TimeStampList) (ts : Int) (isInterlaced : Bool) : TimeStampList :=
  ((List.range timeSz).foldl (removeStep ts) (table, numEntRemove isInterlaced)).1

end TimeStampList

namespace TimeStampReorder

def new (mode : Bool) : TimeStampReorder := ⟨mode, false, []⟩

def handleError (reorder : TimeStampReorder) : TimeStampReorder :=
  if reorder.error then reorder else { reorder with error := true, tables := [] }

def addNewList (reorder : TimeStampReorder) : TimeStampReorder :=
  { reorder with tables := reorder.tables ++ [.new] }

def getCurrentList (reorder : TimeStampReorder) : TimeStampReorder :=
  if reorder.tables = [] then reorder.addNewList else reorder

def current (reorder : TimeStampReorder) : TimeStampList := reorder.tables.getLastD .new

def setCurrent (reorder : TimeStampReorder) (table : TimeStampList) : TimeStampReorder :=
  { reorder with tables := reorder.tables.dropLast ++ [table] }

def updateHead (reorder : TimeStampReorder) : TimeStampReorder :=
  match reorder.tables with
  | _ :: second :: rest => { reorder with tables := second :: rest }
  | _ => reorder

def insertTimestamp (reorder : TimeStampReorder) (header : BufferHeader) :
    TimeStampReorder × Bool :=
  if !reorder.reorderTs || reorder.error then (reorder, false)
  else
    let reorder := reorder.getCurrentList
    if reorder.current.entriesFilled > timeSz - 1 then (reorder.handleError, false)
    else if header.hasCodecConfig then (reorder, true)
    else if header.hasEos ∧ header.nFilledLen = 0 then (reorder.addNewList, true)
    else
      match reorder.current.firstFree with
      | none => (reorder.handleError, false)
      | some index =>
        let reorder := reorder.setCurrent (reorder.current.take index header.nTimeStamp)
        if header.hasEos then (reorder.addNewList, true) else (reorder, true)

def getNextTimestamp (reorder : TimeStampReorder) (isInterlaced : Bool) :
    TimeStampReorder × Option Int :=
  if !reorder.reorderTs || reorder.error then (reorder, none)
  else
    match reorder.tables with
    | [] => (reorder, none)
    | head :: rest =>
      if head.entriesFilled = 0 then (reorder, none)
      else
        let (head, timestamp) := head.takeNext isInterlaced
        let reorder := { reorder with tables := head :: rest }
        if head.entriesFilled = 0 then (reorder.updateHead, timestamp) else (reorder, timestamp)

def removeTimeStamp (reorder : TimeStampReorder) (ts : Int) (isInterlaced : Bool) :
    TimeStampReorder × Bool :=
  if !reorder.reorderTs || reorder.error then (reorder, false)
  else
    match reorder.tables with
    | [] => (reorder, false)
    | head :: rest =>
      if head.entriesFilled = 0 then (reorder, false)
      else
        let head := head.remove ts isInterlaced
        let reorder := { reorder with tables := head :: rest }
        if head.entriesFilled = 0 then (reorder.updateHead, true) else (reorder, true)

def flushTimestamp (reorder : TimeStampReorder) : TimeStampReorder := { reorder with tables := [] }

end TimeStampReorder

end Nozomi
