import Nozomi.Base.LinkedList
import Nozomi.Base.Run
import Nozomi.Vdec.TimestampReorder.Removal

/-!
# The reorder tables in memory

`omx_time_stamp_reorder` with its pointers: the tables are nodes of a circle that `phead` points into, made by
`new` and deleted one by one. `none` is an access through `NULL` or to a deleted node. The object stands for
the list of its tables, so no run makes such an access.
-/

namespace Nozomi

/-- `class omx_time_stamp_reorder` and its nodes. `tables` has the table of every node that is not deleted, and
`allocated` counts the calls of `new`, each of which gives an address of its own. -/
structure ReorderMemory where
  reorderTs : Bool
  error : Bool
  links : Links Nat
  tables : Nat → Option TimeStampList
  phead : Option Nat
  pcurrent : Option Nat
  allocated : Nat

namespace ReorderMemory

def new (mode : Bool) : ReorderMemory :=
  ⟨mode, false, ⟨fun _ => none, fun _ => none⟩, fun _ => none, none, none, 0⟩

/-! ### Accesses -/

def target (memory : ReorderMemory) (pointer : Option Nat) : Option Nat :=
  pointer.filter fun node => (memory.tables node).isSome

def next (memory : ReorderMemory) (pointer : Option Nat) : Option (Option Nat) :=
  (memory.target pointer).map memory.links.next

def prev (memory : ReorderMemory) (pointer : Option Nat) : Option (Option Nat) :=
  (memory.target pointer).map memory.links.prev

def table (memory : ReorderMemory) (pointer : Option Nat) : Option TimeStampList := pointer.bind memory.tables

def setNext (memory : ReorderMemory) (pointer value : Option Nat) : Option ReorderMemory :=
  (memory.target pointer).map fun node => { memory with links := memory.links.setNext node value }

def setPrev (memory : ReorderMemory) (pointer value : Option Nat) : Option ReorderMemory :=
  (memory.target pointer).map fun node => { memory with links := memory.links.setPrev node value }

def setTable (memory : ReorderMemory) (pointer : Option Nat) (table : TimeStampList) : Option ReorderMemory :=
  (memory.target pointer).map fun node =>
    { memory with tables := Function.update memory.tables node (some table) }

def delete (memory : ReorderMemory) (pointer : Option Nat) : Option ReorderMemory :=
  (memory.target pointer).map fun node => { memory with tables := Function.update memory.tables node none }

def allocate (memory : ReorderMemory) : ReorderMemory :=
  { memory with
    tables := Function.update memory.tables memory.allocated (some .new)
    allocated := memory.allocated + 1 }

/-! ### The functions -/

def unlinkHead (memory : ReorderMemory) : Option ReorderMemory := do
  let ptemp := memory.phead
  let phead ← memory.next ptemp
  let memory := { memory with phead := phead }
  let before ← memory.prev ptemp
  let memory ← memory.setPrev memory.phead before
  let before ← memory.prev ptemp
  let memory ← memory.setNext before memory.phead
  memory.delete ptemp

def deleteLoop : (rounds : Nat) → ReorderMemory → Option ReorderMemory
  | 0, _ => none
  | rounds + 1, memory => do
    let second ← memory.next memory.phead
    if second ≠ memory.phead then
      let memory ← memory.unlinkHead
      deleteLoop rounds memory
    else
      let memory ← memory.delete memory.phead
      some { memory with phead := none }

def deleteList (memory : ReorderMemory) : Option ReorderMemory :=
  if memory.phead = none then some memory else deleteLoop memory.allocated memory

def handleError (memory : ReorderMemory) : Option ReorderMemory :=
  if memory.error then some memory else { memory with error := true : ReorderMemory }.deleteList

def addNewList (memory : ReorderMemory) : Option ReorderMemory := do
  let ptemp := some memory.allocated
  let memory := memory.allocate
  if memory.phead = none then
    let memory := { memory with phead := ptemp }
    let memory ← memory.setNext ptemp ptemp
    memory.setPrev ptemp ptemp
  else
    let before ← memory.prev memory.phead
    let memory ← memory.setPrev ptemp before
    let memory ← memory.setNext ptemp memory.phead
    let before ← memory.prev memory.phead
    let memory ← memory.setNext before ptemp
    memory.setPrev memory.phead ptemp

def getCurrentList (memory : ReorderMemory) : Option ReorderMemory := do
  let memory ← if memory.phead = none then memory.addNewList else some memory
  let before ← memory.prev memory.phead
  some { memory with pcurrent := before }

def updateHead (memory : ReorderMemory) : Option (ReorderMemory × Bool) := do
  if memory.phead = none then some (memory, false)
  else
    let second ← memory.next memory.phead
    if second ≠ memory.phead then
      let memory ← memory.unlinkHead
      some (memory, true)
    else some (memory, true)

def insertTimestamp (memory : ReorderMemory) (header : BufferHeader) : Option (ReorderMemory × Bool) := do
  if !memory.reorderTs || memory.error then some (memory, false)
  else
    let memory ← memory.getCurrentList
    let current ← memory.table memory.pcurrent
    if current.entriesFilled > timeSz - 1 then
      let memory ← memory.handleError
      some (memory, false)
    else if header.hasCodecConfig then some (memory, true)
    else if header.hasEos ∧ header.nFilledLen = 0 then
      let memory ← memory.addNewList
      some (memory, true)
    else
      match current.firstFree with
      | none =>
        let memory ← memory.handleError
        some (memory, false)
      | some index =>
        let memory ← memory.setTable memory.pcurrent (current.take index header.nTimeStamp)
        if header.hasEos then
          let memory ← memory.addNewList
          some (memory, true)
        else some (memory, true)

def dropDrained {β : Type} (memory : ReorderMemory) (head : TimeStampList) (value failure : β) :
    Option (ReorderMemory × β) := do
  if head.entriesFilled = 0 then
    let (memory, updated) ← memory.updateHead
    if updated then some (memory, value)
    else
      let memory ← memory.handleError
      some (memory, failure)
  else some (memory, value)

def removeTimeStamp (memory : ReorderMemory) (ts : Int) (isInterlaced : Bool) :
    Option (ReorderMemory × Bool) := do
  if !memory.reorderTs || memory.error || memory.phead == none then some (memory, false)
  else
    let head ← memory.table memory.phead
    if head.entriesFilled = 0 then some (memory, false)
    else
      let head := head.remove ts isInterlaced
      let memory ← memory.setTable memory.phead head
      memory.dropDrained head true false

def getNextTimestamp (memory : ReorderMemory) (isInterlaced : Bool) :
    Option (ReorderMemory × Option Int) := do
  if !memory.reorderTs || memory.error || memory.phead == none then some (memory, none)
  else
    let head ← memory.table memory.phead
    if head.entriesFilled = 0 then some (memory, none)
    else
      let taken := head.takeNext isInterlaced
      let memory ← memory.setTable memory.phead taken.1
      memory.dropDrained taken.1 taken.2 none

def act (memory : ReorderMemory) : ReorderAction → Option ReorderMemory
  | .insert header => (memory.insertTimestamp header).map Prod.fst
  | .remove ts isInterlaced => (memory.removeTimeStamp ts isInterlaced).map Prod.fst
  | .next isInterlaced => (memory.getNextTimestamp isInterlaced).map Prod.fst
  | .flush => memory.deleteList

end ReorderMemory

/-! ### The tables that the object stands for -/

/-- The nodes are a circle from `phead` on with the tables of the object, and there are no others. -/
structure ReorderMemory.Represents (memory : ReorderMemory) (reorder : TimeStampReorder) (nodes : List Nat) :
    Prop where
  mode : memory.reorderTs = reorder.reorderTs
  error : memory.error = reorder.error
  phead : memory.phead = nodes.head?
  circle : memory.links.Circle nodes
  tables : nodes.map memory.tables = reorder.tables.map some
  live : ∀ node, memory.tables node ≠ none → node ∈ nodes
  allocated : ∀ node ∈ nodes, node < memory.allocated

namespace ReorderMemory.Represents

variable {memory : ReorderMemory} {reorder : TimeStampReorder} {node : Nat} {nodes : List Nat}

theorem tables_isSome (hrep : Represents memory reorder nodes) (hnode : node ∈ nodes) :
    (memory.tables node).isSome = true := by
  have hmem := List.mem_map_of_mem (f := memory.tables) hnode
  rw [hrep.tables, List.mem_map] at hmem
  obtain ⟨table, -, htable⟩ := hmem
  rw [← htable]
  rfl

theorem target_eq (hrep : Represents memory reorder nodes) (hnode : node ∈ nodes) :
    memory.target (some node) = some node := by
  rw [target, Option.filter_some, if_pos (hrep.tables_isSome hnode)]

theorem length_eq (hrep : Represents memory reorder nodes) : nodes.length = reorder.tables.length := by
  have hlength := congrArg List.length hrep.tables
  rwa [List.length_map, List.length_map] at hlength

theorem nil_iff (hrep : Represents memory reorder nodes) : nodes = [] ↔ reorder.tables = [] := by
  rw [← List.length_eq_zero_iff, hrep.length_eq, List.length_eq_zero_iff]

theorem phead_eq_none_iff (hrep : Represents memory reorder nodes) :
    memory.phead = none ↔ reorder.tables = [] := by
  rw [hrep.phead, List.head?_eq_none_iff, hrep.nil_iff]

variable {head : TimeStampList} {rest : List TimeStampList}

theorem cons_tables (hrep : Represents memory reorder nodes) (htables : reorder.tables = head :: rest) :
    ∃ first others, nodes = first :: others ∧ memory.phead = some first ∧ memory.tables first = some head ∧
      others.map memory.tables = rest.map some := by
  cases hnodes : nodes with
  | nil => exact absurd (hrep.nil_iff.mp hnodes) (by rw [htables]; exact List.cons_ne_nil _ _)
  | cons first others =>
    have hmap := hrep.tables
    rw [hnodes, htables, List.map_cons, List.map_cons, List.cons.injEq] at hmap
    exact ⟨first, others, rfl, by rw [hrep.phead, hnodes]; rfl, hmap⟩

theorem map_update {others : List Nat} (hnode : node ∉ others) (value : Option TimeStampList) :
    others.map (Function.update memory.tables node value) = others.map memory.tables := by
  apply List.map_congr_left
  intro place hplace
  exact Function.update_of_ne (ne_of_mem_of_not_mem hplace hnode) _ _

theorem live_delete {first : Nat} {rest : List Nat} (hrep : Represents memory reorder (first :: rest)) :
    ∀ place, Function.update memory.tables first none place ≠ none → place ∈ rest := by
  intro place hplace
  by_cases hdeleted : place = first
  · rw [hdeleted, Function.update_self] at hplace
    exact absurd rfl hplace
  · rw [Function.update_of_ne hdeleted] at hplace
    exact (List.mem_cons.mp (hrep.live place hplace)).resolve_left hdeleted

theorem unlinkHead {first second : Nat} {rest : List Nat} {others : List TimeStampList}
    (hrep : Represents memory reorder (first :: second :: rest)) (htables : reorder.tables = head :: others) :
    ∃ next, memory.unlinkHead = some next ∧
      Represents next { reorder with tables := others } (second :: rest) ∧ next.allocated = memory.allocated := by
  obtain ⟨front, last, hsplit, hlast⟩ := Links.exists_last second rest
  have hnodup := hrep.circle.nodup
  obtain ⟨hfirst, hrestNodup⟩ := List.nodup_cons.mp hnodup
  have hne : first ≠ second := fun heq => hfirst (heq ▸ List.mem_cons_self)
  have hlastMem : last ∈ second :: rest := by
    rw [hsplit]
    simp
  have hprev : memory.links.prev first = some last := by
    rw [hrep.circle.prev_head, List.getLast?_cons_cons, hlast]
  have hnext : memory.links.next first = some second := hrep.circle.next_head
  have htarget : ∀ place ∈ first :: second :: rest, memory.target (some place) = some place :=
    fun place hplace => hrep.target_eq hplace
  simp only [target] at htarget
  have hresult : memory.unlinkHead = some
      { memory with
        phead := some second
        links := (memory.links.setPrev second (some last)).setNext last (some second)
        tables := Function.update memory.tables first none } := by
    have hphead : memory.phead = some first := hrep.phead
    simp [ReorderMemory.unlinkHead, ReorderMemory.next, ReorderMemory.prev, ReorderMemory.setPrev,
      ReorderMemory.setNext, ReorderMemory.delete, target, hphead, htarget first (by simp),
      htarget second (by simp), htarget last (List.mem_cons_of_mem _ hlastMem), hnext, hprev,
      Links.setPrev_prev_of_ne hne]
  have hothers : (second :: rest).map memory.tables = others.map some := by
    have hmap := hrep.tables
    rw [htables] at hmap
    exact (List.cons.inj hmap).2
  exact ⟨_, hresult, ⟨hrep.mode, hrep.error, rfl, hrep.circle.removeHead hlast,
    (map_update hfirst none).trans hothers, hrep.live_delete,
    fun place hplace => hrep.allocated place (List.mem_cons_of_mem _ hplace)⟩, rfl⟩

theorem next_phead {first : Nat} {rest : List Nat} (hrep : Represents memory reorder (first :: rest)) :
    memory.next memory.phead = some (rest.head?.or (some first)) := by
  have hphead : memory.phead = some first := hrep.phead
  rw [hphead, ReorderMemory.next, hrep.target_eq List.mem_cons_self, Option.map_some, hrep.circle.next_head]

theorem deleteLoop (rounds : Nat) :
    ∀ {memory : ReorderMemory} {reorder : TimeStampReorder} {nodes : List Nat},
      Represents memory reorder nodes → nodes ≠ [] → nodes.length ≤ rounds →
      ∃ next, memory.deleteLoop rounds = some next ∧ Represents next { reorder with tables := [] } [] := by
  induction rounds with
  | zero =>
    intro memory reorder nodes _ hnonempty hlength
    exact absurd (List.length_eq_zero_iff.mp (Nat.le_zero.mp hlength)) hnonempty
  | succ rounds ih =>
    intro memory reorder nodes hrep hnonempty hlength
    obtain ⟨first, rest, rfl⟩ := List.exists_cons_of_ne_nil hnonempty
    have hphead : memory.phead = some first := hrep.phead
    cases rest with
    | nil =>
      refine ⟨{ memory with phead := none, tables := Function.update memory.tables first none }, ?_,
        hrep.mode, hrep.error, rfl, Links.circle_nil _, rfl, hrep.live_delete,
        fun _ hnone => (List.not_mem_nil hnone).elim⟩
      rw [ReorderMemory.deleteLoop, hrep.next_phead]
      simp [hphead, ReorderMemory.delete, hrep.target_eq List.mem_cons_self]
    | cons second rest =>
      have hne : second ≠ first := by
        rintro rfl
        exact (List.nodup_cons.mp hrep.circle.nodup).1 List.mem_cons_self
      obtain ⟨head, others, htables⟩ : ∃ head others, reorder.tables = head :: others := by
        apply List.exists_cons_of_ne_nil
        rw [ne_eq, ← hrep.nil_iff]
        exact List.cons_ne_nil _ _
      obtain ⟨next, hnext, hnextRep, -⟩ := hrep.unlinkHead htables
      obtain ⟨last, hlast, hlastRep⟩ := ih hnextRep (List.cons_ne_nil _ _) (by
        simp only [List.length_cons] at hlength ⊢
        omega)
      refine ⟨last, ?_, hlastRep⟩
      rw [ReorderMemory.deleteLoop, hrep.next_phead]
      simp [hphead, hne, hnext, hlast]

theorem length_le (hrep : Represents memory reorder nodes) : nodes.length ≤ memory.allocated := by
  have hsubset : nodes ⊆ List.range memory.allocated :=
    fun place hplace => List.mem_range.mpr (hrep.allocated place hplace)
  have hlength := (List.subperm_of_subset hrep.circle.nodup hsubset).length_le
  rwa [List.length_range] at hlength

theorem deleteList (hrep : Represents memory reorder nodes) :
    ∃ next, memory.deleteList = some next ∧ Represents next { reorder with tables := [] } [] := by
  unfold ReorderMemory.deleteList
  by_cases hnone : memory.phead = none
  · rw [if_pos hnone]
    have htables := hrep.phead_eq_none_iff.mp hnone
    obtain rfl := hrep.nil_iff.mpr htables
    refine ⟨memory, rfl, ?_⟩
    rw [← htables]
    exact hrep
  · rw [if_neg hnone]
    refine deleteLoop memory.allocated hrep ?_ hrep.length_le
    rw [ne_eq, hrep.nil_iff, ← hrep.phead_eq_none_iff]
    exact hnone

theorem handleError (hrep : Represents memory reorder nodes) :
    ∃ next nodes', memory.handleError = some next ∧ Represents next reorder.handleError nodes' := by
  unfold ReorderMemory.handleError TimeStampReorder.handleError
  rw [hrep.error]
  split
  · exact ⟨memory, nodes, rfl, hrep⟩
  · have hset : Represents { memory with error := true } { reorder with error := true } nodes :=
      ⟨hrep.mode, rfl, hrep.phead, hrep.circle, hrep.tables, hrep.live, hrep.allocated⟩
    obtain ⟨next, hnext, hnextRep⟩ := hset.deleteList
    exact ⟨next, [], hnext, hnextRep⟩

theorem addNewList (hrep : Represents memory reorder nodes) :
    ∃ next nodes', memory.addNewList = some next ∧ Represents next reorder.addNewList nodes' := by
  have hfresh : memory.allocated ∉ nodes := fun hmem => Nat.lt_irrefl _ (hrep.allocated _ hmem)
  have hlive : ∀ place, Function.update memory.tables memory.allocated (some .new) place ≠ none →
      place ∈ nodes ++ [memory.allocated] := by
    intro place hplace
    by_cases hnew : place = memory.allocated
    · simp [hnew]
    · rw [Function.update_of_ne hnew] at hplace
      exact List.mem_append_left _ (hrep.live place hplace)
  have hallocated : ∀ place ∈ nodes ++ [memory.allocated], place < memory.allocated + 1 := by
    intro place hplace
    rw [List.mem_append, List.mem_singleton] at hplace
    rcases hplace with hplace | rfl
    · exact Nat.lt_succ_of_lt (hrep.allocated place hplace)
    · exact Nat.lt_succ_self _
  have htables : (nodes ++ [memory.allocated]).map
      (Function.update memory.tables memory.allocated (some .new)) =
        (reorder.tables ++ [TimeStampList.new]).map some := by
    rw [List.map_append, List.map_append, map_update hfresh, hrep.tables, List.map_singleton,
      Function.update_self, List.map_singleton]
  cases nodes with
  | nil =>
    have hphead : memory.phead = none := hrep.phead
    refine ⟨{ memory with
        links := (memory.links.setNext memory.allocated (some memory.allocated)).setPrev memory.allocated
          (some memory.allocated)
        tables := Function.update memory.tables memory.allocated (some .new)
        phead := some memory.allocated
        allocated := memory.allocated + 1 }, [memory.allocated], ?_, hrep.mode, hrep.error, rfl,
      Links.circle_singleton memory.links _, htables, hlive, hallocated⟩
    simp [ReorderMemory.addNewList, allocate, hphead, ReorderMemory.setNext, ReorderMemory.setPrev, target,
      Option.filter_some]
  | cons first rest =>
    obtain ⟨front, last, hsplit, hlast⟩ := Links.exists_last first rest
    have hphead : memory.phead = some first := hrep.phead
    have hlastMem : last ∈ first :: rest := by
      rw [hsplit]
      simp
    have hprev : memory.links.prev first = some last := hrep.circle.prev_head.trans hlast
    have hfirstLive := hrep.tables_isSome (List.mem_cons_self (a := first) (l := rest))
    have hlastLive := hrep.tables_isSome hlastMem
    have hnewFirst : first ≠ memory.allocated := fun heq => hfresh (heq ▸ List.mem_cons_self)
    have hnewLast : last ≠ memory.allocated := fun heq => hfresh (heq ▸ hlastMem)
    refine ⟨{ memory with
        links := (((memory.links.setPrev memory.allocated (some last)).setNext memory.allocated
          (some first)).setNext last (some memory.allocated)).setPrev first (some memory.allocated)
        tables := Function.update memory.tables memory.allocated (some .new)
        allocated := memory.allocated + 1 }, first :: rest ++ [memory.allocated], ?_, hrep.mode, hrep.error,
      hphead, hrep.circle.insert hlast hfresh, htables, hlive, hallocated⟩
    simp [ReorderMemory.addNewList, allocate, hphead, ReorderMemory.setNext, ReorderMemory.setPrev,
      ReorderMemory.prev, target, Option.filter_some, hnewFirst, hnewLast, hfirstLive, hlastLive, hprev,
      Links.setPrev_prev_of_ne hnewFirst]

theorem prev_phead (hrep : Represents memory reorder nodes) (hnonempty : reorder.tables ≠ []) :
    ∃ front last, nodes = front ++ [last] ∧ memory.prev memory.phead = some (some last) := by
  obtain ⟨first, rest, rfl⟩ := List.exists_cons_of_ne_nil ((not_congr hrep.nil_iff).mpr hnonempty)
  obtain ⟨front, last, hsplit, hlast⟩ := Links.exists_last first rest
  refine ⟨front, last, hsplit, ?_⟩
  have hphead : memory.phead = some first := hrep.phead
  rw [hphead, ReorderMemory.prev, hrep.target_eq List.mem_cons_self, Option.map_some, hrep.circle.prev_head,
    hlast]

theorem setTable (front : List Nat) {back : List Nat} (hrep : Represents memory reorder (front ++ node :: back))
    (before : List TimeStampList) {after : List TimeStampList} {table : TimeStampList}
    (htables : reorder.tables = before ++ table :: after)
    (hlength : front.length = before.length) (value : TimeStampList) :
    ∃ next, memory.setTable (some node) value = some next ∧
      Represents next { reorder with tables := before ++ value :: after } (front ++ node :: back) ∧
      next.pcurrent = memory.pcurrent := by
  have hmem : node ∈ front ++ node :: back := by simp
  have hnodup := List.nodup_append.mp hrep.circle.nodup
  have hback : node ∉ back := (List.nodup_cons.mp hnodup.2.1).1
  have hfront : node ∉ front := fun hplace => hnodup.2.2 node hplace node List.mem_cons_self rfl
  have hmap := hrep.tables
  rw [htables, List.map_append, List.map_append, List.map_cons, List.map_cons] at hmap
  obtain ⟨hbefore, hrest⟩ := List.append_inj hmap (by simpa using hlength)
  obtain ⟨-, hafter⟩ := List.cons.inj hrest
  refine ⟨{ memory with tables := Function.update memory.tables node (some value) }, ?_,
    ⟨hrep.mode, hrep.error, hrep.phead, hrep.circle, ?_, ?_, hrep.allocated⟩, rfl⟩
  · rw [ReorderMemory.setTable, hrep.target_eq hmem, Option.map_some]
  · simp only [List.map_append, List.map_cons]
    rw [map_update hfront, map_update hback, hbefore, hafter, Function.update_self]
  · intro place hplace
    by_cases hsame : place = node
    · rw [hsame]
      exact hmem
    · exact hrep.live place (by rwa [← Function.update_of_ne hsame (some value) memory.tables])

theorem setPcurrent (hrep : Represents memory reorder nodes) (hnonempty : reorder.tables ≠ []) :
    ∃ next, ((memory.prev memory.phead).bind fun before => some { memory with pcurrent := before }) = some next ∧
      Represents next reorder nodes ∧ ∃ front last, nodes = front ++ [last] ∧ next.pcurrent = some last := by
  obtain ⟨front, last, hsplit, hprev⟩ := hrep.prev_phead hnonempty
  rw [hprev]
  exact ⟨_, rfl, ⟨hrep.mode, hrep.error, hrep.phead, hrep.circle, hrep.tables, hrep.live, hrep.allocated⟩, front,
    last, hsplit, rfl⟩

theorem getCurrentList (hrep : Represents memory reorder nodes) :
    ∃ next nodes', memory.getCurrentList = some next ∧ Represents next reorder.getCurrentList nodes' ∧
      ∃ front last, nodes' = front ++ [last] ∧ next.pcurrent = some last := by
  unfold ReorderMemory.getCurrentList TimeStampReorder.getCurrentList
  by_cases hnone : memory.phead = none
  · obtain ⟨middle, nodes', hmiddle, hmiddleRep⟩ := hrep.addNewList
    obtain ⟨next, hnext, hnextRep, hlast⟩ :=
      hmiddleRep.setPcurrent (List.append_ne_nil_of_right_ne_nil _ (List.cons_ne_nil _ _))
    refine ⟨next, nodes', ?_, ?_, hlast⟩
    · rw [if_pos hnone, hmiddle]
      exact hnext
    · rw [if_pos (hrep.phead_eq_none_iff.mp hnone)]
      exact hnextRep
  · have htables := (not_congr hrep.phead_eq_none_iff).mp hnone
    obtain ⟨next, hnext, hnextRep, hlast⟩ := hrep.setPcurrent htables
    refine ⟨next, nodes, ?_, ?_, hlast⟩
    · rw [if_neg hnone]
      exact hnext
    · rw [if_neg htables]
      exact hnextRep

theorem updateHead (hrep : Represents memory reorder nodes) (hnonempty : reorder.tables ≠ []) :
    ∃ next nodes', memory.updateHead = some (next, true) ∧ Represents next reorder.updateHead nodes' := by
  obtain ⟨head, others, htables⟩ := List.exists_cons_of_ne_nil hnonempty
  obtain ⟨first, rest, rfl, hphead, -, hrest⟩ := hrep.cons_tables htables
  unfold ReorderMemory.updateHead
  rw [hrep.next_phead]
  cases rest with
  | nil =>
    obtain rfl : others = [] := by simpa using hrest.symm
    refine ⟨memory, [first], by simp [hphead], ?_⟩
    rw [TimeStampReorder.updateHead, htables]
    exact hrep
  | cons second rest =>
    have hne : second ≠ first := by
      rintro rfl
      exact (List.nodup_cons.mp hrep.circle.nodup).1 List.mem_cons_self
    obtain ⟨next, hnext, hnextRep, -⟩ := hrep.unlinkHead htables
    refine ⟨next, second :: rest, by simp [hphead, hne, hnext], ?_⟩
    cases others with
    | nil => simp at hrest
    | cons third others =>
      rw [TimeStampReorder.updateHead, htables]
      exact hnextRep

theorem dropDrained {β : Type} (hrep : Represents memory { reorder with tables := head :: rest } nodes)
    (value failure : β) :
    ∃ next nodes', memory.dropDrained head value failure = some (next, value) ∧
      Represents next { reorder with tables := afterHead head rest } nodes' := by
  rw [← updateHead_eq]
  unfold ReorderMemory.dropDrained
  by_cases hdrained : head.entriesFilled = 0
  · obtain ⟨next, nodes', hnext, hnextRep⟩ := hrep.updateHead (List.cons_ne_nil _ _)
    refine ⟨next, nodes', ?_, ?_⟩
    · simp [hdrained, hnext]
    · rw [if_pos hdrained]
      exact hnextRep
  · rw [if_neg hdrained, if_neg hdrained]
    exact ⟨memory, nodes, rfl, hrep⟩

theorem current_table {front : List Nat} {last : Nat} (hrep : Represents memory reorder (front ++ [last])) :
    ∃ before, reorder.tables = before ++ [reorder.current] ∧ front.length = before.length ∧
      memory.tables last = some reorder.current := by
  have hmap := hrep.tables
  have hnonempty : reorder.tables ≠ [] := by
    rw [ne_eq, ← hrep.nil_iff]
    simp
  obtain ⟨before, other, hsplit⟩ := (List.eq_nil_or_concat reorder.tables).resolve_left hnonempty
  rw [List.concat_eq_append] at hsplit
  have hcurrent : reorder.current = other := by simp [TimeStampReorder.current, hsplit]
  rw [hsplit, List.map_append, List.map_append, List.map_singleton, List.map_singleton] at hmap
  obtain ⟨hfront, hlast⟩ := List.append_inj' hmap rfl
  rw [hcurrent]
  exact ⟨before, hsplit, by simpa using congrArg List.length hfront, List.singleton_inj.mp hlast⟩

theorem off_eq (hrep : Represents memory reorder nodes) :
    (!memory.reorderTs || memory.error) = (!reorder.reorderTs || reorder.error) := by
  rw [hrep.mode, hrep.error]

theorem of_head (hrep : Represents memory reorder nodes) (hhead : HasHead reorder head rest) :
    (!memory.reorderTs || memory.error || memory.phead == none) = false ∧
      memory.table memory.phead = some head ∧
      ∀ value, ∃ next, memory.setTable memory.phead value = some next ∧
        Represents next { reorder with tables := value :: rest } nodes := by
  obtain ⟨first, others, rfl, hphead, hfirst, -⟩ := hrep.cons_tables hhead.tables
  refine ⟨?_, ?_, fun value => ?_⟩
  · rw [hrep.mode, hrep.error, hhead.mode, hhead.noError, hphead]
    rfl
  · rw [hphead]
    exact hfirst
  · obtain ⟨next, hnext, hnextRep, -⟩ := setTable [] hrep [] hhead.tables rfl value
    exact ⟨next, by rw [hphead]; exact hnext, hnextRep⟩

theorem of_no_head (hrep : Represents memory reorder nodes) (hnone : ∀ head rest, ¬ HasHead reorder head rest) :
    (!memory.reorderTs || memory.error || memory.phead == none) = true ∨
      ∃ head, (!memory.reorderTs || memory.error || memory.phead == none) = false ∧
        memory.table memory.phead = some head ∧ head.entriesFilled = 0 := by
  cases hoff : (!memory.reorderTs || memory.error || memory.phead == none) with
  | true => exact .inl rfl
  | false =>
    rw [Bool.or_eq_false_iff, hrep.off_eq, Bool.or_eq_false_iff, Bool.not_eq_false'] at hoff
    have htables : reorder.tables ≠ [] := by
      rw [ne_eq, ← hrep.phead_eq_none_iff]
      exact beq_eq_false_iff_ne.mp hoff.2
    obtain ⟨head, rest, htables⟩ := List.exists_cons_of_ne_nil htables
    obtain ⟨first, others, rfl, hphead, hfirst, -⟩ := hrep.cons_tables htables
    refine .inr ⟨head, rfl, by rw [hphead]; exact hfirst, ?_⟩
    by_contra hfilled
    exact hnone head rest ⟨hoff.1.1, hoff.1.2, htables, hfilled⟩

theorem removeTimeStamp (hrep : Represents memory reorder nodes) (ts : Int) (isInterlaced : Bool) :
    ∃ next nodes', memory.removeTimeStamp ts isInterlaced =
        some (next, (reorder.removeTimeStamp ts isInterlaced).2) ∧
      Represents next (reorder.removeTimeStamp ts isInterlaced).1 nodes' := by
  unfold ReorderMemory.removeTimeStamp
  by_cases hsome : ∃ head rest, HasHead reorder head rest
  · obtain ⟨head, rest, hhead⟩ := hsome
    obtain ⟨hon, htable, hset⟩ := hrep.of_head hhead
    obtain ⟨middle, hmiddle, hmiddleRep⟩ := hset (head.remove ts isInterlaced)
    obtain ⟨next, nodes', hnext, hnextRep⟩ := hmiddleRep.dropDrained true false
    rw [TimeStampReorder.removeTimeStamp_of_head hhead, hon, htable]
    refine ⟨next, nodes', ?_, hnextRep⟩
    simp [hhead.filled, hmiddle, hnext]
  · have hnone := fun head rest hhead => hsome ⟨head, rest, hhead⟩
    rw [(TimeStampReorder.no_head hnone ts isInterlaced).2]
    refine ⟨memory, nodes, ?_, hrep⟩
    rcases hrep.of_no_head hnone with hoff | ⟨head, hon, htable, hdrained⟩
    · rw [if_pos hoff]
    · rw [hon, htable]
      simp [hdrained]

theorem getNextTimestamp (hrep : Represents memory reorder nodes) (isInterlaced : Bool) :
    ∃ next nodes', memory.getNextTimestamp isInterlaced =
        some (next, (reorder.getNextTimestamp isInterlaced).2) ∧
      Represents next (reorder.getNextTimestamp isInterlaced).1 nodes' := by
  unfold ReorderMemory.getNextTimestamp
  by_cases hsome : ∃ head rest, HasHead reorder head rest
  · obtain ⟨head, rest, hhead⟩ := hsome
    obtain ⟨hon, htable, hset⟩ := hrep.of_head hhead
    obtain ⟨middle, hmiddle, hmiddleRep⟩ := hset (head.takeNext isInterlaced).1
    obtain ⟨next, nodes', hnext, hnextRep⟩ := hmiddleRep.dropDrained (head.takeNext isInterlaced).2 none
    rw [TimeStampReorder.getNextTimestamp_of_head hhead, hon, htable]
    refine ⟨next, nodes', ?_, hnextRep⟩
    simp [hhead.filled, hmiddle, hnext]
  · have hnone := fun head rest hhead => hsome ⟨head, rest, hhead⟩
    rw [(TimeStampReorder.no_head hnone 0 isInterlaced).1]
    refine ⟨memory, nodes, ?_, hrep⟩
    rcases hrep.of_no_head hnone with hoff | ⟨head, hon, htable, hdrained⟩
    · rw [if_pos hoff]
    · rw [hon, htable]
      simp [hdrained]

theorem insertTimestamp (hrep : Represents memory reorder nodes) (header : BufferHeader) :
    ∃ next nodes', memory.insertTimestamp header = some (next, (reorder.insertTimestamp header).2) ∧
      Represents next (reorder.insertTimestamp header).1 nodes' := by
  unfold ReorderMemory.insertTimestamp TimeStampReorder.insertTimestamp
  rw [hrep.off_eq]
  by_cases hoff : (!reorder.reorderTs || reorder.error) = true
  · rw [if_pos hoff, if_pos hoff]
    exact ⟨memory, nodes, rfl, hrep⟩
  rw [if_neg hoff, if_neg hoff]
  obtain ⟨middle, nodes', hmiddle, hmiddleRep, front, last, rfl, hpcurrent⟩ := hrep.getCurrentList
  rw [hmiddle]
  generalize reorder.getCurrentList = current at hmiddleRep ⊢
  obtain ⟨before, htables, hlength, htable⟩ := hmiddleRep.current_table
  have hcurrent : middle.table middle.pcurrent = some current.current := by
    rw [hpcurrent]
    exact htable
  simp only [Option.bind_eq_bind, Option.bind_some, hcurrent]
  by_cases hfull : current.current.entriesFilled > timeSz - 1
  · obtain ⟨next, nodes', hnext, hnextRep⟩ := hmiddleRep.handleError
    rw [if_pos hfull, if_pos hfull, hnext]
    exact ⟨next, nodes', rfl, hnextRep⟩
  rw [if_neg hfull, if_neg hfull]
  by_cases hcodec : header.hasCodecConfig = true
  · rw [if_pos hcodec, if_pos hcodec]
    exact ⟨middle, _, rfl, hmiddleRep⟩
  rw [if_neg hcodec, if_neg hcodec]
  by_cases hempty : header.hasEos = true ∧ header.nFilledLen = 0
  · obtain ⟨next, nodes', hnext, hnextRep⟩ := hmiddleRep.addNewList
    rw [if_pos hempty, if_pos hempty, hnext]
    exact ⟨next, nodes', rfl, hnextRep⟩
  rw [if_neg hempty, if_neg hempty]
  cases hindex : current.current.firstFree with
  | none =>
    obtain ⟨next, nodes', hnext, hnextRep⟩ := hmiddleRep.handleError
    simp only [hnext, Option.bind_some]
    exact ⟨next, nodes', rfl, hnextRep⟩
  | some index =>
    obtain ⟨taken, htaken, htakenRep, -⟩ := setTable front hmiddleRep before htables hlength
      (current.current.take index header.nTimeStamp)
    have hset : current.setCurrent (current.current.take index header.nTimeStamp) =
        { current with tables := before ++ [current.current.take index header.nTimeStamp] } := by
      rw [TimeStampReorder.setCurrent, htables, List.dropLast_concat]
    rw [← hset] at htakenRep
    simp only [hpcurrent, htaken, Option.bind_some]
    by_cases heos : header.hasEos = true
    · obtain ⟨next, nodes', hnext, hnextRep⟩ := htakenRep.addNewList
      rw [if_pos heos, if_pos heos, hnext]
      exact ⟨next, nodes', rfl, hnextRep⟩
    · rw [if_neg heos, if_neg heos]
      exact ⟨taken, _, rfl, htakenRep⟩

theorem act (hrep : Represents memory reorder nodes) (action : ReorderAction) :
    ∃ next nodes', memory.act action = some next ∧ Represents next (reorder.act action) nodes' := by
  cases action with
  | insert header =>
    obtain ⟨next, nodes', hnext, hnextRep⟩ := hrep.insertTimestamp header
    exact ⟨next, nodes', by rw [ReorderMemory.act, hnext, Option.map_some], hnextRep⟩
  | remove ts isInterlaced =>
    obtain ⟨next, nodes', hnext, hnextRep⟩ := hrep.removeTimeStamp ts isInterlaced
    exact ⟨next, nodes', by rw [ReorderMemory.act, hnext, Option.map_some], hnextRep⟩
  | next isInterlaced =>
    obtain ⟨next, nodes', hnext, hnextRep⟩ := hrep.getNextTimestamp isInterlaced
    exact ⟨next, nodes', by rw [ReorderMemory.act, hnext, Option.map_some], hnextRep⟩
  | flush =>
    obtain ⟨next, hnext, hnextRep⟩ := hrep.deleteList
    exact ⟨next, [], hnext, hnextRep⟩

end ReorderMemory.Represents

/-! ### Runs -/

/-- The nodes from `phead` on are a circle with these tables, each of which counts its entries in use. -/
structure ReorderMemory.Consistent (memory : ReorderMemory) (nodes : List Nat) (tables : List TimeStampList) :
    Prop where
  phead : memory.phead = nodes.head?
  circle : memory.links.Circle nodes
  contents : nodes.map memory.tables = tables.map some
  filled : ∀ table ∈ tables, table.entriesFilled = table.inputTimestamps.countP Timestamp.inUse
  small : ∀ table ∈ tables, table.entriesFilled ≤ timeSz

theorem ReorderMemory.Represents.consistent {memory : ReorderMemory} {reorder : TimeStampReorder} {nodes : List Nat}
    (hrep : memory.Represents reorder nodes) (hsound : reorder.Sound) : memory.Consistent nodes reorder.tables := by
  refine ⟨hrep.phead, hrep.circle, hrep.tables, fun table htable => ?_, fun table htable => ?_⟩
  · rw [(hsound table htable).filled, TimeStampList.contents, Multiset.coe_card, timesInUse, List.length_map,
      List.countP_eq_length_filter]
  · exact (hsound table htable).filled_le

theorem ReorderMemory.new_represents (mode : Bool) : (new mode).Represents (.new mode) [] :=
  ⟨rfl, rfl, rfl, Links.circle_nil _, rfl, fun _ hlive => absurd rfl hlive, fun _ hmem => (List.not_mem_nil hmem).elim⟩

theorem ReorderMemory.run_represents (mode : Bool) (actions : List ReorderAction) :
    ∃ memory nodes, runSteps act (new mode) actions = some memory ∧
      memory.Represents (TimeStampReorder.after (.new mode) actions) nodes := by
  suffices hrun : ∀ {start : ReorderMemory} {reorder : TimeStampReorder} {nodes : List Nat},
      start.Represents reorder nodes → ∃ memory nodes, runSteps act start actions = some memory ∧
        memory.Represents (reorder.after actions) nodes from hrun (new_represents mode)
  induction actions with
  | nil => exact fun hrep => ⟨_, _, rfl, hrep⟩
  | cons action actions ih =>
    intro start reorder nodes hrep
    obtain ⟨next, nodes', hnext, hnextRep⟩ := hrep.act action
    obtain ⟨memory, last, hrun, hlast⟩ := ih hnextRep
    refine ⟨memory, last, ?_, hlast⟩
    rw [runSteps, hnext]
    exact hrun

/-- Every run stays in its memory and leaves a circle of tables that count their entries, and an interlaced read
then takes the two least timestamps of the first table, or the only one. -/
theorem ReorderMemory.run_consistent (mode : Bool) (actions : List ReorderAction) :
    ∃ memory nodes tables, runSteps act (new mode) actions = some memory ∧ memory.Consistent nodes tables ∧
      ∀ head rest, tables = head :: rest → memory.reorderTs = true → memory.error = false →
        head.contents ≠ 0 →
          ∃ next nodes' least left, memory.getNextTimestamp true = some (next, some least) ∧
            next.Consistent nodes' (afterHead left rest) ∧
            TimeStampList.TakesTwoLeast head.contents least left.contents := by
  obtain ⟨memory, nodes, hrun, hrep⟩ := run_represents mode actions
  obtain ⟨hsound, -⟩ := TimeStampReorder.after_new mode actions
  refine ⟨memory, nodes, _, hrun, hrep.consistent hsound, ?_⟩
  intro head rest htables hmode hnoError hcontents
  have hok := hsound head (by rw [htables]; exact List.mem_cons_self)
  have hfilled : head.entriesFilled ≠ 0 := by
    rw [hok.filled, ne_eq, Multiset.card_eq_zero]
    exact hcontents
  have hhead : HasHead (TimeStampReorder.after (.new mode) actions) head rest :=
    ⟨hrep.mode.symm.trans hmode, hrep.error.symm.trans hnoError, htables, hfilled⟩
  obtain ⟨least, hread, hleft, htakes⟩ := hok.takeNext_interlaced hfilled
  obtain ⟨next, nodes', hnext, hnextRep⟩ := hrep.getNextTimestamp true
  rw [TimeStampReorder.getNextTimestamp_of_head hhead] at hnext hnextRep
  refine ⟨next, nodes', least, (head.takeNext true).1, ?_, ?_, htakes⟩
  · rw [hnext, hread]
  · exact hnextRep.consistent (hsound.afterHead htables hleft)

end Nozomi
