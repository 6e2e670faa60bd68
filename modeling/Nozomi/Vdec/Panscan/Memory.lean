import Nozomi.Base.Loop
import Nozomi.Vdec.Panscan.DlList
import Nozomi.Vdec.Panscan.Handler

/-!
# The pan-scan nodes in memory

`panscan_handler` with its pointers: the nodes are those of one array, and each is in one of the two lists. Every
function does to the lists what it does by their order, and the loop of `get_populated` ends.
-/

namespace Nozomi

/-- `class panscan_handler`, with the nodes of `panscan_data` by their index. -/
structure PanscanMemory where
  links : Links Nat
  nodes : Nat → PanscanNode
  panscanUsed : DlList
  panscanFree : DlList

namespace PanscanMemory

open PanscanHandler (cleared)

def initialized (numData : Nat) (links : Links Nat) (nodes : Nat → PanscanNode) : PanscanMemory :=
  let added := DlList.new.addMultiple links numData
  ⟨added.2, nodes, .new, added.1⟩

/-! ### Accesses -/

def setNode (memory : PanscanMemory) (node : Nat) (value : PanscanNode) : PanscanMemory :=
  { memory with nodes := Function.update memory.nodes node value }

def removeFirstUsed (memory : PanscanMemory) : Option Nat × PanscanMemory :=
  let removed := memory.panscanUsed.removeFirst memory.links
  (removed.1, { memory with panscanUsed := removed.2.1, links := removed.2.2 })

def removeLastUsed (memory : PanscanMemory) : Option Nat × PanscanMemory :=
  let removed := memory.panscanUsed.removeLast memory.links
  (removed.1, { memory with panscanUsed := removed.2.1, links := removed.2.2 })

def removeFirstFree (memory : PanscanMemory) : Option Nat × PanscanMemory :=
  let removed := memory.panscanFree.removeFirst memory.links
  (removed.1, { memory with panscanFree := removed.2.1, links := removed.2.2 })

def addLastUsed (memory : PanscanMemory) (node : Option Nat) : PanscanMemory :=
  let added := memory.panscanUsed.addLast memory.links node
  { memory with panscanUsed := added.1, links := added.2 }

def addLastFree (memory : PanscanMemory) (node : Option Nat) : PanscanMemory :=
  let added := memory.panscanFree.addLast memory.links node
  { memory with panscanFree := added.1, links := added.2 }

def freeFirstUsed (memory : PanscanMemory) : PanscanMemory :=
  memory.removeFirstUsed.2.addLastFree memory.removeFirstUsed.1

/-! ### The functions -/

def getFree (memory : PanscanMemory) : Option Nat × PanscanMemory :=
  let taken := match memory.panscanUsed.tail with
    | some last =>
      if (memory.nodes last).startTs < PanscanHandler.llongMax then memory.removeFirstFree
      else memory.removeLastUsed
    | none => memory.removeFirstFree
  match taken.1 with
  | some node => (some node, (taken.2.setNode node (cleared (taken.2.nodes node))).addLastUsed (some node))
  | none => (none, taken.2)

/-- The variables of the loop of `get_populated`. -/
structure Scan where
  memory : PanscanMemory
  panscanNode : Option Nat
  data : Option Nat

def Scan.running (scan : Scan) : Bool := scan.panscanNode.isSome && scan.data.isNone

def Scan.round (frameTs : Int) (scan : Scan) : Scan :=
  match scan.panscanNode with
  | none => scan
  | some node =>
    let value := scan.memory.nodes node
    if value.startTs < PanscanHandler.llongMax then
      let value := value.reach frameTs
      let memory := scan.memory.setNode node value
      if value.startTs ≤ frameTs then
        if frameTs < value.endTs then ⟨memory.setNode node { value with active := true }, some node, some node⟩
        else ⟨memory.freeFirstUsed, memory.freeFirstUsed.panscanUsed.head, none⟩
      else ⟨memory, none, none⟩
    else ⟨scan.memory.setNode node { value with active := true }, some node, some node⟩

def scanStart (memory : PanscanMemory) : Scan := ⟨memory, memory.panscanUsed.head, none⟩

def getPopulated (memory : PanscanMemory) (rounds : Nat) (frameTs : Int) : Option Nat × PanscanMemory :=
  let scan := whileLoop Scan.running (Scan.round frameTs) rounds memory.scanStart
  match scan.data with
  | some node =>
    if (scan.memory.nodes node).panScanParam.rectRepetitionPeriod = 0 then
      (some node, scan.memory.freeFirstUsed)
    else (some node, scan.memory.setNode node (scan.memory.nodes node).spend)
  | none => (none, scan.memory)

def updateLast (memory : PanscanMemory) (frameTs : Int) : PanscanMemory :=
  match memory.panscanUsed.tail with
  | some node =>
    if (memory.nodes node).startTs < PanscanHandler.llongMax then memory
    else
      let memory := memory.setNode node { memory.nodes node with startTs := frameTs }
      match memory.links.prev node with
      | some prev => memory.setNode prev ((memory.nodes prev).followedBy frameTs)
      | none => memory
  | none => memory

/-! ### The two lists -/

structure Lists (memory : PanscanMemory) (used free : List Nat) : Prop where
  usedHolds : memory.panscanUsed.Holds memory.links used
  freeHolds : memory.panscanFree.Holds memory.links free
  disjoint : used.Disjoint free

def handler (memory : PanscanMemory) (used free : List Nat) : PanscanHandler :=
  ⟨used.map memory.nodes, free.map memory.nodes⟩

variable {memory : PanscanMemory} {used free : List Nat} {node : Nat}

theorem initialized_lists (numData : Nat) (links : Links Nat) (nodes : Nat → PanscanNode) :
    (initialized numData links nodes).Lists [] (List.range numData) :=
  ⟨DlList.new_holds _, DlList.addMultiple_holds links numData, List.disjoint_nil_left _⟩

theorem Lists.setNode (hlists : memory.Lists used free) (node : Nat) (value : PanscanNode) :
    (memory.setNode node value).Lists used free :=
  ⟨hlists.usedHolds, hlists.freeHolds, hlists.disjoint⟩

theorem Lists.removeFirstUsed (hlists : memory.Lists (node :: used) free) :
    memory.removeFirstUsed.1 = some node ∧ memory.removeFirstUsed.2.Lists used free ∧ node ∉ used ∧
      node ∉ free := by
  obtain ⟨hused, hfree, hdisjoint⟩ := hlists
  obtain ⟨hnode, hholds, hframe⟩ := hused.removeFirst
  refine ⟨hnode, ⟨hholds, hframe.holds hfree ?_, ?_⟩, (List.nodup_cons.mp hused.row.nodup).1, ?_⟩
  · exact fun place hplace hmem => hdisjoint hmem hplace
  · exact List.disjoint_of_subset_left (List.subset_cons_self _ _) hdisjoint
  · exact hdisjoint List.mem_cons_self

theorem Lists.removeLastUsed (hlists : memory.Lists (used ++ [node]) free) :
    memory.removeLastUsed.1 = some node ∧ memory.removeLastUsed.2.Lists used free ∧ node ∉ used ∧
      node ∉ free := by
  obtain ⟨hused, hfree, hdisjoint⟩ := hlists
  obtain ⟨hnode, hholds, hframe⟩ := hused.removeLast
  refine ⟨hnode, ⟨hholds, hframe.holds hfree ?_, ?_⟩, Links.last_notMem hused.row.nodup, ?_⟩
  · exact fun place hplace hmem => hdisjoint hmem hplace
  · exact List.disjoint_of_subset_left (List.subset_append_left _ _) hdisjoint
  · exact hdisjoint (by simp)

theorem Lists.removeFirstFree (hlists : memory.Lists used (node :: free)) :
    memory.removeFirstFree.1 = some node ∧ memory.removeFirstFree.2.Lists used free ∧ node ∉ used ∧
      node ∉ free := by
  obtain ⟨hused, hfree, hdisjoint⟩ := hlists
  obtain ⟨hnode, hholds, hframe⟩ := hfree.removeFirst
  refine ⟨hnode, ⟨hframe.holds hused ?_, hholds, ?_⟩, ?_, (List.nodup_cons.mp hfree.row.nodup).1⟩
  · exact fun place hplace hmem => hdisjoint hplace hmem
  · exact List.disjoint_of_subset_right (List.subset_cons_self _ _) hdisjoint
  · exact fun hmem => hdisjoint hmem List.mem_cons_self

theorem Lists.addLastUsed (hlists : memory.Lists used free) (hused : node ∉ used) (hfree : node ∉ free) :
    (memory.addLastUsed (some node)).Lists (used ++ [node]) free := by
  obtain ⟨hholds, hframe⟩ := hlists.usedHolds.addLast hused
  have hdisjoint : (used ++ [node]).Disjoint free :=
    List.disjoint_append_left.mpr ⟨hlists.disjoint, by simpa using hfree⟩
  exact ⟨hholds, hframe.holds hlists.freeHolds fun place hplace hmem => hdisjoint hmem hplace, hdisjoint⟩

theorem Lists.addLastFree (hlists : memory.Lists used free) (hused : node ∉ used) (hfree : node ∉ free) :
    (memory.addLastFree (some node)).Lists used (free ++ [node]) := by
  obtain ⟨hholds, hframe⟩ := hlists.freeHolds.addLast hfree
  have hdisjoint : used.Disjoint (free ++ [node]) :=
    List.disjoint_append_right.mpr ⟨hlists.disjoint, by simpa using hused⟩
  exact ⟨hframe.holds hlists.usedHolds fun place hplace hmem => hdisjoint hplace hmem, hholds, hdisjoint⟩

theorem Lists.freeFirstUsed (hlists : memory.Lists (node :: used) free) :
    memory.freeFirstUsed.Lists used (free ++ [node]) := by
  obtain ⟨hnode, hremoved, hused, hfree⟩ := hlists.removeFirstUsed
  unfold PanscanMemory.freeFirstUsed
  rw [hnode]
  exact hremoved.addLastFree hused hfree

theorem map_setNode {others : List Nat} (hnode : node ∉ others) (value : PanscanNode) :
    others.map (memory.setNode node value).nodes = others.map memory.nodes :=
  List.map_congr_left fun _ hplace => Function.update_of_ne (ne_of_mem_of_not_mem hplace hnode) _ _

@[simp] theorem setNode_nodes_self (value : PanscanNode) : (memory.setNode node value).nodes node = value :=
  Function.update_self _ _ _

/-- What a function has made of the lists `used` and `free`. -/
structure Becomes (used free : List Nat) (next : PanscanMemory) (used' free' : List Nat)
    (handler : PanscanHandler) : Prop where
  lists : next.Lists used' free'
  perm : (used' ++ free').Perm (used ++ free)
  handler : next.handler used' free' = handler

/-! ### `get_free` -/

theorem Lists.reuse (hlists : memory.Lists used free) (hused : node ∉ used) (hfree : node ∉ free) :
    ((memory.setNode node (cleared (memory.nodes node))).addLastUsed (some node)).Lists (used ++ [node]) free ∧
      ((memory.setNode node (cleared (memory.nodes node))).addLastUsed (some node)).handler (used ++
        [node]) free =
        ⟨used.map memory.nodes ++ [cleared (memory.nodes node)], free.map memory.nodes⟩ := by
  refine ⟨(hlists.setNode node _).addLastUsed hused hfree, ?_⟩
  change PanscanHandler.mk ((used ++ [node]).map (memory.setNode node _).nodes)
    (free.map (memory.setNode node _).nodes) = _
  rw [List.map_append, map_setNode hused, map_setNode hfree, List.map_singleton, setNode_nodes_self]

theorem Lists.getFree_free (hlists : memory.Lists used free)
    (hlast : ∀ last ∈ used.getLast?, (memory.nodes last).startTs < PanscanHandler.llongMax) :
    ∃ used' free', Becomes used free memory.getFree.2 used' free'
        ((memory.handler used free).getFree.getD (memory.handler used free)) ∧
      memory.getFree.1 = (memory.handler used free).getFree.bind fun _ => used'.getLast? := by
  have hcode : memory.getFree = memory.removeFirstFree.1.elim (none, memory.removeFirstFree.2) fun node =>
      (some node, (memory.removeFirstFree.2.setNode node
        (cleared (memory.removeFirstFree.2.nodes node))).addLastUsed (some node)) := by
    unfold PanscanMemory.getFree
    rw [hlists.usedHolds.tail]
    cases hsome : used.getLast? with
    | none =>
      dsimp only
      cases memory.removeFirstFree.1 <;> rfl
    | some last =>
      simp only [if_pos (hlast last (by rw [hsome]; rfl))]
      cases memory.removeFirstFree.1 <;> rfl
  have hmodel : (memory.handler used free).getFree = free.head?.map fun node =>
      ⟨used.map memory.nodes ++ [cleared (memory.nodes node)], free.tail.map memory.nodes⟩ := by
    unfold PanscanHandler.getFree PanscanMemory.handler
    rw [List.getLast?_map]
    cases hsome : used.getLast? with
    | none => cases free <;> rfl
    | some last =>
      have hvalid := hlast last (by rw [hsome]; rfl)
      cases free with
      | nil => exact if_pos hvalid
      | cons node free => exact if_pos hvalid
  rw [hcode, hmodel]
  cases free with
  | nil =>
    have hnone : memory.removeFirstFree = (none, memory) := by
      unfold PanscanMemory.removeFirstFree DlList.removeFirst
      rw [hlists.freeHolds.head]
      rfl
    rw [hnone]
    exact ⟨used, [], ⟨hlists, List.Perm.refl _, rfl⟩, rfl⟩
  | cons node free =>
    obtain ⟨hnode, hremoved, hused, hfree⟩ := hlists.removeFirstFree
    rw [hnode]
    obtain ⟨hadded, hhandler⟩ := hremoved.reuse hused hfree
    refine ⟨used ++ [node], free, ⟨hadded, ?_, hhandler⟩, ?_⟩
    · rw [List.append_assoc, List.singleton_append]
    · exact List.getLast?_concat.symm

theorem Lists.getFree (hlists : memory.Lists used free) :
    ∃ used' free', Becomes used free memory.getFree.2 used' free'
        ((memory.handler used free).getFree.getD (memory.handler used free)) ∧
      memory.getFree.1 = (memory.handler used free).getFree.bind fun _ => used'.getLast? := by
  by_cases hvalid : ∀ last ∈ used.getLast?, (memory.nodes last).startTs < PanscanHandler.llongMax
  · exact hlists.getFree_free hvalid
  push Not at hvalid
  obtain ⟨last, hlast, hinvalid⟩ := hvalid
  obtain ⟨front, rfl⟩ := List.getLast?_eq_some_iff.mp hlast
  obtain ⟨hnode, hremoved, hused, hfree⟩ := hlists.removeLastUsed
  obtain ⟨hadded, hhandler⟩ := hremoved.reuse hused hfree
  have hcode : memory.getFree = (some last, (memory.removeLastUsed.2.setNode last
      (cleared (memory.removeLastUsed.2.nodes last))).addLastUsed (some last)) := by
    unfold PanscanMemory.getFree
    rw [hlists.usedHolds.tail, List.getLast?_concat]
    simp only [if_neg (not_lt.mpr hinvalid), hnode]
  have hmodel : (memory.handler (front ++ [last]) free).getFree =
      some ⟨front.map memory.nodes ++ [cleared (memory.nodes last)], free.map memory.nodes⟩ := by
    unfold PanscanHandler.getFree PanscanMemory.handler
    rw [List.map_append, List.map_singleton, List.getLast?_concat, List.dropLast_concat]
    simp only [if_neg (not_lt.mpr hinvalid)]
  rw [hcode, hmodel]
  exact ⟨front ++ [last], free, ⟨hadded, List.Perm.refl _, hhandler⟩, List.getLast?_concat.symm⟩

/-! ### `get_populated` -/

theorem handler_setNode_first (hlists : memory.Lists (node :: used) free) (value : PanscanNode) :
    (memory.setNode node value).handler (node :: used) free =
      ⟨value :: used.map memory.nodes, free.map memory.nodes⟩ := by
  obtain ⟨-, -, hused, hfree⟩ := hlists.removeFirstUsed
  unfold PanscanMemory.handler
  rw [List.map_cons, setNode_nodes_self, map_setNode hused, map_setNode hfree]

theorem handler_freeFirstUsed (memory : PanscanMemory) (node : Nat) (used free : List Nat) :
    memory.freeFirstUsed.handler used (free ++ [node]) =
      ⟨used.map memory.nodes, free.map memory.nodes ++ [memory.nodes node]⟩ := by
  change PanscanHandler.mk (used.map memory.nodes) ((free ++ [node]).map memory.nodes) = _
  rw [List.map_append, List.map_singleton]

/-- The loop of `get_populated` ends, with the lists of a model; the data found are the first used node's. -/
structure Scanned (memory : PanscanMemory) (used free : List Nat) (frameTs : Int) (rounds : Nat)
    (model : Bool × PanscanHandler) : Prop where
  ends : ∃ count ≤ used.length,
    ExitsAfter Scan.running (Scan.round frameTs) count ⟨memory, used.head?, none⟩
  becomes : ∃ used' free', Becomes used free
      (whileLoop Scan.running (Scan.round frameTs) rounds ⟨memory, used.head?, none⟩).memory
      used' free' model.2 ∧
    (whileLoop Scan.running (Scan.round frameTs) rounds ⟨memory, used.head?, none⟩).data =
      if model.1 then used'.head? else none

theorem scanned_of_stops {frameTs : Int} {next : Scan} {model : Bool × PanscanHandler} (rounds : Nat)
    (hround : Scan.round frameTs ⟨memory, some node, none⟩ = next) (hstops : next.running = false)
    (hlists : next.memory.Lists (node :: used) free)
    (hhandler : next.memory.handler (node :: used) free = model.2)
    (hdata : next.data = if model.1 then some node else none) :
    Scanned memory (node :: used) free frameTs (rounds + 1) model := by
  have hrunning : Scan.running ⟨memory, some node, none⟩ = true := rfl
  subst hround
  refine ⟨⟨1, by simp, hrunning, hstops⟩, node :: used, free, ?_⟩
  rw [List.head?_cons, whileLoop, if_pos hrunning, whileLoop_of_not hstops]
  exact ⟨⟨hlists, List.Perm.refl _, hhandler⟩, hdata⟩

theorem Lists.scan (hlists : memory.Lists used free) (frameTs : Int) {rounds : Nat}
    (hrounds : used.length ≤ rounds) :
    Scanned memory used free frameTs rounds
      (PanscanHandler.scan frameTs (used.map memory.nodes) (free.map memory.nodes)) := by
  induction used generalizing memory free rounds with
  | nil =>
    have hstops : Scan.running ⟨memory, none, none⟩ = false := rfl
    refine ⟨⟨0, le_rfl, hstops⟩, [], free, ?_⟩
    rw [List.head?_nil, whileLoop_of_not hstops]
    exact ⟨⟨hlists, List.Perm.refl _, rfl⟩, rfl⟩
  | cons node used ih =>
    obtain ⟨rounds, rfl⟩ : ∃ less, rounds = less + 1 := ⟨rounds - 1, by simp at hrounds; omega⟩
    rw [List.map_cons, PanscanHandler.scan]
    obtain ⟨-, -, hused, hfree⟩ := hlists.removeFirstUsed
    by_cases hvalid : (memory.nodes node).startTs < PanscanHandler.llongMax
    · rw [if_pos hvalid]
      have hreach := hlists.setNode node ((memory.nodes node).reach frameTs)
      by_cases hstarted : ((memory.nodes node).reach frameTs).startTs ≤ frameTs
      · by_cases hbefore : frameTs < ((memory.nodes node).reach frameTs).endTs
        · have hround : Scan.round frameTs ⟨memory, some node, none⟩ =
              ⟨(memory.setNode node ((memory.nodes node).reach frameTs)).setNode node
                { (memory.nodes node).reach frameTs with active := true }, some node, some node⟩ := by
            simp only [Scan.round, if_pos hvalid, if_pos hstarted, if_pos hbefore]
          rw [if_pos hstarted, if_pos hbefore]
          refine scanned_of_stops rounds hround rfl (hreach.setNode node _) ?_ rfl
          rw [handler_setNode_first hreach, map_setNode hused, map_setNode hfree]
        · -- The node goes to the free list, and the next used one is looked at.
          have hround : Scan.round frameTs ⟨memory, some node, none⟩ =
              ⟨(memory.setNode node ((memory.nodes node).reach frameTs)).freeFirstUsed, used.head?, none⟩ := by
            simp only [Scan.round, if_pos hvalid, if_pos hstarted, if_neg hbefore]
            rw [hreach.freeFirstUsed.usedHolds.head]
          have hrunning : Scan.running ⟨memory, some node, none⟩ = true := rfl
          obtain ⟨⟨count, hcount, hends⟩, used', free', hbecomes, hdata⟩ :=
            ih hreach.freeFirstUsed (Nat.le_of_succ_le_succ hrounds)
          have hhandler := handler_freeFirstUsed (memory.setNode node ((memory.nodes node).reach frameTs)) node
            used free
          rw [map_setNode hused, map_setNode hfree, setNode_nodes_self] at hhandler
          obtain ⟨hmapUsed, hmapFree⟩ := PanscanHandler.mk.inj hhandler
          rw [hmapUsed, hmapFree] at hbecomes hdata
          rw [if_pos hstarted, if_neg hbefore]
          refine ⟨⟨count + 1, Nat.succ_le_succ hcount, hrunning, ?_⟩, used', free', ?_⟩
          · rw [List.head?_cons, hround]
            exact hends
          · rw [List.head?_cons, whileLoop, if_pos hrunning, hround]
            refine ⟨⟨hbecomes.lists, hbecomes.perm.trans ?_, hbecomes.handler⟩, hdata⟩
            rw [← List.append_assoc]
            exact List.perm_append_singleton node (used ++ free)
      · have hround : Scan.round frameTs ⟨memory, some node, none⟩ =
            ⟨memory.setNode node ((memory.nodes node).reach frameTs), none, none⟩ := by
          simp only [Scan.round, if_pos hvalid, if_neg hstarted]
        rw [if_neg hstarted]
        exact scanned_of_stops rounds hround rfl hreach (handler_setNode_first hlists _) rfl
    · have hround : Scan.round frameTs ⟨memory, some node, none⟩ =
          ⟨memory.setNode node { memory.nodes node with active := true }, some node, some node⟩ := by
        simp only [Scan.round, if_neg hvalid]
      rw [if_neg hvalid]
      exact scanned_of_stops rounds hround rfl (hlists.setNode node _) (handler_setNode_first hlists _) rfl

def place (used free : List Nat) : PanscanHandler.Populated → Option Nat
  | .firstUsed => used.head?
  | .lastFree => free.getLast?

theorem Lists.getPopulated (hlists : memory.Lists used free) (frameTs : Int) {rounds : Nat}
    (hrounds : used.length ≤ rounds) :
    ∃ used' free', Becomes used free (memory.getPopulated rounds frameTs).2 used' free'
        ((memory.handler used free).getPopulated frameTs).2 ∧
      (memory.getPopulated rounds frameTs).1 =
        ((memory.handler used free).getPopulated frameTs).1.bind (place used' free') := by
  obtain ⟨-, used', free', ⟨hscanned, hperm, hhandler⟩, hdata⟩ := hlists.scan frameTs hrounds
  unfold PanscanMemory.getPopulated PanscanHandler.getPopulated scanStart
  rw [hlists.usedHolds.head]
  dsimp only [PanscanMemory.handler]
  generalize whileLoop Scan.running (Scan.round frameTs) rounds ⟨memory, used.head?, none⟩ = scan at *
  generalize PanscanHandler.scan frameTs (used.map memory.nodes) (free.map memory.nodes) = model at *
  obtain ⟨found, handler⟩ := model
  dsimp only at hhandler hdata ⊢
  subst hhandler
  cases found with
  | false =>
    rw [hdata]
    exact ⟨used', free', ⟨hscanned, hperm, rfl⟩, rfl⟩
  | true =>
    rw [if_pos rfl] at hdata
    cases used' with
    | nil =>
      rw [hdata]
      exact ⟨[], free', ⟨hscanned, hperm, rfl⟩, rfl⟩
    | cons node used' =>
      rw [hdata, List.head?_cons]
      by_cases hlastUse : (scan.memory.nodes node).panScanParam.rectRepetitionPeriod = 0
      · simp only [PanscanHandler.takeFound, PanscanMemory.handler, List.map_cons, if_pos hlastUse]
        refine ⟨used', free' ++ [node], ⟨hscanned.freeFirstUsed, ?_, ?_⟩, List.getLast?_concat.symm⟩
        · refine List.Perm.trans ?_ hperm
          rw [← List.append_assoc]
          exact List.perm_append_singleton node (used' ++ free')
        · exact handler_freeFirstUsed scan.memory node used' free'
      · simp only [PanscanHandler.takeFound, PanscanMemory.handler, List.map_cons, if_neg hlastUse]
        exact ⟨node :: used', free', ⟨hscanned.setNode node _, hperm, handler_setNode_first hscanned _⟩, rfl⟩

/-! ### `update_last` -/

theorem handler_setNode_last {front : List Nat} (hlists : memory.Lists (front ++ [node]) free)
    (value : PanscanNode) :
    (memory.setNode node value).handler (front ++ [node]) free =
      ⟨front.map memory.nodes ++ [value], free.map memory.nodes⟩ := by
  obtain ⟨-, -, hused, hfree⟩ := hlists.removeLastUsed
  unfold PanscanMemory.handler
  rw [List.map_append, List.map_singleton, setNode_nodes_self, map_setNode hused, map_setNode hfree]

theorem handler_setNode_lastTwo {rest : List Nat} {prev last : Nat}
    (hlists : memory.Lists (rest ++ [prev] ++ [last]) free) (first second : PanscanNode) :
    ((memory.setNode last second).setNode prev first).handler (rest ++ [prev] ++ [last]) free =
      ⟨rest.map memory.nodes ++ [first] ++ [second], free.map memory.nodes⟩ := by
  obtain ⟨-, -, hused, hfree⟩ := hlists.removeLastUsed
  have hprevRest : prev ∉ rest := Links.last_notMem (List.nodup_append.mp hlists.usedHolds.row.nodup).1
  have hprevLast : prev ∉ [last] := by simpa using ne_of_mem_of_not_mem (by simp) hused
  have hprevFree : prev ∉ free := hlists.disjoint (by simp)
  have hlastRest : last ∉ rest := fun hmem => hused (List.mem_append_left _ hmem)
  unfold PanscanMemory.handler
  rw [List.map_append, List.map_append, List.map_singleton, map_setNode hprevRest, map_setNode hprevLast,
    map_setNode hprevFree, map_setNode hlastRest, map_setNode hfree, setNode_nodes_self, List.map_singleton,
    setNode_nodes_self]

theorem Lists.updateLast (hlists : memory.Lists used free) (frameTs : Int) :
    Becomes used free (memory.updateLast frameTs) used free
      ((memory.handler used free).updateLast frameTs) := by
  unfold PanscanMemory.updateLast
  rw [hlists.usedHolds.tail]
  rcases List.eq_nil_or_concat used with rfl | ⟨front, last, hsplit⟩
  · exact ⟨hlists, List.Perm.refl _, rfl⟩
  rw [List.concat_eq_append] at hsplit
  subst hsplit
  have hmodel : (memory.handler (front ++ [last]) free).updateLast frameTs =
      if (memory.nodes last).startTs < PanscanHandler.llongMax then memory.handler (front ++ [last]) free
      else ⟨(front.map memory.nodes).modify ((front.map memory.nodes).length - 1) (·.followedBy frameTs) ++
        [{ memory.nodes last with startTs := frameTs }], free.map memory.nodes⟩ := by
    unfold PanscanHandler.updateLast PanscanMemory.handler
    rw [List.map_append, List.map_singleton, List.getLast?_concat, List.dropLast_concat]
  rw [hmodel, List.getLast?_concat]
  dsimp only
  split
  · exact ⟨hlists, List.Perm.refl _, rfl⟩
  have hset := hlists.setNode last { memory.nodes last with startTs := frameTs }
  have hhandler := handler_setNode_last hlists { memory.nodes last with startTs := frameTs }
  have hprev := (Links.segment_append.mp hlists.usedHolds.row.segment).2.1
  obtain ⟨-, -, hused, -⟩ := hlists.removeLastUsed
  change memory.links.prev last = _ at hprev
  change Becomes _ _ (match memory.links.prev last with | some prev => _ | none => _) _ _ _
  rw [hprev]
  rcases List.eq_nil_or_concat front with rfl | ⟨rest, prev, hfront⟩
  · exact ⟨hset, List.Perm.refl _, hhandler⟩
  rw [List.concat_eq_append] at hfront
  subst hfront
  rw [List.getLast?_concat]
  have hne : prev ≠ last := ne_of_mem_of_not_mem (by simp) hused
  refine ⟨hset.setNode prev _, List.Perm.refl _, ?_⟩
  refine (handler_setNode_lastTwo hlists _ _).trans ?_
  rw [List.map_append, List.map_singleton, PanscanHandler.modify_last]
  exact congrArg (fun node => PanscanHandler.mk (_ ++ [PanscanNode.followedBy node _] ++ _) _)
    (Function.update_of_ne hne _ _)

/-! ### Runs -/

/-- A call, or a write of a caller through a pointer that it got. -/
inductive Action
  | getFree
  | getPopulated (frameTs : Int)
  | updateLast (frameTs : Int)
  | write (node : Nat) (panScanParam : PanScan)

def act (numData : Nat) (memory : PanscanMemory) : Action → PanscanMemory
  | .getFree => memory.getFree.2
  | .getPopulated frameTs => (memory.getPopulated numData frameTs).2
  | .updateLast frameTs => memory.updateLast frameTs
  | .write node panScanParam => memory.setNode node { memory.nodes node with panScanParam := panScanParam }

/-- Every node is in one of the two lists, and only the last used one may be without a start. -/
structure WellFormed (numData : Nat) (memory : PanscanMemory) (used free : List Nat) : Prop where
  lists : memory.Lists used free
  perm : (used ++ free).Perm (List.range numData)
  started : PanscanHandler.Started (used.map memory.nodes)

variable {numData : Nat}

theorem WellFormed.length_le (hformed : WellFormed numData memory used free) : used.length ≤ numData := by
  have hlength := hformed.perm.length_eq
  rw [List.length_append, List.length_range] at hlength
  exact Nat.le_of_add_right_le hlength.le

theorem WellFormed.becomes (hformed : WellFormed numData memory used free) {next : PanscanMemory}
    {used' free' : List Nat} {handler : PanscanHandler} (hbecomes : Becomes used free next used' free' handler)
    (hstarted : PanscanHandler.Started handler.panscanUsed) : WellFormed numData next used' free' :=
  ⟨hbecomes.lists, hbecomes.perm.trans hformed.perm, by rwa [← hbecomes.handler] at hstarted⟩

theorem act_wellFormed (hformed : WellFormed numData memory used free) (action : Action) :
    ∃ used' free', WellFormed numData (act numData memory action) used' free' := by
  have hstarted : PanscanHandler.Started (memory.handler used free).panscanUsed := hformed.started
  cases action with
  | getFree =>
    obtain ⟨used', free', hbecomes, -⟩ := hformed.lists.getFree
    refine ⟨used', free', hformed.becomes hbecomes ?_⟩
    cases hfree : (memory.handler used free).getFree with
    | none => exact hstarted
    | some next => exact PanscanHandler.getFree_started hstarted hfree
  | getPopulated frameTs =>
    obtain ⟨used', free', hbecomes, -⟩ := hformed.lists.getPopulated frameTs hformed.length_le
    exact ⟨used', free', hformed.becomes hbecomes (PanscanHandler.getPopulated_started hstarted)⟩
  | updateLast frameTs =>
    have hbecomes := hformed.lists.updateLast frameTs
    exact ⟨used, free, hformed.becomes hbecomes (PanscanHandler.updateLast_started hstarted)⟩
  | write node panScanParam =>
    refine ⟨used, free, hformed.lists.setNode node _, hformed.perm, ?_⟩
    have hstarted := hformed.started
    unfold PanscanHandler.Started at hstarted ⊢
    rw [← List.map_dropLast, List.forall_mem_map] at hstarted ⊢
    intro place hplace
    have hkept : ((act numData memory (.write node panScanParam)).nodes place).startTs =
        (memory.nodes place).startTs := by
      by_cases heq : place = node
      · subst heq
        rw [act, setNode_nodes_self]
      · exact congrArg PanscanNode.startTs (Function.update_of_ne heq _ _)
    exact hkept.trans_lt (hstarted place hplace)

theorem run_formed (links : Links Nat) (nodes : Nat → PanscanNode) (actions : List Action) :
    ∃ used free, WellFormed numData (actions.foldl (act numData)
      (initialized numData links nodes)) used free := by
  induction actions using List.reverseRecOn with
  | nil =>
    exact ⟨[], List.range numData, initialized_lists numData links nodes, List.Perm.refl _,
      fun _ hnode => absurd hnode List.not_mem_nil⟩
  | append_singleton actions action ih =>
    obtain ⟨used, free, hformed⟩ := ih
    rw [List.foldl_append]
    exact act_wellFormed hformed action

/-- Behind every run each node is once in one of the two lists, which are rows of nodes linked in both ways,
every used node apart from the last one has a start, and `get_populated` ends for every timestamp. -/
theorem run_wellFormed (numData : Nat) (links : Links Nat) (nodes : Nat → PanscanNode) (actions : List Action) :
    let memory := actions.foldl (act numData) (initialized numData links nodes)
    ∃ used free,
      memory.panscanUsed.Holds memory.links used ∧ memory.panscanFree.Holds memory.links free ∧
        (used ++ free).Perm (List.range numData) ∧
        (∀ node ∈ used.dropLast, (memory.nodes node).startTs < PanscanHandler.llongMax) ∧
        ∀ frameTs, ∃ count ≤ numData,
          ExitsAfter Scan.running (Scan.round frameTs) count memory.scanStart := by
  intro memory
  obtain ⟨used, free, hformed⟩ := run_formed links nodes actions
  refine ⟨used, free, hformed.lists.usedHolds, hformed.lists.freeHolds, hformed.perm, ?_, fun frameTs => ?_⟩
  · have hstarted := hformed.started
    unfold PanscanHandler.Started at hstarted
    rwa [← List.map_dropLast, List.forall_mem_map] at hstarted
  · obtain ⟨count, hcount, hends⟩ := (hformed.lists.scan frameTs hformed.length_le).ends
    rw [← hformed.lists.usedHolds.head] at hends
    exact ⟨count, hcount.trans hformed.length_le, hends⟩

end PanscanMemory

end Nozomi
