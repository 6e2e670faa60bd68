import Nozomi.Base.Run
import Nozomi.Vdec.Panscan.DlList

/-!
# `Map`

The map template of `Map.h`: a list of nodes with links to both neighbours, and a count of its own. A node takes an
address that was not used before, and the count does not reach 2^31, since the nodes would not fit the memory.
-/

namespace Nozomi

/-- `class Map`. `deleted` has the nodes that were given to `delete`; `tmp` is set by every function before it is
read. -/
structure LinkedMap (K V : Type) where
  data : Nat → K
  data2 : Nat → V
  links : Links Nat
  head : Option Nat
  tail : Option Nat
  sizeOfList : Nat
  allocated : Nat
  deleted : List Nat

namespace LinkedMap

variable {K V : Type} [DecidableEq K] [Zero K] [Zero V]

def new : LinkedMap K V := ⟨fun _ => 0, fun _ => 0, ⟨fun _ => none, fun _ => none⟩, none, none, 0, 0, []⟩

variable (map : LinkedMap K V)

/-- The loop of `find` and `find_ele`. -/
def findFrom (d : K) : Nat → Option Nat → Option Nat
  | 0, _ | _, none => none
  | fuel + 1, some tmp => if map.data tmp = d then some tmp else findFrom d fuel (map.links.next tmp)

def findNode (d : K) : Option Nat := map.findFrom d (map.allocated + 1) map.head

def find (d : K) : V := ((map.findNode d).map map.data2).getD 0

def findEle (d : K) : K := ((map.findNode d).map map.data).getD 0

def begin : V := (map.head.map map.data2).getD 0

def sizeFrom : Nat → Option Nat → Nat
  | 0, _ | _, none => 0
  | fuel + 1, some tmp => sizeFrom fuel (map.links.next tmp) + 1

def size : Nat := map.sizeFrom (map.allocated + 1) map.head

def isempty : Bool := map.sizeOfList = 0

def insert (data : K) (data2 : V) : LinkedMap K V :=
  let node := map.allocated
  let links := (map.links.setNext node none).setPrev node map.tail
  let links :=
    match map.tail with
    | some prev => links.setNext prev (some node)
    | none => links
  { map with
    data := Function.update map.data node data
    data2 := Function.update map.data2 node data2
    links := links
    head := if map.head = none then some node else map.head
    tail := some node
    sizeOfList := map.sizeOfList + 1
    allocated := node + 1 }

def delete (node : Nat) : LinkedMap K V := { map with deleted := map.deleted ++ [node] }

/-- The loop of `erase`, or nothing where it follows a pointer that is NULL. -/
def eraseFrom (d : K) : Nat → Nat → Option Nat → Option (LinkedMap K V × Bool)
  | 0, _, _ | _, _, none => some (map, false)
  | fuel + 1, prevnode, some tmp =>
    if map.head = map.tail ∧ map.head.map map.data = some d then
      some ({ map with head := none, tail := none, deleted := map.deleted ++ map.head.toList }, true)
    else if map.head = some tmp ∧ map.data tmp = d then
      (map.links.next tmp).map fun next =>
        ({ map.delete tmp with links := (map.links.setPrev next none).setNext tmp none, head := some next }, true)
    else if map.tail = some tmp ∧ map.data tmp = d then
      some ({ map.delete tmp with
        links := (map.links.setNext prevnode none).setPrev tmp none, tail := some prevnode }, true)
    else if map.data tmp = d then
      (map.links.next tmp).map fun next =>
        let links := map.links.setNext prevnode (some next)
        ({ map.delete tmp with links := links.setPrev next (links.next prevnode) }, true)
    else eraseFrom d fuel tmp (map.links.next tmp)

def counted : LinkedMap K V × Bool → LinkedMap K V × Bool
  | (map, found) => (if found then { map with sizeOfList := map.sizeOfList - 1 } else map, found)

def erase (d : K) : Option (LinkedMap K V × Bool) :=
  match map.head with
  | none => some (map, false)
  | some head => (map.eraseFrom d (map.allocated + 1) head (some head)).map counted

/-- The link to the next node is cleared in front of the step to it. -/
def eraseallFrom : Nat → LinkedMap K V → LinkedMap K V
  | 0, map => map
  | fuel + 1, map =>
    match map.head with
    | none => map
    | some tempnode =>
      let links := map.links.setNext tempnode none
      eraseallFrom fuel { map.delete tempnode with links := links, head := links.next tempnode }

def eraseall : LinkedMap K V × Bool := ({ eraseallFrom (map.allocated + 1) map with head := none, tail := none }, true)

end LinkedMap

inductive MapCall (K V : Type) where
  | insert (data : K) (data2 : V)
  | erase (d : K)
  | eraseall
  | find (d : K)
  | findEle (d : K)
  | begin
  | size
  | isempty
  deriving DecidableEq

inductive MapAnswer (K V : Type) where
  | none
  | flag (value : Bool)
  | data (value : K)
  | data2 (value : V)
  | size (value : Nat)
  deriving DecidableEq

namespace LinkedMap

variable {K V : Type} [DecidableEq K] [Zero K] [Zero V]

def call (map : LinkedMap K V) : MapCall K V → Option (LinkedMap K V × MapAnswer K V)
  | .insert data data2 => some (map.insert data data2, .none)
  | .erase d => (map.erase d).map fun (map, found) => (map, .flag found)
  | .eraseall => some (map.eraseall.1, .flag map.eraseall.2)
  | .find d => some (map, .data2 (map.find d))
  | .findEle d => some (map, .data (map.findEle d))
  | .begin => some (map, .data2 map.begin)
  | .size => some (map, .size map.size)
  | .isempty => some (map, .flag map.isempty)

/-- A list of the entries in the order of their insertion. -/
def entriesCall (entries : List (K × V)) : MapCall K V → List (K × V) × MapAnswer K V
  | .insert data data2 => (entries ++ [(data, data2)], .none)
  | .erase d => (entries.eraseP (·.1 = d), .flag (d ∈ entries.map Prod.fst))
  | .eraseall => ([], .flag true)
  | .find d => (entries, .data2 (((entries.find? (·.1 = d)).map Prod.snd).getD 0))
  | .findEle d => (entries, .data (((entries.find? (·.1 = d)).map Prod.fst).getD 0))
  | .begin => (entries, .data2 ((entries.head?.map Prod.snd).getD 0))
  | .size => (entries, .size entries.length)
  | .isempty => (entries, .flag entries.isEmpty)

def entry (map : LinkedMap K V) (node : Nat) : K × V := (map.data node, map.data2 node)

/-- The map is a list of nodes, and each node that was allocated is in the list or was deleted once. -/
structure Owns (map : LinkedMap K V) (nodes : List Nat) : Prop where
  list : DlList.Holds ⟨map.head, map.tail⟩ map.links nodes
  owned : (nodes ++ map.deleted).Perm (List.range map.allocated)
  sizeOfList_eq : map.sizeOfList = nodes.length

structure Stores (map : LinkedMap K V) (entries : List (K × V)) : Prop where
  nodes : ∃ nodes, map.Owns nodes ∧ nodes.map map.entry = entries
  size_eq : map.size = map.sizeOfList
  isempty_iff : map.isempty = true ↔ map.size = 0

/-! ### Loops over the nodes -/

section

variable {K V : Type} [DecidableEq K] {map : LinkedMap K V} {nodes front back : List Nat} {node : Nat}
  {before : Option Nat} {d : K}

omit [DecidableEq K] in
theorem sizeFrom_eq {fuel : Nat} (hsegment : map.links.Segment before nodes none) (hfuel : nodes.length < fuel) :
    map.sizeFrom fuel nodes.head? = nodes.length := by
  induction nodes generalizing before fuel with
  | nil => cases fuel <;> rfl
  | cons node nodes ih =>
    obtain ⟨fuel, rfl⟩ := Nat.exists_eq_succ_of_ne_zero (Nat.ne_zero_of_lt hfuel)
    obtain ⟨-, hnext, hrest⟩ := hsegment
    rw [List.head?_cons, sizeFrom, hnext, Option.or_none, ih hrest (Nat.lt_of_succ_lt_succ hfuel), List.length_cons]

theorem findFrom_eq (d : K) {fuel : Nat} (hsegment : map.links.Segment before nodes none)
    (hfuel : nodes.length < fuel) : map.findFrom d fuel nodes.head? = nodes.find? (map.data · = d) := by
  induction nodes generalizing before fuel with
  | nil => cases fuel <;> rfl
  | cons node nodes ih =>
    obtain ⟨fuel, rfl⟩ := Nat.exists_eq_succ_of_ne_zero (Nat.ne_zero_of_lt hfuel)
    obtain ⟨-, hnext, hrest⟩ := hsegment
    rw [List.head?_cons, findFrom, hnext, Option.or_none, ih hrest (Nat.lt_of_succ_lt_succ hfuel), List.find?_cons]
    by_cases hdata : map.data node = d <;> simp [hdata]

/-- No branch of the loop is taken at a node with another key, where the first node has another key too. -/
theorem eraseFrom_skip (fuel prevnode : Nat) (hsegment : map.links.Segment before (front ++ back) none)
    (hfront : ∀ node ∈ front, map.data node ≠ d) (hhead : map.head.map map.data ≠ some d) :
    map.eraseFrom d (front.length + fuel) prevnode (front ++ back).head? =
      map.eraseFrom d fuel (front.getLast?.getD prevnode) back.head? := by
  induction front generalizing before prevnode with
  | nil => simp
  | cons node front ih =>
    obtain ⟨-, hnext, hrest⟩ := hsegment
    rw [List.forall_mem_cons] at hfront
    rw [List.cons_append, List.head?_cons, List.length_cons, Nat.succ_add, eraseFrom, if_neg (by tauto),
      if_neg (by tauto), if_neg (by tauto), if_neg hfront.1, hnext, List.append_eq, Option.or_none, ih _ hrest hfront.2,
      List.getLast?_cons]
    cases front.getLast? <;> rfl

end

/-! ### One call -/

omit [DecidableEq K] in
theorem new_owns : (new : LinkedMap K V).Owns [] := ⟨DlList.new_holds _, List.Perm.refl _, rfl⟩

section

variable {K V : Type} {map : LinkedMap K V} {nodes front rest : List Nat} {node : Nat}

theorem Owns.head_eq (howns : map.Owns nodes) : map.head = nodes.head? := howns.list.head

theorem Owns.tail_eq (howns : map.Owns nodes) : map.tail = nodes.getLast? := howns.list.tail

theorem Owns.lt (howns : map.Owns nodes) (hnode : node ∈ nodes) : node < map.allocated :=
  List.mem_range.mp (howns.owned.mem_iff.mp (List.mem_append_left _ hnode))

theorem Owns.length_lt (howns : map.Owns nodes) : nodes.length < map.allocated + 1 := by
  have hlength := howns.owned.length_eq
  rw [List.length_append, List.length_range] at hlength
  omega

theorem Owns.size_eq (howns : map.Owns nodes) : map.size = nodes.length := by
  rw [size, howns.head_eq, sizeFrom_eq howns.list.row.segment howns.length_lt]

theorem Owns.stores (howns : map.Owns nodes) : map.Stores (nodes.map map.entry) := by
  refine ⟨⟨nodes, howns, rfl⟩, howns.size_eq.trans howns.sizeOfList_eq.symm, ?_⟩
  rw [howns.size_eq, ← howns.sizeOfList_eq]
  exact decide_eq_true_iff

theorem Owns.insert (howns : map.Owns nodes) (data : K) (data2 : V) :
    (map.insert data data2).Owns (nodes ++ [map.allocated]) ∧
      (nodes ++ [map.allocated]).map (map.insert data data2).entry = nodes.map map.entry ++ [(data, data2)] := by
  have hnew : map.allocated ∉ nodes := fun hmem => Nat.lt_irrefl _ (howns.lt hmem)
  have hadded := (howns.list.addLast hnew).1
  have hempty : map.head = none ↔ map.tail = none := by
    rw [howns.head_eq, howns.tail_eq, List.head?_eq_none_iff, List.getLast?_eq_none_iff]
  refine ⟨⟨?_, ?_, ?_⟩, ?_⟩
  · unfold LinkedMap.insert
    unfold DlList.addLast at hadded
    cases htail : map.tail with
    | none => simpa [htail, hempty.mpr htail] using hadded
    | some tail =>
      have hhead : map.head ≠ none := fun hnone => by simp [hempty.mp hnone] at htail
      simpa [htail, hhead] using hadded
  · change (nodes ++ [map.allocated] ++ map.deleted).Perm (List.range (map.allocated + 1))
    rw [List.range_succ, List.append_assoc]
    exact (List.perm_append_comm.append_left nodes).trans (by
      rw [← List.append_assoc]
      exact howns.owned.append_right _)
  · rw [List.length_append, ← howns.sizeOfList_eq]
    rfl
  · rw [List.map_append]
    refine congrArg₂ (· ++ ·) (List.map_congr_left fun node hnode => ?_) ?_
    · have hne : node ≠ map.allocated := Nat.ne_of_lt (howns.lt hnode)
      simp [entry, LinkedMap.insert, hne]
    · simp [entry, LinkedMap.insert]

variable [DecidableEq K] {d : K}

theorem Owns.findNode_eq (howns : map.Owns nodes) (d : K) : map.findNode d = nodes.find? (map.data · = d) := by
  rw [findNode, howns.head_eq, findFrom_eq d howns.list.row.segment howns.length_lt]

/-- Behind a node that is kept, the head is another node than the one to be erased. -/
theorem Owns.erase_behind {prevnode : Nat} {back : List Nat} (howns : map.Owns (front ++ [prevnode] ++ back))
    (hfront : ∀ node ∈ front ++ [prevnode], map.data node ≠ d) :
    map.head.map map.data ≠ some d ∧
      ∃ fuel, map.erase d = (map.eraseFrom d (fuel + 1) prevnode back.head?).map counted := by
  have hfirst : ∃ first, map.head = some first ∧ first ∈ front ++ [prevnode] := by
    rw [howns.head_eq]
    cases front <;> simp
  obtain ⟨first, hhead, hmem⟩ := hfirst
  have hother : map.head.map map.data ≠ some d := by simpa [hhead] using hfront first hmem
  refine ⟨hother, map.allocated - (front ++ [prevnode]).length, ?_⟩
  have hlength := howns.length_lt
  rw [List.length_append] at hlength
  have hskip := eraseFrom_skip (map.allocated - (front ++ [prevnode]).length + 1) first howns.list.row.segment hfront
    hother
  rw [← howns.head_eq, hhead, List.getLast?_concat, Option.getD_some,
    show (front ++ [prevnode]).length + (map.allocated - (front ++ [prevnode]).length + 1) = map.allocated + 1 by
      omega] at hskip
  rw [erase, hhead, ← hskip]

theorem Owns.erase_absent (howns : map.Owns nodes) (habsent : ∀ node ∈ nodes, map.data node ≠ d) :
    map.erase d = some (map, false) := by
  rcases List.eq_nil_or_concat nodes with rfl | ⟨front, prevnode, rfl⟩
  · rw [erase, howns.head_eq]
    rfl
  · rw [List.concat_eq_append] at howns habsent
    rw [← List.append_nil (front ++ [prevnode])] at howns
    obtain ⟨-, fuel, herase⟩ := howns.erase_behind habsent
    rw [herase]
    rfl

theorem Owns.erase_first (howns : map.Owns (node :: rest)) (hdata : map.data node = d) :
    ∃ next, map.erase d = some (next, true) ∧ next.Owns rest ∧ next.entry = map.entry := by
  have hhead : map.head = some node := howns.head_eq
  obtain ⟨⟨⟨hnodup, -, hlink, hsegment⟩, -, htail⟩, howned, hcount⟩ := howns
  obtain ⟨hnode, hrest⟩ := List.nodup_cons.mp hnodup
  have hdeleted : (rest ++ (map.deleted ++ [node])).Perm (List.range map.allocated) := by
    refine List.Perm.trans ?_ howned
    rw [← List.append_assoc]
    exact List.perm_append_singleton node (rest ++ map.deleted)
  simp only [erase, hhead]
  rw [eraseFrom]
  cases rest with
  | nil =>
    have hsingle : map.head = map.tail := hhead.trans htail.symm
    rw [if_pos ⟨hsingle, by simp [hhead, hdata]⟩]
    refine ⟨_, rfl, ⟨DlList.new_holds _, ?_, ?_⟩, rfl⟩
    · simpa [hhead] using hdeleted
    · simp [hcount]
  | cons second rest =>
    have hne : map.head ≠ map.tail := by
      rw [hhead, show map.tail = (second :: rest).getLast? from htail.trans List.getLast?_cons_cons]
      exact fun heq => hnode (List.mem_of_mem_getLast? heq.symm)
    rw [if_neg (fun hboth => hne hboth.1), if_pos ⟨hhead, hdata⟩, hlink]
    refine ⟨_, rfl, ⟨⟨⟨hrest, ?_⟩, rfl, ?_⟩, hdeleted, ?_⟩, rfl⟩
    · exact (hsegment.setPrev_head (List.nodup_cons.mp hrest).1 none).setNext_of_notMem hnode none
    · exact htail.trans List.getLast?_cons_cons
    · simp [delete, hcount]

theorem Owns.erase_last (howns : map.Owns (front ++ [node])) (hfront : ∀ node ∈ front, map.data node ≠ d)
    (hdata : map.data node = d) :
    ∃ next, map.erase d = some (next, true) ∧ next.Owns front ∧ next.entry = map.entry := by
  rcases List.eq_nil_or_concat front with rfl | ⟨front, prevnode, rfl⟩
  · exact howns.erase_first hdata
  rw [List.concat_eq_append] at howns hfront ⊢
  obtain ⟨hother, fuel, herase⟩ := howns.erase_behind hfront
  have htail : map.tail = some node := howns.tail_eq.trans List.getLast?_concat
  obtain ⟨⟨⟨hnodup, hsegment⟩, hhead, -⟩, howned, hcount⟩ := howns
  have hnode := Links.last_notMem hnodup
  have hrest := (List.nodup_append.mp hnodup).1
  rw [Links.segment_append] at hsegment
  rw [herase, List.head?_cons, eraseFrom, if_neg (fun hboth => hother hboth.2),
    if_neg (fun hboth => hother (by rw [hboth.1, Option.map_some, hdata])), if_pos ⟨htail, hdata⟩]
  refine ⟨_, rfl, ⟨⟨⟨hrest, ?_⟩, ?_, ?_⟩, ?_, ?_⟩, rfl⟩
  · exact (hsegment.1.setNext_last (Links.last_notMem hrest) none).setPrev_of_notMem hnode none
  · exact hhead.trans (by cases front <;> rfl)
  · exact List.getLast?_concat.symm
  · refine List.Perm.trans ?_ howned
    change (front ++ [prevnode] ++ (map.deleted ++ [node])).Perm _
    rw [List.append_assoc _ [node]]
    exact List.perm_append_comm.append_left _
  · simp [delete, hcount]

/-- The link of the next node back is to the node itself, in no row. -/
theorem Owns.erase_middle {second : Nat} (howns : map.Owns (front ++ node :: second :: rest))
    (hfront : ∀ node ∈ front, map.data node ≠ d) (hdata : map.data node = d) (hne : front ≠ []) :
    ∃ next, map.erase d = some (next, true) ∧ ∀ entries, ¬next.Stores entries := by
  rcases List.eq_nil_or_concat front with rfl | ⟨front, prevnode, rfl⟩
  · exact absurd rfl hne
  rw [List.concat_eq_append] at howns hfront
  obtain ⟨hother, fuel, herase⟩ := howns.erase_behind hfront
  obtain ⟨⟨⟨hnodup, hsegment⟩, hhead, hlast⟩, -, -⟩ := howns
  rw [Links.segment_append] at hsegment
  obtain ⟨hpath, -, hlink, -⟩ := hsegment
  have hlink : map.links.next node = some second := hlink
  obtain ⟨hbefore, hafter, hapart⟩ := List.nodup_append.mp hnodup
  have hsecond : second ∉ front ++ [prevnode] := fun hmem => hapart second hmem second (by simp) rfl
  have htail : map.tail ≠ some node := by
    rw [show map.tail = (second :: rest).getLast? from hlast.trans (by simp [List.getLast?_append, List.getLast?_cons])]
    exact fun heq => (List.nodup_cons.mp hafter).1 (List.mem_of_mem_getLast? heq)
  rw [herase, List.head?_cons, eraseFrom, if_neg (fun hboth => hother hboth.2),
    if_neg (fun hboth => hother (by rw [hboth.1, Option.map_some, hdata])), if_neg (fun hboth => htail hboth.1),
    if_pos hdata, hlink]
  refine ⟨_, rfl, ?_⟩
  rintro entries ⟨⟨nodes, ⟨⟨hrow, hfirst, -⟩, -, -⟩, -⟩, -, -⟩
  have hreached := ((hpath.setNext_last (Links.last_notMem hbefore) (some second)).setPrev_of_notMem hsecond
    ((map.links.setNext prevnode (some second)).next prevnode))
  refine hrow.prev_ne_self (hrow.mem_of_segment hreached fun first hstart => ?_) ?_
  · refine List.mem_of_mem_head? (hfirst.symm.trans (hhead.trans ?_))
    rw [← hstart]
    cases front <;> rfl
  · change ((map.links.setNext prevnode (some second)).setPrev second _).prev second = _
    rw [Links.setPrev_prev_self, Links.setNext_next_self]

end

/-! ### Runs -/

/-- The map beside the entries that were inserted and not erased. -/
abbrev History (K V : Type) := LinkedMap K V × List (K × V)

def step (state : History K V) (request : MapCall K V) : Option (History K V) :=
  (state.1.call request).map fun (next, _) => (next, (entriesCall state.2 request).1)

def Refines (state : History K V) (request : MapCall K V) : Prop :=
  ∃ next, state.1.call request = some (next, (entriesCall state.2 request).2) ∧
    next.Stores (entriesCall state.2 request).1

/-- A key is erased at one of both ends, and all keys where there are none. -/
def AtEnd (state : History K V) : MapCall K V → Prop
  | .erase d =>
    let keys := state.2.map Prod.fst
    d ∈ keys → keys.head? = some d ∨ d ∉ keys.dropLast
  | .eraseall => state.2 = []
  | _ => True

section

variable {K V : Type} {map : LinkedMap K V} {nodes front rest : List Nat} {node : Nat} {d : K}

theorem eraseallFrom_sizeOfList (fuel : Nat) : ∀ map : LinkedMap K V,
    (eraseallFrom fuel map).sizeOfList = map.sizeOfList := by
  induction fuel with
  | zero => exact fun _ => rfl
  | succ fuel ih =>
    intro map
    rw [eraseallFrom]
    cases map.head with
    | none => rfl
    | some tempnode => exact ih _

/-- The count is left as it is. -/
theorem Owns.eraseall_iff (howns : map.Owns nodes) : map.eraseall.1.Stores [] ↔ nodes = [] := by
  constructor
  · rintro ⟨-, hsize, -⟩
    have hcount : map.sizeOfList = 0 := (eraseallFrom_sizeOfList _ map).symm.trans hsize.symm
    exact List.length_eq_zero_iff.mp (howns.sizeOfList_eq.symm.trans hcount)
  · rintro rfl
    have hhead : map.head = none := howns.head_eq
    have htail : map.tail = none := howns.tail_eq
    have hloop : eraseallFrom (map.allocated + 1) map = map := by rw [eraseallFrom, hhead]
    have hempty : map.eraseall.1 = map := by
      rw [eraseall, hloop]
      cases map
      exact congrArg₂ (fun head tail => LinkedMap.mk _ _ _ head tail _ _ _) hhead.symm htail.symm
    rw [hempty]
    exact howns.stores

variable [DecidableEq K]

theorem Owns.erase_right_iff (howns : map.Owns nodes) (d : K) :
    (∃ next, map.erase d = some (next, decide (d ∈ nodes.map map.data)) ∧
      next.Stores ((nodes.map map.entry).eraseP (·.1 = d))) ↔
        (d ∈ nodes.map map.data → (nodes.map map.data).head? = some d ∨ d ∉ (nodes.map map.data).dropLast) := by
  have herased : (nodes.map map.entry).eraseP (·.1 = d) = (nodes.eraseP (map.data · = d)).map map.entry :=
    List.eraseP_map
  rw [herased]
  by_cases hmem : d ∈ nodes.map map.data
  · obtain ⟨found, hfound, hdata⟩ := List.mem_map.mp hmem
    obtain ⟨node, front, rest, hfront, hnode, rfl, hrest⟩ :=
      @List.exists_of_eraseP _ (fun node => decide (map.data node = d)) _ _ hfound (decide_eq_true hdata)
    have hnode := of_decide_eq_true hnode
    have hfront : ∀ node ∈ front, map.data node ≠ d := fun node hkept heq => hfront node hkept (decide_eq_true heq)
    have hkeys : d ∉ front.map map.data := fun hkey => by
      obtain ⟨node, hkept, heq⟩ := List.mem_map.mp hkey
      exact hfront node hkept heq
    rw [hrest, decide_eq_true hmem]
    simp only [hmem, forall_const]
    rcases front with _ | ⟨first, front⟩
    · obtain ⟨next, herase, hkept, hentry⟩ := howns.erase_first hnode
      exact iff_of_true ⟨next, herase, hentry ▸ hkept.stores⟩ (Or.inl (by simp [hnode]))
    rcases rest with _ | ⟨second, rest⟩
    · obtain ⟨next, herase, hkept, hentry⟩ := howns.erase_last hfront hnode
      refine iff_of_true ⟨next, herase, ?_⟩ (Or.inr ?_)
      · rw [List.append_nil, ← hentry]
        exact hkept.stores
      · rwa [List.map_append, List.map_singleton, List.dropLast_concat]
    obtain ⟨next, herase, hlost⟩ := howns.erase_middle hfront hnode (List.cons_ne_nil _ _)
    refine iff_of_false ?_ ?_
    · rintro ⟨other, hother, hstores⟩
      rw [herase] at hother
      obtain rfl := (Prod.mk.inj (Option.some.inj hother)).1
      exact hlost _ hstores
    · simp only [List.map_append, List.map_cons, hnode, List.dropLast_append_cons, List.dropLast_cons_cons]
      simp [hfront first]
  · have habsent : ∀ node ∈ nodes, map.data node ≠ d := fun node hnode heq =>
      hmem (List.mem_map.mpr ⟨node, hnode, heq⟩)
    refine iff_of_true ⟨map, ?_, ?_⟩ fun hkey => absurd hkey hmem
    · rw [howns.erase_absent habsent, decide_eq_false hmem]
    · rw [List.eraseP_of_forall_not fun node hnode => by simpa using habsent node hnode]
      exact howns.stores

end

theorem refines_iff {state : History K V} (hstores : state.1.Stores state.2) (request : MapCall K V) :
    Refines state request ↔ AtEnd state request := by
  obtain ⟨map, entries⟩ := state
  obtain ⟨⟨nodes, howns, hentries⟩, -, -⟩ := hstores
  obtain rfl : nodes.map map.entry = entries := hentries
  have howns : map.Owns nodes := howns
  have hkeys : (nodes.map map.entry).map Prod.fst = nodes.map map.data := List.map_map
  cases request with
  | insert data data2 =>
    obtain ⟨hkept, hentries⟩ := howns.insert data data2
    exact iff_of_true ⟨map.insert data data2, rfl, (congrArg _ hentries).mp hkept.stores⟩ trivial
  | erase d =>
    have hright := howns.erase_right_iff d
    simp only [Refines, AtEnd, call, entriesCall, hkeys]
    rw [← hright]
    simp
  | eraseall =>
    have hright := howns.eraseall_iff
    simp only [Refines, AtEnd, call, entriesCall, List.map_eq_nil_iff, ← hright]
    simp [eraseall]
  | find d =>
    refine iff_of_true ⟨map, ?_, howns.stores⟩ trivial
    simp only [call, entriesCall, find, howns.findNode_eq, List.find?_map, Option.map_map]
    rfl
  | findEle d =>
    refine iff_of_true ⟨map, ?_, howns.stores⟩ trivial
    simp only [call, entriesCall, findEle, howns.findNode_eq, List.find?_map, Option.map_map]
    rfl
  | begin =>
    refine iff_of_true ⟨map, ?_, howns.stores⟩ trivial
    simp only [call, entriesCall, begin, howns.head_eq, List.head?_map, Option.map_map]
    rfl
  | size => exact iff_of_true ⟨map, by simp [call, entriesCall, howns.size_eq], howns.stores⟩ trivial
  | isempty =>
    refine iff_of_true ⟨map, ?_, howns.stores⟩ trivial
    rw [call, entriesCall, isempty, howns.sizeOfList_eq]
    cases nodes <;> rfl

theorem step_stores {state next : History K V} {request : MapCall K V} (hrefines : Refines state request)
    (hstep : step state request = some next) : next.1.Stores next.2 := by
  obtain ⟨map, hcall, hstores⟩ := hrefines
  rw [step, hcall] at hstep
  obtain rfl := Option.some.inj hstep
  exact hstores

theorem atEnd_of_refines {requests : List (MapCall K V)} (hrefines : RunMeets step Refines (new, []) requests) :
    RunMeets step AtEnd (new, []) requests :=
  RunMeets.imp_of_meets (fun state => state.1.Stores state.2) (fun _ _ _ hmeets _ => step_stores hmeets)
    (fun _ request hstores => (refines_iff hstores request).mp) _ new_owns.stores hrefines

/-- The map is an association list along a run exactly where no key in the middle is erased, nor all keys. -/
theorem refines_iff_atEnd (requests : List (MapCall K V)) :
    RunMeets step Refines (new, []) requests ↔ RunMeets step AtEnd (new, []) requests := by
  refine ⟨atEnd_of_refines, ?_⟩
  exact RunMeets.imp_of_meets (fun state => state.1.Stores state.2)
    (fun _ request _ hatEnd hstores => step_stores ((refines_iff hstores request).mpr hatEnd))
    (fun _ request hstores => (refines_iff hstores request).mpr) _ new_owns.stores

/-- The second of three keys is erased. -/
theorem eraseSecond_not_refines :
    ¬RunMeets step Refines (new, [])
      [.insert 1 10, .insert 2 20, .insert (3 : Nat) (30 : Nat), .erase 2] := fun hrefines => by
  have hatEnd := atEnd_of_refines hrefines
  simp [RunMeets, step, call, entriesCall, AtEnd] at hatEnd

end LinkedMap

end Nozomi
