import Nozomi.Base.LinkedList

/-!
# `omx_dl_list`

The list template of `h264_utils.h`: nodes with links to both neighbours, and pointers to the first and to the
last one. Every function keeps a row of nodes a row, and the rows of other lists.
-/

namespace Nozomi

/-- `class omx_dl_list`. The links are those of its nodes. -/
structure DlList where
  head : Option Nat
  tail : Option Nat
  deriving DecidableEq, Repr

namespace DlList

def new : DlList := ⟨none, none⟩

def addLast (list : DlList) (links : Links Nat) : Option Nat → DlList × Links Nat
  | none => (list, links)
  | some data =>
    let links := (links.setNext data none).setPrev data list.tail
    match list.tail with
    | some tail => ({ list with tail := some data }, links.setNext tail (some data))
    | none => (⟨some data, some data⟩, links)

def addMultiple (list : DlList) (links : Links Nat) (dataNum : Nat) : DlList × Links Nat :=
  (List.range dataNum).foldl (fun state idx => state.1.addLast state.2 (some idx)) (list, links)

def removeFirst (list : DlList) (links : Links Nat) : Option Nat × DlList × Links Nat :=
  match list.head with
  | none => (none, list, links)
  | some data =>
    let (list, links) := match links.next data with
      | some next => ({ list with head := some next }, links.setPrev next none)
      | none => (⟨none, none⟩, links)
    (some data, list, (links.setPrev data none).setNext data none)

def removeLast (list : DlList) (links : Links Nat) : Option Nat × DlList × Links Nat :=
  match list.tail with
  | none => (none, list, links)
  | some data =>
    let (list, links) := match links.prev data with
      | some prev => ({ list with tail := some prev }, links.setNext prev none)
      | none => (⟨none, none⟩, links)
    (some data, list, (links.setPrev data none).setNext data none)

/-- The list is a row of nodes, from its first to its last one. -/
structure Holds (list : DlList) (links : Links Nat) (nodes : List Nat) : Prop where
  row : links.Row nodes
  head : list.head = nodes.head?
  tail : list.tail = nodes.getLast?

variable {list other : DlList} {links links' : Links Nat} {node : Nat} {nodes others : List Nat}

theorem new_holds (links : Links Nat) : new.Holds links [] := ⟨Links.row_nil links, rfl, rfl⟩

theorem Holds.congr (hholds : list.Holds links nodes) (hnext : ∀ node ∈ nodes, links'.next node =
    links.next node)
    (hprev : ∀ node ∈ nodes, links'.prev node = links.prev node) : list.Holds links' nodes :=
  ⟨hholds.row.congr hnext hprev, hholds.head, hholds.tail⟩

/-- Writes to nodes of one list leave the links of others. -/
structure Frame (links links' : Links Nat) (written : List Nat) : Prop where
  next : ∀ node, node ∉ written → links'.next node = links.next node
  prev : ∀ node, node ∉ written → links'.prev node = links.prev node

theorem Frame.refl (links : Links Nat) (written : List Nat) : Frame links links written :=
  ⟨fun _ _ => rfl, fun _ _ => rfl⟩

theorem Frame.setNext {written : List Nat} (hframe : Frame links links' written) (hnode : node ∈ written)
    (target : Option Nat) : Frame links (links'.setNext node target) written := by
  refine ⟨fun place hplace => ?_, hframe.prev⟩
  rw [Links.setNext_next_of_ne (ne_of_mem_of_not_mem hnode hplace).symm, hframe.next place hplace]

theorem Frame.setPrev {written : List Nat} (hframe : Frame links links' written) (hnode : node ∈ written)
    (target : Option Nat) : Frame links (links'.setPrev node target) written := by
  refine ⟨hframe.next, fun place hplace => ?_⟩
  rw [Links.setPrev_prev_of_ne (ne_of_mem_of_not_mem hnode hplace).symm, hframe.prev place hplace]

theorem Frame.holds {written : List Nat} (hframe : Frame links links' written)
    (hholds : other.Holds links others) (hdisjoint : ∀ node ∈ others, node ∉ written) : other.Holds links' others :=
  hholds.congr (fun node hnode => hframe.next node (hdisjoint node hnode))
    fun node hnode => hframe.prev node (hdisjoint node hnode)

theorem Holds.addLast (hholds : list.Holds links nodes) (hnew : node ∉ nodes) :
    (list.addLast links (some node)).1.Holds (list.addLast links (some node)).2 (nodes ++ [node]) ∧
      Frame links (list.addLast links (some node)).2 (nodes ++ [node]) := by
  obtain ⟨⟨hnodup, hsegment⟩, hhead, htail⟩ := hholds
  have hnewMem : node ∈ nodes ++ [node] := by simp
  have hframe : Frame links ((links.setNext node none).setPrev node list.tail) (nodes ++ [node]) :=
    ((Frame.refl links _).setNext hnewMem none).setPrev hnewMem _
  have hkept := (hsegment.setNext_of_notMem hnew none).setPrev_of_notMem hnew list.tail
  unfold DlList.addLast
  rcases List.eq_nil_or_concat nodes with rfl | ⟨front, last, hsplit⟩
  · rw [List.getLast?_nil] at htail
    rw [htail] at hframe ⊢
    refine ⟨⟨⟨List.nodup_singleton node, ?_, ?_, trivial⟩, rfl, rfl⟩, hframe⟩
    · exact Links.setPrev_prev_self _
    · exact Links.setNext_next_self _
  rw [List.concat_eq_append] at hsplit
  subst hsplit
  rw [List.getLast?_concat] at htail
  rw [htail] at hframe hkept ⊢
  have hlast : last ∉ front := Links.last_notMem hnodup
  have hne : node ≠ last := by
    rintro rfl
    exact hnew (by simp)
  refine ⟨⟨⟨Links.nodup_concat hnodup hnew, ?_⟩, ?_, ?_⟩, hframe.setNext (by simp) _⟩
  · rw [Links.segment_append, List.getLast?_concat]
    refine ⟨hkept.setNext_last hlast (some node), ?_, ?_, trivial⟩
    · exact Links.setPrev_prev_self _
    · rw [Links.setNext_next_of_ne hne, Links.setPrev_next, Links.setNext_next_self]
      rfl
  · rw [hhead]
    cases front <;> rfl
  · rw [List.getLast?_concat]

theorem Holds.removeFirst (hholds : list.Holds links (node :: nodes)) :
    (list.removeFirst links).1 = some node ∧
      (list.removeFirst links).2.1.Holds (list.removeFirst links).2.2 nodes ∧
      Frame links (list.removeFirst links).2.2 (node :: nodes) := by
  obtain ⟨⟨hnodup, hprev, hnext, hsegment⟩, hhead, htail⟩ := hholds
  obtain ⟨hnode, hrest⟩ := List.nodup_cons.mp hnodup
  rw [List.head?_cons] at hhead
  have hmem : node ∈ node :: nodes := List.mem_cons_self
  unfold DlList.removeFirst
  rw [hhead]
  cases nodes with
  | nil =>
    have hnone : links.next node = none := hnext
    simp only [hnone]
    exact ⟨trivial, new_holds _, ((Frame.refl links _).setPrev hmem none).setNext hmem none⟩
  | cons second nodes =>
    have hsome : links.next node = some second := hnext
    simp only [hsome]
    have hstart := hsegment.setPrev_head (List.nodup_cons.mp hrest).1 none
    have hframe : Frame links (links.setPrev second none) (node :: second :: nodes) :=
      (Frame.refl links _).setPrev (List.mem_cons_of_mem _ List.mem_cons_self) none
    refine ⟨trivial, ⟨⟨hrest, ?_⟩, rfl, ?_⟩, (hframe.setPrev hmem none).setNext hmem none⟩
    · exact (hstart.setPrev_of_notMem hnode none).setNext_of_notMem hnode none
    · rw [htail, List.getLast?_cons_cons]

theorem Holds.removeLast (hholds : list.Holds links (nodes ++ [node])) :
    (list.removeLast links).1 = some node ∧
      (list.removeLast links).2.1.Holds (list.removeLast links).2.2 nodes ∧
      Frame links (list.removeLast links).2.2 (nodes ++ [node]) := by
  obtain ⟨⟨hnodup, hsegment⟩, hhead, htail⟩ := hholds
  have hnode : node ∉ nodes := Links.last_notMem hnodup
  rw [Links.segment_append] at hsegment
  obtain ⟨hfront, hprev, -, -⟩ := hsegment
  rw [List.getLast?_concat] at htail
  have hmem : node ∈ nodes ++ [node] := by simp
  unfold DlList.removeLast
  rw [htail]
  rcases List.eq_nil_or_concat nodes with rfl | ⟨front, last, hsplit⟩
  · have hnone : links.prev node = none := hprev
    simp only [hnone]
    exact ⟨trivial, new_holds _, ((Frame.refl links _).setPrev hmem none).setNext hmem none⟩
  rw [List.concat_eq_append] at hsplit
  subst hsplit
  have hrest : (front ++ [last]).Nodup := (List.nodup_append.mp hnodup).1
  have hsome : links.prev node = some last := by
    rw [hprev, List.getLast?_concat]
    rfl
  simp only [hsome]
  have hend := hfront.setNext_last (Links.last_notMem hrest) none
  have hframe : Frame links (links.setNext last none) (front ++ [last] ++ [node]) :=
    (Frame.refl links _).setNext (by simp) none
  refine ⟨trivial, ⟨⟨hrest, ?_⟩, ?_, ?_⟩, (hframe.setPrev hmem none).setNext hmem none⟩
  · exact (hend.setPrev_of_notMem hnode none).setNext_of_notMem hnode none
  · rw [hhead]
    cases front <;> rfl
  · rw [List.getLast?_concat]

theorem addMultiple_holds (links : Links Nat) (dataNum : Nat) :
    (new.addMultiple links dataNum).1.Holds (new.addMultiple links dataNum).2 (List.range dataNum) := by
  induction dataNum with
  | zero => exact new_holds links
  | succ dataNum ih =>
    unfold addMultiple at ih ⊢
    rw [List.range_succ, List.foldl_append]
    exact (ih.addLast (by simp)).1

end DlList

end Nozomi
