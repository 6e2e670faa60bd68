import Mathlib.Data.List.Nodup
import Mathlib.Logic.Function.Basic
import Mathlib.Tactic.Ring

/-!
# Doubly linked nodes

Nodes that hold a pointer to the next and to the previous one, as functions on addresses. A segment is a list of
nodes that follow one another behind a node and in front of a node, or behind and in front of nothing; a circle
and a row are segments. A write to one link is at the last node, at the first one, or outside a segment.
-/

namespace Nozomi

structure Links (α : Type*) where
  next : α → Option α
  prev : α → Option α

namespace Links

section

variable {α : Type*} {links other : Links α} {before after : Option α} {node : α} {front back nodes : List α}

/-- The nodes of a list follow one another behind `before` and in front of `after`. -/
def Segment (links : Links α) : Option α → List α → Option α → Prop
  | _, [], _ => True
  | before, node :: rest, after =>
    links.prev node = before ∧ links.next node = rest.head?.or after ∧ Segment links (some node) rest after

theorem Segment.congr (hsegment : links.Segment before nodes after)
    (hnext : ∀ node ∈ nodes, other.next node = links.next node)
    (hprev : ∀ node ∈ nodes, other.prev node = links.prev node) : other.Segment before nodes after := by
  induction nodes generalizing before with
  | nil => trivial
  | cons node nodes ih =>
    obtain ⟨hbefore, hafter, hrest⟩ := hsegment
    rw [List.forall_mem_cons] at hnext hprev
    exact ⟨hprev.1.trans hbefore, hnext.1.trans hafter, ih hrest hnext.2 hprev.2⟩

theorem segment_append :
    links.Segment before (front ++ back) after ↔
      links.Segment before front (back.head?.or after) ∧ links.Segment (front.getLast?.or before) back after := by
  induction front generalizing before with
  | nil => simp [Segment]
  | cons node front ih =>
    have hhead : (front ++ back).head?.or after = front.head?.or (back.head?.or after) := by
      cases front <;> simp
    have hlast : (node :: front).getLast?.or before = front.getLast?.or (some node) := by
      cases front <;> simp [List.getLast?_cons]
    rw [List.cons_append, Segment, Segment, ih, hhead, hlast]
    tauto

/-- The nodes of a list follow one another, and the first one follows the last one. -/
structure Circle (links : Links α) (nodes : List α) : Prop where
  nodup : nodes.Nodup
  segment : links.Segment nodes.getLast? nodes nodes.head?

theorem circle_nil (links : Links α) : links.Circle [] := ⟨List.nodup_nil, trivial⟩

theorem Circle.prev_head (hcircle : links.Circle (node :: nodes)) :
    links.prev node = (node :: nodes).getLast? := hcircle.segment.1

theorem Circle.next_head (hcircle : links.Circle (node :: nodes)) :
    links.next node = nodes.head?.or (some node) := hcircle.segment.2.1

/-- The nodes of a list follow one another, with nothing in front of the first one or behind the last one. -/
structure Row (links : Links α) (nodes : List α) : Prop where
  nodup : nodes.Nodup
  segment : links.Segment none nodes none

theorem row_nil (links : Links α) : links.Row [] := ⟨List.nodup_nil, trivial⟩

theorem Row.congr (hrow : links.Row nodes) (hnext : ∀ node ∈ nodes, other.next node = links.next node)
    (hprev : ∀ node ∈ nodes, other.prev node = links.prev node) : other.Row nodes :=
  ⟨hrow.nodup, hrow.segment.congr hnext hprev⟩

theorem Row.next_mem (hrow : links.Row nodes) (hnode : node ∈ nodes) {next : α}
    (hnext : links.next node = some next) :
    next ∈ nodes := by
  obtain ⟨front, back, rfl⟩ := List.append_of_mem hnode
  obtain ⟨-, -, hlink, -⟩ := segment_append.mp hrow.segment
  rw [hnext, Option.or_none] at hlink
  exact List.mem_append_right _ (List.mem_cons_of_mem _ (List.mem_of_mem_head? hlink.symm))

theorem Row.prev_ne_self (hrow : links.Row nodes) (hnode : node ∈ nodes) : links.prev node ≠ some node := by
  obtain ⟨front, back, rfl⟩ := List.append_of_mem hnode
  obtain ⟨-, hlink, -⟩ := segment_append.mp hrow.segment
  rw [hlink, Option.or_none]
  intro hlast
  exact (List.nodup_append.mp hrow.nodup).2.2 node (List.mem_of_mem_getLast? hlast) node List.mem_cons_self rfl

/-- A segment that starts in a row stays in it. -/
theorem Row.mem_of_segment (hrow : links.Row nodes) {path : List α} {last : α}
    (hsegment : links.Segment before path (some last))
    (hhead : ∀ first, path.head?.or (some last) = some first → first ∈ nodes) : last ∈ nodes := by
  induction path generalizing before with
  | nil => exact hhead last rfl
  | cons node path ih =>
    obtain ⟨-, hlink, hrest⟩ := hsegment
    exact ih hrest fun first hfirst => hrow.next_mem (hhead node rfl) (hlink.trans hfirst)

theorem exists_last (node : α) (nodes : List α) :
    ∃ front last, node :: nodes = front ++ [last] ∧ (node :: nodes).getLast? = some last := by
  obtain ⟨front, last, hsplit⟩ := (List.eq_nil_or_concat (node :: nodes)).resolve_left (List.cons_ne_nil _ _)
  rw [List.concat_eq_append] at hsplit
  exact ⟨front, last, hsplit, by rw [hsplit, List.getLast?_concat]⟩

theorem last_notMem {last : α} (hnodup : (front ++ [last]).Nodup) : last ∉ front := by
  rw [List.nodup_append] at hnodup
  exact fun hmem => hnodup.2.2 last hmem last (List.mem_singleton_self last) rfl

theorem nodup_concat {new : α} (hnodup : nodes.Nodup) (hnew : new ∉ nodes) : (nodes ++ [new]).Nodup := by
  rw [List.nodup_append]
  refine ⟨hnodup, List.nodup_singleton new, ?_⟩
  intro place hplace _ hsingle heq
  obtain rfl := List.mem_singleton.mp hsingle
  exact hnew (heq ▸ hplace)

end

/-! ### Writes -/

variable {α : Type*} [DecidableEq α] {links : Links α} {before after : Option α} {node : α}
  {front back nodes : List α}

def setNext (links : Links α) (node : α) (target : Option α) : Links α :=
  { links with next := Function.update links.next node target }

def setPrev (links : Links α) (node : α) (target : Option α) : Links α :=
  { links with prev := Function.update links.prev node target }

@[simp] theorem setNext_prev (target : Option α) : (links.setNext node target).prev = links.prev := rfl

@[simp] theorem setPrev_next (target : Option α) : (links.setPrev node target).next = links.next := rfl

@[simp] theorem setNext_next_self (target : Option α) : (links.setNext node target).next node = target :=
  Function.update_self _ _ _

@[simp] theorem setPrev_prev_self (target : Option α) : (links.setPrev node target).prev node = target :=
  Function.update_self _ _ _

theorem setNext_next_of_ne {place : α} (hne : place ≠ node) (target : Option α) :
    (links.setNext node target).next place = links.next place :=
  Function.update_of_ne hne _ _

theorem setPrev_prev_of_ne {place : α} (hne : place ≠ node) (target : Option α) :
    (links.setPrev node target).prev place = links.prev place :=
  Function.update_of_ne hne _ _

theorem Segment.setNext_of_notMem (hsegment : links.Segment before nodes after) (hnode : node ∉ nodes)
    (target : Option α) : (links.setNext node target).Segment before nodes after := by
  refine hsegment.congr (fun place hplace => ?_) fun _ _ => rfl
  exact setNext_next_of_ne (ne_of_mem_of_not_mem hplace hnode) target

theorem Segment.setPrev_of_notMem (hsegment : links.Segment before nodes after) (hnode : node ∉ nodes)
    (target : Option α) : (links.setPrev node target).Segment before nodes after := by
  refine hsegment.congr (fun _ _ => rfl) fun place hplace => ?_
  exact setPrev_prev_of_ne (ne_of_mem_of_not_mem hplace hnode) target

theorem Segment.setPrev_head (hsegment : links.Segment before (node :: nodes) after) (hnode : node ∉ nodes)
    (target : Option α) : (links.setPrev node target).Segment target (node :: nodes) after := by
  obtain ⟨-, hnext, hrest⟩ := hsegment
  exact ⟨setPrev_prev_self target, hnext, hrest.setPrev_of_notMem hnode target⟩

theorem Segment.setNext_last (hsegment : links.Segment before (nodes ++ [node]) after) (hnode : node ∉ nodes)
    (target : Option α) : (links.setNext node target).Segment before (nodes ++ [node]) target := by
  rw [segment_append] at hsegment ⊢
  obtain ⟨hfront, hprev, -, -⟩ := hsegment
  refine ⟨?_, ?_, ?_, trivial⟩
  · exact hfront.setNext_of_notMem hnode target
  · exact hprev
  · exact setNext_next_self target

/-! ### Circles -/

theorem circle_singleton (links : Links α) (node : α) :
    ((links.setNext node (some node)).setPrev node (some node)).Circle [node] :=
  ⟨List.nodup_singleton node, setPrev_prev_self _, setNext_next_self _, trivial⟩

theorem Circle.insert (hcircle : links.Circle (node :: nodes)) {last new : α}
    (hlast : (node :: nodes).getLast? = some last) (hnew : new ∉ node :: nodes) :
    ((((links.setPrev new (some last)).setNext new (some node)).setNext last (some new)).setPrev node
      (some new)).Circle (node :: nodes ++ [new]) := by
  obtain ⟨hnodup, hsegment⟩ := hcircle
  obtain ⟨front, other, hsplit, hother⟩ := exists_last node nodes
  obtain rfl := Option.some.inj (hother.symm.trans hlast)
  have hnewNode : new ≠ node := fun heq => hnew (heq ▸ List.mem_cons_self)
  have hnewLast : new ≠ other := by
    rintro rfl
    exact hnew (by rw [hsplit]; simp)
  have hotherFront : other ∉ front := last_notMem (hsplit ▸ hnodup)
  have hnodeRest : node ∉ nodes := (List.nodup_cons.mp hnodup).1
  refine ⟨nodup_concat hnodup hnew, ?_⟩
  rw [List.getLast?_concat, segment_append]
  have hkept := (hsegment.setPrev_of_notMem hnew (some other)).setNext_of_notMem hnew (some node)
  rw [hsplit] at hkept
  have hend := hkept.setNext_last hotherFront (some new)
  rw [← hsplit] at hend
  refine ⟨hend.setPrev_head hnodeRest (some new), ?_, ?_, trivial⟩
  · rw [setPrev_prev_of_ne hnewNode, setNext_prev, setNext_prev, setPrev_prev_self, hlast]
    rfl
  · rw [setPrev_next, setNext_next_of_ne hnewLast, setNext_next_self]
    rfl

theorem Circle.removeHead {first second last : α} {rest : List α}
    (hcircle : links.Circle (first :: second :: rest)) (hlast : (second :: rest).getLast? = some last) :
    ((links.setPrev second (some last)).setNext last (some second)).Circle (second :: rest) := by
  obtain ⟨hnodup, -, -, hsegment⟩ := hcircle
  have htail := (List.nodup_cons.mp hnodup).2
  obtain ⟨front, other, hsplit, hother⟩ := exists_last second rest
  obtain rfl := Option.some.inj (hother.symm.trans hlast)
  have hotherFront : other ∉ front := last_notMem (hsplit ▸ htail)
  have hstart := hsegment.setPrev_head (List.nodup_cons.mp htail).1 (some other)
  rw [hsplit] at hstart
  have hend := hstart.setNext_last hotherFront (some second)
  rw [← hsplit] at hend
  refine ⟨htail, ?_⟩
  rw [hlast]
  exact hend

end Links

end Nozomi
