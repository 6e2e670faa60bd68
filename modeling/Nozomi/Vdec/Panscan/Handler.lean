import Nozomi.Vdec.StreamParser.Code

/-!
# `panscan_handler`

`get_populated` and `update_last` of `h264_utils.cpp`, by the order of the two lists. Every function keeps the
position of the data without a start: the last used node has it, or none has.
-/

namespace Nozomi

namespace PanscanNode

def reach (node : PanscanNode) (frameTs : Int) : PanscanNode :=
  if node.active ∧ frameTs < node.startTs then { node with startTs := frameTs } else node

def spend (node : PanscanNode) : PanscanNode :=
  if node.panScanParam.rectRepetitionPeriod > 1 then
    { node with panScanParam := { node.panScanParam with
        rectRepetitionPeriod := node.panScanParam.rectRepetitionPeriod - 2 } }
  else node

def followedBy (node : PanscanNode) (frameTs : Int) : PanscanNode :=
  if frameTs < node.endTs then { node with endTs := frameTs }
  else if frameTs < PanscanHandler.llongMax then node
  else { node with panScanParam := { node.panScanParam with rectRepetitionPeriod := 0 } }

variable (node : PanscanNode) (frameTs : Int)

theorem spend_startTs : node.spend.startTs = node.startTs := by
  unfold spend
  split <;> rfl

theorem followedBy_startTs : (node.followedBy frameTs).startTs = node.startTs := by
  unfold followedBy
  split
  · rfl
  · split <;> rfl

end PanscanNode

namespace PanscanHandler

def scan (frameTs : Int) : (used free : List PanscanNode) → Bool × PanscanHandler
  | [], free => (false, ⟨[], free⟩)
  | node :: used, free =>
    if node.startTs < llongMax then
      let node := node.reach frameTs
      if node.startTs ≤ frameTs then
        if frameTs < node.endTs then (true, ⟨{ node with active := true } :: used, free⟩)
        else scan frameTs used (free ++ [node])
      else (false, ⟨node :: used, free⟩)
    else (true, ⟨{ node with active := true } :: used, free⟩)

/-- The node whose data `get_populated` returns. -/
inductive Populated
  | firstUsed
  | lastFree
  deriving DecidableEq, Repr

def takeFound (found : Bool) (handler : PanscanHandler) : Option Populated × PanscanHandler :=
  match found, handler.panscanUsed with
  | true, node :: used =>
    if node.panScanParam.rectRepetitionPeriod = 0 then (some .lastFree, ⟨used, handler.panscanFree ++ [node]⟩)
    else (some .firstUsed, ⟨node.spend :: used, handler.panscanFree⟩)
  | _, _ => (none, handler)

def getPopulated (handler : PanscanHandler) (frameTs : Int) : Option Populated × PanscanHandler :=
  let scanned := scan frameTs handler.panscanUsed handler.panscanFree
  takeFound scanned.1 scanned.2

def updateLast (handler : PanscanHandler) (frameTs : Int) : PanscanHandler :=
  match handler.panscanUsed.getLast? with
  | some last =>
    if last.startTs < llongMax then handler
    else
      let front := handler.panscanUsed.dropLast
      { handler with
        panscanUsed := front.modify (front.length - 1) (·.followedBy frameTs) ++
          [{ last with startTs := frameTs }] }
  | none => handler

theorem modify_last {α : Type*} (front : List α) (last : α) (change : α → α) :
    (front ++ [last]).modify ((front ++ [last]).length - 1) change = front ++ [change last] := by
  rw [List.length_append, List.length_singleton, Nat.add_sub_cancel, List.modify_eq_take_drop, List.take_left,
    List.drop_left]
  rfl

/-! ### The position of the data without a start -/

def Started (used : List PanscanNode) : Prop := ∀ node ∈ used.dropLast, node.startTs < llongMax

variable {used free : List PanscanNode} {node last : PanscanNode} {frameTs : Int}

theorem started_concat : Started (used ++ [last]) ↔ ∀ node ∈ used, node.startTs < llongMax := by
  rw [Started, List.dropLast_concat]

theorem Started.tail (hstarted : Started (node :: used)) : Started used := by
  cases used with
  | nil => exact hstarted
  | cons second used => exact fun place hplace => hstarted place (List.mem_cons_of_mem _ hplace)

theorem Started.head (hstarted : Started (node :: used)) {other : PanscanNode}
    (hother : node.startTs < llongMax → other.startTs < llongMax) : Started (other :: used) := by
  cases used with
  | nil => exact fun place hplace => absurd hplace List.not_mem_nil
  | cons second used =>
    have hfirst := hother (hstarted node List.mem_cons_self)
    refine fun place hplace => ?_
    rcases List.mem_cons.mp hplace with rfl | hrest
    · exact hfirst
    · exact hstarted.tail place hrest

theorem reach_startTs_le : (node.reach frameTs).startTs ≤ node.startTs := by
  unfold PanscanNode.reach
  split
  · exact le_of_lt (And.right ‹_›)
  · exact le_rfl

theorem scan_started (hstarted : Started used) : Started (scan frameTs used free).2.panscanUsed := by
  induction used generalizing free with
  | nil => exact hstarted
  | cons node used ih =>
    unfold scan
    have hreach : node.startTs < llongMax → (node.reach frameTs).startTs < llongMax :=
      lt_of_le_of_lt reach_startTs_le
    split
    · dsimp only
      split
      · split
        · exact hstarted.head hreach
        · exact ih hstarted.tail
      · exact hstarted.head hreach
    · exact hstarted.head id

variable {handler : PanscanHandler}

theorem getFree_started {next : PanscanHandler} (hstarted : Started handler.panscanUsed)
    (hfree : handler.getFree = some next) : Started next.panscanUsed := by
  unfold getFree at hfree
  rcases List.eq_nil_or_concat handler.panscanUsed with hnil | ⟨front, last, hlast⟩
  · rw [hnil] at hfree
    cases hnodes : handler.panscanFree with
    | nil => simp [hnodes] at hfree
    | cons node nodes =>
      simp only [hnodes, List.getLast?_nil, List.nil_append, Option.some.injEq] at hfree
      subst hfree
      exact fun place hplace => absurd hplace List.not_mem_nil
  · rw [List.concat_eq_append] at hlast
    rw [hlast, started_concat] at hstarted
    simp only [hlast, List.getLast?_concat, List.dropLast_concat] at hfree
    split at hfree
    next hvalid =>
      cases hnodes : handler.panscanFree with
      | nil => simp [hnodes] at hfree
      | cons node nodes =>
        simp only [hnodes, Option.some.injEq] at hfree
        subst hfree
        rw [started_concat]
        intro place hplace
        rcases List.mem_append.mp hplace with hfront | hsingle
        · exact hstarted place hfront
        · exact List.mem_singleton.mp hsingle ▸ hvalid
    next =>
      obtain rfl := Option.some.inj hfree
      exact started_concat.mpr hstarted

theorem takeFound_started {found : Bool} (hstarted : Started handler.panscanUsed) :
    Started (takeFound found handler).2.panscanUsed := by
  unfold takeFound
  split
  next node used hused =>
    rw [hused] at hstarted
    split
    · exact hstarted.tail
    · exact hstarted.head (node.spend_startTs ▸ id)
  next => exact hstarted

theorem getPopulated_started (hstarted : Started handler.panscanUsed) :
    Started (handler.getPopulated frameTs).2.panscanUsed :=
  takeFound_started (scan_started hstarted)

theorem updateLast_started (hstarted : Started handler.panscanUsed) :
    Started (handler.updateLast frameTs).panscanUsed := by
  unfold updateLast
  rcases List.eq_nil_or_concat handler.panscanUsed with hnil | ⟨front, last, hlast⟩
  · simpa only [hnil, List.getLast?_nil] using hstarted
  rw [List.concat_eq_append] at hlast
  simp only [hlast, List.getLast?_concat, List.dropLast_concat]
  split
  · exact hstarted
  rw [hlast, started_concat] at hstarted
  rw [started_concat]
  intro place hplace
  obtain ⟨index, hindex, rfl⟩ := List.mem_iff_getElem.mp hplace
  rw [List.getElem_modify]
  have hold := hstarted _ (List.getElem_mem (by simpa using hindex : index < front.length))
  split
  · rwa [PanscanNode.followedBy_startTs]
  · exact hold

end PanscanHandler

end Nozomi
