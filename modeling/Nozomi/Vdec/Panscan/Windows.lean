import Nozomi.Base.Run
import Nozomi.Vdec.Panscan.Handler
import Nozomi.Vdec.StreamParser.Ensures

/-!
# The windows of the pan-scan data

`fill_pan_scan_data`, and the runs of the calls that take, fill in and use pan-scan nodes. The nodes come from
`malloc`, so nothing is known of one that was not taken yet; every other one has a number of windows that its
arrays have, or no windows at all.
-/

namespace Nozomi

structure PanScanWindow where
  x : Int
  y : Int
  dx : Int
  dy : Int
  deriving DecidableEq, Repr

/-- `OMX_QCOM_PANSCAN`, with an array of `windowMax` windows. -/
structure PanScanDest (windowMax : Nat) where
  numWindows : Nat
  window : Vector PanScanWindow windowMax

variable {windowMax : Nat}

def PanScan.fillWindows (panScan : PanScan) :
    (rounds i : Nat) → Vector PanScanWindow windowMax → Option (Vector PanScanWindow windowMax)
  | 0, _, window => some window
  | rounds + 1, i, window =>
    if hinside : i < maxPanScanRect ∧ i < windowMax then
      panScan.fillWindows rounds (i + 1) (window.set i
        { x := panScan.rectLeftOffset.getD i 0
          y := panScan.rectTopOffset.getD i 0
          dx := panScan.rectRightOffset.getD i 0
          dy := panScan.rectBottomOffset.getD i 0 } hinside.2)
    else none

def PanScan.Bounded (panScan : PanScan) : Prop :=
  panScan.rectId &&& noPanScanBit = 0 → panScan.cnt ≤ maxPanScanRect

theorem PanScan.bounded_of_none {panScan : PanScan} (hnone : panScan.rectId = noPanScanBit) :
    panScan.Bounded := by
  intro habsent
  rw [hnone] at habsent
  exact absurd habsent (by decide)

theorem PanScan.exists_fillWindows (panScan : PanScan) (hmax : maxPanScanRect ≤ windowMax) {rounds i : Nat}
    (hrounds : i + rounds ≤ maxPanScanRect) (window : Vector PanScanWindow windowMax) :
    ∃ filled, panScan.fillWindows rounds i window = some filled := by
  induction rounds generalizing i window with
  | zero => exact ⟨window, rfl⟩
  | succ rounds ih =>
    have hinside : i < maxPanScanRect ∧ i < windowMax := by omega
    rw [fillWindows, dif_pos hinside]
    exact ih (by omega) _

namespace PanscanHandler

def nodeAt (handler : PanscanHandler) : Populated → Option PanscanNode
  | .firstUsed => handler.panscanUsed.head?
  | .lastFree => handler.panscanFree.getLast?

def endRepetition (handler : PanscanHandler) : Populated → PanscanHandler
  | .firstUsed => { handler with panscanUsed := handler.panscanUsed.modify 0 clear }
  | .lastFree =>
    { handler with panscanFree := handler.panscanFree.modify (handler.panscanFree.length - 1) clear }
where
  clear (node : PanscanNode) : PanscanNode :=
    { node with panScanParam := { node.panScanParam with rectRepetitionPeriod := 0 } }

def fillPanScanData (handler : PanscanHandler) (dest : PanScanDest windowMax) (timestamp : Int) :
    Option (PanscanHandler × PanScanDest windowMax) :=
  match handler.getPopulated timestamp with
  | (none, handler) => some (handler, dest)
  | (some place, handler) => do
    let node ← handler.nodeAt place
    let panScan := node.panScanParam
    if panScan.rectId &&& noPanScanBit = 0 then
      let window ← panScan.fillWindows panScan.cnt 0 dest.window
      some (handler, ⟨panScan.cnt, window⟩)
    else some (handler.endRepetition place, dest)

/-! ### The nodes that were taken -/

/-- The nodes of the free list that were never taken, and those that came back. -/
structure Recycling (initial : List PanscanNode) (handler : PanscanHandler)
    (fresh recycled : List PanscanNode) : Prop where
  free : handler.panscanFree = fresh ++ recycled
  suffix : fresh <:+ initial
  taken : fresh.length + (recycled.length + handler.panscanUsed.length) = initial.length
  bounded : ∀ node ∈ recycled ++ handler.panscanUsed, node.panScanParam.Bounded

variable {initial fresh recycled used : List PanscanNode} {handler next : PanscanHandler} {node : PanscanNode}
  {frameTs : Int}

theorem recycling_initial (initial : List PanscanNode) : Recycling initial ⟨[], initial⟩ initial [] :=
  ⟨(List.append_nil _).symm, List.suffix_rfl, rfl, fun _ hnode => absurd hnode List.not_mem_nil⟩

theorem Recycling.replace (hrecycling : Recycling initial handler fresh recycled)
    {recycled' used' : List PanscanNode} (hfree : next.panscanFree = fresh ++ recycled') (hused : next.panscanUsed = used')
    (hlength : recycled'.length + used'.length = recycled.length + handler.panscanUsed.length)
    (hbounded : ∀ node ∈ recycled' ++ used', node.panScanParam.Bounded) :
    Recycling initial next fresh recycled' := by
  subst hused
  exact ⟨hfree, hrecycling.suffix, by rw [hlength, hrecycling.taken], hbounded⟩

theorem cleared_bounded (node : PanscanNode) : (cleared node).panScanParam.Bounded :=
  PanScan.bounded_of_none rfl

theorem Recycling.takeFree (hrecycling : Recycling initial handler fresh recycled) {nodes : List PanscanNode}
    (hfree : handler.panscanFree = node :: nodes) :
    ∃ fresh' recycled', Recycling initial ⟨handler.panscanUsed ++ [cleared node], nodes⟩ fresh' recycled' := by
  obtain ⟨hsplit, hsuffix, htaken, hbounded⟩ := hrecycling
  rw [hfree] at hsplit
  cases fresh with
  | nil =>
    rw [List.nil_append] at hsplit
    subst hsplit
    refine ⟨[], nodes, rfl, hsuffix, ?_, ?_⟩
    · rw [← htaken]
      simp
      omega
    · intro place hplace
      rw [← List.append_assoc, List.mem_append] at hplace
      rcases hplace with hold | hnew
      · exact hbounded place (List.mem_cons_of_mem _ hold)
      · exact List.mem_singleton.mp hnew ▸ cleared_bounded node
  | cons first fresh =>
    obtain ⟨rfl, rfl⟩ := List.cons.inj hsplit
    refine ⟨fresh, recycled, rfl, (List.suffix_cons _ _).trans hsuffix, ?_, ?_⟩
    · rw [← htaken]
      simp
      omega
    · intro place hplace
      rw [← List.append_assoc, List.mem_append] at hplace
      rcases hplace with hold | hnew
      · exact hbounded place hold
      · exact List.mem_singleton.mp hnew ▸ cleared_bounded node

theorem Recycling.getFree (hrecycling : Recycling initial handler fresh recycled)
    (hget : handler.getFree = some next) : ∃ fresh' recycled', Recycling initial next fresh' recycled' := by
  unfold PanscanHandler.getFree at hget
  cases hlast : handler.panscanUsed.getLast? with
  | none =>
    rw [hlast] at hget
    dsimp only at hget
    split at hget
    next => cases hget
    next hfree =>
      cases hget
      exact hrecycling.takeFree hfree
  | some last =>
    rw [hlast] at hget
    dsimp only at hget
    split at hget
    · split at hget
      next => cases hget
      next hfree =>
        cases hget
        exact hrecycling.takeFree hfree
    cases hget
    obtain ⟨front, hused⟩ := List.getLast?_eq_some_iff.mp hlast
    rw [hused, List.dropLast_concat]
    refine ⟨fresh, recycled, hrecycling.replace hrecycling.free rfl ?_ ?_⟩
    · rw [hused]
      simp
    · intro place hplace
      rw [← List.append_assoc, List.mem_append] at hplace
      rcases hplace with hold | hnew
      · refine hrecycling.bounded place ?_
        rw [hused, ← List.append_assoc]
        exact List.mem_append_left _ hold
      · exact List.mem_singleton.mp hnew ▸ cleared_bounded last

theorem bounded_modify {nodes : List PanscanNode} {change : PanscanNode → PanscanNode} (index : Nat)
    (hchange : ∀ node, node.panScanParam.Bounded → (change node).panScanParam.Bounded)
    (hbounded : ∀ node ∈ nodes, node.panScanParam.Bounded) :
    ∀ node ∈ nodes.modify index change, node.panScanParam.Bounded := by
  intro node hnode
  obtain ⟨place, hplace, rfl⟩ := List.mem_iff_getElem.mp hnode
  rw [List.getElem_modify]
  have hold := hbounded _ (List.getElem_mem (by simpa using hplace : place < nodes.length))
  split
  · exact hchange _ hold
  · exact hold

theorem Recycling.modifyLast (hrecycling : Recycling initial handler fresh recycled) {panScan : PanScan}
    (hpanScan : panScan.Bounded) :
    Recycling initial (handler.modifyLast fun _ => panScan) fresh recycled := by
  obtain ⟨hrecycled, hused⟩ := List.forall_mem_append.mp hrecycling.bounded
  refine hrecycling.replace hrecycling.free rfl ?_ (List.forall_mem_append.mpr ⟨hrecycled, ?_⟩)
  · rw [PanscanHandler.modifyLast, List.length_modify]
  · exact bounded_modify _ (fun _ _ => hpanScan) hused

theorem Recycling.updateLast (hrecycling : Recycling initial handler fresh recycled) :
    Recycling initial (handler.updateLast frameTs) fresh recycled := by
  unfold PanscanHandler.updateLast
  split
  next last hlast =>
    split
    · exact hrecycling
    obtain ⟨front, hsplit⟩ := List.getLast?_eq_some_iff.mp hlast
    obtain ⟨hrecycled, hused⟩ := List.forall_mem_append.mp hrecycling.bounded
    rw [hsplit, List.forall_mem_append] at hused
    rw [hsplit, List.dropLast_concat]
    refine hrecycling.replace hrecycling.free rfl (by simp [hsplit]) ?_
    refine List.forall_mem_append.mpr ⟨hrecycled, List.forall_mem_append.mpr ⟨?_, ?_⟩⟩
    · refine bounded_modify _ (fun node hnode => ?_) hused.1
      unfold PanscanNode.followedBy
      split
      · exact hnode
      · split
        · exact hnode
        · exact hnode
    · intro node hnode
      obtain rfl := List.mem_singleton.mp hnode
      exact hused.2 last (List.mem_singleton_self last)
  next => exact hrecycling

variable {free : List PanscanNode}

theorem Recycling.changeFirst {other : PanscanNode}
    (hrecycling : Recycling initial ⟨node :: used, free⟩ fresh recycled) (hother : other.panScanParam.Bounded) :
    Recycling initial ⟨other :: used, free⟩ fresh recycled := by
  obtain ⟨hrecycled, hused⟩ := List.forall_mem_append.mp hrecycling.bounded
  refine hrecycling.replace hrecycling.free rfl rfl (List.forall_mem_append.mpr ⟨hrecycled, ?_⟩)
  exact List.forall_mem_cons.mpr ⟨hother, (List.forall_mem_cons.mp hused).2⟩

theorem Recycling.giveBack {other : PanscanNode}
    (hrecycling : Recycling initial ⟨node :: used, free⟩ fresh recycled) (hother : other.panScanParam.Bounded) :
    Recycling initial ⟨used, free ++ [other]⟩ fresh (recycled ++ [other]) := by
  obtain ⟨hrecycled, hused⟩ := List.forall_mem_append.mp hrecycling.bounded
  have hfree : free = fresh ++ recycled := hrecycling.free
  refine hrecycling.replace (by rw [hfree, List.append_assoc]) rfl (by simp; omega) ?_
  refine List.forall_mem_append.mpr ⟨List.forall_mem_append.mpr ⟨hrecycled, ?_⟩, ?_⟩
  · exact fun place hplace => List.mem_singleton.mp hplace ▸ hother
  · exact (List.forall_mem_cons.mp hused).2

theorem Recycling.first (hrecycling : Recycling initial ⟨node :: used, free⟩ fresh recycled) :
    node.panScanParam.Bounded :=
  hrecycling.bounded node (List.mem_append_right _ List.mem_cons_self)

theorem reach_panScanParam (node : PanscanNode) (frameTs : Int) :
    (node.reach frameTs).panScanParam = node.panScanParam := by
  unfold PanscanNode.reach
  split <;> rfl

theorem spend_bounded (hnode : node.panScanParam.Bounded) : node.spend.panScanParam.Bounded := by
  unfold PanscanNode.spend
  split
  · exact hnode
  · exact hnode

theorem Recycling.scan (hrecycling : Recycling initial ⟨used, free⟩ fresh recycled) (frameTs : Int) :
    ∃ recycled', Recycling initial (scan frameTs used free).2 fresh recycled' := by
  induction used generalizing free recycled with
  | nil => exact ⟨recycled, hrecycling⟩
  | cons node used ih =>
    have hreach : (node.reach frameTs).panScanParam.Bounded :=
      (reach_panScanParam node frameTs).symm ▸ hrecycling.first
    unfold PanscanHandler.scan
    split
    · dsimp only
      split
      · split
        · exact ⟨recycled, hrecycling.changeFirst hreach⟩
        · exact ih (hrecycling.giveBack hreach)
      · exact ⟨recycled, hrecycling.changeFirst hreach⟩
    · exact ⟨recycled, hrecycling.changeFirst hrecycling.first⟩

theorem Recycling.takeFound (hrecycling : Recycling initial handler fresh recycled) (found : Bool) :
    ∃ recycled', Recycling initial (takeFound found handler).2 fresh recycled' ∧
      ∀ place ∈ (PanscanHandler.takeFound found handler).1,
        (∃ node, (PanscanHandler.takeFound found handler).2.nodeAt place = some node ∧
          node.panScanParam.Bounded) ∧
        ∃ recycled', Recycling initial ((PanscanHandler.takeFound found handler).2.endRepetition place) fresh
          recycled' := by
  obtain ⟨used, free⟩ := handler
  unfold PanscanHandler.takeFound
  split
  next node used hused =>
    dsimp only at hused
    subst hused
    have hfirst := hrecycling.first
    dsimp only
    split
    · refine ⟨recycled ++ [node], hrecycling.giveBack hfirst, fun place hplace => ?_⟩
      obtain rfl := Option.some.inj hplace
      refine ⟨⟨node, List.getLast?_concat, hfirst⟩, recycled ++ [endRepetition.clear node], ?_⟩
      unfold endRepetition
      dsimp only
      rw [modify_last]
      exact hrecycling.giveBack hfirst
    · refine ⟨recycled, hrecycling.changeFirst (spend_bounded hfirst), fun place hplace => ?_⟩
      obtain rfl := Option.some.inj hplace
      exact ⟨⟨node.spend, rfl, spend_bounded hfirst⟩, recycled, hrecycling.changeFirst (spend_bounded hfirst)⟩
  next => exact ⟨recycled, hrecycling, fun place hplace => absurd hplace (by simp)⟩

theorem Recycling.fill (hrecycling : Recycling initial handler fresh recycled)
    (hmax : maxPanScanRect ≤ windowMax) (dest : PanScanDest windowMax) (timestamp : Int) :
    ∃ filled, handler.fillPanScanData dest timestamp = some filled ∧
      ∃ recycled', Recycling initial filled.1 fresh recycled' := by
  obtain ⟨scanned, hscanned⟩ := hrecycling.scan timestamp
  have hpopulated : ∃ recycled', Recycling initial (handler.getPopulated timestamp).2 fresh recycled' ∧
      ∀ place ∈ (handler.getPopulated timestamp).1,
        (∃ node, (handler.getPopulated timestamp).2.nodeAt place = some node ∧ node.panScanParam.Bounded) ∧
        ∃ recycled', Recycling initial
          ((handler.getPopulated timestamp).2.endRepetition place) fresh recycled' :=
    hscanned.takeFound _
  unfold fillPanScanData
  generalize handler.getPopulated timestamp = populated at hpopulated
  obtain ⟨place, next⟩ := populated
  obtain ⟨recycled', hnext, hplaces⟩ := hpopulated
  cases place with
  | none => exact ⟨(next, dest), rfl, recycled', hnext⟩
  | some place =>
    obtain ⟨⟨node, hnode, hbounded⟩, hended⟩ := hplaces place rfl
    dsimp only at hnode ⊢
    rw [hnode]
    by_cases hwindows : node.panScanParam.rectId &&& noPanScanBit = 0
    · have hcnt : 0 + node.panScanParam.cnt ≤ maxPanScanRect := by simpa using hbounded hwindows
      obtain ⟨window, hwindow⟩ := node.panScanParam.exists_fillWindows hmax hcnt dest.window
      refine ⟨(next, ⟨node.panScanParam.cnt, window⟩), ?_, recycled', hnext⟩
      simp [hwindows, hwindow]
    · exact ⟨(next.endRepetition place, dest), by simp [hwindows], hended⟩

end PanscanHandler

namespace Parser

open PanScan PanscanHandler

/-! ### Parsing -/

variable {initial : List PanscanNode}

def KeepsNodes (initial : List PanscanNode) (handler : PanscanHandler) : Prop :=
  ∃ fresh recycled, Recycling initial handler fresh recycled

theorem panScanLoop_ensures (rounds i : Nat) {panScan : PanScan} {cnt : Nat} (hcnt : panScan.cnt = cnt) :
    (panScanLoop rounds i panScan).Ensures fun result => result.cnt = cnt := by
  induction rounds generalizing i panScan with
  | zero => exact Calls.ensures_pure hcnt
  | succ rounds ih =>
    refine Calls.ensures_bind _ fun left => Calls.ensures_bind _ fun right => ?_
    exact Calls.ensures_bind _ fun top => Calls.ensures_bind _ fun bottom => ih (i + 1) hcnt

theorem panScanParam_ensures (panScan : PanScan) : (panScanParam panScan).Ensures PanScan.Bounded := by
  unfold panScanParam
  refine Calls.ensures_bind _ fun rectId => ?_
  split
  · exact Calls.ensures_pure (bounded_of_none rfl)
  refine Calls.ensures_bind _ fun rectCancelFlag => ?_
  dsimp only
  split
  · exact Calls.ensures_pure (bounded_of_none rfl)
  refine Calls.ensures_bind _ fun cntMinus1 => ?_
  split
  · exact Calls.ensures_pure (bounded_of_none rfl)
  · refine (panScanLoop_ensures _ 0 rfl).bind fun filled hcnt => ?_
    refine Calls.ensures_bind _ fun repetition => Calls.ensures_pure fun _ => ?_
    change filled.cnt ≤ maxPanScanRect
    rw [hcnt]
    exact not_lt.mp ‹_›

theorem seiPanScan_ensures {handler : PanscanHandler} (hkeeps : KeepsNodes initial handler) :
    (seiPanScan handler).Ensures (KeepsNodes initial) := by
  obtain ⟨fresh, recycled, hrecycling⟩ := hkeeps
  unfold seiPanScan
  cases hfree : handler.getFree with
  | none => exact Calls.ensures_pure ⟨fresh, recycled, hrecycling⟩
  | some next =>
    obtain ⟨fresh', recycled', hnext⟩ := hrecycling.getFree hfree
    dsimp only
    split
    · exact Calls.ensures_pure ⟨fresh', recycled', hnext⟩
    · refine (panScanParam_ensures _).bind fun panScan hpanScan => ?_
      exact Calls.ensures_pure ⟨fresh', recycled', hnext.modifyLast hpanScan⟩

theorem seiPayload_ensures (payloadType : Nat) {params : StreamParams}
    (hkeeps : KeepsNodes initial params.panscanHdl) :
    (seiPayload payloadType params).Ensures fun result => KeepsNodes initial result.panscanHdl := by
  unfold seiPayload
  split
  · exact Calls.ensures_bind _ fun period => Calls.ensures_pure hkeeps
  split
  · exact Calls.ensures_bind _ fun timing => Calls.ensures_pure hkeeps
  split
  · exact (seiPanScan_ensures hkeeps).bind fun handler hhandler => Calls.ensures_pure hhandler
  split
  · exact Calls.ensures_bind _ fun pack => Calls.ensures_pure hkeeps
  · exact Calls.ensures_pure hkeeps

theorem parseNal_keepsNodes (rounds : Nat) {input : NalInput} (hkeeps : KeepsNodes initial input.panscanHdl)
    (params : StreamParams) :
    (parseNal rounds input params).Ensures fun result => KeepsNodes initial result.panscanHdl := by
  refine parseNal_ensures (fun _ _ hparams => hparams) ?_ ?_ seiPayload_ensures rounds hkeeps
  · intro inExtradata params hparams
    exact (parseVui inExtradata params.vuiParam).ensures_trivial.mono fun _ _ => hparams
  · rintro params next ⟨fresh, recycled, hrecycling⟩ hget
    exact hrecycling.getFree hget

end Parser

namespace H264StreamParser

open PanscanHandler

/-! ### Runs -/

def updatePanscanData (parser : H264StreamParser) (timestamp : Int) : H264StreamParser :=
  { parser with params := { parser.params with panscanHdl := parser.params.panscanHdl.updateLast timestamp } }

def fillPanScanData (parser : H264StreamParser) (dest : PanScanDest windowMax) (timestamp : Int) :
    Option (H264StreamParser × PanScanDest windowMax) := do
  let (handler, dest) ← parser.params.panscanHdl.fillPanScanData dest timestamp
  some ({ parser with params := { parser.params with panscanHdl := handler } }, dest)

inductive PanscanCall (windowMax : Nat)
  | parseNal (rounds : Nat) (input : NalInput)
  | updatePanscanData (timestamp : Int)
  | fillPanScanData (dest : PanScanDest windowMax) (timestamp : Int)

def panscanCall (parser : H264StreamParser) : PanscanCall windowMax → Option H264StreamParser
  | .parseNal rounds input => some (parser.parseNal rounds { input with panscanHdl :=
    parser.params.panscanHdl })
  | .updatePanscanData timestamp => some (parser.updatePanscanData timestamp)
  | .fillPanScanData dest timestamp => (parser.fillPanScanData dest timestamp).map Prod.fst

variable {initial : List PanscanNode}

theorem panscanCall_keepsNodes (hmax : maxPanScanRect ≤ windowMax) (parser : H264StreamParser)
    (call : PanscanCall windowMax) (hkeeps : Parser.KeepsNodes initial parser.params.panscanHdl) :
    ∃ next, parser.panscanCall call = some next ∧ Parser.KeepsNodes initial next.params.panscanHdl := by
  cases call with
  | parseNal rounds input =>
    have hensures := Parser.parseNal_keepsNodes rounds
      (show Parser.KeepsNodes initial { input with panscanHdl :=
        parser.params.panscanHdl }.panscanHdl from hkeeps)
      parser.params
    exact ⟨_, rfl, hensures.run ReaderOp.step parser.reader⟩
  | updatePanscanData timestamp =>
    obtain ⟨fresh, recycled, hrecycling⟩ := hkeeps
    exact ⟨_, rfl, fresh, recycled, hrecycling.updateLast⟩
  | fillPanScanData dest timestamp =>
    obtain ⟨fresh, recycled, hrecycling⟩ := hkeeps
    obtain ⟨filled, hfilled, recycled', hnext⟩ := hrecycling.fill hmax dest timestamp
    refine ⟨{ parser with params := { parser.params with panscanHdl := filled.1 } }, ?_, fresh, recycled',
      hnext⟩
    simp [panscanCall, H264StreamParser.fillPanScanData, hfilled]

def constructed (initial : List PanscanNode) (reader : StreamReader) : H264StreamParser :=
  ⟨.reset ⟨[], initial⟩, reader⟩

/-- No run makes an access outside an array, and each node that was ever taken has no windows or as many as the
arrays can have. The others are the last nodes of the array, as `malloc` gave them. -/
theorem panscanCalls_bounded (hmax : maxPanScanRect ≤ windowMax) (initial : List PanscanNode)
    (reader : StreamReader) (calls : List (PanscanCall windowMax)) :
    ∃ last fresh recycled, runSteps panscanCall (constructed initial reader) calls = some last ∧
      last.params.panscanHdl.panscanFree = fresh ++ recycled ∧ fresh <:+ initial ∧
      fresh.length + (recycled.length + last.params.panscanHdl.panscanUsed.length) = initial.length ∧
      ∀ node ∈ recycled ++ last.params.panscanHdl.panscanUsed,
        node.panScanParam.rectId &&& noPanScanBit = 0 → node.panScanParam.cnt ≤ maxPanScanRect := by
  obtain ⟨last, hrun, fresh, recycled, hrecycling⟩ :=
    runSteps_exists (fun parser call hkeeps => panscanCall_keepsNodes hmax parser call hkeeps) calls
      (constructed initial reader) ⟨initial, [], recycling_initial initial⟩
  exact ⟨last, fresh, recycled, hrun, hrecycling.free, hrecycling.suffix, hrecycling.taken, hrecycling.bounded⟩

def unknownNode : PanscanNode :=
  ⟨⟨0, 0, maxPanScanRect + 1, [0, 0, 0], [0, 0, 0], [0, 0, 0], [0, 0, 0], 0⟩, 0, 0, false⟩

def noWindows : PanScanDest 4 := ⟨0, .replicate 4 ⟨0, 0, 0, 0⟩⟩

def seiCalls : List (PanscanCall 4) :=
  [.parseNal 8 ⟨fun address => [0, 0, 1, 6, 2, 2, 0xA9, 0xEA, 0x80].getD address 0, 0, 9, naluTypeSei, false, ⟨[], []⟩⟩,
    .updatePanscanData 5]

/-- A message with one window, which the next frame is given. -/
theorem panscanCalls_bounded_sei :
    (∃ last, runSteps panscanCall (constructed [unknownNode, unknownNode] .new)
      (seiCalls ++ [.fillPanScanData noWindows 7]) = some last) ∧
      (runSteps panscanCall (constructed [unknownNode, unknownNode] .new) seiCalls).any fun parser =>
        (parser.fillPanScanData noWindows 7).any fun filled => filled.2.window[0] = ⟨1, 0, -1, 0⟩ :=
  have ⟨last, _, _, hrun, _⟩ := panscanCalls_bounded (by decide : maxPanScanRect ≤ 4)
    [unknownNode, unknownNode] .new (seiCalls ++ [.fillPanScanData noWindows 7])
  ⟨⟨last, hrun⟩, by decide +kernel⟩

def spsCalls : List (PanscanCall 4) :=
  [.parseNal 0 ⟨fun address => [0, 0, 1, 0x67].getD address 0, 0, 4, naluTypeSps, false, ⟨[], []⟩⟩,
    .updatePanscanData 5, .fillPanScanData noWindows 7]

/-- The node that was not taken still has more windows than the arrays. -/
theorem not_all_bounded :
    ¬∀ (initial : List PanscanNode) (reader : StreamReader) (calls : List (PanscanCall 4))
        (last : H264StreamParser),
      runSteps panscanCall (constructed initial reader) calls = some last →
        ∀ node ∈ last.params.panscanHdl.panscanUsed ++ last.params.panscanHdl.panscanFree,
          node.panScanParam.rectId &&& noPanScanBit = 0 → node.panScanParam.cnt ≤ maxPanScanRect := by
  intro hall
  have hrun : ∃ last, runSteps panscanCall (constructed [unknownNode, unknownNode] .new) spsCalls = some last ∧
      unknownNode ∈ last.params.panscanHdl.panscanFree := by
    refine ⟨_, rfl, ?_⟩
    decide +kernel
  obtain ⟨last, hlast, hmem⟩ := hrun
  exact absurd (hall _ _ _ last hlast unknownNode (List.mem_append_right _ hmem) (by decide)) (by decide)

end H264StreamParser

end Nozomi
