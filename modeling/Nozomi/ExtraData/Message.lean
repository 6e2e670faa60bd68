import Nozomi.ExtraData.Writing
import Nozomi.Vdec.StreamParser.Syntax

/-!
# The message of `create_sei`

What `create_sei` puts into `rbsp_buf`: the elements of the frame packing arrangement, with zeros instead of the
codes that `e_u` loses, and the trailing bits. `parse_frame_pack` reads the same elements.
-/

namespace Nozomi

namespace FramePackArrangement

variable (pack : FramePackArrangement)

def HasGrid : Prop := pack.quincunxSamplingFlag = 0 ∧ pack.type ≠ 5

instance : Decidable pack.HasGrid := inferInstanceAs (Decidable (_ ∧ _))

def flags : List (Descriptor × Nat) :=
  [(.u 7, pack.type), (.u 1, pack.quincunxSamplingFlag), (.u 6, pack.contentInterpretationType),
    (.u 1, pack.spatialFlippingFlag), (.u 1, pack.frame0FlippedFlag), (.u 1, pack.fieldViewsFlag),
    (.u 1, pack.currentFrameIsFrame0Flag), (.u 1, pack.frame0SelfContainedFlag),
    (.u 1, pack.frame1SelfContainedFlag)]

def grid : List (Descriptor × Nat) :=
  if pack.HasGrid then
    [(.u 4, pack.frame0GridPositionX), (.u 4, pack.frame0GridPositionY), (.u 4, pack.frame1GridPositionX),
      (.u 4, pack.frame1GridPositionY)]
  else []

def arrangement : List (Descriptor × Nat) := pack.flags ++ (pack.grid ++ [(.u 8, pack.reservedByte)])

def details : List (Descriptor × Nat) :=
  if pack.cancelFlag = 0 then pack.arrangement ++ [(.ue, pack.repetitionPeriod)] else []

def elements : List (Descriptor × Nat) :=
  [(.ue, pack.id), (.u 1, pack.cancelFlag)] ++ (pack.details ++ [(.u 1, pack.extensionFlag)])

end FramePackArrangement

namespace ExtraDataHandler

variable {handler : ExtraDataHandler} {bits : List Bool}

/-! ### Elements -/

/-- What the functions that write bits do not change. -/
structure Keeps (handler after : ExtraDataHandler) : Prop where
  framePackingArrangement : after.framePackingArrangement = handler.framePackingArrangement
  seiPayloadType : after.seiPayloadType = handler.seiPayloadType

theorem Keeps.refl (handler : ExtraDataHandler) : handler.Keeps handler := ⟨rfl, rfl⟩

theorem Keeps.trans {first second third : ExtraDataHandler} (hfirst : first.Keeps second)
    (hsecond : second.Keeps third) : first.Keeps third :=
  ⟨hsecond.framePackingArrangement.trans hfirst.framePackingArrangement,
    hsecond.seiPayloadType.trans hfirst.seiPayloadType⟩

theorem keeps_eULoop (rounds symbol remBits : Nat) (handler : ExtraDataHandler) :
    handler.Keeps (eULoop rounds symbol remBits handler).2.2 := by
  induction rounds generalizing symbol remBits handler with
  | zero => exact Keeps.refl handler
  | succ rounds ih =>
    rw [eULoop]
    split
    · have hlater := ih (shiftRight32 (shiftLeft32 symbol (sub32 32 (remBits - handler.bitPtr)))
        (sub32 32 (remBits - handler.bitPtr))) (remBits - handler.bitPtr)
        { handler.orByte (shiftRight32 symbol (remBits - handler.bitPtr)) with
          bytePtr := handler.bytePtr + 1
          bitPtr := 8 }
      exact ⟨hlater.framePackingArrangement, hlater.seiPayloadType⟩
    · exact Keeps.refl handler

theorem keeps_eU (handler : ExtraDataHandler) (symbol numBits : Nat) :
    handler.Keeps (handler.eU symbol numBits) := by
  have hloop := keeps_eULoop numBits symbol numBits handler
  rw [eU]
  generalize eULoop numBits symbol numBits handler = result at *
  obtain ⟨symbol, remBits, after⟩ := result
  dsimp only at hloop ⊢
  rw [eURest]
  split
  · exact hloop
  · dsimp only
    split <;> exact ⟨hloop.framePackingArrangement, hloop.seiPayloadType⟩

theorem keeps_eUe (handler : ExtraDataHandler) (symbol : Nat) : handler.Keeps (handler.eUe symbol) := by
  rw [eUe]
  exact keeps_eU handler _ _

def put (handler : ExtraDataHandler) (element : Descriptor × Nat) : ExtraDataHandler :=
  match element.1 with
  | .u n => handler.eU element.2 n
  | .ue => handler.eUe element.2

theorem keeps_put (elements : List (Descriptor × Nat)) (handler : ExtraDataHandler) :
    handler.Keeps (elements.foldl put handler) := by
  induction elements generalizing handler with
  | nil => exact Keeps.refl handler
  | cons element elements ih =>
    refine Keeps.trans ?_ (ih (handler.put element))
    rw [put]
    split
    · exact keeps_eU _ _ _
    · exact keeps_eUe _ _

theorem createArrangement_eq (handler : ExtraDataHandler) :
    handler.createArrangement =
      (handler.framePackingArrangement.arrangement.foldl put handler).eUe
        handler.framePackingArrangement.repetitionPeriod := by
  by_cases hhas : handler.framePackingArrangement.HasGrid
  · have hgrid : handler.framePackingArrangement.quincunxSamplingFlag = 0 ∧
        handler.framePackingArrangement.type ≠ 5 := hhas
    simp only [createArrangement, if_pos hgrid, FramePackArrangement.arrangement, FramePackArrangement.flags,
      FramePackArrangement.grid, if_pos hhas, List.cons_append, List.nil_append, List.foldl_cons,
        List.foldl_nil,
      put]
  · have hgrid : ¬(handler.framePackingArrangement.quincunxSamplingFlag = 0 ∧
        handler.framePackingArrangement.type ≠ 5) := hhas
    simp only [createArrangement, if_neg hgrid, FramePackArrangement.arrangement, FramePackArrangement.flags,
      FramePackArrangement.grid, if_neg hhas, List.cons_append, List.nil_append, List.foldl_cons,
        List.foldl_nil,
      put]

theorem keeps_createFramePack (handler : ExtraDataHandler) : handler.Keeps handler.createFramePack := by
  have hfirst := (keeps_eUe handler handler.framePackingArrangement.id).trans
    (keeps_eU _ handler.framePackingArrangement.cancelFlag 1)
  rw [createFramePack]
  split
  · rw [createArrangement_eq]
    exact ((hfirst.trans (keeps_put _ _)).trans (keeps_eUe _ _)).trans (keeps_eU _ _ _)
  · exact hfirst.trans (keeps_eU _ _ _)

/-! ### Bytes -/

theorem keeps_createTrailingBits (handler : ExtraDataHandler) : handler.Keeps handler.createTrailingBits := by
  have hstop : ∀ after : ExtraDataHandler, handler.Keeps after → handler.Keeps ((after.eU 1 1).eU 0 7) :=
    fun after hafter => (hafter.trans (keeps_eU _ _ _)).trans (keeps_eU _ _ _)
  rw [createTrailingBits]
  apply hstop
  split
  · dsimp only
    split
    · exact (keeps_eU _ _ _).trans (keeps_eU _ _ _)
    · exact keeps_eU _ _ _
  · exact Keeps.refl handler

end ExtraDataHandler

end Nozomi
