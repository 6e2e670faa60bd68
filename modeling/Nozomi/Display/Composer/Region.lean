import Nozomi.Base.Extremes
import Nozomi.Display.Composer.Code
import Nozomi.Display.Overlay.Orientation

/-!
# The region that the framebuffer is cropped to

At a z-order other than zero `FBUpdateLowRes::configure` shows the part of the framebuffer that
`getNonWormholeRegion` finds: the bounding box of all layers, intersected edge by edge with the frame of the
framebuffer.
-/

namespace Nozomi

/-! ### Rectangles -/

namespace Rect

def pixels (rect : Rect) : Set (Int × Int) :=
  {pixel | rect.left ≤ pixel.1 ∧ pixel.1 < rect.right ∧ rect.top ≤ pixel.2 ∧ pixel.2 < rect.bottom}

def join (first second : Rect) : Rect :=
  ⟨min first.left second.left, min first.top second.top, max first.right second.right,
    max first.bottom second.bottom⟩

def WellFormedIn (frame rect : Rect) : Prop :=
  (frame.left ≤ rect.left ∧ rect.left ≤ rect.right ∧ rect.right ≤ frame.right) ∧
    frame.top ≤ rect.top ∧ rect.top ≤ rect.bottom ∧ rect.bottom ≤ frame.bottom

variable (frames : List Rect) (start : Rect)

theorem foldl_join_left_le_iff (bound : Int) : (frames.foldl join start).left ≤ bound ↔
    ∃ frame ∈ start :: frames, frame.left ≤ bound := by
  have hedge : (frames.foldl join start).left = frames.foldl (fun edge frame => min edge frame.left) start.left :=
    (List.foldl_hom (f := left) (fun _ _ => rfl)).symm
  rw [hedge, foldl_min_le_iff]
  simp only [List.mem_cons, exists_eq_or_imp]

theorem foldl_join_top_le_iff (bound : Int) : (frames.foldl join start).top ≤ bound ↔
    ∃ frame ∈ start :: frames, frame.top ≤ bound := by
  have hedge : (frames.foldl join start).top = frames.foldl (fun edge frame => min edge frame.top) start.top :=
    (List.foldl_hom (f := top) (fun _ _ => rfl)).symm
  rw [hedge, foldl_min_le_iff]
  simp only [List.mem_cons, exists_eq_or_imp]

theorem le_foldl_join_right_iff (bound : Int) : bound ≤ (frames.foldl join start).right ↔
    ∃ frame ∈ start :: frames, bound ≤ frame.right := by
  have hedge : (frames.foldl join start).right = frames.foldl (fun edge frame => max edge frame.right) start.right :=
    (List.foldl_hom (f := right) (fun _ _ => rfl)).symm
  rw [hedge, le_foldl_max_iff]
  simp only [List.mem_cons, exists_eq_or_imp]

theorem le_foldl_join_bottom_iff (bound : Int) : bound ≤ (frames.foldl join start).bottom ↔
    ∃ frame ∈ start :: frames, bound ≤ frame.bottom := by
  have hedge : (frames.foldl join start).bottom = frames.foldl (fun edge frame => max edge frame.bottom) start.bottom :=
    (List.foldl_hom (f := bottom) (fun _ _ => rfl)).symm
  rw [hedge, le_foldl_max_iff]
  simp only [List.mem_cons, exists_eq_or_imp]

end Rect

/-! ### The crop of the framebuffer -/

def FBUpdate.sourceCrop (list : DisplayContents) (fbZorder : Int) : Rect :=
  if fbZorder = 0 then list.fbLayer.sourceCrop else list.getNonWormholeRegion

def FBUpdate.dcrop (list : DisplayContents) (fbZorder : Int) : Dim :=
  .ofRect (sourceCrop list fbZorder)

namespace DisplayContents

variable (list : DisplayContents)

/-- The frames of the layers, from one edge to the opposite one, meet the frame of the framebuffer: some
layer starts before its end, some layer ends after its start, and the stretches are in order. -/
def SpanMeets (near far : Rect → Int) : Prop :=
  near list.fbLayer.displayFrame ≤ far list.fbLayer.displayFrame ∧
    (∃ layer ∈ list.appLayers, near layer.displayFrame ≤ far list.fbLayer.displayFrame) ∧
    (∃ layer ∈ list.appLayers, near list.fbLayer.displayFrame ≤ far layer.displayFrame) ∧
    ∃ first ∈ list.appLayers, ∃ second ∈ list.appLayers, near first.displayFrame ≤ far second.displayFrame

theorem exists_boundingBox (hlayers : list.appLayers ≠ []) :
    ∃ box : Rect,
      list.getNonWormholeRegion =
        ⟨max box.left list.fbLayer.displayFrame.left, max box.top list.fbLayer.displayFrame.top,
          min box.right list.fbLayer.displayFrame.right, min box.bottom list.fbLayer.displayFrame.bottom⟩ ∧
      (∀ bound, box.left ≤ bound ↔ ∃ layer ∈ list.appLayers, layer.displayFrame.left ≤ bound) ∧
      (∀ bound, box.top ≤ bound ↔ ∃ layer ∈ list.appLayers, layer.displayFrame.top ≤ bound) ∧
      (∀ bound, bound ≤ box.right ↔ ∃ layer ∈ list.appLayers, bound ≤ layer.displayFrame.right) ∧
      ∀ bound, bound ≤ box.bottom ↔ ∃ layer ∈ list.appLayers, bound ≤ layer.displayFrame.bottom := by
  unfold getNonWormholeRegion
  cases happ : list.appLayers with
  | nil => contradiction
  | cons first rest =>
    refine ⟨(rest.map (·.displayFrame)).foldl Rect.join first.displayFrame, rfl, ?_, ?_, ?_, ?_⟩
    · intro bound
      simp [Rect.foldl_join_left_le_iff]
    · intro bound
      simp [Rect.foldl_join_top_le_iff]
    · intro bound
      simp [Rect.le_foldl_join_right_iff]
    · intro bound
      simp [Rect.le_foldl_join_bottom_iff]

theorem pixels_subset_getNonWormholeRegion {layer : Layer} (hlayer : layer ∈ list.appLayers) :
    layer.displayFrame.pixels ∩ list.fbLayer.displayFrame.pixels ⊆ list.getNonWormholeRegion.pixels := by
  obtain ⟨box, hregion, hleft, htop, hright, hbottom⟩ :=
    list.exists_boundingBox (List.ne_nil_of_mem hlayer)
  have hboxLeft := (hleft layer.displayFrame.left).mpr ⟨layer, hlayer, le_refl _⟩
  have hboxTop := (htop layer.displayFrame.top).mpr ⟨layer, hlayer, le_refl _⟩
  have hboxRight := (hright layer.displayFrame.right).mpr ⟨layer, hlayer, le_refl _⟩
  have hboxBottom := (hbottom layer.displayFrame.bottom).mpr ⟨layer, hlayer, le_refl _⟩
  rw [hregion]
  rintro ⟨x, y⟩ ⟨hshown, hfb⟩
  simp only [Rect.pixels, Set.mem_ofPred_eq] at hshown hfb ⊢
  omega

theorem span_iff {near far : Rect → Int} {boxNear boxFar : Int}
    (hnear : ∀ bound, boxNear ≤ bound ↔ ∃ layer ∈ list.appLayers, near layer.displayFrame ≤ bound)
    (hfar : ∀ bound, bound ≤ boxFar ↔ ∃ layer ∈ list.appLayers, bound ≤ far layer.displayFrame) :
    max boxNear (near list.fbLayer.displayFrame) ≤ min boxFar (far list.fbLayer.displayFrame) ↔
      list.SpanMeets near far := by
  have hbox : boxNear ≤ boxFar ↔ ∃ first ∈ list.appLayers, ∃ second ∈ list.appLayers,
      near first.displayFrame ≤ far second.displayFrame := by
    rw [hnear]
    simp only [hfar]
  rw [max_le_iff, le_min_iff, le_min_iff, hbox, hnear, hfar]
  constructor
  · rintro ⟨⟨horder, hstarts⟩, hends, hframe⟩
    exact ⟨hframe, hstarts, hends, horder⟩
  · rintro ⟨hframe, hstarts, hends, horder⟩
    exact ⟨⟨horder, hstarts⟩, hends, hframe⟩

/-- At a z-order other than zero the crop is a rectangle in the frame of the framebuffer that contains what
the layers show there if and only if the frames of the layers meet that frame in both directions. -/
theorem sourceCrop_wellFormed_iff {fbZorder : Int} (hlayers : list.appLayers ≠ []) (hzorder : fbZorder ≠ 0) :
    (list.fbLayer.displayFrame.WellFormedIn (FBUpdate.sourceCrop list fbZorder) ∧
      ∀ layer ∈ list.appLayers, layer.displayFrame.pixels ∩ list.fbLayer.displayFrame.pixels ⊆
        (FBUpdate.sourceCrop list fbZorder).pixels) ↔
    list.SpanMeets (·.left) (·.right) ∧ list.SpanMeets (·.top) (·.bottom) := by
  have hcrop : FBUpdate.sourceCrop list fbZorder = list.getNonWormholeRegion := if_neg hzorder
  obtain ⟨box, hregion, hleft, htop, hright, hbottom⟩ := list.exists_boundingBox hlayers
  rw [hcrop, ← list.span_iff hleft hright, ← list.span_iff htop hbottom]
  constructor
  · rintro ⟨⟨⟨-, hhorizontal, -⟩, -, hvertical, -⟩, -⟩
    rw [hregion] at hhorizontal hvertical
    exact ⟨hhorizontal, hvertical⟩
  · rintro ⟨hhorizontal, hvertical⟩
    refine ⟨?_, fun layer hlayer => list.pixels_subset_getNonWormholeRegion hlayer⟩
    rw [hregion]
    exact ⟨⟨le_max_right _ _, hhorizontal, min_le_right _ _⟩, le_max_right _ _, hvertical, min_le_right _ _⟩

def besideScreen : DisplayContents where
  appLayers := [⟨none, false, 0, 255, ⟨0, 0, 100, 100⟩, ⟨800, 0, 900, 100⟩, false⟩]
  fbLayer := ⟨none, false, 0, 255, ⟨0, 0, 720, 1280⟩, ⟨0, 0, 720, 1280⟩, false⟩
  geometryChanged := false

def insideScreen : DisplayContents :=
  { besideScreen with appLayers := [⟨none, false, 0, 255, ⟨0, 0, 100, 100⟩, ⟨600, 0, 700, 100⟩, false⟩] }

theorem sourceCrop_wellFormed_iff_insideScreen :
    insideScreen.fbLayer.displayFrame.WellFormedIn (FBUpdate.sourceCrop insideScreen 1) :=
  ((insideScreen.sourceCrop_wellFormed_iff (by decide) (by decide : (1 : Int) ≠ 0)).mpr
    ⟨by simp [SpanMeets, insideScreen, besideScreen], by simp [SpanMeets, insideScreen, besideScreen]⟩).1

/-- The crop ends before it starts, and its width is a word just below the largest. -/
theorem besideScreen_crop : FBUpdate.sourceCrop besideScreen 1 = ⟨800, 0, 720, 100⟩ ∧
    FBUpdate.dcrop besideScreen 1 = ⟨800, 0, 0xFFFFFFB0, 100⟩ ∧
    ¬besideScreen.fbLayer.displayFrame.WellFormedIn (FBUpdate.sourceCrop besideScreen 1) := by
  have hcrop : FBUpdate.sourceCrop besideScreen 1 = ⟨800, 0, 720, 100⟩ := by decide
  refine ⟨hcrop, by decide, ?_⟩
  rw [hcrop]
  simp [Rect.WellFormedIn]

end DisplayContents

end Nozomi
