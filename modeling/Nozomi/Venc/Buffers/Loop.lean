import Nozomi.Venc.Buffers.Code

/-!
# The loop of `push_input_buffer`

Each round that goes on has taken a source frame, and takes the next one from `m_opq_meta_q`. So the loop ends
by itself before its bound, and a step of the component that does not come back waits for `m_lock` or reads
through a null pointer.
-/

namespace Nozomi.Venc

open OmxVideo

/-- Where a computation does not come back, the bound of a loop is not the reason. -/
def NotUnfinished (reason : VencExit) (_ : OmxVideo) : Prop := reason ≠ .unfinished

def Waiting (source : Option InputHeader) (queue : List InputHeader) (video : OmxVideo) : Prop :=
  video.psourceFrame = source ∧ video.mOpqMetaQ = queue

def sources (video : OmxVideo) : Nat := video.psourceFrame.toList.length + video.mOpqMetaQ.length

section

variable {α : Type} {source : Option InputHeader} {queue : List InputHeader}

def Leaves (source : Option InputHeader) (queue : List InputHeader) (code : VencM α) : Prop :=
  Establishes (Waiting source queue) code (fun _ => Waiting source queue) NotUnfinished

theorem leaves_pure (value : α) : Leaves source queue (pure value) :=
  establishes_pure fun _ hvideo => hvideo

theorem leaves_throw {reason : VencExit} (hreason : reason ≠ .unfinished) :
    Leaves source queue (throw reason : VencM α) :=
  establishes_exit fun _ _ => hreason

theorem leaves_postEtb (entry : EtbEntry) : Leaves source queue (postEtb entry) := by
  have hblocked : VencExit.blocked ≠ .unfinished := by decide
  refine establishes_get fun _ => establishes_ite (fun _ => establishes_exit fun _ _ => hblocked) fun _ => ?_
  rintro video ⟨hvideo, rfl⟩
  exact hvideo

theorem leaves_useMedia (buffer : InputHeader) (useBuf : Bool) : Leaves source queue (useMedia buffer useBuf) := by
  have hcheck : Leaves source queue (checkMedia buffer) := by
    refine establishes_look fun video => ?_
    split
    · exact leaves_pure _
    · split
      · exact leaves_pure _
      · exact leaves_pure _
      · exact leaves_throw (by decide)
      · exact leaves_pure _
      · exact leaves_pure _
  refine establishes_look fun video => establishes_ite (fun _ => ?_) fun _ => leaves_pure _
  exact Establishes.bind hcheck fun _ => leaves_pure _

theorem leaves_emptyThisBufferProxy (buffer : InputHeader) (outcome : EmptyOutcome) :
    Leaves source queue (emptyThisBufferProxy buffer outcome) := by
  refine establishes_look fun video => establishes_ite (fun _ => leaves_pure _) fun _ => ?_
  refine establishes_change (Waiting source queue) (fun _ hvideo => hvideo) fun _ => ?_
  refine establishes_ite (fun _ => Establishes.bind (leaves_postEtb _) fun _ => leaves_pure _) fun _ => ?_
  refine Establishes.bind (leaves_useMedia buffer outcome.useBuf) fun used => ?_
  refine establishes_ite (fun _ => Establishes.bind (leaves_postEtb _) fun _ => leaves_pure _) fun _ => ?_
  refine establishes_ite (fun _ => ?_) fun _ => Establishes.bind (leaves_postEtb _) fun _ => ?_
  · exact establishes_change (Waiting source queue) (fun _ hvideo => hvideo) fun _ => leaves_pure _
  · exact establishes_change (Waiting source queue) (fun _ hvideo => hvideo) fun _ => leaves_pure _

theorem leaves_convertFrame (frame dest : InputHeader) (outcome : ConversionOutcome) :
    Leaves source queue (convertFrame frame dest outcome) := by
  have hcopy : ∀ length keepOffset (ret : ErrorType),
      Leaves source queue (copyHeader frame dest length keepOffset >>= fun _ => pure ret) := fun _ _ _ =>
    establishes_change (Waiting source queue) (fun _ hvideo => hvideo) fun _ => leaves_pure _
  refine establishes_look fun video => establishes_ite (fun _ => hcopy _ _ _) fun _ => ?_
  refine establishes_ite (fun _ => leaves_pure _) fun _ => establishes_ite (fun _ => leaves_pure _) fun _ => ?_
  split
  · exact leaves_pure _
  · exact establishes_ite (fun _ => hcopy _ _ _) fun _ => hcopy _ _ _

theorem sources_popSource {video : OmxVideo} (hsource : video.psourceFrame = none) :
    sources video.popSource = video.mOpqMetaQ.length := by
  unfold popSource
  split
  case h_1 buffer rest _ hqueue => simp [sources, hqueue, Nat.add_comm]
  case h_2 hother =>
    cases hqueue : video.mOpqMetaQ with
    | nil => simp [sources, hsource, hqueue]
    | cons buffer rest => exact absurd hqueue (hother buffer rest hsource)

theorem sources_popDest (video : OmxVideo) : sources video.popDest = sources video := by
  unfold popDest
  split <;> rfl

def Advances (queue : List InputHeader) (ret : ErrorType) (video : OmxVideo) : Prop :=
  ret = .none → sources video = queue.length

theorem advances_pushFrame (frame dest : InputHeader) :
    Establishes (Waiting source queue) (pushFrame frame dest) (Advances queue) NotUnfinished := by
  have hnull : VencExit.nullHandle ≠ .unfinished := by decide
  have hstop : Establishes (Waiting source queue) (pure ErrorType.badParameter) (Advances queue) NotUnfinished :=
    establishes_pure fun _ _ => nofun
  refine establishes_look fun video => establishes_ite (fun _ => hstop) fun _ => ?_
  split
  · exact establishes_exit fun _ _ => hnull
  · have hnext : Leaves source queue nextQueued := by
      intro video hvideo
      rw [nextQueued, ends_modifyGet]
      split <;> exact hvideo
    have hqueue : Leaves source queue (queueSource frame) := by
      refine Establishes.bind hnext fun outcome =>
        establishes_look fun video => establishes_ite (fun _ => ?_) fun _ => ?_
      · exact Establishes.bind (leaves_postEtb _) fun _ => leaves_pure _
      · exact leaves_emptyThisBufferProxy frame outcome.empty
    refine Establishes.bind hqueue fun ret => establishes_ite (fun _ => ?_) fun hret => ?_
    · refine establishes_change (fun video => sources video = queue.length) (fun video hvideo => ?_) fun _ =>
        establishes_pure fun _ hsources _ => hsources
      rw [sources_popSource rfl, hvideo.2]
    · exact establishes_change (fun _ => True) (fun _ _ => trivial) fun _ =>
        establishes_pure fun _ _ hnone => absurd hnone hret
  · have hnext : Leaves source queue nextConversion := by
      intro video hvideo
      rw [nextConversion, ends_modifyGet]
      split <;> exact hvideo
    have hqueue : Leaves source queue (queueConverted frame dest) := by
      refine Establishes.bind hnext fun outcome =>
        Establishes.bind (leaves_convertFrame frame dest outcome) fun ret => ?_
      refine establishes_ite (fun _ => leaves_pure _) fun _ => establishes_ite (fun _ => ?_) fun _ => ?_
      · exact Establishes.bind (leaves_postEtb _) fun _ => leaves_pure _
      · exact leaves_emptyThisBufferProxy dest outcome.empty
    refine Establishes.bind hqueue fun ret => establishes_ite (fun _ => ?_) fun hret => ?_
    · refine establishes_change (Waiting source queue) (fun _ hvideo => hvideo) fun _ => ?_
      refine establishes_change (fun video => sources video = queue.length) (fun video hvideo => ?_) fun _ =>
        establishes_pure fun _ hsources _ => hsources
      rw [sources_popDest, sources_popSource rfl, hvideo.2]
    · exact establishes_change (fun _ => True) (fun _ _ => trivial) fun _ =>
        establishes_pure fun _ _ hnone => absurd hnone hret
  · exact hstop

theorem pushFrames_finishes (fuel : Nat) :
    Establishes (fun video => sources video < fuel) (pushFrames fuel) (fun _ _ => True) NotUnfinished := by
  induction fuel with
  | zero => exact fun _ hvideo => absurd hvideo (Nat.not_lt_zero _)
  | succ fuel ih =>
    refine establishes_get fun now => ?_
    split
    case h_1 frame dest hsource _ =>
      rintro video ⟨hfew, rfl⟩
      have hqueue : video.mOpqMetaQ.length < fuel := by
        rw [sources, hsource, Option.toList_some, List.length_singleton] at hfew
        omega
      refine (advances_pushFrame frame dest).bind (fun ret => ?_) video ⟨hsource, rfl⟩
      refine establishes_ite (fun hnone => ?_) fun _ => establishes_pure fun _ _ => trivial
      exact ih.imp (fun next hadvances => by rw [hadvances hnone]; exact hqueue) fun _ _ hnext => hnext
    case h_2 => exact establishes_pure fun _ _ => trivial

/-- The loop of `push_input_buffer` ends within a round for each source frame that waits. -/
theorem pushInputBuffer_finishes (video : OmxVideo) :
    Ends pushInputBuffer (fun _ _ => True) NotUnfinished video := by
  unfold pushInputBuffer
  rw [ends_bind, ends_modify, ends_bind, ends_get]
  apply pushFrames_finishes
  have hle : (video.popSource.popDest).psourceFrame.toList.length ≤ 1 := by
    cases (video.popSource.popDest).psourceFrame <;> simp
  rw [sources]
  omega

end

end Nozomi.Venc
