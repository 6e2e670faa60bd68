import Nozomi.Vdec.StreamParser.Code

/-!
# What `parse_nal` ensures

A condition on the records of the parser that each of their parsers keeps is kept by `parse_nal`, for any bytes.
-/

namespace Nozomi

namespace Parser

variable {post : StreamParams → Prop}

theorem parseSei_ensures
    (hpayload : ∀ payloadType params, post params → (seiPayload payloadType params).Ensures post)
    (memory : Nat → UInt8) (seiMsgStart seiUnitSize rounds processedBytes : Nat) {params : StreamParams}
    (hparams : post params) :
    (parseSei memory seiMsgStart seiUnitSize rounds processedBytes params).Ensures post := by
  induction rounds generalizing processedBytes params with
  | zero => exact Calls.ensures_pure hparams
  | succ rounds ih =>
    unfold parseSei
    split
    · refine Calls.ensures_bind _ fun more => ?_
      split
      · refine Calls.ensures_bind _ fun _ => Calls.ensures_bind _ fun payloadType => ?_
        refine Calls.ensures_bind _ fun payloadSize => ?_
        refine Calls.Ensures.ite_bind (fun _ => hpayload _ _ hparams) (fun _ => Calls.ensures_pure hparams) ?_
        exact fun params hparams => Calls.ensures_bind _ fun skipped => ih _ hparams
      · exact Calls.ensures_pure hparams
    · exact Calls.ensures_pure hparams

theorem parseSps_ensures (hmbaff : ∀ params flag, post params → post { params with mbaffFlag := flag })
    (hvui : ∀ inExtradata params, post params →
      (parseVui inExtradata params.vuiParam).Ensures fun vui => post { params with vuiParam := vui })
    {params : StreamParams} (hparams : post params) : (parseSps params).Ensures post := by
  unfold parseSps
  refine Calls.ensures_bind _ fun profileIdc => Calls.ensures_bind _ fun _ => Calls.ensures_bind _ fun _ => ?_
  refine Calls.ensures_bind _ fun _ => ?_
  refine Calls.ensures_when_bind _ ?_
  refine Calls.ensures_bind _ fun _ => Calls.ensures_bind _ fun _ => Calls.ensures_bind _ fun _ => ?_
  refine Calls.ensures_bind _ fun _ => Calls.ensures_bind _ fun _ => Calls.ensures_bind _ fun _ => ?_
  refine Calls.ensures_bind _ fun frameMbsOnlyFlag => Calls.ensures_ite_bind _ _ fun mbaffFlag => ?_
  refine Calls.ensures_bind _ fun _ => Calls.ensures_bind _ fun _ => ?_
  refine Calls.ensures_bind _ fun vuiParametersPresentFlag => ?_
  refine Calls.Ensures.ite_bind (fun _ => hvui false params hparams) (fun _ => Calls.ensures_pure hparams) ?_
  exact fun vui hvui => Calls.ensures_pure (hmbaff _ mbaffFlag hvui)

theorem parseNal_ensures (hmbaff : ∀ params flag, post params → post { params with mbaffFlag := flag })
    (hvui : ∀ inExtradata params, post params →
      (parseVui inExtradata params.vuiParam).Ensures fun vui => post { params with vuiParam := vui })
    (hfree : ∀ params next, post params → params.panscanHdl.getFree = some next →
      post { params with panscanHdl := next })
    (hpayload : ∀ payloadType params, post params → (seiPayload payloadType params).Ensures post)
    (rounds : Nat) {input : NalInput} {params : StreamParams}
    (hparams : post { params with panscanHdl := input.panscanHdl }) :
    (parseNal rounds input params).Ensures post := by
  unfold parseNal
  dsimp only
  split
  · exact Calls.ensures_pure hparams
  refine Calls.ensures_bind _ fun _ => Calls.ensures_bind _ fun _ => ?_
  refine Calls.ensures_ite_bind _ _ fun nalUnit => ?_
  split
  · exact Calls.ensures_pure hparams
  split
  · refine Calls.ensures_bind _ fun more => ?_
    refine Calls.Ensures.ite_bind (fun _ => parseSps_ensures hmbaff hvui hparams)
      (fun _ => Calls.ensures_pure hparams) ?_
    intro params hparams
    apply Calls.ensures_pure
    cases hget : params.panscanHdl.getFree with
    | none => exact hparams
    | some next => exact hfree params next hparams hget
  split
  · exact Calls.ensures_bind _ fun _ => parseSei_ensures hpayload _ _ _ _ _ hparams
  split
  · exact (hvui true _ hparams).bind fun vui hvui => Calls.ensures_pure hvui
  · exact Calls.ensures_pure hparams

end Parser

end Nozomi
