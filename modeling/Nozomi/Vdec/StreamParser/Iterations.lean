import Nozomi.Vdec.StreamParser.Exhaustion

/-!
# The number of iterations under `parse_sps`

An iteration that starts while bits are left takes some of them. So where all do, there are no more iterations of the
loops that the data control than the NAL has bits, whatever counts are in it.
-/

namespace Nozomi

namespace ReaderOp

def Plain : ReaderOp → Prop
  | extractBits _ | moreBits | leadZeroBits | uev | iv _ _ _ => True
  | initBitstream _ | setEmulationScEnabled _ | emulationCodeSkipCntr => False

end ReaderOp

namespace Parser

open Marked (mark lift Pays)

/-! ### Calls take bits -/

section

variable {α : Type} {allowed : ReaderOp → Prop}

theorem only_ite {condition : Prop} [Decidable condition] {first second : Parser α}
    (hfirst : first.Only allowed) (hsecond : second.Only allowed) :
    (if condition then first else second).Only allowed := by
  split
  · exact hfirst
  · exact hsecond

end

theorem extractBits_only (n : Nat) : (extractBits n).Only ReaderOp.Plain := ⟨trivial, fun _ => trivial⟩

theorem moreBits_only : moreBits.Only ReaderOp.Plain := ⟨trivial, fun _ => trivial⟩

theorem uev_only : uev.Only ReaderOp.Plain := ⟨trivial, fun _ => trivial⟩

theorem sev_only : sev.Only ReaderOp.Plain := uev_only.bind fun _ => Calls.only_pure _

theorem discard_only {α : Type} {program : Parser α} (honly : program.Only ReaderOp.Plain) :
    (discard program : Parser PUnit).Only ReaderOp.Plain := honly.bind fun _ => Calls.only_pure _

theorem plain_size_le {op : ReaderOp} (hplain : op.Plain) (reader : StreamReader) :
    (op.step reader).2.size ≤ reader.size := by
  cases op with
  | extractBits n => exact StreamReader.size_extractBits_le n
  | moreBits => exact Nat.le_refl _
  | leadZeroBits =>
    exact (StreamReader.size_leadZeroBitsLoop 0 (Nat.succ_pos _)).trans (Nat.sub_le _ 1)
  | uev => exact reader.size_uev.trans (Nat.sub_le _ 1)
  | iv nBits _ _ => exact StreamReader.size_iv nBits
  | initBitstream _ | setEmulationScEnabled _ | emulationCodeSkipCntr => exact absurd hplain not_false

variable {α : Type}

def dataDriven (loop : SpsLoop) : Bool := loop ≠ .scalingList

abbrev TakesBits (program : Looping α) : Prop :=
  Pays ReaderOp.step (fun reader : StreamReader => reader.moreBits = true) dataDriven StreamReader.size program

theorem takesBits_lift {program : Parser α} (honly : program.Only ReaderOp.Plain) :
    TakesBits (lift program : Looping α) :=
  Marked.pays_lift (honly.run_le fun _ => plain_size_le)

theorem takesBits_pure (value : α) : TakesBits (pure value : Looping α) := Marked.pays_pure value

theorem takesBits_uev {loop : SpsLoop} {next : Nat → Looping α} (hnext : ∀ value, TakesBits (next value)) :
    TakesBits (mark loop >>= fun _ => lift uev >>= next) := by
  refine Marked.pays_mark_bind (fun reader hmore => ?_) hnext
  have hsize := StreamReader.moreBits_iff.mp hmore
  exact reader.size_uev.trans_lt (Nat.sub_lt hsize Nat.one_pos)

theorem takesBits_scalingListLoop (rounds : Nat) (lastScale nextScale : Int) :
    TakesBits (scalingListLoop rounds lastScale nextScale) := by
  induction rounds generalizing lastScale nextScale with
  | zero => exact takesBits_pure ()
  | succ rounds ih =>
    rw [TakesBits, scalingListLoop]
    refine (Marked.pays_mark rfl).bind fun _ => Marked.Pays.ite ?_ ((takesBits_pure _).bind fun _ => ih _ _)
    exact (takesBits_lift sev_only).bind fun _ => (takesBits_pure _).bind fun _ => ih _ _

theorem takesBits_scalingMatrixLoop (rounds i : Nat) : TakesBits (scalingMatrixLoop rounds i) := by
  induction rounds generalizing i with
  | zero => exact takesBits_pure ()
  | succ rounds ih =>
    rw [TakesBits, scalingMatrixLoop]
    refine (takesBits_lift moreBits_only).bind fun _ => Marked.Pays.ite ?_ (takesBits_pure ())
    refine Marked.pays_mark_bind (fun reader hmore => ?_) fun _ => ?_
    · have hsize := StreamReader.moreBits_iff.mp hmore
      have hone := @StreamReader.size_extractBits reader 1 (by decide) (by decide)
      exact hone.trans_lt (Nat.sub_lt hsize Nat.one_pos)
    · exact Marked.Pays.ite ((takesBits_scalingListLoop _ _ _).bind fun _ => ih _) (ih _)

theorem takesBits_highProfileLoops : TakesBits highProfileLoops := by
  have hlast : TakesBits (do
      lift (discard uev)
      lift (discard uev)
      lift (discard (extractBits 1))
      let seqScalingMatrixPresentFlag ← lift (extractBits 1)
      if seqScalingMatrixPresentFlag ≠ 0 then
        scalingMatrixLoop 12 0) := by
    refine (takesBits_lift (discard_only uev_only)).bind fun _ => ?_
    refine (takesBits_lift (discard_only uev_only)).bind fun _ => ?_
    refine (takesBits_lift (discard_only (extractBits_only 1))).bind fun _ => ?_
    refine (takesBits_lift (extractBits_only 1)).bind fun _ => ?_
    exact Marked.Pays.ite (takesBits_scalingMatrixLoop 12 0) (takesBits_pure ())
  rw [TakesBits, highProfileLoops]
  refine (takesBits_lift uev_only).bind fun _ => Marked.Pays.ite ?_ hlast
  exact (takesBits_lift (discard_only (extractBits_only 1))).bind fun _ => hlast

theorem takesBits_offsetsForRefFrameLoop (rounds : Nat) : TakesBits (offsetsForRefFrameLoop rounds) := by
  induction rounds with
  | zero => exact takesBits_pure ()
  | succ rounds ih =>
    rw [TakesBits, offsetsForRefFrameLoop]
    refine Marked.pays_mark_bind (fun reader hmore => ?_) fun _ => ih
    have hsize := StreamReader.moreBits_iff.mp hmore
    exact reader.size_uev.trans_lt (Nat.sub_lt hsize Nat.one_pos)

theorem takesBits_picOrderCntLoops : TakesBits picOrderCntLoops := by
  rw [TakesBits, picOrderCntLoops]
  refine (takesBits_lift uev_only).bind fun _ => Marked.Pays.ite (takesBits_lift (discard_only uev_only)) ?_
  refine Marked.Pays.ite ?_ (takesBits_pure ())
  refine (takesBits_lift (discard_only (extractBits_only 1))).bind fun _ => ?_
  refine (takesBits_lift (discard_only sev_only)).bind fun _ => ?_
  refine (takesBits_lift (discard_only sev_only)).bind fun _ => ?_
  exact (takesBits_lift uev_only).bind fun _ => takesBits_offsetsForRefFrameLoop _

theorem takesBits_hrdLoops (rounds idx : Nat) (hrd : HrdParam) : TakesBits (hrdLoops rounds idx hrd) := by
  induction rounds generalizing idx hrd with
  | zero => exact takesBits_pure hrd
  | succ rounds ih =>
    rw [TakesBits, hrdLoops]
    refine (takesBits_lift moreBits_only).bind fun _ => Marked.Pays.ite ?_ (takesBits_pure hrd)
    refine takesBits_uev fun _ => (takesBits_lift uev_only).bind fun _ => ?_
    exact (takesBits_lift (extractBits_only 1)).bind fun _ => ih _ _

theorem takesBits_hrdParametersLoops (hrd : HrdParam) : TakesBits (hrdParametersLoops hrd) := by
  rw [TakesBits, hrdParametersLoops]
  refine (takesBits_lift uev_only).bind fun _ => (takesBits_lift (extractBits_only 4)).bind fun _ => ?_
  refine (takesBits_lift (extractBits_only 4)).bind fun _ => Marked.Pays.ite (takesBits_pure _) ?_
  refine (takesBits_hrdLoops _ _ _).bind fun _ => (takesBits_lift (extractBits_only 5)).bind fun _ => ?_
  refine (takesBits_lift (extractBits_only 5)).bind fun _ => ?_
  refine (takesBits_lift (extractBits_only 5)).bind fun _ => ?_
  exact (takesBits_lift (extractBits_only 5)).bind fun _ => takesBits_pure _

theorem flag_only : (Fin.val <$> extractBits 1 : Parser Nat).Only ReaderOp.Plain :=
  (extractBits_only 1).bind fun _ => Calls.only_pure _

theorem takesBits_vuiHrdParametersLoops (vui : VuiParam) : TakesBits (vuiHrdParametersLoops vui) := by
  rw [TakesBits, vuiHrdParametersLoops]
  refine (takesBits_lift (extractBits_only 1)).bind fun _ => ?_
  refine Marked.Pays.ite_bind (takesBits_hrdParametersLoops _) (takesBits_pure _) fun _ => ?_
  refine (takesBits_lift (extractBits_only 1)).bind fun _ => ?_
  refine Marked.Pays.ite_bind (takesBits_hrdParametersLoops _) (takesBits_pure _) fun _ => ?_
  exact Marked.Pays.ite_bind (takesBits_lift flag_only) (takesBits_pure _) fun _ => takesBits_pure _

theorem only_when_bind {condition : Prop} [Decidable condition] {first : Parser PUnit}
    {next : PUnit → Parser α} (hfirst : first.Only ReaderOp.Plain)
    (hnext : ∀ value, (next value).Only ReaderOp.Plain) :
    (if condition then first >>= next else next ⟨⟩).Only ReaderOp.Plain :=
  only_ite (hfirst.bind hnext) (hnext ⟨⟩)

theorem aspectRatioInfo_only : aspectRatioInfo.Only ReaderOp.Plain := by
  refine (extractBits_only 8).bind fun _ => only_ite ?_ (Calls.only_pure _)
  exact (extractBits_only 16).bind fun _ => (extractBits_only 16).bind fun _ => Calls.only_pure _

theorem videoSignal_only : videoSignal.Only ReaderOp.Plain := by
  have hbits : ∀ n, (discard (extractBits n) : Parser PUnit).Only ReaderOp.Plain := fun n =>
    discard_only (extractBits_only n)
  have huev := discard_only uev_only
  have hlast : (do
      let chromaLocationInfoPresentFlag ← extractBits 1
      if chromaLocationInfoPresentFlag ≠ 0 then
        discard uev
        discard uev : Parser Unit).Only ReaderOp.Plain :=
    (extractBits_only 1).bind fun _ => only_ite (huev.bind fun _ => huev) (Calls.only_pure _)
  refine (extractBits_only 1).bind fun _ => only_when_bind (hbits 1) fun _ => ?_
  refine (extractBits_only 1).bind fun _ => only_ite ?_ hlast
  refine (hbits 3).bind fun _ => (hbits 1).bind fun _ => (extractBits_only 1).bind fun _ => ?_
  refine only_ite ?_ hlast
  exact (hbits 8).bind fun _ => (hbits 8).bind fun _ => (hbits 8).bind fun _ => hlast

theorem timingInfo_only (vui : VuiParam) : (timingInfo vui).Only ReaderOp.Plain := by
  refine (extractBits_only 1).bind fun _ => only_ite ?_ (Calls.only_pure _)
  refine (extractBits_only 32).bind fun _ => (extractBits_only 32).bind fun _ => ?_
  exact (extractBits_only 1).bind fun _ => Calls.only_pure _

theorem bitstreamRestriction_only : bitstreamRestriction.Only ReaderOp.Plain := by
  have huev := discard_only uev_only
  refine (extractBits_only 1).bind fun _ => only_ite ?_ (Calls.only_pure _)
  refine (discard_only (extractBits_only 1)).bind fun _ => huev.bind fun _ => huev.bind fun _ => ?_
  exact huev.bind fun _ => huev.bind fun _ => huev.bind fun _ => huev

theorem frameCropping_only : frameCropping.Only ReaderOp.Plain := by
  have huev := discard_only uev_only
  refine (extractBits_only 1).bind fun _ => only_ite ?_ (Calls.only_pure _)
  exact huev.bind fun _ => huev.bind fun _ => huev.bind fun _ => huev

theorem takesBits_parseVuiLoops (vui : VuiParam) : TakesBits (parseVuiLoops vui) := by
  rw [TakesBits, parseVuiLoops]
  refine (takesBits_lift moreBits_only).bind fun _ => Marked.Pays.ite ?_ (takesBits_pure vui)
  refine (takesBits_lift (extractBits_only 1)).bind fun _ => ?_
  refine Marked.Pays.ite_bind (takesBits_lift aspectRatioInfo_only) (takesBits_pure _) fun _ => ?_
  refine (takesBits_lift videoSignal_only).bind fun _ => (takesBits_lift (timingInfo_only _)).bind fun _ => ?_
  refine (takesBits_vuiHrdParametersLoops _).bind fun _ => (takesBits_lift (extractBits_only 1)).bind fun _ => ?_
  exact (takesBits_lift bitstreamRestriction_only).bind fun _ => takesBits_pure _

theorem takesBits_parseSpsLoops (params : StreamParams) : TakesBits (parseSpsLoops params) := by
  have hbits : TakesBits (lift (discard (extractBits 8)) : Looping PUnit) :=
    takesBits_lift (discard_only (extractBits_only 8))
  have hbit : TakesBits (lift (discard (extractBits 1)) : Looping PUnit) :=
    takesBits_lift (discard_only (extractBits_only 1))
  have huev : TakesBits (lift (discard uev) : Looping PUnit) := takesBits_lift (discard_only uev_only)
  have hflag : TakesBits (lift (extractBits 1) : Looping (Fin (2 ^ 1))) := takesBits_lift (extractBits_only 1)
  rw [TakesBits, parseSpsLoops]
  refine (takesBits_lift (extractBits_only 8)).bind fun profileIdc => hbits.bind fun _ => hbits.bind fun _ => ?_
  refine huev.bind fun _ => Marked.Pays.when_bind takesBits_highProfileLoops fun _ => ?_
  refine huev.bind fun _ => takesBits_picOrderCntLoops.bind fun _ => huev.bind fun _ => hbit.bind fun _ => ?_
  refine huev.bind fun _ => huev.bind fun _ => hflag.bind fun _ => ?_
  refine Marked.Pays.ite_bind (takesBits_lift flag_only) (takesBits_pure _) fun _ => hbit.bind fun _ => ?_
  refine (takesBits_lift frameCropping_only).bind fun _ => hflag.bind fun _ => ?_
  exact Marked.Pays.ite_bind (takesBits_parseVuiLoops _) (takesBits_pure _) fun _ => takesBits_pure _

/-! ### Bounded loops -/

/-- Every iteration under `parse_sps` starts while bits are left, and there are no more iterations of the loops that
the data control than there are bits. -/
structure Bounded (params : StreamParams) (reader : StreamReader) : Prop where
  starts : StartsWithBits (parseSpsLoops params) reader
  count : (Marked.passed ReaderOp.step (parseSpsLoops params) reader).countP (fun start => dataDriven start.1) ≤
    reader.size

/-- The loops are bounded by the NAL if and only if it has the codes that the scaling lists and
`num_ref_frames_in_pic_order_cnt_cycle` ask for. -/
theorem parseSps_bounded_iff (params : StreamParams) (reader : StreamReader) :
    Bounded params reader ↔ LoopsFit reader := by
  rw [← @startsWithBits_parseSpsLoops params]
  constructor
  · exact Bounded.starts
  · intro hstarts
    exact ⟨hstarts, (Nat.le_add_right _ _).trans (takesBits_parseSpsLoops params reader hstarts)⟩

/-- An SPS of 13 bytes whose cycle has 4294967294 offsets, with one bit for them. -/
theorem parseSps_not_bounded :
    ¬Bounded (StreamParams.reset ⟨[], []⟩)
      (StreamReader.new.initBitstream [0x42, 0, 0x1E, 0xD3, 0, 0, 3, 0, 1, 0xFF, 0xFF, 0xFF, 0xFF]) := by
  intro hbounded
  have hoffsets := (startsWithBits_parseSpsLoops.mp hbounded.starts).offsets
  revert hoffsets
  decide +kernel

end Parser

end Nozomi
