import Nozomi.ExtraData.Headers
import Nozomi.ExtraData.Ored
import Nozomi.ExtraData.ParseSei

/-!
# Histories of an `extra_data_handler`

`parse_extra_data` copies SEI units into the `rbsp_buf` that `create_sei` writes its messages to, and nothing clears
it. As `create_sei` only ors bits in, what earlier calls have left shows in its bytes; and `parse_frame_pack` stores a
received arrangement over the one that was set.
-/

namespace Nozomi

namespace ExtraDataHandler

/-! ### `parse_extra_data` -/

def parseSeiIn (handler : ExtraDataHandler) (memory : ExtradataMemory) (address len : BitVec 32) :
    Option (Int × ExtraDataHandler) := do
  let read := fun index => some (UInt8.ofBitVec (memory (address + BitVec.ofNat 32 index)))
  let (nalUnitType, handler) ← handler.parseRbsp read len.toNat
  if nalUnitType ≠ (nalTypeSei : Int) then some (-1, handler) else parseMessage handler

def parseHeaders (buffer : ExtradataBuffer) (memory : ExtradataMemory) :
    (rounds : Nat) → BitVec 32 → ExtraDataHandler → Option ExtraDataHandler
  | 0, _, _ => none
  | rounds + 1, header, handler =>
    if buffer.goesOn memory header then
      if memory.eType header = vdecExtradataSei then do
        let (_, handler) ← handler.parseSeiIn memory (header + 20) (memory.nDataSize header)
        parseHeaders buffer memory rounds (memory.next header) handler
      else parseHeaders buffer memory rounds (memory.next header) handler
    else some handler

def parseExtraData (flagExtradata : BitVec 32) (handler : ExtraDataHandler) (buffer : ExtradataBuffer)
    (memory : ExtradataMemory) (rounds : Nat) : Option ExtraDataHandler :=
  if buffer.HasExtraData flagExtradata then parseHeaders buffer memory rounds buffer.first handler else some handler

/-- What the functions that read do not change. -/
structure KeepsFlags (handler after : ExtraDataHandler) : Prop where
  packSei : after.packSei = handler.packSei
  seiPayloadType : after.seiPayloadType = handler.seiPayloadType

theorem KeepsFlags.refl (handler : ExtraDataHandler) : handler.KeepsFlags handler := ⟨rfl, rfl⟩

variable {handler first second after : ExtraDataHandler} {memory : ExtradataMemory}

theorem KeepsFlags.trans {third : ExtraDataHandler} (hfirst : first.KeepsFlags second)
    (hsecond : second.KeepsFlags third) : first.KeepsFlags third :=
  ⟨hsecond.packSei.trans hfirst.packSei, hsecond.seiPayloadType.trans hfirst.seiPayloadType⟩

section

variable {α β : Type}

def OnlyReads (code : StateT ExtraDataHandler Option α) : Prop :=
  ∀ handler value after, code handler = some (value, after) → handler.KeepsFlags after

theorem onlyReads_pure (value : α) : OnlyReads (pure value) := by
  intro handler other after hcode
  obtain ⟨-, rfl⟩ := Prod.mk.inj (Option.some.inj hcode)
  exact KeepsFlags.refl handler

theorem OnlyReads.bind {code : StateT ExtraDataHandler Option α} {next : α → StateT ExtraDataHandler Option β}
    (hcode : OnlyReads code) (hnext : ∀ value, OnlyReads (next value)) : OnlyReads (code >>= next) := by
  intro handler value after hrun
  obtain ⟨⟨middle, between⟩, hfirst, hsecond⟩ := Option.bind_eq_some_iff.mp hrun
  exact (hcode handler middle between hfirst).trans (hnext middle between value after hsecond)

theorem OnlyReads.ite {condition : Prop} [Decidable condition] {first second : StateT ExtraDataHandler Option α}
    (hfirst : OnlyReads first) (hsecond : OnlyReads second) : OnlyReads (if condition then first else second) := by
  split
  · exact hfirst
  · exact hsecond

theorem onlyReads_none : OnlyReads (fun _ => none : StateT ExtraDataHandler Option α) :=
  fun _ _ _ hcode => absurd hcode.symm (Option.some_ne_none _)

theorem keepsFlags_dULoop (rounds : Nat) : ∀ remBits bins shift (handler : ExtraDataHandler),
    handler.KeepsFlags (dULoop rounds remBits bins shift handler).2.2 := by
  induction rounds with
  | zero => exact fun _ _ _ handler => KeepsFlags.refl handler
  | succ rounds ih =>
    intro remBits bins shift handler
    rw [dULoop]
    split
    · have hnext : handler.KeepsFlags { handler with bitPtr := 8, bytePtr := handler.bytePtr + 1 } := ⟨rfl, rfl⟩
      exact hnext.trans (ih _ _ _ _)
    · exact KeepsFlags.refl handler

theorem keepsFlags_dURest (handler : ExtraDataHandler) (remBits bins : Nat) :
    handler.KeepsFlags (handler.dURest remBits bins).2 := by
  rw [dURest]
  split
  · exact KeepsFlags.refl handler
  · dsimp only
    split <;> exact ⟨rfl, rfl⟩

theorem onlyReads_readU (numBits : Nat) : OnlyReads (readU numBits) := by
  intro handler value after hcode
  have hkept : handler.KeepsFlags (handler.dU numBits).2 :=
    (keepsFlags_dULoop numBits numBits 0 0 handler).trans (keepsFlags_dURest _ _ _)
  rwa [readU_eq hcode] at hkept

theorem onlyReads_readZeros (rounds : Nat) : ∀ leadZeros, OnlyReads (readZeros rounds leadZeros) := by
  induction rounds with
  | zero => exact fun _ => onlyReads_none
  | succ rounds ih =>
    intro leadZeros
    exact (onlyReads_readU 1).bind fun _ => (ih _).ite (onlyReads_pure _)

theorem onlyReads_readUe : OnlyReads readUe :=
  (onlyReads_readZeros _ 0).bind fun leadZeros => (onlyReads_readU leadZeros).bind fun _ => onlyReads_pure _

theorem onlyReads_parseGrid (pack : FramePackArrangement) : OnlyReads (parseArrangement.parseGrid pack) := by
  refine OnlyReads.ite ?_ (onlyReads_pure pack)
  repeat refine (onlyReads_readU 4).bind fun _ => ?_
  exact onlyReads_pure _

theorem onlyReads_parseArrangement (pack : FramePackArrangement) : OnlyReads (parseArrangement pack) := by
  rw [parseArrangement]
  repeat refine (onlyReads_readU _).bind fun _ => ?_
  refine (onlyReads_parseGrid _).bind fun pack => ?_
  refine (onlyReads_readU 8).bind fun _ => ?_
  exact onlyReads_readUe.bind fun _ => onlyReads_pure _

theorem onlyReads_get : OnlyReads (MonadState.get : StateT ExtraDataHandler Option ExtraDataHandler) := by
  intro handler value after hcode
  obtain ⟨-, rfl⟩ := Prod.mk.inj (Option.some.inj hcode)
  exact KeepsFlags.refl handler

theorem onlyReads_parseFramePack : OnlyReads parseFramePack := by
  have hstore : ∀ pack : Nat → FramePackArrangement, OnlyReads (readU 1 >>= fun extensionFlag =>
      (modify fun handler => { handler with framePackingArrangement := pack extensionFlag } :
        StateT ExtraDataHandler Option Unit)) := by
    intro pack
    refine (onlyReads_readU 1).bind fun extensionFlag => ?_
    intro handler value after hcode
    obtain ⟨-, rfl⟩ := Prod.mk.inj (Option.some.inj hcode)
    exact ⟨rfl, rfl⟩
  rw [parseFramePack]
  refine onlyReads_readUe.bind fun id => (onlyReads_readU 1).bind fun cancelFlag => onlyReads_get.bind fun handler => ?_
  refine OnlyReads.ite ?_ ?_
  · exact (onlyReads_parseArrangement _).bind fun pack => hstore _
  · exact (onlyReads_pure _).bind fun pack => hstore _

theorem onlyReads_readPayload (rounds : Nat) : ∀ payload, OnlyReads (readPayload rounds payload) := by
  induction rounds with
  | zero => exact fun _ => onlyReads_none
  | succ rounds ih =>
    intro payload handler value after hcode
    obtain ⟨-, hcode⟩ := Option.ite_none_right_eq_some.mp hcode
    split at hcode
    · have hkept := ih _ _ value after hcode
      exact ⟨hkept.packSei, hkept.seiPayloadType⟩
    · obtain ⟨-, rfl⟩ := Prod.mk.inj (Option.some.inj hcode)
      exact ⟨rfl, rfl⟩

theorem onlyReads_checkPadding : OnlyReads checkPadding := by
  rw [checkPadding]
  refine onlyReads_get.bind fun handler => (onlyReads_pure 1).ite ?_
  refine (onlyReads_readU 1).bind fun marker => (onlyReads_pure (-1)).ite ?_
  refine onlyReads_get.bind fun handler => (onlyReads_pure 1).ite ?_
  exact (onlyReads_readU _).bind fun pad => (onlyReads_pure 1).ite (onlyReads_pure (-1))

theorem onlyReads_parseMessage : OnlyReads parseMessage := by
  rw [parseMessage]
  refine (onlyReads_readPayload _ 0).bind fun payloadType => (onlyReads_readPayload _ 0).bind fun _ => ?_
  refine OnlyReads.ite ?_ ?_
  · exact onlyReads_parseFramePack.bind fun _ => onlyReads_checkPadding
  · exact onlyReads_checkPadding

end

theorem keepsFlags_parseRbsp {read : Nat → Option UInt8} {len : Nat} {result : Int}
    (hparse : handler.parseRbsp read len = some (result, after)) : handler.KeepsFlags after := by
  simp only [parseRbsp, Option.bind_eq_bind, Option.bind_eq_some_iff] at hparse
  obtain ⟨⟨startcode, i⟩, -, hparse⟩ := hparse
  split at hparse
  · obtain ⟨-, rfl⟩ := Prod.mk.inj (Option.some.inj hparse)
    exact ⟨rfl, rfl⟩
  · obtain ⟨header, -, hparse⟩ := Option.bind_eq_some_iff.mp hparse
    split at hparse
    · obtain ⟨-, rfl⟩ := Prod.mk.inj (Option.some.inj hparse)
      exact ⟨rfl, rfl⟩
    · obtain ⟨rbspBuf, -, hparse⟩ := Option.bind_eq_some_iff.mp hparse
      obtain ⟨-, rfl⟩ := Prod.mk.inj (Option.some.inj hparse)
      exact ⟨rfl, rfl⟩

theorem keepsFlags_parseSeiIn {address len : BitVec 32} {result : Int}
    (hparse : handler.parseSeiIn memory address len = some (result, after)) : handler.KeepsFlags after := by
  obtain ⟨⟨nalUnitType, between⟩, hrbsp, hmessage⟩ := Option.bind_eq_some_iff.mp hparse
  have hfirst := keepsFlags_parseRbsp hrbsp
  dsimp only at hmessage
  split at hmessage
  · obtain ⟨-, rfl⟩ := Prod.mk.inj (Option.some.inj hmessage)
    exact hfirst
  · exact hfirst.trans (onlyReads_parseMessage between result after hmessage)

theorem keepsFlags_parseHeaders {buffer : ExtradataBuffer} (rounds : Nat) :
    ∀ header handler after, parseHeaders buffer memory rounds header handler = some after →
      handler.KeepsFlags after := by
  induction rounds with
  | zero => exact fun _ _ _ hparse => absurd hparse.symm (Option.some_ne_none _)
  | succ rounds ih =>
    intro header handler after hparse
    rw [parseHeaders] at hparse
    split at hparse
    · split at hparse
      · obtain ⟨⟨result, between⟩, hsei, hrest⟩ := Option.bind_eq_some_iff.mp hparse
        exact (keepsFlags_parseSeiIn hsei).trans (ih _ between after hrest)
      · exact ih _ handler after hparse
    · obtain rfl := Option.some.inj hparse
      exact KeepsFlags.refl handler

theorem keepsFlags_parseExtraData {flagExtradata : BitVec 32} {buffer : ExtradataBuffer} {rounds : Nat}
    (hparse : parseExtraData flagExtradata handler buffer memory rounds = some after) : handler.KeepsFlags after := by
  rw [parseExtraData] at hparse
  split at hparse
  · exact keepsFlags_parseHeaders rounds _ handler after hparse
  · obtain rfl := Option.some.inj hparse
    exact KeepsFlags.refl handler

/-! ### Bytes -/

theorem escapePairs_injective : ∀ first second : List UInt8, escapePairs first = escapePairs second → first = second
  | [], [], _ => rfl
  | [], [_], hsame => absurd hsame (List.cons_ne_nil _ _).symm
  | [], _ :: _ :: _, hsame => by
    rw [escapePairs, escapePairs] at hsame
    split at hsame <;> exact absurd hsame (List.cons_ne_nil _ _).symm
  | [_], [], hsame => absurd hsame (List.cons_ne_nil _ _)
  | [_], [_], hsame => hsame
  | [_], _ :: _ :: _, hsame => by
    rw [escapePairs, escapePairs] at hsame
    split at hsame <;> exact absurd (congrArg List.length hsame) (by simp)
  | _ :: _ :: _, [], hsame => by
    rw [escapePairs, escapePairs] at hsame
    split at hsame <;> exact absurd hsame (List.cons_ne_nil _ _)
  | _ :: _ :: _, [_], hsame => by
    rw [escapePairs, escapePairs] at hsame
    split at hsame <;> exact absurd (congrArg List.length hsame) (by simp)
  | first :: second :: bytes, other :: next :: rest, hsame => by
    obtain ⟨rfl, rfl⟩ : first = other ∧ second = next := by
      rw [escapePairs, escapePairs] at hsame
      split at hsame <;> split at hsame <;> simp_all
    rw [escapePairs, escapePairs] at hsame
    have hrest : escapePairs bytes = escapePairs rest := by
      split at hsame <;> simpa using hsame
    rw [escapePairs_injective bytes rest hrest]

theorem rbsp_length_eq (handler : ExtraDataHandler) : handler.rbsp.length = handler.bytePtr := by
  rw [rbsp, List.length_map, List.length_range]

theorem rbsp_eq_iff : first.rbsp = second.rbsp ↔
    first.bytePtr = second.bytePtr ∧ ∀ position < 8 * second.bytePtr, first.bit position = second.bit position := by
  have hbyte : ∀ index, first.rbspBuf index = second.rbspBuf index ↔
      ∀ place < 8, first.bit (8 * index + place) = second.bit (8 * index + place) := by
    intro index
    have hbit : ∀ (handler : ExtraDataHandler) (place : Nat), place < 8 →
        handler.bit (8 * index + place) = (handler.rbspBuf index).toNat.testBit (7 - place) := by
      intro handler place hplace
      rw [bit, Nat.mul_add_div (by decide), Nat.div_eq_of_lt hplace, Nat.mul_add_mod, Nat.mod_eq_of_lt hplace,
        Nat.add_zero]
    constructor
    · intro hsame place hplace
      rw [hbit _ _ hplace, hbit _ _ hplace, hsame]
    · intro hsame
      apply UInt8.toNat_inj.mp
      apply Nat.eq_of_testBit_eq
      intro place
      by_cases hplace : place < 8
      · have hat := hsame (7 - place) (by omega)
        rwa [hbit _ _ (by omega), hbit _ _ (by omega), show 7 - (7 - place) = place by omega] at hat
      · have hpow : 2 ^ 8 ≤ 2 ^ place := Nat.pow_le_pow_right Nat.zero_lt_two (by omega)
        rw [Nat.testBit_lt_two_pow ((first.rbspBuf index).toNat_lt.trans_le hpow),
          Nat.testBit_lt_two_pow ((second.rbspBuf index).toNat_lt.trans_le hpow)]
  constructor
  · intro hsame
    have hbytePtr : first.bytePtr = second.bytePtr := by
      rw [← rbsp_length_eq, ← rbsp_length_eq, hsame]
    refine ⟨hbytePtr, fun position hposition => ?_⟩
    have hindex : position / 8 < second.bytePtr := by omega
    rw [rbsp, rbsp, hbytePtr, List.map_inj_left] at hsame
    have hat := (hbyte (position / 8)).mp (hsame _ (List.mem_range.mpr hindex)) (position % 8)
      (Nat.mod_lt _ (by decide))
    rwa [Nat.div_add_mod] at hat
  · rintro ⟨hbytePtr, hsame⟩
    rw [rbsp, rbsp, hbytePtr, List.map_inj_left]
    intro index hindex
    have hlt := List.mem_range.mp hindex
    exact (hbyte index).mpr fun place hplace => hsame _ (by omega)

theorem createRbsp_eq_iff (htype : first.seiPayloadType = second.seiPayloadType) (naluType : Nat) :
    first.createRbsp naluType = second.createRbsp naluType ↔ first.rbsp = second.rbsp := by
  constructor
  · intro hsame
    rw [createRbsp, createRbsp] at hsame
    have hbody := (List.append_inj hsame (by simp)).2
    exact escapePairs_injective _ _ hbody
  · intro hsame
    have hbytePtr : first.bytePtr = second.bytePtr := by
      rw [← rbsp_length_eq, ← rbsp_length_eq, hsame]
    rw [createRbsp, createRbsp, htype, hbytePtr, hsame]

/-! ### Histories -/

/-- A handler, and the arrangement that `set_frame_pack_data` was last given. -/
structure History where
  handler : ExtraDataHandler
  lastSet : Option FramePackArrangement

/-- The calls, with what they are given of the memory. A call of `parse_extra_data` returns behind some headers. -/
inductive HistoryCall
  | parse (buffer : ExtradataBuffer) (memory : ExtradataMemory) (rounds : Nat)
  | set (framePack : FramePackArrangement)
  | create (memory : Nat → UInt8) (address : Nat) (codecConfig : Bool)

namespace History

def init : History := ⟨new, none⟩

def step (flagExtradata : BitVec 32) (history : History) : HistoryCall → Option History
  | .parse buffer memory rounds =>
    (parseExtraData flagExtradata history.handler buffer memory rounds).map fun handler =>
      { history with handler := handler }
  | .set framePack => some ⟨history.handler.setFramePackData framePack, some framePack⟩
  | .create memory address codecConfig =>
    some { history with handler := (history.handler.createExtraData memory address codecConfig).2.2 }

/-- A call that makes SEI bytes makes those of a fresh handler that is given the arrangement that was set last. -/
def MakesFresh (history : History) : HistoryCall → Prop
  | .create _ _ codecConfig => codecConfig = true → history.handler.packSei = true →
    ∃ framePack, history.lastSet = some framePack ∧
      history.handler.createSei.1 = (new.setFramePackData framePack).createSei.1
  | _ => True

/-- In the bytes of the message of the arrangement that was set last, the bits that are set in `rbsp_buf` already and
those that the arrangement of the handler sets are the bits of the message, and the handler's message is as long. -/
def OwnBits (history : History) : HistoryCall → Prop
  | .create _ _ codecConfig => codecConfig = true → history.handler.packSei = true →
    ∃ framePack, history.lastSet = some framePack ∧
      width history.handler.framePackingArrangement.message = width framePack.message ∧
      ∀ position < width framePack.message,
        (history.handler.bit position || Sets 0 history.handler.framePackingArrangement.message position) =
          Sets 0 framePack.message position
  | _ => True

/-- A message that is to be packed is that of an arrangement that was set. -/
def Ready (history : History) : Prop :=
  history.handler.packSei = true → history.handler.seiPayloadType = Parser.seiFramePackingType

theorem Ready.step {flagExtradata : BitVec 32} {history next : History} {call : HistoryCall}
    (hready : history.Ready) (hstep : history.step flagExtradata call = some next) : next.Ready := by
  cases call with
  | parse buffer memory rounds =>
    obtain ⟨handler, hparse, rfl⟩ := Option.map_eq_some_iff.mp hstep
    have hkept := keepsFlags_parseExtraData hparse
    intro hpack
    exact hkept.seiPayloadType.trans (hready (hkept.packSei.symm.trans hpack))
  | set framePack =>
    obtain rfl := Option.some.inj hstep
    exact fun _ => rfl
  | create memory address codecConfig =>
    obtain rfl := Option.some.inj hstep
    intro hpack
    dsimp only at hpack ⊢
    rw [createExtraData] at hpack ⊢
    split at hpack
    · exact absurd hpack Bool.false_ne_true
    · rw [if_neg ‹_›]
      exact hready hpack

end History

theorem width_append (first second : List (Descriptor × Nat)) :
    width (first ++ second) = width first + width second := by
  rw [width, List.map_append, List.sum_append]
  rfl

theorem width_message (pack : FramePackArrangement) : width pack.message % 8 = 0 := by
  rw [FramePackArrangement.message, width_append]
  generalize width pack.elements = count
  have hpadding : width (trailing count) = (if count % 8 = 0 then 0 else 1 + (7 - count % 8)) + 8 := by
    rw [trailing, width_append]
    split <;> simp [width, symbolOf]
  rw [hpadding]
  split <;> omega

theorem createSei_eq_iff (htype : handler.seiPayloadType = Parser.seiFramePackingType)
    (pack : FramePackArrangement) : handler.createSei.1 = (new.setFramePackData pack).createSei.1 ↔
      width handler.framePackingArrangement.message = width pack.message ∧
        ∀ position < width pack.message,
          (handler.bit position || Sets 0 handler.framePackingArrangement.message position) =
            Sets 0 pack.message position := by
  let sender : ExtraDataHandler := { handler with bytePtr := 0, bitPtr := 8 }
  let fresh : ExtraDataHandler := { new.setFramePackData pack with bytePtr := 0, bitPtr := 8 }
  have hbytes : ∀ after : ExtraDataHandler, after.seiPayloadType = Parser.seiFramePackingType → after.createSei.1 =
      createRbsp ({ after with bytePtr := 0, bitPtr := 8 } : ExtraDataHandler).createFramePack.createTrailingBits
        nalTypeSei := by
    intro after hafter
    rw [createSei]
    dsimp only
    rw [if_pos hafter]
  have hkept : ∀ after : ExtraDataHandler, after.createFramePack.createTrailingBits.seiPayloadType =
      after.seiPayloadType := fun after =>
    ((keeps_createFramePack after).trans (keeps_createTrailingBits _)).seiPayloadType
  have hsent : sender.HasOred _ _ _ := hasOred_message ⟨rfl, rfl⟩
  have hfresh : fresh.HasOred _ _ _ := hasOred_message ⟨rfl, rfl⟩
  have hwhole := width_message handler.framePackingArrangement
  have hwholeToo := width_message pack
  have hzero : ∀ position, fresh.bit position = false := fun position => Nat.zero_testBit _
  rw [hbytes handler htype, hbytes (new.setFramePackData pack) rfl]
  rw [createRbsp_eq_iff ((hkept sender).trans (htype.trans (hkept fresh).symm)), rbsp_eq_iff]
  rw [hsent.writesAt.bytePtr, hfresh.writesAt.bytePtr]
  change width handler.framePackingArrangement.message / 8 = width pack.message / 8 ∧ _ ↔ _
  refine and_congr (by omega) ?_
  have hcount : 8 * (width fresh.framePackingArrangement.message / 8) = width pack.message :=
    Nat.mul_div_cancel' (Nat.dvd_of_mod_eq_zero hwholeToo)
  rw [hcount]
  refine forall_congr' fun position => imp_congr_right fun _ => ?_
  rw [hsent.bit, hfresh.bit, hzero, Bool.false_or]
  rfl

namespace History

theorem makesFresh_iff {history : History} (hready : history.Ready) (call : HistoryCall) :
    history.MakesFresh call ↔ history.OwnBits call := by
  cases call with
  | parse buffer memory rounds => exact Iff.rfl
  | set framePack => exact Iff.rfl
  | create memory address codecConfig =>
    refine imp_congr_right fun _ => forall_congr' fun hpack => exists_congr fun framePack => and_congr_right fun _ => ?_
    exact createSei_eq_iff (hready hpack) framePack

/-- In a history, all SEI bytes are those of a fresh handler if and only if `rbsp_buf` has no other bits at each call
that makes some. -/
theorem makesFresh_run_iff (flagExtradata : BitVec 32) (calls : List HistoryCall) :
    RunMeets (step flagExtradata) MakesFresh init calls ↔ RunMeets (step flagExtradata) OwnBits init calls := by
  have hinit : init.Ready := fun hpack => absurd hpack Bool.false_ne_true
  constructor
  · exact RunMeets.imp_of_invariant Ready (fun _ _ _ hready hstep => hready.step hstep)
      (fun _ call hready => (makesFresh_iff hready call).mp) init hinit
  · exact RunMeets.imp_of_invariant Ready (fun _ _ _ hready hstep => hready.step hstep)
      (fun _ call hready => (makesFresh_iff hready call).mpr) init hinit

/-- An arrangement with the identifier 1, and one with 0 behind it. -/
theorem not_makesFresh :
    let first := new.framePackingArrangement
    ¬RunMeets (step 0x40) MakesFresh init
      [.set { first with id := 1 }, .create (fun _ => 0) 0 true, .set first, .create (fun _ => 0) 0 true] := by
  rintro first ⟨-, hrest⟩
  obtain ⟨-, hrest⟩ := hrest _ rfl
  obtain ⟨-, hrest⟩ := hrest _ rfl
  obtain ⟨hlast, -⟩ := hrest _ rfl
  obtain ⟨framePack, hset, hbytes⟩ := hlast rfl rfl
  obtain rfl := Option.some.inj hset
  revert hbytes
  decide +kernel

end History

end ExtraDataHandler

end Nozomi
