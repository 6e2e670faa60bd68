import Nozomi.ExtraData.Reading

/-!
# `parse_sei` inside of its buffers

The parser of SEI units of `extra_data_handler.cpp`, with a check at each access: a read outside of the unit, and an
access outside of `rbsp_buf`, is `none`.
-/

namespace Nozomi

namespace ExtraDataHandler

/-! ### Fields -/

def readLoop : (rounds remBits bins shift : Nat) → ExtraDataHandler → Option (Nat × Nat × ExtraDataHandler)
  | 0, remBits, bins, _, handler => some (remBits, bins, handler)
  | rounds + 1, remBits, bins, shift, handler =>
    if handler.bitPtr ≤ remBits then
      if handler.bytePtr < rbspSize then
        let bins := shiftLeft32 bins shift
        let shift := 8 - handler.bitPtr
        let bins := bins ||| (((handler.rbspBuf handler.bytePtr).toNat <<< shift) &&& 0xFF) >>> shift
        readLoop rounds (remBits - handler.bitPtr) bins shift
          { handler with
            bitPtr := 8
            bytePtr := handler.bytePtr + 1 }
      else none
    else some (remBits, bins, handler)

def readU (numBits : Nat) : StateT ExtraDataHandler Option Nat := fun handler => do
  let (remBits, bins, handler) ← readLoop numBits numBits 0 0 handler
  if remBits ≠ 0 ∧ rbspSize ≤ handler.bytePtr then none else some (handler.dURest remBits bins)

theorem readLoop_eq (rounds : Nat) : ∀ remBits bins shift handler result,
    readLoop rounds remBits bins shift handler = some result →
      dULoop rounds remBits bins shift handler = result := by
  induction rounds with
  | zero => exact fun _ _ _ _ _ hloop => Option.some.inj hloop
  | succ rounds ih =>
    intro remBits bins shift handler result hloop
    rw [readLoop] at hloop
    rw [dULoop]
    by_cases hfills : handler.bitPtr ≤ remBits
    · rw [if_pos hfills] at hloop ⊢
      obtain ⟨-, hlater⟩ := Option.ite_none_right_eq_some.mp hloop
      exact ih _ _ _ _ result hlater
    · rw [if_neg hfills] at hloop ⊢
      exact Option.some.inj hloop

/-- Where `d_u` stays inside of `rbsp_buf`, the checks change nothing of it. -/
theorem readU_eq {numBits : Nat} {handler : ExtraDataHandler} {result : Nat × ExtraDataHandler}
    (hread : readU numBits handler = some result) : handler.dU numBits = result := by
  obtain ⟨⟨rest, last, between⟩, hloop, hrest⟩ := Option.bind_eq_some_iff.mp hread
  obtain ⟨-, hrest⟩ := Option.ite_none_left_eq_some.mp hrest
  rw [dU, readLoop_eq _ _ _ _ _ _ hloop]
  exact Option.some.inj hrest

def readZeros : (rounds leadZeros : Nat) → StateT ExtraDataHandler Option Nat
  | 0, _ => fun _ => none
  | rounds + 1, leadZeros => do
    let bit ← readU 1
    if bit = 0 then readZeros rounds (leadZeros + 1) else pure leadZeros

def readUe : StateT ExtraDataHandler Option Nat := do
  let leadZeros ← readZeros (8 * rbspSize + 1) 0
  let suffix ← readU leadZeros
  pure ((sub32 (shiftLeft32 1 leadZeros) 1 + suffix) % 2 ^ 32)

/-! ### Messages -/

def parseArrangement (pack : FramePackArrangement) : StateT ExtraDataHandler Option FramePackArrangement := do
  let type ← readU 7
  let quincunxSamplingFlag ← readU 1
  let contentInterpretationType ← readU 6
  let spatialFlippingFlag ← readU 1
  let frame0FlippedFlag ← readU 1
  let fieldViewsFlag ← readU 1
  let currentFrameIsFrame0Flag ← readU 1
  let frame0SelfContainedFlag ← readU 1
  let frame1SelfContainedFlag ← readU 1
  let pack : FramePackArrangement := { pack with
    type, quincunxSamplingFlag, contentInterpretationType, spatialFlippingFlag, frame0FlippedFlag, fieldViewsFlag,
    currentFrameIsFrame0Flag, frame0SelfContainedFlag, frame1SelfContainedFlag }
  let pack ← parseGrid pack
  let reservedByte ← readU 8
  let repetitionPeriod ← readUe
  pure { pack with reservedByte, repetitionPeriod }
where
  /-- The grid positions, where they are sent. -/
  parseGrid (pack : FramePackArrangement) : StateT ExtraDataHandler Option FramePackArrangement :=
    if pack.quincunxSamplingFlag = 0 ∧ pack.type ≠ 5 then do
      let frame0GridPositionX ← readU 4
      let frame0GridPositionY ← readU 4
      let frame1GridPositionX ← readU 4
      let frame1GridPositionY ← readU 4
      pure { pack with frame0GridPositionX, frame0GridPositionY, frame1GridPositionX, frame1GridPositionY }
    else pure pack

def parseFramePack : StateT ExtraDataHandler Option Unit := do
  let id ← readUe
  let cancelFlag ← readU 1
  let pack : FramePackArrangement := { (← MonadState.get).framePackingArrangement with id, cancelFlag }
  let pack ← if cancelFlag = 0 then parseArrangement pack else pure pack
  let extensionFlag ← readU 1
  modify fun handler => { handler with framePackingArrangement := { pack with extensionFlag } }

def readPayload : (rounds payload : Nat) → StateT ExtraDataHandler Option Nat
  | 0, _ => fun _ => none
  | rounds + 1, payload => fun handler =>
    if handler.bytePtr < rbspSize then
      let byte := handler.rbspBuf handler.bytePtr
      let handler := { handler with bytePtr := handler.bytePtr + 1 }
      if byte = 0xFF then readPayload rounds (payload + 0xFF) handler
      else some (payload + byte.toNat, handler)
    else none

def checkPadding : StateT ExtraDataHandler Option Int := do
  if (← MonadState.get).bitPtr = 8 then pure 1
  else
    let marker ← readU 1
    if marker = 0 then pure (-1)
    else
      let bitPtr := (← MonadState.get).bitPtr
      if bitPtr = 8 then pure 1
      else
        let pad ← readU bitPtr
        if pad = 0 then pure 1 else pure (-1)

def parseMessage : StateT ExtraDataHandler Option Int := do
  let payloadType ← readPayload (rbspSize + 1) 0
  let _ ← readPayload (rbspSize + 1) 0
  if payloadType = Parser.seiFramePackingType then parseFramePack
  checkPadding

def parseSei (handler : ExtraDataHandler) (buffer : List UInt8) : Option (Int × ExtraDataHandler) := do
  let (nalUnitType, handler) ← handler.parseRbsp (buffer[·]?) buffer.length
  if nalUnitType ≠ (nalTypeSei : Int) then some (-1, handler) else parseMessage handler

end ExtraDataHandler

end Nozomi
