import Nozomi.ExtraData.Pairs

/-!
# `create_rbsp` and `parse_rbsp`

`parse_rbsp` of `extra_data_handler.cpp` removes the emulation-prevention bytes at every position, `create_rbsp` puts
them in behind pairs of zeros at even positions only. The unit is free of start codes and is parsed back if and only
if no two zeros of different pairs are followed by a byte of at most 3.
-/

namespace Nozomi

/-- A byte string without a last byte to copy: it is empty, or ends with an escape. -/
def EscapeEnds (bytes : List UInt8) : Prop := bytes = [] ∨ [0, 0, 3] <:+ bytes

theorem escapeEnds_window {bytes : List UInt8} : EscapeEnds (0 :: 0 :: 3 :: bytes) ↔ EscapeEnds bytes := by
  have hnil : [0, 0, 3] = 0 :: 0 :: 3 :: bytes ↔ bytes = [] := by
    simp only [List.cons.injEq, true_and]
    exact eq_comm
  rw [EscapeEnds, List.suffix_cons_iff, List.suffix_cons_iff, List.suffix_cons_iff, hnil]
  simp [EscapeEnds]

theorem escapeEnds_cons {byte : UInt8} {bytes : List UInt8} (hwindow : (byte :: bytes).take 3 ≠ [0, 0, 3])
    (hbytes : bytes ≠ []) : EscapeEnds (byte :: bytes) ↔ EscapeEnds bytes := by
  rw [EscapeEnds, EscapeEnds, List.suffix_cons_iff]
  have hfirst : [0, 0, 3] ≠ byte :: bytes := by
    intro hsame
    rw [← hsame] at hwindow
    exact hwindow rfl
  simp [hfirst, hbytes]

theorem not_escapeEnds_singleton (byte : UInt8) : ¬EscapeEnds [byte] := by
  rintro (hnil | hsuffix)
  · exact List.cons_ne_nil _ _ hnil
  · exact absurd hsuffix.length_le (by simp)

theorem not_escapeEnds_pair (first second : UInt8) : ¬EscapeEnds [first, second] := by
  rintro (hnil | hsuffix)
  · exact List.cons_ne_nil _ _ hnil
  · exact absurd hsuffix.length_le (by simp)

instance (bytes : List UInt8) : Decidable (EscapeEnds bytes) := inferInstanceAs (Decidable (_ ∨ _))

namespace ExtraDataHandler

def rbspSize : Nat := 100

def store (j : Nat) (byte : UInt8) (rbspBuf : Nat → UInt8) : Option (Nat → UInt8) :=
  if j < rbspSize then some (Function.update rbspBuf j byte) else none

/-- The loop of `parse_rbsp`, over memory of which some bytes cannot be read. -/
def parseRbspLoop (read : Nat → Option UInt8) (len : Nat) :
    (rounds i j : Nat) → (Nat → UInt8) → Option (Nat → UInt8)
  | 0, _, _, rbspBuf => some rbspBuf
  | rounds + 1, i, j, rbspBuf =>
    if i < len then do
      let first ← read i
      let second ← read (i + 1)
      let third ← if first.toNat + second.toNat = 0 then read (i + 2) else some 0
      if third = 3 ∧ i + 2 < len then
        let rbspBuf ← store j first rbspBuf
        let rbspBuf ← store (j + 1) second rbspBuf
        parseRbspLoop read len rounds (i + 3) (j + 2) rbspBuf
      else
        let rbspBuf ← store j first rbspBuf
        parseRbspLoop read len rounds (i + 1) (j + 1) rbspBuf
    else some rbspBuf

/-- The start code, and what is behind it. -/
def startcode (read : Nat → Option UInt8) : Option (Nat × Nat) := do
  let first ← read 0
  let second ← read 1
  let third ← read 2
  let startcode := first.toNat <<< 16 ||| second.toNat <<< 8 ||| third.toNat
  if startcode = 0 then (read 3).map fun fourth => (fourth.toNat, 4) else some (startcode, 3)

def parseRbsp (handler : ExtraDataHandler) (read : Nat → Option UInt8) (len : Nat) :
    Option (Int × ExtraDataHandler) := do
  let handler : ExtraDataHandler := { handler with bitPtr := 8, bytePtr := 0 }
  let (startcode, i) ← startcode read
  if startcode ≠ 1 then some (-1, handler)
  else
    let header ← read i
    if (header.toNat &&& 0x80) >>> 7 ≠ 0 then some (-1, handler)
    else
      let rbspBuf ← parseRbspLoop read len len (i + 1) 0 handler.rbspBuf
      some ((header.toNat &&& 0x1F : Nat), { handler with rbspBuf := rbspBuf })

/-! ### What `parse_rbsp` writes -/

def writeFrom (rbspBuf : Nat → UInt8) (j : Nat) (bytes : List UInt8) : Nat → UInt8 := fun index =>
  if j ≤ index then bytes.getD (index - j) (rbspBuf index) else rbspBuf index

theorem writeFrom_nil (rbspBuf : Nat → UInt8) (j : Nat) : writeFrom rbspBuf j [] = rbspBuf := by
  funext index
  rw [writeFrom]
  split <;> rfl

theorem writeFrom_cons (rbspBuf : Nat → UInt8) (j : Nat) (byte : UInt8) (bytes : List UInt8) :
    writeFrom (Function.update rbspBuf j byte) (j + 1) bytes = writeFrom rbspBuf j (byte :: bytes) := by
  funext index
  rw [writeFrom, writeFrom]
  rcases Nat.lt_trichotomy index j with hless | rfl | hgreater
  · rw [if_neg (by omega), if_neg (by omega), Function.update_of_ne hless.ne]
  · rw [if_neg (by omega), if_pos (Nat.le_refl index), Function.update_self, Nat.sub_self]
    rfl
  · have hindex : index - j = index - (j + 1) + 1 := by omega
    rw [if_pos (by omega), if_pos (by omega), hindex, Function.update_of_ne hgreater.ne']
    rfl

/-! ### The copy -/

/-- What the loop copies, when the bytes behind the unit can or cannot be read. -/
def copyBytes (behind : Bool) (j : Nat) (bytes : List UInt8) (rbspBuf : Nat → UInt8) : Option (Nat → UInt8) :=
  if (behind = true ∨ EscapeEnds bytes) ∧ j + (unescapeFrom 0 bytes).length ≤ rbspSize then
    some (writeFrom rbspBuf j (unescapeFrom 0 bytes))
  else none

section

variable {behind : Bool} {j : Nat} {byte : UInt8} {bytes : List UInt8} {rbspBuf : Nat → UInt8}

theorem copyBytes_nil (hj : j ≤ rbspSize) : copyBytes behind j [] rbspBuf = some rbspBuf := by
  rw [copyBytes, unescapeFrom, writeFrom_nil]
  exact if_pos ⟨.inr (.inl rfl), hj⟩

theorem copyBytes_of_not (hends : ¬EscapeEnds bytes) : copyBytes false j bytes rbspBuf = none :=
  if_neg fun h => hends (h.1.resolve_left Bool.false_ne_true)

theorem store_bind_congr {next other : (Nat → UInt8) → Option (Nat → UInt8)}
    (hnext : j < rbspSize → ∀ rbspBuf, next rbspBuf = other rbspBuf) :
    (store j byte rbspBuf).bind next = (store j byte rbspBuf).bind other := by
  rw [store]
  split
  · exact hnext ‹_› _
  · rfl

theorem copyBytes_cons (hwindow : (byte :: bytes).take 3 ≠ [0, 0, 3]) (hbytes : behind = true ∨ bytes ≠ []) :
    (store j byte rbspBuf).bind (copyBytes behind (j + 1) bytes) = copyBytes behind j (byte :: bytes) rbspBuf := by
  have hends : behind = true ∨ EscapeEnds (byte :: bytes) ↔ behind = true ∨ EscapeEnds bytes := by
    rcases hbytes with rfl | hbytes
    · exact iff_of_true (.inl rfl) (.inl rfl)
    · rw [escapeEnds_cons hwindow hbytes]
  rw [copyBytes, store]
  simp only [hends, unescapeFrom_cons hwindow, List.length_cons, ← writeFrom_cons]
  by_cases hroom : j < rbspSize
  · rw [if_pos hroom, Option.bind_some, copyBytes, Nat.add_right_comm j 1, Nat.add_assoc j _ 1]
  · rw [if_neg hroom, Option.bind_none, if_neg]
    rintro ⟨-, hfits⟩
    omega

theorem copyBytes_window :
    (store j 0 rbspBuf).bind (fun rbspBuf => (store (j + 1) 0 rbspBuf).bind (copyBytes behind (j + 2) bytes)) =
      copyBytes behind j (0 :: 0 :: 3 :: bytes) rbspBuf := by
  rw [copyBytes]
  simp only [escapeEnds_window, unescapeFrom_window, List.length_cons, ← writeFrom_cons]
  by_cases hroom : j + 1 < rbspSize
  · have hlength : j + 2 + (unescapeFrom 0 bytes).length = j + ((unescapeFrom 0 bytes).length + 1 + 1) := by omega
    rw [store, if_pos (Nat.lt_of_succ_lt hroom), Option.bind_some, store, if_pos hroom, Option.bind_some, copyBytes,
      hlength]
  · have hnone : ∀ rbspBuf, (store (j + 1) 0 rbspBuf).bind (copyBytes behind (j + 2) bytes) = none := by
      intro rbspBuf
      rw [store, if_neg hroom, Option.bind_none]
    rw [store_bind_congr fun _ => hnone, Option.bind_fun_none, if_neg]
    rintro ⟨-, hfits⟩
    omega

end

/-- One round, when its three bytes can be read. -/
theorem parseRbspLoop_succ {read : Nat → Option UInt8} {len rounds i j : Nat} {rbspBuf : Nat → UInt8}
    {first second third : UInt8} (hi : i < len) (hfirst : read i = some first)
    (hsecond : read (i + 1) = some second) (hthird : read (i + 2) = some third) :
    parseRbspLoop read len (rounds + 1) i j rbspBuf =
      if ((first = 0 ∧ second = 0) ∧ third = 3) ∧ i + 2 < len then
        (store j first rbspBuf).bind fun rbspBuf =>
          (store (j + 1) second rbspBuf).bind (parseRbspLoop read len rounds (i + 3) (j + 2))
      else (store j first rbspBuf).bind (parseRbspLoop read len rounds (i + 1) (j + 1)) := by
  rw [parseRbspLoop, if_pos hi, hfirst, hsecond, hthird]
  simp only [Option.bind_eq_bind, Option.bind_some, toNat_add_eq_zero]
  by_cases hzeros : first = 0 ∧ second = 0
  · simp only [hzeros, and_self, true_and, if_true]
  · simp only [hzeros, false_and, if_false, show (0 : UInt8) ≠ 3 from by decide]

theorem parseRbspLoop_eq {read : Nat → Option UInt8} {buf : List UInt8} (behind : Bool)
    (hread : ∀ index < buf.length, read index = buf[index]?)
    (hbehind : ∀ index, buf.length ≤ index → (read index).isSome = behind) (rounds : Nat) :
    ∀ (i j : Nat) (rbspBuf : Nat → UInt8), buf.length ≤ i + rounds → j ≤ rbspSize →
      parseRbspLoop read buf.length rounds i j rbspBuf = copyBytes behind j (buf.drop i) rbspBuf := by
  induction rounds with
  | zero =>
    intro i j rbspBuf hrounds hj
    rw [List.drop_eq_nil_of_le (show buf.length ≤ i from hrounds), copyBytes_nil hj]
    rfl
  | succ rounds ih =>
    intro i j rbspBuf hrounds hj
    have hget : ∀ index, i + index < buf.length → read (i + index) = (buf.drop i)[index]? :=
      fun index hindex => (hread _ hindex).trans List.getElem?_drop.symm
    have hlength : (buf.drop i).length = buf.length - i := List.length_drop
    have htail : ∀ count, buf.drop (i + count) = (buf.drop i).drop count := fun count => List.drop_drop.symm
    rcases hrest : buf.drop i with - | ⟨first, rest⟩
    · rw [parseRbspLoop, if_neg (Nat.not_lt.mpr (List.drop_eq_nil_iff.mp hrest)), copyBytes_nil hj]
    rw [hrest] at hget hlength htail
    rw [List.length_cons] at hlength
    have hi : i < buf.length := by omega
    have hfirst : read i = some first := hget 0 hi
    -- A byte is copied, and the loop goes on behind it
    have hstep : behind = true ∨ rest ≠ [] → (first :: rest).take 3 ≠ [0, 0, 3] →
        (store j first rbspBuf).bind (parseRbspLoop read buf.length rounds (i + 1) (j + 1)) =
          copyBytes behind j (first :: rest) rbspBuf := by
      intro hmore hwindow
      rw [← copyBytes_cons hwindow hmore]
      apply store_bind_congr
      intro hroom rbspBuf
      rw [ih _ _ _ (by omega) hroom, htail]
      rfl
    by_cases hinside : i + 2 < buf.length
    · obtain ⟨second, third, rest, rfl⟩ : ∃ second third more, rest = second :: third :: more := by
        rcases rest with - | ⟨second, - | ⟨third, more⟩⟩
        · simp at hlength
          omega
        · simp at hlength
          omega
        · exact ⟨second, third, more, rfl⟩
      rw [parseRbspLoop_succ hi hfirst (hget 1 (by omega)) (hget 2 hinside)]
      have htaken : (first :: second :: third :: rest).take 3 = [0, 0, 3] ↔
          (first = 0 ∧ second = 0) ∧ third = 3 := by
        simp [and_assoc]
      by_cases hwindow : (first = 0 ∧ second = 0) ∧ third = 3
      · obtain ⟨⟨rfl, rfl⟩, rfl⟩ := hwindow
        rw [← copyBytes_window, if_pos ⟨⟨⟨rfl, rfl⟩, rfl⟩, hinside⟩]
        apply store_bind_congr
        intro _ rbspBuf
        apply store_bind_congr
        intro hroom rbspBuf
        rw [ih _ _ _ (by simp only [List.length_cons] at hlength; omega) hroom, htail]
        rfl
      · rw [if_neg fun h => hwindow h.1]
        exact hstep (.inr (List.cons_ne_nil _ _)) (htaken.not.mpr hwindow)
    · -- The escape is not looked for in the last two bytes, but the bytes behind them are read
      have hshort : rest.length < 2 := by omega
      have hwindow : (first :: rest).take 3 ≠ [0, 0, 3] := by
        intro htaken
        have hcount := congrArg List.length htaken
        rw [List.length_take, List.length_cons] at hcount
        simp only [List.length_cons, List.length_nil] at hcount
        omega
      cases behind with
      | true =>
        have hsome : ∀ index, ∃ byte, read index = some byte := by
          intro index
          by_cases hindex : index < buf.length
          · exact ⟨_, (hread index hindex).trans (List.getElem?_eq_getElem hindex)⟩
          · exact Option.isSome_iff_exists.mp (hbehind index (Nat.not_lt.mp hindex))
        obtain ⟨second, hsecond⟩ := hsome (i + 1)
        obtain ⟨third, hthird⟩ := hsome (i + 2)
        rw [parseRbspLoop_succ hi hfirst hsecond hthird, if_neg fun h => hinside h.2]
        exact hstep (.inl rfl) hwindow
      | false =>
        have hnone : ∀ index, buf.length ≤ index → read index = none := fun index hindex =>
          Option.isSome_eq_false_iff.mp (hbehind index hindex) |> Option.isNone_iff_eq_none.mp
        rw [parseRbspLoop, if_pos hi, hfirst, Option.bind_eq_bind, Option.bind_some]
        rcases rest with - | ⟨second, rest⟩
        · rw [hnone (i + 1) (by simp only [List.length_nil] at hlength; omega)]
          exact (copyBytes_of_not (not_escapeEnds_singleton first)).symm
        obtain rfl : rest = [] := List.eq_nil_of_length_eq_zero (by simp only [List.length_cons] at hshort; omega)
        have hsecond : read (i + 1) = some second :=
          hget 1 (by simp only [List.length_cons, List.length_nil] at hlength; omega)
        rw [hsecond, hnone (i + 2) (Nat.not_lt.mp hinside), Option.bind_some]
        simp only [toNat_add_eq_zero]
        by_cases hzeros : first = 0 ∧ second = 0
        · rw [if_pos hzeros]
          exact (copyBytes_of_not (not_escapeEnds_pair first second)).symm
        · rw [if_neg hzeros, ← hstep (.inr (List.cons_ne_nil _ _)) hwindow]
          simp only [Option.bind_some, Option.bind_eq_bind, hinside, and_false, if_false]

end ExtraDataHandler

/-! ### Zeros of different pairs -/

/-- No two zeros that belong to different pairs are followed by one of some bytes. -/
def Apart (bad : UInt8 → Prop) (bytes : List UInt8) : Prop :=
  ∀ index first fourth, first ≠ 0 → bad fourth → (bytes.drop (2 * index)).take 4 ≠ [first, 0, 0, fourth]

def NotNext (bad : UInt8 → Prop) (bytes : List UInt8) : Prop :=
  ∀ fourth, bad fourth → bytes.take 2 ≠ [0, fourth]

variable {bad : UInt8 → Prop} {first second : UInt8} {bytes : List UInt8}

theorem apart_cons_cons :
    Apart bad (first :: second :: bytes) ↔ (first ≠ 0 → second = 0 → NotNext bad bytes) ∧ Apart bad bytes := by
  constructor
  · intro hapart
    refine ⟨fun hfirst hsecond fourth hfourth htake => ?_, fun index => hapart (index + 1)⟩
    apply hapart 0 first fourth hfirst hfourth
    rw [Nat.mul_zero, List.drop_zero, List.take_succ_cons, List.take_succ_cons, htake, hsecond]
  · rintro ⟨hnext, hapart⟩ index byte fourth hbyte hfourth htake
    cases index with
    | zero =>
      rw [Nat.mul_zero, List.drop_zero, List.take_succ_cons, List.take_succ_cons] at htake
      obtain ⟨hfirst, htake⟩ := List.cons.inj htake
      obtain ⟨hsecond, htake⟩ := List.cons.inj htake
      exact hnext (hfirst ▸ hbyte) hsecond fourth hfourth htake
    | succ index => exact hapart index byte fourth hbyte hfourth htake

theorem apart_short (hshort : bytes.length < 2) : Apart bad bytes := by
  intro index first fourth _ _ htake
  have hlength := congrArg List.length htake
  rw [List.length_take, List.length_drop] at hlength
  simp only [List.length_cons, List.length_nil] at hlength
  omega

theorem notNext_cons_cons : NotNext bad (first :: second :: bytes) ↔ ¬(first = 0 ∧ bad second) := by
  have htake : ∀ fourth, (first :: second :: bytes).take 2 = [0, fourth] ↔ first = 0 ∧ second = fourth := by
    intro fourth
    rw [List.take_succ_cons, List.take_succ_cons, List.take_zero]
    simp
  constructor
  · rintro hnext ⟨hfirst, hsecond⟩
    exact hnext second hsecond ((htake second).mpr ⟨hfirst, rfl⟩)
  · intro hnot fourth hfourth hpair
    obtain ⟨hfirst, rfl⟩ := (htake fourth).mp hpair
    exact hnot ⟨hfirst, hfourth⟩

theorem notNext_short (hshort : bytes.length < 2) : NotNext bad bytes := by
  intro fourth _ htake
  have hlength := congrArg List.length htake
  rw [List.length_take] at hlength
  simp only [List.length_cons, List.length_nil] at hlength
  omega

theorem cleanFrom_escapePairs (behindZero : Bool) (bytes : List UInt8) :
    CleanFrom behindZero.toNat (ExtraDataHandler.escapePairs bytes) ↔
      (behindZero = true → NotNext (· ≤ 2) bytes) ∧ Apart (· ≤ 2) bytes := by
  have hsmall : ∀ (flag : Bool) (byte : UInt8), ¬(2 ≤ flag.toNat ∧ byte ≤ 2) := by
    rintro flag byte ⟨hzeros, -⟩
    have hle := flag.toNat_le
    omega
  induction bytes using ExtraDataHandler.escapePairs.induct generalizing behindZero with
  | case1 => exact iff_of_true trivial ⟨fun _ => notNext_short (by decide), apart_short (by decide)⟩
  | case2 byte =>
    have hlength : [byte].length < 2 := Nat.lt_succ_self 1
    refine iff_of_true ?_ ⟨fun _ => notNext_short hlength, apart_short hlength⟩
    exact ⟨hsmall behindZero byte, trivial⟩
  | case3 first second bytes hzero ih =>
    obtain ⟨rfl, rfl⟩ := toNat_add_eq_zero.mp hzero
    have hlater := ih false
    rw [ExtraDataHandler.escapePairs, if_pos hzero, apart_cons_cons, notNext_cons_cons]
    simp only [CleanFrom, hsmall, zerosAfter]
    cases behindZero with
    | true => simp
    | false => simpa using hlater
  | case4 first second bytes hzero ih =>
    rw [ExtraDataHandler.escapePairs, if_neg hzero, apart_cons_cons, notNext_cons_cons]
    by_cases hfirst : first = 0
    · have hsecond : second ≠ 0 := fun hsecond => hzero (toNat_add_eq_zero.mpr ⟨hfirst, hsecond⟩)
      have hlater := ih false
      simp only [CleanFrom, hsmall, zerosAfter, if_pos hfirst, if_neg hsecond]
      cases behindZero with
      | true => simpa [hfirst] using fun _ => hlater
      | false => simpa [hfirst] using hlater
    have hlater := ih (decide (second = 0))
    have hzeros : (if second = 0 then 0 + 1 else 0) = (decide (second = 0)).toNat := by
      by_cases hsecond : second = 0
      · rw [if_pos hsecond, decide_eq_true hsecond]
        rfl
      · rw [if_neg hsecond, decide_eq_false hsecond]
        rfl
    simp only [CleanFrom, hsmall, zerosAfter, if_neg hfirst, hzeros]
    simpa [hfirst] using hlater

theorem keptPairs_eq_self_iff (behindZero : Bool) (bytes : List UInt8) :
    keptPairs behindZero bytes = bytes ↔
      (behindZero = true → NotNext (· = 3) bytes) ∧ Apart (· = 3) bytes := by
  have hmissed : keptPairs behindZero bytes = bytes ↔ missedPairs behindZero bytes = 0 := by
    refine ⟨fun hkept => ?_, keptPairs_of_missedPairs⟩
    have hcount := (keptPairs_count behindZero bytes).1
    rw [hkept] at hcount
    exact Nat.add_eq_left.mp hcount
  have hlossless : Lossless bytes ↔ Apart (· = 3) bytes :=
    ⟨fun hlossless index first fourth hfirst hfourth => hfourth ▸ hlossless index first hfirst,
      fun hapart index first hfirst => hapart index first 3 hfirst rfl⟩
  have hnext : bytes.take 2 ≠ [0, 3] ↔ NotNext (· = 3) bytes :=
    ⟨fun hnext fourth hfourth => hfourth ▸ hnext, fun hnext => hnext 3 rfl⟩
  rw [hmissed, missedPairs_eq_zero_iff, hlossless, hnext]

theorem apart_three_iff : Apart (· ≤ 3) bytes ↔ Apart (· ≤ 2) bytes ∧ Apart (· = 3) bytes := by
  have hthree : ∀ byte : UInt8, byte ≤ 3 ↔ byte ≤ 2 ∨ byte = 3 := by
    intro byte
    rw [UInt8.le_iff_toNat_le, UInt8.le_iff_toNat_le, ← UInt8.toNat_inj]
    change byte.toNat ≤ 3 ↔ byte.toNat ≤ 2 ∨ byte.toNat = 3
    omega
  constructor
  · intro hapart
    exact ⟨
      fun index first fourth hfirst hfourth => hapart index first fourth hfirst ((hthree _).mpr (.inl hfourth)),
      fun index first fourth hfirst hfourth => hapart index first fourth hfirst ((hthree _).mpr (.inr hfourth))⟩
  · rintro ⟨htwo, hthird⟩ index first fourth hfirst hfourth
    rcases (hthree fourth).mp hfourth with hsmall | hequal
    · exact htwo index first fourth hfirst hsmall
    · exact hthird index first fourth hfirst hequal

/-! ### The unit -/

namespace ExtraDataHandler

def message (handler : ExtraDataHandler) : List UInt8 :=
  UInt8.ofNat (handler.seiPayloadType &&& 0xFF) :: UInt8.ofNat (sub32 handler.bytePtr 1) :: handler.rbsp

/-- `parse_rbsp` of any handler, with any memory behind the unit, writes these bytes and nothing else. -/
def Restores (nal bytes : List UInt8) : Prop :=
  ∀ (receiver : ExtraDataHandler) (behind : Nat → UInt8),
    receiver.parseRbsp (fun index => some (nal.getD index (behind index))) nal.length =
      some ((nalTypeSei : Int), { receiver with
        bitPtr := 8
        bytePtr := 0
        rbspBuf := fun index => bytes.getD index (receiver.rbspBuf index) })

theorem writeFrom_zero (rbspBuf : Nat → UInt8) (bytes : List UInt8) :
    writeFrom rbspBuf 0 bytes = fun index => bytes.getD index (rbspBuf index) := by
  funext index
  rw [writeFrom, if_pos (Nat.zero_le index), Nat.sub_zero]

theorem parseRbsp_unit (body : List UInt8) (receiver : ExtraDataHandler) (behind : Nat → UInt8) :
    receiver.parseRbsp (fun index => some (([0, 0, 0, 1, 6] ++ body).getD index (behind index)))
        ([0, 0, 0, 1, 6] ++ body).length =
      if (unescapeFrom 0 body).length ≤ rbspSize then
        some ((nalTypeSei : Int), { receiver with
          bitPtr := 8
          bytePtr := 0
          rbspBuf := fun index => (unescapeFrom 0 body).getD index (receiver.rbspBuf index) })
      else none := by
  obtain ⟨unit, hunit⟩ : ∃ unit, [0, 0, 0, 1, 6] ++ body = unit := ⟨_, rfl⟩
  have hread : ∀ index < unit.length, some (unit.getD index (behind index)) = unit[index]? := by
    intro index hindex
    rw [List.getElem?_eq_getElem hindex]
    exact congrArg some (List.getD_eq_getElem _ _ hindex)
  have hloop := parseRbspLoop_eq true hread (fun _ _ => rfl) unit.length 5 0 receiver.rbspBuf
    (Nat.le_add_left _ 5) (Nat.zero_le rbspSize)
  have hbody : unit.drop 5 = body := by
    rw [← hunit]
    rfl
  have hstart : unit.getD 0 (behind 0) = 0 ∧ unit.getD 1 (behind 1) = 0 ∧ unit.getD 2 (behind 2) = 0 ∧
      unit.getD 3 (behind 3) = 1 ∧ unit.getD 4 (behind 4) = 6 := by
    rw [← hunit]
    exact ⟨rfl, rfl, rfl, rfl, rfl⟩
  obtain ⟨hzero, hone, htwo, hthree, hfour⟩ := hstart
  rw [hbody, copyBytes, Nat.zero_add, writeFrom_zero] at hloop
  simp only [true_or, true_and] at hloop
  rw [hunit, parseRbsp, startcode]
  -- The start code has four bytes.
  have hcode : (0 : UInt8).toNat <<< 16 ||| (0 : UInt8).toNat <<< 8 ||| (0 : UInt8).toNat = 0 := by decide
  simp only [hzero, hone, htwo, hthree, hcode, if_true, Option.map_some, Option.bind_eq_bind, Option.bind_some, hfour]
  rw [if_neg (by decide), if_neg (by decide), hloop]
  by_cases hroom : (unescapeFrom 0 body).length ≤ rbspSize
  · rw [if_pos hroom, if_pos hroom]
    rfl
  · rw [if_neg hroom, if_neg hroom]
    rfl

theorem option_eq_of_getD {first second : Option UInt8} (hsame : ∀ byte, first.getD byte = second.getD byte) :
    first = second := by
  have hdifferent : ∀ byte : UInt8, ¬((0 : UInt8) = byte ∧ (1 : UInt8) = byte) := by
    rintro byte ⟨rfl, hone⟩
    exact absurd hone (by decide)
  cases first with
  | none =>
    cases second with
    | none => rfl
    | some byte => exact absurd ⟨hsame 0, hsame 1⟩ (hdifferent byte)
  | some byte =>
    cases second with
    | none => exact absurd ⟨(hsame 0).symm, (hsame 1).symm⟩ (hdifferent byte)
    | some other => exact congrArg some (hsame 0)

theorem restores_iff (body bytes : List UInt8) :
    Restores ([0, 0, 0, 1, 6] ++ body) bytes ↔ unescapeFrom 0 body = bytes ∧ bytes.length ≤ rbspSize := by
  constructor
  · intro hrestores
    have hroom : (unescapeFrom 0 body).length ≤ rbspSize := by
      by_contra hfull
      have hnone := (parseRbsp_unit body new fun _ => 0).symm.trans (hrestores new fun _ => 0)
      rw [if_neg hfull] at hnone
      exact absurd hnone (by simp)
    -- What the receiver has in front tells whether a byte was written.
    have hsame : ∀ index byte, (unescapeFrom 0 body).getD index byte = bytes.getD index byte := by
      intro index byte
      have hsome := (parseRbsp_unit body { new with rbspBuf := fun _ => byte } fun _ => 0).symm.trans
        (hrestores { new with rbspBuf := fun _ => byte } fun _ => 0)
      rw [if_pos hroom, Option.some.injEq, Prod.mk.injEq] at hsome
      exact congrFun (congrArg rbspBuf hsome.2) index
    have hread : unescapeFrom 0 body = bytes := by
      apply List.ext_getElem?
      intro index
      apply option_eq_of_getD
      intro byte
      rw [← List.getD_eq_getElem?_getD, ← List.getD_eq_getElem?_getD]
      exact hsame index byte
    exact ⟨hread, hread ▸ hroom⟩
  · rintro ⟨rfl, hroom⟩ receiver behind
    rw [parseRbsp_unit, if_pos hroom]

/-- The unit of a message has no start code, and it is parsed back, if and only if the receiver has room for the
type, the size and the bytes and no two zeros of different pairs are followed by a byte of at most 3. -/
theorem createRbsp_restores_iff (handler : ExtraDataHandler) (pack : FramePackArrangement) :
    let sender := handler.setFramePackData pack
    StartCodeFree ((sender.createRbsp nalTypeSei).drop 4) ∧ Restores
      (sender.createRbsp nalTypeSei) sender.message ↔
      sender.bytePtr + 2 ≤ rbspSize ∧ Apart (· ≤ 3) sender.message := by
  intro sender
  obtain ⟨size, hsize⟩ : ∃ size, UInt8.ofNat (sub32 sender.bytePtr 1) = size := ⟨_, rfl⟩
  have htype : UInt8.ofNat (sender.seiPayloadType &&& 0xFF) = 0x2D := by
    change UInt8.ofNat (0x2D &&& 0xFF) = 0x2D
    decide
  have hunit : sender.createRbsp nalTypeSei = [0, 0, 0, 1, 6] ++ 0x2D :: size :: escapePairs sender.rbsp := by
    rw [createRbsp, htype, hsize]
    rfl
  have hmessage : sender.message = 0x2D :: size :: sender.rbsp := by
    rw [message, htype, hsize]
  have hlength : sender.message.length = sender.bytePtr + 2 := by
    rw [hmessage, List.length_cons, List.length_cons, rbsp, List.length_map, List.length_range]
  have hdata : ∀ bad, Apart bad sender.message ↔
      (decide (size = 0) = true → NotNext bad sender.rbsp) ∧ Apart bad sender.rbsp := by
    intro bad
    rw [hmessage, apart_cons_cons, decide_eq_true_eq]
    exact and_congr_left' (imp_iff_right (by decide))
  have hclean : StartCodeFree ((sender.createRbsp nalTypeSei).drop 4) ↔ Apart (· ≤ 2) sender.message := by
    have hdrop : (sender.createRbsp nalTypeSei).drop 4 = 6 :: 0x2D :: size :: escapePairs sender.rbsp := by
      rw [hunit]
      rfl
    rw [hdrop, startCodeFree_cons_of_ne (by decide), startCodeFree_cons_of_ne (by decide), hdata,
      ← cleanFrom_escapePairs, cleanFrom_iff]
    by_cases hzero : size = 0
    · rw [decide_eq_true hzero, hzero]
      rfl
    · rw [decide_eq_false hzero, startCodeFree_cons_of_ne hzero]
      rfl
  have hread : unescapeFrom 0 (0x2D :: size :: escapePairs sender.rbsp) = sender.message ↔
      Apart (· = 3) sender.message := by
    have hzeros : zerosAfter 0 size = (decide (size = 0)).toNat := by
      by_cases hzero : size = 0
      · rw [decide_eq_true hzero, zerosAfter, if_pos hzero]
        rfl
      · rw [decide_eq_false hzero, zerosAfter, if_neg hzero]
        rfl
    have hstart : unescapeFrom 0 (0x2D :: size :: escapePairs sender.rbsp) =
        0x2D :: size :: unescapeFrom (zerosAfter 0 size) (escapePairs sender.rbsp) := by
      rw [unescapeFrom, if_neg fun h => absurd h.1 (by decide), zerosAfter, if_neg (by decide), unescapeFrom,
        if_neg fun h => absurd h.1 (by decide)]
    rw [hstart, hzeros, unescapeFrom_escapePairs, hdata, hmessage, List.cons_inj_right, List.cons_inj_right,
      keptPairs_eq_self_iff]
  rw [hclean, hunit, restores_iff, hread, hlength, apart_three_iff]
  tauto

/-- The bytes 5, 0, 0, 1 make a start code. -/
theorem createRbsp_startCode :
    let sender := { new with rbspBuf := fun index => [5, 0, 0, 1].getD index 0, bytePtr := 4 }.setFramePackData
      new.framePackingArrangement
    sender.rbsp.getLast? = some 1 ∧ ¬StartCodeFree ((sender.createRbsp nalTypeSei).drop 4) := by
  refine ⟨by decide, fun hfree => ?_⟩
  exact hfree 4 1 (by decide) (by decide)

end ExtraDataHandler

end Nozomi
