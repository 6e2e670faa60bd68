import Nozomi.Base.Access
import Nozomi.Display.External.Modes

/-!
# The accesses of `parseResolution`

The loop goes on at every comma at which a number, or nothing, ends, and it does not count the modes. A
field of the string is what stands between two commas.
-/

namespace Nozomi

/-- The arrays of `parseResolution`: the string, and what the modes are written to. -/
inductive ResolutionArray where
  | edidStr
  | edidModes
  deriving DecidableEq

def resolutionSize (edidStr : List Char) : ResolutionArray → Nat
  | .edidStr => edidStr.length + 1
  | .edidModes => edidModesSize

def modeAccesses : Nat → Nat → Nat → List Char → List (Access ResolutionArray)
  | 0, _, _, _ => []
  | fuel + 1, position, count, start =>
    let rest := (strtol start).2
    let last := position + (start.length - rest.length)
    (List.range (strtolLooks start)).map (fun k => ⟨.edidStr, (position + k : Nat)⟩) ++
      ⟨.edidModes, count⟩ :: ⟨.edidStr, last⟩ ::
        match rest with
        | ',' :: start => modeAccesses fuel (last + 1) (count + 1) start
        | _ => []

def resolutionAccesses (edidStr : List Char) : List (Access ResolutionArray) :=
  modeAccesses (edidStr.length + 1) 0 0 edidStr

theorem inBounds_modeAccesses {edidStr : List Char} (fuel : Nat) :
    ∀ (position count : Nat) (start : List Char), position + start.length = edidStr.length →
      start.length < fuel →
      (InBounds (resolutionSize edidStr) (modeAccesses fuel position count start) ↔
        count + (parseModes fuel start).length ≤ edidModesSize) := by
  induction fuel with
  | zero => exact fun _ _ _ _ hfuel => absurd hfuel (Nat.not_lt_zero _)
  | succ fuel ih =>
    intro position count start hposition hfuel
    have hlooks := strtolLooks_le start
    have hless := strtol_length_le start
    have hstring : InBounds (resolutionSize edidStr)
        ((List.range (strtolLooks start)).map fun k => ⟨.edidStr, (position + k : Nat)⟩) := by
      intro access haccess
      obtain ⟨k, hk, rfl⟩ := List.mem_map.mp haccess
      rw [List.mem_range] at hk
      simp only [resolutionSize]
      omega
    rw [modeAccesses, parseModes, inBounds_append, and_iff_right hstring, inBounds_cons, inBounds_cons]
    generalize strtol start = parsed at hless ⊢
    obtain ⟨mode, rest⟩ := parsed
    dsimp only at hless ⊢
    have hlast : ((0 : Int) ≤ (position + (start.length - rest.length) : Nat) ∧
        ((position + (start.length - rest.length) : Nat) : Int) < resolutionSize edidStr .edidStr) := by
      simp only [resolutionSize]
      omega
    rw [and_iff_right hlast]
    simp only [resolutionSize]
    split
    next next =>
      rw [List.length_cons] at hless
      have hnext := ih (position + (start.length - (next.length + 1)) + 1) (count + 1) next
        (by omega) (by omega)
      simp only [List.length_cons, hnext]
      omega
    next =>
      simp only [inBounds_nil, and_true, List.length_singleton]
      omega

/-! ### Fields -/

def fieldModes : List (List Char) → List Int
  | [] => []
  | field :: fields => (strtol field).1 :: if (strtol field).2 = [] then fieldModes fields else []

theorem isSeparator_comma : IsSeparator ',' := by decide

theorem parseModes_intercalate (fields : List (List Char)) :
    ∀ fuel, fields ≠ [] → (∀ field ∈ fields, ',' ∉ field) → ([','].intercalate fields).length < fuel →
      parseModes fuel ([','].intercalate fields) = fieldModes fields := by
  induction fields with
  | nil => exact fun _ hne => absurd rfl hne
  | cons field fields ih =>
    intro fuel _ hcommas hfuel
    obtain ⟨hcomma, hcommas⟩ := List.forall_mem_cons.mp hcommas
    have hrest : ',' ∉ (strtol field).2 := fun hmem => hcomma ((strtol_suffix field).mem hmem)
    cases fuel with
    | zero => exact absurd hfuel (Nat.not_lt_zero _)
    | succ fuel =>
      cases fields with
      | nil =>
        rw [List.intercalate_singleton, parseModes, fieldModes]
        dsimp only
        split
        next next heq => exact absurd (heq ▸ List.mem_cons_self) hrest
        next => rw [fieldModes, ite_self]
      | cons second fields =>
        rw [List.intercalate_cons_cons, List.append_assoc, List.singleton_append] at hfuel ⊢
        rw [List.length_append, List.length_cons] at hfuel
        rw [parseModes, strtol_append_cons isSeparator_comma, fieldModes]
        dsimp only
        cases hleft : (strtol field).2 with
        | nil =>
          rw [List.nil_append, if_pos rfl, ← ih fuel (List.cons_ne_nil _ _) hcommas (by omega)]
          rfl
        | cons first left =>
          have hfirst : first ≠ ',' := by
            rintro rfl
            exact hrest (hleft ▸ List.mem_cons_self)
          rw [List.cons_append, if_neg (List.cons_ne_nil _ _)]
          split
          next next heq => exact absurd (List.cons.inj heq).1 hfirst
          next => rfl

theorem notMem_of_mem_splitOn (separator : Char) (s : List Char) :
    ∀ field ∈ s.splitOn separator, separator ∉ field := by
  induction s with
  | nil => simp
  | cons c s ih =>
    rw [List.splitOn_cons_eq_if_modifyHead]
    split
    · exact List.forall_mem_cons.mpr ⟨List.not_mem_nil, ih⟩
    next hne =>
      have hc : separator ≠ c := fun heq => hne (by simp [heq])
      cases hfields : s.splitOn separator with
      | nil => simp
      | cons field fields =>
        rw [hfields] at ih
        obtain ⟨hfield, hrest⟩ := List.forall_mem_cons.mp ih
        exact List.forall_mem_cons.mpr ⟨List.not_mem_cons_of_ne_of_not_mem hc hfield, hrest⟩

theorem parseResolution_eq (edidStr : List Char) :
    parseResolution edidStr = fieldModes (edidStr.splitOn ',') := by
  have hmodes := parseModes_intercalate (edidStr.splitOn ',') (edidStr.length + 1) (List.splitOn_ne_nil _ _)
    (notMem_of_mem_splitOn ',' edidStr) (by rw [List.intercalate_splitOn]; exact Nat.lt_succ_self _)
  rwa [List.intercalate_splitOn] at hmodes

theorem fieldModes_length_le_iff (fields : List (List Char)) :
    ∀ bound, (fieldModes fields).length ≤ bound ↔
      ¬(bound < fields.length ∧ ∀ field ∈ fields.take bound, (strtol field).2 = []) := by
  induction fields with
  | nil => simp [fieldModes]
  | cons field fields ih =>
    intro bound
    rw [fieldModes]
    cases bound with
    | zero => simp
    | succ bound =>
      rw [List.length_cons, Nat.succ_le_succ_iff, List.length_cons, Nat.succ_lt_succ_iff, List.take_succ_cons,
        List.forall_mem_cons]
      split
      next hread => rw [ih bound, and_iff_right hread]
      next hnot =>
        rw [List.length_nil]
        exact iff_of_true (Nat.zero_le bound) fun h => hnot h.2.1

theorem fieldModes_decimal {fields : List (List Char)} (hdecimal : ∀ field ∈ fields, IsDecimal field) :
    fieldModes fields = fields.map fun field => (strtol field).1 := by
  induction fields with
  | nil => rfl
  | cons field fields ih =>
    obtain ⟨hfield, hrest⟩ := List.forall_mem_cons.mp hdecimal
    rw [fieldModes, if_pos (by rw [hfield.strtol_eq]), ih hrest, List.map_cons]

/-! ### What is parsed -/

/-- `parseResolution` ends, reads the string and writes the modes within their bounds, and returns the
integers of a list that are separated by commas. -/
structure ParsesList (edidStr : List Char) : Prop where
  ends : ∀ more, parseModes (edidStr.length + 1 + more) edidStr = parseResolution edidStr
  inside : InBounds (resolutionSize edidStr) (resolutionAccesses edidStr)
  exact : ∀ texts, (∀ text ∈ texts, IsDecimal text) → edidStr = [','].intercalate texts →
    parseResolution edidStr = texts.map decimalValue

theorem inBounds_resolutionAccesses_iff (edidStr : List Char) :
    InBounds (resolutionSize edidStr) (resolutionAccesses edidStr) ↔
      ¬(edidModesSize < (edidStr.splitOn ',').length ∧
        ∀ field ∈ (edidStr.splitOn ',').take edidModesSize, (strtol field).2 = []) := by
  rw [resolutionAccesses, inBounds_modeAccesses _ 0 0 edidStr (Nat.zero_add _) (Nat.lt_succ_self _),
    Nat.zero_add, ← fieldModes_length_le_iff, ← parseResolution_eq, parseResolution]

/-- The loop is safe unless each of the first 64 fields is a number or empty and another one follows. It
returns the integers of a list, where there are any, when `int` has values for them. -/
theorem parsesList_iff (edidStr : List Char) : ParsesList edidStr ↔
    ¬(edidModesSize < (edidStr.splitOn ',').length ∧
      ∀ field ∈ (edidStr.splitOn ',').take edidModesSize, (strtol field).2 = []) ∧
    edidStr ≠ [] ∧
    ((∀ field ∈ edidStr.splitOn ',', IsDecimal field) → ∀ field ∈ edidStr.splitOn ',',
      -2 ^ 31 ≤ decimalValue field ∧ decimalValue field < 2 ^ 31) := by
  constructor
  · intro hparses
    refine ⟨(inBounds_resolutionAccesses_iff edidStr).mp hparses.inside, ?_, ?_⟩
    · rintro rfl
      have hnone := hparses.exact [] (List.forall_mem_nil _) rfl
      exact absurd (congrArg List.length hnone) (by decide)
    · intro hdecimal field hfield
      have hlist := hparses.exact _ hdecimal (List.intercalate_splitOn ',').symm
      rw [parseResolution_eq, fieldModes_decimal hdecimal] at hlist
      exact (hdecimal field hfield).strtol_fst_iff.mp (List.map_inj_left.mp hlist field hfield)
  · rintro ⟨hfew, hne, hfits⟩
    refine ⟨parseModes_fuel (Nat.lt_succ_self _), (inBounds_resolutionAccesses_iff edidStr).mpr hfew, ?_⟩
    intro texts hdecimal heq
    have htexts : texts ≠ [] := by
      rintro rfl
      exact hne heq
    have hfields : edidStr.splitOn ',' = texts := by
      rw [heq]
      exact List.splitOn_intercalate ',' (fun text htext => (hdecimal text htext).notMem isSeparator_comma)
        htexts
    rw [hfields] at hfits
    rw [parseResolution_eq, hfields, fieldModes_decimal hdecimal]
    exact List.map_congr_left fun text htext =>
      (hdecimal text htext).strtol_fst_iff.mpr (hfits hdecimal text htext)

example : parseResolution ['1', '6', ',', '4', ',', '-', '5'] = [16, 4, -5] := by decide

/-- A string of 64 commas has 65 empty fields. -/
theorem commas_not_parsesList : ¬ParsesList (List.replicate 64 ',') := by
  intro hparses
  have hlength : (fieldModes ((List.replicate 64 ',').splitOn ',')).length = 65 := by decide +kernel
  have hinside := (inBounds_resolutionAccesses_iff _).mp hparses.inside
  rw [← fieldModes_length_le_iff, hlength] at hinside
  exact absurd hinside (by decide)

end Nozomi
