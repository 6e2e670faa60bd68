import Mathlib.Data.List.TakeWhile
import Mathlib.Order.Basic
import Mathlib.Tactic.Ring

/-!
# Numbers in strings

`strtol` of the C library to the base ten, where `long` has 32 bits. A string is the list of its
characters in front of the terminating zero.
-/

namespace Nozomi

def isSpace (c : Char) : Bool := c = ' ' || decide (9 ≤ c.toNat ∧ c.toNat ≤ 13)

def cString (buffer : List Char) : List Char := buffer.takeWhile fun c => c ≠ Char.ofNat 0

def decimal (digits : List Char) : Nat := digits.foldl (fun value c => 10 * value + (c.toNat - 48)) 0

def takeSign : List Char → Bool × List Char
  | '-' :: rest => (true, rest)
  | '+' :: rest => (false, rest)
  | rest => (false, rest)

def strtol (s : List Char) : Int × List Char :=
  let (negative, rest) := takeSign (s.dropWhile isSpace)
  let digits := rest.takeWhile (·.isDigit)
  if digits = [] then (0, s)
  else
    let value : Int := if negative then -(decimal digits : Int) else decimal digits
    (max (-2 ^ 31) (min (2 ^ 31 - 1) value), rest.dropWhile (·.isDigit))

def atoi (s : List Char) : Int := (strtol s).1

theorem takeSign_suffix (s : List Char) : (takeSign s).2 <:+ s := by
  rw [takeSign.eq_def]
  split
  · exact List.suffix_cons _ _
  · exact List.suffix_cons _ _
  · exact List.suffix_rfl

theorem strtol_suffix (s : List Char) : (strtol s).2 <:+ s := by
  rw [strtol]
  dsimp only
  split
  · exact List.suffix_rfl
  · exact (List.dropWhile_suffix _).trans ((takeSign_suffix _).trans (List.dropWhile_suffix _))

theorem strtol_length_le (s : List Char) : (strtol s).2.length ≤ s.length := (strtol_suffix s).length_le

def strtolLooks (s : List Char) : Nat :=
  s.length - ((takeSign (s.dropWhile isSpace)).2.dropWhile (·.isDigit)).length + 1

theorem strtolLooks_le (s : List Char) : strtolLooks s ≤ s.length + 1 :=
  Nat.succ_le_succ (Nat.sub_le _ _)

/-! ### Separators -/

def IsSeparator (c : Char) : Prop := isSpace c = false ∧ c.isDigit = false ∧ c ≠ '-' ∧ c ≠ '+'

instance (c : Char) : Decidable (IsSeparator c) :=
  inferInstanceAs (Decidable (isSpace c = false ∧ c.isDigit = false ∧ c ≠ '-' ∧ c ≠ '+'))

variable {c : Char} {text : List Char}

theorem dropWhile_append_cons {p : Char → Bool} (hc : p c = false) (front back : List Char) :
    (front ++ c :: back).dropWhile p = front.dropWhile p ++ c :: back := by
  rw [List.dropWhile_append]
  split
  next hempty =>
    rw [List.isEmpty_iff.mp hempty, List.nil_append, List.dropWhile_cons_of_neg (by simp [hc])]
  next => rfl

theorem takeWhile_append_cons {p : Char → Bool} (hc : p c = false) (front back : List Char) :
    (front ++ c :: back).takeWhile p = front.takeWhile p := by
  have hnone : (c :: back).takeWhile p = [] := List.takeWhile_cons_of_neg (by simp [hc])
  rw [List.takeWhile_append]
  split
  next hall => rw [hnone, List.append_nil, (List.takeWhile_prefix p).eq_of_length hall]
  next => rfl

theorem takeSign_append_cons (hc : IsSeparator c) (front back : List Char) :
    takeSign (front ++ c :: back) = ((takeSign front).1, (takeSign front).2 ++ c :: back) := by
  obtain ⟨-, -, hminus, hplus⟩ := hc
  cases front with
  | nil => simp [takeSign, hminus, hplus]
  | cons first front =>
    by_cases hfirst : first = '-'
    · subst hfirst
      rfl
    · by_cases hfirst' : first = '+'
      · subst hfirst'
        rfl
      · simp [takeSign, hfirst, hfirst']

theorem strtol_append_cons (hc : IsSeparator c) (front back : List Char) :
    strtol (front ++ c :: back) = ((strtol front).1, (strtol front).2 ++ c :: back) := by
  rw [strtol, strtol, dropWhile_append_cons hc.1, takeSign_append_cons hc]
  dsimp only
  rw [takeWhile_append_cons hc.2.1, dropWhile_append_cons hc.2.1]
  split <;> rfl

/-! ### Decimal integers -/

/-- The text of a decimal integer: a sign, which may be missing, and digits. -/
def IsDecimal (text : List Char) : Prop :=
  (takeSign text).2 ≠ [] ∧ ∀ c ∈ (takeSign text).2, c.isDigit = true

def decimalValue (text : List Char) : Int :=
  if (takeSign text).1 then -(decimal (takeSign text).2 : Int) else decimal (takeSign text).2

theorem isSpace_of_isDigit (hc : c.isDigit = true) : isSpace c = false := by
  have hbounds : 48 ≤ c.toNat ∧ c.toNat ≤ 57 := by simpa [Char.isDigit, UInt32.le_iff_toNat_le] using hc
  have hspace : c ≠ ' ' := by
    rintro rfl
    exact absurd hbounds.1 (by decide)
  rw [isSpace, Bool.or_eq_false_iff]
  exact ⟨decide_eq_false hspace, decide_eq_false (by omega)⟩

theorem IsDecimal.dropWhile_isSpace (htext : IsDecimal text) : text.dropWhile isSpace = text := by
  obtain ⟨hne, hdigits⟩ := htext
  cases text with
  | nil => rfl
  | cons first rest =>
    apply List.dropWhile_cons_of_neg
    rw [Bool.not_eq_true]
    by_cases hminus : first = '-'
    · subst hminus
      decide
    · by_cases hplus : first = '+'
      · subst hplus
        decide
      · have hrest : (takeSign (first :: rest)).2 = first :: rest := by simp [takeSign, hminus, hplus]
        rw [hrest] at hdigits
        exact isSpace_of_isDigit (hdigits first List.mem_cons_self)

theorem IsDecimal.strtol_eq (htext : IsDecimal text) :
    strtol text = (max (-2 ^ 31) (min (2 ^ 31 - 1) (decimalValue text)), []) := by
  have hdigits : (takeSign text).2.takeWhile (·.isDigit) = (takeSign text).2 :=
    List.takeWhile_eq_self_iff.mpr htext.2
  have hrest : (takeSign text).2.dropWhile (·.isDigit) = [] := List.dropWhile_eq_nil_iff.mpr htext.2
  rw [strtol, htext.dropWhile_isSpace]
  dsimp only
  rw [hdigits, hrest, if_neg htext.1, decimalValue]

theorem IsDecimal.strtol_fst_iff (htext : IsDecimal text) :
    (strtol text).1 = decimalValue text ↔ -2 ^ 31 ≤ decimalValue text ∧ decimalValue text < 2 ^ 31 := by
  rw [htext.strtol_eq]
  dsimp only
  omega

theorem IsDecimal.notMem (htext : IsDecimal text) (hc : IsSeparator c) : c ∉ text := by
  obtain ⟨-, hdigit, hminus, hplus⟩ := hc
  have hsign : ∀ c ∈ text, c ∈ (takeSign text).2 ∨ c = '-' ∨ c = '+' := by
    intro c hmem
    rw [takeSign.eq_def]
    split <;> grind
  intro hmem
  rcases hsign c hmem with hrest | hsign | hsign
  · exact absurd (htext.2 c hrest) (by simp [hdigit])
  · exact hminus hsign
  · exact hplus hsign

end Nozomi
