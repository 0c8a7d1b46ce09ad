import Mathlib.Data.Nat.Digits.Defs
import Mathlib.Tactic.Ring
import RegisterLink.Text.Decimal

/-!
# Numerals

A string of digits is read from its front, and what was read so far is never larger than the whole
number will be. So the limit is passed on the way exactly when it is passed in the end: reading
comes to the number that the places of the digits tell, or it gives up.
-/
namespace RegisterLink

/-- A number in digits, highest place first; any number of zeros may come before. -/
structure Numeral (text : List Char) (value : Nat) : Prop where
  nonempty : text ≠ []
  digits : ∀ c ∈ text, c.isDigit = true
  value_eq : value = Nat.ofDigits 10 (text.reverse.map Decimal.digitValue)

theorem Numeral.not_mem {text : List Char} {value : Nat} (h : Numeral text value) {c : Char}
    (hc : c.isDigit = false) : c ∉ text := by
  intro hmem
  rw [h.digits c hmem] at hc
  cases hc

theorem Numeral.unique {text : List Char} {value other : Nat} (h : Numeral text value)
    (hother : Numeral text other) : value = other :=
  h.value_eq.trans hother.value_eq.symm

namespace Decimal

/-- The number that digits stand for behind those that have made `value`. -/
def continued (value : Nat) (text : List Char) : Nat :=
  value * 10 ^ text.length + Nat.ofDigits 10 (text.reverse.map digitValue)

theorem continued_nil (value : Nat) : continued value [] = value := by
  simp [continued]

/-- One digit more: what was read counts ten times. -/
theorem continued_cons (value : Nat) (c : Char) (rest : List Char) :
    continued value (c :: rest) = continued (10 * value + digitValue c) rest := by
  unfold continued
  rw [List.reverse_cons, List.map_append, List.map_singleton, Nat.ofDigits_append,
    Nat.ofDigits_singleton, List.length_map, List.length_reverse, List.length_cons, Nat.pow_succ]
  ring

theorem le_continued (value : Nat) (text : List Char) : value ≤ continued value text := by
  have hplaces : 0 < 10 ^ text.length := Nat.pow_pos (by decide)
  exact Nat.le_add_right_of_le (Nat.le_mul_of_pos_right value hplaces)

theorem readOn_eq_some_iff {limit value number : Nat} {text : List Char} (h : value ≤ limit) :
    readOn limit value text = some number ↔
      (∀ c ∈ text, c.isDigit = true) ∧ number = continued value text ∧ number ≤ limit := by
  induction text generalizing value with
  | nil =>
    rw [readOn, continued_nil, Option.some.injEq]
    constructor
    · rintro rfl
      exact ⟨nofun, rfl, h⟩
    · rintro ⟨-, rfl, -⟩
      rfl
  | cons c rest ih =>
    rw [readOn, continued_cons, List.forall_mem_cons]
    by_cases hstep : c.isDigit ∧ 10 * value + digitValue c ≤ limit
    · rw [if_pos hstep, ih hstep.2]
      simp only [hstep.1, true_and]
    · rw [if_neg hstep]
      constructor
      · nofun
      · rintro ⟨⟨hdigit, -⟩, rfl, hlimit⟩
        -- The limit was passed here, so it is passed by the whole number.
        exact absurd ⟨hdigit, (le_continued _ rest).trans hlimit⟩ hstep

theorem value?_eq_some_iff {limit number : Nat} {text : List Char} :
    value? limit text = some number ↔ Numeral text number ∧ number ≤ limit := by
  have hwhole : continued 0 text = Nat.ofDigits 10 (text.reverse.map digitValue) := by
    rw [continued, Nat.zero_mul, Nat.zero_add]
  rw [value?]
  split
  · constructor
    · nofun
    · rintro ⟨hnumeral, -⟩
      exact absurd ‹text = []› hnumeral.nonempty
  · rw [readOn_eq_some_iff (Nat.zero_le limit), hwhole]
    constructor
    · rintro ⟨hdigits, hvalue, hlimit⟩
      exact ⟨⟨‹_›, hdigits, hvalue⟩, hlimit⟩
    · rintro ⟨⟨-, hdigits, hvalue⟩, hlimit⟩
      exact ⟨hdigits, hvalue, hlimit⟩

theorem ofDigitChars_eq_continued (text : List Char) (value : Nat) :
    Nat.ofDigitChars 10 text value = continued value text := by
  induction text generalizing value with
  | nil => rw [Nat.ofDigitChars_nil, continued_nil]
  | cons c rest ih =>
    rw [Nat.ofDigitChars_cons, ih, continued_cons]
    rfl

/-- What is printed for a number is a numeral of it. -/
theorem numeral_digits (n : Nat) : Numeral (digits n) n where
  nonempty := digits_ne_nil n
  digits := List.all_eq_true.mp (all_isDigit_digits n)
  value_eq := by
    have hback : Nat.ofDigitChars 10 (digits n) 0 = n := Nat.ofDigitChars_ten_toDigits
    rw [ofDigitChars_eq_continued, continued, Nat.zero_mul, Nat.zero_add] at hback
    exact hback.symm

theorem digits_injective : Function.Injective digits := by
  intro m n h
  have hm := numeral_digits m
  rw [h] at hm
  exact hm.unique (numeral_digits n)

theorem minus_mem_ofInt_iff {number : Int} : '-' ∈ ofInt number ↔ number < 0 := by
  cases number with
  | ofNat n =>
    have hdigits : '-' ∉ digits n := (numeral_digits n).not_mem rfl
    simp [ofInt, hdigits]
  | negSucc n => simp [ofInt, Int.negSucc_lt_zero]

theorem ofInt_not_mem {c : Char} (hc : c.isDigit = false) (hminus : c ≠ '-') (number : Int) :
    c ∉ ofInt number := by
  cases number with
  | ofNat n => exact (numeral_digits n).not_mem hc
  | negSucc n =>
    rw [ofInt, List.mem_cons, not_or]
    exact ⟨hminus, (numeral_digits (n + 1)).not_mem hc⟩

/-- The sign is read off the text, and then the digits tell the number. -/
theorem ofInt_injective : Function.Injective ofInt := by
  intro a b h
  have hsign : a < 0 ↔ b < 0 := by
    rw [← minus_mem_ofInt_iff, ← minus_mem_ofInt_iff, h]
  cases a with
  | ofNat m =>
    cases b with
    | ofNat n => rw [digits_injective h]
    | negSucc n =>
      have hnegative := hsign.mpr (Int.negSucc_lt_zero n)
      exact absurd hnegative (Int.not_lt.mpr (Int.natCast_nonneg m))
  | negSucc m =>
    cases b with
    | ofNat n =>
      have hnegative := hsign.mp (Int.negSucc_lt_zero m)
      exact absurd hnegative (Int.not_lt.mpr (Int.natCast_nonneg n))
    | negSucc n =>
      have hdigits := digits_injective (List.cons.inj h).2
      rw [Nat.succ.inj hdigits]

end Decimal

end RegisterLink
