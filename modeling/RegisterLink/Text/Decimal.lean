/-!
# Decimal numbers

Numbers are printed without leading zeros and read with any number of them. Only the digits
`0` to `9` count: digits of other scripts are not part of a number.
-/
namespace RegisterLink.Decimal

/-- The digits of a natural number. -/
def digits (n : Nat) : List Char := Nat.toDigits 10 n

/-- An integer, with a minus sign in front of a negative one. -/
def ofInt : Int → List Char
  | .ofNat n => digits n
  | .negSucc n => '-' :: digits (n + 1)

/-- What a digit is worth. -/
def digitValue (c : Char) : Nat := c.toNat - '0'.toNat

/-- Reads on behind digits that have made `value`. Gives up at the first character that is no digit
or would take the number past the limit. -/
def readOn (limit : Nat) : Nat → List Char → Option Nat
  | value, [] => some value
  | value, c :: rest =>
    let next := 10 * value + digitValue c
    if c.isDigit ∧ next ≤ limit then readOn limit next rest else none

/-- The number a non-empty string of digits stands for, if it is no larger than the limit. -/
def value? (limit : Nat) (text : List Char) : Option Nat :=
  if text = [] then none else readOn limit 0 text

theorem digits_ne_nil (n : Nat) : digits n ≠ [] := Nat.toDigits_ne_nil

theorem all_isDigit_digits (n : Nat) : (digits n).all Char.isDigit = true := by
  rw [List.all_eq_true]
  intro c hc
  have hbase : (10 : Nat) ≤ 10 := Nat.le_refl 10
  exact Nat.isDigit_of_mem_toDigits (by omega) hbase hc

end RegisterLink.Decimal
