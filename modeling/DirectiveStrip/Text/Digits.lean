import DirectiveStrip.Text.Basic

/-!
# Numbers in text

Numbers written in digits of a base up to sixteen. Only the ASCII digits count here, unlike in
symbol names, where digits of every script do.

## Main definitions

* `digitValue?`: The value of a digit.
* `isDigit`: A decimal digit.
* `natOfDigits`: The number that digits spell.
* `largestWord`: The largest number of 64 bits.

## Theorems

* `natOfDigits_concat`: One more digit multiplies by the base and adds its value.
-/

namespace DirectiveStrip

/-- The value of a digit of a base up to sixteen. -/
def digitValue? (c : Char) : Option Nat :=
  if '0' ≤ c ∧ c ≤ '9' then some (c.toNat - '0'.toNat)
  else if 'a' ≤ c ∧ c ≤ 'f' then some (c.toNat - 'a'.toNat + 10)
  else if 'A' ≤ c ∧ c ≤ 'F' then some (c.toNat - 'A'.toNat + 10)
  else none

/-- A decimal digit. -/
def isDigit (c : Char) : Bool :=
  '0' ≤ c && c ≤ '9'

/-- The number that digits of a base spell. Anything that is no digit counts as zero. -/
def natOfDigits (base : Nat) (digits : Text) : Nat :=
  digits.foldl (fun n c => n * base + (digitValue? c).getD 0) 0

/-- The largest number of 64 bits. -/
def largestWord : Nat := 18446744073709551615

theorem natOfDigits_concat (base : Nat) (digits : Text) (c : Char) :
    natOfDigits base (digits ++ [c]) = natOfDigits base digits * base + (digitValue? c).getD 0 := by
  simp [natOfDigits]

end DirectiveStrip
