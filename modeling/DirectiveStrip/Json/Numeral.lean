import DirectiveStrip.Text.Digits

/-!
# Numbers in JSON

A number keeps the digits it is written with. A setting reads it as a count, which is exact or
nothing. A settings file also takes in numbers that no setting reads, as double precision numbers,
and refuses those that are too large.

That reading is a quick one. The leading digits are gathered into a word of 64 bits for as long as
they fit, the digits that are left over count as places only, and the word is then scaled by a power
of ten. Word and power are rounded to double precision before they are multiplied, so the product
can be off by a little. At the end of the range this shows: a number that lies just below the
largest finite one may be refused, and one that lies just above may pass.

## Main definitions

* `gatherDigits`: The number that digits extend as long as it fits into a word.
* `roundToDouble`: A natural number at double precision.
* `Numeral`: A number as it is written.
* `Numeral.nat?`: The natural number that a numeral denotes without sign, fraction and exponent.
* `Numeral.scaled`: A numeral as a word and a power of ten.
* `Numeral.isFinite`: Whether that is a finite double precision number.

## Theorems

* `gatherDigits_le`: What is gathered fits into a word.
* `roundToDouble_eq_self`: Numbers of up to 53 bits are exact at double precision.
-/

namespace DirectiveStrip

/-- The number that digits make of `n` when they are written behind it, up to the first that no
    longer fits into a word, and the digits from there on. -/
def gatherDigits (n : Nat) : Text → Nat × Text
  | [] => (n, [])
  | c :: rest =>
    let extended := n * 10 + (digitValue? c).getD 0
    if extended ≤ largestWord then gatherDigits extended rest else (n, c :: rest)

theorem gatherDigits_le {n : Nat} (h : n ≤ largestWord) (digits : Text) :
    (gatherDigits n digits).1 ≤ largestWord := by
  induction digits generalizing n with
  | nil => exact h
  | cons c rest ih =>
    rw [gatherDigits]
    split
    · next hfits => exact ih hfits
    · exact h

/-- The nearest number with at most 53 significant bits; of two that are equally near, the one whose
    last bit is zero. -/
def roundToDouble (n : Nat) : Nat :=
  let unit := Nat.pow 2 (n.log2 + 1 - 53)
  let quotient := n / unit
  let excess := n % unit
  if unit < 2 * excess ∨ (unit = 2 * excess ∧ quotient % 2 = 1) then (quotient + 1) * unit
  else quotient * unit

theorem roundToDouble_eq_self {n : Nat} (h : n.log2 < 53) : roundToDouble n = n := by
  have hunit : n.log2 + 1 - 53 = 0 := by omega
  have hpow : Nat.pow 2 0 = 1 := rfl
  simp only [roundToDouble, hunit, hpow, Nat.div_one, Nat.mod_one, Nat.mul_one]
  rw [if_neg (by omega)]

/-- A number as it is written. -/
structure Numeral where
  negative : Bool
  /-- The digits before the point. -/
  whole : Text
  /-- The digits after the point, empty if there is no point. -/
  fraction : Text
  /-- The power of ten, if one is given. -/
  exponent? : Option Int
deriving DecidableEq, Repr

namespace Numeral

/-- The natural number, for a numeral of nothing but digits. -/
def nat? (numeral : Numeral) : Option Nat :=
  if numeral.negative || !numeral.fraction.isEmpty || numeral.exponent?.isSome then none
  else some (natOfDigits 10 numeral.whole)

/-- The magnitude as a word and a power of ten. Digits of the whole part that do not fit into the
    word raise the power, digits of the fraction that do fit lower it, and the other digits of the
    fraction do not count. -/
def scaled (numeral : Numeral) : Nat × Int :=
  let (start, omitted) := gatherDigits 0 numeral.whole
  let (word, ignored) := gatherDigits start numeral.fraction
  let places := numeral.fraction.length - ignored.length
  (word, numeral.exponent?.getD 0 + omitted.length - places)

/-- The least product that is no finite double precision number: halfway between the largest finite
    one and the next power of two. -/
def overflowThreshold : Nat :=
  Nat.pow 2 1024 - Nat.pow 2 970

/-- Whether the magnitude, scaled at double precision, is finite. Dividing by a power of ten always
    leaves it so, and powers above 308 are out of range themselves. -/
def isFinite (numeral : Numeral) : Bool :=
  let (word, power) := numeral.scaled
  word = 0 || power < 0
    || (power ≤ 308
      && roundToDouble word * roundToDouble (Nat.pow 10 power.toNat) < overflowThreshold)

end Numeral

end DirectiveStrip
