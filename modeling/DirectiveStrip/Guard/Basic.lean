import DirectiveStrip.Text.Basic

/-!
# Guards

The condition of a branch: a boolean expression over symbols. A symbol holds if it is defined. The
operators short-circuit, so evaluating a guard asks only for the symbols that its value depends on;
`evaluate` reports which ones those were, in order.

The written form brackets every binary operator, and a negation under a negation, because the
grammar has no `!!`.

## Main definitions

* `Guard`: The expression tree.
* `Guard.evaluate`: Its value under a set of defined symbols, with the symbols asked for.
* `Guard.symbols`: All names in it, from left to right.
* `Guard.render`: Its written form.
-/

namespace DirectiveStrip

/-- A condition on which symbols are defined. -/
inductive Guard where
  | symbol (name : Text)
  | not (operand : Guard)
  | and (left right : Guard)
  | or (left right : Guard)
deriving DecidableEq, Repr

/-- The value of a guard and the names that were looked up to find it, first to last. -/
structure Evaluation where
  value : Bool
  asked : List Text
deriving DecidableEq, Repr

namespace Guard

/-- Evaluate against the defined symbols. The right operand counts, and its symbols are asked for,
    only when the left one does not decide the value. -/
def evaluate (defined : Text → Bool) : Guard → Evaluation
  | symbol name => ⟨defined name, [name]⟩
  | not operand =>
    let e := operand.evaluate defined
    ⟨!e.value, e.asked⟩
  | and left right =>
    let l := left.evaluate defined
    if l.value then
      let r := right.evaluate defined
      ⟨r.value, l.asked ++ r.asked⟩
    else ⟨false, l.asked⟩
  | or left right =>
    let l := left.evaluate defined
    if l.value then ⟨true, l.asked⟩
    else
      let r := right.evaluate defined
      ⟨r.value, l.asked ++ r.asked⟩

/-- The value of a guard. -/
def holds (defined : Text → Bool) (guard : Guard) : Bool :=
  (guard.evaluate defined).value

/-- The names in a guard from left to right, as often as they occur. -/
def symbols : Guard → List Text
  | symbol name => [name]
  | not operand => operand.symbols
  | and left right | or left right => left.symbols ++ right.symbols

/-- Whether the guard is a negation at the top. -/
def isNegation : Guard → Bool
  | not _ => true
  | symbol _ | and _ _ | or _ _ => false

/-- The fully bracketed written form. -/
def render : Guard → Text
  | symbol name => name
  | not operand =>
    if operand.isNegation then ['!', '('] ++ operand.render ++ [')'] else '!' :: operand.render
  | and left right => '(' :: left.render ++ [' ', '&', '&', ' '] ++ right.render ++ [')']
  | or left right => '(' :: left.render ++ [' ', '|', '|', ' '] ++ right.render ++ [')']

/-- The order of evaluation does not show in the value: it is the boolean function of the tree. -/
theorem holds_and (defined : Text → Bool) (left right : Guard) :
    (and left right).holds defined = (left.holds defined && right.holds defined) := by
  simp only [holds, evaluate]
  cases (left.evaluate defined).value <;> simp

theorem holds_or (defined : Text → Bool) (left right : Guard) :
    (or left right).holds defined = (left.holds defined || right.holds defined) := by
  simp only [holds, evaluate]
  cases (left.evaluate defined).value <;> simp

end Guard

end DirectiveStrip
