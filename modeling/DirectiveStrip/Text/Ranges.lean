/-!
# Character ranges

Unicode properties are published as lists of code point ranges, and a property is tested here by
looking a character up in such a list. The lists are short enough that a linear search is never
noticed, and the search says directly what membership means.

## Main definitions

* `inRanges`: Whether a character lies in one of the given closed ranges.
-/

namespace DirectiveStrip

/-- The code point of `c` lies in one of the closed ranges. -/
def inRanges (ranges : List (Nat × Nat)) (c : Char) : Bool :=
  ranges.any fun range => range.1 ≤ c.toNat && c.toNat ≤ range.2

/-- Membership spelled out: some range has the code point between its ends. -/
theorem inRanges_eq_true_iff (ranges : List (Nat × Nat)) (c : Char) :
    inRanges ranges c = true ↔ ∃ range ∈ ranges, range.1 ≤ c.toNat ∧ c.toNat ≤ range.2 := by
  simp [inRanges]

end DirectiveStrip
