import DirectiveStrip.Resolve.Strip
import Mathlib.Algebra.Ring.Int.Defs

/-!
# Chains on the Flat List of Lines

What it means for a line to be kept, said without stripping anything.

The lines of a source are taken as they come, and a chain is found in them by
counting: an `#if` counts one up, an `#endif` one down, and a chain lasts from
its `#if` until the count is back where it was. No branch is collected and no
list is cut, so every notion here is one of positions in the whole list. A line
is live if every chain around it has selected the branch that the line is in.

Chains that are discarded are not asked to be in order. Their branches are told
apart in the same way, an `#elif` behind an `#else` included, and nothing in
them is live whatever they select.

All of it is decidable, so that it can be run beside the program.

## Main definitions

* `openCount`: How many chains are open in front of a line.
* `Encloses`: The chain opened at one position has the other inside.
* `IsHead`: The directives at which the branches of a chain begin.
* `IsFirstHead`: The first of these directives of a sort.
* `Selected`: The head of the branch that a chain keeps.
* `InSelected`: A position lies in the branch that a chain keeps.
* `IsLive`: Every chain around a position keeps the branch it lies in.
* `liveLines`: The live lines that are not directives.
* `enclosing`: How many chains there are around a position.
* `Balanced`: All lines can be read and the directives pair up.
* `ChainFits`: A chain is in order and not too deep.
* `ChainsFit`: All live chains are.
-/

namespace DirectiveStrip

/-! ### Lines by what they say -/

namespace ScannedLine

/-- What a line adds to the number of open chains. -/
def weight (scanned : ScannedLine) : Int :=
  match scanned.reading with
  | .ok (.ifLine _) => 1
  | .ok (.endifLine _) => -1
  | _ => 0

/-- An `#if`. -/
def opens (scanned : ScannedLine) : Bool :=
  match scanned.reading with
  | .ok (.ifLine _) => true
  | _ => false

/-- An `#endif`. -/
def closes (scanned : ScannedLine) : Bool :=
  match scanned.reading with
  | .ok (.endifLine _) => true
  | _ => false

/-- An `#elif` or an `#else`. -/
def separates (scanned : ScannedLine) : Bool :=
  match scanned.reading with
  | .ok (.elifLine _) | .ok (.elseLine _) => true
  | _ => false

/-- An `#else`. -/
def isElse (scanned : ScannedLine) : Bool :=
  match scanned.reading with
  | .ok (.elseLine _) => true
  | _ => false

/-- Not a conditional directive. -/
def isSource (scanned : ScannedLine) : Bool :=
  match scanned.reading with
  | .ok .source => true
  | _ => false

/-- An `#if` or an `#elif` whose guard holds. -/
def holds (defined : Text → Bool) (scanned : ScannedLine) : Bool :=
  match scanned.reading with
  | .ok (.ifLine guard) | .ok (.elifLine guard) => guard.holds defined
  | _ => false

end ScannedLine

/-! ### Chains by counting -/

/-- The number of chains that are open in front of a position: one up for every
    `#if` and one down for every `#endif` before it. -/
def openCount (lines : List ScannedLine) (i : Nat) : Int :=
  ((lines.take i).map ScannedLine.weight).sum

/-- The chain that the `#if` at `first` opens has position `i` inside. From the
    `#if` on, the line at `i` included, the count has not come back to what it was
    in front of the `#if`. It does so behind the `#endif` that ends the chain. -/
structure Encloses (lines : List ScannedLine) (first i : Nat) : Prop where
  opens : lines[first]?.any ScannedLine.opens
  before : first < i
  above : ∀ j < i + 2, first < j → openCount lines first < openCount lines j

/-- The branches of a chain begin at its `#if` and at every `#elif` and `#else`
    that it has inside and no inner chain has. -/
def IsHead (lines : List ScannedLine) (first i : Nat) : Prop :=
  i = first ∨
    (Encloses lines first i ∧ lines[i]?.any ScannedLine.separates ∧
      openCount lines i = openCount lines first + 1)

/-- The first head of a chain that is of a sort. -/
def IsFirstHead (sort : ScannedLine → Bool) (lines : List ScannedLine) (first head : Nat) :
    Prop :=
  IsHead lines first head ∧ lines[head]?.any sort ∧
    ∀ other < head, IsHead lines first other → ¬ lines[other]?.any sort

section Selection

variable (defined : Text → Bool) (lines : List ScannedLine)

/-- A chain keeps its first branch whose guard holds. If there is none, it keeps the
    branch of its `#else`. -/
def Selected (first head : Nat) : Prop :=
  IsFirstHead (·.holds defined) lines first head ∨
    (IsFirstHead ScannedLine.isElse lines first head ∧
      ∀ other < lines.length, ¬ IsFirstHead (·.holds defined) lines first other)

/-- A position lies in the branch that the chain keeps: behind its head, and no
    other branch begins in between. -/
def InSelected (first i : Nat) : Prop :=
  ∃ head < i, Selected defined lines first head ∧
    ∀ other < i + 1, IsHead lines first other → other ≤ head

/-- Every chain around a position keeps the branch that the position lies in. -/
def IsLive (i : Nat) : Prop :=
  ∀ first < i, Encloses lines first i → InSelected defined lines first i

end Selection

instance (lines : List ScannedLine) (first i : Nat) : Decidable (Encloses lines first i) :=
  decidable_of_iff
    (lines[first]?.any ScannedLine.opens ∧ first < i ∧
      ∀ j < i + 2, first < j → openCount lines first < openCount lines j)
    ⟨fun h => ⟨h.1, h.2.1, h.2.2⟩, fun h => ⟨h.opens, h.before, h.above⟩⟩

instance (lines : List ScannedLine) (first i : Nat) : Decidable (IsHead lines first i) :=
  inferInstanceAs (Decidable (_ ∨ _))

instance (sort : ScannedLine → Bool) (lines : List ScannedLine) (first head : Nat) :
    Decidable (IsFirstHead sort lines first head) :=
  inferInstanceAs (Decidable (_ ∧ _))

instance (defined : Text → Bool) (lines : List ScannedLine) (first head : Nat) :
    Decidable (Selected defined lines first head) :=
  inferInstanceAs (Decidable (_ ∨ _))

instance (defined : Text → Bool) (lines : List ScannedLine) (first i : Nat) :
    Decidable (InSelected defined lines first i) :=
  inferInstanceAs (Decidable (∃ head < i, _))

instance (defined : Text → Bool) (lines : List ScannedLine) (i : Nat) :
    Decidable (IsLive defined lines i) :=
  inferInstanceAs (Decidable (∀ first < i, _))

/-! ### What is kept, and what is accepted -/

/-- The lines of a part that begins at position `start`, as far as they are live in
    the whole and no directives. -/
def liveIn (defined : Text → Bool) (whole : List ScannedLine) (start : Nat)
    (part : List ScannedLine) : List ScannedLine :=
  ((part.zipIdx start).filter fun line => line.1.isSource && IsLive defined whole line.2).map
    Prod.fst

/-- The live lines that are no directives, in order. -/
def liveLines (defined : Text → Bool) (lines : List ScannedLine) : List ScannedLine :=
  liveIn defined lines 0 lines

/-- The number of chains around a position. -/
def enclosing (lines : List ScannedLine) (i : Nat) : Nat :=
  (List.range i).countP fun first => decide (Encloses lines first i)

/-- All lines can be read, live or not, and the directives pair up: the count never
    goes below zero and ends there, and every `#elif` and `#else` is in some chain. -/
structure Balanced (lines : List ScannedLine) : Prop where
  readable : ∀ scanned ∈ lines, scanned.reading.isOk
  nonneg : ∀ i ≤ lines.length, 0 ≤ openCount lines i
  closed : openCount lines lines.length = 0
  inside : ∀ i, lines[i]?.any ScannedLine.separates → openCount lines i ≠ 0

/-- What is asked of the chain opened at `first`, among lines that lie inside `depth`
    chains already: no branch begins behind its `#else`, and at most `limit` chains
    are around it. -/
structure ChainFits (limit depth : Nat) (lines : List ScannedLine) (first : Nat) : Prop where
  ordered : ∀ head, IsHead lines first head → lines[head]?.any ScannedLine.isElse →
    ∀ other, IsHead lines first other → other ≤ head
  shallow : depth + enclosing lines first ≤ limit

/-- The live chains are in order and not too deep. -/
def ChainsFit (defined : Text → Bool) (limit depth : Nat) (lines : List ScannedLine) : Prop :=
  ∀ first, lines[first]?.any ScannedLine.opens → IsLive defined lines first →
    ChainFits limit depth lines first

end DirectiveStrip
