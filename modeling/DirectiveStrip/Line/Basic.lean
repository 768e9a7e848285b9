import DirectiveStrip.Line.Ending

/-!
# Lines

A source text falls into lines, and every line knows its number and its byte offset in the whole
source. Both are kept because a stretch from the middle of a source can be split by itself and
still has to report positions in the whole.

## Main definitions

* `Line`: One line of a source, terminator included.
* `splitLines`: The lines of a stretch of text that begins at a given line number and offset.
-/

namespace DirectiveStrip

/-- One line of a source text. -/
structure Line where
  /-- Line number in the whole source, from one. -/
  number : Nat
  /-- Byte offset in the whole source. -/
  start : Nat
  /-- The line without its terminator. -/
  content : Text
  /-- The terminator, empty for a last line without one. -/
  terminator : Text
deriving DecidableEq, Repr

namespace Line

/-- The full line, terminator included. -/
def text (line : Line) : Text :=
  line.content ++ line.terminator

/-- Byte offset just past the line. -/
def stop (line : Line) : Nat :=
  line.start + byteSize line.text

end Line

/-- The lines of a text whose first line has number `number` and begins at offset `start`. -/
def splitLines (ending : LineEnding) (number start : Nat) (text : Text) : List Line :=
  match text with
  | [] => []
  | c :: rest =>
    let first := ending.cut (c :: rest)
    let line : Line := ⟨number, start, first.content, first.terminator⟩
    line :: splitLines ending (number + 1) line.stop first.rest
termination_by text.length
decreasing_by exact ending.length_rest_cut_lt c rest

end DirectiveStrip
