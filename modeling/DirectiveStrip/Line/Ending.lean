import DirectiveStrip.Settings

/-!
# Where lines end

A line ending setting is described by one local question: does a terminator stand at the front of
this text, and how long is it? Everything else follows. A line is what precedes the first
terminator, together with it, or the whole text if there is none.

## Main definitions

* `LineEnding.terminatorLength`: The length of the terminator at the front of a text, or zero.
* `FirstLine`: A text cut after its first line.
* `LineEnding.cut`: Cut a text after its first line.
* `LineEnding.find?`: Where the first terminator of a text is.

## Theorems

* `LineEnding.append_cut`: Cutting loses nothing.
* `LineEnding.length_rest_cut_lt`: What follows the first line is shorter than the text.
-/

namespace DirectiveStrip

/-- A text cut after its first line. -/
structure FirstLine where
  /-- The line without its terminator. -/
  content : Text
  /-- The terminator, empty if the text ends without one. -/
  terminator : Text
  /-- What follows. -/
  rest : Text
deriving DecidableEq, Repr

namespace LineEnding

/-- How many characters at the front of the text form a terminator; zero if none do. -/
def terminatorLength : LineEnding → Text → Nat
  | lf, '\n' :: _ => 1
  | crLf, '\r' :: '\n' :: _ => 2
  | cr, '\r' :: _ => 1
  | auto, '\r' :: '\n' :: _ => 2
  | auto, '\r' :: _ => 1
  | auto, '\n' :: _ => 1
  | _, _ => 0

/-- Cut a text after its first line. -/
def cut (ending : LineEnding) : Text → FirstLine
  | [] => ⟨[], [], []⟩
  | c :: rest =>
    match ending.terminatorLength (c :: rest) with
    | 0 =>
      let first := ending.cut rest
      { first with content := c :: first.content }
    | n + 1 => ⟨[], (c :: rest).take (n + 1), (c :: rest).drop (n + 1)⟩

theorem append_cut (ending : LineEnding) (text : Text) :
    (ending.cut text).content ++ (ending.cut text).terminator ++ (ending.cut text).rest = text := by
  induction text with
  | nil => rfl
  | cons c rest ih =>
    rw [cut]
    split
    · simpa using ih
    · simp

/-- The first line of a text that has a character is not empty. -/
theorem length_rest_cut_lt (ending : LineEnding) (c : Char) (rest : Text) :
    (ending.cut (c :: rest)).rest.length < (c :: rest).length := by
  have hle (text : Text) : (ending.cut text).rest.length ≤ text.length := by
    have h := congrArg List.length (append_cut ending text)
    simp only [List.length_append] at h
    omega
  rw [cut]
  split
  · exact Nat.lt_succ_of_le (hle rest)
  · simp only [List.length_drop, List.length_cons]
    omega

/-- Byte offset and byte length of the first terminator; none if there is none. -/
def find? (ending : LineEnding) (text : Text) : Option (Nat × Nat) :=
  let first := ending.cut text
  if first.terminator.isEmpty then none
  else some (byteSize first.content, byteSize first.terminator)

end LineEnding

end DirectiveStrip
