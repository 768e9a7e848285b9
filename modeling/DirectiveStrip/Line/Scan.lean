import DirectiveStrip.Line.Error

/-!
# Reading lines

A line is a directive if its first visible character is `#`; the keyword is the name that follows,
with or without blanks before it. The guards of `#if` and `#elif` are parsed here, whether or not
anything will ever ask for their value, so a malformed guard is a fault of its line.

What a line says depends on its content alone. Numbers and offsets only enter when a fault is
reported, and that is why a stretch of a source can be read by itself.

## Main definitions

* `LineKind`: What a line says.
* `directive?`: The keyword of a directive line and the text after it.
* `LineKind.ofContent`: What a line of this content says, or what is wrong with it.
* `ScannedLine`: A line together with its reading.
* `scan`: All lines of a source.
* `SpanScan`, `scanSpan`: The lines between two offsets of a source.
-/

namespace DirectiveStrip

/-- What a line says. -/
inductive LineKind where
  /-- Anything that is not a conditional directive. -/
  | source
  /-- `#if` with its guard. -/
  | ifLine (guard : Guard)
  /-- `#elif` with its guard. -/
  | elifLine (guard : Guard)
  /-- `#else`, with the text after it that is ignored. -/
  | elseLine (ignored : Text)
  /-- `#endif`, with the text after it that is ignored. -/
  | endifLine (ignored : Text)
deriving DecidableEq, Repr

/-- The keyword of a directive line and what follows it; none for any other line. The keyword is
    empty if no name follows the `#`. -/
def directive? (content : Text) : Option (Text × Text) :=
  match trimStart content with
  | '#' :: rest =>
    let directive := trimStart rest
    some (directive.takeWhile isSymbolContinue, directive.dropWhile isSymbolContinue)
  | _ => none

/-- The guard after `#if` or `#elif`. The text is parsed as it stands, blanks included, because
    faults are counted from its first character. -/
def readGuard (settings : Settings) (text : Text) : Except DirectiveFault Guard :=
  if isBlank text then .error .missingExpression
  else
    match Guard.parse settings.nestingLimit text with
    | .ok guard => .ok guard
    | .error error => .error (.invalidExpression error)

/-- The visible text after `#else` or `#endif`, if such text is tolerated. -/
def readTrailing (settings : Settings) (text : Text) : Except DirectiveFault Text :=
  match settings.trailingText with
  | .ignore => .ok (trim text)
  | .reject => if isBlank text then .ok [] else .error .trailingText

/-- What a line of this content says, or what is wrong with it. -/
def LineKind.ofContent (settings : Settings) (content : Text) : Except DirectiveFault LineKind :=
  match directive? content with
  | none => .ok .source
  | some (keyword, text) =>
    if keyword = ['i', 'f'] then (readGuard settings text).map .ifLine
    else if keyword = ['e', 'l', 'i', 'f'] then (readGuard settings text).map .elifLine
    else if keyword = ['e', 'l', 's', 'e'] then (readTrailing settings text).map .elseLine
    else if keyword = ['e', 'n', 'd', 'i', 'f'] then (readTrailing settings text).map .endifLine
    else
      match settings.unknownDirectives with
      | .reject => .error .unknownDirective
      | .passThrough => .ok .source

/-- A line together with what it says or what is wrong with it. -/
structure ScannedLine where
  line : Line
  reading : Except DirectiveFault LineKind
deriving Repr

/-- Read one line. -/
def Line.scan (settings : Settings) (line : Line) : ScannedLine :=
  ⟨line, LineKind.ofContent settings line.content⟩

/-- The lines of a text whose first line has number `number` and begins at offset `start`. -/
def scanFrom (settings : Settings) (number start : Nat) (text : Text) : List ScannedLine :=
  (splitLines settings.lineEnding number start text).map (Line.scan settings)

/-- All lines of a source. -/
def scan (settings : Settings) (source : Text) : List ScannedLine :=
  scanFrom settings 1 0 source

/-- The reading of a stretch of a source. -/
structure SpanScan where
  /-- Byte offset where the stretch begins. -/
  start : Nat
  /-- The number of its first line. -/
  firstLine : Nat
  /-- Its lines; none if its ends do not lie between characters of the source. -/
  lines? : Option (List ScannedLine)

namespace SpanScan

/-- The last line that was read. -/
def last? (span : SpanScan) : Option ScannedLine :=
  span.lines?.bind List.getLast?

/-- The byte offset that reading has come to. -/
def position (span : SpanScan) : Nat :=
  match span.last? with
  | some last => last.line.stop
  | none => span.start

/-- The number of the last line that was read, or one less than the first. -/
def lineNumber (span : SpanScan) : Nat :=
  match span.last? with
  | some last => last.line.number
  | none => span.firstLine - 1

end SpanScan

/-- Read the lines from offset `start` up to offset `stop`, numbering them from `firstLine`. A
    stretch that ends where it begins, or before, has no lines wherever it lies. Numbers begin at
    one, so a first line zero means the same. -/
def scanSpan (settings : Settings) (source : Text) (start stop firstLine : Nat) : SpanScan :=
  let number := firstLine - 1 + 1
  { start, firstLine := number
    lines? :=
      if stop ≤ start then some []
      else (slice? source start stop).map (scanFrom settings number start) }

end DirectiveStrip
