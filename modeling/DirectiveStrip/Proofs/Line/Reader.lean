import DirectiveStrip.Proofs.Guard.Parsing
import DirectiveStrip.Proofs.Line.Span

/-!
# Reading Line by Line

The lines of a stretch are given all at once. A reader that goes from line to line gets
them one call at a time: it keeps a position and a number, looks at the text from there to
the end of the stretch, and cuts off one line. It also keeps the buffer of a parser, which
every guard is read into, and goes on behind a line that is wrong as behind any other.

Both give the same lines. What a reader has in front of it is the text of the lines that
are left, and a call takes the first of them away. What the buffer held before makes no
difference to a guard, so two readers at one place give the same lines, whatever they have
read until then.

That is why a stretch between two places that a reader has come to can be read again. The
lines in between are left to a reader that begins at the first place and ends at the
second, and it has nothing else in front of it.

## Main definitions

* `TokenBuffer.readContent`: What a line says, with its guard read into a buffer.
* `LineReader`: A position, a number and a buffer.
* `LineReader.next?`: One call.
* `LineReader.Reads`: Some calls in a row, each of which gives a line.
* `LineReader.Faces`: The lines that a reader has in front of it.

## Theorems

* `TokenBuffer.readContent_snd`: What the buffer held before makes no difference.
* `LineReader.Faces.next?_cons`, `LineReader.Faces.next?_nil`: One call, by the lines in
  front.
* `LineReader.Faces.exists_reads`, `LineReader.Faces.split`: Calls in a row give these lines
  and no others.
* `lines?_scanSpan`, `LineReader.faces_ofStart`: The lines of a stretch are those in front of
  a reader at its beginning.
* `LineReader.next?_ofStart_eq_none_iff`: No lines are given for a stretch whose ends are
  inside of characters, all at once or one by one.
* `reads_again`: Reading between two places that a reader has come to.
-/

namespace DirectiveStrip

/-! ### Guards read into a buffer -/

namespace TokenBuffer

/-- The guard after `#if` or `#elif`, read into a buffer, and the buffer afterwards. -/
def readGuard (settings : Settings) (buffer : TokenBuffer) (text : Text) :
    TokenBuffer × Except DirectiveFault Guard :=
  if isBlank text then (buffer, .error .missingExpression)
  else
    match buffer.parse settings.nestingLimit text with
    | (filled, .ok guard) => (filled, .ok guard)
    | (filled, .error error) => (filled, .error (.invalidExpression error))

/-- What a line of this content says, or what is wrong with it, and the buffer afterwards.
    Only a guard changes the buffer. -/
def readContent (settings : Settings) (buffer : TokenBuffer) (content : Text) :
    TokenBuffer × Except DirectiveFault LineKind :=
  match directive? content with
  | none => (buffer, .ok .source)
  | some (keyword, text) =>
    if keyword = ['i', 'f'] then
      ((buffer.readGuard settings text).1, (buffer.readGuard settings text).2.map .ifLine)
    else if keyword = ['e', 'l', 'i', 'f'] then
      ((buffer.readGuard settings text).1, (buffer.readGuard settings text).2.map .elifLine)
    else (buffer, LineKind.ofContent settings content)

variable (settings : Settings) (buffer : TokenBuffer)

/-- A buffer is reset before a guard is parsed into it, so it does not matter which it is. -/
theorem parse_snd (limit : Nat) (expression : Text) :
    (buffer.parse limit expression).2 = Guard.parse limit expression := rfl

theorem readGuard_snd (text : Text) :
    (buffer.readGuard settings text).2 = DirectiveStrip.readGuard settings text := by
  unfold readGuard DirectiveStrip.readGuard
  rw [← buffer.parse_snd]
  by_cases hblank : isBlank text
  · rw [if_pos hblank, if_pos hblank]
  · rw [if_neg hblank, if_neg hblank]
    rcases buffer.parse settings.nestingLimit text with ⟨filled, error | guard⟩ <;> rfl

/-- What a line says does not depend on what the buffer held before. -/
theorem readContent_snd (content : Text) :
    (buffer.readContent settings content).2 = LineKind.ofContent settings content := by
  unfold readContent
  rcases hdirective : directive? content with _ | ⟨keyword, text⟩
  · simp only [LineKind.ofContent, hdirective]
  · dsimp only
    by_cases hif : keyword = ['i', 'f']
    · simp only [LineKind.ofContent, hdirective, if_pos hif, buffer.readGuard_snd settings]
    · by_cases helif : keyword = ['e', 'l', 'i', 'f']
      · simp only [LineKind.ofContent, hdirective, if_neg hif, if_pos helif,
          buffer.readGuard_snd settings]
      · rw [if_neg hif, if_neg helif]

end TokenBuffer

/-! ### The first of some lines -/

deriving instance DecidableEq for ScannedLine

/-- The first line of a text is cut off at its front, and the other lines are those of what
    is left. -/
theorem cut_of_scanFrom (settings : Settings) (number start : Nat) (text : Text)
    (scanned : ScannedLine) (rest : List ScannedLine)
    (h : scanFrom settings number start text = scanned :: rest) :
    text ≠ [] ∧
      scanned = Line.scan settings ⟨number, start, (settings.lineEnding.cut text).content,
        (settings.lineEnding.cut text).terminator⟩ ∧
      (settings.lineEnding.cut text).rest = scannedText rest ∧
      scanFrom settings (number + 1) scanned.line.stop (scannedText rest) = rest := by
  rcases List.map_eq_cons_iff.mp h with ⟨line, lines, hsplit, rfl, hlines⟩
  rcases splitLines_eq_cons _ _ _ _ line lines hsplit with ⟨hne, -, hline, hrest⟩
  have hleft : (settings.lineEnding.cut text).rest = scannedText rest := by
    rw [← lineText_of_splitLines _ _ _ _ lines hrest, ← hlines, scannedText, List.map_map]
    exact congrArg lineText (List.map_id lines).symm
  refine ⟨hne, by rw [← hline], hleft, ?_⟩
  rw [hleft] at hrest
  rw [scanFrom, Line.scan, hrest]
  exact hlines

/-! ### Calls -/

/-- Where reading has come to, and the buffer that guards are read into. -/
structure LineReader where
  /-- Byte offset of the next line. -/
  position : Nat
  /-- The number of the line before it. -/
  lineNumber : Nat
  buffer : TokenBuffer
deriving DecidableEq

namespace LineReader

/-- A reader at the beginning of a stretch whose first line has this number. -/
def ofStart (start firstLine : Nat) (buffer : TokenBuffer) : LineReader :=
  ⟨start, firstLine - 1, buffer⟩

/-- Read one line of a stretch that ends at `stop`: the line, unless nothing is left, and
    the reader behind it. There is no answer if the position or the end of the stretch does
    not lie between characters of the source. -/
def next? (settings : Settings) (source : Text) (stop : Nat) (reader : LineReader) :
    Option (Option ScannedLine × LineReader) :=
  if stop ≤ reader.position then some (none, reader)
  else
    (slice? source reader.position stop).map fun text =>
      let first := settings.lineEnding.cut text
      let line : Line := ⟨reader.lineNumber + 1, reader.position, first.content, first.terminator⟩
      let read := reader.buffer.readContent settings line.content
      (some ⟨line, read.2⟩, ⟨line.stop, line.number, read.1⟩)

/-- As many calls as there are lines give these lines, wrong ones included. -/
inductive Reads (settings : Settings) (source : Text) (stop : Nat) :
    LineReader → List ScannedLine → LineReader → Prop where
  | nothing (reader : LineReader) : Reads settings source stop reader [] reader
  | line {reader after last : LineReader} {scanned : ScannedLine} {rest : List ScannedLine}
      (call : reader.next? settings source stop = some (some scanned, after)) :
      Reads settings source stop after rest last →
        Reads settings source stop reader (scanned :: rest) last

variable {settings : Settings} {source : Text} {stop : Nat}

theorem Reads.append {reader middle last : LineReader} {lines more : List ScannedLine}
    (h : Reads settings source stop reader lines middle)
    (hmore : Reads settings source stop middle more last) :
    Reads settings source stop reader (lines ++ more) last := by
  induction h with
  | nothing reader => exact hmore
  | line call _ ih => exact .line call (ih hmore)

/-! ### The lines in front -/

/-- The lines from the position of the reader to the end of the stretch. -/
structure Faces (settings : Settings) (source : Text) (stop : Nat) (reader : LineReader)
    (lines : List ScannedLine) : Prop where
  place : ∃ before behind, source = before ++ (scannedText lines ++ behind) ∧
    reader.position = byteSize before
  reaches : stop = reader.position + byteSize (scannedText lines)
  scans : scanFrom settings (reader.lineNumber + 1) reader.position (scannedText lines) = lines

namespace Faces

variable {reader : LineReader}

/-- The lines in front are the source from the position to the end of the stretch. -/
theorem slice {lines : List ScannedLine} (h : Faces settings source stop reader lines) :
    slice? source reader.position stop = some (scannedText lines) := by
  rcases h with ⟨⟨before, behind, hsource, hposition⟩, hreaches, -⟩
  rw [hreaches, hsource, hposition]
  exact slice?_append _ _ _

/-- What a call cuts off is the first line of the text in front. -/
theorem next?_eq {lines : List ScannedLine} (h : Faces settings source stop reader lines) :
    reader.next? settings source stop =
      if scannedText lines = [] then some (none, reader)
      else
        let first := settings.lineEnding.cut (scannedText lines)
        let scanned := Line.scan settings
          ⟨reader.lineNumber + 1, reader.position, first.content, first.terminator⟩
        some (some scanned, ⟨scanned.line.stop, scanned.line.number,
          (reader.buffer.readContent settings scanned.line.content).1⟩) := by
  have hslice := h.slice
  have hreaches := h.reaches
  generalize scannedText lines = text at hslice hreaches ⊢
  rw [next?]
  by_cases hempty : text = []
  · rw [hempty, byteSize_nil] at hreaches
    rw [if_pos (by omega), if_pos hempty]
  · have hpos : byteSize text ≠ 0 := fun hzero => hempty (eq_nil_of_byteSize text hzero)
    rw [if_neg (by omega), hslice, Option.map_some, if_neg hempty]
    dsimp only
    rw [TokenBuffer.readContent_snd]
    rfl

theorem next?_nil (h : Faces settings source stop reader []) :
    reader.next? settings source stop = some (none, reader) := by
  rw [h.next?_eq, if_pos scannedText_nil]

/-- The first line in front is the next one, and begins at the position. -/
theorem line_head {scanned : ScannedLine} {rest : List ScannedLine}
    (h : Faces settings source stop reader (scanned :: rest)) :
    scanned.line.number = reader.lineNumber + 1 ∧ scanned.line.start = reader.position := by
  rcases cut_of_scanFrom settings _ _ _ scanned rest h.scans with ⟨-, hscanned, -⟩
  rw [hscanned]
  exact ⟨rfl, rfl⟩

/-- A call takes the first of the lines in front away. -/
theorem next?_cons {scanned : ScannedLine} {rest : List ScannedLine}
    (h : Faces settings source stop reader (scanned :: rest)) :
    ∃ after, reader.next? settings source stop = some (some scanned, after) ∧
      after.position = scanned.line.stop ∧ after.lineNumber = scanned.line.number ∧
      Faces settings source stop after rest := by
  rcases cut_of_scanFrom settings _ _ _ scanned rest h.scans with ⟨hne, hscanned, hrest, hlater⟩
  have hcall := h.next?_eq
  rw [if_neg hne] at hcall
  dsimp only at hcall
  rw [← hscanned] at hcall
  rcases h.line_head with ⟨hnumber, hstart⟩
  rcases h with ⟨⟨before, behind, hsource, hposition⟩, hreaches, -⟩
  refine ⟨_, hcall, rfl, rfl, ?_, ?_, ?_⟩
  · -- The line that was read is behind the reader now.
    refine ⟨before ++ scanned.line.text, behind, ?_, ?_⟩
    · rw [hsource, scannedText_cons, List.append_assoc, List.append_assoc]
    · rw [byteSize_append, ← hposition, ← hstart]
      rfl
  · rw [scannedText_cons, byteSize_append] at hreaches
    rw [Line.stop, hstart, hreaches, Nat.add_assoc]
  · dsimp only
    rw [hnumber]
    exact hlater

/-- One call after another gives the lines in front. -/
theorem exists_reads {lines more : List ScannedLine}
    (h : Faces settings source stop reader (lines ++ more)) :
    ∃ last, Reads settings source stop reader lines last ∧
      Faces settings source stop last more := by
  induction lines generalizing reader with
  | nil => exact ⟨reader, .nothing reader, h⟩
  | cons scanned lines ih =>
      rcases h.next?_cons with ⟨after, hcall, -, -, hafter⟩
      rcases ih hafter with ⟨last, hreads, hlast⟩
      exact ⟨last, .line hcall hreads, hlast⟩

/-- Calls until nothing is left give all lines in front. -/
theorem exists_reads_all {lines : List ScannedLine}
    (h : Faces settings source stop reader lines) :
    ∃ last, Reads settings source stop reader lines last ∧ Faces settings source stop last [] := by
  refine exists_reads ?_
  rw [List.append_nil]
  exact h

/-- Before some of these lines the stretch could end, and another parser could be used. The
    lines before that would be in front all the same. -/
theorem upTo {lines more : List ScannedLine} (h : Faces settings source stop reader (lines ++ more))
    (buffer : TokenBuffer) :
    Faces settings source (reader.position + byteSize (scannedText lines)) { reader with buffer }
      lines := by
  rcases h with ⟨⟨before, behind, hsource, hposition⟩, -, hscans⟩
  refine ⟨⟨before, scannedText more ++ behind, ?_, hposition⟩, rfl, ?_⟩
  · rw [hsource, scannedText_append, List.append_assoc]
  · exact (scanFrom_part settings _ _ _ [] lines more hscans).1

/-- Calls give nothing but the lines in front, and leave the reader where these lines end. -/
theorem split {lines given : List ScannedLine} {last : LineReader}
    (h : Faces settings source stop reader lines)
    (hreads : Reads settings source stop reader given last) :
    ∃ more, lines = given ++ more ∧ Faces settings source stop last more ∧
      last.position = reader.position + byteSize (scannedText given) ∧
      last.lineNumber = reader.lineNumber + given.length := by
  induction hreads generalizing lines with
  | nothing reader => exact ⟨lines, rfl, h, rfl, rfl⟩
  | @line reader after last scanned given call _ ih =>
      rcases lines with _ | ⟨first, lines⟩
      · rw [h.next?_nil] at call
        cases call
      · rcases h.next?_cons with ⟨after', hcall, hposition, hnumber, hafter⟩
        rw [hcall, Option.some.injEq, Prod.mk.injEq, Option.some.injEq] at call
        rcases call with ⟨rfl, rfl⟩
        rcases ih hafter with ⟨more, rfl, hlast, hlastPosition, hlastNumber⟩
        rcases h.line_head with ⟨hfirst, hstart⟩
        refine ⟨more, rfl, hlast, ?_, ?_⟩
        · rw [hlastPosition, hposition, Line.stop, hstart, scannedText_cons, byteSize_append,
            Nat.add_assoc]
        · rw [hlastNumber, hnumber, hfirst, List.length_cons]
          omega

end Faces

end LineReader

/-! ### Stretches of a source -/

section Stretch

variable (settings : Settings) (source : Text) (start stop firstLine : Nat) (buffer : TokenBuffer)
  (part : Text) (hpart : slice? source start stop = some part)

include hpart

theorem lines?_scanSpan :
    (scanSpan settings source start stop firstLine).lines? =
      some (scanFrom settings (firstLine - 1 + 1) start part) := by
  unfold scanSpan
  dsimp only
  by_cases hle : stop ≤ start
  · -- The stretch is empty.
    rcases exists_of_slice? source start stop part hpart with ⟨_, _, -, -, hstop⟩
    have hempty : part = [] := eq_nil_of_byteSize part (by omega)
    rw [if_pos hle, hempty, scanFrom, splitLines, List.map_nil]
  · rw [if_neg hle, hpart, Option.map_some]

/-- At the beginning of a stretch a reader has the lines of the stretch in front of it. -/
theorem LineReader.faces_ofStart :
    Faces settings source stop (ofStart start firstLine buffer)
      (scanFrom settings (firstLine - 1 + 1) start part) := by
  rcases exists_of_slice? source start stop part hpart with ⟨before, behind, hsource, hstart, hstop⟩
  refine ⟨⟨before, behind, ?_, hstart⟩, ?_, ?_⟩
  · rw [scannedText_scanFrom]
    exact hsource
  · rw [scannedText_scanFrom]
    exact hstop
  · rw [scannedText_scanFrom]
    rfl

end Stretch

/-- Both ways to read a stretch give an answer, or neither does. -/
theorem LineReader.next?_ofStart_eq_none_iff (settings : Settings) (source : Text)
    (start stop firstLine : Nat) (buffer : TokenBuffer) :
    (ofStart start firstLine buffer).next? settings source stop = none ↔
      (scanSpan settings source start stop firstLine).lines? = none := by
  unfold next? ofStart scanSpan
  dsimp only
  by_cases hle : stop ≤ start
  · rw [if_pos hle, if_pos hle]
    exact iff_of_false nofun nofun
  · rw [if_neg hle, if_neg hle, Option.map_eq_none_iff, Option.map_eq_none_iff]

/-- Between two places that a reader of the whole source has come to, its lines can be read
    again from the stretch between the two, into any buffer: the calls give the same lines,
    faults included, and then nothing is left. -/
theorem reads_again (settings : Settings) (source : Text) (buffer buffer' : TokenBuffer)
    (earlier between : List ScannedLine) (first last : LineReader)
    (hfirst :
      LineReader.Reads settings source (byteSize source) (.ofStart 0 1 buffer) earlier first)
    (hlast : LineReader.Reads settings source (byteSize source) first between last) :
    (scanSpan settings source first.position last.position (first.lineNumber + 1)).lines? =
        some between ∧
      ∃ again, LineReader.Reads settings source last.position
          (.ofStart first.position (first.lineNumber + 1) buffer') between again ∧
        again.next? settings source last.position = some (none, again) := by
  have hwhole := LineReader.faces_ofStart settings source 0 (byteSize source) 1 buffer source (by
    have h := slice?_append [] source []
    rwa [List.nil_append, List.append_nil, byteSize_nil, Nat.zero_add] at h)
  rcases hwhole.split hfirst with ⟨more, hscan, hfaces, hposition, hnumber⟩
  rcases hfaces.split hlast with ⟨later, rfl, -, hend, -⟩
  constructor
  · -- The two places are those before and behind the lines in between.
    have hspan := scanSpan_of_scan settings source earlier between later hscan
    rw [hend, hposition, hnumber]
    simp only [LineReader.ofStart, Nat.sub_self, Nat.zero_add]
    exact hspan
  · have hagain := hfaces.upTo buffer'
    rw [← hend] at hagain
    rcases hagain.exists_reads_all with ⟨again, hreads, hnothing⟩
    exact ⟨again, hreads, hnothing.next?_nil⟩

/-- The second to the fourth of five lines: one with a guard, a wrong one that ends in two
    characters, and one whose carriage return is where the stretch is cut off. They are read
    again with another token in the buffer. -/
theorem reads_again_of_faulty_line :
    ∃ first last again : LineReader,
      LineReader.Reads {} "é\r#if A\r#if !\r\n#else\rz".toList 23 (.ofStart 0 1 {})
          [⟨⟨1, 0, "é".toList, ['\r']⟩, .ok .source⟩] first ∧
        LineReader.Reads {} "é\r#if A\r#if !\r\n#else\rz".toList 23 first
          [⟨⟨2, 3, "#if A".toList, ['\r']⟩, .ok (.ifLine (.symbol ['A']))⟩,
            ⟨⟨3, 9, "#if !".toList, ['\r', '\n']⟩,
              .error (.invalidExpression ⟨" !".toList, .grammar .unfinished⟩)⟩,
            ⟨⟨4, 16, "#else".toList, ['\r']⟩, .ok (.elseLine [])⟩] last ∧
        first.position = 3 ∧ first.lineNumber = 1 ∧ last.position = 22 ∧
        LineReader.Reads {} "é\r#if A\r#if !\r\n#else\rz".toList 22
          (.ofStart 3 2 ⟨#[.openBracket], some .openBracket, 1⟩)
          [⟨⟨2, 3, "#if A".toList, ['\r']⟩, .ok (.ifLine (.symbol ['A']))⟩,
            ⟨⟨3, 9, "#if !".toList, ['\r', '\n']⟩,
              .error (.invalidExpression ⟨" !".toList, .grammar .unfinished⟩)⟩,
            ⟨⟨4, 16, "#else".toList, ['\r']⟩, .ok (.elseLine [])⟩] again ∧
        again.next? {} "é\r#if A\r#if !\r\n#else\rz".toList 22 = some (none, again) := by
  have hfirst : LineReader.Reads {} "é\r#if A\r#if !\r\n#else\rz".toList 23 (.ofStart 0 1 {})
      [⟨⟨1, 0, "é".toList, ['\r']⟩, .ok .source⟩] ⟨3, 1, {}⟩ :=
    .line (by decide +kernel) (.nothing _)
  have hlast : LineReader.Reads {} "é\r#if A\r#if !\r\n#else\rz".toList 23 ⟨3, 1, {}⟩
      [⟨⟨2, 3, "#if A".toList, ['\r']⟩, .ok (.ifLine (.symbol ['A']))⟩,
        ⟨⟨3, 9, "#if !".toList, ['\r', '\n']⟩,
          .error (.invalidExpression ⟨" !".toList, .grammar .unfinished⟩)⟩,
        ⟨⟨4, 16, "#else".toList, ['\r']⟩, .ok (.elseLine [])⟩]
      ⟨22, 4, ⟨#[.not], some .not, 0⟩⟩ := by
    refine .line (?_ : _ = some (_, ⟨9, 2, ⟨#[.symbol ['A']], some .symbol, 0⟩⟩)) <|
      .line (?_ : _ = some (_, ⟨16, 3, ⟨#[.not], some .not, 0⟩⟩)) <| .line ?_ (.nothing _)
    · decide +kernel
    · decide +kernel
    · decide +kernel
  rcases (reads_again {} _ {} ⟨#[.openBracket], some .openBracket, 1⟩ _ _ _ _ hfirst hlast).2 with
    ⟨again, hreads, hnothing⟩
  exact ⟨_, _, again, hfirst, hlast, rfl, rfl, rfl, hreads, hnothing⟩

end DirectiveStrip
