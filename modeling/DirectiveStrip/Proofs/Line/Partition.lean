import DirectiveStrip.Proofs.Line.Appended
import DirectiveStrip.Proofs.Line.Reader
import Mathlib.Data.List.Basic

/-!
# Cutting a Stretch into Lines

A reader that is called until nothing is left cuts its stretch into pieces, one for each
call. Every piece begins where the last one ended and has at least one character, so the
calls come to an end, and the pieces are the whole stretch. The numbers go up by one, and
a wrong line is cut off and counted like any other.

Where the cuts are is said without the function that makes them. Each piece but the last
ends in a terminator, and there is none in it before that. Where any terminator ends a
line, this leaves open what becomes of a carriage return and a line feed, since the return
is a terminator already. They stay together.

## Main definitions

* `LineReader.Cuts`: One call, by the piece that it cuts off.

## Theorems

* `LineEnding.terminator_cut_mem`: What is cut off as a terminator is one.
* `LineEnding.length_content_cut_le`: No terminator begins before that.
* `LineEnding.head?_rest_cut`: No terminator is cut in two.
* `LineReader.Faces.cuts`: One call.
* `LineReader.Reads.unique`: Calls in a row lead to one place only.
* `LineReader.Reads.position_scanSpan`: It is the place that a stretch reports.
* `reads_partition`: All calls.
-/

namespace DirectiveStrip

/-! ### Where a line is cut off -/

namespace LineEnding

variable (ending : LineEnding)

/-- The characters that are recognised at the front of a text are a terminator. -/
theorem take_terminatorLength_mem (text : Text) (n : Nat)
    (h : ending.terminatorLength text = n + 1) : text.take (n + 1) ∈ ending.terminators := by
  unfold terminatorLength at h
  split at h <;> cases h <;> simp [terminators]

/-- Where a terminator is at the front of a text, one is recognised. It may be a longer
    one. -/
theorem terminatorLength_append_ne_zero (terminator behind : Text)
    (hmem : terminator ∈ ending.terminators) :
    ending.terminatorLength (terminator ++ behind) ≠ 0 := by
  rcases ending.terminatorLength_of_mem terminator hmem with ⟨hfull, hne⟩
  intro hzero
  -- Without the text behind nothing would be recognised either.
  have hsame := ending.terminatorLength_of_prefix terminator behind (by omega)
  rw [hzero, hfull] at hsame
  exact hne (List.length_eq_zero_iff.mp hsame)

theorem terminator_cut_mem (text : Text) (h : (ending.cut text).terminator ≠ []) :
    (ending.cut text).terminator ∈ ending.terminators := by
  induction text with
  | nil => exact absurd rfl h
  | cons c rest ih =>
      rcases hlength : ending.terminatorLength (c :: rest) with _ | n
      · rw [ending.cut_cons_of_zero c rest hlength] at h ⊢
        exact ih h
      · rw [ending.cut_cons_of_succ c rest n hlength]
        exact ending.take_terminatorLength_mem (c :: rest) n hlength

/-- Wherever a terminator begins in a text, the content of the first line goes no further. -/
theorem length_content_cut_le (front terminator behind : Text)
    (hmem : terminator ∈ ending.terminators) :
    (ending.cut (front ++ (terminator ++ behind))).content.length ≤ front.length := by
  induction front with
  | nil =>
      -- The line ends at once, and so it has no content.
      rw [List.nil_append]
      have hne := ending.terminatorLength_append_ne_zero terminator behind hmem
      rcases htext : terminator ++ behind with _ | ⟨c, rest⟩
      · exact Nat.le_refl 0
      · rw [htext] at hne
        rcases Nat.exists_eq_succ_of_ne_zero hne with ⟨n, hn⟩
        simp [ending.cut_cons_of_succ c rest n hn]
  | cons c front ih =>
      rw [List.cons_append]
      rcases hlength : ending.terminatorLength (c :: (front ++ (terminator ++ behind))) with _ | n
      · rw [ending.cut_cons_of_zero c _ hlength]
        exact Nat.succ_le_succ ih
      · simp [ending.cut_cons_of_succ c _ n hlength]

/-- A bare carriage return is a terminator only if no line feed is behind it. -/
theorem head?_rest_cut_of_eq (text : Text) (h : (auto.cut text).terminator = ['\r']) :
    (auto.cut text).rest.head? ≠ some '\n' := by
  induction text with
  | nil => cases h
  | cons c rest ih =>
      rcases hlength : auto.terminatorLength (c :: rest) with _ | n
      · rw [auto.cut_cons_of_zero c rest hlength] at h ⊢
        exact ih h
      · rw [auto.cut_cons_of_succ c rest n hlength] at h ⊢
        rw [List.take_succ_cons, List.cons.injEq] at h
        rcases h with ⟨rfl, hnil⟩
        intro hfeed
        rcases rest with _ | ⟨d, rest⟩
        · rw [List.drop_succ_cons, List.drop_nil] at hfeed
          cases hfeed
        · -- One character was taken, although two make a terminator here.
          rcases n with _ | n
          · cases hfeed
            cases hlength
          · cases hnil

/-- A line that ends in a carriage return is not cut off in front of a line feed. -/
theorem head?_rest_cut (text : Text)
    (h : ((auto.cut text).content ++ (auto.cut text).terminator).getLast? = some '\r') :
    (auto.cut text).rest.head? ≠ some '\n' := by
  by_cases hterm : (auto.cut text).terminator = []
  · -- The last line has nothing behind it.
    rw [auto.rest_cut_of_not_terminated text hterm, List.head?_nil]
    exact nofun
  · refine head?_rest_cut_of_eq text ?_
    rw [List.getLast?_append_of_ne_nil _ hterm] at h
    -- Of the terminators only this one has it at the end.
    have hmem := auto.terminator_cut_mem text hterm
    simp only [terminators, List.mem_cons, List.not_mem_nil, or_false] at hmem
    rcases hmem with hfeed | hboth | hreturn
    · rw [hfeed] at h
      cases h
    · rw [hboth] at h
      cases h
    · exact hreturn

/-- A text that has a character is cut behind one. -/
theorem append_cut_ne_nil (text : Text) (hne : text ≠ []) :
    (ending.cut text).content ++ (ending.cut text).terminator ≠ [] := by
  intro hempty
  have htext := ending.append_cut text
  rw [hempty, List.nil_append] at htext
  cases text with
  | nil => exact hne rfl
  | cons c rest =>
      have hlt := ending.length_rest_cut_lt c rest
      rw [htext] at hlt
      exact Nat.lt_irrefl _ hlt

end LineEnding

/-! ### One call -/

namespace LineReader

/-- A call cuts a piece off, from the position before to the position after. -/
structure Cuts (settings : Settings) (source : Text) (stop : Nat) (before : LineReader)
    (scanned : ScannedLine) (after : LineReader) : Prop where
  call : before.next? settings source stop = some (some scanned, after)
  lineNumber : after.lineNumber = before.lineNumber + 1
  forward : before.position < after.position
  slice : slice? source before.position after.position = some scanned.line.text
  /-- A terminator is missing only at the end of the stretch. -/
  terminated : after.position = stop ∨
    scanned.line.terminator ∈ settings.lineEnding.terminators
  /-- Before the terminator at its end the piece has none. -/
  first : ∀ front terminator behind, terminator ∈ settings.lineEnding.terminators →
    scanned.line.text = front ++ (terminator ++ behind) →
      scanned.line.content.length ≤ front.length
  /-- A carriage return and a line feed are not cut apart. -/
  together : settings.lineEnding = .auto → scanned.line.text.getLast? = some '\r' →
    ∃ rest, slice? source after.position stop = some rest ∧ rest.head? ≠ some '\n'

variable {settings : Settings} {source : Text} {stop : Nat}

namespace Faces

variable {reader : LineReader}

/-- Nothing is in front exactly at the end of the stretch. -/
theorem eq_nil_iff {lines : List ScannedLine} (h : Faces settings source stop reader lines) :
    lines = [] ↔ reader.position = stop := by
  have hreaches := h.reaches
  constructor
  · intro hnil
    rw [hnil, scannedText_nil, byteSize_nil] at hreaches
    exact hreaches.symm
  · intro hstop
    have hempty := eq_nil_of_byteSize (scannedText lines) (by omega)
    rcases lines with _ | ⟨scanned, rest⟩
    · rfl
    · exact absurd hempty (cut_of_scanFrom settings _ _ _ scanned rest h.scans).1

/-- A call cuts the first of the lines in front off. -/
theorem cuts {scanned : ScannedLine} {rest : List ScannedLine}
    (h : Faces settings source stop reader (scanned :: rest)) :
    ∃ after, Cuts settings source stop reader scanned after ∧
      Faces settings source stop after rest := by
  rcases h.next?_cons with ⟨after, hcall, hposition, hnumber, hafter⟩
  rcases h.line_head with ⟨hhead, hstart⟩
  rcases cut_of_scanFrom settings _ _ _ scanned rest h.scans with ⟨hne, hscanned, hrest, -⟩
  have hcontent := congrArg (fun read => read.line.content) hscanned
  have hterminator := congrArg (fun read => read.line.terminator) hscanned
  simp only [Line.scan] at hcontent hterminator
  have htext : scanned.line.text = (settings.lineEnding.cut (scannedText (scanned :: rest))).content
      ++ (settings.lineEnding.cut (scannedText (scanned :: rest))).terminator := by
    rw [Line.text, hcontent, hterminator]
  have hstop : after.position = reader.position + byteSize scanned.line.text := by
    rw [hposition, Line.stop, hstart]
  have hline : after.lineNumber = reader.lineNumber + 1 := hnumber.trans hhead
  refine ⟨after, ⟨hcall, hline, ?forward, ?slice, ?terminated, ?first, ?together⟩, hafter⟩
  case forward =>
    have hpos : byteSize scanned.line.text ≠ 0 := by
      intro hzero
      refine settings.lineEnding.append_cut_ne_nil _ hne ?_
      rw [← htext]
      exact eq_nil_of_byteSize _ hzero
    omega
  case slice =>
    rcases h.place with ⟨before, behind, hsource, hbefore⟩
    rw [hstop, hsource, hbefore, scannedText_cons, List.append_assoc]
    exact slice?_append _ _ _
  case terminated =>
    rw [hterminator]
    by_cases hterm : (settings.lineEnding.cut (scannedText (scanned :: rest))).terminator = []
    · left
      rw [settings.lineEnding.rest_cut_of_not_terminated _ hterm] at hrest
      rw [hafter.reaches, ← hrest, byteSize_nil, Nat.add_zero]
    · exact .inr (settings.lineEnding.terminator_cut_mem _ hterm)
  case first =>
    -- A terminator in the piece is one in the text in front, which the piece begins.
    intro front terminator behind hmem hpiece
    have hfirst := settings.lineEnding.length_content_cut_le front terminator
      (behind ++ scannedText rest) hmem
    rw [← List.append_assoc terminator, ← List.append_assoc, ← hpiece, ← scannedText_cons] at hfirst
    rw [hcontent]
    exact hfirst
  case together =>
    intro hauto hlast
    refine ⟨scannedText rest, hafter.slice, ?_⟩
    rw [htext, hauto] at hlast
    rw [← hrest, hauto]
    exact LineEnding.head?_rest_cut _ hlast

end Faces

/-! ### All calls -/

theorem next?_some {reader after : LineReader} {scanned : ScannedLine}
    (h : reader.next? settings source stop = some (some scanned, after)) :
    after.position = scanned.line.stop ∧ after.lineNumber = scanned.line.number := by
  rw [next?] at h
  split at h
  · cases h
  · rcases Option.map_eq_some_iff.mp h with ⟨text, -, hread⟩
    cases hread
    exact ⟨rfl, rfl⟩

theorem Reads.unique {reader last last' : LineReader} {lines : List ScannedLine}
    (h : Reads settings source stop reader lines last)
    (h' : Reads settings source stop reader lines last') : last = last' := by
  induction h with
  | nothing reader =>
      cases h'
      rfl
  | line call _ ih =>
      cases h' with
      | line call' hrest =>
          rw [call, Option.some.injEq, Prod.mk.injEq] at call'
          rw [← call'.2] at hrest
          exact ih hrest

/-- The reader is where the last line that was read ends. -/
theorem Reads.getLast? {reader last : LineReader} {lines : List ScannedLine}
    (h : Reads settings source stop reader lines last) :
    match lines.getLast? with
    | some scanned => last.position = scanned.line.stop ∧ last.lineNumber = scanned.line.number
    | none => last = reader := by
  induction h with
  | nothing reader => rfl
  | @line reader after last scanned rest call hrest ih =>
      rcases rest with _ | ⟨next, rest⟩
      · cases hrest
        exact next?_some call
      · rw [List.getLast?_cons_cons]
        rcases hlast : (next :: rest).getLast? with _ | final
        · cases List.getLast?_eq_none_iff.mp hlast
        · rw [hlast] at ih
          exact ih

/-- What a stretch reports after its lines is the place that the calls have come to. -/
theorem Reads.position_scanSpan {start firstLine : Nat} {buffer : TokenBuffer} {last : LineReader}
    {lines : List ScannedLine}
    (h : Reads settings source stop (ofStart start firstLine buffer) lines last)
    (hlines : (scanSpan settings source start stop firstLine).lines? = some lines) :
    (scanSpan settings source start stop firstLine).position = last.position ∧
      (scanSpan settings source start stop firstLine).lineNumber = last.lineNumber := by
  have hlast := h.getLast?
  unfold SpanScan.position SpanScan.lineNumber SpanScan.last?
  rw [hlines, Option.bind_some]
  rcases hfinal : lines.getLast? with _ | scanned
  · rw [hfinal] at hlast
    rw [hlast]
    exact ⟨rfl, Nat.add_sub_cancel _ _⟩
  · rw [hfinal] at hlast
    exact ⟨hlast.1.symm, hlast.2.symm⟩

end LineReader

/-- Between two offsets that lie between characters of the source, calling until nothing is
    left cuts all of it into pieces. The lines are those of the stretch, wrong ones included,
    their numbers count on from the first, and reading stops where the stretch does. -/
theorem reads_partition (settings : Settings) (source : Text) (start stop firstLine : Nat)
    (buffer : TokenBuffer) (part : Text) (hpart : slice? source start stop = some part)
    (hfirst : 1 ≤ firstLine) :
    ∃ lines last,
      LineReader.Reads settings source stop (.ofStart start firstLine buffer) lines last ∧
      last.next? settings source stop = some (none, last) ∧ last.position = stop ∧
      (scanSpan settings source start stop firstLine).lines? = some lines ∧
      (scanSpan settings source start stop firstLine).position = last.position ∧
      (scanSpan settings source start stop firstLine).lineNumber = last.lineNumber ∧
      lines.flatMap (·.line.text) = part ∧
      ∀ done scanned todo, lines = done ++ scanned :: todo →
        scanned.line.number = firstLine + done.length ∧
        (∀ fault, (scanned.line.error fault).line = firstLine + done.length) ∧
        ∃ before after,
          LineReader.Reads settings source stop (.ofStart start firstLine buffer) done before ∧
          LineReader.Cuts settings source stop before scanned after ∧
          LineReader.Reads settings source stop after todo last ∧
          (todo = [] ↔ after.position = stop) := by
  have hfaces := LineReader.faces_ofStart settings source start stop firstLine buffer part hpart
  have hlines := lines?_scanSpan settings source start stop firstLine part hpart
  have hwhole := scannedText_scanFrom settings (firstLine - 1 + 1) start part
  generalize scanFrom settings (firstLine - 1 + 1) start part = lines at hfaces hlines hwhole
  rcases hfaces.exists_reads_all with ⟨last, hreads, hnothing⟩
  have hplace := hreads.position_scanSpan hlines
  refine ⟨lines, last, hreads, hnothing.next?_nil, hnothing.eq_nil_iff.mp rfl, hlines, hplace.1,
    hplace.2, by rw [← scannedText_eq_flatMap, hwhole], ?_⟩
  intro done scanned todo hdivision
  rw [hdivision] at hfaces hreads
  rcases hfaces.exists_reads with ⟨before, hdone, hbefore⟩
  rcases hbefore.cuts with ⟨after, hcuts, hafter⟩
  have hnumber : scanned.line.number = firstLine + done.length := by
    rcases hfaces.split hdone with ⟨-, -, -, -, hcount⟩
    rw [hbefore.line_head.1, hcount]
    dsimp only [LineReader.ofStart]
    omega
  refine ⟨hnumber, fun _ => hnumber, before, after, hdone, hcuts, ?_, hafter.eq_nil_iff⟩
  -- The rest leads to the same place, since there is only one way to go on.
  rcases hafter.exists_reads_all with ⟨last', hrest, -⟩
  have hsame := (hdone.append (.line hcuts.call hrest)).unique hreads
  rw [← hsame]
  exact hrest

/-- The stretch begins behind the first character of a line and ends between a carriage
    return and a line feed. The wrong line in the middle is one piece, with both characters
    at its end. -/
theorem reads_partition_of_mixed_terminators :
    slice? "é\r\n#if !\r\nü\r\nz".toList 2 14 = some "\r\n#if !\r\nü\r".toList ∧ 1 ≤ 7 ∧
    ∃ last before after : LineReader,
      LineReader.Reads {} "é\r\n#if !\r\nü\r\nz".toList 14 (.ofStart 2 7 {})
          [⟨⟨7, 2, [], ['\r', '\n']⟩, .ok .source⟩] before ∧
        LineReader.Cuts {} "é\r\n#if !\r\nü\r\nz".toList 14 before
          ⟨⟨8, 4, "#if !".toList, ['\r', '\n']⟩,
            .error (.invalidExpression ⟨" !".toList, .grammar .unfinished⟩)⟩ after ∧
        LineReader.Reads {} "é\r\n#if !\r\nü\r\nz".toList 14 after
          [⟨⟨9, 11, "ü".toList, ['\r']⟩, .ok .source⟩] last ∧
        last.next? {} "é\r\n#if !\r\nü\r\nz".toList 14 = some (none, last) ∧
        last.position = 14 := by
  have hpart : slice? "é\r\n#if !\r\nü\r\nz".toList 2 14 = some "\r\n#if !\r\nü\r".toList := by
    decide +kernel
  have hspan : (scanSpan {} "é\r\n#if !\r\nü\r\nz".toList 2 14 7).lines? =
      some [⟨⟨7, 2, [], ['\r', '\n']⟩, .ok .source⟩,
        ⟨⟨8, 4, "#if !".toList, ['\r', '\n']⟩,
          .error (.invalidExpression ⟨" !".toList, .grammar .unfinished⟩)⟩,
        ⟨⟨9, 11, "ü".toList, ['\r']⟩, .ok .source⟩] := by
    decide +kernel
  rcases reads_partition {} _ 2 14 7 {} _ hpart (by decide) with
    ⟨lines, last, -, hnothing, hstop, hlines, -, -, -, hdivisions⟩
  rw [hspan, Option.some.injEq] at hlines
  rcases hdivisions [_] _ [_] hlines.symm with ⟨-, -, before, after, hdone, hcuts, htodo, -⟩
  exact ⟨hpart, by decide, last, before, after, hdone, hcuts, htodo, hnothing, hstop⟩

end DirectiveStrip
