import DirectiveStrip.Line.Scan

/-!
# Reading a Stretch Again

Lines that stand in a row in a source are read the same when the stretch they
fill is read by itself: same lines, same numbers, same offsets.

The only thing that could go wrong is at the ends. A stretch that begins where a
line begins has nothing in front that a line could have depended on. One that
ends where a line ends cuts off the text behind, and a terminator at the end of
the stretch could look different without it. It does not, because whether a
terminator stands at the front of a text is settled by the terminator itself
once it is there in full.

## Main definitions

* `lineText`, `scannedText`: The text of lines in a row.

## Theorems

* `LineEnding.terminatorLength_of_prefix`: A terminator is recognised as soon as
  it is there in full.
* `LineEnding.cut_of_prefix`: The first line does not depend on what is behind it.
* `splitLines_append`: The lines behind some lines, by themselves.
* `splitLines_prefix`: The lines before some lines, by themselves.
* `scanSpan_of_scan`: A stretch between lines of a source, read by itself.
* `position_of_scan`: The number and the offset of a line of a source.
* `number_of_scan`: The lines of a source are numbered in a row.
-/

namespace DirectiveStrip

/-! ### Terminators -/

namespace LineEnding

theorem terminatorLength_le (ending : LineEnding) (text : Text) :
    ending.terminatorLength text ≤ text.length := by
  unfold terminatorLength
  split <;> simp

/-- No more than two characters are looked at. -/
theorem terminatorLength_cons_cons (ending : LineEnding) (c d : Char) (text other : Text) :
    ending.terminatorLength (c :: d :: text) = ending.terminatorLength (c :: d :: other) := by
  cases ending <;> by_cases hcr : c = '\r' <;> by_cases hlf : c = '\n' <;>
    by_cases hd : d = '\n' <;> simp_all [terminatorLength]

/-- A terminator is recognised as soon as it is there in full, and none is where none
    was recognised. -/
theorem terminatorLength_of_prefix (ending : LineEnding) (short suffix : Text)
    (h : ending.terminatorLength (short ++ suffix) ≤ short.length) :
    ending.terminatorLength short = ending.terminatorLength (short ++ suffix) := by
  rcases short with _ | ⟨c, _ | ⟨d, short⟩⟩
  · rw [List.nil_append] at h ⊢
    have hzero : ending.terminatorLength [] = 0 := by cases ending <;> rfl
    rw [hzero]
    exact (Nat.le_zero.mp h).symm
  · -- One character: a longer terminator would not have fitted.
    rcases suffix with _ | ⟨d, suffix⟩
    · rfl
    · rw [List.singleton_append] at h ⊢
      unfold terminatorLength at h ⊢
      split at h <;> simp_all
  · exact ending.terminatorLength_cons_cons c d short (short ++ suffix)

theorem cut_cons_of_zero (ending : LineEnding) (c : Char) (rest : Text)
    (h : ending.terminatorLength (c :: rest) = 0) :
    ending.cut (c :: rest) =
      { ending.cut rest with content := c :: (ending.cut rest).content } := by
  rw [cut, h]

theorem cut_cons_of_succ (ending : LineEnding) (c : Char) (rest : Text) (n : Nat)
    (h : ending.terminatorLength (c :: rest) = n + 1) :
    ending.cut (c :: rest) = ⟨[], (c :: rest).take (n + 1), (c :: rest).drop (n + 1)⟩ := by
  rw [cut, h]

/-- The first line does not depend on what is behind it. -/
theorem cut_of_prefix (ending : LineEnding) (text short suffix : Text)
    (h : (ending.cut text).rest = short ++ suffix) :
    ending.cut ((ending.cut text).content ++ (ending.cut text).terminator ++ short) =
      { ending.cut text with rest := short } := by
  induction text with
  | nil =>
      rw [cut] at h ⊢
      rw [(List.append_eq_nil_iff.mp h.symm).1]
      rfl
  | cons c rest ih =>
      rcases hlength : ending.terminatorLength (c :: rest) with _ | n
      · rw [ending.cut_cons_of_zero c rest hlength] at h ⊢
        have hrest := ending.append_cut rest
        rw [h, ← List.append_assoc] at hrest
        -- Still no terminator begins at this character.
        have hzero := ending.terminatorLength_of_prefix
          (c :: ((ending.cut rest).content ++ (ending.cut rest).terminator ++ short)) suffix
        rw [List.cons_append, hrest, hlength] at hzero
        rw [List.cons_append, List.cons_append, cut, hzero (Nat.zero_le _), ih h]
      · -- The terminator is at the front, and still is there in full.
        rw [ending.cut_cons_of_succ c rest n hlength] at h ⊢
        have hle := ending.terminatorLength_le (c :: rest)
        have hwhole : (c :: rest).take (n + 1) ++ short ++ suffix = c :: rest := by
          rw [List.append_assoc, ← h]
          exact List.take_append_drop (n + 1) (c :: rest)
        have htake : ((c :: rest).take (n + 1)).length = n + 1 := by
          rw [List.length_take]
          omega
        have hsame := ending.terminatorLength_of_prefix ((c :: rest).take (n + 1) ++ short) suffix
        rw [hwhole, hlength, List.length_append, htake] at hsame
        have hlen := hsame (by omega)
        rw [List.nil_append]
        rw [List.take_succ_cons, List.cons_append] at hlen ⊢
        rw [cut, hlen]
        dsimp only
        rw [← List.cons_append, ← List.take_succ_cons, List.take_left' htake,
          List.drop_left' htake]

end LineEnding

/-! ### Lines in a row -/

/-- The text of lines in a row. -/
def lineText (lines : List Line) : Text :=
  lines.flatMap Line.text

@[simp] theorem lineText_cons (line : Line) (lines : List Line) :
    lineText (line :: lines) = line.text ++ lineText lines := rfl

@[simp] theorem lineText_append (before after : List Line) :
    lineText (before ++ after) = lineText before ++ lineText after :=
  List.flatMap_append

section Split

variable (ending : LineEnding)

/-- The first of the lines of a text, and the others. -/
theorem splitLines_eq_cons (number start : Nat) (text : Text) (line : Line) (lines : List Line)
    (h : splitLines ending number start text = line :: lines) :
    text ≠ [] ∧ text = line.text ++ (ending.cut text).rest ∧
      line = ⟨number, start, (ending.cut text).content, (ending.cut text).terminator⟩ ∧
      splitLines ending (number + 1) line.stop (ending.cut text).rest = lines := by
  cases text with
  | nil =>
      rw [splitLines] at h
      cases h
  | cons c rest =>
      rw [splitLines] at h
      cases h
      exact ⟨List.cons_ne_nil c rest, (ending.append_cut (c :: rest)).symm, rfl, rfl⟩

/-- Splitting loses nothing. -/
theorem lineText_of_splitLines (number start : Nat) (text : Text) (lines : List Line)
    (h : splitLines ending number start text = lines) : lineText lines = text := by
  induction lines generalizing number start text with
  | nil =>
      cases text with
      | nil => rfl
      | cons c rest =>
          rw [splitLines] at h
          cases h
  | cons line lines ih =>
      rcases splitLines_eq_cons ending number start text line lines h with ⟨-, htext, -, hrest⟩
      rw [lineText_cons, ih _ _ _ hrest]
      exact htext.symm

/-- The lines behind some lines are those of what follows, counted on. -/
theorem splitLines_append (number start : Nat) (text : Text) (before part : List Line)
    (h : splitLines ending number start text = before ++ part) :
    splitLines ending (number + before.length) (start + byteSize (lineText before))
      (lineText part) = part := by
  induction before generalizing number start text with
  | nil =>
      rw [List.nil_append] at h
      rw [lineText_of_splitLines ending number start text part h]
      exact h
  | cons line before ih =>
      rcases splitLines_eq_cons ending number start text line _ h with ⟨-, -, hline, hrest⟩
      have hstop : line.stop = start + byteSize line.text := by
        rw [Line.stop, hline]
      -- Behind the first line everything is counted from where that line stops.
      have hpart := ih (number + 1) line.stop _ hrest
      rw [hstop] at hpart
      rw [List.length_cons, lineText_cons, byteSize_append, ← Nat.add_assoc start,
        show number + (before.length + 1) = number + 1 + before.length by omega]
      exact hpart

/-- The lines before some lines are those of the text up to there. -/
theorem splitLines_prefix (number start : Nat) (text : Text) (part after : List Line)
    (h : splitLines ending number start text = part ++ after) :
    splitLines ending number start (lineText part) = part := by
  induction part generalizing number start text with
  | nil =>
      rw [lineText, List.flatMap_nil, splitLines]
  | cons line part ih =>
      rw [List.cons_append] at h
      rcases splitLines_eq_cons ending number start text line _ h with ⟨hne, htext, hline, hrest⟩
      have hsplit := lineText_of_splitLines ending _ _ _ _ hrest
      rw [lineText_append] at hsplit
      -- Without the text behind, the first line is cut off in the same way.
      have hcut := ending.cut_of_prefix text (lineText part) (lineText after) hsplit.symm
      have hlineText : line.text = (ending.cut text).content ++ (ending.cut text).terminator := by
        rw [hline, Line.text]
      rw [← hlineText] at hcut
      -- A line has a character, so there is a first line here too.
      rcases hchars : line.text with _ | ⟨c, chars⟩
      · rw [hchars, List.nil_append] at htext
        cases text with
        | nil => exact absurd rfl hne
        | cons d rest =>
            have := ending.length_rest_cut_lt d rest
            rw [← htext] at this
            omega
      · rw [hchars, List.cons_append] at hcut
        rw [lineText_cons, hchars, List.cons_append, splitLines, hcut]
        dsimp only
        rw [← hline, ih (number + 1) line.stop _ hrest]

end Split

/-! ### Stretches of a source -/

/-- The lines that were scanned, as lines. -/
def scannedText (lines : List ScannedLine) : Text :=
  lineText (lines.map ScannedLine.line)

@[simp] theorem scannedText_nil : scannedText [] = [] := rfl

@[simp] theorem scannedText_cons (scanned : ScannedLine) (lines : List ScannedLine) :
    scannedText (scanned :: lines) = scanned.line.text ++ scannedText lines := rfl

theorem scannedText_eq_flatMap (lines : List ScannedLine) :
    scannedText lines = lines.flatMap (·.line.text) := by
  rw [scannedText, lineText, List.flatMap_map]

theorem scannedText_append (before after : List ScannedLine) :
    scannedText (before ++ after) = scannedText before ++ scannedText after := by
  rw [scannedText, List.map_append, lineText_append]
  rfl

theorem scanFrom_part (settings : Settings) (number start : Nat) (text : Text)
    (before part after : List ScannedLine)
    (h : scanFrom settings number start text = before ++ (part ++ after)) :
    scanFrom settings (number + before.length) (start + byteSize (scannedText before))
        (scannedText part) = part ∧
      text = scannedText before ++ (scannedText part ++ scannedText after) := by
  rw [scanFrom, List.map_eq_append_iff] at h
  rcases h with ⟨lines, lines', hsplit, rfl, h⟩
  rw [List.map_eq_append_iff] at h
  rcases h with ⟨middle, last, rfl, rfl, rfl⟩
  have hback (part : List Line) : (part.map (Line.scan settings)).map ScannedLine.line = part := by
    rw [List.map_map]
    exact List.map_id part
  -- First what is in front is left out, then what is behind.
  have htail := splitLines_append _ number start text lines (middle ++ last) hsplit
  have hmiddle := splitLines_prefix _ _ _ _ middle last htail
  simp only [scannedText, hback, List.length_map]
  refine ⟨?_, ?_⟩
  · rw [scanFrom, hmiddle]
  · rw [← lineText_append, ← lineText_append]
    exact (lineText_of_splitLines _ number start text _ hsplit).symm

/-- The lines of a text are all of it. -/
theorem scannedText_scanFrom (settings : Settings) (number start : Nat) (text : Text) :
    scannedText (scanFrom settings number start text) = text := by
  rw [scannedText_eq_flatMap, scanFrom, List.flatMap_map]
  exact lineText_of_splitLines settings.lineEnding number start text _ rfl

theorem scannedText_scan (settings : Settings) (source : Text) :
    scannedText (scan settings source) = source :=
  scannedText_scanFrom settings 1 0 source

/-- The lines of a source between two of its lines are read the same from the stretch
    that they fill. -/
theorem scanSpan_of_scan (settings : Settings) (source : Text)
    (before part after : List ScannedLine)
    (h : scan settings source = before ++ (part ++ after)) :
    (scanSpan settings source (byteSize (scannedText before))
        (byteSize (scannedText before) + byteSize (scannedText part))
        (before.length + 1)).lines? = some part := by
  rcases scanFrom_part settings 1 0 source before part after h with ⟨hscan, hsource⟩
  unfold scanSpan
  dsimp only
  by_cases hempty : scannedText part = []
  · -- An empty stretch has no lines.
    rw [if_pos (by rw [hempty, byteSize_nil]; omega), ← hscan, hempty]
    rw [scanFrom, splitLines, List.map_nil]
  · have hpos : byteSize (scannedText part) ≠ 0 :=
      fun hzero => hempty (eq_nil_of_byteSize _ hzero)
    rw [if_neg (by omega), hsource, slice?_append, Option.map_some, Nat.add_sub_cancel,
      Nat.add_comm before.length 1]
    rw [Nat.zero_add] at hscan
    rw [hscan]

/-- Where a line of a source is, by the lines before it. -/
theorem position_of_scan (settings : Settings) (source : Text) (before after : List ScannedLine)
    (scanned : ScannedLine) (h : scan settings source = before ++ scanned :: after) :
    scanned.line.number = before.length + 1 ∧
      scanned.line.start = byteSize (scannedText before) := by
  rcases scanFrom_part settings 1 0 source before [scanned] after h with ⟨hscan, -⟩
  rw [scanFrom] at hscan
  rcases List.map_eq_cons_iff.mp hscan with ⟨line, lines, hsplit, hline, -⟩
  rcases splitLines_eq_cons _ _ _ _ line lines hsplit with ⟨-, -, heq, -⟩
  rw [← hline, Line.scan, heq]
  dsimp only
  omega

/-- The lines of a source are numbered in a row. -/
theorem number_of_scan (settings : Settings) (source : Text) (i : Nat) (scanned : ScannedLine)
    (h : (scan settings source)[i]? = some scanned) : scanned.line.number = i + 1 := by
  rcases List.getElem?_eq_some_iff.mp h with ⟨hi, hscanned⟩
  have hsplit : scan settings source =
      (scan settings source).take i ++ scanned :: (scan settings source).drop (i + 1) := by
    rw [← hscanned, ← List.drop_eq_getElem_cons hi, List.take_append_drop]
  have hnumber := (position_of_scan settings source _ _ scanned hsplit).1
  rw [List.length_take, Nat.min_eq_left (by omega)] at hnumber
  exact hnumber

end DirectiveStrip
