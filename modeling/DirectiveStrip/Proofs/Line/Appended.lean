import DirectiveStrip.Proofs.Line.Joined

/-!
# One Text Behind Another

If a text ends where a line ends, the lines of a second text behind it are the lines that
the second text has by itself, only further down. They keep their contents and
terminators, and with the contents what they say. Their numbers go up by the number of
lines in front and their offsets by the length of the text in front.

A text ends where a line ends if it is empty or a terminator is at its end. That is not
enough where any terminator ends a line: a carriage return at the end and a line feed at
the front of the second text would become one terminator.

## Main definitions

* `LineEnding.terminators`: The terminators there are.
* `LineEnding.KeepsApart`: No line of two texts put together is in both of them.
* `Line.shift`, `ScannedLine.shift`: A line further down.

## Theorems

* `LineEnding.terminated_cut`: A text that ends in a terminator is cut into such texts.
* `splitLines_of_keepsApart`: The lines of two texts put together.
* `splitLines_shift`: Lines that are counted from further down.
* `scan_of_keepsApart`: Reading two texts put together.
-/

namespace DirectiveStrip

/-! ### Texts that end where a line ends -/

namespace LineEnding

/-- The character sequences that end a line. -/
def terminators : LineEnding → List Text
  | lf => [['\n']]
  | crLf => [['\r', '\n']]
  | cr => [['\r']]
  | auto => [['\n'], ['\r', '\n'], ['\r']]

/-- Where the first text ends a line ends, whichever text is behind it. -/
structure KeepsApart (ending : LineEnding) (first second : Text) : Prop where
  terminated : first = [] ∨ ∃ terminator ∈ ending.terminators, terminator <:+ first
  apart : ¬ (ending = .auto ∧ first.getLast? = some '\r' ∧ second.head? = some '\n')

variable (ending : LineEnding)

/-- A terminator is recognised in full, and it is not empty. -/
theorem terminatorLength_of_mem (terminator : Text) (h : terminator ∈ ending.terminators) :
    ending.terminatorLength terminator = terminator.length ∧ terminator ≠ [] := by
  cases ending <;> simp only [terminators, List.mem_cons, List.not_mem_nil, or_false] at h
  · subst h
    exact ⟨rfl, List.cons_ne_nil _ _⟩
  · subst h
    exact ⟨rfl, List.cons_ne_nil _ _⟩
  · subst h
    exact ⟨rfl, List.cons_ne_nil _ _⟩
  · rcases h with rfl | rfl | rfl <;> exact ⟨rfl, List.cons_ne_nil _ _⟩

/-- The second character of a terminator is a line feed, and no terminator is longer. -/
theorem second_of_terminatorLength (c d : Char) (text : Text) (n : Nat)
    (h : ending.terminatorLength (c :: d :: text) = n + 2) : n = 0 ∧ d = '\n' := by
  unfold terminatorLength at h
  split at h <;> simp_all

/-- A terminator that begins with a line feed is nothing else. -/
theorem eq_nil_of_mem_terminators (text : Text) (h : '\n' :: text ∈ ending.terminators) :
    text = [] := by
  cases ending <;> simp_all [terminators]

/-- Behind its first line a text that ends in a terminator is empty or ends in the same
    one. No terminator is cut in two. -/
theorem terminated_cut (text terminator : Text) (hmem : terminator ∈ ending.terminators)
    (h : terminator <:+ text) :
    (ending.cut text).terminator ≠ [] ∧
      ((ending.cut text).rest = [] ∨ terminator <:+ (ending.cut text).rest) := by
  rcases ending.terminatorLength_of_mem terminator hmem with ⟨hfull, hne⟩
  induction text with
  | nil => exact absurd (List.suffix_nil.mp h) hne
  | cons c rest ih =>
      rcases hlength : ending.terminatorLength (c :: rest) with _ | n
      · -- The text is not the terminator itself, since none is at its front.
        rw [ending.cut_cons_of_zero c rest hlength]
        rcases List.suffix_cons_iff.mp h with rfl | hrest
        · rw [hlength] at hfull
          exact absurd (List.length_eq_zero_iff.mp hfull.symm) hne
        · exact ih hrest
      · rw [ending.cut_cons_of_succ c rest n hlength]
        refine ⟨List.cons_ne_nil _ _, ?_⟩
        rcases h with ⟨before, hbefore⟩
        rw [← hbefore] at hlength ⊢
        by_cases hlong : n + 1 ≤ before.length
        · right
          rw [List.drop_append_of_le_length hlong]
          exact List.suffix_append _ _
        · left
          rcases before with _ | ⟨first, before⟩
          · rw [List.nil_append, hfull] at hlength
            rw [List.nil_append, ← hlength, List.drop_length]
          · -- Two characters end the line, and the second is the terminator at the end.
            rw [List.length_cons] at hlong
            rcases n with _ | n
            · omega
            · rcases before with _ | ⟨second, before⟩
              · rcases terminator with _ | ⟨d, more⟩
                · exact absurd rfl hne
                · rcases ending.second_of_terminatorLength first d more n hlength with ⟨rfl, rfl⟩
                  rw [ending.eq_nil_of_mem_terminators more hmem]
                  rfl
              · rcases ending.second_of_terminatorLength first second _ n hlength with ⟨rfl, -⟩
                rw [List.length_cons] at hlong
                omega

variable {ending}

/-- The first line is the same with the second text behind, and what follows it keeps
    apart from the second text in its turn. -/
theorem KeepsApart.cut {first second : Text} (h : ending.KeepsApart first second)
    (hne : first ≠ []) :
    ending.cut (first ++ second) =
        { ending.cut first with rest := (ending.cut first).rest ++ second } ∧
      ending.KeepsApart (ending.cut first).rest second := by
  rcases h with ⟨hterm | ⟨terminator, hmem, hsuffix⟩, hapart⟩
  · exact absurd hterm hne
  · rcases ending.terminated_cut first terminator hmem hsuffix with ⟨hcut, hrest⟩
    refine ⟨?_, hrest.imp id fun hrest => ⟨terminator, hmem, hrest⟩, ?_⟩
    · rcases ending.cut_append first second hcut with hsame | ⟨_, more, hauto, hlast, hmore, -⟩
      · exact hsame
      · -- The join would have to be a carriage return and a line feed.
        exact absurd ⟨hauto, hlast, by rw [hmore]; rfl⟩ hapart
    · -- What is at the end of the rest is at the end of the text.
      rintro ⟨hauto, hlast, hhead⟩
      refine hapart ⟨hauto, ?_, hhead⟩
      rw [← ending.append_cut first, List.getLast?_append, hlast]
      rfl

end LineEnding

/-! ### Lines further down -/

/-- The same line behind so many lines and so many bytes more. -/
def Line.shift (lines bytes : Nat) (line : Line) : Line :=
  { line with number := line.number + lines, start := line.start + bytes }

/-- The same line with what it says. -/
def ScannedLine.shift (lines bytes : Nat) (scanned : ScannedLine) : ScannedLine :=
  { scanned with line := scanned.line.shift lines bytes }

section Split

variable (ending : LineEnding)

@[simp] theorem splitLines_nil (number start : Nat) : splitLines ending number start [] = [] := by
  rw [splitLines]

theorem splitLines_of_ne_nil (number start : Nat) (text : Text) (h : text ≠ []) :
    splitLines ending number start text =
      ⟨number, start, (ending.cut text).content, (ending.cut text).terminator⟩ ::
        splitLines ending (number + 1)
          (start + byteSize ((ending.cut text).content ++ (ending.cut text).terminator))
          (ending.cut text).rest := by
  cases text with
  | nil => exact absurd rfl h
  | cons c rest =>
      rw [splitLines]
      rfl

theorem length_rest_cut_lt_of_ne_nil (text : Text) (h : text ≠ []) :
    (ending.cut text).rest.length < text.length := by
  cases text with
  | nil => exact absurd rfl h
  | cons c rest => exact ending.length_rest_cut_lt c rest

theorem splitLines_shift (lines bytes number start : Nat) (text : Text) :
    splitLines ending (number + lines) (start + bytes) text =
      (splitLines ending number start text).map (Line.shift lines bytes) := by
  induction hlen : text.length using Nat.strong_induction_on generalizing number start text with
  | _ n ih =>
      by_cases hne : text = []
      · rw [hne, splitLines_nil, splitLines_nil]
        rfl
      · have hlt := length_rest_cut_lt_of_ne_nil ending text hne
        rw [splitLines_of_ne_nil ending _ _ text hne, splitLines_of_ne_nil ending _ _ text hne,
          List.map_cons, ← ih _ (by omega) _ _ _ rfl, Nat.add_right_comm number,
          Nat.add_right_comm start]
        rfl

/-- The lines of two texts put together are those of the first, and then those of the
    second, counted on. -/
theorem splitLines_of_keepsApart (number start : Nat) (first second : Text)
    (h : ending.KeepsApart first second) :
    splitLines ending number start (first ++ second) =
      splitLines ending number start first ++
        splitLines ending (number + (splitLines ending number start first).length)
          (start + byteSize first) second := by
  induction hlen : first.length using Nat.strong_induction_on generalizing number start first with
  | _ n ih =>
      by_cases hne : first = []
      · rw [hne, splitLines_nil]
        rfl
      · rcases h.cut hne with ⟨hcut, hrest⟩
        have hlt := length_rest_cut_lt_of_ne_nil ending first hne
        have hbytes := congrArg byteSize (ending.append_cut first)
        rw [byteSize_append] at hbytes
        rw [splitLines_of_ne_nil ending _ _ first hne,
          splitLines_of_ne_nil ending _ _ (first ++ second) (by simp [hne]), hcut]
        dsimp only
        -- The rest of the first text is counted on from its first line, and so is the second.
        rw [ih _ (by omega) _ _ _ hrest rfl, List.cons_append, List.length_cons,
          Nat.add_assoc start, hbytes, Nat.add_right_comm number, Nat.add_assoc number]

end Split

/-- Reading two texts put together gives the lines of the first, and then those of the
    second further down. -/
theorem scan_of_keepsApart (settings : Settings) (first second : Text)
    (h : settings.lineEnding.KeepsApart first second) :
    scan settings (first ++ second) =
      scan settings first ++
        (scan settings second).map
          (ScannedLine.shift (scan settings first).length (byteSize first)) := by
  unfold scan scanFrom
  rw [splitLines_of_keepsApart _ 1 0 first second h, List.map_append, List.length_map,
    splitLines_shift, List.map_map, List.map_map]
  rfl

end DirectiveStrip
