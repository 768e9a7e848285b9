import DirectiveStrip.Proofs.Line.Span
import Mathlib.Data.Nat.Init

/-!
# Lines Put Together Anew

Leaving out lines of a text brings others together that were apart, and when the
result is split again the lines need not be those that were kept. If any terminator
ends a line, one that ended in a bare carriage return may now be followed by an empty
one that ends in a line feed. The two characters are one terminator then, and there is
one line where there were two.

That is all that can happen. A terminator is only ever extended by the next character,
and what is swallowed is a line without content. So every line of the result has the
content of a line that was kept, and since what a line says depends on its content
alone, the result says nothing new.

## Main definitions

* `Stackable`: Lines that can be put one after another.

## Theorems

* `LineEnding.cut_append`: The first line of a text with more text behind it.
* `stackable_splitLines`: The lines of a text are stackable.
* `Stackable.sublist`: So are those of them that are kept.
* `Stackable.cut_lineText`: The first line of lines put together.
* `Stackable.content_mem`: The contents of lines put together.
-/

namespace DirectiveStrip

namespace LineEnding

variable (ending : LineEnding)

/-- Only the last line of a text has no terminator. -/
theorem rest_cut_of_not_terminated (text : Text) (h : (ending.cut text).terminator = []) :
    (ending.cut text).rest = [] := by
  induction text with
  | nil => rfl
  | cons c rest ih =>
      rw [cut] at h ⊢
      split at h
      · exact ih h
      · cases h

/-- A character that is a terminator by itself still is one in front of another
    character, unless the two are one terminator. -/
theorem terminatorLength_cons_of_singleton (c d : Char) (more : Text)
    (h : ending.terminatorLength [c] = 1) :
    ending.terminatorLength (c :: d :: more) = 1 ∨
      (ending = .auto ∧ c = '\r' ∧ d = '\n' ∧ ending.terminatorLength (c :: d :: more) = 2) := by
  cases ending <;> by_cases hcr : c = '\r' <;> by_cases hlf : c = '\n' <;>
    by_cases hd : d = '\n' <;> simp_all [terminatorLength]

/-- With more text behind it a terminated line is cut off as before, or it is the last
    and takes a line feed along. -/
theorem cut_append (text more : Text) (hterm : (ending.cut text).terminator ≠ []) :
    ending.cut (text ++ more) = { ending.cut text with rest := (ending.cut text).rest ++ more } ∨
      ∃ terminator more', ending = .auto ∧ text.getLast? = some '\r' ∧ more = '\n' :: more' ∧
        ending.cut (text ++ more) = ⟨(ending.cut text).content, terminator, more'⟩ := by
  induction text with
  | nil => exact absurd rfl hterm
  | cons c rest ih =>
      rcases hlength : ending.terminatorLength (c :: rest) with _ | n
      · rw [ending.cut_cons_of_zero c rest hlength] at hterm ⊢
        rcases rest with _ | ⟨d, rest⟩
        · exact absurd rfl hterm
        · -- No terminator begins at this character, whatever is behind the next.
          have hsame : ending.terminatorLength (c :: (d :: rest ++ more)) = 0 := by
            rw [List.cons_append, ending.terminatorLength_cons_cons c d _ rest, hlength]
          rw [List.cons_append, ending.cut_cons_of_zero c _ hsame]
          rcases ih hterm with hleft | ⟨terminator, more', hauto, hlast, hmore, hright⟩
          · exact .inl (by rw [hleft])
          · refine .inr ⟨terminator, more', hauto, ?_, hmore, by rw [hright]⟩
            rw [List.getLast?_cons_cons]
            exact hlast
      · have hle := ending.terminatorLength_le (c :: rest)
        rw [hlength] at hle
        rw [ending.cut_cons_of_succ c rest n hlength]
        -- One character may be extended to a terminator of two, and two are not extended.
        rcases rest with _ | ⟨d, rest⟩
        · have hone : n = 0 := by
            rw [List.length_singleton] at hle
            omega
          subst hone
          rcases more with _ | ⟨d, more⟩
          · exact .inl (ending.cut_cons_of_succ c [] 0 hlength)
          · rcases ending.terminatorLength_cons_of_singleton c d more hlength with
              hone | ⟨hauto, rfl, rfl, htwo⟩
            · exact .inl (ending.cut_cons_of_succ c (d :: more) 0 hone)
            · exact .inr ⟨_, more, hauto, rfl, rfl, ending.cut_cons_of_succ _ ('\n' :: more) 1 htwo⟩
        · have hsame : ending.terminatorLength (c :: (d :: rest ++ more)) = n + 1 := by
            rw [List.cons_append, ending.terminatorLength_cons_cons c d _ rest, hlength]
          left
          rw [List.cons_append, ending.cut_cons_of_succ c _ n hsame, ← List.cons_append,
            List.take_append_of_le_length hle, List.drop_append_of_le_length hle]

end LineEnding

/-! ### Lines that are kept -/

section Stackable

variable (ending : LineEnding)

/-- Lines that can be put one after another: each is one line by itself, and only the
    last may have no terminator. -/
structure Stackable (lines : List Line) : Prop where
  single : ∀ line ∈ lines, ending.cut line.text = ⟨line.content, line.terminator, []⟩
  terminated : lines.Pairwise fun line _ => line.terminator ≠ []

theorem stackable_splitLines (number start : Nat) (text : Text) (lines : List Line)
    (h : splitLines ending number start text = lines) : Stackable ending lines := by
  induction lines generalizing number start text with
  | nil => exact ⟨by simp, List.Pairwise.nil⟩
  | cons line lines ih =>
      rcases splitLines_eq_cons ending number start text line lines h with ⟨-, -, hline, hrest⟩
      rcases ih _ _ _ hrest with ⟨hsingle, hterminated⟩
      refine ⟨?_, List.pairwise_cons.mpr ⟨?_, hterminated⟩⟩
      · intro other hother
        rcases List.mem_cons.mp hother with rfl | hother
        · have hcut := ending.cut_of_prefix text [] (ending.cut text).rest rfl
          rw [List.append_nil] at hcut
          rw [hline]
          exact hcut
        · exact hsingle other hother
      · -- If there is a line behind, there is text behind.
        intro other hother hterm
        rw [hline] at hterm
        rw [ending.rest_cut_of_not_terminated text hterm, splitLines] at hrest
        rw [← hrest] at hother
        cases hother

namespace Stackable

variable {ending} {lines : List Line}

theorem sublist (h : Stackable ending lines) {kept : List Line} (hkept : kept.Sublist lines) :
    Stackable ending kept :=
  ⟨fun line hline => h.single line (hkept.subset hline), h.terminated.sublist hkept⟩

theorem eq_nil_of_not_terminated {line : Line} (h : Stackable ending (line :: lines))
    (hterm : line.terminator = []) : lines = [] := by
  rcases lines with _ | ⟨other, lines⟩
  · rfl
  · exact absurd hterm ((List.pairwise_cons.mp h.terminated).1 other List.mem_cons_self)

/-- Where any terminator ends a line, what follows a line feed in front of lines put
    together is all but the first of them. -/
theorem eq_of_lineText_eq {other : Line} (h : Stackable .auto (other :: lines)) (more : Text)
    (hmore : lineText (other :: lines) = '\n' :: more) : more = lineText lines := by
  have hother := h.single other List.mem_cons_self
  rw [lineText_cons] at hmore
  rcases htext : other.text with _ | ⟨c, text⟩
  · -- A line without a character is the last, and then there is no line feed.
    rw [htext] at hother hmore
    have hterm : other.terminator = [] := (congrArg FirstLine.terminator hother).symm
    rw [h.eq_nil_of_not_terminated hterm] at hmore
    cases hmore
  · rw [htext, List.cons_append, List.cons.injEq] at hmore
    rcases hmore with ⟨rfl, rfl⟩
    rw [htext, LineEnding.cut_cons_of_succ .auto '\n' text 0 rfl] at hother
    have hnil : text = [] := congrArg FirstLine.rest hother
    rw [hnil, List.nil_append]

/-- The first of the lines put together has the content that it had, and what follows are
    lines put together. One of them may be missing, but none is cut in two. -/
theorem cut_lineText {line : Line} (h : Stackable ending (line :: lines)) :
    ∃ terminator tail, tail.Sublist lines ∧
      ending.cut (lineText (line :: lines)) = ⟨line.content, terminator, lineText tail⟩ := by
  have hcut := h.single line List.mem_cons_self
  rw [lineText_cons]
  by_cases hterm : line.terminator = []
  · -- This line is the last.
    rw [h.eq_nil_of_not_terminated hterm]
    refine ⟨[], [], List.Sublist.refl _, ?_⟩
    rw [lineText, List.flatMap_nil, List.append_nil, hcut, hterm]
  · rcases ending.cut_append line.text (lineText lines) (by rw [hcut]; exact hterm) with
      hleft | ⟨terminator, more, rfl, -, hmore, hright⟩
    · exact ⟨line.terminator, lines, List.Sublist.refl _, by rw [hleft, hcut, List.nil_append]⟩
    · rcases lines with _ | ⟨other, lines⟩
      · cases hmore
      · have hrest := h.sublist (List.sublist_cons_self line (other :: lines))
        -- The next line begins with a line feed, so it ends there.
        have hnext := hrest.eq_of_lineText_eq more hmore
        refine ⟨terminator, lines, List.sublist_cons_self other lines, ?_⟩
        rw [hright, hcut, hnext]

/-- Lines put together have no content that none of them had. -/
theorem content_mem (h : Stackable ending lines) (number start : Nat) :
    ∀ line ∈ splitLines ending number start (lineText lines),
      line.content ∈ lines.map Line.content := by
  -- On the number of lines, since a line may be swallowed by the one before it.
  induction hlen : lines.length using Nat.strong_induction_on generalizing lines number start with
  | _ n ih =>
      intro line hline
      rcases hsplit : splitLines ending number start (lineText lines) with _ | ⟨first, others⟩
      · rw [hsplit] at hline
        cases hline
      · rcases splitLines_eq_cons ending number start _ first others hsplit with
          ⟨hne, -, hfirst, hrest⟩
        rcases lines with _ | ⟨top, lines⟩
        · exact absurd rfl hne
        · rcases h.cut_lineText with ⟨terminator, tail, htail, hcut⟩
          have hsub := htail.trans (List.sublist_cons_self top lines)
          have hshort := htail.length_le
          rw [hcut] at hfirst hrest
          rw [hsplit] at hline
          rcases List.mem_cons.mp hline with rfl | hmem
          · rw [hfirst, List.map_cons]
            exact List.mem_cons_self
          · rw [← hrest] at hmem
            rw [List.length_cons] at hlen
            have := ih tail.length (by omega) (h.sublist hsub) _ _ rfl line hmem
            exact (hsub.map Line.content).subset this

end Stackable

end Stackable

end DirectiveStrip
