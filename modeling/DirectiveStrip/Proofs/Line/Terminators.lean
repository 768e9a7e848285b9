import DirectiveStrip.Proofs.Line.Appended
import Mathlib.Data.List.Forall2

/-!
# The Same Lines Under Other Terminators

What a line says depends on its content, so a source may be written with other terminators,
or be read under another setting of them, and still say the same as long as it falls into
lines of the same contents. This module says when it does.

Line feeds can be put in another way: as carriage return and line feed, or as carriage
return alone. If any terminator ends a line, and the text had no carriage return of its own,
every line ends where it ended.

A text can also be read under two settings. Where carriage return and line feed only occur
together, they end the same lines whether any terminator does or only the two of them. If
only a line feed ends a line, the lines are still the same, but the carriage return is left
to the content. That is the one case in which contents differ.

Two splittings are compared from the front, one line at a time. All that has to be shown is
that the first lines correspond, and that what follows them is as the texts were.

## Main definitions

* `IsOneLine`: A text without the characters of terminators.
* `convertFeeds`: A text with its line feeds put in another way.
* `ReturnsPaired`, `FeedsPaired`: Texts where one character comes with the other.

## Theorems

* `LineEnding.cut_isOneLine_append`, `LineEnding.cut_terminator_append`: A line of known
  content and terminator is cut off.
* `splitLines_isOneLine_append`: So it is the first of the lines.
* `forall₂_splitLines`: Two splittings whose first lines always correspond.
* `LineEnding.cut_convertFeeds`: The first line of a converted text.
* `paired_convertFeeds`: Line feeds put as both characters leave neither character alone.
* `LineEnding.cut_crLf`, `LineEnding.cut_lf`: The first line under another setting.
-/

namespace DirectiveStrip

/-- No character of the text belongs to a terminator. -/
def IsOneLine (text : Text) : Prop :=
  ∀ c ∈ text, c ≠ '\r' ∧ c ≠ '\n'

instance (text : Text) : Decidable (IsOneLine text) :=
  List.decidableBAll (fun c => c ≠ '\r' ∧ c ≠ '\n') text

/-! ### Cutting off one line -/

namespace LineEnding

variable (ending : LineEnding)

/-- No terminator begins with any other character. -/
theorem terminatorLength_of_ne (c : Char) (text : Text) (hreturn : c ≠ '\r') (hfeed : c ≠ '\n') :
    ending.terminatorLength (c :: text) = 0 := by
  unfold terminatorLength
  split <;> simp_all

theorem cut_cons_of_ne (c : Char) (text : Text) (hreturn : c ≠ '\r') (hfeed : c ≠ '\n') :
    ending.cut (c :: text) = { ending.cut text with content := c :: (ending.cut text).content } :=
  ending.cut_cons_of_zero c text (ending.terminatorLength_of_ne c text hreturn hfeed)

theorem cut_isOneLine_append (content text : Text) (h : IsOneLine content) :
    ending.cut (content ++ text) =
      { ending.cut text with content := content ++ (ending.cut text).content } := by
  induction content with
  | nil => rfl
  | cons c content ih =>
      rcases h c List.mem_cons_self with ⟨hreturn, hfeed⟩
      rw [List.cons_append, ending.cut_cons_of_ne c _ hreturn hfeed,
        ih fun d hd => h d (List.mem_cons_of_mem c hd)]
      rfl

/-- A terminator is cut off by itself, unless a line feed behind it would be taken along. -/
theorem cut_terminator_append (terminator text : Text) (hmem : terminator ∈ ending.terminators)
    (hnext : text.head? ≠ some '\n') :
    ending.cut (terminator ++ text) = ⟨[], terminator, text⟩ := by
  have hlength : ending.terminatorLength (terminator ++ text) = terminator.length := by
    cases ending <;> simp only [terminators, List.mem_cons, List.not_mem_nil, or_false] at hmem
    · rw [hmem]
      rfl
    · rw [hmem]
      rfl
    · rw [hmem]
      rfl
    · rcases hmem with rfl | rfl | rfl
      · rfl
      · rfl
      · rcases text with _ | ⟨c, text⟩
        · rfl
        · rw [List.head?_cons, ne_eq, Option.some.injEq] at hnext
          rw [List.singleton_append]
          unfold terminatorLength
          split <;> simp_all
  have hne := (ending.terminatorLength_of_mem terminator hmem).2
  rcases terminator with _ | ⟨c, terminator⟩
  · exact absurd rfl hne
  · rw [List.cons_append] at hlength ⊢
    rw [ending.cut_cons_of_succ c _ terminator.length hlength, ← List.cons_append,
      ← List.length_cons, List.take_left, List.drop_left]

end LineEnding

/-! ### Two splittings -/

/-- Two texts fall into corresponding lines if their first lines correspond and the texts
    behind these are related as the texts are. -/
theorem forall₂_splitLines {ending ending' : LineEnding} {alike : Line → Line → Prop}
    (related : Text → Text → Prop)
    (hnil : ∀ text text', related text text' → (text = [] ↔ text' = []))
    (hcut : ∀ text text', related text text' →
      related (ending.cut text).rest (ending'.cut text').rest ∧
        ∀ number start start',
          alike ⟨number, start, (ending.cut text).content, (ending.cut text).terminator⟩
            ⟨number, start', (ending'.cut text').content, (ending'.cut text').terminator⟩)
    (number start start' : Nat) (text text' : Text) (h : related text text') :
    List.Forall₂ alike (splitLines ending number start text)
      (splitLines ending' number start' text') := by
  induction hlen : text.length using Nat.strong_induction_on
    generalizing number start start' text text' with
  | _ n ih =>
      by_cases hne : text = []
      · rw [hne, (hnil text text' h).mp hne, splitLines_nil, splitLines_nil]
        exact .nil
      · have hne' : text' ≠ [] := fun hempty => hne ((hnil text text' h).mpr hempty)
        rcases hcut text text' h with ⟨hrest, hfirst⟩
        rw [splitLines_of_ne_nil _ _ _ text hne, splitLines_of_ne_nil _ _ _ text' hne']
        have hlt := length_rest_cut_lt_of_ne_nil ending text hne
        exact .cons (hfirst number start start') (ih _ (by omega) _ _ _ _ _ hrest rfl)

/-- A line of known content and terminator is the first line. -/
theorem splitLines_isOneLine_append (ending : LineEnding) (number start : Nat)
    (content terminator text : Text) (hcontent : IsOneLine content)
    (hmem : terminator ∈ ending.terminators) (hnext : text.head? ≠ some '\n') :
    splitLines ending number start (content ++ (terminator ++ text)) =
      ⟨number, start, content, terminator⟩ ::
        splitLines ending (number + 1) (start + byteSize (content ++ terminator)) text := by
  have hcut : ending.cut (content ++ (terminator ++ text)) = ⟨content, terminator, text⟩ := by
    rw [ending.cut_isOneLine_append content _ hcontent,
      ending.cut_terminator_append terminator text hmem hnext, List.append_nil]
  have hne : content ++ (terminator ++ text) ≠ [] := by
    have := (ending.terminatorLength_of_mem terminator hmem).2
    simp [this]
  rw [splitLines_of_ne_nil _ _ _ _ hne, hcut]

/-! ### Line feeds put in another way -/

/-- The text with every line feed replaced. -/
def convertFeeds (terminator text : Text) : Text :=
  text.flatMap fun c => if c = '\n' then terminator else [c]

section Convert

variable (terminator : Text)

@[simp] theorem convertFeeds_nil : convertFeeds terminator [] = [] := rfl

theorem convertFeeds_append (before after : Text) :
    convertFeeds terminator (before ++ after) =
      convertFeeds terminator before ++ convertFeeds terminator after :=
  List.flatMap_append

theorem convertFeeds_feed (text : Text) :
    convertFeeds terminator ('\n' :: text) = terminator ++ convertFeeds terminator text := rfl

theorem convertFeeds_cons_of_ne (c : Char) (text : Text) (h : c ≠ '\n') :
    convertFeeds terminator (c :: text) = c :: convertFeeds terminator text := by
  rw [convertFeeds, List.flatMap_cons, if_neg h]
  rfl

theorem convertFeeds_of_isOneLine (text : Text) (h : IsOneLine text) :
    convertFeeds terminator text = text := by
  induction text with
  | nil => rfl
  | cons c text ih =>
      rw [convertFeeds_cons_of_ne terminator c text (h c List.mem_cons_self).2,
        ih fun d hd => h d (List.mem_cons_of_mem c hd)]

variable {terminator} (hterm : terminator = ['\r', '\n'] ∨ terminator = ['\r'])

include hterm

theorem convertFeeds_eq_nil_iff (text : Text) : convertFeeds terminator text = [] ↔ text = [] := by
  rcases text with _ | ⟨c, text⟩
  · simp
  · by_cases hc : c = '\n'
    · rcases hterm with rfl | rfl <;> simp [hc, convertFeeds_feed]
    · simp [convertFeeds_cons_of_ne terminator c text hc]

/-- No line feed is left that is not behind a carriage return. -/
theorem head?_convertFeeds (text : Text) : (convertFeeds terminator text).head? ≠ some '\n' := by
  rcases text with _ | ⟨c, text⟩
  · simp
  · by_cases hc : c = '\n'
    · rcases hterm with rfl | rfl <;> simp [hc, convertFeeds_feed]
    · simp [convertFeeds_cons_of_ne terminator c text hc, hc]

/-- The first line keeps its content, and everything behind it is converted. -/
theorem LineEnding.cut_convertFeeds (text : Text) (h : '\r' ∉ text) :
    LineEnding.auto.cut (convertFeeds terminator text) =
        ⟨(LineEnding.auto.cut text).content,
          convertFeeds terminator (LineEnding.auto.cut text).terminator,
          convertFeeds terminator (LineEnding.auto.cut text).rest⟩ ∧
      IsOneLine (LineEnding.auto.cut text).content ∧ '\r' ∉ (LineEnding.auto.cut text).rest := by
  induction text with
  | nil => exact ⟨rfl, fun _ hd => absurd hd List.not_mem_nil, h⟩
  | cons c text ih =>
      rw [List.mem_cons, not_or] at h
      by_cases hc : c = '\n'
      · rw [hc, convertFeeds_feed, LineEnding.auto.cut_cons_of_succ '\n' text 0 rfl]
        rw [LineEnding.auto.cut_terminator_append terminator _ _ (head?_convertFeeds hterm text)]
        · refine ⟨?_, fun _ hd => absurd hd List.not_mem_nil, h.2⟩
          rw [List.take_succ_cons, List.take_zero, convertFeeds_feed, convertFeeds_nil,
            List.append_nil]
          rfl
        · rcases hterm with rfl | rfl <;> decide
      · rcases ih h.2 with ⟨hcut, hcontent, hrest⟩
        have hreturn : c ≠ '\r' := fun heq => h.1 heq.symm
        rw [convertFeeds_cons_of_ne terminator c text hc,
          LineEnding.auto.cut_cons_of_ne c _ hreturn hc,
          LineEnding.auto.cut_cons_of_ne c _ hreturn hc, hcut]
        refine ⟨rfl, ?_, hrest⟩
        intro d hd
        rcases List.mem_cons.mp hd with rfl | hmem
        · exact ⟨hreturn, hc⟩
        · exact hcontent d hmem

end Convert

/-! ### Other settings -/

/-- Behind every carriage return is a line feed. -/
def ReturnsPaired (text : Text) : Prop :=
  ∀ before after, text = before ++ '\r' :: after → after.head? = some '\n'

/-- In front of every line feed is a carriage return. -/
def FeedsPaired (text : Text) : Prop :=
  ∀ before after, text = before ++ '\n' :: after → before.getLast? = some '\r'

theorem ReturnsPaired.of_append (before text : Text) (h : ReturnsPaired (before ++ text)) :
    ReturnsPaired text := by
  intro front after htext
  exact h (before ++ front) after (by rw [htext, List.append_assoc])

/-- A text may be cut anywhere but between the two characters. -/
theorem FeedsPaired.of_append (before text : Text) (h : FeedsPaired (before ++ text))
    (hlast : before.getLast? ≠ some '\r') : FeedsPaired text := by
  intro front after htext
  have hreturn := h (before ++ front) after (by rw [htext, List.append_assoc])
  rw [List.getLast?_append] at hreturn
  rcases hfront : front.getLast? with _ | c
  · rw [hfront, Option.none_or] at hreturn
    exact absurd hreturn hlast
  · rw [hfront, Option.some_or] at hreturn
    exact hreturn

theorem ReturnsPaired.cons (c : Char) {text : Text} (h : ReturnsPaired text)
    (hc : c = '\r' → text.head? = some '\n') : ReturnsPaired (c :: text) := by
  rintro (_ | ⟨d, before⟩) after htext
  · rw [List.nil_append, List.cons.injEq] at htext
    rw [← htext.2]
    exact hc htext.1
  · rw [List.cons_append, List.cons.injEq] at htext
    exact h before after htext.2

theorem FeedsPaired.cons (c : Char) {text : Text} (h : FeedsPaired text) (hc : c ≠ '\n') :
    FeedsPaired (c :: text) := by
  rintro (_ | ⟨d, before⟩) after htext
  · exact absurd (List.cons.inj htext).1 hc
  · rw [List.cons_append, List.cons.injEq] at htext
    rw [List.getLast?_cons, h before after htext.2]
    rfl

theorem FeedsPaired.pair {text : Text} (h : FeedsPaired text) :
    FeedsPaired ('\r' :: '\n' :: text) := by
  rintro (_ | ⟨c, _ | ⟨d, before⟩⟩) after htext
  · exact absurd (List.cons.inj htext).1 (by decide)
  · rw [List.singleton_append, List.cons.injEq] at htext
    rw [← htext.1]
    rfl
  · rw [List.cons_append, List.cons_append, List.cons.injEq, List.cons.injEq] at htext
    rw [List.getLast?_cons, List.getLast?_cons, h before after htext.2.2]
    rfl

/-- The two characters only come together where every line feed was put as both of them. -/
theorem paired_convertFeeds (text : Text) (h : '\r' ∉ text) :
    ReturnsPaired (convertFeeds ['\r', '\n'] text) ∧
      FeedsPaired (convertFeeds ['\r', '\n'] text) := by
  induction text with
  | nil =>
      have hne (c : Char) (before after : Text) : convertFeeds ['\r', '\n'] [] ≠
          before ++ c :: after := by simp
      exact ⟨fun _ _ htext => (hne _ _ _ htext).elim, fun _ _ htext => (hne _ _ _ htext).elim⟩
  | cons c text ih =>
      rw [List.mem_cons, not_or] at h
      rcases ih h.2 with ⟨hreturns, hfeeds⟩
      by_cases hc : c = '\n'
      · rw [hc, convertFeeds_feed]
        exact ⟨(hreturns.cons '\n' (absurd · (by decide))).cons '\r' fun _ => rfl, hfeeds.pair⟩
      · rw [convertFeeds_cons_of_ne _ c text hc]
        exact ⟨hreturns.cons c fun heq => absurd heq.symm h.1, hfeeds.cons c hc⟩

/-- Behind a carriage return in a text where it is paired. -/
theorem ReturnsPaired.exists_feed {text : Text} (h : ReturnsPaired ('\r' :: text)) :
    ∃ after, text = '\n' :: after := by
  rcases text with _ | ⟨c, after⟩
  · exact absurd (h [] [] rfl) (by simp)
  · have hhead := h [] (c :: after) rfl
    rw [List.head?_cons, Option.some.injEq] at hhead
    exact ⟨after, by rw [hhead]⟩

namespace LineEnding

theorem returnsPaired_rest_cut (ending : LineEnding) (text : Text) (h : ReturnsPaired text) :
    ReturnsPaired (ending.cut text).rest := by
  rw [← ending.append_cut text] at h
  exact h.of_append _ _

/-- Where both characters are paired, the pair is the only terminator there is. -/
theorem cut_crLf (text : Text) (hreturns : ReturnsPaired text) (hfeeds : FeedsPaired text) :
    crLf.cut text = auto.cut text ∧ FeedsPaired (auto.cut text).rest := by
  induction text with
  | nil => exact ⟨rfl, hfeeds⟩
  | cons c text ih =>
      by_cases hreturn : c = '\r'
      · rw [hreturn] at hreturns hfeeds ⊢
        rcases hreturns.exists_feed with ⟨after, rfl⟩
        rw [crLf.cut_cons_of_succ '\r' _ 1 rfl, auto.cut_cons_of_succ '\r' _ 1 rfl]
        exact ⟨rfl, FeedsPaired.of_append ['\r', '\n'] after hfeeds (by decide)⟩
      · by_cases hfeed : c = '\n'
        · rw [hfeed] at hfeeds
          exact absurd (hfeeds [] text rfl) (by simp)
        · have hlast : [c].getLast? ≠ some '\r' := by simpa using hreturn
          rcases ih (hreturns.of_append [c] text) (hfeeds.of_append [c] text hlast) with
            ⟨hcut, hrest⟩
          rw [crLf.cut_cons_of_ne c text hreturn hfeed, auto.cut_cons_of_ne c text hreturn hfeed,
            hcut]
          exact ⟨rfl, hrest⟩

/-- Where only a line feed ends a line, the line is the same. The carriage return of a pair
    is then at the end of its content. -/
theorem cut_lf (text : Text) (h : ReturnsPaired text) :
    lf.cut text = auto.cut text ∨
      (lf.cut text = ⟨(auto.cut text).content ++ ['\r'], ['\n'], (auto.cut text).rest⟩ ∧
        (auto.cut text).terminator = ['\r', '\n']) := by
  induction text with
  | nil => exact .inl rfl
  | cons c text ih =>
      by_cases hreturn : c = '\r'
      · rw [hreturn] at h ⊢
        rcases h.exists_feed with ⟨after, rfl⟩
        rw [lf.cut_cons_of_zero '\r' _ rfl, lf.cut_cons_of_succ '\n' _ 0 rfl,
          auto.cut_cons_of_succ '\r' _ 1 rfl]
        exact .inr ⟨rfl, rfl⟩
      · by_cases hfeed : c = '\n'
        · rw [hfeed, lf.cut_cons_of_succ '\n' _ 0 rfl, auto.cut_cons_of_succ '\n' _ 0 rfl]
          exact .inl rfl
        · rw [lf.cut_cons_of_ne c text hreturn hfeed, auto.cut_cons_of_ne c text hreturn hfeed]
          rcases ih (h.of_append [c] text) with hsame | ⟨hcut, hterm⟩
          · exact .inl (by rw [hsame])
          · exact .inr ⟨by rw [hcut]; rfl, hterm⟩

end LineEnding

end DirectiveStrip
