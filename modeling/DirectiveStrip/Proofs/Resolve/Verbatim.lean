import DirectiveStrip.Proofs.Resolve.Again
import DirectiveStrip.Proofs.Resolve.Descent

/-!
# Branches Copied in One Piece

When a branch is chosen, its lines have been read once, and a note was made whether a chain
is opened among them. Without a chain the branch is copied as it stands, and it is not
gone through a second time. This saves nothing but time. Gone through line by line, at
whatever depth and for whatever symbols, the branch would have come out the same, and no
symbol would have been looked up.

The reason is that directives pair up inside a branch. If no chain is opened in it, none
is continued or closed there either, so no line of the branch is a directive at all, and
none is wrong, since all of them were read. A directive that is passed through counts as
text like any other.

## Main definitions

* `Takes`, `TakesAll`: The branches that a run has chosen, with what it does next.

## Theorems

* `balanced_of_chooseBranch`: Directives pair up in a chosen branch, and the note that is
  made of it is right.
* `takes_of_chooseBranch`: When a branch that was chosen is taken.
* `takesAll_resolveLines`: A run keeps no branch that it has not chosen.
* `strip_copies_verbatim`: Copying a branch in one piece is resolving it.
-/

namespace DirectiveStrip

open Resolution

/-- Of a chosen branch it is known rightly whether a chain is opened in it. All its lines
    can be read, and its directives pair up. -/
theorem balanced_of_chooseBranch (defined : Text → Bool) (opening : ScannedLine) (guard : Guard)
    (hreading : opening.reading = .ok (.ifLine guard)) (lines rest : List ScannedLine)
    (branch : Branch)
    (h : (chooseBranch defined opening.line guard lines).outcome = .ok ⟨some branch, rest⟩) :
    Balanced branch.lines ∧ branch.opensChain = branch.lines.any ScannedLine.opens := by
  have hopening : opening.opens := by
    rw [ScannedLine.opens, hreading]
  have hskip := rest_chooseBranch defined opening.line guard lines
  rw [h] at hskip
  -- The walk has come to the end of a chain, and the branch is that of one of its clauses.
  rcases exists_chain_of_skipChain opening hopening lines rest hskip.symm with
    ⟨chain, rfl, -, hlines⟩
  have hyields := chain.chooseBranch_yields defined guard hreading lines rest (by
    rw [hlines, ← List.cons_append, ← chain.lines_eq_cons])
  rcases (hyields.sound _ h).2 with ⟨-, hkept, hopens⟩
  rcases Option.map_eq_some_iff.mp hkept.symm with ⟨clause, hclause, hbody⟩
  refine ⟨?_, hopens branch rfl⟩
  rw [← hbody]
  exact chain.balanced clause (List.mem_of_find?_eq_some hclause)

/-! ### The branches that a run takes -/

/-- A branch of the chain that an `#if` of the source opens. The run has chosen it and says
    so, and if no chain is opened in it, its text is copied at once. -/
def Takes (settings : Settings) (defined : Text → Bool) (source : Text) (events : List Event)
    (openingLine : Nat) (branch : Branch) : Prop :=
  ∃ before opening guard lines after rest,
    scan settings source = before ++ (opening :: lines ++ after) ∧
    opening.reading = .ok (.ifLine guard) ∧ opening.line.number = openingLine ∧
    (chooseBranch defined opening.line guard lines).outcome = .ok ⟨some branch, rest⟩ ∧
    (chooseBranch defined opening.line guard lines).events ++
        .keeping branch.start branch.stop openingLine ::
          (if branch.opensChain then [] else [.copied branch.start (scannedText branch.lines)]) <:+:
      events

/-- A branch that was chosen and is reported is taken, provided that it is copied next if
    no chain is opened in it. -/
theorem takes_of_chooseBranch {settings : Settings} {defined : Text → Bool} {source : Text}
    {before lines after rest : List ScannedLine} {opening : ScannedLine} {guard : Guard}
    {branch : Branch} (hscan : scan settings source = before ++ (opening :: lines ++ after))
    (hreading : opening.reading = .ok (.ifLine guard))
    (hchoice : (chooseBranch defined opening.line guard lines).outcome = .ok ⟨some branch, rest⟩)
    (later : List Event)
    (hlater : branch.opensChain = false →
      [.copied branch.start (scannedText branch.lines)] <+: later) :
    Takes settings defined source
      ((chooseBranch defined opening.line guard lines).events ++
        .keeping branch.start branch.stop opening.line.number :: later)
      opening.line.number branch := by
  refine ⟨before, opening, guard, lines, after, rest, hscan, hreading, rfl, hchoice, ?_⟩
  refine List.IsPrefix.isInfix ((List.prefix_append_right_inj _).mpr ?_)
  refine List.cons_prefix_cons.mpr ⟨rfl, ?_⟩
  by_cases hopen : branch.opensChain
  · rw [if_pos hopen]
    exact List.nil_prefix
  · rw [if_neg hopen]
    exact hlater (Bool.eq_false_iff.mpr hopen)

/-- Every branch that some events of a run report to keep is one that the run takes. -/
def TakesAll (settings : Settings) (defined : Text → Bool) (source : Text)
    (events part : List Event) : Prop :=
  ∀ start stop openingLine, .keeping start stop openingLine ∈ part →
    ∃ branch : Branch, branch.start = start ∧ branch.stop = stop ∧
      Takes settings defined source events openingLine branch

namespace TakesAll

variable {settings : Settings} {defined : Text → Bool} {source : Text}
  {events part part' : List Event}

theorem append (h : TakesAll settings defined source events part)
    (h' : TakesAll settings defined source events part') :
    TakesAll settings defined source events (part ++ part') := by
  intro start stop openingLine hmem
  rcases List.mem_append.mp hmem with hmem | hmem
  · exact h start stop openingLine hmem
  · exact h' start stop openingLine hmem

/-- What a shorter run takes, the longer one takes. -/
theorem mono (h : TakesAll settings defined source part part) (hpart : part <:+: events) :
    TakesAll settings defined source events part := by
  intro start stop openingLine hmem
  rcases h start stop openingLine hmem with ⟨branch, hstart, hstop, htakes⟩
  rcases htakes with ⟨before, opening, guard, lines, after, rest, hscan, hreading, hnumber,
    hchoice, hevents⟩
  exact ⟨branch, hstart, hstop, before, opening, guard, lines, after, rest, hscan, hreading,
    hnumber, hchoice, hevents.trans hpart⟩

/-- Where no event keeps a branch there is nothing to show. -/
theorem of_forall_ne (h : ∀ start stop openingLine, .keeping start stop openingLine ∉ part) :
    TakesAll settings defined source events part :=
  fun start stop openingLine hmem => absurd hmem (h start stop openingLine)

theorem of_isChoosing (h : ∀ event ∈ part, event.isChoosing) :
    TakesAll settings defined source events part :=
  of_forall_ne fun _ _ _ hmem => Bool.false_ne_true (h _ hmem)

theorem of_notes (scanned : ScannedLine) :
    TakesAll settings defined source events scanned.notes :=
  of_isChoosing fun event hmem =>
    event.isChoosing_of_isNote (isNote_of_mem_notes scanned event hmem)

/-- Behind some events a run goes on as it would without them. -/
theorem after {α : Type} {run : Resolution α} {front : List Event}
    (h : TakesAll settings defined source run.events run.events)
    (hfront : TakesAll settings defined source (run.after front).events front) :
    TakesAll settings defined source (run.after front).events (run.after front).events :=
  hfront.append (h.mono (List.suffix_append _ _).isInfix)

theorem bind {α β : Type} {run : Resolution α} {next : α → Resolution β}
    (h : TakesAll settings defined source run.events run.events)
    (hnext : ∀ value,
      TakesAll settings defined source (next value).events (next value).events) :
    TakesAll settings defined source (run.bind next).events (run.bind next).events := by
  unfold Trace.bind
  split
  · exact (h.mono (List.prefix_append _ _).isInfix).append
      ((hnext _).mono (List.suffix_append _ _).isInfix)
  · exact h

end TakesAll

/-- A run keeps no branch that it has not chosen. -/
theorem takesAll_resolveLines (settings : Settings) (source : Text) (defined : Text → Bool)
    (limit : Nat) (lines : List ScannedLine) :
    ∀ (depth : Nat) (before after : List ScannedLine),
      scan settings source = before ++ (lines ++ after) →
        TakesAll settings defined source (resolveLines defined limit depth lines).events
          (resolveLines defined limit depth lines).events := by
  induction lines using resolving_induction defined with
  | nil =>
      intro depth before after _
      rw [resolveLines]
      exact .of_forall_ne fun _ _ _ => List.not_mem_nil
  | source scanned rest hreading ih =>
      intro depth before after hscan
      rw [resolveLines_source _ _ _ _ _ hreading]
      refine TakesAll.after (TakesAll.after ?_ (.of_forall_ne (by simp))) (.of_notes scanned)
      exact ih depth (before ++ [scanned]) after (by rw [hscan]; simp)
  | refused scanned rest hnext =>
      intro depth before after _
      rw [resolveLines_refused _ _ _ _ _ hnext]
      exact TakesAll.after (.of_forall_ne fun _ _ _ => List.not_mem_nil) (.of_notes scanned)
  | broken scanned guard rest error hreading hskip =>
      intro depth before after _
      rw [resolveLines_broken defined limit depth scanned guard rest error hreading hskip]
      exact TakesAll.after (.of_isChoosing (only_chooseBranch defined scanned.line guard rest))
        (.of_notes scanned)
  | dropped chain rest horder hnone ih =>
      intro depth before after hscan
      rcases chain.first.head.opens_cases chain.opens with ⟨guard, hguard⟩
      rw [chain.resolveLines_of_not_chosen defined limit depth horder guard hguard rest hnone]
      refine TakesAll.after (TakesAll.after ?_ ?_) (.of_notes _)
      · exact ih depth (before ++ chain.lines) after (by rw [hscan]; simp)
      · exact .of_isChoosing (only_chooseBranch defined _ guard _)
  | kept chain rest place horder hchosen ihBody ihRest =>
      intro depth before after hscan
      have hrest := ihRest depth (before ++ chain.lines) after (by rw [hscan]; simp)
      rcases chain.first.head.opens_cases chain.opens with ⟨guard, hguard⟩
      rcases chain.resolveLines_of_chosen defined limit depth horder guard hguard rest place hchosen
        with ⟨branch, hlines, hchoice, heq⟩
      rcases balanced_of_chooseBranch defined _ guard hguard _ rest branch hchoice with ⟨-, hopens⟩
      rcases chain.exists_position settings defined source guard before rest after hscan branch
        hchoice with ⟨opener, closer, hcut, -⟩
      rw [hlines] at hcut
      have hbody := ihBody (depth + 1) (before ++ opener) (closer ++ (rest ++ after))
        (by rw [hscan, hcut]; simp)
      rw [heq]
      refine TakesAll.after ?_ (.of_notes _)
      -- What happens behind the report is that of the branch and of what follows the chain.
      generalize htail : ite (place.clause.body.any ScannedLine.opens = true) _ _ = tail
      have hlater : TakesAll settings defined source tail.events tail.events := by
        rw [← htail]
        split
        · split
          · exact .of_forall_ne fun _ _ _ => List.not_mem_nil
          · exact TakesAll.after (hbody.bind fun _ => hrest) (.of_forall_ne (by simp))
        · exact TakesAll.after hrest (.of_forall_ne (by simp))
      -- The choice and the report are one front, since a taken branch has both.
      rw [Trace.after_after]
      refine hlater.after <|
        TakesAll.append (.of_isChoosing (only_chooseBranch defined _ guard _)) ?_
      intro start stop openingLine hmem
      cases List.mem_singleton.mp hmem
      refine ⟨branch, rfl, rfl, ?_⟩
      rw [Trace.after, List.append_assoc, List.singleton_append]
      refine takes_of_chooseBranch (by rw [hscan, chain.lines_eq_cons, List.cons_append]) hguard
        hchoice tail.events ?_
      intro hplain
      rw [← htail, ← hlines, ← hopens, if_neg (by simp [hplain]), scannedText_eq_flatMap]
      exact List.prefix_append _ _

/-- Whenever stripping keeps a branch, it has noted rightly whether a chain is opened in it,
    and if none is, it copies the text between the ends of the branch next. Resolving the
    stretch of the branch instead, inside any number of chains and under any symbols, would
    succeed, look nothing up and put out this same text. -/
theorem strip_copies_verbatim (settings : Settings) (defined : Text → Bool) (source : Text)
    (start stop openingLine : Nat)
    (h : .keeping start stop openingLine ∈ (strip settings defined source).events) :
    ∃ branch : Branch, branch.start = start ∧ branch.stop = stop ∧
      Takes settings defined source (strip settings defined source).events openingLine branch ∧
      (∀ depth, (⟨depth, start, stop, branch.firstLine⟩ : Stretch).IsOf settings source
        branch.lines) ∧
      (scanSpan settings source start stop branch.firstLine).lines? = some branch.lines ∧
      (branch.opensChain ↔ ∃ scanned ∈ branch.lines, scanned.opens) ∧
      (branch.opensChain = false →
        ∃ text, slice? source start stop = some text ∧
          [.keeping start stop openingLine, .copied start text] <:+:
            (strip settings defined source).events ∧
          ∀ symbols limit depth,
            (resolveLines symbols limit depth branch.lines).outcome = .ok () ∧
            asked (resolveLines symbols limit depth branch.lines) = [] ∧
            output (resolveLines symbols limit depth branch.lines) = text) := by
  have hall : TakesAll settings defined source (strip settings defined source).events
      (strip settings defined source).events := by
    have hlines := takesAll_resolveLines settings source defined settings.nestingLimit _ 0 [] []
      (List.append_nil _).symm
    exact (TakesAll.after hlines (.of_forall_ne (by simp))).bind fun _ =>
      .of_forall_ne (by simp [Trace.after, Trace.done])
  rcases hall start stop openingLine h with ⟨branch, rfl, rfl, htakes⟩
  have hchosen := htakes
  rcases hchosen with ⟨before, opening, guard, lines, after, rest, hscan, hreading, -, hchoice,
    hevents⟩
  rcases balanced_of_chooseBranch defined opening guard hreading lines rest branch hchoice with
    ⟨hbalanced, hopens⟩
  have hplace := position_of_chooseBranch settings defined source before lines after opening guard
    hscan branch rest hchoice
  rcases span_of_chooseBranch settings defined source before lines after opening guard hscan branch
    rest hchoice with ⟨hspan, hslice⟩
  refine ⟨branch, rfl, rfl, htakes, fun _ => hplace, hspan, by rw [hopens, List.any_eq_true], ?_⟩
  intro hplain
  rw [hplain, if_neg Bool.false_ne_true] at hevents
  refine ⟨_, hslice, (List.suffix_append _ _).isInfix.trans hevents, ?_⟩
  -- No line of the branch is a directive, since none opens a chain and all pair up.
  intro symbols limit depth
  have hsource := isSource_of_balanced branch.lines hbalanced (hopens ▸ hplain)
  rcases resolveLines_of_isSource symbols limit depth branch.lines hsource with ⟨hrun, houtput⟩
  refine ⟨hrun, asked_of_isSource symbols limit depth branch.lines hsource, ?_⟩
  rw [houtput, scannedText_eq_flatMap]

/-- A directive that is passed through is in the branch, and a chain is opened only in the
    branch behind it. -/
theorem strip_copies_verbatim_of_passed_through :
    .keeping 6 17 1 ∈ (strip { unknownDirectives := .passThrough } (· == ['A'])
        "#if A\n#line 1\né\n#elif B\n#if C\n#endif\n#endif\n".toList).events ∧
      ∃ branch : Branch, branch.opensChain = false ∧
        (scanSpan { unknownDirectives := .passThrough }
          "#if A\n#line 1\né\n#elif B\n#if C\n#endif\n#endif\n".toList 6 17
          branch.firstLine).lines? = some branch.lines ∧
        [.keeping 6 17 1, .copied 6 "#line 1\né\n".toList] <:+:
          (strip { unknownDirectives := .passThrough } (· == ['A'])
            "#if A\n#line 1\né\n#elif B\n#if C\n#endif\n#endif\n".toList).events ∧
        (resolveLines (fun _ => true) 0 7 branch.lines).outcome = .ok () ∧
        asked (resolveLines (fun _ => true) 0 7 branch.lines) = [] ∧
        output (resolveLines (fun _ => true) 0 7 branch.lines) = "#line 1\né\n".toList := by
  have hrun : .keeping 6 17 1 ∈ (strip { unknownDirectives := .passThrough } (· == ['A'])
      "#if A\n#line 1\né\n#elif B\n#if C\n#endif\n#endif\n".toList).events := by
    decide +kernel
  rcases strip_copies_verbatim _ _ _ 6 17 1 hrun with
    ⟨branch, -, -, -, hplace, hspan, hopens, hplain⟩
  have hnone : branch.opensChain = false := by
    rcases hplace 0 with ⟨before, after, hscan, hstart, hstop, -⟩
    dsimp only at hstart hstop
    -- Of the stretches of lines only one is at these offsets.
    have hsearch : ∀ k < 8, ∀ n < 8,
        6 = byteSize (scannedText ((scan { unknownDirectives := .passThrough }
          "#if A\n#line 1\né\n#elif B\n#if C\n#endif\n#endif\n".toList).take k)) →
        11 = byteSize (scannedText (((scan { unknownDirectives := .passThrough }
          "#if A\n#line 1\né\n#elif B\n#if C\n#endif\n#endif\n".toList).drop k).take n)) →
        (((scan { unknownDirectives := .passThrough }
          "#if A\n#line 1\né\n#elif B\n#if C\n#endif\n#endif\n".toList).drop k).take n).any
            ScannedLine.opens = false := by
      decide +kernel
    have hlength : (scan { unknownDirectives := .passThrough }
        "#if A\n#line 1\né\n#elif B\n#if C\n#endif\n#endif\n".toList).length = 7 := by
      decide +kernel
    rw [hscan] at hsearch hlength
    simp only [List.length_append] at hlength
    have hfound := hsearch before.length (by omega) branch.lines.length (by omega)
    rw [List.take_left, List.drop_left, List.take_left] at hfound
    rw [Bool.eq_false_iff, ne_eq, hopens, ← List.any_eq_true, hfound hstart (by omega)]
    exact Bool.false_ne_true
  rcases hplain hnone with ⟨text, hslice, hevents, hresolve⟩
  have htext : slice? "#if A\n#line 1\né\n#elif B\n#if C\n#endif\n#endif\n".toList 6 17 =
      some "#line 1\né\n".toList := by
    decide +kernel
  cases hslice.symm.trans htext
  exact ⟨hrun, branch, hnone, hspan, hevents, hresolve (fun _ => true) 0 7⟩

end DirectiveStrip
