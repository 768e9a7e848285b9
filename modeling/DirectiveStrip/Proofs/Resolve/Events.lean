import DirectiveStrip.Proofs.Resolve.Walk

/-!
# Looking at the Events

What a run puts out, which symbols it asks for, which guards it evaluates: all of
these are read off its events, one event at a time, and each of them passes over most
sorts of events. So what is seen of a run is put together from what is seen of its
parts, and a part is dismissed by the sorts of events that it has.

The walks over a chain have few sorts. Reading a line may report that its trailing
text is ignored, and the search for a branch reports its guards and how it ended.
Nothing is copied and nothing is resolved while a branch is chosen.

## Main definitions

* `Trace.Only`: All events of a computation are of one sort.
* `Event.isNote`, `Event.isChoosing`: The sorts of the walks.
* `Resolution.view`: What is seen of a part of stripping.

## Theorems

* `only_takeBranch`, `only_chooseBranch`: The events of the walks.
* `Resolution.view_after`, `Resolution.view_bind`: What is seen, part by part.
* `Resolution.view_eq_nil`: Of events of a sort that is passed over nothing is seen.
* `Resolution.view_strip`: What is seen of stripping.
-/

namespace DirectiveStrip

namespace Trace

variable {σ ε α β : Type}

/-- All events of a computation are of one sort. -/
def Only (sort : σ → Bool) (trace : Trace σ ε α) : Prop :=
  ∀ event ∈ trace.events, sort event

theorem only_done (sort : σ → Bool) (value : α) : (done value : Trace σ ε α).Only sort := by
  intro event hevent
  cases hevent

theorem only_fail (sort : σ → Bool) (error : ε) : (fail error : Trace σ ε α).Only sort := by
  intro event hevent
  cases hevent

theorem Only.after {sort : σ → Bool} {trace : Trace σ ε α} (h : trace.Only sort)
    (events : List σ) (hevents : ∀ event ∈ events, sort event) :
    (trace.after events).Only sort := by
  intro event hevent
  rcases List.mem_append.mp hevent with hmem | hmem
  · exact hevents event hmem
  · exact h event hmem

theorem Only.map {sort : σ → Bool} {trace : Trace σ ε α} (h : trace.Only sort) (f : α → β) :
    (trace.map f).Only sort :=
  h

theorem Only.bind {sort : σ → Bool} {trace : Trace σ ε α} (h : trace.Only sort)
    (next : α → Trace σ ε β) (hnext : ∀ value, (next value).Only sort) :
    (trace.bind next).Only sort := by
  unfold Trace.bind
  split
  · exact (hnext _).after _ h
  · exact h

theorem Only.mono {sort sort' : σ → Bool} {trace : Trace σ ε α} (h : trace.Only sort)
    (hsort : ∀ event, sort event → sort' event) : trace.Only sort' :=
  fun event hevent => hsort event (h event hevent)

end Trace

/-! ### The sorts of the walks -/

namespace Event

/-- Trailing text is ignored. -/
def isNote : Event → Bool
  | ignoredText _ _ => true
  | _ => false

/-- What happens while a branch is chosen. -/
def isChoosing : Event → Bool
  | ignoredText _ _ | evaluated _ _ _ _ | elseTaken _ | noBranchTaken _ _ => true
  | _ => false

theorem isChoosing_of_isNote (event : Event) (h : event.isNote) : event.isChoosing := by
  cases event with
  | ignoredText line text => rfl
  | _ => cases h

end Event

theorem isNote_of_mem_notes (scanned : ScannedLine) :
    ∀ event ∈ scanned.notes, event.isNote := by
  unfold ScannedLine.notes
  split
  · split <;> simp [Event.isNote]
  · split <;> simp [Event.isNote]
  · simp

/-- Of the notes of a line nothing is seen by a look that passes over notes. -/
theorem flatMap_notes {γ : Type} (look : Event → List γ)
    (hlook : ∀ event, event.isNote → look event = []) (scanned : ScannedLine) :
    scanned.notes.flatMap look = [] := by
  rw [List.flatMap_eq_nil_iff]
  intro event hevent
  exact hlook event (isNote_of_mem_notes scanned event hevent)

theorem only_collectBody (opening : Line) (nested : Nat) (lines : List ScannedLine) :
    (collectBody opening nested lines).Only Event.isNote := by
  induction lines generalizing nested with
  | nil => exact Trace.only_fail _ _
  | cons scanned rest ih =>
      rw [collectBody]
      refine Trace.Only.after ?_ _ (isNote_of_mem_notes scanned)
      split
      · exact Trace.only_fail _ _
      · exact (ih nested).map _
      · exact (ih (nested + 1)).map _
      · split
        · exact Trace.only_done _ _
        · exact (ih nested).map _
      · split
        · exact Trace.only_done _ _
        · exact (ih nested).map _
      · split
        · exact Trace.only_done _ _
        · exact (ih (nested - 1)).map _

theorem only_skipChain (opening : Line) (afterElse : Bool) (nested : Nat)
    (lines : List ScannedLine) : (skipChain opening afterElse nested lines).Only Event.isNote := by
  induction lines generalizing afterElse nested with
  | nil => exact Trace.only_fail _ _
  | cons scanned rest ih =>
      rw [skipChain]
      refine Trace.Only.after ?_ _ (isNote_of_mem_notes scanned)
      split
      · exact Trace.only_fail _ _
      · exact ih _ _
      · exact ih _ _
      · split
        · split
          · exact Trace.only_fail _ _
          · exact ih _ _
        · exact ih _ _
      · split
        · split
          · exact Trace.only_fail _ _
          · exact ih _ _
        · exact ih _ _
      · split
        · exact Trace.only_done _ _
        · exact ih _ _

/-- Once a branch is taken, no guard is looked at any more. -/
theorem only_takeBranch (opening head : Line) (afterElse : Bool) (lines : List ScannedLine) :
    (takeBranch opening head afterElse lines).Only Event.isNote := by
  rw [takeBranch]
  refine (only_collectBody opening 0 lines).bind _ ?_
  intro body
  dsimp only
  split
  · split
    · exact Trace.only_fail _ _
    · exact (only_skipChain opening _ 0 _).map _
  · split
    · exact Trace.only_fail _ _
    · exact (only_skipChain opening _ 0 _).map _
  · exact Trace.only_done _ _

theorem only_findBranch (defined : Text → Bool) (opening : Line) (nested : Nat)
    (lines : List ScannedLine) :
    (findBranch defined opening nested lines).Only Event.isChoosing := by
  have htake (head : Line) (afterElse : Bool) (rest : List ScannedLine) :
      (takeBranch opening head afterElse rest).Only Event.isChoosing :=
    (only_takeBranch opening head afterElse rest).mono Event.isChoosing_of_isNote
  induction lines generalizing nested with
  | nil => exact Trace.only_fail _ _
  | cons scanned rest ih =>
      rw [findBranch]
      refine Trace.Only.after ?_ _ fun event hevent =>
        event.isChoosing_of_isNote (isNote_of_mem_notes scanned event hevent)
      split
      · exact Trace.only_fail _ _
      · exact ih _
      · exact ih _
      · split
        · refine Trace.Only.after ?_ _ (by simp [Event.isChoosing])
          split
          · exact htake _ _ _
          · exact ih _
        · exact ih _
      · split
        · exact (htake _ _ _).after _ (by simp [Event.isChoosing])
        · exact ih _
      · split
        · exact (Trace.only_done _ _).after _ (by simp [Event.isChoosing])
        · exact ih _

theorem only_chooseBranch (defined : Text → Bool) (opening : Line) (guard : Guard)
    (lines : List ScannedLine) :
    (chooseBranch defined opening guard lines).Only Event.isChoosing := by
  rw [chooseBranch]
  refine Trace.Only.after ?_ _ (by simp [Event.isChoosing])
  split
  · exact (only_takeBranch opening opening false lines).mono Event.isChoosing_of_isNote
  · exact only_findBranch defined opening 0 lines

/-! ### What is seen of a part -/

namespace Resolution

variable {α β γ : Type} (look : Event → List γ)

/-- What is seen of a part of stripping when each event is looked at in one way. -/
def view (resolution : Resolution α) : List γ :=
  resolution.events.flatMap look

@[simp] theorem view_after (events : List Event) (resolution : Resolution α) :
    view look (resolution.after events) = events.flatMap look ++ view look resolution := by
  rw [view, view, Trace.after, List.flatMap_append]

/-- A part that fails hides what would have come after it. -/
theorem view_bind (resolution : Resolution α) (next : α → Resolution β) :
    view look (resolution.bind next) =
      view look resolution ++
        match resolution.outcome with
        | .ok value => view look (next value)
        | .error _ => [] := by
  unfold Trace.bind
  rcases resolution.outcome with error | value
  · exact (List.append_nil _).symm
  · exact view_after look _ _

theorem view_eq_nil (resolution : Resolution α) (sort : Event → Bool)
    (h : resolution.Only sort) (hlook : ∀ event, sort event → look event = []) :
    view look resolution = [] := by
  rw [view, List.flatMap_eq_nil_iff]
  intro event hevent
  exact hlook event (h event hevent)

/-- Events of which nothing is seen leave what is seen behind them. -/
theorem view_after_nil (events : List Event) (resolution : Resolution α)
    (h : events.flatMap look = []) :
    view look (resolution.after events) = view look resolution := by
  rw [view_after, h, List.nil_append]

/-- What is seen of stripping is what is seen of resolving the lines, to a look that
    passes over the two events around it. -/
theorem view_strip (settings : Settings) (defined : Text → Bool) (source : Text)
    (hresolving : look (.resolving 0 0 (byteSize source) 1) = [])
    (hfinished : ∀ kept total, look (.finished kept total) = []) :
    view look (strip settings defined source) =
      view look (resolveLines defined settings.nestingLimit 0 (scan settings source)) := by
  rw [strip, view_bind, Trace.outcome_after, view_after_nil look _ _ (by simp [hresolving])]
  split
  · rw [view_after_nil look _ _ (by simp [hfinished])]
    exact List.append_nil _
  · exact List.append_nil _

end Resolution

end DirectiveStrip
