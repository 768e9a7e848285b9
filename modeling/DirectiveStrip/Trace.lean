/-!
# Traces

A computation that reports what it does and may fail. The report is a list of events, first to last,
and it is there whether the computation succeeded or not: a failure ends the list but does not take
it back.

## Main definitions

* `Trace`: Events, and a value or an error.
* `Trace.done`, `Trace.fail`, `Trace.emit`: The computations of one step.
* `Trace.after`: Events before everything else.
* `Trace.bind`: One computation and then, unless it failed, another.
* `Trace.rephrase`: The same computation, reported in other words.

## Theorems

* `Trace.after_bind`: Events before a sequence are events before its first part.
* `Trace.outcome_bind`: The outcome of a sequence is that of its last part.
* `Trace.outcome_bind_eq_ok`: A sequence succeeds only if both parts do.
* `Trace.outcome_map_eq_ok`: Changing the value changes nothing else.
-/

namespace DirectiveStrip

/-- The events of a computation, first to last, and how it ended. -/
structure Trace (σ ε α : Type) where
  events : List σ
  outcome : Except ε α

namespace Trace

variable {σ τ ε δ α β : Type}

/-- Nothing happens. -/
def done (value : α) : Trace σ ε α := ⟨[], .ok value⟩

/-- An error ends the computation. -/
def fail (error : ε) : Trace σ ε α := ⟨[], .error error⟩

/-- One thing happens. -/
def emit (event : σ) : Trace σ ε Unit := ⟨[event], .ok ()⟩

/-- Events that come before everything else. -/
def after (events : List σ) (trace : Trace σ ε α) : Trace σ ε α :=
  ⟨events ++ trace.events, trace.outcome⟩

/-- Change the value, if there is one. -/
def map (f : α → β) (trace : Trace σ ε α) : Trace σ ε β :=
  ⟨trace.events, trace.outcome.map f⟩

/-- One computation and then, unless it failed, another. -/
def bind (trace : Trace σ ε α) (next : α → Trace σ ε β) : Trace σ ε β :=
  match trace.outcome with
  | .ok value => (next value).after trace.events
  | .error error => ⟨trace.events, .error error⟩

instance : Monad (Trace σ ε) where
  pure := done
  bind := bind

/-- A computation without events. -/
def ofExcept : Except ε α → Trace σ ε α
  | .ok value => done value
  | .error error => fail error

/-- The same computation with its events and its error put in other words. An event may take any
    number of words. -/
def rephrase (events : σ → List τ) (error : ε → δ) (trace : Trace σ ε α) : Trace τ δ α :=
  ⟨trace.events.flatMap events, trace.outcome.mapError error⟩

@[simp] theorem outcome_after (events : List σ) (trace : Trace σ ε α) :
    (trace.after events).outcome = trace.outcome := rfl

@[simp] theorem outcome_map (f : α → β) (trace : Trace σ ε α) :
    (trace.map f).outcome = trace.outcome.map f := rfl

theorem after_after (events events' : List σ) (trace : Trace σ ε α) :
    (trace.after events').after events = trace.after (events ++ events') := by
  rw [after, after, after, List.append_assoc]

/-- What comes before the first part comes before the whole. -/
theorem after_bind (events : List σ) (trace : Trace σ ε α) (next : α → Trace σ ε β) :
    (trace.after events).bind next = (trace.bind next).after events := by
  rcases trace with ⟨events', error | value⟩
  · rfl
  · exact (after_after events events' (next value)).symm

theorem outcome_bind_eq_ok {trace : Trace σ ε α} {next : α → Trace σ ε β} {value : β}
    (h : (trace.bind next).outcome = .ok value) :
    ∃ first, trace.outcome = .ok first ∧ (next first).outcome = .ok value := by
  unfold bind at h
  split at h
  · next first hfirst => exact ⟨first, hfirst, h⟩
  · cases h

theorem outcome_bind (trace : Trace σ ε α) (next : α → Trace σ ε β) :
    (trace.bind next).outcome = trace.outcome.bind fun value => (next value).outcome := by
  unfold bind
  rcases trace.outcome with error | value <;> rfl

theorem outcome_bind_of_eq_ok {trace : Trace σ ε α} {value : α} (next : α → Trace σ ε β)
    (h : trace.outcome = .ok value) : (trace.bind next).outcome = (next value).outcome := by
  rw [bind, h, outcome_after]

theorem outcome_map_eq_ok {f : α → β} {trace : Trace σ ε α} {value : β}
    (h : (trace.map f).outcome = .ok value) :
    ∃ first, trace.outcome = .ok first ∧ f first = value := by
  rw [outcome_map] at h
  cases hfirst : trace.outcome with
  | error error => simp [hfirst, Except.map] at h
  | ok first => exact ⟨first, rfl, by simpa [hfirst, Except.map] using h⟩

end Trace

end DirectiveStrip
