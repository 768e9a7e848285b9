import DirectiveStrip.Command.Run
import DirectiveStrip.Proofs.Guard.WrittenForm

/-!
# Which Symbols Can Be Defined

A symbol can be defined on the command line if it is a guard that stands for
itself. `isSymbol` finds that out by parsing it, so white space, brackets,
operators and wrong characters are all refused without being named. This module
says which texts are left: the identifiers, and they are the names that guards
are about.

Parsing finds identifiers only (`isIdentifier_of_parse`), so a text that is
parsed to itself is one. The other way round, an identifier is its own written
form, and written forms are read back (`parse_identifier`). A symbol that no
guard can mention is therefore never accepted, and one that some guard mentions
is never refused.

## Theorems

* `isIdentifier_iff`: An identifier, character by character.
* `parse_identifier`: An identifier is parsed to itself.
* `isSymbol_iff_parse`: What can be defined is what stands for itself.
* `isSymbol_eq_isIdentifier`: What can be defined is an identifier.
* `validateOptions_eq_ok_iff`: When options make sense together.
* `validateOptions_append`: The options with one more symbol to define.
* `definable_symbols_are_guard_names`: The symbols that can be defined are the
  identifiers, and the names in guards.
-/

namespace DirectiveStrip

theorem isIdentifier_iff (name : Text) :
    isIdentifier name = true ↔
      name ≠ [] ∧ (∀ c ∈ name.head?, isAlphabetic c = true ∨ c = '_') ∧
        ∀ c ∈ name, isAlphanumeric c = true ∨ c = '_' := by
  cases name with
  | nil => simp only [isIdentifier, Bool.false_eq_true, ne_eq, not_true_eq_false, false_and]
  | cons first rest =>
      have hcontinue (c : Char) :
          isSymbolContinue c = true ↔ isAlphanumeric c = true ∨ c = '_' := by
        rw [isSymbolContinue, Bool.or_eq_true, beq_iff_eq]
      have hstart : isSymbolStart first = true ↔ isAlphabetic first = true ∨ first = '_' := by
        rw [isSymbolStart, Bool.or_eq_true, beq_iff_eq]
      simp only [← hcontinue, isIdentifier, Bool.and_eq_true, List.all_eq_true, List.head?_cons,
        Option.mem_def, Option.some.injEq, forall_eq', ← hstart, List.forall_mem_cons, ne_eq,
        reduceCtorEq, not_false_eq_true, true_and]
      constructor
      · intro h
        exact ⟨h.1, isSymbolContinue_of_isSymbolStart h.1, h.2⟩
      · intro h
        exact ⟨h.1, h.2.2⟩

/-- An identifier is its own written form, which has no brackets. -/
theorem parse_identifier (limit : Nat) (name : Text) (h : isIdentifier name = true) :
    Guard.parse limit name = .ok (.symbol name) := by
  have hnames : ∀ other ∈ (Guard.symbol name).symbols, isIdentifier other = true := by
    intro other hother
    rw [List.mem_singleton.mp hother, h]
  have hparse := parse_render {} limit (.symbol name) hnames
  rwa [Guard.writtenNesting, if_neg (Nat.not_lt_zero limit)] at hparse

/-- What can be defined is what stands for itself. -/
theorem isSymbol_iff_parse (name : Text) :
    isSymbol name = true ↔ Guard.parse defaultNestingLimit name = .ok (.symbol name) := by
  constructor
  · intro h
    unfold isSymbol at h
    split at h
    · next parsed hparse => rw [hparse, of_decide_eq_true h]
    · cases h
  · intro h
    rw [isSymbol, h]
    exact decide_eq_true rfl

theorem isSymbol_eq_isIdentifier (name : Text) : isSymbol name = isIdentifier name := by
  rw [Bool.eq_iff_iff, isSymbol_iff_parse]
  constructor
  · intro h
    exact isIdentifier_of_parse {} _ name _ h name List.mem_cons_self
  · intro h
    exact parse_identifier _ name h

/-- Options make sense together if input and output are two files, the nesting
    limit is not zero, and all symbols can be defined. -/
theorem validateOptions_eq_ok_iff (files : FileSystem) (options : Options) :
    validateOptions files options = .ok () ↔
      sharedFile? files options = none ∧ options.nestingLimit? ≠ some 0 ∧
        ∀ name ∈ options.symbols, isSymbol name = true := by
  unfold validateOptions
  cases hshared : sharedFile? files options with
  | some path => simp only [reduceCtorEq, false_and]
  | none =>
      by_cases hlimit : options.nestingLimit? = some 0
      · simp only [hlimit, if_true, reduceCtorEq, ne_eq, not_true_eq_false, false_and, and_false]
      · rcases hfind : options.symbols.find? (!isSymbol ·) with _ | refused
        · simp only [List.find?_eq_none, Bool.not_eq_true', Bool.not_eq_false] at hfind
          simp only [true_and, ne_eq, hlimit, not_false_eq_true]
          exact ⟨fun _ => hfind, fun _ => rfl⟩
        · -- The first symbol that cannot be defined is reported.
          have hrefused := List.find?_some hfind
          rw [Bool.not_eq_true'] at hrefused
          simp only [if_neg hlimit, reduceCtorEq, true_and, false_iff, not_and]
          intro _ hall
          rw [hall refused (List.mem_of_find?_eq_some hfind)] at hrefused
          cases hrefused

/-- One more symbol is accepted if the others are and it can be defined. -/
theorem validateOptions_append (files : FileSystem) (options : Options) (name : Text) :
    validateOptions files { options with symbols := options.symbols ++ [name] } = .ok () ↔
      validateOptions files options = .ok () ∧ isSymbol name = true := by
  have hshared : sharedFile? files { options with symbols := options.symbols ++ [name] }
      = sharedFile? files options := rfl
  rw [validateOptions_eq_ok_iff, validateOptions_eq_ok_iff, hshared]
  simp only [List.forall_mem_append, List.forall_mem_singleton, and_assoc]

/-- The symbols that can be defined are the texts that begin with a letter or an
    underscore and go on with letters, digits and underscores. They are the names
    that parsed guards mention, and each is parsed to itself. Accepted options
    stay accepted with one more symbol exactly if it is one of them. -/
theorem definable_symbols_are_guard_names (name : Text) :
    (isSymbol name = true ↔
      name ≠ [] ∧ (∀ c ∈ name.head?, isAlphabetic c = true ∨ c = '_') ∧
        ∀ c ∈ name, isAlphanumeric c = true ∨ c = '_') ∧
    (isSymbol name = true ↔
      ∃ expression guard, Guard.parse defaultNestingLimit expression = .ok guard ∧
        name ∈ guard.symbols) ∧
    (isSymbol name = true ↔ Guard.parse defaultNestingLimit name = .ok (.symbol name)) ∧
    ∀ files (options : Options),
      validateOptions files { options with symbols := options.symbols ++ [name] } = .ok () ↔
        validateOptions files options = .ok () ∧ isSymbol name = true := by
  refine ⟨?_, ⟨?_, ?_⟩, isSymbol_iff_parse name,
    fun files options => validateOptions_append files options name⟩
  · rw [isSymbol_eq_isIdentifier, isIdentifier_iff]
  · intro h
    exact ⟨name, .symbol name, (isSymbol_iff_parse name).mp h, List.mem_cons_self⟩
  · intro h
    rcases h with ⟨expression, guard, hparse, hmem⟩
    rw [isSymbol_eq_isIdentifier]
    exact isIdentifier_of_parse {} _ expression guard hparse name hmem

end DirectiveStrip
