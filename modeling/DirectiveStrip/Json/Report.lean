import DirectiveStrip.Text.Basic

/-!
# Reports in JSON

Results for other programs are written as one JSON object, laid out over several lines with two
spaces of indentation. The values in it are plain ones or lists of texts, so there is nothing to
nest.

## Main definitions

* `escapeJson`: One character as it stands in a string literal.
* `ReportValue`: What a report can say about something.
* `fieldLine`: A field of a report.
* `renderReport`: A report with its fields in the given order.

## Theorems

* `fieldLine_infix_renderReport`: A report has a line for each of its fields.
* `fieldLine_suffix_renderReport`: A report ends with its last field.
-/

namespace DirectiveStrip

/-- A character as it stands in a string literal. Control characters are escaped, by their short
    names if they have one, and everything else stands for itself. -/
def escapeJson (c : Char) : Text :=
  if c = '"' then ['\\', '"']
  else if c = '\\' then ['\\', '\\']
  else if c = '\x08' then ['\\', 'b']
  else if c = '\x0c' then ['\\', 'f']
  else if c = '\n' then ['\\', 'n']
  else if c = '\r' then ['\\', 'r']
  else if c = '\t' then ['\\', 't']
  else if c.toNat < 0x20 then
    ['\\', 'u', '0', '0'] ++ Nat.toDigits 16 (c.toNat / 16) ++ Nat.toDigits 16 (c.toNat % 16)
  else [c]

/-- A string literal. -/
def jsonLiteral (text : Text) : Text :=
  '"' :: text.flatMap escapeJson ++ ['"']

/-- What a report can say about something. -/
inductive ReportValue where
  /-- Nothing. -/
  | nothing
  | flag (value : Bool)
  | count (value : Nat)
  /-- A fraction, by its decimal digits. -/
  | decimal (digits : Text)
  | text (value : Text)
  | texts (values : List Text)
deriving DecidableEq, Repr

/-- The value as it stands in a report. The items of a list have lines of their own. -/
def ReportValue.render : ReportValue → Text
  | nothing => "null".toList
  | flag value => (toString value).toList
  | count value => (toString value).toList
  | decimal digits => digits
  | text value => jsonLiteral value
  | texts [] => ['[', ']']
  | texts values =>
    let lines := values.map fun value => "    ".toList ++ jsonLiteral value
    "[\n".toList ++ joinWith [',', '\n'] lines ++ "\n  ]".toList

/-- A field of a report, as it stands there. -/
def fieldLine (name : String) (value : ReportValue) : Text :=
  "  ".toList ++ jsonLiteral name.toList ++ ": ".toList ++ value.render

/-- A report with its fields in the given order. -/
def renderReport (fields : List (String × ReportValue)) : Text :=
  let lines := fields.map fun (name, value) => fieldLine name value
  "\x7b\n".toList ++ joinWith [',', '\n'] lines ++ "\n\x7d".toList

theorem infix_joinWith (separator piece : Text) (pieces : List Text) (h : piece ∈ pieces) :
    piece <:+: joinWith separator pieces := by
  fun_induction joinWith separator pieces with
  | case1 => cases h
  | case2 only =>
      cases List.mem_singleton.mp h
      exact List.infix_rfl
  | case3 first rest hrest ih =>
      rcases List.mem_cons.mp h with rfl | hmem
      · rw [List.append_assoc]
        exact (List.prefix_append _ _).isInfix
      · exact (ih hmem).trans (List.suffix_append _ _).isInfix

theorem suffix_joinWith (separator last : Text) (pieces : List Text) :
    last <:+ joinWith separator (pieces ++ [last]) := by
  induction pieces with
  | nil => exact List.suffix_rfl
  | cons piece pieces ih =>
      rw [List.cons_append]
      generalize hrest : pieces ++ [last] = rest at ih ⊢
      rcases rest with _ | ⟨next, rest⟩
      · exact absurd hrest (by simp)
      · exact ih.trans (List.suffix_append (piece ++ separator) _)

/-- A report has a line for each of its fields. -/
theorem fieldLine_infix_renderReport (fields : List (String × ReportValue)) (name : String)
    (value : ReportValue) (h : (name, value) ∈ fields) :
    fieldLine name value <:+: renderReport fields := by
  refine List.IsInfix.trans ?_
    ((List.suffix_append _ _).isInfix.trans (List.prefix_append _ _).isInfix)
  exact infix_joinWith _ _ _ (List.mem_map.mpr ⟨(name, value), h, rfl⟩)

/-- A report ends with its last field. -/
theorem fieldLine_suffix_renderReport (fields : List (String × ReportValue)) (name : String)
    (value : ReportValue) :
    fieldLine name value ++ "\n\x7d".toList <:+ renderReport (fields ++ [(name, value)]) := by
  unfold renderReport
  rw [List.map_append, List.map_singleton]
  dsimp only
  rcases suffix_joinWith [',', '\n'] (fieldLine name value) (fields.map fun (name, value) =>
    fieldLine name value) with ⟨before, hjoin⟩
  refine ⟨"\x7b\n".toList ++ before, ?_⟩
  rw [← hjoin]
  simp only [List.append_assoc]

end DirectiveStrip
