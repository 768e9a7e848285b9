import DirectiveStrip.Command.Log
import DirectiveStrip.Command.Options
import DirectiveStrip.Json.Report
import DirectiveStrip.Settings.File

/-!
# Tools of the command

Some of the work of the command is not its own: to read arguments and settings files, to write
reports and to keep a log. A run only uses what comes of it, so the tools for this work are a
parameter of a run. `Toolkit.standard` has the ones that the command is built with.

Of a report a little more is asked for. Whoever reads it has to find the fields that were put into
it, so every field stands there on lines of its own, and the last one ends the report.

## Main definitions

* `ReportFormat`: A way to write reports.
* `Toolkit`: Tools for a run.
* `ReportFormat.standard`, `Toolkit.standard`: What the command is built with.
-/

namespace DirectiveStrip

/-- A way to write reports. -/
structure ReportFormat where
  render : List (String × ReportValue) → Text
  fieldLine_infix (fields : List (String × ReportValue)) (name : String) (value : ReportValue) :
    (name, value) ∈ fields → fieldLine name value <:+: render fields
  fieldLine_suffix (fields : List (String × ReportValue)) (name : String) (value : ReportValue) :
    fieldLine name value ++ "\n\x7d".toList <:+ render (fields ++ [(name, value)])

/-- Reports in JSON. -/
def ReportFormat.standard : ReportFormat where
  render := renderReport
  fieldLine_infix := fieldLine_infix_renderReport
  fieldLine_suffix := fieldLine_suffix_renderReport

/-- Tools for a run. -/
structure Toolkit where
  parseArguments : List Text → Except Interruption Options
  parseSettings? : Text → Option SettingsFile
  /-- What the log says about a record, given its level and what the environment says about it. -/
  logEntry : LogLevel → Option Text → LogRecord → Text
  report : ReportFormat

/-- The tools that the command is built with. -/
def Toolkit.standard : Toolkit where
  parseArguments := Options.parse
  parseSettings? := SettingsFile.parse?
  logEntry level specification? := (LogFilter.ofLevel level specification?).entry
  report := .standard

end DirectiveStrip
