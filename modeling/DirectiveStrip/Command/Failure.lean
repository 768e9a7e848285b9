import DirectiveStrip.Command.FileSystem
import DirectiveStrip.Line.Error
import DirectiveStrip.Text.Quoted

/-!
# Why a run of the command fails

A run fails because of its arguments, because a file cannot be read or written, or because the text
it is given is refused. The exit code tells the three apart.

## Main definitions

* `isStandardStream`: Whether a path stands for standard input or output.
* `displayInput`, `displayOutput`: Paths as messages name them.
* `Failure`: Why a run fails.
* `Failure.exitCode`: The exit code of a failure.
* `Failure.message`: A failure in words.
-/

namespace DirectiveStrip

/-- A path that is a single dash, which stands for a standard stream. Slashes and dots behind the
    dash do not make it another path. -/
def isStandardStream (path : Text) : Bool :=
  match splitAt '/' path with
  | first :: rest => first = ['-'] && rest.all fun name => name = [] || name = ['.']
  | [] => false

/-- The input as messages name it. -/
def displayInput (path : Text) : String :=
  if isStandardStream path then "stdin" else String.ofList path

/-- The output as messages name it. -/
def displayOutput (path : Text) : String :=
  if isStandardStream path then "stdout" else String.ofList path

/-- Why a run of the command fails. -/
inductive Failure where
  /-- Input and output are one file. -/
  | sameFile (path : Path)
  | zeroNestingLimit
  /-- A symbol to define is not a name. -/
  | invalidSymbol (name : Text)
  | unreadableSettings (path : Text) (error : FileError)
  | invalidSettings (path : Text)
  /-- There is nothing to strip and nothing to explain. -/
  | missingInput
  /-- The guard to be explained is refused. -/
  | invalidGuard (error : ParseError)
  | unreadableInput (path : Text) (error : FileError)
  /-- The source is refused. -/
  | refusedSource (path : Text) (error : DirectiveError)
  | unwritableOutput (path : Text) (error : FileError)
deriving DecidableEq

namespace Failure

/-- The exit code of a failure: 2 for files, 3 for refused text, 4 for arguments. -/
def exitCode : Failure → Nat
  | unreadableSettings _ _ | unreadableInput _ _ | unwritableOutput _ _ => 2
  | invalidGuard _ | refusedSource _ _ => 3
  | sameFile _ | zeroNestingLimit | invalidSymbol _ | invalidSettings _ | missingInput => 4

/-- The failure in words, from the outermost circumstance to the innermost. -/
def message : Failure → String
  | sameFile path => "Input and output files cannot be the same: " ++ String.ofList path.render
  | zeroNestingLimit => "Nesting limit must be greater than 0"
  | invalidSymbol name => "Invalid symbol name: " ++ String.ofList (quote name)
  | unreadableSettings path error =>
    "Failed to read config file: " ++ String.ofList path ++ ": " ++ error.message
  | invalidSettings path =>
    "Invalid config file " ++ String.ofList path ++ ": not a settings object"
  | missingInput => "an input file is required"
  | invalidGuard error => error.message
  | unreadableInput path error =>
    if isStandardStream path then "Failed to read from stdin: " ++ error.message
    else "Failed to read input file: " ++ String.ofList path ++ ": " ++ error.message
  | refusedSource path error =>
    let reason := match error.source? with
      | some source => ": " ++ source.message
      | none => ""
    "Failed to process " ++ displayInput path ++ ": " ++ error.message ++ reason
  | unwritableOutput path error =>
    "Failed to write to output file: " ++ String.ofList path ++ ": " ++ error.message

end Failure

end DirectiveStrip
