import DirectiveStrip.Command.Run

/-!
# The command

The program around `runCommand`. It looks at the arguments, the environment, standard input and the
paths that the options name, lets `runCommand` decide, and makes what it decided come true. Nothing
is decided here, so everything that can be said about a run is said about `runCommand`.

## Main definitions

* `FileSystem.inspect`: What the file system holds along a written path.
* `Invocation.gather`: What a run is given.
* `Outcome.enact`: Show what a run leaves behind.
* `main`: The command.
-/

namespace DirectiveStrip

/-- What the file system holds at a path. A directory is what cannot be read because it is none of
    the things that hold bytes. -/
def Entry.inspect (path : Path) : IO (Option Entry) := do
  match ← (IO.FS.readBinFile (String.ofList path.render)).toBaseIO with
  | .ok content => return some (.file content)
  | .error (.inappropriateType ..) => return some .directory
  | .error _ => return none

/-- A file system value with what the real one holds along a written path. -/
def FileSystem.inspect (files : FileSystem) (text : Text) : IO FileSystem := do
  let mut files := files
  let mut path := files.startOf text
  for name in [] :: splitAt '/' text do
    path := path.enter name
    if let some entry ← Entry.inspect path then
      files := files.insert path entry
  return files

/-- The paths that options name. -/
def Options.paths (options : Options) : List Text :=
  [options.input?, options.output?, options.settingsFile?].filterMap id

/-- Whether options ask for standard input to be read. -/
def Options.readsStandardInput (options : Options) : Bool :=
  options.input?.any isStandardStream && options.explain?.isNone && !options.dryRun

/-- Everything that a run with these arguments is given. What the options do not name is not looked
    at. -/
def Invocation.gather (arguments : List Text) : IO Invocation := do
  let directory := (toString (← IO.currentDir)).toList
  let start : FileSystem :=
    { workingDirectory := (splitAt '/' directory).filter (!·.isEmpty), entries := [] }
  let specification? := (← IO.getEnv "RUST_LOG").map String.toList
  match Options.parse arguments with
  | .error _ => return { arguments, logSpecification? := specification?, files := start }
  | .ok options =>
    let standardInput ←
      if options.readsStandardInput then (← IO.getStdin).readBinToEnd else pure .empty
    let files ← options.paths.foldlM FileSystem.inspect start
    return { arguments, standardInput, logSpecification? := specification?, files }

/-- How long a run takes, in nanoseconds. -/
def Invocation.measure (invocation : Invocation) : IO Nat := do
  let start ← IO.monoNanosNow
  let _ ← IO.lazyPure fun _ => runCommand invocation
  return (← IO.monoNanosNow) - start

/-- Write the files in which a run differs from what it was given, and print what it says. -/
def Outcome.enact (outcome : Outcome) (given : FileSystem) : IO Unit := do
  for (path, entry) in outcome.files.entries do
    if let .file content := entry then
      unless given.lookup? path = some entry do
        IO.FS.writeBinFile (String.ofList path.render) content
  (← IO.getStdout).write (encodeText outcome.standardOutput)
  (← IO.getStderr).write (encodeText outcome.standardError)

end DirectiveStrip

open DirectiveStrip in
/-- The command. -/
def main (arguments : List String) : IO UInt32 := do
  let invocation ← Invocation.gather (arguments.map String.toList)
  let outcome := runCommand { invocation with elapsed := ← invocation.measure }
  outcome.enact invocation.files
  return outcome.exitCode.toUInt32
