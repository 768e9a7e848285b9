import DirectiveStrip.Text.Utf8

/-!
# A file system as a value

What a run of the command can see of the file system: files and directories by their full path, and
the directory that relative paths start from. There are no links, so a path that exists has one
resolved form. Reading and writing are functions on such values, and a write that fails has no new
value at all.

## Main definitions

* `Path`: The names from the root down to a file or directory.
* `Path.enter`: The path that a name leads to.
* `FileError`: Why something cannot be read or written, and its `message`.
* `FileSystem`: Files and directories, and the working directory.
* `longestName`, `longestPath`: How long names and paths may be.
* `FileSystem.locate`: The full path that a written path leads to.
* `FileSystem.resolve?`: The same, if something is there.
* `FileSystem.read`: The contents of a file.
* `FileSystem.write`: The file system after writing a file.

## Theorems

* `FileSystem.lookup?_insert_self`, `FileSystem.lookup?_insert_of_ne`: Writing changes one path.
-/

namespace DirectiveStrip

/-- The names from the root down; the root itself is the empty path. -/
abbrev Path := List Text

/-- A path written from the root. -/
def Path.render (path : Path) : Text :=
  if path.isEmpty then ['/'] else path.flatMap ('/' :: ·)

/-- The path that a name leads to. An empty name and a single dot stay, two dots go up. -/
def Path.enter (path : Path) (name : Text) : Path :=
  if name = [] ∨ name = ['.'] then path
  else if name = ['.', '.'] then path.dropLast
  else path ++ [name]

/-- The most bytes that one name may have. -/
def longestName : Nat := 255

/-- The most bytes that a written path may have if it is to be opened. -/
def longestPath : Nat := 4095

/-- Why something cannot be read or written. -/
inductive FileError where
  | notFound
  | notDirectory
  | isDirectory
  /-- A path, or a name in it, is longer than paths and names may be. -/
  | nameTooLong
  /-- The contents are not UTF-8. -/
  | notText
deriving DecidableEq, Repr

/-- The error in words. -/
def FileError.message : FileError → String
  | notFound => "No such file or directory (os error 2)"
  | notDirectory => "Not a directory (os error 20)"
  | isDirectory => "Is a directory (os error 21)"
  | nameTooLong => "File name too long (os error 36)"
  | notText => "stream did not contain valid UTF-8"

/-- What is found at a path. -/
inductive Entry where
  | file (content : ByteArray)
  | directory

instance : DecidableEq Entry
  | .file first, .file second =>
    if h : first.data = second.data then isTrue (congrArg Entry.file (ByteArray.ext h))
    else isFalse fun h' => h (congrArg ByteArray.data (Entry.file.inj h'))
  | .directory, .directory => isTrue rfl
  | .file _, .directory => isFalse nofun
  | .directory, .file _ => isFalse nofun

/-- Files and directories by path, and the directory that relative paths start from. -/
structure FileSystem where
  workingDirectory : Path
  entries : List (Path × Entry)
deriving DecidableEq

namespace FileSystem

/-- What is found at a path. -/
def lookup? (files : FileSystem) (path : Path) : Option Entry :=
  (files.entries.find? (·.1 = path)).map (·.2)

/-- The file system with an entry put at a path. -/
def insert (files : FileSystem) (path : Path) (entry : Entry) : FileSystem :=
  { files with entries := (path, entry) :: files.entries.filter (·.1 ≠ path) }

/-- Go from a directory to a name in it. The directory has to be there, the name does not. -/
def descend (files : FileSystem) (path : Path) (name : Text) : Except FileError Path :=
  match files.lookup? path with
  | none => .error .notFound
  | some (.file _) => .error .notDirectory
  | some .directory =>
    if longestName < byteSize name then .error .nameTooLong else .ok (path.enter name)

/-- The full path that names lead to. Every name but the last has to lead to a directory. -/
def walk (files : FileSystem) (start : Path) (names : List Text) : Except FileError Path :=
  names.foldlM files.descend start

/-- Where the walk along a written path begins. -/
def startOf (files : FileSystem) (text : Text) : Path :=
  if text.head? = some '/' then [] else files.workingDirectory

/-- The full path that a written path leads to, whether or not something is there. -/
def locate (files : FileSystem) (text : Text) : Except FileError Path :=
  files.walk (files.startOf text) (splitAt '/' text)

/-- The full path of something that exists. -/
def resolve? (files : FileSystem) (text : Text) : Option Path :=
  match files.locate text with
  | .ok path => if (files.lookup? path).isSome then some path else none
  | .error _ => none

/-- A path that is too long cannot be opened, wherever it leads. -/
def checkLength (text : Text) : Except FileError Unit :=
  if longestPath < byteSize text then .error .nameTooLong else .ok ()

/-- The contents of a file. -/
def read (files : FileSystem) (text : Text) : Except FileError ByteArray := do
  checkLength text
  match files.lookup? (← files.locate text) with
  | none => .error .notFound
  | some .directory => .error .isDirectory
  | some (.file content) => .ok content

/-- The contents of a text file. -/
def readText (files : FileSystem) (text : Text) : Except FileError Text := do
  match decodeText? (← files.read text) with
  | none => .error .notText
  | some content => .ok content

/-- The full path at which a written path may be opened for writing. A path that ends in a slash can
    only be a directory, so its last name is never looked at. -/
def locateForWriting (files : FileSystem) (text : Text) : Except FileError Path := do
  checkLength text
  let names := splitAt '/' text
  if names.getLast? = some [] then
    let parents := (names.reverse.dropWhile List.isEmpty).tail.reverse
    -- the empty name asks for a directory and stays in it
    let _ ← files.walk (files.startOf text) (parents ++ [[]])
    .error .isDirectory
  else
    let path ← files.walk (files.startOf text) names
    if files.lookup? path = some .directory then .error .isDirectory else .ok path

/-- The file system after a file was written, in place of what it held before. -/
def write (files : FileSystem) (text : Text) (content : ByteArray) :
    Except FileError FileSystem := do
  return files.insert (← files.locateForWriting text) (.file content)

@[simp] theorem lookup?_insert_self (files : FileSystem) (path : Path) (entry : Entry) :
    (files.insert path entry).lookup? path = some entry := by
  simp [insert, lookup?]

theorem lookup?_insert_of_ne (files : FileSystem) {path other : Path} (entry : Entry)
    (h : other ≠ path) : (files.insert path entry).lookup? other = files.lookup? other := by
  have hfind : (files.entries.filter (·.1 ≠ path)).find? (·.1 = other)
      = files.entries.find? (·.1 = other) := by
    rw [List.find?_filter]
    congr 1
    funext item
    by_cases hi : item.1 = other <;> simp [hi, h]
  rw [lookup?, lookup?, insert, List.find?_cons_of_neg (by simpa using fun h' => h h'.symm), hfind]

end FileSystem

end DirectiveStrip
