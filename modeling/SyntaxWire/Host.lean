/-
What a command needs from its surroundings: reading, writing and renaming
files, printing, and running a table generator.

Everything that works with files is written over `Files` or a `Host`, so it
runs on a real file system as well as on a `Folder`, which is only a value.
A file is written in steps, each of which can fail: it is emptied before
anything is known of the bytes that are to stand in it.
-/
import SyntaxWire.Table.Json
import SyntaxWire.ToolFailure

namespace SyntaxWire

inductive FileFault where
  | notFound
  | denied
  | alreadyExists
  | notDirectory
  | isDirectory
  | noSpace
  | nameTooLong
  | notEmpty
  | notText
  | other (message : String)
deriving DecidableEq, Repr

namespace FileFault

def reason : FileFault → String
  | notFound => "No such file or directory"
  | denied => "Permission denied"
  | alreadyExists => "File exists"
  | notDirectory => "Not a directory"
  | isDirectory => "Is a directory"
  | noSpace => "No space left on device"
  | nameTooLong => "File name too long"
  | notEmpty => "Directory not empty"
  | notText => "stream did not contain valid UTF-8"
  | other message => message

/-- The number that the system gives the fault. -/
def number? : FileFault → Option Nat
  | notFound => some 2
  | denied => some 13
  | alreadyExists => some 17
  | notDirectory => some 20
  | isDirectory => some 21
  | noSpace => some 28
  | nameTooLong => some 36
  | notEmpty => some 39
  | notText | other _ => none

def message (f : FileFault) : String :=
  match f.number? with
  | some n => s!"{f.reason} (os error {n})"
  | none => f.reason

end FileFault

/-- A process that has ended. -/
structure ToolRun where
  status : UInt32
  stdout : Bytes
  stderr : Bytes
deriving DecidableEq, Repr

/-- What a path can lead to. -/
inductive EntryKind where
  | file
  | directory
  | device
deriving DecidableEq, Repr

structure Files (m : Type → Type) where
  read : (path : String) → m (Except FileFault Bytes)
  /-- Creates the file, or empties it if it is there. -/
  create : (path : String) → m (Except FileFault Unit)
  /-- Adds bytes to the end of a file. A fault may come after a part of them. -/
  write : (path : String) → Bytes → m (Except FileFault Unit)
  /-- Waits until what was written is kept. -/
  sync : (path : String) → m (Except FileFault Unit)
  /-- Takes the place of a file that has the new name. -/
  rename : (old new : String) → m (Except FileFault Unit)
  remove : (path : String) → m (Except FileFault Unit)
  makeDirectory : (path : String) → m (Except FileFault Unit)
  /-- Removes a directory with nothing in it. -/
  removeDirectory : (path : String) → m (Except FileFault Unit)
  kind : (path : String) → m (Except FileFault EntryKind)
  /-- The names in a directory, in no certain order. -/
  entries : (path : String) → m (List String)

structure Host (m : Type → Type) extends Files m where
  /-- Runs a table generator. -/
  generate : (command : String) → m ToolRun
  /-- Prints a text on the standard output. -/
  print : (text : String) → m (Except FileFault Unit)

namespace Path

/-- A name without its ending, and the ending: what follows its last point. A point at the front does not count. -/
def splitEnding (name : String) : String × Option String :=
  let reversed := name.toList.reverse
  let ending := reversed.takeWhile (· ≠ '.')
  let front := (reversed.drop (ending.length + 1)).reverse
  if ending.length = reversed.length ∨ front.isEmpty then (name, none)
  else (String.ofList front, some (String.ofList ending.reverse))

/-- A path, last character first, without slashes and points for the directory itself at its end. -/
def trimEnd : List Char → List Char
  | '/' :: rest => trimEnd rest
  | '.' :: '/' :: rest => trimEnd rest
  | reversed => reversed

/-- The last name of a path with what is in front of it, unless the path ends at a directory as such. -/
def lastName? (path : List Char) : Option (String × String) :=
  let reversed := trimEnd path.reverse
  let name := String.ofList (reversed.takeWhile (· ≠ '/')).reverse
  let front := String.ofList (reversed.dropWhile (· ≠ '/')).reverse
  if name ∈ ["", ".", ".."] then none else some (front, name)

/-- The path with another ending to its last name.

The old ending is cut from the end of the path before the last name is looked
for again, so a path such as `..table` is left with no name and stands for the
directory above. -/
def withEnding (path : String) (ending : String) : String :=
  match lastName? path.toList with
  | none => path
  | some (_, name) =>
    let old := ((splitEnding name).2.getD "").length
    let kept := path.toList.take (path.length - old)
    match lastName? kept with
    | none => String.ofList kept
    | some (front, name) => front ++ (splitEnding name).1 ++ "." ++ ending

end Path

/-- Why a table file could not be read or written. -/
inductive TableFault where
  | file (f : FileFault)
  | json (f : Json.Fault)
deriving DecidableEq, Repr

/-- The message, and the cause inside it. -/
def TableFault.chain : TableFault → List String
  | file f => ["IO: " ++ f.message, f.message]
  | json f => ["JSON: " ++ f.message, f.message]

namespace Files

variable {m : Type → Type} [Monad m]

/-- The text of a file. -/
def readText (h : Files m) (path : String) : m (Except FileFault String) := do
  match ← h.read path with
  | .error f => return .error f
  | .ok s => return (Bytes.text? s).elim (.error .notText) .ok

def loadTable (h : Files m) (path : String) : m (Except TableFault KindTable) := do
  match ← h.readText path with
  | .error f => return .error (.file f)
  | .ok text => return (KindTable.ofJson text).mapError .json

/-- Writes a file anew. A fault may leave it empty, or with a part of the bytes. -/
def writeFile (h : Files m) (path : String) (s : Bytes) : m (Except FileFault Unit) := do
  match ← h.create path with
  | .error f => return .error f
  | .ok () => h.write path s

/-- Writes a table beside its place and then moves it there, so that no one sees half of it. -/
def saveTable (h : Files m) (t : KindTable) (path : String) : m (Except FileFault Unit) := do
  let beside := Path.withEnding path "json.tmp"
  match ← h.writeFile beside (Bytes.ofText t.render) with
  | .error f => return .error f
  | .ok () =>
    match ← h.sync beside with
    | .error f => return .error f
    | .ok () => h.rename beside path

end Files

end SyntaxWire
