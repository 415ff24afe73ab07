/-
A file system as a value, and the host that works in it.

Every file and directory goes by its names from the root down. Work is done
in one directory, and relative paths start there. A directory is there if it
was made or if something is in it.

A folder shows when a path leads nowhere. It does not show a disk that fills
up, a permission that is missing or a pipe that nobody reads, so a host may
be given the mishaps that come in its way, step by step.
-/
import SyntaxWire.Shell

namespace SyntaxWire

structure Folder where
  files : List (List String × Bytes) := []
  /-- The directories that have been made. -/
  made : List (List String) := []
deriving DecidableEq, Repr

namespace Folder

/-- The directory that work is done in. -/
def home : List String := ["tmp", "work"]

/-- The directories that are there from the start. -/
def standing : List (List String) :=
  [[], ["bin"], ["dev"], ["etc"], ["home"], ["root"], ["tmp"], ["usr"], ["usr", "bin"], ["var"], home]

/-- Files that keep nothing, with what comes of writing to them. -/
def devices : List (List String × Except FileFault Unit) :=
  [(["dev", "null"], .ok ()), (["dev", "zero"], .ok ()), (["dev", "stdin"], .ok ()),
    (["dev", "full"], .error .noSpace)]

/-- The folder of files that lie in the working directory. -/
def ofFiles (files : List (List String × Bytes)) : Folder :=
  { files := files.map fun (names, s) => (home ++ names, s) }

def get? (d : Folder) (names : List String) : Option Bytes := d.files.lookup names

/-- Takes a file out. The directory that it was in stays. -/
def erase (d : Folder) (names : List String) : Folder :=
  { files := d.files.filter (·.1 ≠ names)
    made := if names.dropLast ∈ standing then d.made else names.dropLast :: d.made }

/-- A file that was there keeps its place. -/
def put (d : Folder) (names : List String) (s : Bytes) : Folder :=
  if (d.get? names).isSome then
    { d with files := d.files.map fun (n, t) => if n = names then (n, s) else (n, t) }
  else { d with files := d.files ++ [(names, s)] }

/-- The names of everything that was put or made. -/
def names (d : Folder) : List (List String) := d.files.map (·.1) ++ d.made

def isDirectory (d : Folder) (names : List String) : Bool :=
  names ∈ standing || names ∈ d.made || d.names.any fun n => names.isPrefixOf n && n ≠ names

/-- What stands under the names. -/
def kindOf (d : Folder) (names : List String) : Option EntryKind :=
  if d.isDirectory names then some .directory
  else if (devices.lookup names).isSome then some .device
  else if (d.get? names).isSome then some .file
  else none

/-- Follows the names of a path from a directory to what may be missing at its end. -/
def follow (d : Folder) (at_ : List String) : List String → Except FileFault (List String)
  | [] => .ok at_
  | name :: rest =>
    match d.kindOf at_ with
    | none => .error .notFound
    | some .file | some .device => .error .notDirectory
    | some .directory =>
      if name = "" ∨ name = "." then d.follow at_ rest
      else if name = ".." then d.follow at_.dropLast rest
      else if 255 < name.utf8ByteSize then .error .nameTooLong
      else d.follow (at_ ++ [name]) rest

/-- What a path stands for, and whether slashes at its end insist on a directory. -/
def resolve (d : Folder) (path : String) : Except FileFault (List String × Bool) := do
  if path.isEmpty then throw .notFound
  if 4096 ≤ path.utf8ByteSize then throw .nameTooLong
  let names := (path.toList.splitOn '/').map String.ofList
  let kept := (names.reverse.dropWhile (· = "")).reverse
  let start := if names.head? = some "" then [] else home
  return (← d.follow start kept, kept.length < names.length)

/-- What a path leads to. -/
def locate (d : Folder) (path : String) : Except FileFault (List String × EntryKind) := do
  let (names, insists) ← d.resolve path
  match d.kindOf names with
  | none => throw .notFound
  | some .directory => return (names, .directory)
  | some kind => if insists then throw .notDirectory else return (names, kind)

def read (d : Folder) (path : String) : Except FileFault Bytes := do
  match ← d.locate path with
  | (_, .directory) => throw .isDirectory
  | (names, _) => return (d.get? names).getD []

/-- Creates a file with nothing in it, or empties the one that is there. -/
def create (d : Folder) (path : String) : Except FileFault Folder := do
  let (names, insists) ← d.resolve path
  if insists ∨ d.isDirectory names then throw .isDirectory
  if (devices.lookup names).isSome then return d
  return d.put names []

/-- Adds bytes to the end of a file. -/
def write (d : Folder) (path : String) (s : Bytes) : Except FileFault Folder := do
  match ← d.locate path with
  | (_, .directory) => throw .isDirectory
  | (names, .device) =>
    if ¬ s.isEmpty then (devices.lookup names).getD (.ok ())
    return d
  | (names, .file) => return d.put names ((d.get? names).getD [] ++ s)

/-- A device keeps nothing, so there is nothing to wait for. -/
def sync (d : Folder) (path : String) : Except FileFault Unit := do
  match ← d.locate path with
  | (_, .device) => throw (.other "Invalid argument (os error 22)")
  | _ => return ()

/-- Everything under the old names goes under the new ones. -/
def move (d : Folder) (old new : List String) : Folder :=
  let moved (n : List String) : List String := if old.isPrefixOf n then new ++ n.drop old.length else n
  { files := d.files.map fun (n, s) => (moved n, s), made := d.made.map moved }

def rename (d : Folder) (old new : String) : Except FileFault Folder := do
  let (source, kind) ← d.locate old
  let (target, insists) ← d.resolve new
  match kind with
  | .directory =>
    match d.kindOf target with
    | none => return d.move source target
    | some .directory => throw .notEmpty
    | some _ => throw .notDirectory
  | _ =>
    if insists then throw .notDirectory
    if d.isDirectory target then throw .isDirectory
    if source = target then return d
    return (d.erase source).put target ((d.get? source).getD [])

def remove (d : Folder) (path : String) : Except FileFault Folder := do
  match ← d.locate path with
  | (_, .directory) => throw .isDirectory
  | (_, .device) => throw .denied
  | (names, .file) => return d.erase names

def makeDirectory (d : Folder) (path : String) : Except FileFault Folder := do
  let (names, _) ← d.resolve path
  if (d.kindOf names).isSome then throw .alreadyExists
  return { d with made := names :: d.made }

def entryNames (d : Folder) (names : List String) : List String :=
  ((d.names ++ standing ++ devices.map (·.1)).filterMap fun n =>
    if names.isPrefixOf n then (n.drop names.length).head? else none).eraseDups

def removeDirectory (d : Folder) (path : String) : Except FileFault Folder := do
  match ← d.locate path with
  | (names, .directory) =>
    if ¬ (d.entryNames names).isEmpty then throw .notEmpty
    if names ∈ standing then throw .denied
    return { d with made := d.made.filter (· ≠ names) }
  | _ => throw .notDirectory

def entries (d : Folder) (path : String) : List String :=
  match d.locate path with
  | .ok (names, .directory) => d.entryNames names
  | _ => []

/-- What is done on a host that something can come in the way of. -/
inductive Step where
  | read (path : String)
  | create (path : String)
  | write (path : String) (s : Bytes)
  | sync (path : String)
  | rename (old new : String)
  | remove (path : String)
  | makeDirectory (path : String)
  | removeDirectory (path : String)
  | print (text : String)
deriving DecidableEq, Repr

structure Mishap where
  fault : FileFault
  /-- How many bytes a write had got through by then. -/
  written : Nat := 0
deriving DecidableEq, Repr

/-- What comes in the way of a step for a reason that the folder does not show. -/
abbrev Mishaps := Folder → Step → Option Mishap

namespace Mishaps

def none : Mishaps := fun _ _ => Option.none

/-- Lets a step pass, or stops it before it has done anything. -/
def check (w : Mishaps) (d : Folder) (s : Step) : Except FileFault Unit :=
  match w d s with
  | some m => .error m.fault
  | .none => .ok ()

end Mishaps

/-- Changes the folder if that succeeds. -/
def change (f : Folder → Except FileFault Folder) : StateM Folder (Except FileFault Unit) := fun d =>
  match f d with
  | .error e => (.error e, d)
  | .ok d' => (.ok (), d')

/-- Work in a folder where mishaps come in the way. Of a write that is stopped the first bytes are there. -/
def insideAmid (w : Mishaps) : Files (StateM Folder) where
  read path := fun d => (w.check d (.read path) >>= fun _ => d.read path, d)
  create path := change fun d => w.check d (.create path) >>= fun _ => d.create path
  write path s := fun d =>
    match w d (.write path s) with
    | some m => (.error m.fault, (change (·.write path (s.take m.written)) d).2)
    | .none => change (·.write path s) d
  sync path := fun d => (w.check d (.sync path) >>= fun _ => d.sync path, d)
  rename old new := change fun d => w.check d (.rename old new) >>= fun _ => d.rename old new
  remove path := change fun d => w.check d (.remove path) >>= fun _ => d.remove path
  makeDirectory path := change fun d => w.check d (.makeDirectory path) >>= fun _ => d.makeDirectory path
  removeDirectory path := change fun d => w.check d (.removeDirectory path) >>= fun _ => d.removeDirectory path
  kind path := fun d => ((d.locate path).map (·.2), d)
  entries path := fun d => (d.entries path, d)

/-- A host on a folder, whose generators are run by the shell. -/
def hostAmid (w : Mishaps) : Host (StateM Folder) where
  toFiles := insideAmid w
  generate := Shell.run (insideAmid w)
  print text := fun d => (w.check d (.print text), d)

def inside : Files (StateM Folder) := insideAmid .none

/-- A host on a folder in which nothing goes wrong but what the folder shows. -/
def host : Host (StateM Folder) := hostAmid .none

/-- The files of the working directory that are not in `before` as they are in `d`, by their names from there. -/
def changes (before d : Folder) : List (List String × Bytes) :=
  d.files.filterMap fun (n, s) =>
    if home.isPrefixOf n ∧ before.get? n ≠ some s then some (n.drop home.length, s) else none

end Folder

end SyntaxWire
