/-
What a running shell has: its own variables, options and open streams, and
the streams themselves, which it shares with the processes that it starts.

A process here is a run of an `Act`. One that is started by another gets a
copy of what the other has for its own, so what it changes there is gone when
it ends, while what it writes stays.
-/
import SyntaxWire.Host
import SyntaxWire.Shell.Script

namespace SyntaxWire.Shell

/-- What can be read from and written to. -/
inductive Stream where
  /-- What has been written and not been read yet. -/
  | pipe (held : String)
  | file (path : String) (position : Nat) (access : Access)
deriving DecidableEq, Repr

structure Variable where
  value : Option String := none
  exported : Bool := false
  readOnly : Bool := false
deriving DecidableEq, Repr

structure Process where
  /-- The name that messages begin with. -/
  name : String := "sh"
  number : Nat := 1000
  args : List String := []
  vars : List (String × Variable) := []
  functions : List (String × Command) := []
  aliases : List (String × String) := []
  options : List Char := []
  directory : String
  /-- The open streams by their numbers. -/
  streams : List (Nat × Nat) := [(0, 0), (1, 1), (2, 2)]
  traps : List (Nat × String) := []
  /-- The builtin at work. -/
  builtin : Option String := none
  /-- The line of the command at work. -/
  line : Nat := 1
  /-- The line up to which the script has been read. -/
  reached : Nat := 1
  status : Nat := 0
  /-- The status of the last command substitution. -/
  substituted : Nat := 0
  /-- The number of loops around the command at work. -/
  loops : Nat := 0
  /-- The number of functions at work inside one another. -/
  calls : Nat := 0
  /-- What the variables of the function at work hide, if there is one. -/
  hidden : Option (List (String × Option Variable)) := none
  /-- Signals that a trap still has to see. -/
  pending : List Nat := []
  /-- The number of the last process in the background. -/
  background : Option Nat := none
  /-- The number of characters that `getopts` has used of a group. -/
  optionPlace : Nat := 0
  /-- What new files are not allowed, in bits. -/
  mask : Nat := 18

/-- A process in the background that has not come to work yet. -/
structure Waiting where
  number : Nat
  process : Process
  command : Command

structure Machine where
  streams : Array Stream
  self : Process
  /-- The processes in the background, in the order in which they were started. -/
  waiting : List Waiting := []
  /-- The statuses of those that have ended. -/
  ended : List (Nat × Nat) := []

/-- How a command breaks off what is around it. -/
inductive Interrupt where
  /-- The process ends. -/
  | exit
  /-- The process ends because of an error, unless an ordinary builtin made it. -/
  | fault
  /-- The function or the script ends. -/
  | leave
  | leaveLoops (count : Nat)
  | nextRound (count : Nat)
  /-- The shell with this number is ended by a signal. -/
  | killed (number signal : Nat)
deriving DecidableEq, Repr

abbrev Act (m : Type → Type) := ReaderT (Files m) (ExceptT Interrupt (StateT Machine m))

/-- The directory that a shell begins in. -/
def home : String := "/tmp/work"

/-- The variables that every shell has from the start. -/
def Process.initial : List (String × Variable) :=
  [("IFS", { value := some " \t\n" }), ("OPTIND", { value := some "1" }), ("PPID", { value := some "999" }),
    ("PS1", { value := some "# " }), ("PS2", { value := some "> " }), ("PS4", { value := some "+ " })]

def Process.value? (p : Process) (name : String) : Option String := (p.vars.lookup name).bind (·.value)

/-- Gives a variable a value, at the place in the list that it has. -/
def Process.setVariable (p : Process) (name : String) (v : Variable) : Process :=
  if (p.vars.lookup name).isSome then
    { p with vars := p.vars.map fun (n, w) => if n = name then (n, v) else (n, w) }
  else { p with vars := p.vars ++ [(name, v)] }

def Process.has (p : Process) (option : Char) : Bool := option ∈ p.options

/-- The letters of the options that are on. -/
def Process.letters (p : Process) : List Char := "pubaCEVvxsnmiIfe".toList.filter p.has

/-- The path by which a name is found, from the directory of the first shell on. -/
def Process.path (p : Process) (name : String) : String :=
  let whole :=
    if name.startsWith "/" ∨ name = "" ∨ p.directory = home then name
    else if p.directory.startsWith (home ++ "/") then
      String.ofList (p.directory.toList.drop (home.length + 1)) ++ "/" ++ name
    else p.directory ++ "/" ++ name
  Raw.toText whole

/-- The directory that a path leads to from another one, as the path is written. -/
def walk (at_ : List String) : List String → List String
  | [] => at_
  | name :: rest =>
    if name = "" ∨ name = "." then walk at_ rest
    else if name = ".." then walk at_.dropLast rest
    else walk (at_ ++ [name]) rest

/-- The names on the way from the root to what a path leads to. -/
def Process.wayTo (p : Process) (path : String) : List String :=
  walk (if path.startsWith "/" then [] else walk [] (p.directory.splitOn "/")) (path.splitOn "/")

/-- The stream that a file name stands for, if it is one of the names that devices have for streams. -/
def streamNamed? (name : String) : Option Nat :=
  match name with
  | "/dev/stdin" => some 0
  | "/dev/stdout" => some 1
  | "/dev/stderr" => some 2
  | _ =>
    if name.startsWith "/dev/fd/" then Raw.count? (String.ofList (name.toList.drop 8))
    else if name.startsWith "/proc/self/fd/" then Raw.count? (String.ofList (name.toList.drop 14))
    else none

def badStream : FileFault := .other "Bad file descriptor"

namespace Act

variable {m : Type → Type} [Monad m]

def self : Act m Process := do return (← get).self

def change (f : Process → Process) : Act m Unit := modify fun s => { s with self := f s.self }

def onFiles {α : Type} (f : Files m → m α) : Act m α := do
  let files ← read
  liftM (liftM (f files) : StateT Machine m α)

def path (name : String) : Act m String := do return (← self).path name

/-- Makes a stream and gives its place among all streams. -/
def newStream (s : Stream) : Act m Nat := do
  let n := (← get).streams.size
  modify fun s' => { s' with streams := s'.streams.push s }
  return n

def kind (name : String) : Act m (Except FileFault EntryKind) := do
  let path ← path name
  onFiles (·.kind path)

/-- Opens a file as a redirection does. -/
def openFile (access : Access) (name : String) : Act m (Except FileFault Nat) := do
  match streamNamed? name with
  | some n => return match (← self).streams.lookup n with
    | some i => .ok i
    | none => .error .notFound
  | none =>
    let path ← path name
    let kind ← kind name
    let opened : Except FileFault Unit ← match access, kind with
      | .read, .ok _ => pure (.ok ())
      | .read, .error f => pure (.error f)
      | .write, _ | .overwrite, _ => onFiles (·.create path)
      | _, .ok .directory => pure (.error .isDirectory)
      | _, .ok _ => pure (.ok ())
      | _, .error .notFound => onFiles (·.create path)
      | _, .error f => pure (.error f)
    match opened with
    | .error f => return .error f
    | .ok () => return .ok (← newStream (.file path 0 access))

def stream? (n : Nat) : Act m (Option (Nat × Stream)) := do
  let s ← get
  return (s.self.streams.lookup n).bind fun i => s.streams[i]?.map (i, ·)

def setStream (i : Nat) (s : Stream) : Act m Unit :=
  modify fun m => { m with streams := m.streams.setIfInBounds i s }

/-- Writes to a stream; gives the fault if that fails. -/
def write? (n : Nat) (text : String) : Act m (Option FileFault) := do
  if text.isEmpty then return none
  match ← stream? n with
  | none => return some badStream
  | some (i, .pipe held) =>
    setStream i (.pipe (held ++ text))
    return none
  | some (_, .file _ _ .read) => return some badStream
  | some (i, .file path position access) =>
    let s := Raw.toBytes text
    let old ← match ← onFiles (·.read path) with
      | .ok old => pure old
      | .error _ => pure []
    let start := if access = .append then old.length else position
    let new := old.take start ++ List.replicate (start - old.length) 0 ++ s ++ old.drop (start + s.length)
    match ← onFiles (·.writeFile path new) with
    | .ok () =>
      setStream i (.file path (start + s.length) access)
      return none
    | .error f => return some f

def write (n : Nat) (text : String) : Act m Unit := do discard (write? n text)

def print (text : String) : Act m Unit := write 1 text

/-- What is left in a stream. It stays there. -/
def peekAll (n : Nat) : Act m (Except FileFault String) := do
  match ← stream? n with
  | none => return .error badStream
  | some (_, .pipe held) => return .ok held
  | some (_, .file path position access) =>
    if access ∈ [.write, .overwrite, .append] then return .error badStream
    match ← onFiles (·.read path) with
    | .ok s => return .ok (Raw.ofBytes (s.drop position))
    | .error f => return .error f

/-- Passes over the first characters in a stream. -/
def skip (n count : Nat) : Act m Unit := do
  match ← stream? n with
  | some (i, .pipe held) => setStream i (.pipe (String.ofList (held.toList.drop count)))
  | some (i, .file path position access) => setStream i (.file path (position + count) access)
  | none => return

/-- Takes what is left in a stream. -/
def readAll (n : Nat) : Act m (Except FileFault String) := do
  match ← peekAll n with
  | .ok s =>
    skip n s.length
    return .ok s
  | .error f => return .error f

/-- Takes the next line with its end. -/
def readLine (n : Nat) : Act m (Except FileFault String) := do
  match ← peekAll n with
  | .ok s =>
    let line := (Raw.lines s).headD ""
    skip n line.length
    return .ok line
  | .error f => return .error f

/-- The contents of a file, or of the stream that its name stands for. -/
def contents (name : String) : Act m (Except FileFault String) := do
  match streamNamed? name with
  | some n => readAll n
  | none =>
    let path ← path name
    match ← onFiles (·.read path) with
    | .ok s => return .ok (Raw.ofBytes s)
    | .error f => return .error f

/-- Reports something in the shell's own name. -/
def warn (message : String) : Act m Unit := do
  let p ← self
  let by_ := match p.builtin with
    | some b => b ++ ": "
    | none => ""
  write 2 (p.name ++ ": " ++ toString p.line ++ ": " ++ by_ ++ message ++ "\n")

def setStatus (n : Nat) : Act m Unit := change ({ · with status := n })

/-- Reports an error and breaks off. -/
def fault {α : Type} (message : String) (status : Nat := 2) : Act m α := do
  warn message
  setStatus status
  throw .fault

def exit {α : Type} (status : Nat) : Act m α := do
  setStatus status
  throw .exit

/-- Ends the shell as too deep a use of memory does. -/
def overrun {α : Type} : Act m α := do throw (.killed (← self).number 11)

/-- A number of 32 bits without sign, as builtins take it. -/
def number (text : String) : Act m Nat := do
  match Raw.wholeInteger? 10 text with
  | some n => if 0 ≤ n ∧ n ≤ 2147483647 then return n.toNat else fault ("Illegal number: " ++ text)
  | none => fault ("Illegal number: " ++ text)

def value? (name : String) : Act m (Option String) := do return (← self).value? name

def setVariable (name : String) (value : String) (exported : Bool := false) : Act m Unit := do
  let p ← self
  let old := (p.vars.lookup name).getD {}
  if old.readOnly then fault (name ++ ": is read only")
  change (·.setVariable name
    { old with value := some value, exported := old.exported || exported || p.has 'a' })

/-- Runs something with streams of its own, and gives the others back afterwards. -/
def withStreams {α : Type} (act : Act m α) : Act m α := do
  let streams := (← self).streams
  let restore : Act m Unit := change ({ · with streams })
  try
    let a ← act
    restore
    return a
  catch e =>
    restore
    throw e

/-- Makes a stream the one with the number. -/
def connect (n i : Nat) : Act m Unit :=
  change fun p => { p with streams := (n, i) :: p.streams.filter (·.1 ≠ n) }

def disconnect (n : Nat) : Act m Unit :=
  change fun p => { p with streams := p.streams.filter (·.1 ≠ n) }

/-- Runs something as a process of its own and gives its status. -/
def inProcess (act : Act m Unit) : Act m Nat := do
  let before ← self
  change ({ · with loops := 0, traps := before.traps.filter (·.2 = "") })
  let after : Act m Nat := do
    let status := (← self).status
    change fun _ => before
    return status
  try
    act
    after
  catch
    | .killed number signal => throw (.killed number signal)
    | _ => after

end Act

end SyntaxWire.Shell
