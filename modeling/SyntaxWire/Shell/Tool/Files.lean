/-
Tools that list, make, move and remove files.
-/
import SyntaxWire.Shell.Tool.Options

namespace SyntaxWire.Shell.Tool

variable {m : Type → Type} [Monad m]

def sortedNames (names : List String) : List String := names.mergeSort fun a b => decide (a ≤ b)

/-- The names in a directory, as bytes and in order. -/
def namesIn (name : String) : Act m (List String) := do
  let path ← Act.path name
  return sortedNames ((← Act.onFiles (·.entries path)).map Raw.ofText)

def lastName (path : String) : String :=
  let kept := (path.toList.reverse.dropWhile (· = '/')).takeWhile (· ≠ '/')
  if kept.isEmpty ∧ path ≠ "" then "/" else String.ofList kept.reverse

def directoryName (path : String) : String :=
  let rest := (path.toList.reverse.dropWhile (· = '/')).dropWhile (· ≠ '/')
  let front := String.ofList (rest.dropWhile (· = '/')).reverse
  if front ≠ "" then front else if path.startsWith "/" then "/" else "."

def below (directory name : String) : String :=
  if directory.endsWith "/" then directory ++ name else directory ++ "/" ++ name

def ls (args : List String) : Act m Nat := do
  let k : Manual := { failure := 2, flags := "1aAdlrtRFhpCs".toList, long := [
    ("all", 'a'), ("almost-all", 'A'), ("directory", 'd'), ("reverse", 'r')] }
  let a ← k.sort args
  let order (names : List String) : List String := if a.has 'r' then names.reverse else names
  let shown (directory : String) : Act m String := do
    let names := (← namesIn directory).filter fun n => a.has 'a' || a.has 'A' || !n.startsWith "."
    let names := if a.has 'a' then "." :: ".." :: names else names
    return String.join ((order names).map (· ++ "\n"))
  let mut files : List String := []
  let mut directories : List String := []
  let mut status := 0
  for name in if a.others.isEmpty then ["."] else sortedNames a.others do
    match ← Act.kind name with
    | .ok .directory => if a.has 'd' then files := files ++ [name] else directories := directories ++ [name]
    | .ok _ => files := files ++ [name]
    | .error f =>
      complain ("cannot access " ++ Quoting.always name ++ ": " ++ f.reason)
      status := 2
  emit (String.join ((order files).map (· ++ "\n")))
  let mut first := files.isEmpty
  for name in order directories do
    let list ← shown name
    if 1 < a.others.length then emit ((if first then "" else "\n") ++ name ++ ":\n")
    first := false
    emit list
  return status

/-- Removes what a name leads to, with all that is in it. -/
def removeAll : Nat → String → Act m (Except FileFault Unit)
  | 0, _ => return .ok ()
  | n + 1, name => do
    let path ← Act.path name
    match ← Act.kind name with
    | .ok .directory =>
      for entry in ← namesIn name do
        discard (removeAll n (below name entry))
      Act.onFiles (·.removeDirectory path)
    | .ok _ => Act.onFiles (·.remove path)
    | .error f => return .error f

def rm (args : List String) : Act m Nat := do
  let k : Manual := { flags := "frRdiIv".toList, long := [("force", 'f'), ("recursive", 'r')] }
  let a ← k.sort args
  if a.others.isEmpty ∧ ¬ a.has 'f' then refuse k "missing operand"
  let mut status := 0
  let all := a.has 'r' || a.has 'R'
  for name in a.others do
    if all ∧ lastName name ∈ [".", ".."] then
      complain ("refusing to remove '.' or '..' directory: skipping " ++ Quoting.always name)
      status := 1
      continue
    if all ∧ lastName name = "/" then
      complain "it is dangerous to operate recursively on '/'"
      complain "use --no-preserve-root to override this failsafe"
      status := 1
      continue
    let result ← match ← Act.kind name with
      | .ok .directory =>
        if all then removeAll 1000 name
        else if a.has 'd' then do
          let path ← Act.path name
          Act.onFiles (·.removeDirectory path)
        else pure (.error .isDirectory)
      | .ok _ => do
        let path ← Act.path name
        Act.onFiles (·.remove path)
      | .error f => pure (if a.has 'f' ∧ f ∈ [.notFound, .notDirectory] then .ok () else .error f)
    if let .error f := result then
      complain ("cannot remove " ++ Quoting.always name ++ ": " ++ f.reason)
      status := 1
  return status

def rmdir (args : List String) : Act m Nat := do
  let k : Manual := { flags := ['p', 'v'] }
  let a ← k.sort args
  if a.others.isEmpty then refuse k "missing operand"
  let mut status := 0
  for name in a.others do
    let path ← Act.path name
    if let .error f ← Act.onFiles (m := m) (·.removeDirectory path) then
      complain ("failed to remove " ++ Quoting.always name ++ ": " ++ f.reason)
      status := 1
  return status

/-- The directories that a path leads through, the first one first. -/
def steps (path : String) : List String :=
  let names := path.splitOn "/"
  ((List.range names.length).map fun n => "/".intercalate (names.take (n + 1))).filter (· ≠ "")

def mkdir (args : List String) : Act m Nat := do
  let k : Manual := { flags := ['p', 'v'], valued := ['m'], long := [("parents", 'p')] }
  let a ← k.sort args
  if a.others.isEmpty then refuse k "missing operand"
  let mut status := 0
  for name in a.others do
    for step in if a.has 'p' then steps name else [name] do
      let path ← Act.path step
      match ← Act.onFiles (·.makeDirectory path) with
      | .ok () => pure ()
      | .error f =>
        let there := (← Act.kind step) matches .ok .directory
        if ¬ (a.has 'p' ∧ there) then
          complain ("cannot create directory " ++ Quoting.always step ++ ": " ++ f.reason)
          status := 1
  return status

def touch (args : List String) : Act m Nat := do
  let k : Manual := { flags := ['a', 'c', 'm', 'f'], valued := ['d', 't', 'r'], long := [
    ("no-create", 'c'), ("date", 'd'), ("reference", 'r')] }
  let a ← k.sort args
  if a.others.isEmpty then refuse k "missing file operand"
  let mut status := 0
  for name in a.others do
    if (← Act.kind name).isOk ∨ a.has 'c' then continue
    let path ← Act.path name
    if let .error f ← Act.onFiles (m := m) (·.create path) then
      complain ("cannot touch " ++ Quoting.always name ++ ": " ++ f.reason)
      status := 1
  return status

def chmod (args : List String) : Act m Nat := do
  let k : Manual := { flags := ['R', 'v', 'c', 'f'] }
  match args with
  | [] => refuse k "missing operand"
  | [mode] => refuse k ("missing operand after " ++ Quoting.always mode)
  | _ :: names =>
    let mut status := 0
    for name in names do
      if let .error f ← Act.kind (m := m) name then
        complain ("cannot access " ++ Quoting.always name ++ ": " ++ f.reason)
        status := 1
    return status

/-- Copies a file; with `whole` also a directory and what is in it. -/
def copyTo (whole : Bool) : Nat → (source target : String) → Act m Nat
  | 0, _, _ => return 0
  | n + 1, source, target => do
    let from_ ← Act.path source
    let path ← Act.path target
    match ← Act.kind source with
    | .error f =>
      complain ("cannot stat " ++ Quoting.always source ++ ": " ++ f.reason)
      return 1
    | .ok .directory =>
      if ¬ whole then
        complain ("-r not specified; omitting directory " ++ Quoting.always source)
        return 1
      discard (Act.onFiles (m := m) (·.makeDirectory path))
      let mut status := 0
      for entry in ← namesIn source do
        status := max status (← copyTo whole n (below source entry) (below target entry))
      return status
    | .ok _ =>
      if from_ = path then
        complain (Quoting.always source ++ " and " ++ Quoting.always target ++ " are the same file")
        return 1
      match ← Act.onFiles (·.read from_) with
      | .error f =>
        complain ("cannot open " ++ Quoting.always source ++ " for reading: " ++ f.reason)
        return 1
      | .ok s =>
        match ← Act.onFiles (·.writeFile path s) with
        | .ok () => return 0
        | .error f =>
          complain ("cannot create regular file " ++ Quoting.always target ++ ": " ++ f.reason)
          return 1

def moveTo (source target : String) : Act m Nat := do
  let from_ ← Act.path source
  let path ← Act.path target
  match ← Act.kind source with
  | .error f =>
    complain ("cannot stat " ++ Quoting.always source ++ ": " ++ f.reason)
    return 1
  | .ok _ =>
    if from_ = path then
      complain (Quoting.always source ++ " and " ++ Quoting.always target ++ " are the same file")
      return 1
    match ← Act.onFiles (·.rename from_ path) with
    | .ok () => return 0
    | .error f =>
      complain ("cannot move " ++ Quoting.always source ++ " to " ++ Quoting.always target ++ ": " ++ f.reason)
      return 1

/-- Brings files to where the last argument says. -/
def transfer (k : Manual) (one : Arguments → (source target : String) → Act m Nat) (args : List String) :
    Act m Nat := do
  let a ← k.sort args
  match a.others.reverse with
  | [] => refuse k "missing file operand"
  | [only] => refuse k ("missing destination file operand after " ++ Quoting.always only)
  | target :: sources =>
    let kind ← Act.kind target
    let isDirectory := kind matches .ok .directory
    if 1 < sources.length ∧ ¬ isDirectory then
      let why := match kind with
        | .error f => f.reason
        | .ok _ => FileFault.notDirectory.reason
      complain ("target " ++ Quoting.always target ++ ": " ++ why)
      return 1
    let mut status := 0
    for source in sources.reverse do
      let place := if isDirectory then below target (lastName source) else target
      status := max status (← one a source place)
    return status

def cp (args : List String) : Act m Nat :=
  transfer { flags := "rRafpviTd".toList, long := [("recursive", 'r'), ("archive", 'a'), ("force", 'f')] }
    (fun a => copyTo (a.has 'r' || a.has 'R' || a.has 'a') 1000) args

def mv (args : List String) : Act m Nat :=
  transfer { flags := "finvTu".toList, long := [("force", 'f'), ("no-clobber", 'n')] }
    (fun _ => moveTo) args

end SyntaxWire.Shell.Tool
