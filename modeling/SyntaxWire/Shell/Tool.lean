/-
The tools that a shell finds by their names, and where they lie.
-/
import SyntaxWire.Shell.Tool.Characters
import SyntaxWire.Shell.Tool.Sed

namespace SyntaxWire.Shell.Tool

variable {m : Type → Type} [Monad m]

/-- Tools that start no other process. -/
def run? (name : String) (args : List String) : Option (Act m Nat) :=
  match name with
  | "basename" => some (basename args)
  | "base64" => some (base64Tool args)
  | "cat" => some (cat args)
  | "chmod" => some (chmod args)
  | "cp" => some (cp args)
  | "cut" => some (cut args)
  | "dirname" => some (dirname args)
  | "echo" => some (echo true false args)
  | "egrep" => some (grep ['E'] args)
  | "fgrep" => some (grep ['F'] args)
  | "grep" => some (grep [] args)
  | "false" => some (return 1)
  | "head" => some (head args)
  | "ls" => some (ls args)
  | "mkdir" => some (mkdir args)
  | "mv" => some (mv args)
  | "nl" => some (numberLines args)
  | "paste" => some (paste args)
  | "printf" => some (printf args)
  | "pwd" => some (do
      emit ((← Act.self).directory ++ "\n")
      return 0)
  | "rev" => some (rev args)
  | "rm" => some (rm args)
  | "rmdir" => some (rmdir args)
  | "sed" => some (sed args)
  | "seq" => some (seq args)
  | "sleep" => some (sleep args)
  | "sort" => some (sort args)
  | "tac" => some (tac args)
  | "tail" => some (tail args)
  | "tee" => some (tee args)
  | "touch" => some (touch args)
  | "tr" => some (tr args)
  | "true" => some (return 0)
  | "uname" => some (do
      emit "Linux\n"
      return 0)
  | "uniq" => some (uniq args)
  | "wc" => some (wc args)
  | "whoami" => some (do
      emit "root\n"
      return 0)
  | "yes" => some (yes args)
  | _ => none

/-- Tools that start another one. -/
def launching : List String := ["dash", "env", "nice", "nohup", "sh", "timeout", "xargs"]

/-- Whether there is a tool of the name. -/
def isKnown (name : String) : Bool :=
  name ∈ launching || name = "test" || name = "[" || (run? (m := Id) name []).isSome

/-- The tool that a command name stands for, given the directories that are searched. -/
def find? (directories name : String) : Option String :=
  let places := ["/bin", "/usr/bin"]
  let name? :=
    if '/' ∉ name.toList then
      if (directories.splitOn ":").any (· ∈ places) then some name else none
    else places.findSome? fun d =>
      if name.startsWith (d ++ "/") then some (String.ofList (name.toList.drop (d.length + 1))) else none
  name?.filter isKnown

end SyntaxWire.Shell.Tool
