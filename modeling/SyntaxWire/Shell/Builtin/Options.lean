/-
The options of builtins, and their output.
-/
import SyntaxWire.Shell.Machine

namespace SyntaxWire.Shell.Builtin

variable {m : Type → Type} [Monad m]

/-- Writes a text and gives the status, unless the text cannot be written. -/
def say (text : String) (status : Nat := 0) : Act m Nat := do
  match ← Act.write? 1 text with
  | none => return status
  | some _ =>
    Act.warn (((← Act.self).builtin.getD "") ++ ": I/O error")
    return 1

def illegal {α : Type} (option : Char) : Act m α := Act.fault ("Illegal option -" ++ String.ofList [option])

/-- Takes options off the front. `known` holds their letters; those in `valued` take a value. -/
def options (known valued : List Char) : Nat → List String → Act m (List (Char × String) × List String)
  | 0, args => return ([], args)
  | n + 1, args => do
    match args with
    | [] => return ([], [])
    | "--" :: rest => return ([], rest)
    | arg :: rest =>
      match arg.toList with
      | '-' :: c :: cs =>
        if c ∈ valued then
          match cs, rest with
          | [], [] => Act.fault ("No arg for -" ++ String.ofList [c] ++ " option")
          | [], value :: rest =>
            let (more, rest) ← options known valued n rest
            return ((c, value) :: more, rest)
          | cs, rest =>
            let (more, rest) ← options known valued n rest
            return ((c, String.ofList cs) :: more, rest)
        else if c ∈ known then
          let rest := if cs.isEmpty then rest else String.ofList ('-' :: cs) :: rest
          let (more, rest) ← options known valued n rest
          return ((c, "") :: more, rest)
        else illegal c
      | _ => return ([], args)

def flagsOf (known : List Char) (args : List String) : Act m (List Char × List String) := do
  let (found, rest) ← options known [] ((args.map String.length).foldl (· + ·) 1) args
  return (found.map (·.1), rest)

end SyntaxWire.Shell.Builtin
