/-
The grammar of shell commands.

Commands stand inside one another, so each rule is given the readers for what
is inside (`Inner`), and these are built up to the depth that the text allows.
-/
import SyntaxWire.Shell.Token

namespace SyntaxWire.Shell

/-- The readers for what stands inside a command. -/
structure Inner where
  command : Parse Command
  /-- A list of commands, which may have to have one at least. -/
  list : (mayBeEmpty : Bool) → Parse Command

namespace Inner

def nested (i : Inner) : Nested where
  closed := do
    let s ← get
    set { s with back := none }
    let c ← i.list true
    match ← Parse.token ⟨i.list true, i.list true⟩ {} with
    | .operator ")" =>
      modify ({ · with back := s.back })
      return c
    | t => Parse.unexpected t (some (.operator ")"))
  all := i.list true

def token (i : Inner) (e : Parse.Expecting := {}) : Parse Token := Parse.token i.nested e

end Inner

namespace Parse

variable (i : Inner)

/-- Words at which a command may begin after line ends. -/
def anywhere : Expecting := { lines := true, keywords := true, aliases := true }

def onThisLine : Expecting := { keywords := true, aliases := true }

/-- Whether a list of commands ends in front of the token. -/
def endsList : Token → Bool
  | .endOfText => true
  | .operator s => s ∈ [")", ";;"]
  | .keyword s => s ∈ ["do", "done", "elif", "else", "esac", "fi", "then", "\x7d"]
  | _ => false

/-- Commands that begin with other words than these can have a function's name. -/
def specialBuiltins : List String :=
  [".", ":", "break", "continue", "eval", "exec", "exit", "export", "local", "readonly", "return", "set",
    "shift", "times", "trap", "unset"]

/-- Reads a keyword or an operator that has to come now. -/
def expectWord (word : String) (e : Expecting := {}) : Parse Unit := do
  match ← i.token e with
  | .keyword s | .operator s => if s = word then pure () else unexpected (.keyword s) (some (.keyword word))
  | t => unexpected t (some (.keyword word))

/-- The words up to the first token that is none. -/
def wordsUpTo : Parse (List Word × Token) := do
  let words ← many do
    match ← i.token with
    | .word w => return some w
    | t =>
      putBack t
      return none
  return (words, ← i.token)

def redirections : Parse (List Redirection) :=
  many do
    match ← i.token onThisLine with
    | .redirection stream sign => return some (← redirection i.nested stream sign)
    | t =>
      putBack t
      return none

/-- What has been read of a simple command, last first. -/
structure Simple where
  assignments : List Word := []
  words : List Word := []
  redirections : List Redirection := []

def function (name : Word) : Parse Command := do
  expectWord i ")"
  match Word.literal? name with
  | some text =>
    if ¬ Raw.isName text ∨ text ∈ specialBuiltins then fail "Bad function name"
    match ← i.token anywhere with
    | t =>
      let line := (← get).line
      putBack t
      return .define line text (← i.command)
  | none => fail "Bad function name"

/-- The rest of a simple command on the line. -/
def simpleFrom (line : Nat) (c : Simple) : Nat → Parse Command
  | 0 => return .nothing
  | n + 1 => do
    let done := Command.simple line c.assignments.reverse c.words.reverse c.redirections.reverse
    let open_ := c.words.isEmpty
    match ← i.token { aliases := open_ } with
    | .word w =>
      if open_ ∧ (Word.assignment? w).isSome then
        simpleFrom line { c with assignments := w :: c.assignments } n
      else simpleFrom line { c with words := w :: c.words } n
    | .redirection stream sign =>
      let r ← redirection i.nested stream sign
      simpleFrom line { c with redirections := r :: c.redirections } n
    | .operator "(" =>
      match c with
      | { words := [name], assignments := [], redirections := [] } => function i name
      | _ =>
        putBack (.operator "(")
        return done
    | t =>
      putBack t
      return done

def simple : Parse Command := do
  let s ← get
  simpleFrom i s.line {} (s.rest.length + 2)

/-- What follows the condition of a branch. -/
def branches : Nat → Parse Command
  | 0 => fail "end of file unexpected"
  | n + 1 => do
    let condition ← i.list false
    expectWord i "then"
    let yes ← i.list false
    match ← i.token with
    | .keyword "elif" => return .branch condition yes (← branches n)
    | .keyword "else" => return .branch condition yes (← i.list false)
    | t =>
      putBack t
      return .branch condition yes .nothing

def loop (goal : Bool) : Parse Command := do
  let condition ← i.list false
  expectWord i "do"
  let body ← i.list false
  expectWord i "done"
  return .loop goal condition body

def each (line : Nat) : Parse Command := do
  let name ← match ← i.token with
    | .word w =>
      match Word.literal? w with
      | some name => if Raw.isName name then pure name else fail "Bad for loop variable"
      | none => fail "Bad for loop variable"
    | _ => fail "Bad for loop variable"
  let words ← match ← i.token anywhere with
    | .keyword "in" => do
      match ← wordsUpTo i with
      | (words, .newline) | (words, .operator ";") => pure (some words)
      | (_, t) => unexpected t none
    | .operator ";" => pure none
    | t => do
      putBack t
      pure none
  expectWord i "do" anywhere
  let body ← i.list false
  expectWord i "done"
  return .each line name words body

/-- The patterns of a case, with the token behind them. -/
def patterns (first : Token) : Nat → Parse (List Word × Token)
  | 0 => return ([], first)
  | n + 1 => do
    let w : Word := match first with
      | .word w => w
      | .keyword s => s.toList.map .char
      | _ => []
    match ← i.token with
    | .operator "|" => do
      let (ws, t) ← patterns (← i.token) n
      return (w :: ws, t)
    | t => return ([w], t)

/-- The cases up to the end of a choice. -/
def cases : Nat → Parse (List (List Word × Command))
  | 0 => return []
  | n + 1 => do
    match ← i.token { lines := true, keywords := true } with
    | .keyword "esac" => return []
    | t =>
      let first ← match t with
        | .operator "(" => i.token
        | t => pure t
      let (words, t) ← patterns i first ((← get).rest.length + 2)
      match t with
      | .operator ")" =>
        let body ← i.list true
        match ← i.token { lines := true, keywords := true } with
        | .keyword "esac" => return [(words, body)]
        | .operator ";;" => return (words, body) :: (← cases n)
        | t => unexpected t (some (.operator ";;"))
      | t => unexpected t (some (.operator ")"))

def choice (line : Nat) : Parse Command := do
  match ← i.token with
  | .word w =>
    expectWord i "in" anywhere
    return .choice line w (← cases i ((← get).rest.length + 2))
  | t => unexpected t (some (.word []))

/-- A command with the redirections behind it. -/
def withRedirections (line : Nat) (c : Command) : Parse Command := do
  let rs ← redirections i
  match c with
  | .subshell line c _ => return .subshell line c rs
  | c => return if rs.isEmpty then c else .redirected line c rs

def commandWithin : Parse Command := do
  let t ← i.token onThisLine
  let line := (← get).line
  match t with
  | .keyword "if" =>
    let c ← branches i ((← get).rest.length + 2)
    expectWord i "fi"
    withRedirections i line c
  | .keyword "while" => withRedirections i line (← loop i true)
  | .keyword "until" => withRedirections i line (← loop i false)
  | .keyword "for" => withRedirections i line (← each i line)
  | .keyword "case" => withRedirections i line (← choice i line)
  | .operator "(" =>
    let c ← i.list false
    expectWord i ")"
    withRedirections i line (.subshell line c [])
  | .keyword "\x7b" =>
    let c ← i.list false
    expectWord i "\x7d"
    withRedirections i line c
  | .word _ | .redirection .. =>
    putBack t
    simple i
  | t => unexpected t none

/-- Lets line ends come before the next command. -/
def passLines : Parse Unit := do putBack (← i.token anywhere)

def pipeline : Parse Command := do
  let t ← i.token onThisLine
  let negated : Bool := match t with
    | .keyword "!" => true
    | _ => false
  if !negated then putBack t
  let first ← commandWithin i
  let others ← many do
    match ← i.token with
    | .operator "|" =>
      passLines i
      return some (← commandWithin i)
    | t =>
      putBack t
      return none
  let c := if others.isEmpty then first else .pipeline (first :: others)
  return if negated then .negated c else c

/-- Pipelines joined by what the first one has to come to. -/
def andOrFrom (first : Command) : Nat → Parse Command
  | 0 => return first
  | n + 1 => do
    match ← i.token with
    | .operator "&&" =>
      passLines i
      andOrFrom (.both first (← pipeline i)) n
    | .operator "||" =>
      passLines i
      andOrFrom (.either first (← pipeline i)) n
    | t =>
      putBack t
      return first

def andOr : Parse Command := do andOrFrom i (← pipeline i) ((← get).rest.length + 2)

def join (done : Option Command) (c : Command) : Command :=
  match done with
  | none => c
  | some d => .sequence d c

/-- A list of commands inside another command. -/
def listFrom (mayEnd : Bool) (done : Option Command) : Nat → Parse Command
  | 0 => return done.getD .nothing
  | n + 1 => do
    let t ← i.token anywhere
    putBack t
    match t with
    | .endOfText => return done.getD .nothing
    | t =>
      if mayEnd ∧ endsList t then return done.getD .nothing
      let c ← andOr i
      match ← i.token with
      | .operator "&" => listFrom true (some (join done (.background c))) n
      | .operator ";" | .newline => listFrom true (some (join done c)) n
      | t =>
        putBack t
        return join done c

def listWithin (mayBeEmpty : Bool) : Parse Command := do
  listFrom i mayBeEmpty none ((← get).rest.length + 2)

/-- The commands up to the end of the line; nothing at the end of the text. -/
def lineFrom (done : Option Command) : Nat → Parse (Option Command)
  | 0 => return done
  | n + 1 => do
    match ← i.token onThisLine with
    | .newline => return some (done.getD .nothing)
    | .endOfText =>
      putBack .endOfText
      return done
    | t =>
      putBack t
      let c ← andOr i
      match ← i.token with
      | .operator "&" => lineFrom (some (join done (.background c))) n
      | .operator ";" => lineFrom (some (join done c)) n
      | .newline =>
        putBack .newline
        lineFrom (some (join done c)) n
      | .endOfText =>
        putBack .endOfText
        return some (join done c)
      | t => unexpected t none

end Parse

/-- The readers for commands that stand no deeper than the number says. -/
def Inner.upTo : Nat → Inner
  | 0 => ⟨Parse.fail "end of file unexpected", fun _ => Parse.fail "end of file unexpected"⟩
  | n + 1 =>
    let i := upTo n
    ⟨Parse.commandWithin i, Parse.listWithin i⟩

/-- Reads the commands of the next line; a line may go on where a command does. -/
def Source.nextLine? (s : Source) : Except ParseFault (Option Command × Source) :=
  Parse.lineFrom (Inner.upTo s.rest.length) none (s.rest.length + 2) s

end SyntaxWire.Shell
