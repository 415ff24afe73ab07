/-
Reading a script piece by piece: characters, words and operators.

Readers work on a `Source`, which holds what has not been read yet. Words can
have commands in them; how those are read comes in as `Nested`, so that this
module stands below the grammar of commands.
-/
import SyntaxWire.Shell.Script

namespace SyntaxWire.Shell

inductive Token where
  | endOfText
  | newline
  | operator (sign : String)
  | keyword (word : String)
  | word (w : Word)
  | redirection (stream : Nat) (sign : String)

/-- What messages call a token. -/
def Token.name : Token → String
  | endOfText => "end of file"
  | newline => "newline"
  | operator s | keyword s => "\"" ++ s ++ "\""
  | word _ => "word"
  | redirection _ _ => "redirection"

structure Source where
  rest : List Char
  line : Nat := 1
  /-- The number of lines that were taken out from behind the current one. -/
  taken : Nat := 0
  /-- A token that was read and then put back. -/
  back : Option Token := none
  aliases : List (String × String) := []
  /-- Aliases in use, with the length of the rest at which they are used up. -/
  inUse : List (String × Nat) := []

structure ParseFault where
  line : Nat
  message : String
deriving DecidableEq, Repr

abbrev Parse := StateT Source (Except ParseFault)

namespace Parse

def fail {α : Type} (message : String) : Parse α := fun s => .error ⟨s.line, message⟩

def unexpected {α : Type} (t : Token) (expected : Option Token) : Parse α :=
  let wish := match expected with
    | some t => " (expecting " ++ t.name ++ ")"
    | none => ""
  fail (t.name ++ " unexpected" ++ wish)

/-- Takes in the character at the front, which is `c`. -/
def advance (c : Char) (rest : List Char) : Parse Unit :=
  modify fun s =>
    if c = '\n' then { s with rest, line := s.line + 1 + s.taken, taken := 0 } else { s with rest }

/-- Passes over line ends behind a backslash. -/
def joinLines : Parse Unit := modify fun s => go s s.rest
where
  go (s : Source) : List Char → Source
    | '\\' :: '\n' :: rest => go { s with line := s.line + 1 + s.taken, taken := 0 } rest
    | rest => { s with rest }

def peek? : Parse (Option Char) := do
  joinLines
  return (← get).rest.head?

def next? : Parse (Option Char) := do
  joinLines
  match (← get).rest with
  | [] => return none
  | c :: rest =>
    advance c rest
    return some c

/-- Takes the character if it comes next. -/
def accept (c : Char) : Parse Bool := do
  if (← peek?) = some c then
    discard next?
    return true
  return false

/-- Takes the characters up to the first that does not fulfil the condition. -/
def takeWhile (p : Char → Bool) : Parse String := fun s =>
  .ok (String.ofList (s.rest.takeWhile p), { s with rest := s.rest.dropWhile p })

/-- Repeats a reader until it finds nothing. It must use something up each time it does. -/
def many {α : Type} (step : Parse (Option α)) : Parse (List α) := fun s => go (s.rest.length + 2) s
where
  go : Nat → Parse (List α)
    | 0 => pure []
    | n + 1 => do
      match ← step with
      | none => return []
      | some a => return a :: (← go n)

/-- Reads a text of its own and then goes on where it was. -/
def elsewhere {α : Type} (text : List Char) (line : Nat) (p : Parse α) : Parse α := do
  let s ← get
  set ({ rest := text, line, aliases := s.aliases } : Source)
  let a ← p
  set s
  return a

end Parse

/-- How commands inside a word are read. -/
structure Nested where
  /-- Up to a closing parenthesis, which is read too. -/
  closed : Parse Command
  /-- Up to where no more commands are. -/
  all : Parse Command

/-- Where a part of a word stands. -/
inductive Context where
  | plain
  | double
  | brace
  | braceInDouble
  | arithmetic
  | parenthesis
  | here
deriving DecidableEq, Repr

namespace Context

/-- Characters mean only themselves here, apart from expansions. -/
def isQuoted : Context → Bool
  | plain | brace => false
  | _ => true

def part (at_ : Context) (c : Char) : Part := if at_.isQuoted then .kept c else .char c

/-- Whether a backslash takes away the meaning of the character behind it. -/
def escapes (at_ : Context) (c : Char) : Bool :=
  match at_ with
  | plain | brace => true
  | here => c ∈ ['\\', '\x60', '$']
  | braceInDouble => c ∈ ['\\', '\x60', '$', '"', '\x7d']
  | _ => c ∈ ['\\', '\x60', '$', '"']

end Context

namespace Parse

/-- The text up to a closing backquote and what is behind that. -/
def backquoted? (inDouble : Bool) : List Char → Option (List Char × List Char)
  | [] => none
  | '\x60' :: rest => some ([], rest)
  | '\\' :: '\n' :: rest => backquoted? inDouble rest
  | '\\' :: c :: rest =>
    let bare := c ∈ ['\\', '\x60', '$'] || (inDouble && c = '"')
    (backquoted? inDouble rest).map fun (s, rest) => (if bare then c :: s else '\\' :: c :: s, rest)
  | c :: rest => (backquoted? inDouble rest).map fun (s, rest) => (c :: s, rest)

/-- Goes on at `rest`, which is a part of what is left. -/
def skipTo (rest : List Char) : Parse Unit :=
  modify fun s =>
    let passed := (s.rest.take (s.rest.length - rest.length)).count '\n'
    { s with rest, line := s.line + passed + (if passed = 0 then 0 else s.taken),
             taken := if passed = 0 then s.taken else 0 }

def isSpecial (c : Char) : Bool := c ∈ ['*', '@', '#', '?', '-', '$', '!'] || c.isDigit

/-- The next character. If it is a line end, it does not count as one. -/
def nextOnLine? : Parse (Option Char) := do
  let line := (← get).line
  let c ← next?
  modify ({ · with line })
  return c

/-- The name of a parameter in braces, and whether its length is asked for. -/
def parameterName : Parse (Option (String × Bool)) := do
  if (← peek?) = some '\x7d' then return none
  match ← nextOnLine? with
  | none => return none
  | some c =>
    if Raw.isNameStart c then return some (String.ofList [c] ++ (← takeWhile Raw.isNameChar), false)
    if c.isDigit then return some (String.ofList [c] ++ (← takeWhile Char.isDigit), false)
    if c = '#' then
      match (← get).rest with
      | c :: rest =>
        if Raw.isNameChar c then
          let name ← takeWhile fun d => if c.isDigit then d.isDigit else Raw.isNameChar d
          return some (name, true)
        if c ≠ '\x7d' ∧ rest.head? = some '\x7d' then
          if isSpecial c then
            discard next?
            return some (String.ofList [c], true)
          return none
        return some ("#", false)
      | [] => return some ("#", false)
    return if isSpecial c then some (String.ofList [c], false) else none

/-- What is done with a parameter, and where the word that follows stands. Nothing if no word follows. -/
def change (at_ : Context) : Parse (Change × Option Context) := do
  let inside : Context := if at_.isQuoted then .braceInDouble else .brace
  if ← accept '\x7d' then return (.plain, none)
  let cut (c : Char) (f : Bool → Change) : Parse (Change × Option Context) := do
    return (f (← accept c), some .brace)
  if ← accept '%' then return ← cut '%' .cutEnd
  if ← accept '#' then return ← cut '#' .cutFront
  let null ← accept ':'
  match ← nextOnLine? with
  | some '-' => return (.default null, some inside)
  | some '=' => return (.assign null, some inside)
  | some '?' => return (.require null, some inside)
  | some '+' => return (.instead null, some inside)
  | some '\x7d' => return (.bad, none)
  | _ => return (.bad, some inside)

variable (nested : Nested) (deeper : Context → Parse Word)

/-- What follows an opening brace behind a dollar sign. -/
def braced (at_ : Context) : Parse Word := do
  let inside := if at_.isQuoted then Context.braceInDouble else .brace
  match ← parameterName with
  | some (name, true) =>
    if ← accept '\x7d' then return [.parameter name .length [] at_.isQuoted]
    return [.parameter name .bad (← deeper inside) at_.isQuoted]
  | some (name, false) =>
    match ← change at_ with
    | (change, none) => return [.parameter name change [] at_.isQuoted]
    | (change, some inside) => return [.parameter name change (← deeper inside) at_.isQuoted]
  | none => return [.parameter "" .bad (← deeper inside) at_.isQuoted]

/-- What follows a dollar sign. -/
def dollar (at_ : Context) : Parse Word := do
  match ← peek? with
  | some '(' =>
    discard next?
    if ← accept '(' then return [.arithmetic (← deeper .arithmetic) at_.isQuoted]
    return [.substitution (← nested.closed) at_.isQuoted]
  | some '\x7b' =>
    discard next?
    braced deeper at_
  | some c =>
    if Raw.isNameStart c then return [.parameter (← takeWhile Raw.isNameChar) .plain [] at_.isQuoted]
    if isSpecial c then
      discard next?
      return [.parameter (String.ofList [c]) .plain [] at_.isQuoted]
    return [at_.part '$']
  | none => return [at_.part '$']

def backquote (at_ : Context) : Parse Word := do
  match backquoted? at_.isQuoted (← get).rest with
  | none =>
    skipTo []
    fail "EOF in backquote substitution"
  | some (text, rest) =>
    skipTo rest
    return [.substitution (← elsewhere text 1 nested.all) at_.isQuoted]

/-- What follows a backslash. -/
def escaped (at_ : Context) : Parse Word := do
  match (← get).rest with
  | [] => return [.kept '\\']
  | c :: rest =>
    advance c rest
    return if at_.escapes c then [.kept c] else [.kept '\\', .kept c]

def singleQuoted : Parse Word := do
  let s ← get
  let text := s.rest.takeWhile (· ≠ '\'')
  match s.rest.drop text.length with
  | [] =>
    skipTo []
    fail "Unterminated quoted string"
  | _ :: rest =>
    skipTo rest
    return .mark :: text.map .kept

/-- The end of the text inside a word. -/
def atEnd : Context → Parse (Option Word)
  | .plain | .here => pure none
  | .double | .braceInDouble => fail "Unterminated quoted string"
  | .brace => fail "Missing '\x7d'"
  | .arithmetic | .parenthesis => fail "Missing '))'"

/-- The next part of a word, or nothing if it ends here. -/
def piece (at_ : Context) : Parse (Option Word) := do
  match ← peek? with
  | none => atEnd at_
  | some c =>
    if at_ = .plain ∧ c ∈ [' ', '\t', '\n', ';', '&', '|', '<', '>', '(', ')'] then return none
    discard next?
    match c, at_ with
    | '\\', _ => return some (← escaped at_)
    | '$', _ => return some (← dollar nested deeper at_)
    | '\x60', _ => return some (← backquote nested at_)
    | '\'', .plain | '\'', .brace => return some (← singleQuoted)
    | '"', .plain | '"', .brace => return some (.mark :: (← deeper .double))
    | '"', .braceInDouble => return some (← deeper .double)
    | '"', .double => return none
    | '\x7d', .brace | '\x7d', .braceInDouble => return none
    | '(', .arithmetic | '(', .parenthesis =>
      return some (.kept '(' :: (← deeper .parenthesis) ++ [.kept ')'])
    | ')', .parenthesis => return none
    | ')', .arithmetic =>
      if ← accept ')' then return none
      return some [.kept ')']
    | c, at_ => return some [at_.part c]

/-- A word, or what is left of one. The number bounds how deep parts stand inside one another. -/
def parts : Nat → Context → Parse Word
  | 0, _ => fail "Unterminated quoted string"
  | n + 1, at_ => do return (← many (piece nested (parts n) at_)).flatten

def word (at_ : Context) : Parse Word := do parts nested ((← get).rest.length + 1) at_

/-- The sign of a redirection, of which the first character has been read. -/
def redirectionSign (first : Char) : Parse String := do
  if first = '>' then
    if ← accept '>' then return ">>"
    if ← accept '|' then return ">|"
    if ← accept '&' then return ">&"
    return ">"
  if ← accept '<' then return if ← accept '-' then "<<-" else "<<"
  if ← accept '&' then return "<&"
  if ← accept '>' then return "<>"
  return "<"

/-- A word, or a redirection with the digit in front of it. -/
def wordOrRedirection : Parse Token := do
  let w ← word nested .plain
  match ← peek? with
  | some c =>
    if c ≠ '<' ∧ c ≠ '>' then return .word w
    let usual := if c = '<' then 0 else 1
    let stream := match w with
      | [] => some usual
      | [.char d] => if d.isDigit then some (d.toNat - '0'.toNat) else none
      | _ => none
    match stream with
    | none => return .word w
    | some n =>
      discard next?
      return .redirection n (← redirectionSign c)
  | none => return .word w

/-- An operator that may be doubled. -/
def operator (sign : Char) (mayDouble : Bool) : Parse Token := do
  if mayDouble then
    if ← accept sign then return .operator (String.ofList [sign, sign])
  return .operator (String.ofList [sign])

def blanks : Parse Unit := do
  discard <| many do
    match ← peek? with
    | some ' ' | some '\t' => next?
    | _ => return none

/-- The next token as it stands in the text. -/
def freshToken : Parse Token := do
  blanks
  if (← peek?) = some '#' then discard (takeWhile (· ≠ '\n'))
  match ← peek? with
  | none => return .endOfText
  | some c =>
    match c with
    | '\n' =>
      discard next?
      return .newline
    | '&' | '|' | ';' =>
      discard next?
      operator c true
    | '(' | ')' =>
      discard next?
      operator c false
    | _ => wordOrRedirection nested

def keywords : List String :=
  ["!", "case", "do", "done", "elif", "else", "esac", "fi", "for", "if", "in", "then", "until", "while",
    "\x7b", "\x7d"]

/-- What a token is looked at for. -/
structure Expecting where
  /-- Line ends are passed over. -/
  lines : Bool := false
  keywords : Bool := false
  aliases : Bool := false

def rawToken : Parse Token := do
  match (← get).back with
  | some t =>
    modify ({ · with back := none })
    return t
  | none => freshToken nested

/-- Puts the text of an alias in front of the rest, unless it stands in its own text. -/
def expandAlias? (name : String) : Parse Bool := do
  let s ← get
  let inUse := s.inUse.filter (·.2 < s.rest.length)
  match s.aliases.lookup name with
  | none => return false
  | some text =>
    if (inUse.lookup name).isSome then return false
    set { s with rest := text.toList ++ s.rest, inUse := (name, s.rest.length) :: inUse }
    return true

def tokenWithin (e : Expecting) : Nat → Parse Token
  | 0 => return .endOfText
  | n + 1 => do
    match ← rawToken nested with
    | .newline => if e.lines then tokenWithin e n else return .newline
    | .word w =>
      match Word.literal? w with
      | none => return .word w
      | some text =>
        if e.keywords ∧ text ∈ keywords then return .keyword text
        if e.aliases then
          if ← expandAlias? text then return ← tokenWithin e n
        return .word w
    | t => return t

def token (e : Expecting) : Parse Token := do
  let s ← get
  tokenWithin nested e (s.rest.length + s.aliases.length + 2)

def putBack (t : Token) : Parse Unit := modify ({ · with back := some t })

/-- The lines up to the one that is the mark, their number with that one, and what follows it. -/
def linesUpTo (mark : String) (strip : String → String) : List String → List String × Nat × List String
  | [] => ([], 0, [])
  | line :: rest =>
    let line := strip line
    if Raw.withoutEnd line = mark then ([], 1, rest)
    else
      let (body, n, rest) := linesUpTo mark strip rest
      (line :: body, n + 1, rest)

/-- Takes a document out of the lines behind the current one. -/
def hereDocument (mark : Word) (stripTabs : Bool) : Parse Word := do
  let s ← get
  let here := s.rest.takeWhile (· ≠ '\n')
  let lines := Raw.lines (String.ofList (s.rest.drop (here.length + 1)))
  let strip (line : String) : String :=
    if stripTabs then String.ofList (line.toList.dropWhile (· = '\t')) else line
  let (body, n, rest) := linesUpTo mark.unquoted strip lines
  let after := if n = 0 then s.rest.drop here.length else '\n' :: (String.join rest).toList
  set { s with rest := here ++ after, taken := s.taken + n }
  let text := (String.join body).toList
  let isBare : Part → Bool
    | .kept _ | .mark => false
    | _ => true
  if mark.all isBare then elsewhere text (s.line + s.taken + 1) (word nested .here)
  else return text.map .kept

/-- What follows the sign of a redirection. -/
def redirection (stream : Nat) (sign : String) : Parse Redirection := do
  match ← token nested {} with
  | .word w =>
    match sign with
    | "<<" => return .here stream (← hereDocument nested w false)
    | "<<-" => return .here stream (← hereDocument nested w true)
    | "<&" | ">&" => return .join stream w
    | ">>" => return .file stream .append w
    | "<" => return .file stream .read w
    | "<>" => return .file stream .both w
    | ">|" => return .file stream .overwrite w
    | _ => return .file stream .write w
  | t => unexpected t none

end Parse

end SyntaxWire.Shell
