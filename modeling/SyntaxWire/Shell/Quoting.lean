/-
Names in messages, written so that a shell would read them back. A name that
needs no quotation is left as it is; bytes that do not show are given by
number in a quotation of their own.
-/
import SyntaxWire.Shell.Raw

namespace SyntaxWire.Shell.Quoting

/-- Characters that mean something to a shell wherever they stand. -/
def special : List Char :=
  [' ', '!', '"', '$', '&', '(', ')', '*', ';', '<', '=', '>', '[', '^', '\x60', '|', '?', '\\', '\'']

/-- What a byte that does not show is called behind a backslash. -/
def nameOf (c : Char) : String :=
  match [('\x07', "a"), ('\x08', "b"), ('\x0c', "f"), ('\n', "n"), ('\r', "r"), ('\t', "t"), ('\x0b', "v")].lookup c with
  | some name => name
  | none => String.ofList [octal (c.toNat / 64), octal (c.toNat / 8), octal c.toNat]
where
  octal (n : Nat) : Char := Char.ofNat ('0'.toNat + n % 8)

def shows (c : Char) : Bool := ' ' ≤ c && c ≤ '~'

/-- Whether a name has to be quoted. A colon counts where a message would go on after it. -/
def needed (colon : Bool) (s : String) : Bool :=
  match s.toList with
  | [] => true
  | c :: cs =>
    (c :: cs).any (fun c => c ∈ special || !shows c || (colon && c = ':'))
      || c ∈ ['#', '~'] || (cs.isEmpty && c ∈ ['\x7b', '\x7d'])

/-- The inside of a quotation; `named` says that a byte was given by number just before. -/
def inside (named : Bool) : List Char → String
  | [] => ""
  | c :: cs =>
    if c = '\'' then "'\\''" ++ inside false cs
    else if shows c then (if named then "''" else "") ++ String.ofList [c] ++ inside false cs
    else
      let open_ := if named then "" else "'$'"
      open_ ++ "\\" ++ nameOf c ++ inside true cs

/-- Whether a name with an apostrophe can stand in double quotes. -/
def isTame (s : String) : Bool :=
  let plain (c : Char) : Bool :=
    c.isAlphanum || c ∈ ['\'', ' ', '%', '+', ',', '-', '.', '/', ':', '@', ']', '_']
  match s.toList with
  | [] => false
  | c :: cs => '\'' ∈ c :: cs && (plain c || c ∈ ['#', '~']) && cs.all plain

def always (s : String) : String :=
  if isTame s then "\"" ++ s ++ "\"" else "'" ++ inside false s.toList ++ "'"

def ifNeeded (s : String) : String := if needed true s then always s else s

end SyntaxWire.Shell.Quoting
