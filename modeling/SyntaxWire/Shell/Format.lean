/-
What `echo` and `printf` write: backslash escapes, and the directives of a
format with their flags, width and precision.
-/
import SyntaxWire.Shell.Raw
import SyntaxWire.Text.Shortest

namespace SyntaxWire.Shell.Format

def plainEscape? (c : Char) : Option Char :=
  [('\\', '\\'), ('a', '\x07'), ('b', '\x08'), ('e', '\x1b'), ('f', '\x0c'), ('n', '\n'), ('r', '\r'),
    ('t', '\t'), ('v', '\x0b')].lookup c

/-- The character that stands behind a backslash, and what follows it. Where nothing is escaped it is the backslash. -/
def escape (cs : List Char) : Char × List Char :=
  match cs with
  | [] => ('\\', [])
  | c :: rest =>
    match plainEscape? c with
    | some d => (d, rest)
    | none =>
      if (Raw.digit? 8 c).isSome then
        let (n, rest) := Raw.digits 8 3 0 (c :: rest)
        (Char.ofNat (n % 256), rest)
      else ('\\', c :: rest)

/-- A text with its escapes replaced, and whether it told to stop. A zero may stand in front of an octal number. -/
def unescapeWithin : Nat → List Char → List Char × Bool
  | 0, _ | _, [] => ([], false)
  | n + 1, '\\' :: cs =>
    match cs with
    | 'c' :: _ => ([], true)
    | cs =>
      let number := match cs with
        | '0' :: d :: rest => if (Raw.digit? 8 d).isSome then d :: rest else cs
        | cs => cs
      let (c, rest) := escape number
      let (text, stops) := unescapeWithin n rest
      (c :: text, stops)
  | n + 1, c :: cs =>
    let (text, stops) := unescapeWithin n cs
    (c :: text, stops)

def unescape (s : String) : List Char × Bool := unescapeWithin (s.length + 1) s.toList

/-- What `echo` writes. -/
def echo (args : List String) : String :=
  let (args, ending) := match args with
    | "-n" :: args => (args, "")
    | args => (args, "\n")
  go ending "" args
where
  go (ending separator : String) : List String → String
    | [] => ending
    | arg :: args =>
      let (text, stops) := unescape arg
      separator ++ String.ofList text ++ (if stops then "" else go ending " " args)

/-- How a directive wants its value to be written. -/
structure Shape where
  left : Bool := false
  plus : Bool := false
  space : Bool := false
  zero : Bool := false
  alternative : Bool := false
  width : Nat := 0
  precision : Option Nat := none
deriving DecidableEq, Repr

/-- Fills up to the width. -/
def Shape.fill (s : Shape) (cs : List Char) : List Char :=
  let blanks := List.replicate (s.width - cs.length) ' '
  if s.left then cs ++ blanks else blanks ++ cs

/-- Fills a number up to the width; zeros go between the sign and the digits. -/
def Shape.fillNumber (s : Shape) (zeros : Bool) (sign digits : List Char) : List Char :=
  if zeros ∧ s.zero ∧ ¬ s.left then
    sign ++ List.replicate (s.width - sign.length - digits.length) '0' ++ digits
  else s.fill (sign ++ digits)

def Shape.sign (s : Shape) (negative : Bool) : List Char :=
  if negative then ['-'] else if s.plus then ['+'] else if s.space then [' '] else []

/-- The digits of a number, at least as many as the precision says. -/
def Shape.digits (s : Shape) (base n : Nat) : List Char :=
  let ds := if n = 0 ∧ s.precision = some 0 then [] else Nat.toDigits base n
  List.replicate (s.precision.getD 0 - ds.length) '0' ++ ds

def Shape.signed (s : Shape) (n : Int) : List Char :=
  s.fillNumber s.precision.isNone (s.sign (n < 0)) (s.digits 10 n.natAbs)

def Shape.unsigned (s : Shape) (letter : Char) (n : Nat) : List Char :=
  let base := if letter = 'o' then 8 else if letter = 'u' then 10 else 16
  let ds := s.digits base n
  let ds := if letter = 'o' ∧ s.alternative ∧ ds.head? ≠ some '0' then '0' :: ds else ds
  let ds := if letter = 'X' then ds.map Char.toUpper else ds
  let mark := if s.alternative ∧ base = 16 ∧ n ≠ 0 then ['0', letter] else []
  s.fillNumber s.precision.isNone mark ds

def Shape.text (s : Shape) (cs : List Char) : List Char := s.fill (cs.take (s.precision.getD cs.length))

/-- The nearest whole number to the value over `10 ^ k`; of two the even one. -/
def rounded (i : Text.Shortest.Interval) (k : Int) : Nat :=
  let (num, den) := Text.Shortest.scaled i.value i.exponent k
  let below := num / den
  let twice := 2 * (num - below * den)
  if twice < den ∨ (twice = den ∧ below % 2 = 0) then below else below + 1

/-- Digits with a point in front of the last `places`. -/
def pointed (s : Shape) (places : Nat) (ds : List Char) : List Char :=
  let ds := List.replicate (places + 1 - ds.length) '0' ++ ds
  let whole := ds.take (ds.length - places)
  if places = 0 then (if s.alternative then whole ++ ['.'] else whole) else whole ++ '.' :: ds.drop (ds.length - places)

def fixed (s : Shape) (i : Text.Shortest.Interval) (places : Nat) : List Char :=
  pointed s places (Nat.toDigits 10 (rounded i (-places)))

/-- The exponent of a value rounded to some digits, and the digits. -/
def leading (i : Text.Shortest.Interval) (places : Nat) : Int × List Char :=
  if i.value = 0 then (0, List.replicate (places + 1) '0')
  else
    let e := Text.Shortest.magnitude i (-330) 700 - 1
    let ds := Nat.toDigits 10 (rounded i (e - places))
    if ds.length ≤ places + 1 then (e, ds) else (e + 1, ds.take (places + 1))

def withExponent (s : Shape) (letter : Char) (e : Int) (ds : List Char) : List Char :=
  let digits := Nat.toDigits 10 e.natAbs
  pointed s (ds.length - 1) ds ++ [letter, if e < 0 then '-' else '+'] ++
    List.replicate (2 - digits.length) '0' ++ digits

/-- Without zeros at the end of a fraction. -/
def trimmed (cs : List Char) : List Char :=
  if '.' ∈ cs then ((cs.reverse.dropWhile (· = '0')).dropWhile (· = '.')).reverse else cs

/-- The digits of a number by its binary parts, in base 16, with a power of two. -/
def binary (s : Shape) (bits : UInt64) : List Char :=
  let biased := (bits >>> 52 &&& 0x7ff).toNat
  let fraction := (bits &&& 0xfffffffffffff).toNat
  let exponent : Int := if biased = 0 then (if fraction = 0 then 0 else -1022) else biased - 1023
  let all := (if biased = 0 then 0 else 0x10000000000000) + fraction
  let (n, places) := match s.precision with
    | none => (all, 13)
    | some p =>
      if 13 ≤ p then (all * Nat.pow 16 (p - 13), p)
      else
        let unit := Nat.pow 16 (13 - p)
        let rest := all % unit
        let up := unit < 2 * rest || (unit = 2 * rest && all / unit % 2 = 1)
        (all / unit + (if up then 1 else 0), p)
  let ds := pointed s places (Nat.toDigits 16 n)
  let ds := if s.precision.isNone then trimmed ds else ds
  let ds := if s.alternative ∧ '.' ∉ ds then ds ++ ['.'] else ds
  ds ++ ['p', if exponent < 0 then '-' else '+'] ++ Nat.toDigits 10 exponent.natAbs

/-- A floating point number in one of the forms `f`, `e`, `g` and `a`. -/
def Shape.real (s : Shape) (letter : Char) (x : Float) : List Char :=
  let bits := x.toBits
  let sign := s.sign (bits >>> 63 ≠ 0)
  let upper (cs : List Char) : List Char := if letter.isUpper then cs.map Char.toUpper else cs
  if x.isNaN then s.fill (sign ++ upper "nan".toList)
  else if x.isInf then s.fill (sign ++ upper "inf".toList)
  else if letter.toLower = 'a' then
    s.fillNumber true (sign ++ ['0', if letter.isUpper then 'X' else 'x']) (upper (binary s bits))
  else
    let i := Text.Shortest.intervalOf bits
    let places := s.precision.getD 6
    let e := if letter.isUpper then 'E' else 'e'
    s.fillNumber true sign <|
      match letter.toLower with
      | 'f' => fixed s i places
      | 'e' =>
        let (k, ds) := leading i places
        withExponent s e k ds
      | _ =>
        let places := if places = 0 then 1 else places
        let (k, ds) := leading i (places - 1)
        let keep (cs : List Char) : List Char := if s.alternative then cs else trimmed cs
        if k < -4 ∨ (places : Int) ≤ k then
          let kept := (keep (pointed s (ds.length - 1) ds)).filter (· ≠ '.')
          withExponent s e k kept
        else keep (fixed s i (places - 1 - k).toNat)

/-- A word at the front of a text, in either case. -/
def wordAfter? (word : String) (cs : List Char) : Option (List Char) :=
  if (cs.take word.length).map Char.toLower = word.toList then some (cs.drop word.length) else none

/-- Digits with a point somewhere: the number without the point, the digits behind it, and what follows. -/
def pointedDigits? (base : Nat) (cs : List Char) : Option (Nat × Nat × List Char) :=
  let isDigit (c : Char) : Bool := (Raw.digit? base c).isSome
  let whole := cs.takeWhile isDigit
  let rest := cs.drop whole.length
  let (fraction, rest) := match rest with
    | '.' :: rest => (rest.takeWhile isDigit, rest.dropWhile isDigit)
    | rest => ([], rest)
  if whole.isEmpty ∧ fraction.isEmpty then none
  else some ((Raw.digits base (whole.length + fraction.length) 0 (whole ++ fraction)).1, fraction.length, rest)

/-- An exponent behind its letter, if there is one. -/
def exponentAfter (letter : Char) (cs : List Char) : Int × List Char :=
  match cs with
  | mark :: after =>
    match after with
    | c :: _ =>
      if mark.toLower = letter ∧ (c.isDigit ∨ c ∈ ['+', '-']) then (Raw.integer? 10 after).getD (0, cs) else (0, cs)
    | [] => (0, cs)
  | [] => (0, cs)

/-- A number read as floating point: its value, whether it is in range, and what follows it. -/
structure Reading where
  value : Float
  inRange : Bool := true
  rest : List Char

/-- A number without sign at the front of a text. -/
def magnitude? (cs : List Char) : Option Reading :=
  let number (n : Nat) (x : Float) (rest : List Char) : Reading :=
    { value := x, inRange := !x.isInf && (n = 0 || 2.2250738585072014e-308 ≤ x), rest }
  let decimal : Option Reading := do
    let (n, places, rest) ← pointedDigits? 10 cs
    let (e, rest) := exponentAfter 'e' rest
    let e := max (-20000) (min 20000 e) - places
    return number n (Float.ofScientific n (e < 0) e.natAbs) rest
  match wordAfter? "infinity" cs <|> wordAfter? "inf" cs with
  | some rest => some { value := 1.0 / 0.0, rest }
  | none =>
    match wordAfter? "nan" cs with
    | some rest =>
      let rest := match rest with
        | '(' :: more =>
          match more.dropWhile Raw.isNameChar with
          | ')' :: more => more
          | _ => rest
        | rest => rest
      some { value := 0.0 / 0.0, rest }
    | none =>
      match (wordAfter? "0x" cs).bind (pointedDigits? 16) with
      | some (n, places, rest) =>
        let (e, rest) := exponentAfter 'p' rest
        let e := max (-20000) (min 20000 e) - 4 * places
        some (number n ((Float.ofNat n).scaleB e) rest)
      | none => decimal

/-- A number at the front of a text. -/
def real? (cs : List Char) : Option Reading :=
  match cs.dropWhile Raw.isSpace with
  | '-' :: cs => (magnitude? cs).map fun r => { r with value := -r.value }
  | '+' :: cs => magnitude? cs
  | cs => magnitude? cs

/-- What is wrong with an argument that should be a number. -/
inductive Complaint where
  | noNumber (arg : String)
  | moreThanNumber (arg : String)
  | outOfRange (arg : String)
deriving DecidableEq, Repr

/-- The complaint in the words of the shell. -/
def Complaint.message : Complaint → String
  | noNumber arg => arg ++ ": expected numeric value"
  | moreThanNumber arg => arg ++ ": not completely converted"
  | outOfRange arg => arg ++ ": Numerical result out of range"

/-- What has been written, what was wrong with the arguments, and the arguments that are left. -/
structure State where
  out : List Char := []
  complaints : List Complaint := []
  args : List String

/-- The end of a format before its time. -/
inductive Stop where
  /-- An escape said that no more is written. -/
  | quiet
  | fault (message : String)
deriving DecidableEq, Repr

/-- What has been written is kept when a format stops. -/
abbrev Run := ExceptT Stop (StateM State)

def emit (cs : List Char) : Run Unit := modify fun s => { s with out := s.out ++ cs }

def argument? : Run (Option String) := do
  let s ← get
  match s.args with
  | [] => return none
  | arg :: args =>
    set { s with args }
    return some arg

def complain (c : Complaint) : Run Unit := modify fun s => { s with complaints := s.complaints ++ [c] }

/-- Complains about what follows a number, or about one that is out of range. -/
def checkRest (arg : String) (rest : List Char) (inRange : Bool) : Run Unit := do
  if ¬ rest.isEmpty then complain (if rest.length = arg.length then .noNumber arg else .moreThanNumber arg)
  else if ¬ inRange then complain (.outOfRange arg)

/-- An argument as a number, which should be in range. One that starts with a quotation mark is the number of the character behind it. -/
def numeral (low high : Int) : Run Int := do
  match ← argument? with
  | none => return 0
  | some arg =>
    match arg.toList with
    | [] => return 0
    | c :: cs =>
      if c = '"' ∨ c = '\'' then return (cs.head?.getD '\x00').toNat
      match Raw.integer? 0 (c :: cs) with
      | none =>
        checkRest arg (c :: cs) true
        return 0
      | some (n, rest) =>
        checkRest arg rest (low ≤ n && n ≤ high)
        return n

def signedNumber : Run Int := do return Raw.clamp (← numeral Raw.least Raw.greatest)

/-- A number without sign; a negative one stands for what it is in 64 bits. -/
def unsignedNumber : Run Nat := do
  let greatest : Int := 18446744073709551615
  let n ← numeral (-greatest) greatest
  return if greatest < n.natAbs then greatest.toNat else (UInt64.ofInt n).toNat

def realNumber : Run Float := do
  match ← argument? with
  | none => return 0
  | some arg =>
    match arg.toList with
    | [] => return 0
    | c :: cs =>
      if c = '"' ∨ c = '\'' then return Float.ofNat (cs.head?.getD '\x00').toNat
      match real? (c :: cs) with
      | none =>
        checkRest arg (c :: cs) true
        return 0
      | some r =>
        checkRest arg r.rest r.inRange
        return r.value

def flags (s : Shape) : List Char → Shape × List Char
  | '-' :: cs => flags { s with left := true } cs
  | '+' :: cs => flags { s with plus := true } cs
  | ' ' :: cs => flags { s with space := true } cs
  | '0' :: cs => flags { s with zero := true } cs
  | '#' :: cs => flags { s with alternative := true } cs
  | cs => (s, cs)

/-- A number of a directive, which may come from an argument. -/
def directiveNumber (cs : List Char) : Run (Int × List Char) := do
  match cs with
  | '*' :: cs => return ((Int32.ofInt (← signedNumber)).toInt, cs)
  | cs =>
    let (n, rest) := Raw.digits 10 cs.length 0 cs
    return (n, rest)

/-- No value is filled up to more characters than these. -/
def widest : Nat := 16777216

def directiveShape (cs : List Char) : Run (Shape × List Char) := do
  let (s, cs) := flags {} cs
  let (width, cs) ← directiveNumber cs
  let s := { s with width := min width.natAbs widest, left := s.left || decide (width < 0) }
  match cs with
  | '.' :: cs =>
    let (n, cs) ← directiveNumber cs
    return ({ s with precision := if n < 0 then none else some n.toNat }, cs)
  | cs => return (s, cs)

/-- Writes an argument as a directive says. -/
def directive (s : Shape) (letter : Char) (spelled : String) : Run Unit := do
  match letter with
  | 'b' =>
    let (text, stops) := unescape ((← argument?).getD "")
    emit (s.text text)
    if stops then throw .quiet
  | 'c' => emit (s.fill [((← argument?).bind (·.toList.head?)).getD '\x00'])
  | 's' => emit (s.text ((← argument?).getD "").toList)
  | 'd' | 'i' => emit (s.signed (← signedNumber))
  | 'o' | 'u' | 'x' | 'X' => emit (s.unsigned letter (← unsignedNumber))
  | 'a' | 'A' | 'e' | 'E' | 'f' | 'F' | 'g' | 'G' => emit (s.real letter (← realNumber))
  | _ => throw (.fault (spelled ++ ": invalid directive"))

/-- Goes through a format once. -/
def once : Nat → List Char → Run Unit
  | 0, _ | _, [] => return
  | n + 1, '\\' :: cs => do
    let (c, rest) := escape cs
    emit [c]
    once n rest
  | n + 1, '%' :: '%' :: cs => do
    emit ['%']
    once n cs
  | n + 1, '%' :: cs => do
    let (s, rest) ← directiveShape cs
    match rest with
    | [] => throw (.fault "missing format character")
    | letter :: rest =>
      directive s letter (String.ofList ('%' :: cs.take (cs.length - rest.length)))
      once n rest
  | n + 1, c :: cs => do
    emit [c]
    once n cs

/-- Goes through a format again as long as that takes up arguments. -/
def again (form : List Char) : Nat → Run Unit
  | 0 => return
  | n + 1 => do
    let before := (← get).args.length
    once (form.length + 1) form
    let left := (← get).args.length
    if 0 < left ∧ left < before then again form n

/-- What `printf` writes, its complaints, and the fault that ended it. -/
def printf (form : String) (args : List String) : State × Option String :=
  match (again form.toList (args.length + 1)).run { args } with
  | (.ok (), s) | (.error .quiet, s) => (s, none)
  | (.error (.fault message), s) => (s, some message)

end SyntaxWire.Shell.Format
