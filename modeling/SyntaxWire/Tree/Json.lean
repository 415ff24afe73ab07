/-
Trees as JSON. A payload is written as a string where its bytes are UTF-8
and as an array of bytes where they are not; either form may be read, and
each gives back the bytes it was written from.
-/
import SyntaxWire.Json.Record
import SyntaxWire.Json.Value
import SyntaxWire.Tree

namespace SyntaxWire

open Json

/-- What a payload can be told from: any JSON value, as far as it matters. -/
inductive Content where
  | text (s : String)
  | number (n : Number)
  | list (items : List Content)
  | other

namespace Content

/-- Any JSON value, read in full. -/
def read : Reader Content
  | levels, s =>
    match skipBlanks s with
    | [] => .error .endOfValue
    | 'n' :: s => (readNull s).map (other, ·)
    | 't' :: s => (readTrue s).map (other, ·)
    | 'f' :: s => (readFalse s).map (other, ·)
    | '"' :: s => (readString s).map fun (t, s) => (text t, s)
    | '-' :: s => (readNumber true s).map fun (n, s) => (number n, s)
    | '[' :: s =>
      match levels with
      | 0 => .error .tooDeep
      | levels + 1 => (items (read levels) (s.length + 1) [] s).map fun (cs, s) => (list cs, s)
    | '\x7b' :: s =>
      match levels with
      | 0 => .error .tooDeep
      | levels + 1 =>
        let member (_ : String) (_ : Unit) (s : List Char) : Except Fault (Unit × List Char) := do
          let s ← readColon s
          let (_, s) ← read levels s
          .ok ((), s)
        (members member (s.length + 1) true () s).map fun (_, s) => (other, s)
    | c :: s =>
      if isDigit c then (readNumber false (c :: s)).map fun (n, s) => (number n, s)
      else .error .expectedValue

def byte? : Content → Option UInt8
  | number (.integer n) => if 0 ≤ n ∧ n < 256 then some (UInt8.ofNat n.toNat) else none
  | _ => none

def bytes? : Content → Option Bytes
  | text s => some (Bytes.ofText s)
  | list cs => cs.mapM byte?
  | _ => none

end Content

namespace Payload

def toJson (p : Bytes) : Value :=
  match Bytes.text? p with
  | some s => .string s
  | none => .array (p.map fun b => .natural b.toNat)

def reader : Reader Bytes := fun levels s => do
  let (c, s) ← Content.read levels s
  match c.bytes? with
  | some p => .ok (p, s)
  | none => .error (.shape .noVariant)

end Payload

/-- How the labels of a kind of tree are spelled. -/
structure TreeFormat (κ : Type) where
  /-- What a node is called where one is missing. -/
  name : String
  /-- The member that holds the label. -/
  field : String
  write : κ → Value
  read : Reader κ

namespace TreeFormat

/-- Nodes under names. -/
def named : TreeFormat String := ⟨"SyntaxNode", "kind", .string, string⟩

/-- Nodes under codes. -/
def coded : TreeFormat KindCode := ⟨"SerializedNode", "code", fun c => .natural c.toNat, uint32⟩

variable {κ : Type} (f : TreeFormat κ)

mutual

def toJson : Tree κ → Value
  | .node k cs p =>
    .object ((f.field, f.write k)
      :: ((if cs.isEmpty then [] else [("children", .array (toJsonAll cs))])
        ++ (p.map fun p => ("payload", Payload.toJson p)).toList))

def toJsonAll : List (Tree κ) → List Value
  | [] => []
  | t :: ts => toJson t :: toJsonAll ts

end

def fields (children : Reader (List (Tree κ))) : Fields [κ, List (Tree κ), Option Bytes] :=
  .cons (.required f.field f.read) <|
  .cons (.defaulted "children" children []) <|
  .cons (.defaulted "payload" (nullable Payload.reader) none) .nil

def node (children : Reader (List (Tree κ))) : Reader (Tree κ) :=
  record f.name (f.fields children) fun (kind, children, payload, ()) => .node kind children payload

/-- A tree. Each of its levels is an object and an array of children. -/
def reader : Reader (Tree κ)
  | levels + 2, s => f.node (list fun _ => reader levels) (levels + 2) s
  | levels, s => f.node (list fun _ _ => .error .tooDeep) levels s

/-- The tree that a text describes. -/
def ofJson (text : String) : Except Fault (Tree κ) := readAll f.reader text

end TreeFormat

end SyntaxWire
