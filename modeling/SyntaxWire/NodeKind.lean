/-
Node kinds: the syntactic constructs that a registry knows, each under one
name and one code.
-/
import SyntaxWire.Layout

namespace SyntaxWire

structure NodeKind where
  name : String
  code : KindCode
  category : Category
  /-- The broad category whose range has the code; it differs from `category` for collections only. -/
  family : Category
deriving DecidableEq, Repr

namespace NodeKind

/-- The one kind that carries payload bytes and no children. -/
def token : NodeKind := ⟨"Token", 0, .unclassified, .unclassified⟩

/-- What a producer could not name. -/
def unknown : NodeKind := ⟨"Unknown", 1, .unclassified, .unclassified⟩

/-- The kinds that every registry has, under the reserved codes. -/
def primitives : List NodeKind := [token, unknown]

def isToken (k : NodeKind) : Bool := k.code == token.code

def isPrimitive (k : NodeKind) : Bool := k.code ≤ unknown.code

def isCollection (k : NodeKind) : Bool := k.category == .collection

def describe (k : NodeKind) : String := s!"{k.name}({k.code}, {k.category.name})"

/-- The kind sits in a range of the layout, as a member of its family or a collection of them. -/
def Fits (l : Layout) (k : NodeKind) : Prop :=
  l.classify k.code = some k.family ∧ (k.category = k.family ∨ k.category = .collection)

theorem Fits.one_lt {l : Layout} {k : NodeKind} (h : k.Fits l) : 1 < k.code :=
  Layout.one_lt_of_classify h.1

end NodeKind

end SyntaxWire
