/-
The categories of node kinds. The three broad ones own ranges of codes; a
collection borrows a code from the range of the family it collects, and
only the two primitive kinds are unclassified.
-/

namespace SyntaxWire

inductive Category where
  | decl
  | expr
  | stmt
  | collection
  | unclassified
deriving DecidableEq, Repr

namespace Category

def all : List Category := [decl, expr, stmt, collection, unclassified]

def name : Category → String
  | decl => "decl"
  | expr => "expr"
  | stmt => "stmt"
  | collection => "collection"
  | unclassified => "unclassified"

def ofName? (s : String) : Option Category := all.find? (·.name == s)

/-- The byte that stands for the category in a checksum. -/
def tag : Category → UInt8
  | unclassified => 0
  | decl => 1
  | expr => 2
  | stmt => 3
  | collection => 4

/-- The place of the category where kinds are put in order. -/
def rank : Category → Nat
  | decl => 0
  | expr => 1
  | stmt => 2
  | collection => 3
  | unclassified => 4

def IsBroad (c : Category) : Prop := c = decl ∨ c = expr ∨ c = stmt

instance (c : Category) : Decidable c.IsBroad := by unfold IsBroad; infer_instance

theorem ofName?_name (c : Category) : ofName? c.name = some c := by cases c <;> decide

theorem tag_injective {c d : Category} (h : c.tag = d.tag) : c = d := by
  revert h; cases c <;> cases d <;> decide

theorem rank_injective {c d : Category} (h : c.rank = d.rank) : c = d := by
  revert h; cases c <;> cases d <;> decide

end Category

end SyntaxWire
