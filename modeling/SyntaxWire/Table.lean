/-
Kind tables: what a grammar author writes down. A table only lists entries
in its own order; whether it makes sense is for `Registry.build` to say.
-/
import SyntaxWire.NodeKind

namespace SyntaxWire

structure TableEntry where
  name : String
  code : KindCode
  /-- Left out, it follows from the code. Collections have to say so. -/
  category : Option Category := none
deriving DecidableEq, Repr

structure KindTable where
  /-- The ranges that the table brings along. -/
  ranges : Option Layout := none
  entries : List TableEntry := []
deriving DecidableEq

namespace KindTable

/-- The ranges in effect. -/
def layout (t : KindTable) : Layout := t.ranges.getD .standard

end KindTable

end SyntaxWire
