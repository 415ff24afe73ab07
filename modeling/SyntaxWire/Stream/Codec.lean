/-
The settings that both directions of the codec share, and the step from
names to codes and back.
-/
import SyntaxWire.Stream.Version
import SyntaxWire.Tree

namespace SyntaxWire

structure Limits where
  /-- The depth of the deepest node allowed; the root is at depth 1. -/
  maxDepth : UInt64 := 4096
  /-- The length of the longest payload allowed. -/
  maxPayload : UInt64 := 16777216
deriving DecidableEq, Repr

structure Codec where
  limits : Limits := {}
  guard : VersionGuard := {}
  /-- Whether the caller has given up; asked once a node. -/
  cancelled : Bool := false
deriving DecidableEq, Repr

namespace Registry

/-- The kind that a name stands for. -/
def resolveName (r : Registry) (name : String) : Except CodecFault NodeKind :=
  match r.byName name with
  | some k => .ok k
  | none => .error (.unknownKind name)

/-- The kind that a code stands for. -/
def resolveCode (r : Registry) (code : KindCode) : Except CodecFault NodeKind :=
  match r.byCode code with
  | some k => .ok k
  | none => .error (.unknownCode code)

/-- Replaces names by codes. -/
def lower (r : Registry) : SyntaxTree → Except CodecFault CodeTree :=
  Tree.relabel fun name => (r.resolveName name).map (·.code)

/-- Replaces codes by names. -/
def raise (r : Registry) : CodeTree → Except CodecFault SyntaxTree :=
  Tree.relabel fun code => (r.resolveCode code).map (·.name)

end Registry

end SyntaxWire
