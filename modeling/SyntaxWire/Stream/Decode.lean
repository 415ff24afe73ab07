/-
Reading a stream back into a tree of codes.
-/
import SyntaxWire.Stream.Walk

namespace SyntaxWire

/-- A tree with what its header said. -/
structure Decoded where
  version : ProtocolVersion
  compatibility : Compatibility
  root : CodeTree
deriving DecidableEq

/-- The header of a stream, what the reader concludes from it, and the bytes after it. -/
structure Opening where
  version : ProtocolVersion
  compatibility : Compatibility
  body : Bytes

namespace Codec

/-- Reads and checks the header. No node is read of a stream that fails here. -/
def openStream (c : Codec) (r : Registry) (s : Bytes) : Except CodecFault Opening := do
  let (version, body) ← ProtocolVersion.read s
  match c.guard.check version r with
  | .error m => .error (.version m)
  | .ok compatibility => .ok ⟨version, compatibility, body⟩

/-- The tree of a whole stream, with its version. -/
def decode (c : Codec) (r : Registry) (s : Bytes) : Except CodecFault Decoded := do
  let ⟨version, compatibility, body⟩ ← c.openStream r s
  let (root, rest) ← Walk.run c r s.length { rest := body }
  if rest.isEmpty then .ok ⟨version, compatibility, root⟩ else .error (.trailingBytes rest.length)

/-- The tree of a whole stream. -/
def decodeTree (c : Codec) (r : Registry) (s : Bytes) : Except CodecFault CodeTree :=
  (c.decode r s).map (·.root)

end Codec

end SyntaxWire
