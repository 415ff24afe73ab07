/-
Writing a tree as a stream.

A node is its code, the number of its children and, for a token, the length
of the payload and the payload. Nodes come in pre-order. The nodes still to
write are kept in a list with their depths, so the depth of a tree is
bounded by the limit alone.
-/
import SyntaxWire.Stream.Codec

namespace SyntaxWire

namespace Codec

variable {κ : Type}

/-- What follows the two numbers of a node: the payload of a token, behind its length. -/
def nodePayload (c : Codec) (kind : NodeKind) (count : Nat) (payload : Option Bytes) : Except CodecFault Bytes :=
  if kind.isToken then
    if count ≠ 0 then .error (.tokenWithChildren count)
    else match payload with
      | none => .error .missingPayload
      | some payload =>
        if c.limits.maxPayload.toNat < payload.length then
          .error (.payloadTooLarge payload.length c.limits.maxPayload)
        else .ok (Varint.encode payload.length ++ payload)
  else if payload.isSome then .error (.unexpectedPayload kind.name)
  else .ok []

/-- The bytes of one node without its children. -/
def nodeHead (c : Codec) (resolve : κ → Except CodecFault NodeKind) (n : Node κ) : Except CodecFault Bytes :=
  if c.cancelled then .error .cancelled
  else if c.limits.maxDepth.toNat < n.depth then .error (.depthExceeded c.limits.maxDepth)
  else do
    let kind ← resolve n.kind
    let payload ← c.nodePayload kind n.count n.payload
    .ok (Varint.encode kind.code.toNat ++ Varint.encode n.count ++ payload)

/-- Writes the pending trees, the first one first; `done` holds what is written, last piece first. -/
def writePending (c : Codec) (resolve : κ → Except CodecFault NodeKind) (pending : List (Nat × Tree κ))
    (done : List Bytes) : Except CodecFault Bytes :=
  match pending with
  | [] => .ok done.reverse.flatten
  | (depth, t) :: pending =>
    match c.nodeHead resolve (t.top depth) with
    | .error f => .error f
    | .ok head => writePending c resolve ((t.children.map fun u => (depth + 1, u)) ++ pending) (head :: done)
termination_by Tree.sizeAll (pending.map (·.2))
decreasing_by
  simp only [List.map_append, List.map_map, Function.comp_def, List.map_id', List.map_cons,
    Tree.sizeAll_append, Tree.sizeAll, Tree.size_eq t]
  omega

def encodeWith (c : Codec) (r : Registry) (resolve : κ → Except CodecFault NodeKind) (t : Tree κ) :
    Except CodecFault Bytes :=
  writePending c resolve [(1, t)] [(c.guard.stamp r).header]

/-- The stream of a named tree. -/
def encode (c : Codec) (r : Registry) (t : SyntaxTree) : Except CodecFault Bytes :=
  c.encodeWith r r.resolveName t

/-- The stream of a coded tree. -/
def encodeCodes (c : Codec) (r : Registry) (t : CodeTree) : Except CodecFault Bytes :=
  c.encodeWith r r.resolveCode t

end Codec

end SyntaxWire
