/-
What can go wrong between a tree and its stream, and the words for it.
-/
import SyntaxWire.Layout

namespace SyntaxWire

/-- The stream follows another protocol than the reader. -/
structure MajorMismatch where
  stream : UInt16
  reader : UInt16
deriving DecidableEq, Repr

def MajorMismatch.message (m : MajorMismatch) : String :=
  s!"stream protocol major {m.stream} is incompatible with local major {m.reader}"

inductive CodecFault where
  | unknownKind (name : String)
  | unknownCode (code : KindCode)
  /-- The stream ends before what it announces. -/
  | truncatedStream
  /-- The number that starts at this byte of the stream has no accepted form. -/
  | malformedVarint (position : Nat)
  | codeOutOfRange (value : Nat)
  | tokenWithChildren (count : Nat)
  | missingPayload
  | unexpectedPayload (name : String)
  | payloadTooLarge (length : Nat) (limit : UInt64)
  | trailingBytes (count : Nat)
  | badMagic
  | depthExceeded (limit : UInt64)
  | cancelled
  | version (mismatch : MajorMismatch)
deriving DecidableEq, Repr

def CodecFault.message : CodecFault → String
  | .unknownKind n => s!"unknown node kind `{n}`"
  | .unknownCode c => s!"unknown node code {c}"
  | .truncatedStream => "stream ended before the declared node content"
  | .malformedVarint p => s!"malformed varint at byte {p}"
  | .codeOutOfRange v => s!"code {v} does not fit a kind code"
  | .tokenWithChildren n => s!"token node has {n} children"
  | .missingPayload => "token node has no payload"
  | .unexpectedPayload n => s!"`{n}` node carries a payload but is not a token"
  | .payloadTooLarge n m => s!"payload of {n} bytes exceeds the {m} byte limit"
  | .trailingBytes n => s!"{n} bytes left after the root node"
  | .badMagic => "bad stream magic"
  | .depthExceeded m => s!"tree deeper than {m} levels"
  | .cancelled => "cancelled"
  | .version m => m.message

end SyntaxWire
