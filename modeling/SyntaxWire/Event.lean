/-
What a run reports along the way. Events are read off results, so the
functions that produce the results stay silent.
-/
import SyntaxWire.Stream.Decode

namespace SyntaxWire

inductive Event where
  | built (kinds : Nat) (checksum : UInt64)
  /-- A stream was encoded under another table than the one that reads it. -/
  | mismatched (mismatch : ChecksumMismatch)
  | reloaded (kinds : Nat) (checksum : UInt64)
  | replaced (kinds : Nat)
  | installed (kinds : Nat) (checksum : UInt64)
deriving DecidableEq, Repr

def Event.render : Event → String
  | .built n c => s!"DEBUG registry built kinds={n} checksum={hexWord c}"
  | .mismatched m =>
    "WARN kind table differs from the one that encoded this stream "
      ++ s!"stream={hexWord m.stream} local={hexWord m.registry}"
  | .reloaded n c => s!"INFO registry reloaded kinds={n} checksum={hexWord c}"
  | .replaced n => s!"INFO registry replaced kinds={n}"
  | .installed n c => s!"INFO registry installed kinds={n} checksum={hexWord c}"

/-- What building a registry reports. -/
def Registry.buildEvent (r : Registry) : Event := .built r.size r.checksum

/-- What checking a stream's version reports. -/
def Compatibility.events : Compatibility → List Event
  | .exact => []
  | .partialMismatch m => [.mismatched m]

/-- What decoding a stream reports, also where it fails after the header. -/
def Codec.decodeEvents (c : Codec) (r : Registry) (s : Bytes) : List Event :=
  match c.openStream r s with
  | .ok o => o.compatibility.events
  | .error _ => []

end SyntaxWire
