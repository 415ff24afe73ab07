/-
The stamp at the front of a stream, and what a reader concludes from it.

A header is fourteen bytes: the magic word, the protocol major and the
checksum of the registry that encoded the stream, both little-endian.
-/
import SyntaxWire.Registry.Checksum
import SyntaxWire.Stream.Fault

namespace SyntaxWire

structure ProtocolVersion where
  major : UInt16
  checksum : UInt64
deriving DecidableEq, Repr

namespace ProtocolVersion

def magic : Bytes := Bytes.ofText "SYNR"

def headerSize : Nat := 14

def header (v : ProtocolVersion) : Bytes :=
  magic ++ Bytes.littleEndian 2 v.major.toNat ++ Bytes.littleEndian 8 v.checksum.toNat

/-- The version at the front of a stream, and the rest. A wrong byte is told from a missing one. -/
def read (s : Bytes) : Except CodecFault (ProtocolVersion × Bytes) :=
  if ¬ (s.take 4).isPrefixOf magic then .error .badMagic
  else match Bytes.split? headerSize s with
    | none => .error .truncatedStream
    | some (head, rest) =>
      let major := Bytes.ofLittleEndian ((head.drop 4).take 2)
      let checksum := Bytes.ofLittleEndian (head.drop 6)
      .ok (⟨major.toUInt16, checksum.toUInt64⟩, rest)

end ProtocolVersion

/-- The checksums of a stream and of the registry that reads it, where they differ. -/
structure ChecksumMismatch where
  stream : UInt64
  registry : UInt64
deriving DecidableEq, Repr

inductive Compatibility where
  | exact
  /-- Codes that both sides know still decode. -/
  | partialMismatch (mismatch : ChecksumMismatch)
deriving DecidableEq, Repr

/-- The protocol major that one side of a stream speaks. -/
structure VersionGuard where
  major : UInt16 := 1
deriving DecidableEq, Repr

namespace VersionGuard

def stamp (g : VersionGuard) (r : Registry) : ProtocolVersion := ⟨g.major, r.checksum⟩

def check (g : VersionGuard) (v : ProtocolVersion) (r : Registry) : Except MajorMismatch Compatibility :=
  if v.major ≠ g.major then .error ⟨v.major, g.major⟩
  else
    if v.checksum = r.checksum then .ok .exact
    else .ok (.partialMismatch ⟨v.checksum, r.checksum⟩)

end VersionGuard

end SyntaxWire
