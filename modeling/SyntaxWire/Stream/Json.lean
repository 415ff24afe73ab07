/-
The settings and verdicts of the codec as JSON.
-/
import SyntaxWire.Json.Record
import SyntaxWire.Json.Value
import SyntaxWire.Stream.Codec

namespace SyntaxWire

open Json

namespace Limits

def toJson (l : Limits) : Value :=
  .object [("max_depth", .natural l.maxDepth.toNat), ("max_payload_len", .natural l.maxPayload.toNat)]

def fields : Fields [UInt64, UInt64] :=
  let standard : Limits := {}
  .cons (.defaulted "max_depth" (uint64 "usize") standard.maxDepth) <|
  .cons (.defaulted "max_payload_len" (uint64 "usize") standard.maxPayload) .nil

def reader : Reader Limits := record "CodecConfig" fields fun (depth, payload, ()) => ⟨depth, payload⟩

end Limits

namespace ProtocolVersion

def toJson (v : ProtocolVersion) : Value :=
  .object [("major", .natural v.major.toNat), ("table_checksum", .natural v.checksum.toNat)]

def fields : Fields [UInt16, UInt64] :=
  .cons (.required "major" uint16) <|
  .cons (.required "table_checksum" (uint64 "u64")) .nil

def reader : Reader ProtocolVersion :=
  record "ProtocolVersion" fields fun (major, checksum, ()) => ⟨major, checksum⟩

end ProtocolVersion

namespace ChecksumMismatch

def toJson (m : ChecksumMismatch) : Value :=
  .object [("stream_checksum", .natural m.stream.toNat), ("local_checksum", .natural m.registry.toNat)]

def fields : Fields [UInt64, UInt64] :=
  .cons (.required "stream_checksum" (uint64 "u64")) <|
  .cons (.required "local_checksum" (uint64 "u64")) .nil

def reader : Reader ChecksumMismatch :=
  record "PartialMismatchWarning" fields fun (stream, registry, ()) => ⟨stream, registry⟩

end ChecksumMismatch

namespace Compatibility

def toJson : Compatibility → Value
  | exact => .string "Exact"
  | partialMismatch m => .object [("PartialMismatch", m.toJson)]

def reader : Reader Compatibility :=
  variant [.plain "Exact" exact,
    .holding "PartialMismatch" fun levels s => (ChecksumMismatch.reader levels s).map fun (m, s) => (partialMismatch m, s)]

end Compatibility

namespace VersionGuard

def toJson (g : VersionGuard) : Value := .object [("major", .natural g.major.toNat)]

def fields : Fields [UInt16] := .cons (.required "major" uint16) .nil

def reader : Reader VersionGuard := record "VersionGuard" fields fun (major, ()) => ⟨major⟩

end VersionGuard

end SyntaxWire
