/-
Checksums of kind lists: XXH3 over the names, codes and categories in name
order. Each kind is written so that it can be read off the front of a byte
string, so different lists are written differently; families play no part.
-/
import SyntaxWire.Registry
import SyntaxWire.Varint
import SyntaxWire.Hash.Xxh3

namespace SyntaxWire

namespace NodeKind

/-- Names decide, then codes, then categories. -/
def precedes (j k : NodeKind) : Bool :=
  if j.name ≠ k.name then decide (j.name < k.name)
  else if j.code ≠ k.code then decide (j.code < k.code)
  else decide (j.category.rank ≤ k.category.rank)

/-- Name, code and category in bytes. The name is preceded by its length. -/
def record (k : NodeKind) : Bytes :=
  let name := Bytes.ofText k.name
  Varint.encode name.length ++ name ++ Varint.encode k.code.toNat ++ [k.category.tag]

end NodeKind

/-- The bytes that stand for a list of kinds, in whatever order they come. -/
def checksumInput (ks : List NodeKind) : Bytes :=
  (ks.mergeSort NodeKind.precedes).flatMap NodeKind.record

def checksum (ks : List NodeKind) : UInt64 := Xxh3.hash (checksumInput ks)

def Registry.checksum (r : Registry) : UInt64 := SyntaxWire.checksum r.kinds

end SyntaxWire
