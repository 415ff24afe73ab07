/-
XXH3, the 64-bit variant with seed 0 and the default secret.

Inputs up to 240 bytes are mixed in one pass that depends on their length;
longer ones run through eight lanes, a 64-byte stripe at a time, with the
lanes scrambled after every sixteenth stripe. A word read past the end of
its source counts missing bytes as zero; no length class does so.
-/
import SyntaxWire.Bytes

namespace SyntaxWire.Xxh3

def secret : ByteArray := ⟨#[
  0xb8, 0xfe, 0x6c, 0x39, 0x23, 0xa4, 0x4b, 0xbe, 0x7c, 0x01, 0x81, 0x2c, 0xf7, 0x21, 0xad, 0x1c,
  0xde, 0xd4, 0x6d, 0xe9, 0x83, 0x90, 0x97, 0xdb, 0x72, 0x40, 0xa4, 0xa4, 0xb7, 0xb3, 0x67, 0x1f,
  0xcb, 0x79, 0xe6, 0x4e, 0xcc, 0xc0, 0xe5, 0x78, 0x82, 0x5a, 0xd0, 0x7d, 0xcc, 0xff, 0x72, 0x21,
  0xb8, 0x08, 0x46, 0x74, 0xf7, 0x43, 0x24, 0x8e, 0xe0, 0x35, 0x90, 0xe6, 0x81, 0x3a, 0x26, 0x4c,
  0x3c, 0x28, 0x52, 0xbb, 0x91, 0xc3, 0x00, 0xcb, 0x88, 0xd0, 0x65, 0x8b, 0x1b, 0x53, 0x2e, 0xa3,
  0x71, 0x64, 0x48, 0x97, 0xa2, 0x0d, 0xf9, 0x4e, 0x38, 0x19, 0xef, 0x46, 0xa9, 0xde, 0xac, 0xd8,
  0xa8, 0xfa, 0x76, 0x3f, 0xe3, 0x9c, 0x34, 0x3f, 0xf9, 0xdc, 0xbb, 0xc7, 0xc7, 0x0b, 0x4f, 0x1d,
  0x8a, 0x51, 0xe0, 0x4b, 0xcd, 0xb4, 0x59, 0x31, 0xc8, 0x9f, 0x7e, 0xc9, 0xd9, 0x78, 0x73, 0x64,
  0xea, 0xc5, 0xac, 0x83, 0x34, 0xd3, 0xeb, 0xc3, 0xc5, 0x81, 0xa0, 0xff, 0xfa, 0x13, 0x63, 0xeb,
  0x17, 0x0d, 0xdd, 0x51, 0xb7, 0xf0, 0xda, 0x49, 0xd3, 0x16, 0x55, 0x26, 0x29, 0xd4, 0x68, 0x9e,
  0x2b, 0x16, 0xbe, 0x58, 0x7d, 0x47, 0xa1, 0xfc, 0x8f, 0xf8, 0xb8, 0xd1, 0x7a, 0xd0, 0x31, 0xce,
  0x45, 0xcb, 0x3a, 0x8f, 0x95, 0x16, 0x04, 0x28, 0xaf, 0xd7, 0xfb, 0xca, 0xbb, 0x4b, 0x40, 0x7e]⟩

def prime32One : UInt64 := 0x9E3779B1
def prime32Two : UInt64 := 0x85EBCA77
def prime32Three : UInt64 := 0xC2B2AE3D
def primeOne : UInt64 := 0x9E3779B185EBCA87
def primeTwo : UInt64 := 0xC2B2AE3D27D4EB4F
def primeThree : UInt64 := 0x165667B19E3779F9
def primeFour : UInt64 := 0x85EBCA77C2B2AE63
def primeFive : UInt64 := 0x27D4EB2F165667C5
def mixerOne : UInt64 := 0x165667919E3779F9
def mixerTwo : UInt64 := 0x9FB21C651E98DF25

def byteAt (s : ByteArray) (i : Nat) : UInt64 :=
  if h : i < s.size then s[i].toUInt64 else 0

/-- The little-endian 32-bit word at `i`. -/
def word32 (s : ByteArray) (i : Nat) : UInt64 :=
  byteAt s i ||| byteAt s (i + 1) <<< 8 ||| byteAt s (i + 2) <<< 16 ||| byteAt s (i + 3) <<< 24

/-- The little-endian 64-bit word at `i`. -/
def word64 (s : ByteArray) (i : Nat) : UInt64 :=
  word32 s i ||| word32 s (i + 4) <<< 32

def rotateLeft (x n : UInt64) : UInt64 := x <<< n ||| x >>> (64 - n)

def swapBytes (x : UInt64) : UInt64 :=
  (List.range 8).foldl (fun acc i => acc <<< 8 ||| (x >>> (8 * i.toUInt64)) % 256) 0

/-- The two halves of the 128-bit product, folded together. -/
def foldedProduct (x y : UInt64) : UInt64 :=
  let p := x.toNat * y.toNat
  UInt64.ofNat (p % UInt64.size) ^^^ UInt64.ofNat (p / UInt64.size)

def avalanche (h : UInt64) : UInt64 :=
  let h := (h ^^^ h >>> 37) * mixerOne
  h ^^^ h >>> 32

def longAvalanche (h : UInt64) : UInt64 :=
  let h := (h ^^^ h >>> 33) * primeTwo
  let h := (h ^^^ h >>> 29) * primeThree
  h ^^^ h >>> 32

/-- Mixes the sixteen bytes at `i` with those of the secret at `j`. -/
def mixSixteen (s : ByteArray) (i j : Nat) : UInt64 :=
  foldedProduct (word64 s i ^^^ word64 secret j) (word64 s (i + 8) ^^^ word64 secret (j + 8))

def hashUpTo3 (s : ByteArray) : UInt64 :=
  if s.size = 0 then longAvalanche (word64 secret 56 ^^^ word64 secret 64)
  else
    let n := s.size
    let word := byteAt s 0 <<< 16 ||| byteAt s (n / 2) <<< 24 ||| byteAt s (n - 1) ||| n.toUInt64 <<< 8
    longAvalanche (word ^^^ (word32 secret 0 ^^^ word32 secret 4))

def hashUpTo8 (s : ByteArray) : UInt64 :=
  let n := s.size
  let word := word32 s (n - 4) + word32 s 0 <<< 32
  let h := word ^^^ (word64 secret 8 ^^^ word64 secret 16)
  let h := (h ^^^ rotateLeft h 49 ^^^ rotateLeft h 24) * mixerTwo
  let h := (h ^^^ (h >>> 35 + n.toUInt64)) * mixerTwo
  h ^^^ h >>> 28

def hashUpTo16 (s : ByteArray) : UInt64 :=
  let n := s.size
  let low := word64 s 0 ^^^ (word64 secret 24 ^^^ word64 secret 32)
  let high := word64 s (n - 8) ^^^ (word64 secret 40 ^^^ word64 secret 48)
  avalanche (n.toUInt64 + swapBytes low + high + foldedProduct low high)

/-- Pairs of sixteen bytes from both ends, as many as cover the input. -/
def hashUpTo128 (s : ByteArray) : UInt64 :=
  let n := s.size
  let pairs := (n - 1) / 32 + 1
  avalanche <| (List.range pairs).foldl
    (fun acc i => acc + mixSixteen s (16 * i) (32 * i) + mixSixteen s (n - 16 * (i + 1)) (32 * i + 16))
    (n.toUInt64 * primeOne)

def hashUpTo240 (s : ByteArray) : UInt64 :=
  let n := s.size
  let head := avalanche <| (List.range 8).foldl
    (fun acc i => acc + mixSixteen s (16 * i) (16 * i)) (n.toUInt64 * primeOne)
  let body := (List.range (n / 16 - 8)).foldl
    (fun acc i => acc + mixSixteen s (16 * (i + 8)) (16 * i + 3)) head
  avalanche (body + mixSixteen s (n - 16) 119)

abbrev Lanes := Vector UInt64 8

def startLanes : Lanes :=
  #v[prime32Three, primeOne, primeTwo, primeThree, primeFour, prime32Two, primeFive, prime32One]

/-- Takes the stripe at `i` into the lanes under the secret at `j`. -/
def absorb (s : ByteArray) (i j : Nat) (lanes : Lanes) : Lanes :=
  Vector.ofFn fun k =>
    let key := word64 s (i + 8 * k.val) ^^^ word64 secret (j + 8 * k.val)
    let partner := if k.val % 2 = 0 then k.val + 1 else k.val - 1
    lanes[k] + word64 s (i + 8 * partner) + (key % 4294967296) * (key >>> 32)

def scramble (lanes : Lanes) : Lanes :=
  Vector.ofFn fun k =>
    (lanes[k] ^^^ lanes[k] >>> 47 ^^^ word64 secret (128 + 8 * k.val)) * prime32One

def absorbStripes (s : ByteArray) (start count : Nat) (lanes : Lanes) : Lanes :=
  (List.range count).foldl (fun lanes i => absorb s (start + 64 * i) (8 * i) lanes) lanes

def hashLong (s : ByteArray) : UInt64 :=
  let n := s.size
  let blocks := (n - 1) / 1024
  let lanes := (List.range blocks).foldl
    (fun lanes b => scramble (absorbStripes s (1024 * b) 16 lanes)) startLanes
  let lanes := absorbStripes s (1024 * blocks) ((n - 1 - 1024 * blocks) / 64) lanes
  let lanes := absorb s (n - 64) 121 lanes
  avalanche <| (List.finRange 4).foldl
    (fun acc i => acc + foldedProduct (lanes[2 * i.val] ^^^ word64 secret (11 + 16 * i.val))
      (lanes[2 * i.val + 1] ^^^ word64 secret (19 + 16 * i.val)))
    (n.toUInt64 * primeOne)

/-- The 64-bit hash of a byte string. -/
def hash (s : Bytes) : UInt64 :=
  let s : ByteArray := ⟨s.toArray⟩
  if s.size ≤ 3 then hashUpTo3 s
  else if s.size ≤ 8 then hashUpTo8 s
  else if s.size ≤ 16 then hashUpTo16 s
  else if s.size ≤ 128 then hashUpTo128 s
  else if s.size ≤ 240 then hashUpTo240 s
  else hashLong s

end SyntaxWire.Xxh3
