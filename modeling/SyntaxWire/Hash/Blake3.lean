/-
BLAKE3 in its plain hashing mode, 32 bytes of output.

The input is cut into chunks of 1024 bytes, a chunk into blocks of 64. A
chunk chains its blocks; chunks are joined in a binary tree whose left side
is the largest power of two of chunks that leaves something on the right.
The last compression of the whole tree carries the root flag.
-/
import SyntaxWire.Bytes

namespace SyntaxWire.Blake3

abbrev Words (n : Nat) := Vector UInt32 n

def initial : Words 8 :=
  #v[0x6A09E667, 0xBB67AE85, 0x3C6EF372, 0xA54FF53A, 0x510E527F, 0x9B05688C, 0x1F83D9AB, 0x5BE0CD19]

/-- Where each message word of the next round comes from. -/
def schedule : Vector (Fin 16) 16 := #v[2, 6, 3, 10, 7, 0, 4, 13, 1, 11, 12, 5, 9, 14, 15, 8]

def chunkStart : UInt32 := 1
def chunkEnd : UInt32 := 2
def parent : UInt32 := 4
def root : UInt32 := 8

def rotateRight (x n : UInt32) : UInt32 := x >>> n ||| x <<< (32 - n)

/-- The quarter round on four words of the state. -/
def mix (v : Words 16) (a b c d : Fin 16) (x y : UInt32) : Words 16 :=
  let va := v[a] + v[b] + x
  let vd := rotateRight (v[d] ^^^ va) 16
  let vc := v[c] + vd
  let vb := rotateRight (v[b] ^^^ vc) 12
  let va := va + vb + y
  let vd := rotateRight (vd ^^^ va) 8
  let vc := vc + vd
  let vb := rotateRight (vb ^^^ vc) 7
  (((v.set a va).set b vb).set c vc).set d vd

def round (v m : Words 16) : Words 16 :=
  let v := mix v 0 4 8 12 m[0] m[1]
  let v := mix v 1 5 9 13 m[2] m[3]
  let v := mix v 2 6 10 14 m[4] m[5]
  let v := mix v 3 7 11 15 m[6] m[7]
  let v := mix v 0 5 10 15 m[8] m[9]
  let v := mix v 1 6 11 12 m[10] m[11]
  let v := mix v 2 7 8 13 m[12] m[13]
  mix v 3 4 9 14 m[14] m[15]

def reorder (m : Words 16) : Words 16 := Vector.ofFn fun i => m[schedule[i]]

def rounds : Nat → Words 16 → Words 16 → Words 16
  | 0, v, _ => v
  | n + 1, v, m => rounds n (round v m) (reorder m)

/-- One compression that has not been run, so that it can still become the root. -/
structure Node where
  chaining : Words 8
  block : Words 16
  counter : Nat
  length : Nat
  flags : UInt32

/-- The chaining value of a node under further flags. -/
def Node.compress (n : Node) (extra : UInt32) : Words 8 :=
  let counter := n.counter.toUInt64
  let v : Words 16 := n.chaining ++ #v[initial[0], initial[1], initial[2], initial[3],
    counter.toUInt32, (counter >>> 32).toUInt32, n.length.toUInt32, n.flags ||| extra]
  let v := rounds 7 v n.block
  Vector.ofFn fun i => v[i.val] ^^^ v[i.val + 8]

def byteAt (s : ByteArray) (i : Nat) : UInt32 :=
  if h : i < s.size then s[i].toUInt32 else 0

/-- The block of up to 64 bytes from `start`, filled with zeros after `stop`. -/
def blockWords (s : ByteArray) (start stop : Nat) : Words 16 :=
  let byte (i : Nat) : UInt32 := if i < stop then byteAt s i else 0
  Vector.ofFn fun k =>
    let i := start + 4 * k.val
    byte i ||| byte (i + 1) <<< 8 ||| byte (i + 2) <<< 16 ||| byte (i + 3) <<< 24

/-- The last node of the chunk that spans `start` to `stop`. -/
def chunk (s : ByteArray) (start stop counter : Nat) : Node :=
  let blocks := max 1 ((stop - start + 63) / 64)
  let node (i : Nat) (chaining : Words 8) : Node :=
    { chaining, counter
      block := blockWords s (start + 64 * i) stop
      length := min 64 (stop - start - 64 * i)
      flags := (if i = 0 then chunkStart else 0) ||| (if i + 1 = blocks then chunkEnd else 0) }
  node (blocks - 1) <|
    (List.range (blocks - 1)).foldl (fun chaining i => (node i chaining).compress 0) initial

def join (left right : Words 8) : Node :=
  { chaining := initial, block := left ++ right, counter := 0, length := 64, flags := parent }

/-- The chunks under a left child: the greatest power of two below `chunks`. -/
def leftChunks (chunks : Nat) : Nat := Nat.pow 2 (chunks - 1).log2

theorem leftChunks_pos (chunks : Nat) : 0 < leftChunks chunks := Nat.two_pow_pos _

theorem leftChunks_lt {chunks : Nat} (h : ¬ chunks ≤ 1) : leftChunks chunks < chunks :=
  have hne : chunks - 1 ≠ 0 := fun h0 => h (Nat.sub_eq_zero_iff_le.1 h0)
  Nat.lt_of_le_of_lt (Nat.log2_self_le hne) (Nat.sub_lt (by omega) Nat.one_pos)

/-- The node over the `chunks` chunks from `first` on. -/
def subtree (s : ByteArray) (first chunks : Nat) : Node :=
  if h : chunks ≤ 1 then
    chunk s (1024 * first) (min s.size (1024 * first + 1024)) first
  else
    let left := leftChunks chunks
    join ((subtree s first left).compress 0) ((subtree s (first + left) (chunks - left)).compress 0)
termination_by chunks
decreasing_by
  · exact leftChunks_lt h
  · exact Nat.sub_lt (Nat.lt_trans (leftChunks_pos chunks) (leftChunks_lt h)) (leftChunks_pos chunks)

/-- The 32-byte hash of a byte string. -/
def hash (s : Bytes) : Bytes :=
  let s : ByteArray := ⟨s.toArray⟩
  let chunks := max 1 ((s.size + 1023) / 1024)
  ((subtree s 0 chunks).compress root).toList.flatMap fun w => Bytes.littleEndian 4 w.toNat

end SyntaxWire.Blake3
