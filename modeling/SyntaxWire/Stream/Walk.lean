/-
The decoder as a machine.

Its state is the bytes not read yet and a frame for every node whose
children are being read, the innermost first. A step reads one node. A node
with children opens a frame; a node without them is finished, and finishes
every frame for which it is the last child. Each step consumes bytes, so a
walk comes to an end.
-/
import SyntaxWire.Stream.Codec

namespace SyntaxWire

/-- A node whose children are being read. -/
structure Frame where
  code : KindCode
  /-- How many children the stream declares. -/
  declared : Nat
  /-- How many of them are still to come. -/
  remaining : Nat
  /-- The others, the last one first. -/
  done : List CodeTree

structure Walk where
  rest : Bytes
  frames : List Frame := []

namespace Walk

inductive Outcome where
  | more (w : Walk)
  | root (t : CodeTree) (rest : Bytes)

/-- The number at the front of `s`, where `s` is what is left of a stream of `total` bytes. -/
def readVarint (total : Nat) (s : Bytes) : Except CodecFault (Nat × Bytes) :=
  match Varint.decode s with
  | .ok p => .ok p
  | .error .truncated => .error .truncatedStream
  | .error .overflow | .error .nonCanonical => .error (.malformedVarint (total - s.length))

/-- Hands a finished tree to the innermost frame, and on as long as that finishes frames. -/
def attach (t : CodeTree) (rest : Bytes) : List Frame → Outcome
  | [] => .root t rest
  | f :: fs =>
    if f.remaining - 1 = 0 then attach (.node f.code (t :: f.done).reverse none) rest fs
    else .more ⟨rest, { f with remaining := f.remaining - 1, done := t :: f.done } :: fs⟩

/-- What a node brings, once its kind and its child count are known. -/
def enter (c : Codec) (total : Nat) (kind : NodeKind) (count : Nat) (s : Bytes) (frames : List Frame) :
    Except CodecFault Outcome :=
  if kind.isToken then
    if count ≠ 0 then .error (.tokenWithChildren count)
    else do
      let (length, s) ← readVarint total s
      if c.limits.maxPayload.toNat < length then .error (.payloadTooLarge length c.limits.maxPayload)
      else match Bytes.split? length s with
        | none => .error .truncatedStream
        | some (payload, s) => .ok (attach (.node kind.code [] (some payload)) s frames)
  else if count = 0 then .ok (attach (.node kind.code [] none) s frames)
  else .ok (.more ⟨s, ⟨kind.code, count, count, []⟩ :: frames⟩)

/-- Reads one node. Every node takes two bytes or more, which bounds the count of children. -/
def step (c : Codec) (r : Registry) (total : Nat) (w : Walk) : Except CodecFault Outcome :=
  if c.cancelled then .error .cancelled
  else if c.limits.maxDepth.toNat ≤ w.frames.length then .error (.depthExceeded c.limits.maxDepth)
  else do
    let (code, s) ← readVarint total w.rest
    if UInt32.size ≤ code then .error (.codeOutOfRange code)
    else do
      let kind ← r.resolveCode code.toUInt32
      let (count, s) ← readVarint total s
      if Bytes.holds (2 * count) s then enter c total kind count s w.frames
      else .error .truncatedStream

theorem readVarint_shortens {total n : Nat} {s rest : Bytes} (h : readVarint total s = .ok (n, rest)) :
    rest.length < s.length := by
  unfold readVarint at h
  split at h <;> try cases h
  rename_i hd
  exact Varint.decode_shortens hd

theorem attach_rest {t : CodeTree} {rest : Bytes} {fs : List Frame} {w : Walk}
    (h : attach t rest fs = .more w) : w.rest = rest := by
  induction fs generalizing t with
  | nil => cases h
  | cons f fs ih =>
    unfold attach at h
    split at h
    · exact ih h
    · cases h; rfl

theorem enter_rest {c : Codec} {total count : Nat} {kind : NodeKind} {s : Bytes} {fs : List Frame} {w : Walk}
    (h : enter c total kind count s fs = .ok (.more w)) : w.rest.length ≤ s.length := by
  unfold enter at h
  split at h
  · split at h
    · cases h
    · cases hv : readVarint total s with
      | error f => simp [hv, bind, Except.bind] at h
      | ok p =>
        obtain ⟨length, s'⟩ := p
        have hs := readVarint_shortens hv
        simp only [hv, bind, Except.bind] at h
        split at h
        · cases h
        · split at h
          · cases h
          · rename_i payload s'' hp
            obtain ⟨rfl, _⟩ := Bytes.split?_eq_some hp
            rw [attach_rest (Except.ok.inj h)]
            simp only [List.length_append] at hs
            omega
  · split at h
    · have := attach_rest (Except.ok.inj h)
      simp [this]
    · cases h; simp

theorem step_shortens {c : Codec} {r : Registry} {total : Nat} {w w' : Walk}
    (h : step c r total w = .ok (.more w')) : w'.rest.length < w.rest.length := by
  unfold step at h
  split at h
  · cases h
  · split at h
    · cases h
    · cases hv : readVarint total w.rest with
      | error f => simp [hv, bind, Except.bind] at h
      | ok p =>
        obtain ⟨code, s⟩ := p
        have hs := readVarint_shortens hv
        simp only [hv, bind, Except.bind] at h
        split at h
        · cases h
        · cases hk : r.resolveCode code.toUInt32 with
          | error f => simp [hk] at h
          | ok kind =>
            simp only [hk] at h
            cases hn : readVarint total s with
            | error f => simp [hn] at h
            | ok p =>
              obtain ⟨count, s'⟩ := p
              have hs' := readVarint_shortens hn
              simp only [hn] at h
              split at h
              · have := enter_rest h
                omega
              · cases h

/-- Steps until the root is finished; gives it with the bytes after it. -/
def run (c : Codec) (r : Registry) (total : Nat) (w : Walk) : Except CodecFault (CodeTree × Bytes) :=
  match _ : step c r total w with
  | .error f => .error f
  | .ok (.root t rest) => .ok (t, rest)
  | .ok (.more w') => run c r total w'
termination_by w.rest.length
decreasing_by exact step_shortens ‹_›

end Walk

end SyntaxWire
