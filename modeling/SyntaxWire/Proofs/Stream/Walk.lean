/-
What a step of the decoder does, said once. A step reads the text of one
node (`step_text`): it refuses the node, or enters it, which finishes it if
it has no children and opens a frame otherwise. Whatever a step accepts is
such a text (`step_ok_iff`).
-/
import SyntaxWire.Proofs.Bytes
import SyntaxWire.Proofs.Stream.Encode
import SyntaxWire.Stream.Walk

namespace SyntaxWire

namespace Node

def isToken (n : Node KindCode) : Bool := n.kind == NodeKind.token.code

/-- A node whose text can be read: its shape is that of its kind, and a word has room for its numbers. -/
structure Readable (n : Node KindCode) : Prop where
  shaped : n.Shaped n.isToken
  count : n.count < UInt64.size
  payload : ∀ payload, n.payload = some payload → payload.length < UInt64.size

theorem Readable.payload_eq_none {n : Node KindCode} (hn : n.Readable) (h : n.count ≠ 0) : n.payload = none := by
  have hshaped := hn.shaped
  unfold Shaped at hshaped
  split at hshaped
  · exact absurd hshaped.1 h
  · exact hshaped

/-- What becomes of the walk once a node is accepted. -/
def enter (n : Node KindCode) (rest : Bytes) (frames : List Frame) : Walk.Outcome :=
  if n.count = 0 then Walk.attach (.node n.kind [] n.payload) rest frames
  else .more ⟨rest, ⟨n.kind, n.count, n.count, []⟩ :: frames⟩

end Node

namespace Codec

/-- What a reader has against a token: too long a payload. -/
def lengthRefusal (c : Codec) (n : Node KindCode) : Option CodecFault :=
  if n.isToken then
    n.payload.bind fun payload =>
      if c.limits.maxPayload.toNat < payload.length then
        some (.payloadTooLarge payload.length c.limits.maxPayload)
      else none
  else none

/-- What a reader has against a node that it can read: it is too deep, its code is not known, or
it is a token with too long a payload. The first of these counts. -/
def refusal (c : Codec) (r : Registry) (n : Node KindCode) : Option CodecFault :=
  if c.limits.maxDepth.toNat < n.depth then some (.depthExceeded c.limits.maxDepth)
  else if r.byCode n.kind = none then some (.unknownCode n.kind)
  else c.lengthRefusal n

theorem lengthRefusal_eq_none {c : Codec} {n : Node KindCode} :
    c.lengthRefusal n = none ↔
      (n.isToken → ∀ payload, n.payload = some payload → payload.length ≤ c.limits.maxPayload.toNat) := by
  unfold lengthRefusal
  cases n.isToken <;> cases n.payload <;> simp

theorem refusal_eq_none {c : Codec} {r : Registry} {n : Node KindCode} :
    c.refusal r n = none ↔ n.depth ≤ c.limits.maxDepth.toNat ∧ (∃ k, r.byCode n.kind = some k) ∧
      (n.isToken → ∀ payload, n.payload = some payload → payload.length ≤ c.limits.maxPayload.toNat) := by
  unfold refusal
  by_cases hd : c.limits.maxDepth.toNat < n.depth
  · simp only [if_pos hd, reduceCtorEq, false_iff]
    rintro ⟨h, -⟩
    omega
  rw [if_neg hd, ← Option.ne_none_iff_exists']
  by_cases hk : r.byCode n.kind = none
  · simp only [if_pos hk, reduceCtorEq, false_iff]
    rintro ⟨-, h, -⟩
    exact h hk
  · rw [if_neg hk, lengthRefusal_eq_none]
    exact ⟨fun h => ⟨Nat.not_lt.1 hd, hk, h⟩, fun h => h.2.2⟩

theorem refusal_cases {c : Codec} {r : Registry} {n : Node KindCode} {f : CodecFault} (h : c.refusal r n = some f) :
    f = .depthExceeded c.limits.maxDepth ∨ f = .unknownCode n.kind ∨
      ∃ payload, n.payload = some payload ∧ f = .payloadTooLarge payload.length c.limits.maxPayload := by
  unfold refusal lengthRefusal at h
  split at h
  · exact .inl (Option.some.inj h).symm
  split at h
  · exact .inr (.inl (Option.some.inj h).symm)
  split at h
  · obtain ⟨payload, hp, h⟩ := Option.bind_eq_some_iff.1 h
    split at h
    · exact .inr (.inr ⟨payload, hp, (Option.some.inj h).symm⟩)
    · cases h
  · cases h

/-- The reader takes the node. -/
def Accepts (c : Codec) (r : Registry) (n : Node KindCode) : Prop := n.Readable ∧ c.refusal r n = none

theorem shaped_of_admits {c : Codec} {r : Registry} {n : Node KindCode} (h : c.Admits r.resolveCode n) :
    n.Shaped n.isToken := by
  obtain ⟨k, hk, hshaped⟩ := h.kind
  have hcode := (Registry.resolveCode_ok_iff.1 hk).2
  rwa [NodeKind.isToken, hcode] at hshaped

theorem readable_of_admits {c : Codec} {r : Registry} {n : Node KindCode} (h : c.Admits r.resolveCode n)
    (hcount : n.count < UInt64.size) : n.Readable :=
  ⟨shaped_of_admits h, hcount, fun p hp => Nat.lt_of_le_of_lt (h.payload p hp) c.limits.maxPayload.toNat_lt⟩

/-- What can be written can be read with the same codec, as long as a word has room for the count. -/
theorem accepts_iff {c : Codec} {r : Registry} {n : Node KindCode} :
    c.Accepts r n ↔ c.Admits r.resolveCode n ∧ n.count < UInt64.size := by
  constructor
  · rintro ⟨hn, hrefusal⟩
    obtain ⟨hdepth, ⟨k, hk⟩, hlimit⟩ := refusal_eq_none.1 hrefusal
    obtain ⟨hmem, hcode⟩ := Registry.byCode_eq_some.1 hk
    have hshaped := hn.shaped
    have hresolve := Registry.resolveCode_ok_iff.2 ⟨hmem, hcode⟩
    refine ⟨⟨hdepth, ⟨k, hresolve, ?_⟩, fun p hp => hlimit ?_ p hp⟩, hn.count⟩
    · rw [NodeKind.isToken, hcode]
      exact hshaped
    · -- Only a token has a payload.
      by_cases ht : n.isToken = true
      · exact ht
      · rw [Node.Shaped, if_neg ht, hp] at hshaped
        cases hshaped
  · rintro ⟨h, hcount⟩
    obtain ⟨k, hk, -⟩ := h.kind
    have hknown := Registry.byCode_eq_some.2 (Registry.resolveCode_ok_iff.1 hk)
    exact ⟨readable_of_admits h hcount, refusal_eq_none.2 ⟨h.depth, ⟨k, hknown⟩, fun _ => h.payload⟩⟩

end Codec

namespace Walk

variable {c : Codec} {r : Registry} {total : Nat}

theorem readVarint_encode {n : Nat} (rest : Bytes) (h : n < UInt64.size) :
    readVarint total (Varint.encode n ++ rest) = .ok (n, rest) := by
  rw [readVarint, Varint.decode_encode rest h]

theorem eq_encode_of_readVarint {n : Nat} {s rest : Bytes} (h : readVarint total s = .ok (n, rest)) :
    s = Varint.encode n ++ rest ∧ n < UInt64.size := by
  unfold readVarint at h
  split at h
  · next p hp =>
    cases h
    exact Varint.eq_encode_of_decode hp
  · cases h
  · cases h
  · cases h

theorem isToken_of_code {k : NodeKind} {n : Node KindCode} (h : k.code = n.kind) : k.isToken = n.isToken := by
  rw [NodeKind.isToken, Node.isToken, h]

theorem enter_text {k : NodeKind} {n : Node KindCode} {rest : Bytes} {frames : List Frame}
    (hk : k.code = n.kind) (hn : n.Readable) :
    enter c total k n.count (payloadText n.payload ++ rest) frames =
      match c.lengthRefusal n with
      | some f => .error f
      | none => .ok (n.enter rest frames) := by
  have hshaped := hn.shaped
  rw [enter, isToken_of_code hk, hk, Codec.lengthRefusal]
  unfold Node.Shaped at hshaped
  split at hshaped
  · next ht =>
    obtain ⟨hcount, hp⟩ := hshaped
    obtain ⟨payload, hp⟩ := Option.isSome_iff_exists.1 hp
    rw [if_pos ht, if_pos ht, if_neg (by simpa using hcount), hp, payloadText, List.append_assoc,
      readVarint_encode _ (hn.payload payload hp)]
    dsimp only [bind, Except.bind, Option.bind]
    split
    · rfl
    · rw [Bytes.split?_append]
      simp only [Node.enter, hcount, if_pos, hp]
  · next ht =>
    rw [if_neg ht, if_neg ht, hshaped, payloadText, List.nil_append]
    simp only [Node.enter, hshaped]
    split <;> rfl

/-- A step on the text of a node refuses the node or enters it. -/
theorem step_text {n : Node KindCode} {rest : Bytes} {frames : List Frame} (hc : c.cancelled = false)
    (hdepth : n.depth = frames.length + 1) (hn : n.Readable) (hroom : 2 * n.count ≤ rest.length) :
    step c r total ⟨n.text ++ rest, frames⟩ =
      match c.refusal r n with
      | some f => .error f
      | none => .ok (n.enter rest frames) := by
  have hcode : n.kind.toNat < UInt32.size := n.kind.toNat_lt
  have hround : n.kind.toNat.toUInt32 = n.kind := UInt32.ofNat_toNat
  have htext : n.text ++ rest =
      Varint.encode n.kind.toNat ++ (Varint.encode n.count ++ (payloadText n.payload ++ rest)) := by
    simp only [Node.text, nodeText, List.append_assoc]
  have hholds : Bytes.holds (2 * n.count) (payloadText n.payload ++ rest) = true := by
    rw [Bytes.holds_iff, List.length_append]
    omega
  rw [step, hc, if_neg (by decide)]
  unfold Codec.refusal
  dsimp only
  by_cases hd : c.limits.maxDepth.toNat < n.depth
  · rw [if_pos (by omega), if_pos hd]
  rw [if_neg (by omega), if_neg hd, htext, readVarint_encode _ (Nat.lt_trans hcode (by decide))]
  dsimp only [bind, Except.bind]
  rw [if_neg (by omega), hround, Registry.resolveCode]
  cases hk : r.byCode n.kind with
  | none => rw [if_pos rfl]
  | some k =>
    rw [if_neg (Option.some_ne_none k)]
    dsimp only
    rw [readVarint_encode _ hn.count]
    dsimp only
    rw [if_pos hholds]
    exact enter_text (Registry.byCode_eq_some.1 hk).2 hn

/-- What follows the numbers of an accepted node is its payload, if it has one. -/
theorem payload_of_enter {k : NodeKind} {count : Nat} {s : Bytes} {frames : List Frame} {o : Outcome}
    (h : enter c total k count s frames = .ok o) :
    ∃ payload rest, s = payloadText payload ++ rest ∧ (count = 0 ∨ rest = s) ∧
      (∀ p, payload = some p → p.length ≤ c.limits.maxPayload.toNat) ∧
      (⟨frames.length + 1, k.code, count, payload⟩ : Node KindCode).Shaped k.isToken ∧
      o = (⟨frames.length + 1, k.code, count, payload⟩ : Node KindCode).enter rest frames := by
  unfold enter at h
  split at h
  · next ht =>
    split at h
    · cases h
    next hcount =>
    have hcount := Classical.not_not.1 hcount
    simp only [Except.bind_ok_iff] at h
    obtain ⟨⟨length, s'⟩, hlength, h⟩ := h
    obtain ⟨rfl, -⟩ := eq_encode_of_readVarint hlength
    dsimp only at h
    split at h
    · cases h
    next hlimit =>
    split at h
    · cases h
    next payload rest hsplit =>
    obtain ⟨rfl, rfl⟩ := Bytes.split?_eq_some hsplit
    refine ⟨some payload, rest, ?_, .inl hcount, ?_, ?_, ?_⟩
    · rw [payloadText, List.append_assoc]
    · rintro p ⟨⟩
      omega
    · rw [Node.Shaped, if_pos ht]
      exact ⟨hcount, rfl⟩
    · rw [Node.enter, if_pos hcount]
      exact (Except.ok.inj h).symm
  · next ht =>
    refine ⟨none, s, rfl, .inr rfl, ?_, ?_, ?_⟩
    · intro p hp
      cases hp
    · rw [Node.Shaped, if_neg ht]
    · unfold Node.enter
      split at h
      · next hcount =>
        rw [if_pos hcount]
        exact (Except.ok.inj h).symm
      · next hcount =>
        rw [if_neg hcount]
        exact (Except.ok.inj h).symm

/-- The node at the front of a walk is read and accepted, and leaves `rest`. -/
structure Reads (c : Codec) (r : Registry) (w : Walk) (n : Node KindCode) (rest : Bytes) : Prop where
  depth : n.depth = w.frames.length + 1
  accepted : c.Accepts r n
  room : 2 * n.count ≤ rest.length
  text : w.rest = n.text ++ rest

theorem reads_of_step {w : Walk} {o : Outcome} (h : step c r total w = .ok o) :
    c.cancelled = false ∧ ∃ n rest, Reads c r w n rest ∧ o = n.enter rest w.frames := by
  unfold step at h
  split at h
  · cases h
  next hc =>
  refine ⟨by simpa using hc, ?_⟩
  split at h
  · cases h
  next hd =>
  simp only [Except.bind_ok_iff] at h
  obtain ⟨⟨code, s⟩, hcode, h⟩ := h
  obtain ⟨hs, -⟩ := eq_encode_of_readVarint hcode
  dsimp only at h
  split at h
  · cases h
  next hrange =>
  simp only [Except.bind_ok_iff] at h
  obtain ⟨k, hk, ⟨count, s'⟩, hcount, h⟩ := h
  obtain ⟨rfl, hword⟩ := eq_encode_of_readVarint hcount
  obtain ⟨hmem, hkcode⟩ := Registry.resolveCode_ok_iff.1 hk
  have hround : k.code.toNat = code := by
    rw [hkcode]
    exact UInt32.toNat_ofNat_of_lt' (by omega)
  dsimp only at h
  split at h
  · next hholds =>
    rw [Bytes.holds_iff] at hholds
    obtain ⟨payload, rest, rfl, hrest, hlimit, hshaped, ho⟩ := payload_of_enter h
    have hdepth : w.frames.length + 1 ≤ c.limits.maxDepth.toNat := by omega
    have hknown := Registry.byCode_eq_some.2 ⟨hmem, rfl⟩
    refine ⟨⟨w.frames.length + 1, k.code, count, payload⟩, rest, ⟨rfl, ⟨⟨?_, hword, ?_⟩, ?_⟩, ?_, ?_⟩, ho⟩
    · exact hshaped
    · exact fun p hp => Nat.lt_of_le_of_lt (hlimit p hp) c.limits.maxPayload.toNat_lt
    · exact Codec.refusal_eq_none.2 ⟨hdepth, ⟨k, hknown⟩, fun _ => hlimit⟩
    · rcases hrest with rfl | hrest
      · exact Nat.zero_le _
      · rwa [← hrest] at hholds
    · simp only [hs, Node.text, nodeText, hround, List.append_assoc]
  · cases h

theorem step_ok_iff {w : Walk} {o : Outcome} :
    step c r total w = .ok o ↔
      c.cancelled = false ∧ ∃ n rest, Reads c r w n rest ∧ o = n.enter rest w.frames := by
  refine ⟨reads_of_step, ?_⟩
  rintro ⟨hc, n, rest, hn, rfl⟩
  obtain ⟨s, frames⟩ := w
  obtain rfl := hn.text
  rw [step_text hc hn.depth hn.accepted.1 hn.room, hn.accepted.2]

end Walk

end SyntaxWire
