/-
Which streams are accepted. A stream is a header of the reader's major and
the written form of a tree that the reader takes node by node, and then the
tree and the verdict on the header are the answer (`decode_ok_iff`). On the
written form of any other tree the first node that is refused decides
(`decode_written`).
-/
import SyntaxWire.Proofs.Stream.Run
import SyntaxWire.Proofs.Stream.Version
import SyntaxWire.Stream.Decode

namespace SyntaxWire

/-- What the registry concludes from the version of a stream that follows its protocol. -/
def Registry.compatibility (r : Registry) (v : ProtocolVersion) : Compatibility :=
  if v.checksum = r.checksum then .exact else .partialMismatch ⟨v.checksum, r.checksum⟩

theorem VersionGuard.check_eq (g : VersionGuard) (v : ProtocolVersion) (r : Registry) :
    g.check v r = if v.major = g.major then .ok (r.compatibility v) else .error ⟨v.major, g.major⟩ := by
  unfold check Registry.compatibility
  by_cases hm : v.major = g.major
  · rw [if_neg (Classical.not_not.2 hm), if_pos hm]
    split <;> rfl
  · rw [if_pos hm, if_neg hm]

namespace Codec

variable {c : Codec} {r : Registry}

theorem openStream_ok_iff {s : Bytes} {o : Opening} :
    c.openStream r s = .ok o ↔ s = o.version.header ++ o.body ∧ o.version.major = c.guard.major ∧
      o.compatibility = r.compatibility o.version := by
  simp only [openStream, Except.bind_ok_iff, VersionGuard.check_eq]
  constructor
  · rintro ⟨⟨v, body⟩, hread, h⟩
    have hs := ProtocolVersion.eq_header_of_read hread
    dsimp only at h
    by_cases hm : v.major = c.guard.major
    · rw [if_pos hm] at h
      cases h
      exact ⟨hs, hm, rfl⟩
    · rw [if_neg hm] at h
      cases h
  · obtain ⟨v, compatibility, body⟩ := o
    rintro ⟨rfl, hm, hv⟩
    obtain rfl : compatibility = r.compatibility v := hv
    refine ⟨(v, body), ProtocolVersion.read_header v body, ?_⟩
    dsimp only at hm ⊢
    rw [if_pos hm]

/-- The tree at the front of a stream, with its version, and the bytes after it. -/
def readFront (c : Codec) (r : Registry) (s : Bytes) : Except CodecFault (Decoded × Bytes) := do
  let ⟨version, compatibility, body⟩ ← c.openStream r s
  let (root, rest) ← Walk.run c r s.length { rest := body }
  .ok (⟨version, compatibility, root⟩, rest)

/-- A stream ends with its tree. -/
def closeStream : Decoded × Bytes → Except CodecFault Decoded
  | (d, []) => .ok d
  | (_, b :: rest) => .error (.trailingBytes (b :: rest).length)

theorem decode_eq (s : Bytes) : c.decode r s = c.readFront r s >>= closeStream := by
  rw [decode, readFront]
  cases c.openStream r s with
  | error f => rfl
  | ok o =>
    dsimp only [bind, Except.bind]
    cases Walk.run c r s.length { rest := o.body } with
    | error f => rfl
    | ok p =>
      obtain ⟨t, rest⟩ := p
      cases rest <;> rfl

theorem decode_of_readFront {s : Bytes} {d : Decoded} (h : c.readFront r s = .ok (d, [])) : c.decode r s = .ok d := by
  rw [decode_eq, h]
  rfl

theorem readFront_written {v : ProtocolVersion} {t : CodeTree} (hc : c.cancelled = false)
    (hm : v.major = c.guard.major) (ht : ∀ n ∈ t.preorder 1, n.Readable) (rest : Bytes) :
    c.readFront r (v.header ++ (t.written ++ rest)) =
      match (t.preorder 1).findSome? (c.refusal r) with
      | some f => .error f
      | none => .ok (⟨v, r.compatibility v, t⟩, rest) := by
  have hopen : c.openStream r (v.header ++ (t.written ++ rest)) = .ok ⟨v, r.compatibility v, t.written ++ rest⟩ :=
    openStream_ok_iff.2 ⟨rfl, hm, rfl⟩
  have hrun := @Walk.run_written c r (v.header ++ (t.written ++ rest)).length hc t rest [] ht
  rw [List.length_nil, Nat.zero_add] at hrun
  rw [readFront, hopen]
  dsimp only [bind, Except.bind]
  rw [hrun]
  cases (t.preorder 1).findSome? (c.refusal r) <;> rfl

theorem readFront_ok_iff {s rest : Bytes} {d : Decoded} :
    c.readFront r s = .ok (d, rest) ↔ c.cancelled = false ∧ s = d.version.header ++ (d.root.written ++ rest) ∧
      d.version.major = c.guard.major ∧ d.compatibility = r.compatibility d.version ∧
      ∀ n ∈ d.root.preorder 1, c.Accepts r n := by
  constructor
  · intro h
    rw [readFront, Except.bind_ok_iff] at h
    obtain ⟨⟨v, compatibility, body⟩, hopen, h⟩ := h
    obtain ⟨rfl, hm, hv⟩ := openStream_ok_iff.1 hopen
    obtain rfl : compatibility = r.compatibility v := hv
    rw [Except.bind_ok_iff] at h
    obtain ⟨⟨t, rest'⟩, hrun, h⟩ := h
    obtain ⟨rfl, ht⟩ := Walk.written_of_run hrun
    cases h
    exact ⟨Walk.not_cancelled_of_run hrun, rfl, hm, rfl, ht⟩
  · obtain ⟨v, compatibility, t⟩ := d
    rintro ⟨hc, rfl, hm, hv, ht⟩
    obtain rfl : compatibility = r.compatibility v := hv
    have hnone : (t.preorder 1).findSome? (c.refusal r) = none :=
      List.findSome?_eq_none_iff.2 fun n hn => (ht n hn).2
    rw [readFront_written hc hm (fun n hn => (ht n hn).1), hnone]

theorem decode_written {v : ProtocolVersion} {t : CodeTree} (hc : c.cancelled = false)
    (hm : v.major = c.guard.major) (ht : ∀ n ∈ t.preorder 1, n.Readable) :
    c.decode r (v.header ++ t.written) =
      match (t.preorder 1).findSome? (c.refusal r) with
      | some f => .error f
      | none => .ok ⟨v, r.compatibility v, t⟩ := by
  have hfront := readFront_written (r := r) hc hm ht []
  rw [List.append_nil] at hfront
  rw [decode_eq, hfront]
  cases (t.preorder 1).findSome? (c.refusal r) <;> rfl

theorem decode_ok_iff {s : Bytes} {d : Decoded} :
    c.decode r s = .ok d ↔ c.cancelled = false ∧ s = d.version.header ++ d.root.written ∧
      d.version.major = c.guard.major ∧ d.compatibility = r.compatibility d.version ∧
      ∀ n ∈ d.root.preorder 1, c.Accepts r n := by
  have hfront := @readFront_ok_iff c r s [] d
  rw [List.append_nil] at hfront
  rw [← hfront]
  refine ⟨fun h => ?_, decode_of_readFront⟩
  rw [decode_eq, Except.bind_ok_iff] at h
  obtain ⟨⟨d', rest⟩, hread, h⟩ := h
  cases rest with
  | nil =>
    cases h
    exact hread
  | cons b rest => cases h

end Codec

end SyntaxWire
