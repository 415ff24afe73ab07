/-
Streams are canonical. The body of a stream that is accepted is the written
form of its tree (`body_of_decode`), so the reader writes back what it read,
under its own stamp, and a tree has no second body (`encodeCodes_of_decode`).
-/
import SyntaxWire.Proofs.Stream.RoundTrip

namespace SyntaxWire.Codec

variable {c : Codec} {r : Registry} {b : Bytes} {d : Decoded}

theorem body_of_decode (h : c.decode r b = .ok d) : b.drop 14 = d.root.written := by
  obtain ⟨-, rfl, -⟩ := decode_ok_iff.1 h
  have hlength : d.version.header.length = 14 := ProtocolVersion.length_header d.version
  rw [← hlength, List.drop_left]

/-- An exact verdict says that the reader itself would have written the header. -/
theorem version_eq_stamp (h : c.decode r b = .ok d) (hexact : d.compatibility = .exact) :
    d.version = c.guard.stamp r := by
  obtain ⟨-, -, hmajor, hverdict, -⟩ := decode_ok_iff.1 h
  rw [hverdict] at hexact
  have hchecksum := Registry.compatibility_eq_exact.1 hexact
  rw [VersionGuard.stamp, ← hmajor, ← hchecksum]

theorem encodeCodes_root (h : c.decode r b = .ok d) :
    c.encodeCodes r d.root = .ok ((c.guard.stamp r).header ++ d.root.written) := by
  obtain ⟨hc, -, -, -, haccepts⟩ := decode_ok_iff.1 h
  have hadmits : ∀ n ∈ d.root.preorder 1, c.cancelled = false ∧ c.Admits r.resolveCode n := fun n hn =>
    ⟨hc, (accepts_iff.1 (haccepts n hn)).1⟩
  exact encodeCodes_ok_iff.2 ⟨hadmits, rfl⟩

/-- Under an exact verdict the named tree is written back as the stream that it was read from. -/
theorem encode_of_decode {t : SyntaxTree} (h : c.decode r b = .ok d) (hexact : d.compatibility = .exact)
    (hraise : r.raise d.root = .ok t) : c.encode r t = .ok b := by
  have hlower : r.lower t = .ok d.root := Tree.relabel_inverse Registry.codeOf_of_nameOf hraise
  obtain ⟨-, hb, -⟩ := decode_ok_iff.1 h
  rw [encode_eq_encodeCodes hlower, encodeCodes_root h, ← version_eq_stamp h hexact, ← hb]

/-- **What is read is written back as it stood**, behind the fourteen bytes of the reader's own
stamp, and is the same to the last byte if the verdict on the header is exact. A body with the same
tree is the same body, whichever codec reads it. -/
theorem encodeCodes_of_decode (h : c.decode r b = .ok d) :
    (c.guard.stamp r).header.length = 14 ∧
      c.encodeCodes r d.root = .ok ((c.guard.stamp r).header ++ b.drop 14) ∧
      (d.compatibility = .exact → c.encodeCodes r d.root = .ok b) ∧
      ∀ (c' : Codec) (b' : Bytes) (d' : Decoded), c'.decode r b' = .ok d' → d'.root = d.root →
        b'.drop 14 = b.drop 14 := by
  refine ⟨ProtocolVersion.length_header _, ?_, ?_, ?_⟩
  · rw [body_of_decode h]
    exact encodeCodes_root h
  · intro hexact
    obtain ⟨-, hb, -⟩ := decode_ok_iff.1 h
    rw [encodeCodes_root h, ← version_eq_stamp h hexact, ← hb]
  · intro c' b' d' h' hroot
    rw [body_of_decode h, body_of_decode h', hroot]

/-- The header is of another registry, so the reader's own stamp takes its place. -/
theorem encodeCodes_sampleStream :
    ∃ d, ({} : Codec).decode .withName sampleStream = .ok d ∧
      ({} : Codec).encodeCodes .withName d.root =
        .ok ((({} : Codec).guard.stamp .withName).header ++ [1, 3, 0, 0, 0, 1, 0, 0, 0, 1, 120]) := by
  obtain ⟨s, -, hs⟩ := lower_of_encode encode_sampleTree
  have hdecode := decode_of_encodeCodes (R := .withName) Registry.checkExtends_insert hs length_sampleStream
  refine ⟨_, hdecode, ?_⟩
  obtain ⟨-, hencode, -⟩ := encodeCodes_of_decode hdecode
  have hbody : sampleStream.drop 14 = [1, 3, 0, 0, 0, 1, 0, 0, 0, 1, 120] :=
    List.drop_left' (ProtocolVersion.length_header _)
  rw [hencode, hbody]

end SyntaxWire.Codec
