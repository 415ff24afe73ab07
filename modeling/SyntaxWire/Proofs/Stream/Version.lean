/-
Headers: what `header` writes is read back whatever follows it
(`read_header`), and a stream that has a header starts with the bytes
`header` writes (`eq_header_of_read`).
-/
import SyntaxWire.Proofs.Bytes
import SyntaxWire.Stream.Version

namespace SyntaxWire

namespace ProtocolVersion

open Bytes

theorem length_magic : magic.length = 4 := by decide

theorem length_header (v : ProtocolVersion) : v.header.length = headerSize := by
  simp only [header, List.length_append, length_magic, length_littleEndian, headerSize]

/-- The two words of a header, at their places. -/
theorem header_fields (v : ProtocolVersion) :
    v.header.take 4 = magic ∧ (v.header.drop 4).take 2 = littleEndian 2 v.major.toNat ∧
      v.header.drop 6 = littleEndian 8 v.checksum.toNat := by
  have h4 : v.header.drop 4 = littleEndian 2 v.major.toNat ++ littleEndian 8 v.checksum.toNat := by
    rw [header, List.append_assoc, List.drop_left' length_magic]
  refine ⟨?_, ?_, ?_⟩
  · rw [header, List.append_assoc, List.take_left' length_magic]
  · rw [h4, List.take_left' (length_littleEndian ..)]
  · rw [show 6 = 4 + 2 from rfl, ← List.drop_drop, h4, List.drop_left' (length_littleEndian ..)]

theorem read_header (v : ProtocolVersion) (body : Bytes) : read (v.header ++ body) = .ok (v, body) := by
  obtain ⟨hmagic, hmajor, hchecksum⟩ := header_fields v
  have hsplit : split? headerSize (v.header ++ body) = some (v.header, body) := by
    rw [← length_header v, split?_append]
  have htake : (v.header ++ body).take 4 = magic := by
    rw [List.take_append_of_le_length (by rw [length_header]; decide), hmagic]
  have hm : (ofLittleEndian (littleEndian 2 v.major.toNat)).toUInt16 = v.major := by
    rw [ofLittleEndian_littleEndian v.major.toNat_lt]
    exact UInt16.ofNat_toNat
  have hc : (ofLittleEndian (littleEndian 8 v.checksum.toNat)).toUInt64 = v.checksum := by
    rw [ofLittleEndian_littleEndian v.checksum.toNat_lt]
    exact UInt64.ofNat_toNat
  rw [read, htake, if_neg (by decide), hsplit]
  simp only [hmajor, hchecksum, hm, hc]

theorem header_append_inj {v w : ProtocolVersion} {x y : Bytes} (h : v.header ++ x = w.header ++ y) :
    v = w ∧ x = y := by
  have hread := read_header v x
  rw [h, read_header] at hread
  exact Prod.mk.inj (Except.ok.inj hread.symm)

theorem eq_header_of_read {s body : Bytes} {v : ProtocolVersion} (h : read s = .ok (v, body)) :
    s = v.header ++ body := by
  unfold read at h
  split at h
  · cases h
  next hmagic =>
  split at h
  · cases h
  next head rest hsplit =>
  obtain ⟨rfl, hlen⟩ := split?_eq_some hsplit
  have hlen : head.length = 14 := hlen
  simp only [Except.ok.injEq, Prod.mk.injEq] at h
  obtain ⟨rfl, rfl⟩ := h
  have htake : head.take 4 = magic := by
    rw [Classical.not_not, List.isPrefixOf_iff_prefix, List.prefix_iff_eq_take,
      List.take_append_of_le_length (by omega), List.length_take_of_le (by omega)] at hmagic
    rw [hmagic, ← length_magic, List.take_length]
  have h2 : ((head.drop 4).take 2).length = 2 := by
    rw [List.length_take_of_le (by rw [List.length_drop]; omega)]
  have h8 : (head.drop 6).length = 8 := by
    rw [List.length_drop, hlen]
  have hm : ((ofLittleEndian ((head.drop 4).take 2)).toUInt16).toNat = ofLittleEndian ((head.drop 4).take 2) := by
    have hlt := ofLittleEndian_lt ((head.drop 4).take 2)
    rw [h2] at hlt
    exact UInt16.toNat_ofNat_of_lt' hlt
  have hc : ((ofLittleEndian (head.drop 6)).toUInt64).toNat = ofLittleEndian (head.drop 6) := by
    have hlt := ofLittleEndian_lt (head.drop 6)
    rw [h8] at hlt
    exact UInt64.toNat_ofNat_of_lt' hlt
  have hmajor := littleEndian_ofLittleEndian ((head.drop 4).take 2)
  have hchecksum := littleEndian_ofLittleEndian (head.drop 6)
  rw [h2] at hmajor
  rw [h8] at hchecksum
  have hhead : head = head.take 4 ++ (head.drop 4).take 2 ++ head.drop 6 := by
    rw [List.append_assoc, show 6 = 4 + 2 from rfl, ← List.drop_drop, List.take_append_drop, List.take_append_drop]
  rw [header, hm, hc, hmajor, hchecksum, ← htake, ← hhead]

end ProtocolVersion

end SyntaxWire
