/-
What one side writes and another side reads. A reader whose registry extends
the writer's gets the tree back, and with it the names (`decode_encode_of_checkExtends`).
A reader with any other registry or other limits stops at the first node in
pre-order that it refuses, for the reason it has, and at nothing else
(`decodeTree_encode`).

Streams are shorter than 2 ^ 64 bytes here, as all byte strings of a machine
are; a count of children then fits the word that it is read into.
-/
import SyntaxWire.Proofs.Registry.Evolution
import SyntaxWire.Proofs.Stream.Decode

namespace SyntaxWire

namespace Registry

variable {r old : Registry}

theorem codeOf_of_checkExtends (h : r.checkExtends old = .ok ()) {name : String} {code : KindCode}
    (hname : (old.resolveName name).map (·.code) = .ok code) : (r.resolveName name).map (·.code) = .ok code := by
  obtain ⟨k, hk, rfl⟩ := Except.map_ok_iff.1 hname
  obtain ⟨hmem, rfl⟩ := resolveName_ok_iff.1 hk
  obtain ⟨j, hj, hjname, hjcode, -⟩ := checkExtends_eq_ok.1 h k hmem
  exact Except.map_ok_iff.2 ⟨j, resolveName_ok_iff.2 ⟨hj, hjname⟩, hjcode⟩

/-- Names and codes of a registry are inverse to each other. -/
theorem nameOf_of_codeOf {name : String} {code : KindCode} (h : (r.resolveName name).map (·.code) = .ok code) :
    (r.resolveCode code).map (·.name) = .ok name := by
  obtain ⟨k, hk, hcode⟩ := Except.map_ok_iff.1 h
  obtain ⟨hmem, hname⟩ := resolveName_ok_iff.1 hk
  exact Except.map_ok_iff.2 ⟨k, resolveCode_ok_iff.2 ⟨hmem, hcode⟩, hname⟩

theorem codeOf_of_nameOf {name : String} {code : KindCode} (h : (r.resolveCode code).map (·.name) = .ok name) :
    (r.resolveName name).map (·.code) = .ok code := by
  obtain ⟨k, hk, hname⟩ := Except.map_ok_iff.1 h
  obtain ⟨hmem, hcode⟩ := resolveCode_ok_iff.1 hk
  exact Except.map_ok_iff.2 ⟨k, resolveName_ok_iff.2 ⟨hmem, hname⟩, hcode⟩

theorem admits_of_checkExtends (h : r.checkExtends old = .ok ()) {c : Codec} {n : Node KindCode}
    (hn : c.Admits old.resolveCode n) : c.Admits r.resolveCode n := by
  obtain ⟨k, hk, hshaped⟩ := hn.kind
  obtain ⟨hmem, hcode⟩ := resolveCode_ok_iff.1 hk
  obtain ⟨j, hj, -, hjcode, -⟩ := checkExtends_eq_ok.1 h k hmem
  refine ⟨hn.depth, ⟨j, resolveCode_ok_iff.2 ⟨hj, hjcode.trans hcode⟩, ?_⟩, hn.payload⟩
  rw [NodeKind.isToken, hcode] at hshaped
  rwa [NodeKind.isToken, hjcode, hcode]

theorem compatibility_eq_exact {v : ProtocolVersion} : r.compatibility v = .exact ↔ v.checksum = r.checksum := by
  unfold compatibility
  split
  · next h => exact iff_of_true rfl h
  · next h => exact iff_of_false (fun h' => nomatch h') h

/-- The primitive kinds and one more. -/
def withName : Registry :=
  (bare .standard).insert ⟨"Name", 2, .decl, .decl⟩ ⟨by decide, by decide⟩ (by decide) (by decide)

end Registry

namespace Codec

/-- The counts of a tree that is written in fewer than 2 ^ 64 bytes. -/
theorem count_of_encodeCodes {c : Codec} {r : Registry} {s : CodeTree} {b : Bytes} (h : c.encodeCodes r s = .ok b)
    (hb : b.length < UInt64.size) : ∀ n ∈ s.preorder 1, n.count < UInt64.size := by
  obtain ⟨-, rfl⟩ := encodeCodes_ok_iff.1 h
  intro n hn
  have := Tree.count_le_written hn
  rw [List.length_append] at hb
  omega

theorem decode_of_encodeCodes {c : Codec} {W R : Registry} {s : CodeTree} {b : Bytes}
    (hR : R.checkExtends W = .ok ()) (h : c.encodeCodes W s = .ok b) (hb : b.length < UInt64.size) :
    c.decode R b = .ok ⟨c.guard.stamp W, R.compatibility (c.guard.stamp W), s⟩ := by
  have hcount := count_of_encodeCodes h hb
  obtain ⟨hadmits, rfl⟩ := encodeCodes_ok_iff.1 h
  have hc : c.cancelled = false := (hadmits _ (Tree.preorder_eq 1 s ▸ List.mem_cons_self)).1
  have haccepts : ∀ n ∈ s.preorder 1, c.Accepts R n := fun n hn =>
    accepts_iff.2 ⟨Registry.admits_of_checkExtends hR (hadmits n hn).2, hcount n hn⟩
  exact decode_ok_iff.2 ⟨hc, rfl, rfl, rfl, haccepts⟩

/-- The writer itself gets the tree back, with an exact verdict. -/
theorem decode_own_stream {c : Codec} {r : Registry} {t : SyntaxTree} {b : Bytes} (h : c.encode r t = .ok b)
    (hb : b.length < UInt64.size) :
    ∃ d, c.decode r b = .ok d ∧ d.compatibility = .exact ∧ r.raise d.root = .ok t := by
  obtain ⟨s, hlower, hs⟩ := lower_of_encode h
  exact ⟨_, decode_of_encodeCodes (Registry.checkExtends_self r) hs hb, Registry.compatibility_eq_exact.2 rfl,
    Tree.relabel_inverse Registry.nameOf_of_codeOf hlower⟩

/-- **A reader that extends the writer gets the tree back**, with the writer's stamp, under the
writer's codes, which are its own, and from there under the same names. The verdict on the
header is exact precisely if the checksums agree. A registry extends itself. -/
theorem decode_encode_of_checkExtends {c : Codec} {W R : Registry} {t : SyntaxTree} {b : Bytes}
    (hR : R.checkExtends W = .ok ()) (h : c.encode W t = .ok b) (hb : b.length < UInt64.size) :
    W.checkExtends W = .ok () ∧ ∃ d, c.decode R b = .ok d ∧
      W.lower t = .ok d.root ∧ R.lower t = .ok d.root ∧ R.raise d.root = .ok t ∧
      d.version = c.guard.stamp W ∧ (d.compatibility = .exact ↔ W.checksum = R.checksum) := by
  obtain ⟨s, hW, hs⟩ := lower_of_encode h
  have hlower : R.lower t = .ok s := Tree.relabel_mono (Registry.codeOf_of_checkExtends hR) hW
  have hraise : R.raise s = .ok t := Tree.relabel_inverse Registry.nameOf_of_codeOf hlower
  exact ⟨Registry.checkExtends_self W, _, decode_of_encodeCodes hR hs hb, hW, hlower, hraise, rfl,
    Registry.compatibility_eq_exact⟩

/-- Two tokens, one of them without bytes, and an inner node without children between them. -/
def sampleTree : SyntaxTree :=
  .node "Unknown" [.node "Token" [] (some []), .node "Unknown" [] none, .node "Token" [] (some [120])] none

def sampleStream : Bytes :=
  (({} : Codec).guard.stamp (.bare .standard)).header ++ [1, 3, 0, 0, 0, 1, 0, 0, 0, 1, 120]

theorem encode_sampleTree : ({} : Codec).encode (.bare .standard) sampleTree = .ok sampleStream := by
  have hheads : (sampleTree.preorder 1).mapM (({} : Codec).nodeHead (Registry.bare .standard).resolveName) =
      .ok [[1, 3], [0, 0, 0], [1, 0], [0, 0, 1, 120]] := by cbv
  rw [encode, encodeWith_eq, hheads]
  rfl

theorem length_sampleStream : sampleStream.length < UInt64.size := by
  rw [sampleStream, List.length_append, ProtocolVersion.length_header]
  decide

theorem decode_sampleStream_withName :
    Registry.withName.checkExtends (.bare .standard) = .ok () ∧
      ({} : Codec).encode (.bare .standard) sampleTree = .ok sampleStream ∧ sampleStream.length < UInt64.size ∧
      ∃ d, ({} : Codec).decode .withName sampleStream = .ok d ∧
        Registry.withName.raise d.root = .ok sampleTree := by
  refine ⟨Registry.checkExtends_insert, encode_sampleTree, length_sampleStream, ?_⟩
  obtain ⟨-, d, hd, -, -, hraise, -⟩ :=
    decode_encode_of_checkExtends Registry.checkExtends_insert encode_sampleTree length_sampleStream
  exact ⟨d, hd, hraise⟩

/-- **A reader of the writer's major stops where it should.** The first node in pre-order that is
too deep for the reader, has no code in its registry or is a token with too long a payload decides,
in this order where it is several of these. If there is none, the reader gets the writer's codes. -/
theorem decodeTree_encode {c₁ c₂ : Codec} {W R : Registry} {t : SyntaxTree} {b : Bytes}
    (hmajor : c₁.guard.major = c₂.guard.major) (hc : c₂.cancelled = false) (h : c₁.encode W t = .ok b)
    (hb : b.length < UInt64.size) :
    ∃ s, W.lower t = .ok s ∧
      c₂.decodeTree R b =
        (match (s.preorder 1).findSome? (c₂.refusal R) with
        | some f => .error f
        | none => .ok s) ∧
      ∀ f, c₂.decodeTree R b = .error f → f = .depthExceeded c₂.limits.maxDepth ∨
        (∃ code, f = .unknownCode code) ∨ ∃ length, f = .payloadTooLarge length c₂.limits.maxPayload := by
  obtain ⟨s, hW, hs⟩ := lower_of_encode h
  have hcount := count_of_encodeCodes hs hb
  obtain ⟨hadmits, rfl⟩ := encodeCodes_ok_iff.1 hs
  have hreadable : ∀ n ∈ s.preorder 1, n.Readable := fun n hn =>
    readable_of_admits (hadmits n hn).2 (hcount n hn)
  have hdecode := decode_written (r := R) (v := c₁.guard.stamp W) hc hmajor hreadable
  refine ⟨s, hW, ?_, ?_⟩
  · rw [decodeTree, hdecode]
    cases (s.preorder 1).findSome? (c₂.refusal R) <;> rfl
  · intro f hf
    rw [decodeTree, hdecode] at hf
    cases hrefusal : (s.preorder 1).findSome? (c₂.refusal R) with
    | none => rw [hrefusal] at hf; cases hf
    | some g =>
      rw [hrefusal] at hf
      cases hf
      obtain ⟨n, -, hn⟩ := List.exists_of_findSome?_eq_some hrefusal
      rcases refusal_cases hn with rfl | rfl | ⟨payload, -, rfl⟩
      · exact .inl rfl
      · exact .inr (.inl ⟨n.kind, rfl⟩)
      · exact .inr (.inr ⟨payload.length, rfl⟩)

/-- A kind that the primitive registry does not know, and behind it a token. -/
def newerTree : SyntaxTree :=
  .node "Unknown" [.node "Name" [] none, .node "Token" [] (some [120])] none

/-- The unknown code is refused first, though the token behind it is too long for the reader. -/
theorem decodeTree_newerTree :
    ∃ b, ({} : Codec).encode .withName newerTree = .ok b ∧ b.length < UInt64.size ∧
      ({ limits := { maxPayload := 0 } } : Codec).decodeTree (.bare .standard) b = .error (.unknownCode 2) := by
  have hheads : (newerTree.preorder 1).mapM (({} : Codec).nodeHead Registry.withName.resolveName) =
      .ok [[1, 2], [2, 0], [0, 0, 1, 120]] := by cbv
  have hencode : ({} : Codec).encode .withName newerTree =
      .ok ((({} : Codec).guard.stamp .withName).header ++ [1, 2, 2, 0, 0, 0, 1, 120]) := by
    rw [encode, encodeWith_eq, hheads]
    rfl
  have hlength : ((({} : Codec).guard.stamp .withName).header ++ [1, 2, 2, 0, 0, 0, 1, 120]).length < UInt64.size := by
    rw [List.length_append, ProtocolVersion.length_header]
    decide
  refine ⟨_, hencode, hlength, ?_⟩
  obtain ⟨s, hs, hdecode, -⟩ :=
    @decodeTree_encode {} { limits := { maxPayload := 0 } } .withName (.bare .standard) newerTree _
      rfl rfl hencode hlength
  have hlower : Registry.withName.lower newerTree =
      .ok (.node 1 [.node 2 [] none, .node 0 [] (some [120])] none) := by rfl
  obtain rfl := Except.ok.inj (hs.symm.trans hlower)
  rw [hdecode]
  rfl

end Codec

end SyntaxWire
