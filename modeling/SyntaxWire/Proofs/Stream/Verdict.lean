/-
What an exact verdict is worth. A stream is the written form of one tree
only, so a reader that accepts it has the writer's stamp and the writer's
codes, whatever it takes them for (`read_of_encode`). A code may stand for
another name there: nothing in the body shows it, and the checksum in the
header is all there is. Where XXH3 tells the two tables apart, an exact
verdict means that both sides have the same names under the same codes
(`sameTriples_of_exact`), and the tree is the writer's.
-/
import SyntaxWire.Proofs.Registry.Checksum
import SyntaxWire.Proofs.Stream.RoundTrip

namespace SyntaxWire

/-- The hash does not take the two byte strings for each other. -/
def Xxh3.Separates (x y : Bytes) : Prop := Xxh3.hash x = Xxh3.hash y → x = y

/-- A kind whose name comes first is hashed in front of the primitive kinds. -/
theorem checksumInput_declared {k : NodeKind} (htoken : k.precedes .token = true)
    (hunknown : k.precedes .unknown = true) :
    checksumInput (NodeKind.primitives ++ [k]) = k.record ++ NodeKind.token.record ++ NodeKind.unknown.record := by
  have hperm : ((NodeKind.primitives ++ [k]).map NodeKind.triple).Perm ([k, .token, .unknown].map NodeKind.triple) :=
    List.perm_append_comm.map _
  have hprimitives : NodeKind.token.precedes .unknown = true := by decide
  have hsorted : [k, .token, .unknown].Pairwise (fun i j => i.precedes j = true) := by
    simp [htoken, hunknown, hprimitives]
  rw [checksumInput_eq_of_perm hperm, checksumInput, List.mergeSort_of_pairwise hsorted]
  simp

namespace Registry

variable {r s : Registry}

theorem sameTriples_of_checksum (hash : Xxh3.Separates (checksumInput r.kinds) (checksumInput s.kinds))
    (h : r.checksum = s.checksum) : r.SameTriples s :=
  sameTriples_iff_perm.2 (perm_of_checksumInput_eq (hash h))

/-- With the same triples, codes mean the same names. -/
theorem SameTriples.raise_lower (h : r.SameTriples s) {t : SyntaxTree} {u : CodeTree} (hu : r.lower t = .ok u) :
    s.raise u = .ok t :=
  Tree.relabel_inverse nameOf_of_codeOf (Tree.relabel_mono (codeOf_of_checkExtends h.checkExtends) hu)

/-- The primitive kinds and one more, under the code that `withName` has given away. -/
def withLabel : Registry :=
  (bare .standard).insert ⟨"Label", 2, .decl, .decl⟩ ⟨by decide, by decide⟩ (by decide) (by decide)

/-- A collection under a code of the declarations. -/
def declarationNames : Registry :=
  (bare .standard).insert ⟨"Names", 2, .collection, .decl⟩ ⟨by decide, by decide⟩ (by decide) (by decide)

def statementsOnly : Layout where
  ranges := [⟨.stmt, 2, 1000⟩]
  valid r hr := CategoryRange.fault?_eq_none.1 (by
    obtain rfl := List.mem_singleton.1 hr
    decide)
  apart := by decide

/-- The collection of `declarationNames`, in a layout that has its code with the statements. -/
def statementNames : Registry :=
  (bare statementsOnly).insert ⟨"Names", 2, .collection, .stmt⟩ ⟨by decide, by decide⟩ (by decide) (by decide)

end Registry

/-- A tree that is shaped as its codes demand has a written form of its own. -/
theorem Tree.eq_of_written {t u : CodeTree} (ht : ∀ n ∈ t.preorder 1, n.Shaped n.isToken)
    (hu : ∀ n ∈ u.preorder 1, n.Shaped n.isToken) (h : t.written = u.written) : t = u := by
  have hfronts : t.written ++ [] = u.written ++ [] := congrArg (· ++ []) h
  have hinj := @written_append_inj (· == NodeKind.token.code) 1 t u [] []
  exact (hinj (fun n hn => (ht n hn).isSome_payload) (fun n hn => (hu n hn).isSome_payload) hfronts).1

namespace Codec

variable {c : Codec} {W R : Registry} {t : SyntaxTree} {b : Bytes} {d : Decoded}

/-- A reader that accepts a stream has read what was written, under the writer's codes. -/
theorem read_of_encode (h : c.encode W t = .ok b) (hd : c.decode R b = .ok d) :
    W.lower t = .ok d.root ∧ d.version = c.guard.stamp W ∧ d.compatibility = R.compatibility (c.guard.stamp W) := by
  obtain ⟨s, hW, hs⟩ := lower_of_encode h
  obtain ⟨hadmits, rfl⟩ := encodeCodes_ok_iff.1 hs
  obtain ⟨-, hstream, -, hverdict, haccepts⟩ := decode_ok_iff.1 hd
  obtain ⟨hversion, hbody⟩ := ProtocolVersion.header_append_inj hstream
  obtain rfl := Tree.eq_of_written (fun n hn => shaped_of_admits (hadmits n hn).2)
    (fun n hn => (haccepts n hn).1.shaped) hbody
  exact ⟨hW, hversion.symm, by rw [hverdict, hversion]⟩

theorem sameTriples_of_exact (hash : Xxh3.Separates (checksumInput W.kinds) (checksumInput R.kinds))
    (h : c.encode W t = .ok b) (hd : c.decode R b = .ok d) (hexact : d.compatibility = .exact) : W.SameTriples R := by
  obtain ⟨-, -, hverdict⟩ := read_of_encode h hd
  exact Registry.sameTriples_of_checksum hash (Registry.compatibility_eq_exact.1 (hverdict.symm.trans hexact))

theorem compatibility_stamp (hR : W.SameTriples R) : R.compatibility (c.guard.stamp W) = .exact :=
  Registry.compatibility_eq_exact.2 hR.checksum_eq

/-- **An exact verdict is never a misreading.** Where the hash tells what it is given for the two
registries apart, they agree on every name, code and category if the verdict is exact, and the
tree comes back under its names; a reader to which the stream spells another tree is told both
checksums. Registries that agree always get an exact verdict, and the tree: neither the order of
their kinds nor their families make a difference. -/
theorem exact_verdict :
    (∀ t b, c.encode W t = .ok b → Xxh3.Separates (checksumInput W.kinds) (checksumInput R.kinds) →
      (∀ d, c.decode R b = .ok d → d.compatibility = .exact → W.SameTriples R ∧ R.raise d.root = .ok t) ∧
      ∀ d u, c.decode R b = .ok d → R.raise d.root = .ok u → u ≠ t →
        d.compatibility = .partialMismatch ⟨W.checksum, R.checksum⟩) ∧
    (W.SameTriples R →
      c.guard.check (c.guard.stamp W) R = .ok .exact ∧
      ∀ t b, c.encode W t = .ok b →
        (∀ d, c.decode R b = .ok d → d.compatibility = .exact) ∧
        (b.length < UInt64.size →
          ∃ d, c.decode R b = .ok d ∧ d.compatibility = .exact ∧ R.raise d.root = .ok t)) := by
  refine ⟨fun t b h hash => ?_, fun hR => ⟨?_, fun t b h => ⟨fun d hd => ?_, fun hb => ?_⟩⟩⟩
  · have hsound (d : Decoded) (hd : c.decode R b = .ok d) (hexact : d.compatibility = .exact) :
        W.SameTriples R ∧ R.raise d.root = .ok t := by
      have hR := sameTriples_of_exact hash h hd hexact
      exact ⟨hR, hR.raise_lower (read_of_encode h hd).1⟩
    refine ⟨hsound, fun d u hd hu hne => ?_⟩
    obtain ⟨-, -, hverdict⟩ := read_of_encode h hd
    by_cases hchecksum : W.checksum = R.checksum
    · obtain ⟨-, ht⟩ := hsound d hd (hverdict.trans (Registry.compatibility_eq_exact.2 hchecksum))
      exact absurd (Except.ok.inj (hu.symm.trans ht)) hne
    · rw [hverdict]
      exact if_neg hchecksum
  · have hmajor : (c.guard.stamp W).major = c.guard.major := rfl
    rw [VersionGuard.check_eq, if_pos hmajor, compatibility_stamp hR]
  · rw [(read_of_encode h hd).2.2, compatibility_stamp hR]
  · obtain ⟨s, hW, hs⟩ := lower_of_encode h
    exact ⟨_, decode_of_encodeCodes hR.checkExtends hs hb, compatibility_stamp hR, hR.raise_lower hW⟩

/-- A declaration of a name. The code is `withLabel`'s for another one. -/
def declaration : SyntaxTree := .node "Name" [] none

def declarationStream : Bytes :=
  (({} : Codec).guard.stamp .withName).header ++ [2, 0]

theorem encode_declaration : ({} : Codec).encode .withName declaration = .ok declarationStream := by
  have hheads : (declaration.preorder 1).mapM (({} : Codec).nodeHead Registry.withName.resolveName) =
      .ok [[2, 0]] := by cbv
  rw [encode, encodeWith_eq, hheads]
  rfl

theorem separates_withName_withLabel :
    Xxh3.Separates (checksumInput Registry.withName.kinds) (checksumInput Registry.withLabel.kinds) := by
  have hname : checksumInput Registry.withName.kinds = _ :=
    checksumInput_declared (k := ⟨"Name", 2, .decl, .decl⟩) (by decide) (by decide)
  have hlabel : checksumInput Registry.withLabel.kinds = _ :=
    checksumInput_declared (k := ⟨"Label", 2, .decl, .decl⟩) (by decide) (by decide)
  rw [hname, hlabel]
  exact fun h => absurd h (by decide +kernel)

/-- The first reader takes the declaration for a label and is told of it. The second one has another
layout than the writer and so another family for a kind, and nothing is wrong. -/
theorem decode_declarationStream_withLabel :
    (∃ d, ({} : Codec).decode .withLabel declarationStream = .ok d ∧
      Registry.withLabel.raise d.root = .ok (.node "Label" [] none) ∧
      d.compatibility = .partialMismatch ⟨Registry.withName.checksum, Registry.withLabel.checksum⟩) ∧
    ({} : Codec).guard.check (({} : Codec).guard.stamp .declarationNames) .statementNames = .ok .exact := by
  have hreadable : ∀ n ∈ Tree.preorder 1 (.node (2 : KindCode) [] none), n.Readable := by
    intro n hn
    obtain rfl := List.mem_singleton.1 hn
    exact ⟨rfl, by decide, nofun⟩
  have hwritten : Tree.written (.node 2 [] none) = [2, 0] := by decide +kernel
  have hdecode : ({} : Codec).decode .withLabel declarationStream =
      .ok ⟨({} : Codec).guard.stamp .withName, Registry.withLabel.compatibility (({} : Codec).guard.stamp .withName),
        .node 2 [] none⟩ := by
    rw [declarationStream, ← hwritten, decode_written rfl rfl hreadable]
    rfl
  have hraise : Registry.withLabel.raise (.node 2 [] none) = .ok (.node "Label" [] none) := by rfl
  obtain ⟨-, hpartial⟩ := (@exact_verdict {} .withName .withLabel).1 _ _ encode_declaration separates_withName_withLabel
  have hsame : Registry.declarationNames.SameTriples .statementNames :=
    Registry.sameTriples_iff_perm.2 (by decide)
  obtain ⟨hcheck, -⟩ := (@exact_verdict {} .declarationNames .statementNames).2 hsame
  have hother : Tree.node "Label" [] none ≠ declaration := by simp [declaration]
  exact ⟨⟨_, hdecode, hraise, hpartial _ _ hdecode hraise hother⟩, hcheck⟩

end Codec

end SyntaxWire
