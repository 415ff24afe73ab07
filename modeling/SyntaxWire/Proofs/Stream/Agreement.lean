/-
Names and codes are written alike. A named tree whose names are all known is
written as its codes are, fault for fault. A tree with a name that is not
known is not written. Then the encoder and the lowering of the tree tell of
the same name exactly if the encoder comes to that name: nothing is wrong with
the nodes before it (`Codec.InOrder`), and it is not too deep itself
(`encode_eq_unknownKind_iff`).
-/
import SyntaxWire.Proofs.Registry.Naming
import SyntaxWire.Proofs.Stream.Spelling

namespace SyntaxWire

namespace Registry

variable {r : Registry}

theorem codeOf_eq_none {name : String} : r.codeOf name = none ↔ r.byName name = none :=
  Option.map_eq_none_iff

/-- Whether a kind is that of tokens shows in the name that stands for it. -/
theorem isToken_of_resolveName {name : String} {k : NodeKind} (h : r.resolveName name = .ok k) :
    k.isToken = (name == NodeKind.token.name) := by
  obtain ⟨hmem, hname⟩ := resolveName_ok_iff.1 h
  rw [Bool.eq_iff_iff, isToken_iff hmem, hname, beq_iff_eq]

end Registry

namespace Codec

/-- The node keeps the rules that no registry is asked for: it is not too deep, its shape is that of
its name and its payload is not too long. -/
structure InOrder (c : Codec) (n : Node String) : Prop where
  depth : n.depth ≤ c.limits.maxDepth.toNat
  shaped : n.Shaped (n.kind == NodeKind.token.name)
  payload : ∀ payload, n.payload = some payload → payload.length ≤ c.limits.maxPayload.toNat

variable {c : Codec} {r : Registry} {n : Node String}

/-- What the codec admits is in order and has a name that is known. -/
theorem admits_iff : c.Admits r.resolveName n ↔ r.codeOf n.kind ≠ none ∧ c.InOrder n := by
  constructor
  · rintro ⟨hdepth, ⟨k, hk, hshaped⟩, hpayload⟩
    rw [Registry.isToken_of_resolveName hk] at hshaped
    have hname := Registry.byName_eq_some.2 (Registry.resolveName_ok_iff.1 hk)
    exact ⟨by simp [Registry.codeOf, hname], hdepth, hshaped, hpayload⟩
  · rintro ⟨hknown, hn⟩
    obtain ⟨k, hk⟩ := Option.ne_none_iff_exists'.1 (mt Registry.codeOf_eq_none.2 hknown)
    have hresolve := Registry.resolveName_ok_iff.2 (Registry.byName_eq_some.1 hk)
    refine ⟨hn.depth, ⟨k, hresolve, ?_⟩, hn.payload⟩
    rw [Registry.isToken_of_resolveName hresolve]
    exact hn.shaped

/-- Only a node that is not too deep is objected to for its name. -/
theorem objection_eq_unknownKind {name : String} :
    c.objection r n = some (.unknownKind name) ↔
      n.depth ≤ c.limits.maxDepth.toNat ∧ r.codeOf n.kind = none ∧ n.kind = name := by
  rw [Registry.codeOf_eq_none]
  unfold objection
  by_cases hdepth : c.limits.maxDepth.toNat < n.depth
  · simp [hdepth, Nat.not_le.2 hdepth]
  by_cases hname : r.byName n.kind = none
  · simp [hdepth, hname, Nat.not_lt.1 hdepth]
  have hshape : c.shapeObjection n ≠ some (.unknownKind name) := by
    unfold shapeObjection
    repeat' split
    all_goals simp
  simp [hdepth, hname, hshape]

theorem objection_of_unknown (h : r.codeOf n.kind = none) : ∃ f, c.objection r n = some f := by
  unfold objection
  rw [if_pos (Registry.codeOf_eq_none.1 h)]
  split
  · exact ⟨_, rfl⟩
  · exact ⟨_, rfl⟩

section Unknown

variable {t : SyntaxTree} {before after : List (Node String)}

/-- The encoder gets no further than the first name that is not known. -/
theorem encode_of_unknown (hc : c.cancelled = false) (ht : t.preorder 1 = before ++ n :: after)
    (hn : r.codeOf n.kind = none) :
    ∃ f, c.encode r t = .error f ∧ (before.findSome? (c.objection r)).or (c.objection r n) = some f := by
  obtain ⟨g, hg⟩ := @objection_of_unknown c r n hn
  rw [encode_eq hc, ht, List.findSome?_append, List.findSome?_cons, hg]
  cases before.findSome? (c.objection r) with
  | none => exact ⟨g, rfl, rfl⟩
  | some f => exact ⟨f, rfl, rfl⟩

theorem encode_eq_unknownKind_iff (hc : c.cancelled = false) (ht : t.preorder 1 = before ++ n :: after)
    (hbefore : ∀ m ∈ before, r.codeOf m.kind ≠ none) (hn : r.codeOf n.kind = none) :
    c.encode r t = .error (.unknownKind n.kind) ↔
      (∀ m ∈ before, c.InOrder m) ∧ n.depth ≤ c.limits.maxDepth.toNat := by
  obtain ⟨f, hf, hfirst⟩ := @encode_of_unknown c r n t before after hc ht hn
  have hinOrder : before.findSome? (c.objection r) = none ↔ ∀ m ∈ before, c.InOrder m := by
    rw [List.findSome?_eq_none_iff]
    refine forall₂_congr fun m hm => ?_
    rw [objection_eq_none hc, admits_iff]
    exact and_iff_right (hbefore m hm)
  rw [hf, Except.error.injEq, ← hinOrder]
  cases hobjection : before.findSome? (c.objection r) with
  | none =>
    -- The name itself is the first thing that can be wrong.
    rw [hobjection, Option.none_or] at hfirst
    have hname := @objection_eq_unknownKind c r n n.kind
    rw [hfirst, Option.some.injEq] at hname
    simp [hname, hn]
  | some g =>
    -- A node whose name is known is objected to for something else.
    obtain ⟨m, hm, hg⟩ := List.exists_of_findSome?_eq_some hobjection
    rw [hobjection, Option.some_or, Option.some.injEq] at hfirst
    subst hfirst
    refine iff_of_false ?_ (fun h => nomatch h.1)
    rintro rfl
    exact hbefore m hm (objection_eq_unknownKind.1 hg).2.1

end Unknown

/-- **Names and codes are written alike.** If a tree can be lowered, the encoder of names gives for it
what the encoder of codes gives for its codes, the same bytes or the same fault. If it cannot, it is
not encoded either, and the fault is the same exactly if the nodes in front of the first name that is
not known are in order and the node of that name is not too deep. -/
theorem encode_agrees (hc : c.cancelled = false) (r : Registry) (t : SyntaxTree) :
    (∀ s, r.lower t = .ok s → c.encode r t = c.encodeCodes r s) ∧
      ∀ f, r.lower t = .error f → (∃ g, c.encode r t = .error g) ∧
        ∃ before n after, t.preorder 1 = before ++ n :: after ∧ (∀ m ∈ before, r.codeOf m.kind ≠ none) ∧
          r.codeOf n.kind = none ∧ f = .unknownKind n.kind ∧
          (c.encode r t = .error f ↔ (∀ m ∈ before, c.InOrder m) ∧ n.depth ≤ c.limits.maxDepth.toNat) := by
  refine ⟨fun s hs => encode_eq_encodeCodes hs, fun f hf => ?_⟩
  obtain ⟨before, n, after, ht, hbefore, hn, rfl⟩ := Registry.lower_error_iff.1 hf
  obtain ⟨g, hg, -⟩ := @encode_of_unknown c r n t before after hc ht hn
  exact ⟨⟨g, hg⟩, before, n, after, ht, hbefore, hn, rfl, encode_eq_unknownKind_iff hc ht hbefore hn⟩

/-- Two names are not known, and below the first the second carries a payload without being a token. -/
def misnamedTree : SyntaxTree :=
  .node "Unknown" [.node "Token" [] (some [7]), .node "Name" [.node "Label" [] (some [7])] none] none

theorem encode_misnamedTree :
    ({} : Codec).cancelled = false ∧ (Registry.bare .standard).lower misnamedTree = .error (.unknownKind "Name") ∧
      ({} : Codec).encode (.bare .standard) misnamedTree = .error (.unknownKind "Name") := by
  have hlower : (Registry.bare .standard).lower misnamedTree = .error (.unknownKind "Name") := rfl
  refine ⟨rfl, hlower, ?_⟩
  obtain ⟨-, before, n, after, ht, hbefore, -, -, hsame⟩ := (@encode_agrees {} rfl _ misnamedTree).2 _ hlower
  have hnodes : ∀ m ∈ misnamedTree.preorder 1, m.depth ≤ 4096 ∧
      ((Registry.bare .standard).codeOf m.kind ≠ none → ({} : Codec).objection (.bare .standard) m = none) := by
    decide
  refine hsame.2 ⟨fun m hm => ?_, ?_⟩
  · have hfine := (hnodes m (by simp [ht, hm])).2 (hbefore m hm)
    exact (admits_iff.1 ((objection_eq_none rfl).1 hfine)).2
  · exact (hnodes n (by simp [ht])).1

end Codec

end SyntaxWire
