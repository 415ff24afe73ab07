/-
The encoder said by recursion. A named tree is spelled node by node in
pre-order: the code, the number of children and, for a token, the payload
behind its length (`Registry.spell`). The first node in pre-order that the
codec objects to decides the fault, and where it objects to none the stream
is the header and the spelling (`encode_eq`). It objects to none exactly if
it admits all of them (`objection_eq_none`).
-/
import SyntaxWire.Proofs.Stream.Encode
import SyntaxWire.Proofs.Stream.Version

namespace SyntaxWire

namespace Registry

/-- The code of a name. A name that the registry does not know has no code to write. -/
def spellName (r : Registry) (name : String) : Bytes :=
  match r.codeOf name with
  | some code => Varint.encode code.toNat
  | none => []

/-- What a node adds to a stream, apart from its children. -/
def spellNode (r : Registry) (name : String) (count : Nat) (payload : Option Bytes) : Bytes :=
  r.spellName name ++ Varint.encode count ++ if name = NodeKind.token.name then payloadText payload else []

mutual

/-- The text of a named tree. -/
def spell (r : Registry) : SyntaxTree → Bytes
  | .node name cs p => r.spellNode name cs.length p ++ spellAll r cs

def spellAll (r : Registry) : List SyntaxTree → Bytes
  | [] => []
  | t :: ts => spell r t ++ spellAll r ts

end

mutual

theorem flatMap_spellNode (r : Registry) (depth : Nat) :
    ∀ t : SyntaxTree, (t.preorder depth).flatMap (fun n => r.spellNode n.kind n.count n.payload) = r.spell t
  | .node name cs p => by
    rw [Tree.preorder, List.flatMap_cons, flatMap_spellNodeAll r (depth + 1) cs, spell]

theorem flatMap_spellNodeAll (r : Registry) (depth : Nat) :
    ∀ ts : List SyntaxTree,
      (Tree.preorderAll depth ts).flatMap (fun n => r.spellNode n.kind n.count n.payload) = r.spellAll ts
  | [] => rfl
  | t :: ts => by
    rw [Tree.preorderAll, List.flatMap_append, flatMap_spellNode r depth t, flatMap_spellNodeAll r depth ts, spellAll]

end

/-- Only the kind of tokens has its name. -/
theorem isToken_iff {r : Registry} {k : NodeKind} (hk : k ∈ r.kinds) :
    k.isToken = true ↔ k.name = NodeKind.token.name := by
  have htoken : NodeKind.token ∈ r.kinds := List.mem_append_left _ List.mem_cons_self
  rw [NodeKind.isToken, beq_iff_eq]
  constructor
  · intro hcode
    have h := (byCode_eq_some.2 ⟨hk, hcode⟩).symm.trans (byCode_eq_some.2 ⟨htoken, rfl⟩)
    rw [Option.some.inj h]
  · intro hname
    have h := (byName_eq_some.2 ⟨hk, hname⟩).symm.trans (byName_eq_some.2 ⟨htoken, rfl⟩)
    rw [Option.some.inj h]

end Registry

namespace Codec

/-- What is wrong with the children and the payload of a node, given its name. -/
def shapeObjection (c : Codec) (n : Node String) : Option CodecFault :=
  if n.kind = NodeKind.token.name then
    if n.count ≠ 0 then some (.tokenWithChildren n.count)
    else match n.payload with
      | none => some .missingPayload
      | some payload =>
        if c.limits.maxPayload.toNat < payload.length then
          some (.payloadTooLarge payload.length c.limits.maxPayload)
        else none
  else if n.payload.isSome then some (.unexpectedPayload n.kind)
  else none

/-- What the codec has against a node of a named tree: it is too deep, its name is not known, or
it is not of the shape that goes with its name. The first of these counts. -/
def objection (c : Codec) (r : Registry) (n : Node String) : Option CodecFault :=
  if c.limits.maxDepth.toNat < n.depth then some (.depthExceeded c.limits.maxDepth)
  else if r.byName n.kind = none then some (.unknownKind n.kind)
  else c.shapeObjection n

variable {c : Codec} {r : Registry}

theorem nodePayload_eq {k : NodeKind} {n : Node String} (hk : k ∈ r.kinds) (hname : k.name = n.kind) :
    c.nodePayload k n.count n.payload =
      match c.shapeObjection n with
      | some f => .error f
      | none => .ok (if n.kind = NodeKind.token.name then payloadText n.payload else []) := by
  have htoken := Registry.isToken_iff hk
  rw [hname] at htoken
  unfold nodePayload shapeObjection
  by_cases ht : n.kind = NodeKind.token.name
  · rw [if_pos (htoken.2 ht), if_pos ht, if_pos ht]
    by_cases hcount : n.count ≠ 0
    · rw [if_pos hcount, if_pos hcount]
    rw [if_neg hcount, if_neg hcount]
    cases n.payload with
    | none => rfl
    | some payload =>
      dsimp only
      by_cases hlimit : c.limits.maxPayload.toNat < payload.length
      · rw [if_pos hlimit, if_pos hlimit]
      · rw [if_neg hlimit, if_neg hlimit, payloadText]
  · rw [if_neg (mt htoken.1 ht), if_neg ht, if_neg ht, hname]
    by_cases hp : n.payload.isSome = true
    · rw [if_pos hp, if_pos hp]
    · rw [if_neg hp, if_neg hp]

/-- A node is written as it is spelled, or refused for the first objection to it. -/
theorem nodeHead_eq (hc : c.cancelled = false) (n : Node String) :
    c.nodeHead r.resolveName n =
      match c.objection r n with
      | some f => .error f
      | none => .ok (r.spellNode n.kind n.count n.payload) := by
  rw [nodeHead, hc, if_neg (by decide), objection]
  by_cases hd : c.limits.maxDepth.toNat < n.depth
  · rw [if_pos hd, if_pos hd]
  rw [if_neg hd, if_neg hd, Registry.resolveName]
  cases hk : r.byName n.kind with
  | none => rw [if_pos rfl]; rfl
  | some k =>
    obtain ⟨hmem, hname⟩ := Registry.byName_eq_some.1 hk
    rw [if_neg (Option.some_ne_none k)]
    dsimp only [bind, Except.bind]
    rw [nodePayload_eq hmem hname]
    cases c.shapeObjection n with
    | some f => rfl
    | none =>
      dsimp only
      rw [Registry.spellNode, Registry.spellName, Registry.codeOf, hk]
      rfl

theorem objection_eq_none (hc : c.cancelled = false) {n : Node String} :
    c.objection r n = none ↔ c.Admits r.resolveName n := by
  have hhead := @nodeHead_eq c r hc n
  constructor
  · intro h
    rw [h] at hhead
    exact (nodeHead_ok_iff.1 hhead).2.1
  · intro hadmits
    obtain ⟨k, hk, -⟩ := hadmits.kind
    rw [nodeHead_ok_iff.2 ⟨hc, hadmits, k, hk, rfl⟩] at hhead
    cases hn : c.objection r n with
    | none => rfl
    | some f => rw [hn] at hhead; cases hhead

/-- The first objection in pre-order, or the header and the spelling. -/
theorem encode_eq (hc : c.cancelled = false) (t : SyntaxTree) :
    c.encode r t =
      match (t.preorder 1).findSome? (c.objection r) with
      | some f => .error f
      | none => .ok ((c.guard.stamp r).header ++ r.spell t) := by
  have hfault (n : Node String) (f : CodecFault) (h : c.objection r n = some f) :
      c.nodeHead r.resolveName n = .error f := by rw [nodeHead_eq hc, h]
  have hok (n : Node String) (h : c.objection r n = none) :
      c.nodeHead r.resolveName n = .ok (r.spellNode n.kind n.count n.payload) := by rw [nodeHead_eq hc, h]
  rw [encode, encodeWith_eq, Except.mapM_eq_findSome? hfault hok]
  cases (t.preorder 1).findSome? (c.objection r) with
  | some f => rfl
  | none =>
    rw [← Registry.flatMap_spellNode r 1 t]
    rfl

/-- **The encoder writes what its specification spells.** It succeeds exactly if it admits every
node of the tree, and then gives fourteen bytes of header and the spelling. Otherwise the fault is
the first objection to the first node in pre-order that it does not admit. -/
theorem encode_spelled (hc : c.cancelled = false) (t : SyntaxTree) :
    ((∃ b, c.encode r t = .ok b) ↔ ∀ n ∈ t.preorder 1, c.Admits r.resolveName n) ∧
      (∀ b, c.encode r t = .ok b → b = (c.guard.stamp r).header ++ r.spell t) ∧
      (c.guard.stamp r).header.length = 14 ∧
      ∀ f, c.encode r t = .error f ↔ ∃ before n after, t.preorder 1 = before ++ n :: after ∧
        (∀ m ∈ before, c.Admits r.resolveName m) ∧ c.objection r n = some f := by
  have hnone : (t.preorder 1).findSome? (c.objection r) = none ↔ ∀ n ∈ t.preorder 1, c.Admits r.resolveName n := by
    simp only [List.findSome?_eq_none_iff, objection_eq_none hc]
  have hsome (f : CodecFault) : (t.preorder 1).findSome? (c.objection r) = some f ↔
      ∃ before n after, t.preorder 1 = before ++ n :: after ∧
        (∀ m ∈ before, c.Admits r.resolveName m) ∧ c.objection r n = some f := by
    simp only [List.findSome?_eq_some_iff, objection_eq_none hc, and_comm]
  refine ⟨?_, ?_, ProtocolVersion.length_header _, ?_⟩
  · rw [← hnone, encode_eq hc]
    cases (t.preorder 1).findSome? (c.objection r) with
    | some f => exact iff_of_false (fun ⟨b, h⟩ => nomatch h) nofun
    | none => exact iff_of_true ⟨_, rfl⟩ rfl
  · intro b h
    rw [encode_eq hc] at h
    cases hfault : (t.preorder 1).findSome? (c.objection r) with
    | some f => rw [hfault] at h; cases h
    | none => rw [hfault] at h; exact (Except.ok.inj h).symm
  · intro f
    rw [← hsome, encode_eq hc]
    cases (t.preorder 1).findSome? (c.objection r) with
    | some g => simp only [Except.error.injEq, Option.some.injEq]
    | none => exact iff_of_false nofun nofun

/-- An inner node with a payload, below and before others, and after it a name that is not known. -/
def flawedTree : SyntaxTree :=
  .node "Unknown" [.node "Token" [] (some []), .node "Unknown" [.node "Unknown" [] (some [7])] none,
    .node "Name" [] none] none

theorem encode_flawedTree :
    ({} : Codec).cancelled = false ∧
      ({} : Codec).encode (.bare .standard) flawedTree = .error (.unexpectedPayload "Unknown") := by
  refine ⟨rfl, ((encode_spelled rfl flawedTree).2.2.2 _).2 ?_⟩
  refine ⟨[⟨1, "Unknown", 3, none⟩, ⟨2, "Token", 0, some []⟩, ⟨2, "Unknown", 1, none⟩], ⟨3, "Unknown", 0, some [7]⟩,
    [⟨2, "Name", 0, none⟩], by cbv, ?_, by cbv⟩
  have hnone : ∀ m ∈ [(⟨1, "Unknown", 3, none⟩ : Node String), ⟨2, "Token", 0, some []⟩, ⟨2, "Unknown", 1, none⟩],
      ({} : Codec).objection (.bare .standard) m = none := by decide
  exact fun m hm => (objection_eq_none rfl).1 (hnone m hm)

end Codec

end SyntaxWire
