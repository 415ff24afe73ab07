/-
What the encoder writes and when it does. Its list of pending trees comes to
the nodes of the tree in pre-order (`encodeWith_eq`), so a coded tree is
written exactly if the codec admits each of its nodes, and then as the header
and the written form of the tree (`encodeCodes_ok_iff`). A named tree that is
written is written as its codes are (`lower_of_encode`).
-/
import SyntaxWire.Proofs.Registry.Lookup
import SyntaxWire.Proofs.Stream.Written
import SyntaxWire.Stream.Encode

namespace SyntaxWire

variable {κ : Type}

/-- Tokens carry a payload and have no children; nothing else carries a payload. -/
def Node.Shaped (n : Node κ) (token : Bool) : Prop :=
  if token then n.count = 0 ∧ n.payload.isSome else n.payload = none

theorem Node.Shaped.isSome_payload {n : Node κ} {token : Bool} (h : n.Shaped token) : n.payload.isSome = token := by
  unfold Shaped at h
  split at h
  · next ht => rw [h.2, ht]
  · next ht =>
    rw [h, Bool.eq_false_iff.2 ht]
    rfl

/-- The codec has nothing against the node: it is not too deep, its kind is known, its shape is
that of its kind and its payload is not too long. -/
structure Codec.Admits (c : Codec) (resolve : κ → Except CodecFault NodeKind) (n : Node κ) : Prop where
  depth : n.depth ≤ c.limits.maxDepth.toNat
  kind : ∃ k, resolve n.kind = .ok k ∧ n.Shaped k.isToken
  payload : ∀ payload, n.payload = some payload → payload.length ≤ c.limits.maxPayload.toNat

namespace Registry

theorem resolveName_ok_iff {r : Registry} {name : String} {k : NodeKind} :
    r.resolveName name = .ok k ↔ k ∈ r.kinds ∧ k.name = name := by
  rw [← byName_eq_some, resolveName]
  cases r.byName name <;> simp

theorem resolveCode_ok_iff {r : Registry} {code : KindCode} {k : NodeKind} :
    r.resolveCode code = .ok k ↔ k ∈ r.kinds ∧ k.code = code := by
  rw [← byCode_eq_some, resolveCode]
  cases r.byCode code <;> simp

end Registry

namespace Codec

variable {c : Codec} {resolve : κ → Except CodecFault NodeKind}

theorem nodePayload_ok_iff {k : NodeKind} {n : Node κ} {text : Bytes} :
    c.nodePayload k n.count n.payload = .ok text ↔ n.Shaped k.isToken ∧
      (∀ payload, n.payload = some payload → payload.length ≤ c.limits.maxPayload.toNat) ∧
      text = payloadText n.payload := by
  unfold nodePayload Node.Shaped
  by_cases ht : k.isToken = true
  · rw [if_pos ht, if_pos ht]
    by_cases hcount : n.count ≠ 0
    · rw [if_pos hcount]
      exact iff_of_false nofun fun h => hcount h.1.1
    rw [if_neg hcount]
    have hcount := Classical.not_not.1 hcount
    cases hp : n.payload with
    | none => simp
    | some payload =>
      by_cases hlimit : c.limits.maxPayload.toNat < payload.length
      · simp only [if_pos hlimit, reduceCtorEq, false_iff]
        rintro ⟨-, hle, -⟩
        exact Nat.not_le.2 hlimit (hle payload rfl)
      · simp [hcount, hlimit, Nat.not_lt.1 hlimit, payloadText, eq_comm]
  · rw [if_neg ht, if_neg ht]
    cases n.payload <;> simp [payloadText, eq_comm]

/-- One node is written exactly if the codec admits it. -/
theorem nodeHead_ok_iff {n : Node κ} {text : Bytes} :
    c.nodeHead resolve n = .ok text ↔ c.cancelled = false ∧ c.Admits resolve n ∧
      ∃ k, resolve n.kind = .ok k ∧ text = nodeText k.code n.count n.payload := by
  constructor
  · intro h
    unfold nodeHead at h
    split at h
    · cases h
    next hc =>
    split at h
    · cases h
    next hd =>
    simp only [Except.bind_ok_iff] at h
    obtain ⟨k, hk, payload, hpayload, h⟩ := h
    obtain ⟨hshaped, hlimit, rfl⟩ := nodePayload_ok_iff.1 hpayload
    exact ⟨by simpa using hc, ⟨by omega, ⟨k, hk, hshaped⟩, hlimit⟩, k, hk, (Except.ok.inj h).symm⟩
  · rintro ⟨hc, ⟨hd, ⟨k, hk, hshaped⟩, hlimit⟩, k', hk', rfl⟩
    obtain rfl : k = k' := Except.ok.inj (hk.symm.trans hk')
    have hpayload := nodePayload_ok_iff.2 ⟨hshaped, hlimit, rfl⟩
    rw [nodeHead, hc, if_neg (by decide), if_neg (by omega), hk]
    dsimp only [bind, Except.bind]
    rw [hpayload]
    rfl

/-- The nodes of the pending trees, in the order in which they are written. -/
def pendingNodes (pending : List (Nat × Tree κ)) : List (Node κ) :=
  pending.flatMap fun p => p.2.preorder p.1

theorem pendingNodes_children (depth : Nat) (cs : List (Tree κ)) (pending : List (Nat × Tree κ)) :
    pendingNodes ((cs.map fun u => (depth, u)) ++ pending) = Tree.preorderAll depth cs ++ pendingNodes pending := by
  induction cs with
  | nil => rfl
  | cons u cs ih =>
    rw [List.map_cons, List.cons_append, Tree.preorderAll, List.append_assoc, ← ih]
    rfl

theorem pendingNodes_cons (depth : Nat) (t : Tree κ) (pending : List (Nat × Tree κ)) :
    pendingNodes ((depth, t) :: pending) =
      t.top depth :: pendingNodes ((t.children.map fun u => (depth + 1, u)) ++ pending) := by
  rw [pendingNodes_children, ← List.cons_append, ← Tree.preorder_eq]
  rfl

theorem writePending_eq (pending : List (Nat × Tree κ)) (done : List Bytes) :
    c.writePending resolve pending done =
      ((pendingNodes pending).mapM (c.nodeHead resolve)).map fun heads => (done.reverse ++ heads).flatten := by
  fun_induction writePending c resolve pending done with
  | case1 done =>
    rw [pendingNodes, List.flatMap_nil, List.mapM_nil]
    simp only [pure, Except.pure, Except.map, List.append_nil]
  | case2 done depth t pending f hf =>
    rw [pendingNodes_cons, List.mapM_cons, hf]
    rfl
  | case3 done depth t pending head hhead ih =>
    rw [ih, pendingNodes_cons, List.mapM_cons, hhead]
    cases (pendingNodes ((t.children.map fun u => (depth + 1, u)) ++ pending)).mapM (c.nodeHead resolve) with
    | error f => rfl
    | ok heads =>
      simp only [Except.map, List.reverse_cons, List.append_assoc, List.singleton_append]
      rfl

/-- The nodes of the tree are written in pre-order, behind the header. -/
theorem encodeWith_eq {r : Registry} (t : Tree κ) :
    c.encodeWith r resolve t =
      ((t.preorder 1).mapM (c.nodeHead resolve)).map fun heads => (c.guard.stamp r).header ++ heads.flatten := by
  have hnodes : pendingNodes [(1, t)] = t.preorder 1 := List.append_nil _
  rw [encodeWith, writePending_eq, hnodes]
  rfl

theorem encodeCodes_ok_iff {r : Registry} {t : CodeTree} {b : Bytes} :
    c.encodeCodes r t = .ok b ↔
      (∀ n ∈ t.preorder 1, c.cancelled = false ∧ c.Admits r.resolveCode n) ∧
        b = (c.guard.stamp r).header ++ t.written := by
  have hnode (n : Node KindCode) (text : Bytes) : c.nodeHead r.resolveCode n = .ok text ↔
      (c.cancelled = false ∧ c.Admits r.resolveCode n) ∧ text = n.text := by
    rw [nodeHead_ok_iff, and_assoc]
    refine and_congr_right fun _ => and_congr_right fun hadmits => ?_
    obtain ⟨k, hk, -⟩ := hadmits.kind
    have hcode := (Registry.resolveCode_ok_iff.1 hk).2
    rw [hk]
    simp only [Except.ok.injEq, exists_eq_left', hcode, Node.text]
  rw [encodeCodes, encodeWith_eq, Except.map_ok_iff]
  simp only [Except.mapM_ok_iff hnode, ← Tree.flatMap_preorder 1 t, List.flatMap]
  constructor
  · rintro ⟨heads, ⟨hn, rfl⟩, rfl⟩
    exact ⟨hn, rfl⟩
  · rintro ⟨hn, rfl⟩
    exact ⟨_, ⟨hn, rfl⟩, rfl⟩

/-! ## Names and codes -/

theorem nodeHead_lower {r : Registry} {n : Node String} {code : KindCode}
    (h : (r.resolveName n.kind).map (·.code) = .ok code) :
    c.nodeHead r.resolveName n = c.nodeHead r.resolveCode ⟨n.depth, code, n.count, n.payload⟩ := by
  obtain ⟨k, hk, hcode⟩ := Except.map_ok_iff.1 h
  have hk' : r.resolveCode code = .ok k :=
    Registry.resolveCode_ok_iff.2 ⟨(Registry.resolveName_ok_iff.1 hk).1, hcode⟩
  simp only [nodeHead, hk, hk']

mutual

theorem mapM_nodeHead_lower {r : Registry} {depth : Nat} :
    ∀ {t : SyntaxTree} {s : CodeTree}, r.lower t = .ok s →
      (t.preorder depth).mapM (c.nodeHead r.resolveName) = (s.preorder depth).mapM (c.nodeHead r.resolveCode)
  | .node name cs p, s, h => by
    obtain ⟨code, ds, hcode, hds, rfl⟩ := Tree.relabel_ok_iff.1 h
    rw [Tree.preorder, Tree.preorder, List.mapM_cons, List.mapM_cons, nodeHead_lower hcode,
      mapM_nodeHead_lowerAll hds, Tree.relabelAll_length hds]

theorem mapM_nodeHead_lowerAll {r : Registry} {depth : Nat} :
    ∀ {ts : List SyntaxTree} {ss : List CodeTree},
      Tree.relabelAll (fun name => (r.resolveName name).map (·.code)) ts = .ok ss →
      (Tree.preorderAll depth ts).mapM (c.nodeHead r.resolveName) =
        (Tree.preorderAll depth ss).mapM (c.nodeHead r.resolveCode)
  | [], _, h => by cases h; rfl
  | t :: ts, ss, h => by
    obtain ⟨s, ss', hs, hss, rfl⟩ := Tree.relabelAll_ok_iff.1 h
    rw [Tree.preorderAll, Tree.preorderAll, List.mapM_append, List.mapM_append, mapM_nodeHead_lower hs,
      mapM_nodeHead_lowerAll hss]

end

/-- A named tree and its codes are written alike, faults included. -/
theorem encode_eq_encodeCodes {r : Registry} {t : SyntaxTree} {s : CodeTree} (h : r.lower t = .ok s) :
    c.encode r t = c.encodeCodes r s := by
  rw [encode, encodeCodes, encodeWith_eq, encodeWith_eq, mapM_nodeHead_lower h]

/-- Every name of a tree that is written is known. -/
theorem lower_of_encode {r : Registry} {t : SyntaxTree} {b : Bytes} (h : c.encode r t = .ok b) :
    ∃ s, r.lower t = .ok s ∧ c.encodeCodes r s = .ok b := by
  have hnames : ∀ n ∈ t.preorder 1, ∃ code, (r.resolveName n.kind).map (·.code) = .ok code := by
    rw [encode, encodeWith_eq, Except.map_ok_iff] at h
    obtain ⟨heads, hheads, -⟩ := h
    intro n hn
    obtain ⟨text, htext⟩ := Except.mapM_ok_of_mem hheads n hn
    obtain ⟨-, -, k, hk, -⟩ := nodeHead_ok_iff.1 htext
    exact ⟨k.code, Except.map_ok_iff.2 ⟨k, hk, rfl⟩⟩
  obtain ⟨s, hs⟩ : ∃ s, r.lower t = .ok s := Tree.relabel_ok_of_preorder hnames
  exact ⟨s, hs, by rw [← encode_eq_encodeCodes hs, h]⟩

end Codec

end SyntaxWire
