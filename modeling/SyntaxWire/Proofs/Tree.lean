/-
Trees in pre-order. `preorder` lists the nodes of a tree as a walk meets
them, each with its depth. What relabels a tree relabels these nodes one by
one: it succeeds if every label can be changed (`relabel_ok_of_preorder`),
and a relabelling that can be undone label by label is undone as a whole
(`relabel_inverse`). Where it fails, the first node in pre-order whose label
cannot be changed decides (`relabel_error_iff`).
-/
import SyntaxWire.Proofs.Except
import SyntaxWire.Tree

namespace SyntaxWire

variable {κ ι ε ε' : Type}

namespace Node

/-- The node under another label. -/
def map (f : κ → ι) (n : Node κ) : Node ι := ⟨n.depth, f n.kind, n.count, n.payload⟩

def relabel (f : κ → Except ε ι) (n : Node κ) : Except ε (Node ι) :=
  (f n.kind).map fun j => ⟨n.depth, j, n.count, n.payload⟩

end Node

namespace Tree

mutual

/-- The nodes of a tree whose root is at the given depth, parents first. -/
def preorder (depth : Nat) : Tree κ → List (Node κ)
  | node k cs p => ⟨depth, k, cs.length, p⟩ :: preorderAll (depth + 1) cs

def preorderAll (depth : Nat) : List (Tree κ) → List (Node κ)
  | [] => []
  | t :: ts => preorder depth t ++ preorderAll depth ts

end

mutual

/-- The depth of the deepest node, where the root is at depth 1. -/
def height : Tree κ → Nat
  | node _ cs _ => 1 + heightAll cs

def heightAll : List (Tree κ) → Nat
  | [] => 0
  | t :: ts => max (height t) (heightAll ts)

end

theorem preorder_eq (depth : Nat) (t : Tree κ) :
    t.preorder depth = t.top depth :: preorderAll (depth + 1) t.children := by
  cases t; rfl

theorem preorderAll_append (depth : Nat) (ts us : List (Tree κ)) :
    preorderAll depth (ts ++ us) = preorderAll depth ts ++ preorderAll depth us := by
  induction ts with
  | nil => rfl
  | cons t ts ih => rw [List.cons_append, preorderAll, preorderAll, ih, List.append_assoc]

/-! ## Relabelling -/

variable {f : κ → Except ε ι}

theorem relabel_ok_iff {k : κ} {cs : List (Tree κ)} {p : Option Bytes} {u : Tree ι} :
    relabel f (node k cs p) = .ok u ↔ ∃ j ds, f k = .ok j ∧ relabelAll f cs = .ok ds ∧ u = node j ds p := by
  simp only [relabel, Except.bind_ok_iff]
  constructor
  · rintro ⟨j, hj, ds, hds, hu⟩
    exact ⟨j, ds, hj, hds, (Except.ok.inj hu).symm⟩
  · rintro ⟨j, ds, hj, hds, rfl⟩
    exact ⟨j, hj, ds, hds, rfl⟩

theorem relabelAll_ok_iff {t : Tree κ} {ts : List (Tree κ)} {us : List (Tree ι)} :
    relabelAll f (t :: ts) = .ok us ↔
      ∃ u us', relabel f t = .ok u ∧ relabelAll f ts = .ok us' ∧ us = u :: us' := by
  simp only [relabelAll, Except.bind_ok_iff]
  constructor
  · rintro ⟨u, hu, us', hus, h⟩
    exact ⟨u, us', hu, hus, (Except.ok.inj h).symm⟩
  · rintro ⟨u, us', hu, hus, rfl⟩
    exact ⟨u, hu, us', hus, rfl⟩

theorem relabelAll_length {ts : List (Tree κ)} {us : List (Tree ι)} (h : relabelAll f ts = .ok us) :
    us.length = ts.length := by
  induction ts generalizing us with
  | nil => cases h; rfl
  | cons t ts ih =>
    obtain ⟨u, us', -, hus, rfl⟩ := relabelAll_ok_iff.1 h
    rw [List.length_cons, List.length_cons, ih hus]

mutual

theorem relabel_ok_of_preorder {depth : Nat} :
    ∀ {t : Tree κ}, (∀ n ∈ t.preorder depth, ∃ j, f n.kind = .ok j) → ∃ u, relabel f t = .ok u
  | node k cs p, h => by
    rw [preorder, List.forall_mem_cons] at h
    obtain ⟨⟨j, hj⟩, hcs⟩ := h
    obtain ⟨ds, hds⟩ := relabelAll_ok_of_preorder hcs
    exact ⟨node j ds p, relabel_ok_iff.2 ⟨j, ds, hj, hds, rfl⟩⟩

theorem relabelAll_ok_of_preorder {depth : Nat} :
    ∀ {ts : List (Tree κ)}, (∀ n ∈ preorderAll depth ts, ∃ j, f n.kind = .ok j) →
      ∃ us, relabelAll f ts = .ok us
  | [], _ => ⟨[], rfl⟩
  | t :: ts, h => by
    rw [preorderAll, List.forall_mem_append] at h
    obtain ⟨u, hu⟩ := relabel_ok_of_preorder h.1
    obtain ⟨us, hus⟩ := relabelAll_ok_of_preorder h.2
    exact ⟨u :: us, relabelAll_ok_iff.2 ⟨u, us, hu, hus, rfl⟩⟩

end

mutual

/-- Where `g` changes labels as `f` does, it makes the same tree. -/
theorem relabel_mono {g : κ → Except ε' ι} (hfg : ∀ {k j}, f k = .ok j → g k = .ok j) :
    ∀ {t : Tree κ} {u : Tree ι}, relabel f t = .ok u → relabel g t = .ok u
  | node k cs p, u, h => by
    obtain ⟨j, ds, hj, hds, rfl⟩ := relabel_ok_iff.1 h
    exact relabel_ok_iff.2 ⟨j, ds, hfg hj, relabelAll_mono hfg hds, rfl⟩

theorem relabelAll_mono {g : κ → Except ε' ι} (hfg : ∀ {k j}, f k = .ok j → g k = .ok j) :
    ∀ {ts : List (Tree κ)} {us : List (Tree ι)}, relabelAll f ts = .ok us → relabelAll g ts = .ok us
  | [], _, h => by cases h; rfl
  | t :: ts, us, h => by
    obtain ⟨u, us', hu, hus, rfl⟩ := relabelAll_ok_iff.1 h
    exact relabelAll_ok_iff.2 ⟨u, us', relabel_mono hfg hu, relabelAll_mono hfg hus, rfl⟩

end

mutual

/-- Where `g` takes back what `f` does to a label, it takes back what `f` does to a tree. -/
theorem relabel_inverse {g : ι → Except ε' κ} (hfg : ∀ {k j}, f k = .ok j → g j = .ok k) :
    ∀ {t : Tree κ} {u : Tree ι}, relabel f t = .ok u → relabel g u = .ok t
  | node k cs p, u, h => by
    obtain ⟨j, ds, hj, hds, rfl⟩ := relabel_ok_iff.1 h
    exact relabel_ok_iff.2 ⟨k, cs, hfg hj, relabelAll_inverse hfg hds, rfl⟩

theorem relabelAll_inverse {g : ι → Except ε' κ} (hfg : ∀ {k j}, f k = .ok j → g j = .ok k) :
    ∀ {ts : List (Tree κ)} {us : List (Tree ι)}, relabelAll f ts = .ok us → relabelAll g us = .ok ts
  | [], _, h => by cases h; rfl
  | t :: ts, us, h => by
    obtain ⟨u, us', hu, hus, rfl⟩ := relabelAll_ok_iff.1 h
    exact relabelAll_ok_iff.2 ⟨t, ts, relabel_inverse hfg hu, relabelAll_inverse hfg hus, rfl⟩

end

/-! ## Relabelling node by node -/

mutual

theorem preorder_relabel (depth : Nat) :
    ∀ t : Tree κ, (relabel f t).map (preorder depth) = (t.preorder depth).mapM (Node.relabel f)
  | node k cs p => by
    rw [relabel, preorder, List.mapM_cons, ← preorderAll_relabelAll (depth + 1) cs, Node.relabel]
    cases f k with
    | error e => rfl
    | ok j =>
      cases hcs : relabelAll f cs with
      | error e => rfl
      | ok ds =>
        have hcount : (node j ds p).preorder depth = ⟨depth, j, cs.length, p⟩ :: preorderAll (depth + 1) ds := by
          rw [preorder, relabelAll_length hcs]
        exact congrArg Except.ok hcount

theorem preorderAll_relabelAll (depth : Nat) :
    ∀ ts : List (Tree κ), (relabelAll f ts).map (preorderAll depth) = (preorderAll depth ts).mapM (Node.relabel f)
  | [] => rfl
  | t :: ts => by
    rw [relabelAll, preorderAll, List.mapM_append, ← preorder_relabel depth t, ← preorderAll_relabelAll depth ts]
    cases relabel f t with
    | error e => rfl
    | ok u => cases relabelAll f ts <;> rfl

end

/-- The first label in pre-order that cannot be changed decides. -/
theorem relabel_error_iff {t : Tree κ} {e : ε} : relabel f t = .error e ↔ ∃ before n after,
    t.preorder 1 = before ++ n :: after ∧ (∀ m ∈ before, ∃ j, f m.kind = .ok j) ∧ f n.kind = .error e := by
  have hnode (n : Node κ) : Node.relabel f n = .error e ↔ f n.kind = .error e := by
    rw [Node.relabel]
    cases f n.kind <;> simp [Except.map]
  have hfine (n : Node κ) : (∃ m, Node.relabel f n = .ok m) ↔ ∃ j, f n.kind = .ok j := by
    rw [Node.relabel]
    cases f n.kind <;> simp [Except.map]
  have hwhole : relabel f t = .error e ↔ (relabel f t).map (preorder 1) = .error e := by
    cases relabel f t <;> simp [Except.map]
  rw [hwhole, preorder_relabel, Except.mapM_error_iff]
  simp only [hnode, hfine]

mutual

theorem length_preorder (depth : Nat) : ∀ t : Tree κ, (t.preorder depth).length = t.size
  | node k cs p => by
    rw [preorder, List.length_cons, length_preorderAll (depth + 1) cs, size, Nat.add_comm]

theorem length_preorderAll (depth : Nat) : ∀ ts : List (Tree κ), (preorderAll depth ts).length = sizeAll ts
  | [] => rfl
  | t :: ts => by
    rw [preorderAll, List.length_append, length_preorder depth t, length_preorderAll depth ts, sizeAll]

end

mutual

/-- Where no node is deeper than `limit`, neither is the tree. -/
theorem height_le {depth limit : Nat} :
    ∀ {t : Tree κ}, (∀ n ∈ t.preorder depth, n.depth ≤ limit) → depth + t.height ≤ limit + 1
  | node k cs p, h => by
    rw [preorder, List.forall_mem_cons] at h
    have hroot : depth ≤ limit := h.1
    have hcs := heightAll_le (by omega) h.2
    rw [height]
    omega

theorem heightAll_le {depth limit : Nat} (hdepth : depth ≤ limit + 1) :
    ∀ {ts : List (Tree κ)}, (∀ n ∈ preorderAll depth ts, n.depth ≤ limit) → depth + heightAll ts ≤ limit + 1
  | [], _ => hdepth
  | t :: ts, h => by
    rw [preorderAll, List.forall_mem_append] at h
    have ht := height_le h.1
    have hts := heightAll_le hdepth h.2
    rw [heightAll]
    omega

end

end Tree

end SyntaxWire
