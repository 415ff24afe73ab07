/-
Names for codes and codes for names, in whole trees. The two lookups of a
registry are inverse to each other, so lowering a tree and raising it are
(`lower_raise`), whatever shape the tree has: a codec need not admit it. Node
by node in pre-order only the label changes (`preorder_of_lower`). The first
node whose label the registry does not know decides the fault
(`lower_error_iff`, `raise_error_iff`).
-/
import SyntaxWire.Proofs.Stream.RoundTrip

namespace SyntaxWire.Registry

variable {r : Registry} {t : SyntaxTree} {s : CodeTree} {f : CodecFault}

/-! ## One label -/

theorem codeOf_of_label {name : String} {code : KindCode} (h : (r.resolveName name).map (·.code) = .ok code) :
    r.codeOf name = some code := by
  obtain ⟨k, hk, rfl⟩ := Except.map_ok_iff.1 h
  rw [codeOf, byName_eq_some.2 (resolveName_ok_iff.1 hk), Option.map_some]

theorem nameOf_of_label {code : KindCode} {name : String} (h : (r.resolveCode code).map (·.name) = .ok name) :
    r.nameOf code = some name := by
  obtain ⟨k, hk, rfl⟩ := Except.map_ok_iff.1 h
  rw [nameOf, byCode_eq_some.2 (resolveCode_ok_iff.1 hk), Option.map_some]

theorem label_of_name (name : String) :
    (r.resolveName name).map (·.code) = (r.codeOf name).elim (.error (.unknownKind name)) .ok := by
  rw [resolveName, codeOf]
  cases r.byName name <;> rfl

theorem label_of_code (code : KindCode) :
    (r.resolveCode code).map (·.name) = (r.nameOf code).elim (.error (.unknownCode code)) .ok := by
  rw [resolveCode, nameOf]
  cases r.byCode code <;> rfl

/-! ## Whole trees -/

theorem lower_ok_iff_raise_ok : r.lower t = .ok s ↔ r.raise s = .ok t :=
  ⟨Tree.relabel_inverse nameOf_of_codeOf, Tree.relabel_inverse codeOf_of_nameOf⟩

/-- Each node keeps its place, the number of its children and its payload, and gets the code of its name. -/
theorem preorder_of_lower (h : r.lower t = .ok s) :
    (s.preorder 1).map (Node.map some) = (t.preorder 1).map (Node.map r.codeOf) := by
  have hnodes := Tree.preorder_relabel (f := fun name => (r.resolveName name).map (·.code)) 1 t
  have hs : Tree.relabel (fun name => (r.resolveName name).map (·.code)) t = .ok s := h
  rw [hs] at hnodes
  refine Except.map_eq_of_mapM_ok ?_ hnodes.symm
  intro n m hm
  obtain ⟨code, hcode, rfl⟩ := Except.map_ok_iff.1 hm
  rw [Node.map, Node.map, codeOf_of_label hcode]

theorem preorder_of_raise (h : r.raise s = .ok t) :
    (t.preorder 1).map (Node.map some) = (s.preorder 1).map (Node.map r.nameOf) := by
  have hnodes := Tree.preorder_relabel (f := fun code => (r.resolveCode code).map (·.name)) 1 s
  have ht : Tree.relabel (fun code => (r.resolveCode code).map (·.name)) s = .ok t := h
  rw [ht] at hnodes
  refine Except.map_eq_of_mapM_ok ?_ hnodes.symm
  intro n m hm
  obtain ⟨name, hname, rfl⟩ := Except.map_ok_iff.1 hm
  rw [Node.map, Node.map, nameOf_of_label hname]

theorem size_of_lower (h : r.lower t = .ok s) : s.size = t.size := by
  have hlength := congrArg List.length (preorder_of_lower h)
  rwa [List.length_map, List.length_map, Tree.length_preorder, Tree.length_preorder] at hlength

theorem lower_error_iff : r.lower t = .error f ↔ ∃ before n after, t.preorder 1 = before ++ n :: after ∧
    (∀ m ∈ before, r.codeOf m.kind ≠ none) ∧ r.codeOf n.kind = none ∧ f = .unknownKind n.kind := by
  have hknown (name : String) :
      (∃ code, (r.resolveName name).map (·.code) = .ok code) ↔ r.codeOf name ≠ none := by
    rw [label_of_name]
    cases r.codeOf name <;> simp
  have hunknown (name : String) :
      (r.resolveName name).map (·.code) = .error f ↔ r.codeOf name = none ∧ f = .unknownKind name := by
    rw [label_of_name]
    cases r.codeOf name <;> simp [eq_comm]
  rw [lower, Tree.relabel_error_iff]
  simp only [hknown, hunknown]

theorem raise_error_iff : r.raise s = .error f ↔ ∃ before n after, s.preorder 1 = before ++ n :: after ∧
    (∀ m ∈ before, r.nameOf m.kind ≠ none) ∧ r.nameOf n.kind = none ∧ f = .unknownCode n.kind := by
  have hknown (code : KindCode) :
      (∃ name, (r.resolveCode code).map (·.name) = .ok name) ↔ r.nameOf code ≠ none := by
    rw [label_of_code]
    cases r.nameOf code <;> simp
  have hunknown (code : KindCode) :
      (r.resolveCode code).map (·.name) = .error f ↔ r.nameOf code = none ∧ f = .unknownCode code := by
    rw [label_of_code]
    cases r.nameOf code <;> simp [eq_comm]
  rw [raise, Tree.relabel_error_iff]
  simp only [hknown, hunknown]

/-- **Lowering and raising are inverse to each other.** A tree is lowered to the codes exactly if the
codes are raised to the tree, and then both have as many nodes, and in pre-order the same depths,
numbers of children and payloads, with the names and the codes standing for each other. Otherwise
the fault tells of the first node in pre-order whose name, or whose code, the registry lacks. -/
theorem lower_raise (r : Registry) (t : SyntaxTree) (s : CodeTree) :
    (r.lower t = .ok s ↔ r.raise s = .ok t) ∧
      (r.lower t = .ok s → s.size = t.size ∧
        (s.preorder 1).map (Node.map some) = (t.preorder 1).map (Node.map r.codeOf) ∧
        (t.preorder 1).map (Node.map some) = (s.preorder 1).map (Node.map r.nameOf)) ∧
      (∀ f, r.lower t = .error f ↔ ∃ before n after, t.preorder 1 = before ++ n :: after ∧
        (∀ m ∈ before, r.codeOf m.kind ≠ none) ∧ r.codeOf n.kind = none ∧ f = .unknownKind n.kind) ∧
      ∀ f, r.raise s = .error f ↔ ∃ before n after, s.preorder 1 = before ++ n :: after ∧
        (∀ m ∈ before, r.nameOf m.kind ≠ none) ∧ r.nameOf n.kind = none ∧ f = .unknownCode n.kind :=
  ⟨lower_ok_iff_raise_ok,
    fun h => ⟨size_of_lower h, preorder_of_lower h, preorder_of_raise (lower_ok_iff_raise_ok.1 h)⟩,
    fun _ => lower_error_iff, fun _ => raise_error_iff⟩

/-- Two names are not known. The one that is deeper comes first in pre-order. -/
example : (bare .standard).lower
    (.node "Unknown" [.node "Unknown" [.node "Label" [] (some [7])] none, .node "Name" [] none] none) =
      .error (.unknownKind "Label") := by
  rfl

end SyntaxWire.Registry
