/-
Families across an evolution. What a newer registry owes an older one is a
matter of triples, and the family of a kind is none of their parts. It follows
from the layout alone (`family_eq`): the family is the category of the range
that has the code, and the primitive kinds have no range. A category other than
that of collections is the family, so a kind that is no collection is found in
a newer registry just as it was published. A collection is found with the
family that the newer layout gives to its code (`byName_of_checkExtends`).
-/
import SyntaxWire.Proofs.Registry.Tables

namespace SyntaxWire.Registry

variable {r current next : Registry} {j k : NodeKind}

theorem mem_kinds : k ∈ r.kinds ↔ k ∈ NodeKind.primitives ∨ k ∈ r.declared := List.mem_append

theorem classify_primitive (hk : k ∈ NodeKind.primitives) : r.layout.classify k.code = none :=
  Layout.classify_reserved ((by decide : ∀ k ∈ NodeKind.primitives, k.code ≤ 1) k hk)

/-- The layout of a registry decides the families of its kinds. -/
theorem family_eq (hk : k ∈ r.kinds) : k.family = (r.layout.classify k.code).getD .unclassified := by
  rcases mem_kinds.1 hk with hk | hk
  · rw [classify_primitive hk]
    exact (by decide : ∀ k ∈ NodeKind.primitives, k.family = .unclassified) k hk
  · rw [(r.fits k hk).1]
    rfl

theorem category_eq_family_or (hk : k ∈ r.kinds) : k.category = k.family ∨ k.category = .collection := by
  rcases mem_kinds.1 hk with hk | hk
  · exact .inl ((by decide : ∀ k ∈ NodeKind.primitives, k.category = k.family) k hk)
  · exact (r.fits k hk).2

theorem family_of_category_ne (hk : k ∈ r.kinds) (hc : k.category ≠ .collection) : k.family = k.category :=
  ((category_eq_family_or hk).resolve_right hc).symm

/-- A code is unclassified only if it is that of a primitive kind, in every registry that has it. -/
theorem classify_eq_iff_family_eq (hj : j ∈ next.kinds) (hk : k ∈ current.kinds) (hcode : j.code = k.code) :
    next.layout.classify k.code = current.layout.classify k.code ↔ j.family = k.family := by
  constructor
  · intro h
    rw [family_eq hj, family_eq hk, hcode, h]
  · intro h
    rcases mem_kinds.1 hk with hk | hk
    · rw [classify_primitive hk, classify_primitive hk]
    rcases mem_kinds.1 hj with hj | hj
    · rw [← hcode, classify_primitive hj, classify_primitive hj]
    · rw [← hcode, (next.fits j hj).1, h, hcode, (current.fits k hk).1]

theorem eq_of_family_eq (hname : j.name = k.name) (hcode : j.code = k.code) (hcategory : j.category = k.category)
    (hfamily : j.family = k.family) : j = k := by
  cases j; cases k
  simp only [NodeKind.mk.injEq]
  exact ⟨hname, hcode, hcategory, hfamily⟩

/-- **An accepted evolution keeps published kinds, but for the families of collections.** A reload
takes a registry that extends the current one, and it has each of the published kinds under the same
name, code and category. The family is the one that the newer layout gives to the code. A kind that
is no collection is found just as it was, and any kind is, exactly if the two layouts classify its
code alike. -/
theorem byName_of_checkExtends (h : next.checkExtends current = .ok ()) :
    (∀ n m, Handle.reload ⟨n, current⟩ ⟨m, next⟩ = .ok (⟨n, current⟩, ⟨m, next⟩)) ∧
    ∀ k ∈ current.kinds, ∃ j, next.byName k.name = some j ∧
      j.name = k.name ∧ j.code = k.code ∧ j.category = k.category ∧
      j.family = (next.layout.classify k.code).getD .unclassified ∧
      (k.category ≠ .collection → j = k) ∧
      (j = k ↔ next.layout.classify k.code = current.layout.classify k.code) := by
  refine ⟨fun n m => Handle.reload_of_extends h, fun k hk => ?_⟩
  obtain ⟨j, hj, hname, hcode, hcategory⟩ := checkExtends_eq_ok.1 h k hk
  refine ⟨j, byName_eq_some.2 ⟨hj, hname⟩, hname, hcode, hcategory, hcode ▸ family_eq hj, fun hc => ?_, ?_⟩
  · have hfamily : j.family = k.family := by
      rw [family_of_category_ne hj (hcategory ▸ hc), family_of_category_ne hk hc, hcategory]
    exact eq_of_family_eq hname hcode hcategory hfamily
  · rw [classify_eq_iff_family_eq hj hk hcode]
    exact ⟨fun hjk => hjk ▸ rfl, eq_of_family_eq hname hcode hcategory⟩

/-- A layout in which expressions have the codes that declarations have in the standard one. -/
def expressionLayout : Layout where
  ranges := [⟨.expr, 2, 1000⟩]
  valid r hr := CategoryRange.fault?_eq_none.1 (by
    simp only [List.mem_cons, List.not_mem_nil, or_false] at hr
    subst hr
    decide)
  apart := by decide

/-- A collection of declarations. -/
def withDeclList : Registry :=
  (bare .standard).insert ⟨"List", 5, .collection, .decl⟩ ⟨by decide, by decide⟩ (by decide) (by decide)

/-- The same triples, with a collection of expressions. -/
def withExprList : Registry :=
  (bare expressionLayout).insert ⟨"List", 5, .collection, .expr⟩ ⟨by decide, by decide⟩ (by decide) (by decide)

/-- A table that gives its collection to another range is taken by a reload, and the collection has
changed its family. -/
theorem family_of_list_changes :
    ¬ ∀ (t u : KindTable) (current next : Registry), build t = .ok current → build u = .ok next →
      next.checkExtends current = .ok () → ∀ k ∈ current.kinds, next.byName k.name = some k := by
  intro h
  have hextends : withExprList.checkExtends withDeclList = .ok () := by decide
  have hlist := h _ _ withDeclList withExprList (build_toTable _) (build_toTable _) hextends
  exact absurd (hlist ⟨"List", 5, .collection, .decl⟩ (by decide)) (by decide)

/-- The collection is found, with the family that the newer layout gives to its code. -/
theorem list_found_in_withExprList :
    Handle.reload ⟨0, withDeclList⟩ ⟨1, withExprList⟩ = .ok (⟨0, withDeclList⟩, ⟨1, withExprList⟩) ∧
    ∃ j, withExprList.byName "List" = some j ∧ j.category = .collection ∧ j.family = .expr := by
  have hextends : withExprList.checkExtends withDeclList = .ok () := by decide
  obtain ⟨hreload, hkinds⟩ := byName_of_checkExtends hextends
  obtain ⟨j, hj, -, -, hcategory, hfamily, -, -⟩ := hkinds ⟨"List", 5, .collection, .decl⟩ (by decide)
  exact ⟨hreload 0 1, j, hj, hcategory, hfamily⟩

end SyntaxWire.Registry
