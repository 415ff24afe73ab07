/-
Append-only evolution as a matter of lookups: a registry extends an older one
exactly if it keeps each of its kinds, under the same name, code and
category (`checkExtends_eq_ok`). Names and codes of the older registry then
resolve alike in both.
-/
import SyntaxWire.Proofs.Registry.Lookup
import SyntaxWire.Registry.Evolution

namespace SyntaxWire.Registry

/-- The registry has a kind of the same name, code and category. -/
def Keeps (r : Registry) (k : NodeKind) : Prop :=
  ∃ j ∈ r.kinds, j.name = k.name ∧ j.code = k.code ∧ j.category = k.category

theorem keeps_of_mem {r : Registry} {k : NodeKind} (h : k ∈ r.kinds) : r.Keeps k :=
  ⟨k, h, rfl, rfl, rfl⟩

theorem breach?_eq_none {r : Registry} {k : NodeKind} : r.breach? k = none ↔ r.Keeps k := by
  unfold breach?
  constructor
  · intro h
    split at h
    · cases h
    next hcode =>
    split at h
    · cases h
    next now hname =>
    obtain ⟨hmem, hnow⟩ := byName_eq_some.1 hname
    split at h
    · cases h
    next hsame =>
    split at h
    · cases h
    next hcategory => exact ⟨now, hmem, hnow, Classical.not_not.1 hsame, Classical.not_not.1 hcategory⟩
  · rintro ⟨j, hj, hname, hcode, hcategory⟩
    have hbyCode : r.byCode k.code = some j := byCode_eq_some.2 ⟨hj, hcode⟩
    have hbyName : r.byName k.name = some j := byName_eq_some.2 ⟨hj, hname⟩
    simp only [hbyCode, Option.filter, hname, hbyName, hcode, hcategory]
    simp

theorem checkExtends_eq_ok {r old : Registry} : r.checkExtends old = .ok () ↔ ∀ k ∈ old.kinds, r.Keeps k := by
  unfold checkExtends
  cases hbreach : old.kinds.findSome? r.breach? with
  | none =>
    simp only [true_iff]
    intro k hk
    exact breach?_eq_none.1 (List.findSome?_eq_none_iff.1 hbreach k hk)
  | some f =>
    simp only [reduceCtorEq, false_iff]
    intro hkeeps
    obtain ⟨k, hk, hf⟩ := List.exists_of_findSome?_eq_some hbreach
    rw [breach?_eq_none.2 (hkeeps k hk)] at hf
    cases hf

theorem checkExtends_of_subset {r old : Registry} (h : old.kinds ⊆ r.kinds) : r.checkExtends old = .ok () :=
  checkExtends_eq_ok.2 fun _ hk => keeps_of_mem (h hk)

theorem checkExtends_self (r : Registry) : r.checkExtends r = .ok () :=
  checkExtends_of_subset (List.Subset.refl _)

/-- A registry extends the one it was made from by a further kind. -/
theorem checkExtends_insert {r : Registry} {k : NodeKind} {hfits hname hcode} :
    (r.insert k hfits hname hcode).checkExtends r = .ok () :=
  checkExtends_of_subset fun _ hj => mem_kinds_insert.2 (.inr hj)

end SyntaxWire.Registry
