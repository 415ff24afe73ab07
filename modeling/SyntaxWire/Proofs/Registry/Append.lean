/-
What a newer registry owes an older one. A registry extends another exactly if
it has all of its triples (`checkExtends_iff_subset`). So extension is
transitive, a triple that is found under its name and its code stays found
under both, and every kind that comes in brings a name of its own
(`card_names_of_checkExtends`). Where triples are lost, the first one in code
order decides (`checkExtends_eq_error_iff`), and `Breach` says what is told
of it.
-/
import Mathlib.Data.Finset.Card
import SyntaxWire.Proofs.Registry.Checksum

namespace SyntaxWire.Registry

variable {r old older : Registry} {k : NodeKind} {f : EvolutionFault}

theorem checkExtends_iff_subset :
    r.checkExtends old = .ok () ↔ old.kinds.map NodeKind.triple ⊆ r.kinds.map NodeKind.triple := by
  rw [checkExtends_eq_ok]
  constructor
  · intro h x hx
    obtain ⟨k, hk, rfl⟩ := List.mem_map.1 hx
    exact keeps_iff.1 (h k hk)
  · intro h k hk
    exact keeps_iff.2 (h (List.mem_map_of_mem hk))

theorem checkExtends_trans (h : r.checkExtends old = .ok ()) (h' : old.checkExtends older = .ok ()) :
    r.checkExtends older = .ok () := by
  rw [checkExtends_iff_subset] at h h' ⊢
  exact List.Subset.trans h' h

/-! ## Lookups -/

/-- The triple is found under its name, and under its code. -/
structure Resolves (r : Registry) (x : KindTriple) : Prop where
  byName : (r.byName x.name).map NodeKind.triple = some x
  byCode : (r.byCode x.code).map NodeKind.triple = some x

theorem resolves_iff {x : KindTriple} : r.Resolves x ↔ x ∈ r.kinds.map NodeKind.triple := by
  constructor
  · intro h
    obtain ⟨k, hk, hx⟩ := Option.map_eq_some_iff.1 h.byName
    exact List.mem_map.2 ⟨k, (byName_eq_some.1 hk).1, hx⟩
  · intro h
    obtain ⟨k, hk, rfl⟩ := List.mem_map.1 h
    have hname : r.byName k.name = some k := byName_eq_some.2 ⟨hk, rfl⟩
    have hcode : r.byCode k.code = some k := byCode_eq_some.2 ⟨hk, rfl⟩
    exact ⟨by simp [NodeKind.triple, hname], by simp [NodeKind.triple, hcode]⟩

theorem Resolves.of_checkExtends (h : r.checkExtends old = .ok ()) {x : KindTriple} (hx : old.Resolves x) :
    r.Resolves x :=
  resolves_iff.2 (checkExtends_iff_subset.1 h (resolves_iff.1 hx))

/-! ## Names -/

def names (r : Registry) : Finset String := (r.kinds.map (·.name)).toFinset

/-- The names that a registry has and another one does not. -/
def namesBeyond (r old : Registry) : Finset String := r.names \ old.names

theorem card_names (r : Registry) : r.names.card = r.size := by
  have hnodup : (r.kinds.map (·.name)).Nodup := List.pairwise_map.2 r.named
  rw [names, List.toFinset_card_of_nodup hnodup, List.length_map, size]

theorem names_subset (h : r.checkExtends old = .ok ()) : old.names ⊆ r.names := by
  intro name hname
  simp only [names, List.mem_toFinset, List.mem_map] at hname ⊢
  obtain ⟨k, hk, rfl⟩ := hname
  obtain ⟨j, hj, hjk, -⟩ := checkExtends_eq_ok.1 h k hk
  exact ⟨j, hj, hjk⟩

/-- The kinds that have come in are counted by their names. -/
theorem card_names_of_checkExtends (h : r.checkExtends old = .ok ()) :
    old.size ≤ r.size ∧ r.size - old.size = (r.namesBeyond old).card := by
  have hsubset := names_subset h
  rw [namesBeyond, Finset.card_sdiff_of_subset hsubset, ← card_names, ← card_names]
  exact ⟨Finset.card_le_card hsubset, rfl⟩

/-! ## Faults -/

/-- What is told of a published kind that a registry does not have: that its code has another name
now, else that its name is gone, else that the name has another code, else that it has another
category. -/
inductive Breach (r : Registry) (k : NodeKind) : EvolutionFault → Prop where
  | reused (j : NodeKind) (hj : j ∈ r.kinds) (hcode : j.code = k.code) (hname : j.name ≠ k.name) :
      Breach r k (.reusedCode k.code k.name j.name)
  | removed (hfree : ∀ j ∈ r.kinds, j.code = k.code → j.name = k.name) (hgone : ∀ j ∈ r.kinds, j.name ≠ k.name) :
      Breach r k (.removedKind k.name)
  | reassigned (hfree : ∀ j ∈ r.kinds, j.code = k.code → j.name = k.name) (j : NodeKind) (hj : j ∈ r.kinds)
      (hname : j.name = k.name) (hcode : j.code ≠ k.code) : Breach r k (.reassignedCode k.name k.code j.code)
  | recategorized (j : NodeKind) (hj : j ∈ r.kinds) (hname : j.name = k.name) (hcode : j.code = k.code)
      (hcategory : j.category ≠ k.category) : Breach r k (.recategorized k.name k.category j.category)

/-- A code that the registry has is reused, unless it is there under the same name. -/
theorem filter_byCode_eq_none :
    ((r.byCode k.code).filter fun now => decide (now.name ≠ k.name)) = none ↔
      ∀ j ∈ r.kinds, j.code = k.code → j.name = k.name := by
  rw [Option.filter_eq_none_iff]
  constructor
  · intro h j hj hcode
    have hsame := h j (byCode_eq_some.2 ⟨hj, hcode⟩)
    simpa using hsame
  · intro h j hj
    obtain ⟨hmem, hcode⟩ := byCode_eq_some.1 hj
    simpa using h j hmem hcode

theorem byName_eq_none {name : String} : r.byName name = none ↔ ∀ j ∈ r.kinds, j.name ≠ name := by
  simp [byName, List.find?_eq_none]

theorem breach_of_breach? (h : r.breach? k = some f) : r.Breach k f := by
  unfold breach? at h
  split at h
  · next now hnow =>
    cases h
    obtain ⟨hcode, hname⟩ := Option.filter_eq_some_iff.1 hnow
    obtain ⟨hmem, hcode⟩ := byCode_eq_some.1 hcode
    exact .reused now hmem hcode (by simpa using hname)
  next hnone =>
  have hfree := filter_byCode_eq_none.1 hnone
  split at h
  · next hgone =>
    cases h
    exact .removed hfree (byName_eq_none.1 hgone)
  next now hnow =>
  obtain ⟨hmem, hname⟩ := byName_eq_some.1 hnow
  split at h
  · next hcode =>
    cases h
    exact .reassigned hfree now hmem hname hcode
  next hcode =>
  split at h
  · next hcategory =>
    cases h
    exact .recategorized now hmem hname (Classical.not_not.1 hcode) hcategory
  · cases h

theorem breach?_of_breach (h : r.Breach k f) : r.breach? k = some f := by
  unfold breach?
  cases h with
  | reused j hj hcode hname =>
    have hfind : (r.byCode k.code).filter (fun now => decide (now.name ≠ k.name)) = some j :=
      Option.filter_eq_some_iff.2 ⟨byCode_eq_some.2 ⟨hj, hcode⟩, decide_eq_true hname⟩
    rw [hfind]
  | removed hfree hgone =>
    rw [filter_byCode_eq_none.2 hfree, byName_eq_none.2 hgone]
  | reassigned hfree j hj hname hcode =>
    rw [filter_byCode_eq_none.2 hfree, byName_eq_some.2 ⟨hj, hname⟩]
    simp [hcode]
  | recategorized j hj hname hcode hcategory =>
    have hfree : ∀ i ∈ r.kinds, i.code = k.code → i.name = k.name := by
      intro i hi hik
      have hij : some i = some j := (byCode_eq_some.2 ⟨hi, hik⟩).symm.trans (byCode_eq_some.2 ⟨hj, hcode⟩)
      rw [Option.some.inj hij, hname]
    rw [filter_byCode_eq_none.2 hfree, byName_eq_some.2 ⟨hj, hname⟩]
    simp [hcode, hcategory]

/-- The kinds in front of another one are those with a smaller code. -/
theorem code_lt_iff_mem {before after : List NodeKind} (h : r.kinds = before ++ k :: after) {j : NodeKind}
    (hj : j ∈ r.kinds) : j.code < k.code ↔ j ∈ before := by
  have hpairwise := r.kinds_ascending
  rw [h, List.pairwise_append, List.pairwise_cons] at hpairwise
  obtain ⟨-, ⟨hafter, -⟩, hbefore⟩ := hpairwise
  rw [h, List.mem_append, List.mem_cons] at hj
  constructor
  · intro hlt
    rcases hj with hj | rfl | hj
    · exact hj
    · exact absurd hlt (UInt32.lt_irrefl _)
    · exact absurd (hafter j hj) (UInt32.lt_asymm hlt)
  · intro hj
    exact hbefore j hj k List.mem_cons_self

theorem breach?_eq_none_iff : r.breach? k = none ↔ k.triple ∈ r.kinds.map NodeKind.triple :=
  breach?_eq_none.trans keeps_iff

/-- The first kind in code order that the registry does not have decides the fault. -/
theorem checkExtends_eq_error_iff :
    r.checkExtends old = .error f ↔ ∃ k ∈ old.kinds, k.triple ∉ r.kinds.map NodeKind.triple ∧
      (∀ j ∈ old.kinds, j.code < k.code → j.triple ∈ r.kinds.map NodeKind.triple) ∧ r.Breach k f := by
  have hfirst : r.checkExtends old = .error f ↔ old.kinds.findSome? r.breach? = some f := by
    unfold checkExtends
    cases old.kinds.findSome? r.breach? <;> simp
  rw [hfirst, List.findSome?_eq_some_iff]
  constructor
  · rintro ⟨before, k, after, hsplit, hk, hbefore⟩
    have hmem : k ∈ old.kinds := by simp [hsplit]
    refine ⟨k, hmem, ?_, ?_, breach_of_breach? hk⟩
    · rw [← breach?_eq_none_iff, hk]
      simp
    · intro j hj hlt
      exact breach?_eq_none_iff.1 (hbefore j ((code_lt_iff_mem hsplit hj).1 hlt))
  · rintro ⟨k, hk, -, hkept, hbreach⟩
    -- The pass reaches the kind: what stands in front of it has a smaller code and is kept.
    obtain ⟨before, after, hsplit⟩ := List.append_of_mem hk
    refine ⟨before, k, after, hsplit, breach?_of_breach hbreach, ?_⟩
    intro j hj
    have hmem : j ∈ old.kinds := by simp [hsplit, hj]
    exact breach?_eq_none_iff.2 (hkept j hmem ((code_lt_iff_mem hsplit hmem).2 hj))

/-- The primitive kinds and a class. -/
def withClass : Registry :=
  (bare .standard).insert ⟨"Class", 2, .decl, .decl⟩ ⟨by decide, by decide⟩ (by decide) (by decide)

/-- A member has the code that was the class's, and the class has moved on. -/
def withMember : Registry :=
  ((bare .standard).insert ⟨"Member", 2, .decl, .decl⟩ ⟨by decide, by decide⟩ (by decide) (by decide)).insert
    ⟨"Class", 3, .decl, .decl⟩ ⟨by decide, by decide⟩ (by decide) (by decide)

/-- A class that is gone, with nothing else under its code. -/
example : (bare .standard).checkExtends withClass = .error (.removedKind "Class") := by
  decide

end SyntaxWire.Registry
