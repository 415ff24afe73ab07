/-
What a checksum stands for. The bytes that are hashed determine the names,
codes and categories of the kinds with their multiplicity
(`perm_of_checksumInput_eq`): every kind is written so that it can be told
where it ends. They depend on nothing else, neither on the order of the kinds
nor on their families (`checksumInput_eq_of_perm`): the order in which kinds
are written puts equal ones next to each other only.
-/
import SyntaxWire.Proofs.Bytes
import SyntaxWire.Proofs.Registry.Evolution
import SyntaxWire.Proofs.Varint
import SyntaxWire.Registry.Checksum

namespace SyntaxWire

/-- What is told of a kind by its checksum. -/
structure KindTriple where
  name : String
  code : KindCode
  category : Category
deriving DecidableEq

def NodeKind.triple (k : NodeKind) : KindTriple := ⟨k.name, k.code, k.category⟩

namespace KindTriple

def record (x : KindTriple) : Bytes :=
  Varint.encode (Bytes.ofText x.name).length ++ Bytes.ofText x.name ++ Varint.encode x.code.toNat ++ [x.category.tag]

/-- The order in which kinds are hashed. -/
def Le (x y : KindTriple) : Prop :=
  x.name < y.name ∨ x.name = y.name ∧ (x.code < y.code ∨ x.code = y.code ∧ x.category.rank ≤ y.category.rank)

theorem Le.trans {x y z : KindTriple} (hxy : x.Le y) (hyz : y.Le z) : x.Le z := by
  rcases hxy with hxy | ⟨hname, hxy⟩ <;> rcases hyz with hyz | ⟨hname', hyz⟩
  · exact .inl (String.lt_trans hxy hyz)
  · exact .inl (hname' ▸ hxy)
  · exact .inl (hname ▸ hyz)
  refine .inr ⟨hname.trans hname', ?_⟩
  rcases hxy with hxy | ⟨hcode, hxy⟩ <;> rcases hyz with hyz | ⟨hcode', hyz⟩
  · exact .inl (UInt32.lt_trans hxy hyz)
  · exact .inl (hcode' ▸ hxy)
  · exact .inl (hcode ▸ hyz)
  · exact .inr ⟨hcode.trans hcode', Nat.le_trans hxy hyz⟩

theorem Le.total (x y : KindTriple) : x.Le y ∨ y.Le x := by
  by_cases hxy : x.name < y.name
  · exact .inl (.inl hxy)
  by_cases hyx : y.name < x.name
  · exact .inr (.inl hyx)
  have hname : x.name = y.name := String.le_antisymm (String.not_lt.1 hyx) (String.not_lt.1 hxy)
  by_cases hxy' : x.code < y.code
  · exact .inl (.inr ⟨hname, .inl hxy'⟩)
  by_cases hyx' : y.code < x.code
  · exact .inr (.inr ⟨hname.symm, .inl hyx'⟩)
  have hcode : x.code = y.code := UInt32.le_antisymm (UInt32.not_lt.1 hyx') (UInt32.not_lt.1 hxy')
  rcases Nat.le_total x.category.rank y.category.rank with hrank | hrank
  · exact .inl (.inr ⟨hname, .inr ⟨hcode, hrank⟩⟩)
  · exact .inr (.inr ⟨hname.symm, .inr ⟨hcode.symm, hrank⟩⟩)

theorem Le.antisymm {x y : KindTriple} (hxy : x.Le y) (hyx : y.Le x) : x = y := by
  obtain ⟨name, code, category⟩ := x
  obtain ⟨name', code', category'⟩ := y
  rcases hxy with hxy | ⟨hname, hxy⟩ <;> rcases hyx with hyx | ⟨hname', hyx⟩
  · exact absurd hyx (String.lt_asymm hxy)
  · exact absurd (hname' ▸ hxy) (String.lt_irrefl _)
  · exact absurd (hname ▸ hyx) (String.lt_irrefl _)
  obtain rfl : name = name' := hname
  rcases hxy with hxy | ⟨hcode, hxy⟩ <;> rcases hyx with hyx | ⟨hcode', hyx⟩
  · exact absurd hyx (UInt32.lt_asymm hxy)
  · exact absurd (hcode' ▸ hxy) (UInt32.lt_irrefl _)
  · exact absurd (hcode ▸ hyx) (UInt32.lt_irrefl _)
  obtain rfl : code = code' := hcode
  obtain rfl : category = category' := Category.rank_injective (Nat.le_antisymm hxy hyx)
  rfl

/-- A record is told from what follows it. -/
theorem record_append_inj {x y : KindTriple} {s t : Bytes} (h : x.record ++ s = y.record ++ t) : x = y ∧ s = t := by
  simp only [record, List.append_assoc] at h
  obtain ⟨hlength, h⟩ := Varint.encode_append_inj h
  obtain ⟨hname, h⟩ := List.append_inj h hlength
  obtain ⟨hcode, h⟩ := Varint.encode_append_inj h
  obtain ⟨hcategory, rfl⟩ := List.cons.inj h
  obtain ⟨name, code, category⟩ := x
  obtain rfl := Bytes.ofText_injective hname
  obtain rfl := UInt32.toNat_inj.1 hcode
  obtain rfl := Category.tag_injective hcategory
  exact ⟨rfl, rfl⟩

theorem record_ne_nil (x : KindTriple) : x.record ≠ [] := by
  simp [record]

theorem flatMap_record_injective {xs ys : List KindTriple} (h : xs.flatMap record = ys.flatMap record) : xs = ys := by
  induction xs generalizing ys with
  | nil =>
    cases ys with
    | nil => rfl
    | cons y ys => simp [record_ne_nil] at h
  | cons x xs ih =>
    cases ys with
    | nil => simp [record_ne_nil] at h
    | cons y ys =>
      rw [List.flatMap_cons, List.flatMap_cons] at h
      obtain ⟨rfl, hrest⟩ := record_append_inj h
      rw [ih hrest]

end KindTriple

theorem NodeKind.precedes_iff {j k : NodeKind} : j.precedes k = true ↔ j.triple.Le k.triple := by
  unfold precedes
  by_cases hname : j.name = k.name
  · by_cases hcode : j.code = k.code
    · simp [KindTriple.Le, NodeKind.triple, hname, hcode]
    · simp [KindTriple.Le, NodeKind.triple, hname, hcode]
  · simp [KindTriple.Le, NodeKind.triple, hname]

theorem NodeKind.flatMap_record (ks : List NodeKind) :
    ks.flatMap NodeKind.record = (ks.map NodeKind.triple).flatMap KindTriple.record := by
  rw [List.flatMap_map]
  rfl

/-- The triples of kinds in the order in which they are hashed. -/
theorem pairwise_triple_mergeSort (ks : List NodeKind) :
    ((ks.mergeSort NodeKind.precedes).map NodeKind.triple).Pairwise KindTriple.Le := by
  have htrans (i j k : NodeKind) (hij : i.precedes j = true) (hjk : j.precedes k = true) : i.precedes k = true :=
    NodeKind.precedes_iff.2 ((NodeKind.precedes_iff.1 hij).trans (NodeKind.precedes_iff.1 hjk))
  have htotal (j k : NodeKind) : (j.precedes k || k.precedes j) = true := by
    rw [Bool.or_eq_true, NodeKind.precedes_iff, NodeKind.precedes_iff]
    exact KindTriple.Le.total _ _
  rw [List.pairwise_map]
  exact (List.pairwise_mergeSort htrans htotal ks).imp NodeKind.precedes_iff.1

theorem perm_triple_mergeSort (ks : List NodeKind) :
    ((ks.mergeSort NodeKind.precedes).map NodeKind.triple).Perm (ks.map NodeKind.triple) :=
  (List.mergeSort_perm ks NodeKind.precedes).map _

theorem checksumInput_eq_of_perm {ks ls : List NodeKind}
    (h : (ks.map NodeKind.triple).Perm (ls.map NodeKind.triple)) : checksumInput ks = checksumInput ls := by
  have hperm := ((perm_triple_mergeSort ks).trans h).trans (perm_triple_mergeSort ls).symm
  have hsorted := hperm.eq_of_pairwise (fun _ _ _ _ => KindTriple.Le.antisymm) (pairwise_triple_mergeSort ks)
    (pairwise_triple_mergeSort ls)
  rw [checksumInput, checksumInput, NodeKind.flatMap_record, NodeKind.flatMap_record, hsorted]

theorem perm_of_checksumInput_eq {ks ls : List NodeKind} (h : checksumInput ks = checksumInput ls) :
    (ks.map NodeKind.triple).Perm (ls.map NodeKind.triple) := by
  rw [checksumInput, checksumInput, NodeKind.flatMap_record, NodeKind.flatMap_record] at h
  have hsorted := KindTriple.flatMap_record_injective h
  exact (perm_triple_mergeSort ks).symm.trans (hsorted ▸ perm_triple_mergeSort ls)

/-- **The bytes that are hashed stand for the triples of the kinds**, each as many times as it
occurs, whether or not the kinds would make a registry. What the families are does not show. -/
theorem checksumInput_eq_iff (ks ls : List NodeKind) :
    (checksumInput ks = checksumInput ls ↔ (ks.map NodeKind.triple).Perm (ls.map NodeKind.triple)) ∧
      ∀ family : NodeKind → Category,
        checksumInput (ks.map fun k => { k with family := family k }) = checksumInput ks := by
  refine ⟨⟨perm_of_checksumInput_eq, checksumInput_eq_of_perm⟩, fun family => ?_⟩
  have htriples : (ks.map fun k => { k with family := family k }).map NodeKind.triple = ks.map NodeKind.triple := by
    rw [List.map_map]
    rfl
  exact checksumInput_eq_of_perm (.of_eq htriples)

namespace Registry

/-- The two registries have the same names, under the same codes and categories. -/
def SameTriples (r s : Registry) : Prop :=
  ∀ x, x ∈ r.kinds.map NodeKind.triple ↔ x ∈ s.kinds.map NodeKind.triple

variable {r s : Registry}

theorem nodup_triples (r : Registry) : (r.kinds.map NodeKind.triple).Nodup :=
  List.pairwise_map.2 (r.named.imp fun hne h => hne (congrArg KindTriple.name h))

theorem sameTriples_iff_perm : r.SameTriples s ↔ (r.kinds.map NodeKind.triple).Perm (s.kinds.map NodeKind.triple) :=
  (List.perm_ext_iff_of_nodup (nodup_triples r) (nodup_triples s)).symm

theorem keeps_iff {k : NodeKind} : r.Keeps k ↔ k.triple ∈ r.kinds.map NodeKind.triple := by
  rw [List.mem_map]
  refine exists_congr fun j => and_congr_right fun _ => ?_
  simp only [NodeKind.triple, KindTriple.mk.injEq]

/-- Registries with the same triples extend each other. -/
theorem SameTriples.checkExtends (h : r.SameTriples s) : s.checkExtends r = .ok () :=
  checkExtends_eq_ok.2 fun k hk => keeps_iff.2 ((h k.triple).1 (List.mem_map_of_mem hk))

theorem SameTriples.checksum_eq (h : r.SameTriples s) : r.checksum = s.checksum :=
  congrArg Xxh3.hash (checksumInput_eq_of_perm (sameTriples_iff_perm.1 h))

end Registry

end SyntaxWire
