/-
What a built registry holds, and where. A table's kinds can be collected in
the order of its entries and sorted by code once at the end; two maps then
tell the positions of the kinds in the sorted list, under their names and
under their codes (`KindIndex`). No two kinds of a lawful table share a name
or a code, so every position is that of one kind, and looking up through the
maps is looking for the kind (`ofKinds_listed`). With it stands what a table
makes of its entries: one kind for each that declares one, beside the
primitive kinds (`buildWith_represented`).
-/
import Mathlib.Data.List.Perm.Basic
import SyntaxWire.Proofs.Registry.Tables

namespace SyntaxWire

/-- Kinds in a list, with their positions under their names and under their codes. -/
structure KindIndex where
  kinds : List NodeKind
  names : Std.HashMap String Nat
  codes : Std.HashMap KindCode Nat

namespace KindIndex

section Positions

variable {β : Type} [BEq β]

/-- The positions in the list under the keys. Where a key comes again, the later position counts. -/
def positions [Hashable β] (key : NodeKind → β) (ks : List NodeKind) : Std.HashMap β Nat :=
  .ofList (ks.zipIdx.map fun (k, i) => (key k, i))

variable [LawfulBEq β] {key : NodeKind → β} {ks : List NodeKind}

theorem pairwise_zipIdx (h : ks.Pairwise fun j k => key j ≠ key k) :
    (ks.zipIdx.map fun (k, i) => (key k, i)).Pairwise fun a b => (a.1 == b.1) = false := by
  have hkeys : (ks.zipIdx.map Prod.fst).Pairwise fun j k => (key j == key k) = false := by
    rw [List.zipIdx_map_fst]
    exact h.imp fun hne => beq_false_of_ne hne
  rw [List.pairwise_map] at hkeys ⊢
  exact hkeys

variable [Hashable β]

/-- A position under a key is in the list, and what stands there has the key. -/
theorem positions_eq_some_iff (h : ks.Pairwise fun j k => key j ≠ key k) {x : β} {i : Nat} :
    (positions key ks)[x]? = some i ↔ ∃ k, ks[i]? = some k ∧ key k = x := by
  have hfound {k : NodeKind} {i : Nat} (hk : ks[i]? = some k) : (positions key ks)[key k]? = some i := by
    refine Std.HashMap.getElem?_ofList_of_mem BEq.rfl (pairwise_zipIdx h) ?_
    exact List.mem_map_of_mem (List.mk_mem_zipIdx_iff_getElem?.2 hk)
  constructor
  · intro hi
    by_cases hx : ∃ k ∈ ks, key k = x
    · obtain ⟨k, hk, rfl⟩ := hx
      obtain ⟨j, hj⟩ := List.mem_iff_getElem?.1 hk
      obtain rfl := Option.some.inj ((hfound hj).symm.trans hi)
      exact ⟨k, hj, rfl⟩
    · have habsent : ((ks.zipIdx.map fun (k, i) => (key k, i)).map Prod.fst).contains x = false := by
        rw [List.map_map, List.contains_eq_any_beq, List.any_eq_false]
        rintro y hy hxy
        obtain ⟨⟨k, j⟩, hk, rfl⟩ := List.mem_map.1 hy
        exact hx ⟨k, List.mem_of_getElem? (List.mk_mem_zipIdx_iff_getElem?.1 hk), (eq_of_beq hxy).symm⟩
      rw [positions, Std.HashMap.getElem?_ofList_of_contains_eq_false habsent] at hi
      cases hi
  · rintro ⟨k, hk, rfl⟩
    exact hfound hk

theorem lookup_positions (h : ks.Pairwise fun j k => key j ≠ key k) (x : β) :
    ((positions key ks)[x]?.bind fun i => ks[i]?) = ks.find? (key · == x) := by
  ext k
  rw [Registry.find?_key_eq_some h, Option.bind_eq_some_iff]
  constructor
  · rintro ⟨i, hi, hk⟩
    obtain ⟨j, hj, hkey⟩ := (positions_eq_some_iff h).1 hi
    obtain rfl := Option.some.inj (hk.symm.trans hj)
    exact ⟨List.mem_of_getElem? hk, hkey⟩
  · rintro ⟨hk, hkey⟩
    obtain ⟨i, hi⟩ := List.mem_iff_getElem?.1 hk
    exact ⟨i, (positions_eq_some_iff h).2 ⟨k, hi, hkey⟩, hi⟩

end Positions

/-- Sorts the kinds by their codes and notes where they are. -/
def ofKinds (ks : List NodeKind) : KindIndex :=
  let sorted := ks.mergeSort fun j k => decide (j.code ≤ k.code)
  { kinds := sorted
    names := positions (·.name) sorted
    codes := positions (·.code) sorted }

def byName (x : KindIndex) (name : String) : Option NodeKind := x.names[name]?.bind fun i => x.kinds[i]?

def byCode (x : KindIndex) (code : KindCode) : Option NodeKind := x.codes[code]?.bind fun i => x.kinds[i]?

variable {r : Registry} {ks : List NodeKind}

/-- There is one order of the kinds of a registry by code, from whatever order it is made. -/
theorem mergeSort_eq_kinds (h : ks.Perm r.kinds) :
    (ks.mergeSort fun j k => decide (j.code ≤ k.code)) = r.kinds := by
  have hsorted : (ks.mergeSort fun j k => decide (j.code ≤ k.code)).Pairwise fun j k => j.code ≤ k.code := by
    refine (List.pairwise_mergeSort ?_ ?_ ks).imp of_decide_eq_true
    · intro i j k hij hjk
      exact decide_eq_true (UInt32.le_trans (of_decide_eq_true hij) (of_decide_eq_true hjk))
    · intro j k
      rw [Bool.or_eq_true, decide_eq_true_iff, decide_eq_true_iff]
      exact UInt32.le_total j.code k.code
  have hperm := (List.mergeSort_perm ks fun j k => decide (j.code ≤ k.code)).trans h
  refine hperm.eq_of_pairwise ?_ hsorted (r.kinds_ascending.imp UInt32.le_of_lt)
  intro j k hj hk hjk hkj
  have hcode : j.code = k.code := UInt32.le_antisymm hjk hkj
  have hfind := Registry.byCode_eq_some.2 ⟨hperm.mem_iff.1 hj, hcode⟩
  exact Option.some.inj (hfind.symm.trans (Registry.byCode_eq_some.2 ⟨hk, rfl⟩))

theorem ofKinds_of_perm (h : ks.Perm r.kinds) :
    (ofKinds ks).kinds = r.kinds ∧ (∀ name, (ofKinds ks).byName name = r.byName name) ∧
      ∀ code, (ofKinds ks).byCode code = r.byCode code := by
  have hkinds := mergeSort_eq_kinds h
  refine ⟨hkinds, fun name => ?_, fun code => ?_⟩
  · rw [byName, ofKinds]
    dsimp only
    rw [hkinds]
    exact lookup_positions r.named name
  · rw [byCode, ofKinds]
    dsimp only
    rw [hkinds]
    exact lookup_positions r.kinds_pairwise_code code

end KindIndex

namespace TableEntry

variable {l : Layout} {e : TableEntry} {es : List TableEntry} {k : NodeKind}

/-- The kind says what the entry says. An entry without a tag leaves the category to the range. -/
structure Declares (e : TableEntry) (k : NodeKind) : Prop where
  name : k.name = e.name
  code : k.code = e.code
  category : k.category = e.category.getD k.family

theorem declares_of_kind? (h : e.kind? l = some k) : e.Declares k := by
  obtain ⟨hname, hcode⟩ := kind?_eq_some h
  obtain ⟨family, -, h⟩ := Option.bind_eq_some_iff.1 h
  obtain ⟨category, hcategory, rfl⟩ := Option.map_eq_some_iff.1 h
  refine ⟨hname, hcode, ?_⟩
  unfold categoryIn at hcategory
  cases htag : e.category with
  | none =>
    rw [htag] at hcategory
    exact (Option.some.inj hcategory).symm
  | some c =>
    rw [htag] at hcategory
    dsimp only at hcategory
    split at hcategory
    · exact (Option.some.inj hcategory).symm
    · cases hcategory

/-- The kinds in the order in which a table lists them, behind the primitive ones. -/
def listed (l : Layout) (es : List TableEntry) : List NodeKind :=
  NodeKind.primitives ++ (declaring es).filterMap (·.kind? l)

theorem forall₂_kind? (h : ∀ e ∈ es, e.Placed l) : List.Forall₂ Declares es (es.filterMap (·.kind? l)) := by
  induction es with
  | nil => exact .nil
  | cons e es ih =>
    obtain ⟨he, hes⟩ := List.forall_mem_cons.1 h
    obtain ⟨k, hk⟩ := Option.isSome_iff_exists.1 (kind?_isSome.2 he)
    rw [List.filterMap_cons_some hk]
    exact .cons (declares_of_kind? hk) (ih hes)

end TableEntry

namespace Registry

open TableEntry

variable {l : Layout} {t : KindTable} {r : Registry}

theorem listed_perm (h : buildWith l t = .ok r) : (listed l t.entries).Perm r.kinds := by
  have hdeclared := (declared_perm_of_buildWith h).2.filterMap id
  rw [List.filterMap_map, List.filterMap_map] at hdeclared
  have hself : r.declared.filterMap (id ∘ some) = r.declared := List.filterMap_some
  rw [hself] at hdeclared
  exact (hdeclared.symm.append_left NodeKind.primitives)

/-- Lookups go through the maps of positions. -/
theorem ofKinds_listed (h : buildWith l t = .ok r) :
    (KindIndex.ofKinds (listed l t.entries)).kinds = r.kinds ∧
      (∀ name, (KindIndex.ofKinds (listed l t.entries)).byName name = r.byName name) ∧
      ∀ code, (KindIndex.ofKinds (listed l t.entries)).byCode code = r.byCode code :=
  KindIndex.ofKinds_of_perm (listed_perm h)

theorem codeOf_eq_some_iff {name : String} {code : KindCode} :
    r.codeOf name = some code ↔ r.nameOf code = some name := by
  simp only [codeOf, nameOf, Option.map_eq_some_iff, byName_eq_some, byCode_eq_some]
  constructor
  · rintro ⟨k, ⟨hk, hname⟩, hcode⟩
    exact ⟨k, ⟨hk, hcode⟩, hname⟩
  · rintro ⟨k, ⟨hk, hcode⟩, hname⟩
    exact ⟨k, ⟨hk, hname⟩, hcode⟩

theorem mem_declared_of_one_lt {k : NodeKind} (hk : k ∈ r.kinds) (hcode : 1 < k.code) : k ∈ r.declared := by
  refine (List.mem_append.1 hk).resolve_left fun hprimitive => ?_
  have hle : ∀ j ∈ NodeKind.primitives, j.code ≤ 1 := by decide
  exact UInt32.not_le.2 hcode (hle k hprimitive)

/-- **What a built registry holds.** Its kinds come in strictly increasing order of their codes: the
primitive kinds, and one kind for each entry that declares one, none lost and none twice. A lookup
by code or by name finds exactly the kind that is there under it, so names and codes determine each
other, and the lookups are those through the positions in the list that is sorted after all entries
are read. Each declared kind sits in the broad category that the layout has for its code, as a
member or as a collection. -/
theorem buildWith_represented (h : buildWith l t = .ok r) :
    (r.kinds.Pairwise fun j k => j.code < k.code) ∧
      (∃ ks, List.Forall₂ Declares (declaring t.entries) ks ∧ r.kinds.Perm (NodeKind.primitives ++ ks)) ∧
      r.size = 2 + (declaring t.entries).length ∧
      (∀ code k, r.byCode code = some k ↔ k ∈ r.kinds ∧ k.code = code) ∧
      (∀ name k, r.byName name = some k ↔ k ∈ r.kinds ∧ k.name = name) ∧
      (∀ name code, r.codeOf name = some code ↔ r.nameOf code = some name) ∧
      ((KindIndex.ofKinds (listed l t.entries)).kinds = r.kinds ∧
        (∀ name, (KindIndex.ofKinds (listed l t.entries)).byName name = r.byName name) ∧
        ∀ code, (KindIndex.ofKinds (listed l t.entries)).byCode code = r.byCode code) ∧
      ∀ k ∈ r.kinds, 1 < k.code → l.classify k.code = some k.family ∧ k.family.IsBroad ∧
        (k.category = k.family ∨ k.category = .collection) := by
  have hlawful := (buildWith_iff l t).1.1 ⟨r, h⟩
  obtain ⟨hlayout, hperm⟩ := declared_perm_of_buildWith h
  have hlength := hperm.length_eq
  rw [List.length_map, List.length_map] at hlength
  refine ⟨r.kinds_ascending, ⟨_, forall₂_kind? hlawful.placed, (listed_perm h).symm⟩, ?_, fun _ _ => byCode_eq_some,
    fun _ _ => byName_eq_some, fun _ _ => codeOf_eq_some_iff, ofKinds_listed h, ?_⟩
  · rw [size, kinds, List.length_append, hlength]
    rfl
  · intro k hk hcode
    obtain ⟨hfamily, hcategory⟩ := r.fits k (mem_declared_of_one_lt hk hcode)
    rw [hlayout] at hfamily
    obtain ⟨range, hrange, -, hbroad⟩ := Layout.classify_eq_some hfamily
    exact ⟨hfamily, hbroad ▸ (l.valid range hrange).broad, hcategory⟩

/-- The entries of `classTableGrown` do not come in order, and two of them say something of the
primitive kinds. -/
theorem classTableGrown_represented :
    ∃ r, buildWith .standard classTableGrown = .ok r ∧ r.size = 6 ∧
      (r.kinds.Pairwise fun j k => j.code < k.code) ∧
      (KindIndex.ofKinds (listed .standard classTableGrown.entries)).kinds = r.kinds := by
  obtain ⟨r, hr⟩ := (buildWith_iff .standard classTableGrown).1.2 (by decide)
  obtain ⟨hascending, -, hsize, -, -, -, ⟨hkinds, -⟩, -⟩ := buildWith_represented hr
  exact ⟨r, hr, hsize, hascending, hkinds⟩

end Registry

end SyntaxWire
