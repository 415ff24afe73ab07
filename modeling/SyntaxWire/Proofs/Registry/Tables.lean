/-
What of a table counts. A registry holds the kinds that the declaring entries
of its table stand for (`declared_perm_of_buildWith`) in the one order of
their codes. So neither the order of the entries counts, nor whether a tag is
written down that follows from the code, nor what is said of the primitive
kinds (`buildWith_respelled`); and a table with more entries makes a registry
with more kinds, among them the old ones as they were (`build_of_sublist`).
The table that a registry is exported as makes that registry again
(`build_toTable`), since its kinds are lawful entries as they stand.
-/
import Mathlib.Data.List.Perm.Basic
import SyntaxWire.Proofs.Handle
import SyntaxWire.Proofs.Registry.Build

namespace SyntaxWire

namespace TableEntry

/-- The entry with its category written down, where its code has one. -/
def spelledOut (l : Layout) (e : TableEntry) : TableEntry :=
  { e with category := e.category.or (l.classify e.code) }

/-- The entries under the codes of the primitive kinds say what is so, once for each kind. -/
structure RestatesOnce (es : List TableEntry) : Prop where
  restates : ∀ e ∈ reserved es, e.Restates
  once : (reserved es).Pairwise fun d e => d.code ≠ e.code

/-- The rules for entries that declare kinds. -/
structure Declarable (l : Layout) (es : List TableEntry) : Prop where
  names : es.Pairwise fun d e => d.name ≠ e.name
  free : ∀ e ∈ es, ∀ k ∈ NodeKind.primitives, k.name ≠ e.name
  codes : es.Pairwise fun d e => d.code ≠ e.code
  placed : ∀ e ∈ es, e.Placed l

variable {l : Layout} {e : TableEntry} {es fs : List TableEntry}

theorem lawful_iff : Lawful l es ↔ RestatesOnce es ∧ Declarable l (declaring es) := by
  constructor
  · intro h
    exact ⟨⟨h.restates, h.once⟩, ⟨h.names, h.free, h.codes, h.placed⟩⟩
  · rintro ⟨h, h'⟩
    exact ⟨h.restates, h.once, h'.names, h'.free, h'.codes, h'.placed⟩

instance : Decidable (RestatesOnce es) :=
  decidable_of_iff ((∀ e ∈ reserved es, e.Restates) ∧ (reserved es).Pairwise fun d e => d.code ≠ e.code)
    ⟨fun h => ⟨h.1, h.2⟩, fun h => ⟨h.restates, h.once⟩⟩

instance : Decidable (Declarable l es) :=
  decidable_of_iff
    ((es.Pairwise fun d e => d.name ≠ e.name) ∧ (∀ e ∈ es, ∀ k ∈ NodeKind.primitives, k.name ≠ e.name) ∧
      (es.Pairwise fun d e => d.code ≠ e.code) ∧ ∀ e ∈ es, e.Placed l)
    ⟨fun h => ⟨h.1, h.2.1, h.2.2.1, h.2.2.2⟩, fun h => ⟨h.names, h.free, h.codes, h.placed⟩⟩

instance : Decidable (Lawful l es) := decidable_of_iff _ lawful_iff.symm

theorem Declarable.perm (h : es.Perm fs) (hes : Declarable l es) : Declarable l fs where
  names := h.pairwise hes.names fun h => h.symm
  free e he := hes.free e (h.mem_iff.2 he)
  codes := h.pairwise hes.codes fun h => h.symm
  placed e he := hes.placed e (h.mem_iff.2 he)

/-- A tag that follows from the code changes nothing. -/
theorem kind?_spelledOut : (e.spelledOut l).kind? l = e.kind? l := by
  unfold kind? spelledOut
  cases l.classify e.code with
  | none => rfl
  | some family => cases htag : e.category <;> simp [categoryIn, htag]

theorem placed_spelledOut : (e.spelledOut l).Placed l ↔ e.Placed l := by
  rw [← kind?_isSome, ← kind?_isSome, kind?_spelledOut]

theorem declarable_spelledOut : Declarable l (es.map (spelledOut l)) ↔ Declarable l es := by
  constructor
  · rintro ⟨hnames, hfree, hcodes, hplaced⟩
    rw [List.pairwise_map] at hnames hcodes
    rw [List.forall_mem_map] at hfree hplaced
    exact ⟨hnames, hfree, hcodes, fun e he => placed_spelledOut.1 (hplaced e he)⟩
  · rintro ⟨hnames, hfree, hcodes, hplaced⟩
    refine ⟨List.pairwise_map.2 hnames, List.forall_mem_map.2 hfree, List.pairwise_map.2 hcodes, ?_⟩
    exact List.forall_mem_map.2 fun e he => placed_spelledOut.2 (hplaced e he)

/-- The entries declare the same, up to their order and to tags that follow from the codes. -/
def SameDeclarations (l : Layout) (es fs : List TableEntry) : Prop :=
  ((declaring es).map (spelledOut l)).Perm ((declaring fs).map (spelledOut l))

instance : Decidable (SameDeclarations l es fs) := by unfold SameDeclarations; infer_instance

theorem SameDeclarations.lawful_iff (h : SameDeclarations l es fs) (hes : RestatesOnce es) (hfs : RestatesOnce fs) :
    Lawful l es ↔ Lawful l fs := by
  have hdeclarable : Declarable l (declaring es) ↔ Declarable l (declaring fs) := by
    rw [← declarable_spelledOut, ← @declarable_spelledOut l (declaring fs)]
    exact ⟨Declarable.perm h, Declarable.perm h.symm⟩
  rw [TableEntry.lawful_iff, TableEntry.lawful_iff, hdeclarable, and_iff_right hes, and_iff_right hfs]

theorem SameDeclarations.kinds_perm (h : SameDeclarations l es fs) :
    ((declaring es).map (·.kind? l)).Perm ((declaring fs).map (·.kind? l)) := by
  have hspelled (es : List TableEntry) : (es.map (spelledOut l)).map (·.kind? l) = es.map (·.kind? l) := by
    rw [List.map_map]
    exact List.map_congr_left fun e _ => kind?_spelledOut
  rw [← hspelled, ← hspelled (declaring fs)]
  exact List.Perm.map _ h

end TableEntry

namespace Registry

open TableEntry

variable {l : Layout} {t u : KindTable} {r s : Registry}

/-- A registry that is built holds what the entries declare. -/
theorem declared_perm_of_buildWith (h : buildWith l t = .ok r) :
    r.layout = l ∧ (r.declared.map some).Perm ((declaring t.entries).map (·.kind? l)) := by
  obtain ⟨s, hs, hlayout, hperm⟩ := buildWith_of_lawful ((buildWith_iff l t).1.1 ⟨r, h⟩)
  rw [h] at hs
  cases hs
  exact ⟨hlayout, hperm⟩

theorem mem_declared_of_buildWith (h : buildWith l t = .ok r) {k : NodeKind} :
    k ∈ r.declared ↔ ∃ e ∈ declaring t.entries, e.kind? l = some k :=
  mem_iff_of_kinds_perm (declared_perm_of_buildWith h).2

/-- The kinds of a registry determine it, since there is one order for them. -/
theorem eq_of_declared_perm (hlayout : r.layout = s.layout) (h : r.declared.Perm s.declared) : r = s := by
  refine ext hlayout (h.eq_of_pairwise ?_ r.ascending s.ascending)
  intro j k _ _ hjk hkj
  exact absurd hkj (UInt32.lt_asymm hjk)

theorem eq_of_sameDeclarations (h : SameDeclarations l t.entries u.entries) (hr : buildWith l t = .ok r)
    (hs : buildWith l u = .ok s) : r = s := by
  obtain ⟨hrl, hr⟩ := declared_perm_of_buildWith hr
  obtain ⟨hsl, hs⟩ := declared_perm_of_buildWith hs
  have hperm := (hr.trans h.kinds_perm).trans hs.symm
  exact eq_of_declared_perm (hrl.trans hsl.symm) ((List.map_perm_map_iff (Option.some_injective _)).1 hperm)

/-- **It does not matter how a table is written down.** Tables that declare the same kinds, in any
order and with or without the tags that follow from the codes, are both built or both refused, also
if only one of them says something of the primitive kinds; and they make one registry. -/
theorem buildWith_respelled (ht : RestatesOnce t.entries) (hu : RestatesOnce u.entries)
    (h : SameDeclarations l t.entries u.entries) :
    ((∃ r, buildWith l t = .ok r) ↔ ∃ s, buildWith l u = .ok s) ∧
      ∀ r s, buildWith l t = .ok r → buildWith l u = .ok s →
        r.kinds = s.kinds ∧ (∀ name, r.byName name = s.byName name) ∧ (∀ code, r.byCode code = s.byCode code) ∧
          r.checksum = s.checksum ∧ r.toTable = s.toTable := by
  refine ⟨?_, fun r s hr hs => ?_⟩
  · rw [(buildWith_iff l t).1, (buildWith_iff l u).1]
    exact h.lawful_iff ht hu
  · obtain rfl := eq_of_sameDeclarations h hr hs
    exact ⟨rfl, fun _ => rfl, fun _ => rfl, rfl, rfl⟩

/-- A class and a collection of classes. -/
def classTable : KindTable where
  entries := [⟨"Token", 0, none⟩, ⟨"Class", 2, none⟩, ⟨"ClassList", 5, some .collection⟩]

/-- The same with the tag of the class and without the token. -/
def classTableRespelled : KindTable where
  entries := [⟨"ClassList", 5, some .collection⟩, ⟨"Class", 2, some .decl⟩]

theorem classTable_respelled :
    RestatesOnce classTable.entries ∧ RestatesOnce classTableRespelled.entries ∧
      SameDeclarations .standard classTable.entries classTableRespelled.entries ∧
      ∃ r s, buildWith .standard classTable = .ok r ∧ buildWith .standard classTableRespelled = .ok s ∧
        r.kinds = s.kinds := by
  have hfirst : RestatesOnce classTable.entries := by decide
  have hsecond : RestatesOnce classTableRespelled.entries := by decide
  have hsame : SameDeclarations .standard classTable.entries classTableRespelled.entries := by decide
  obtain ⟨hbuilt, hequal⟩ := buildWith_respelled hfirst hsecond hsame
  obtain ⟨r, hr⟩ := (buildWith_iff .standard classTable).1.2 (by decide)
  obtain ⟨s, hs⟩ := hbuilt.1 ⟨r, hr⟩
  exact ⟨hfirst, hsecond, hsame, r, s, hr, hs, (hequal r s hr hs).1⟩

/-! ## Further entries -/

theorem kinds_subset_of_sublist (hes : t.entries.Sublist u.entries) (hr : buildWith l t = .ok r)
    (hs : buildWith l u = .ok s) : r.kinds ⊆ s.kinds := by
  intro k hk
  rcases List.mem_append.1 hk with hk | hk
  · exact List.mem_append_left _ hk
  · obtain ⟨e, he, hek⟩ := (mem_declared_of_buildWith hr).1 hk
    have hsub : (declaring t.entries).Sublist (declaring u.entries) := hes.filter _
    exact List.mem_append_right _ ((mem_declared_of_buildWith hs).2 ⟨e, hsub.mem he, hek⟩)

/-- **A table may always grow.** Where entries are added anywhere among those of a table and both
tables are built, under the same ranges, the new registry extends the old one, every name stands
for the kind that it stood for, and a handle on the old registry takes the new one. -/
theorem build_of_sublist (hlayout : u.layout = t.layout) (hes : t.entries.Sublist u.entries)
    (hr : build t = .ok r) (hs : build u = .ok s) :
    s.checkExtends r = .ok () ∧ (∀ name k, r.byName name = some k → s.byName name = some k) ∧
      ∀ (h : Handle) (next : Edition), h.current.registry = r → next.registry = s →
        h.reload next = .ok (h.current, { current := next }) := by
  rw [build, hlayout] at hs
  have hkinds := kinds_subset_of_sublist hes hr hs
  refine ⟨checkExtends_of_subset hkinds, fun name k => byName_of_subset hkinds, ?_⟩
  rintro h next rfl rfl
  exact Handle.reload_of_extends (checkExtends_of_subset hkinds)

/-- An expression, a reserved code and another class among the entries of `classTable`. -/
def classTableGrown : KindTable where
  entries := [⟨"Call", 1001, none⟩, ⟨"Token", 0, none⟩, ⟨"Unknown", 1, some .unclassified⟩, ⟨"Class", 2, none⟩,
    ⟨"Enum", 3, some .decl⟩, ⟨"ClassList", 5, some .collection⟩]

theorem classTable_grown :
    classTableGrown.layout = classTable.layout ∧ classTable.entries.Sublist classTableGrown.entries ∧
      ∃ r s, build classTable = .ok r ∧ build classTableGrown = .ok s ∧ s.checkExtends r = .ok () ∧
        Handle.reload ⟨⟨0, r⟩⟩ ⟨1, s⟩ = .ok (⟨0, r⟩, ⟨⟨1, s⟩⟩) := by
  have hsub : classTable.entries.Sublist classTableGrown.entries := by decide
  obtain ⟨r, hr⟩ := (buildWith_iff .standard classTable).1.2 (by decide)
  obtain ⟨s, hs⟩ := (buildWith_iff .standard classTableGrown).1.2 (by decide)
  obtain ⟨hextends, -, hreload⟩ := build_of_sublist (t := classTable) (u := classTableGrown) rfl hsub hr hs
  exact ⟨rfl, hsub, r, s, hr, hs, hextends, hreload ⟨⟨0, r⟩⟩ ⟨1, s⟩ rfl rfl⟩

end Registry

/-! ## Export -/

namespace TableEntry

variable {l : Layout} {k : NodeKind} {ks : List NodeKind}

/-- The entry that declares a kind, with its category written down. -/
def ofKind (k : NodeKind) : TableEntry := ⟨k.name, k.code, some k.category⟩

theorem kind?_ofKind (h : k.Fits l) : (ofKind k).kind? l = some k := by
  obtain ⟨hfamily, hcategory⟩ := h
  have htag : (ofKind k).categoryIn k.family = some k.category := if_pos hcategory.symm
  rw [kind?, ofKind, hfamily, Option.bind_some]
  exact congrArg (Option.map fun category => (⟨k.name, k.code, category, k.family⟩ : NodeKind)) htag

theorem declaring_ofKind (h : ∀ k ∈ ks, k.Fits l) : declaring (ks.map ofKind) = ks.map ofKind := by
  refine List.filter_eq_self.2 (List.forall_mem_map.2 fun k hk => ?_)
  exact decide_eq_true (h k hk).one_lt

theorem reserved_ofKind (h : ∀ k ∈ ks, k.Fits l) : reserved (ks.map ofKind) = [] := by
  refine List.filter_eq_nil_iff.2 (List.forall_mem_map.2 fun k hk => ?_)
  exact fun hle => UInt32.not_le.2 (h k hk).one_lt (of_decide_eq_true hle)

end TableEntry

namespace Registry

open TableEntry

theorem entries_toTable (r : Registry) : r.toTable.entries = r.declared.map ofKind := rfl

theorem lawful_toTable (r : Registry) : Lawful r.layout r.toTable.entries := by
  obtain ⟨-, hnames, hfree⟩ := List.pairwise_append.1 r.named
  rw [entries_toTable, lawful_iff, declaring_ofKind r.fits]
  refine ⟨⟨?_, ?_⟩, ⟨List.pairwise_map.2 hnames, ?_, ?_, ?_⟩⟩
  · rw [reserved_ofKind r.fits]
    exact List.forall_mem_nil _
  · rw [reserved_ofKind r.fits]
    exact .nil
  · exact List.forall_mem_map.2 fun k hk j hj => hfree j hj k hk
  · exact List.pairwise_map.2 (r.ascending.imp UInt32.ne_of_lt)
  · refine List.forall_mem_map.2 fun k hk => kind?_isSome.1 ?_
    rw [kind?_ofKind (r.fits k hk)]
    rfl

theorem build_toTable (r : Registry) : build r.toTable = .ok r := by
  obtain ⟨s, hs, hlayout, hperm⟩ := buildWith_of_lawful r.lawful_toTable
  have hkinds : (declaring r.toTable.entries).map (·.kind? r.layout) = r.declared.map some := by
    rw [entries_toTable, declaring_ofKind r.fits, List.map_map]
    exact List.map_congr_left fun k hk => kind?_ofKind (r.fits k hk)
  rw [hkinds, List.map_perm_map_iff (Option.some_injective _)] at hperm
  rw [eq_of_declared_perm hlayout hperm] at hs
  exact hs

/-- **Export undoes building.** The table of a registry, which leaves the primitive kinds out and
names the layout and every category, is built, and what it makes is the registry in every respect:
kinds in their order with their families, layout, lookups, checksum and table; each of the two
extends the other. -/
theorem toTable_rebuilt (r : Registry) :
    ∃ s, build r.toTable = .ok s ∧ s.kinds = r.kinds ∧ s.layout = r.layout ∧
      (∀ name, s.byName name = r.byName name) ∧ (∀ code, s.byCode code = r.byCode code) ∧
      s.checksum = r.checksum ∧ s.toTable = r.toTable ∧ s.checkExtends r = .ok () ∧ r.checkExtends s = .ok () :=
  ⟨r, build_toTable r, rfl, rfl, fun _ => rfl, fun _ => rfl, rfl, rfl, checkExtends_self r, checkExtends_self r⟩

end Registry

end SyntaxWire
