/-
Which tables make a registry. `Lawful` says in plain words what the entries
of a table have to be under a layout, and `TableEntry.fault?` what an entry
breaks that comes after given ones. A draft holds what the entries read so
far declare (`Draft.Tracks`), so building succeeds exactly on lawful entries,
and otherwise the first entry that breaks a rule decides (`buildWith_iff`).
-/
import Mathlib.Data.List.Induction
import SyntaxWire.Proofs.Except
import SyntaxWire.Proofs.Layout
import SyntaxWire.Proofs.Registry.Lookup
import SyntaxWire.Registry.Build

namespace SyntaxWire

namespace TableEntry

/-- The entry says of a primitive kind what is so. -/
def Restates (e : TableEntry) : Prop :=
  (∃ k ∈ NodeKind.primitives, k.name = e.name ∧ k.code = e.code) ∧
    (e.category = none ∨ e.category = some .unclassified)

/-- A range of the layout has the code, and the tag, if there is one, is that of the range or says
that the kind is a collection. -/
def Placed (l : Layout) (e : TableEntry) : Prop :=
  ∃ r ∈ l.ranges, e.code ∈ r ∧
    (e.category = none ∨ e.category = some .collection ∨ e.category = some r.category)

instance (e : TableEntry) : Decidable e.Restates := by unfold Restates; infer_instance

instance (l : Layout) (e : TableEntry) : Decidable (e.Placed l) := by unfold Placed; infer_instance

/-- The entries that declare kinds beside the primitive ones. -/
def declaring (es : List TableEntry) : List TableEntry := es.filter fun e => decide (1 < e.code)

/-- The entries under the codes of the primitive kinds. -/
def reserved (es : List TableEntry) : List TableEntry := es.filter fun e => decide (e.code ≤ 1)

/-- A primitive kind or an earlier entry has the name. -/
def NameTaken (before : List TableEntry) (e : TableEntry) : Prop :=
  (∃ k ∈ NodeKind.primitives, k.name = e.name) ∨ ∃ d ∈ declaring before, d.name = e.name

/-- An earlier entry has the code. -/
def CodeTaken (before : List TableEntry) (e : TableEntry) : Prop := ∃ d ∈ before, d.code = e.code

instance (before : List TableEntry) (e : TableEntry) : Decidable (e.NameTaken before) := by
  unfold NameTaken; infer_instance

instance (before : List TableEntry) (e : TableEntry) : Decidable (e.CodeTaken before) := by
  unfold CodeTaken; infer_instance

/-- The first rule that an entry breaks after the entries before it. -/
def fault? (l : Layout) (before : List TableEntry) (e : TableEntry) : Option BuildFault :=
  if e.code ≤ 1 then
    if ¬ e.Restates then some (.reservedCode e.code)
    else if e.CodeTaken before then some (.duplicateName e.name)
    else none
  else if e.NameTaken before then some (.duplicateName e.name)
  else if e.CodeTaken before then some (.duplicateCode e.code)
  else if e.Placed l then none
  else match e.category with
    | none => some (.unclassifiedCode e.name e.code)
    | some c => some (.rangeViolation e.name e.code c)

/-- The rules for the entries of a table under a layout. -/
structure Lawful (l : Layout) (es : List TableEntry) : Prop where
  /-- The codes of the primitive kinds are theirs, and each is restated once at most. -/
  restates : ∀ e ∈ reserved es, e.Restates
  once : (reserved es).Pairwise fun d e => d.code ≠ e.code
  names : (declaring es).Pairwise fun d e => d.name ≠ e.name
  free : ∀ e ∈ declaring es, ∀ k ∈ NodeKind.primitives, k.name ≠ e.name
  codes : (declaring es).Pairwise fun d e => d.code ≠ e.code
  placed : ∀ e ∈ declaring es, e.Placed l

variable {l : Layout} {before : List TableEntry} {e : TableEntry}

theorem reserved_concat_of_le (h : e.code ≤ 1) :
    reserved (before ++ [e]) = reserved before ++ [e] ∧ declaring (before ++ [e]) = declaring before := by
  have h' : ¬ 1 < e.code := UInt32.not_lt.2 h
  simp [reserved, declaring, h, h']

theorem declaring_concat_of_lt (h : 1 < e.code) :
    declaring (before ++ [e]) = declaring before ++ [e] ∧ reserved (before ++ [e]) = reserved before := by
  have h' : ¬ e.code ≤ 1 := UInt32.not_le.2 h
  simp [reserved, declaring, h, h']

/-- For a code of a class of codes only the entries of this class count. -/
theorem codeTaken_iff_filter {p : KindCode → Bool} (h : p e.code = true) :
    e.CodeTaken before ↔ ∃ d ∈ before.filter fun d => p d.code, d.code = e.code := by
  simp only [CodeTaken, List.mem_filter]
  constructor
  · rintro ⟨d, hd, hcode⟩
    exact ⟨d, ⟨hd, hcode ▸ h⟩, hcode⟩
  · rintro ⟨d, ⟨hd, -⟩, hcode⟩
    exact ⟨d, hd, hcode⟩

theorem codeTaken_iff_reserved (h : e.code ≤ 1) : e.CodeTaken before ↔ ∃ d ∈ reserved before, d.code = e.code :=
  @codeTaken_iff_filter before e (fun c => decide (c ≤ 1)) (decide_eq_true h)

theorem codeTaken_iff_declaring (h : 1 < e.code) : e.CodeTaken before ↔ ∃ d ∈ declaring before, d.code = e.code :=
  @codeTaken_iff_filter before e (fun c => decide (1 < c)) (decide_eq_true h)

theorem fault?_eq_none_of_le (h : e.code ≤ 1) : e.fault? l before = none ↔ e.Restates ∧ ¬ e.CodeTaken before := by
  rw [fault?, if_pos h]
  by_cases hr : e.Restates <;> by_cases hc : e.CodeTaken before <;> simp [hr, hc]

theorem fault?_eq_none_of_lt (h : 1 < e.code) :
    e.fault? l before = none ↔ ¬ e.NameTaken before ∧ ¬ e.CodeTaken before ∧ e.Placed l := by
  rw [fault?, if_neg (UInt32.not_le.2 h)]
  by_cases hn : e.NameTaken before
  · simp [hn]
  by_cases hc : e.CodeTaken before
  · simp [hn, hc]
  by_cases hp : e.Placed l
  · simp [hn, hc, hp]
  · cases e.category <;> simp [hn, hc, hp]

theorem pairwise_concat {α : Type} {R : α → α → Prop} {as : List α} {a : α} :
    (as ++ [a]).Pairwise R ↔ as.Pairwise R ∧ ∀ b ∈ as, R b a := by
  simp only [List.pairwise_append, List.pairwise_singleton, List.mem_singleton, forall_eq, true_and]

theorem forall_mem_concat {α : Type} {P : α → Prop} {as : List α} {a : α} :
    (∀ b ∈ as ++ [a], P b) ↔ (∀ b ∈ as, P b) ∧ P a := by
  rw [List.forall_mem_append, List.forall_mem_singleton]

theorem lawful_concat_of_le (h : e.code ≤ 1) :
    Lawful l (before ++ [e]) ↔ Lawful l before ∧ e.Restates ∧ ¬ e.CodeTaken before := by
  obtain ⟨hreserved, hdeclaring⟩ := @reserved_concat_of_le before e h
  rw [codeTaken_iff_reserved h]
  constructor
  · rintro ⟨hrestates, honce, hnames, hfree, hcodes, hplaced⟩
    rw [hreserved, forall_mem_concat] at hrestates
    rw [hreserved, pairwise_concat] at honce
    rw [hdeclaring] at hnames hfree hcodes hplaced
    refine ⟨⟨hrestates.1, honce.1, hnames, hfree, hcodes, hplaced⟩, hrestates.2, ?_⟩
    rintro ⟨d, hd, hcode⟩
    exact honce.2 d hd hcode
  · rintro ⟨⟨hrestates, honce, hnames, hfree, hcodes, hplaced⟩, he, htaken⟩
    rw [← hdeclaring] at hnames hfree hcodes hplaced
    refine ⟨?_, ?_, hnames, hfree, hcodes, hplaced⟩
    · rw [hreserved, forall_mem_concat]
      exact ⟨hrestates, he⟩
    · rw [hreserved, pairwise_concat]
      exact ⟨honce, fun d hd hcode => htaken ⟨d, hd, hcode⟩⟩

theorem lawful_concat_of_lt (h : 1 < e.code) :
    Lawful l (before ++ [e]) ↔ Lawful l before ∧ ¬ e.NameTaken before ∧ ¬ e.CodeTaken before ∧ e.Placed l := by
  obtain ⟨hdeclaring, hreserved⟩ := @declaring_concat_of_lt before e h
  rw [codeTaken_iff_declaring h]
  constructor
  · rintro ⟨hrestates, honce, hnames, hfree, hcodes, hplaced⟩
    rw [hreserved] at hrestates honce
    rw [hdeclaring, pairwise_concat] at hnames hcodes
    rw [hdeclaring, forall_mem_concat] at hfree hplaced
    refine ⟨⟨hrestates, honce, hnames.1, hfree.1, hcodes.1, hplaced.1⟩, ?_, ?_, hplaced.2⟩
    · rintro (⟨k, hk, hname⟩ | ⟨d, hd, hname⟩)
      · exact hfree.2 k hk hname
      · exact hnames.2 d hd hname
    · rintro ⟨d, hd, hcode⟩
      exact hcodes.2 d hd hcode
  · rintro ⟨⟨hrestates, honce, hnames, hfree, hcodes, hplaced⟩, hname, hcode, he⟩
    rw [← hreserved] at hrestates honce
    refine ⟨hrestates, honce, ?_, ?_, ?_, ?_⟩
    · rw [hdeclaring, pairwise_concat]
      exact ⟨hnames, fun d hd hdname => hname (.inr ⟨d, hd, hdname⟩)⟩
    · rw [hdeclaring, forall_mem_concat]
      exact ⟨hfree, fun k hk hkname => hname (.inl ⟨k, hk, hkname⟩)⟩
    · rw [hdeclaring, pairwise_concat]
      exact ⟨hcodes, fun d hd hdcode => hcode ⟨d, hd, hdcode⟩⟩
    · rw [hdeclaring, forall_mem_concat]
      exact ⟨hplaced, he⟩

/-- One more entry: the rules hold on, unless the entry breaks one. -/
theorem lawful_concat : Lawful l (before ++ [e]) ↔ Lawful l before ∧ e.fault? l before = none := by
  by_cases h : e.code ≤ 1
  · rw [fault?_eq_none_of_le h, lawful_concat_of_le h]
  · have h := UInt32.not_le.1 h
    rw [fault?_eq_none_of_lt h, lawful_concat_of_lt h]

theorem lawful_nil : Lawful l [] := by
  refine ⟨?_, .nil, .nil, ?_, .nil, ?_⟩ <;> exact fun _ h => nomatch h

/-- Entries that break a rule have a first one that does. -/
theorem exists_fault_of_not_lawful {es : List TableEntry} (h : ¬ Lawful l es) :
    ∃ before e after f, es = before ++ e :: after ∧ Lawful l before ∧ e.fault? l before = some f := by
  induction es using List.reverseRecOn with
  | nil => exact absurd lawful_nil h
  | append_singleton es e ih =>
    by_cases hes : Lawful l es
    · have hfault : e.fault? l es ≠ none := fun hnone => h (lawful_concat.2 ⟨hes, hnone⟩)
      obtain ⟨f, hf⟩ := Option.ne_none_iff_exists'.1 hfault
      exact ⟨es, e, [], f, rfl, hes, hf⟩
    · obtain ⟨before, d, after, f, rfl, hbefore, hf⟩ := ih hes
      exact ⟨before, d, after ++ [e], f, by simp, hbefore, hf⟩

/-! ## The kind that an entry declares -/

/-- The kind that an entry declares under a layout, if a range takes it. -/
def kind? (l : Layout) (e : TableEntry) : Option NodeKind :=
  (l.classify e.code).bind fun family =>
    (e.categoryIn family).map fun category => ⟨e.name, e.code, category, family⟩

theorem kind?_eq_some {k : NodeKind} (h : e.kind? l = some k) : k.name = e.name ∧ k.code = e.code := by
  obtain ⟨family, -, h⟩ := Option.bind_eq_some_iff.1 h
  obtain ⟨category, -, rfl⟩ := Option.map_eq_some_iff.1 h
  exact ⟨rfl, rfl⟩

/-- Where entries and kinds correspond in number, they correspond in kind. -/
theorem mem_iff_of_kinds_perm {es : List TableEntry} {ks : List NodeKind}
    (h : (ks.map some).Perm (es.map (·.kind? l))) {k : NodeKind} : k ∈ ks ↔ ∃ e ∈ es, e.kind? l = some k := by
  have hmem := @List.Perm.mem_iff _ (some k) _ _ h
  simpa only [List.mem_map, Option.some.injEq, exists_eq_right] using hmem

theorem categoryIn_isSome {family : Category} : (e.categoryIn family).isSome = true ↔
    e.category = none ∨ e.category = some .collection ∨ e.category = some family := by
  unfold categoryIn
  cases e.category with
  | none => simp
  | some c =>
    by_cases hc : c = .collection ∨ c = family <;> simp [hc]

theorem kind?_isSome : (e.kind? l).isSome = true ↔ e.Placed l := by
  have hkind : (e.kind? l).isSome = true ↔
      ∃ family, l.classify e.code = some family ∧ (e.categoryIn family).isSome = true := by
    rw [kind?]
    cases l.classify e.code <;> simp
  rw [hkind]
  constructor
  · rintro ⟨family, hfamily, htag⟩
    obtain ⟨r, hr, hcode, rfl⟩ := Layout.classify_eq_some hfamily
    exact ⟨r, hr, hcode, categoryIn_isSome.1 htag⟩
  · rintro ⟨r, hr, hcode, htag⟩
    exact ⟨r.category, Layout.classify_eq_some_iff.2 ⟨r, hr, hcode, rfl⟩, categoryIn_isSome.2 htag⟩

theorem kindIn_eq : (e.kindIn l).map (·.1) = (e.kind? l).elim (.error e.misplaced) .ok := by
  unfold kindIn
  split
  · next h => rw [kind?, h]; rfl
  · next family h =>
    split
    · next hc => rw [kind?, h, Option.bind_some, hc]; rfl
    · next category hc =>
      have hkind : e.kind? l = some ⟨e.name, e.code, category, family⟩ := by
        rw [kind?, h, Option.bind_some, hc]
        rfl
      rw [hkind]
      rfl

theorem restates_iff : e.restates = true ↔ e.Restates := by
  simp only [restates, Restates, List.any_eq_true, Bool.and_eq_true, Bool.or_eq_true, beq_iff_eq,
    Option.isNone_iff_eq_none]
  constructor
  · rintro ⟨k, hk, ⟨hcode, hname⟩, htag⟩
    exact ⟨⟨k, hk, hname, hcode⟩, htag⟩
  · rintro ⟨⟨k, hk, hname, hcode⟩, htag⟩
    exact ⟨k, hk, ⟨hcode, hname⟩, htag⟩

end TableEntry

namespace Registry

variable {r : Registry} {e : TableEntry}

theorem enter_placed {k : NodeKind} (hname : ¬ ∃ j ∈ r.kinds, j.name = e.name)
    (hcode : ¬ ∃ j ∈ r.kinds, j.code = e.code) (hk : e.kind? r.layout = some k) :
    ∃ s, r.enter e = .ok s ∧ s.layout = r.layout ∧ s.declared = place k r.declared := by
  have hkind := @TableEntry.kindIn_eq r.layout e
  rw [hk] at hkind
  obtain ⟨⟨k', hfits, hkname, hkcode⟩, hin, rfl⟩ := Except.map_ok_iff.1 hkind
  rw [enter, dif_neg hname, dif_neg hcode, hin]
  exact ⟨_, rfl, rfl, rfl⟩

theorem enter_misplaced (hname : ¬ ∃ j ∈ r.kinds, j.name = e.name) (hcode : ¬ ∃ j ∈ r.kinds, j.code = e.code)
    (hp : ¬ e.Placed r.layout) : r.enter e = .error e.misplaced := by
  have hkind := @TableEntry.kindIn_eq r.layout e
  rw [← TableEntry.kind?_isSome, Option.not_isSome_iff_eq_none] at hp
  rw [hp] at hkind
  rw [enter, dif_neg hname, dif_neg hcode]
  cases hin : e.kindIn r.layout with
  | ok p => rw [hin] at hkind; cases hkind
  | error f => rw [hin] at hkind; cases hkind; rfl

end Registry

namespace Draft

open TableEntry

/-- The draft holds what the entries declare and which primitive codes they restate. -/
structure Tracks (l : Layout) (es : List TableEntry) (d : Draft) : Prop where
  layout : d.registry.layout = l
  declared : (d.registry.declared.map some).Perm ((declaring es).map (·.kind? l))
  restated : ∀ code, code ∈ d.restated ↔ ∃ e ∈ reserved es, e.code = code

variable {l : Layout} {es : List TableEntry} {d : Draft} {e : TableEntry}

theorem tracks_bare : Tracks l [] { registry := Registry.bare l } :=
  ⟨rfl, .nil, fun _ => iff_of_false nofun fun ⟨_, h, _⟩ => nomatch h⟩

theorem Tracks.mem_declared (h : d.Tracks l es) {k : NodeKind} :
    k ∈ d.registry.declared ↔ ∃ e ∈ declaring es, e.kind? l = some k :=
  mem_iff_of_kinds_perm h.declared

theorem Tracks.exists_kind (h : d.Tracks l es) (he : e ∈ declaring es) : ∃ k, e.kind? l = some k := by
  have hmem := h.declared.mem_iff.2 (List.mem_map_of_mem he)
  obtain ⟨k, -, hk⟩ := List.mem_map.1 hmem
  exact ⟨k, hk.symm⟩

theorem Tracks.exists_mem_kinds (h : d.Tracks l es) {β : Type} {key : NodeKind → β} {key' : TableEntry → β}
    (hkey : ∀ {e k}, e.kind? l = some k → key k = key' e) {x : β} :
    (∃ j ∈ d.registry.kinds, key j = x) ↔
      (∃ k ∈ NodeKind.primitives, key k = x) ∨ ∃ e ∈ declaring es, key' e = x := by
  simp only [Registry.kinds, List.mem_append, or_and_right, exists_or]
  refine or_congr_right ⟨?_, ?_⟩
  · rintro ⟨k, hk, rfl⟩
    obtain ⟨e, he, hek⟩ := h.mem_declared.1 hk
    exact ⟨e, he, (hkey hek).symm⟩
  · rintro ⟨e, he, rfl⟩
    obtain ⟨k, hk⟩ := h.exists_kind he
    exact ⟨k, h.mem_declared.2 ⟨e, he, hk⟩, hkey hk⟩

theorem Tracks.nameTaken_iff (h : d.Tracks l es) :
    (∃ j ∈ d.registry.kinds, j.name = e.name) ↔ e.NameTaken es :=
  h.exists_mem_kinds fun hk => (kind?_eq_some hk).1

theorem Tracks.codeTaken_iff (h : d.Tracks l es) (he : 1 < e.code) :
    (∃ j ∈ d.registry.kinds, j.code = e.code) ↔ e.CodeTaken es := by
  have hprimitive : ¬ ∃ k ∈ NodeKind.primitives, k.code = e.code := by
    have hle : ∀ k ∈ NodeKind.primitives, k.code ≤ 1 := by decide
    rintro ⟨k, hk, hcode⟩
    exact UInt32.not_lt.2 (hle k hk) (hcode ▸ he)
  rw [codeTaken_iff_declaring he, h.exists_mem_kinds fun hk => (kind?_eq_some hk).2]
  exact or_iff_right hprimitive

/-! ## One entry -/

theorem Tracks.restated_iff (h : d.Tracks l es) (he : e.code ≤ 1) : e.code ∈ d.restated ↔ e.CodeTaken es :=
  (h.restated e.code).trans (codeTaken_iff_reserved he).symm

theorem Tracks.add_of_fault (h : d.Tracks l es) {f : BuildFault} (hf : e.fault? l es = some f) :
    d.add e = .error f := by
  unfold fault? at hf
  by_cases he : e.code ≤ 1
  · rw [add, if_pos he]
    rw [if_pos he] at hf
    by_cases hr : e.Restates
    · rw [if_neg (Classical.not_not.2 hr)] at hf
      by_cases hc : e.CodeTaken es
      · rw [if_pos hc] at hf
        rw [if_pos (restates_iff.2 hr), if_pos ((h.restated_iff he).2 hc), Option.some.inj hf]
      · rw [if_neg hc] at hf
        cases hf
    · rw [if_pos hr] at hf
      rw [if_neg (mt restates_iff.1 hr), Option.some.inj hf]
  · rw [if_neg he] at hf
    rw [add, if_neg he]
    by_cases hn : e.NameTaken es
    · rw [if_pos hn] at hf
      rw [Registry.enter, dif_pos (h.nameTaken_iff.2 hn), ← Option.some.inj hf]
      rfl
    rw [if_neg hn] at hf
    have hname := mt h.nameTaken_iff.1 hn
    by_cases hc : e.CodeTaken es
    · rw [if_pos hc] at hf
      rw [Registry.enter, dif_neg hname, dif_pos ((h.codeTaken_iff (UInt32.not_le.1 he)).2 hc), ← Option.some.inj hf]
      rfl
    rw [if_neg hc] at hf
    have hcode := mt (h.codeTaken_iff (UInt32.not_le.1 he)).1 hc
    by_cases hp : e.Placed l
    · rw [if_pos hp] at hf
      cases hf
    rw [if_neg hp] at hf
    rw [Registry.enter_misplaced hname hcode (h.layout ▸ hp), misplaced]
    cases htag : e.category <;> rw [htag] at hf <;> cases hf <;> rfl

theorem Tracks.add_of_none (h : d.Tracks l es) (hf : e.fault? l es = none) :
    ∃ d', d.add e = .ok d' ∧ d'.Tracks l (es ++ [e]) := by
  by_cases he : e.code ≤ 1
  · obtain ⟨hr, hc⟩ := (fault?_eq_none_of_le he).1 hf
    obtain ⟨hreserved, hdeclaring⟩ := @reserved_concat_of_le es e he
    rw [add, if_pos he, if_pos (restates_iff.2 hr), if_neg (mt (h.restated_iff he).1 hc)]
    refine ⟨_, rfl, h.layout, hdeclaring ▸ h.declared, fun code => ?_⟩
    rw [List.mem_cons, h.restated code, hreserved]
    simp only [List.mem_append, List.mem_singleton, or_and_right, exists_or, exists_eq_left]
    rw [or_comm, eq_comm]
  · have he := UInt32.not_le.1 he
    obtain ⟨hn, hc, hp⟩ := (fault?_eq_none_of_lt he).1 hf
    obtain ⟨hdeclaring, hreserved⟩ := @declaring_concat_of_lt es e he
    obtain ⟨k, hk⟩ := Option.isSome_iff_exists.1 (kind?_isSome.2 hp)
    obtain ⟨s, hs, hlayout, hplace⟩ := Registry.enter_placed (mt h.nameTaken_iff.1 hn)
      (mt (h.codeTaken_iff he).1 hc) (h.layout ▸ hk)
    rw [add, if_neg (UInt32.not_le.2 he), hs]
    refine ⟨_, rfl, hlayout.trans h.layout, ?_, hreserved ▸ h.restated⟩
    rw [hdeclaring, List.map_append, List.map_singleton, hk]
    dsimp only
    rw [hplace]
    have hperm := ((Registry.place_perm k d.registry.declared).map some).trans (h.declared.cons (some k))
    exact hperm.trans (List.perm_append_singleton ..).symm

/-! ## All entries -/

theorem exists_tracks (h : Lawful l es) :
    ∃ d, es.foldlM add { registry := Registry.bare l } = .ok d ∧ d.Tracks l es := by
  induction es using List.reverseRecOn with
  | nil => exact ⟨_, rfl, tracks_bare⟩
  | append_singleton es e ih =>
    obtain ⟨hes, he⟩ := lawful_concat.1 h
    obtain ⟨d, hd, htracks⟩ := ih hes
    obtain ⟨d', hadd, htracks'⟩ := htracks.add_of_none he
    refine ⟨d', ?_, htracks'⟩
    rw [List.foldlM_append, hd]
    dsimp only [bind, Except.bind]
    rw [List.foldlM_cons, hadd]
    rfl

end Draft

namespace Registry

open TableEntry

variable {l : Layout} {t : KindTable}

/-- Lawful entries make a registry of the kinds that they declare. -/
theorem buildWith_of_lawful (h : Lawful l t.entries) :
    ∃ r, buildWith l t = .ok r ∧ r.layout = l ∧
      (r.declared.map some).Perm ((declaring t.entries).map (·.kind? l)) := by
  obtain ⟨d, hd, htracks⟩ := Draft.exists_tracks h
  exact ⟨d.registry, by rw [buildWith, hd]; rfl, htracks.layout, htracks.declared⟩

theorem buildWith_of_fault {before after : List TableEntry} {e : TableEntry} {f : BuildFault}
    (hes : t.entries = before ++ e :: after) (hbefore : Lawful l before) (hf : e.fault? l before = some f) :
    buildWith l t = .error f := by
  obtain ⟨d, hd, htracks⟩ := Draft.exists_tracks hbefore
  rw [buildWith, hes, List.foldlM_append, hd]
  dsimp only [bind, Except.bind]
  rw [List.foldlM_cons, htracks.add_of_fault hf]
  rfl

/-- **A table is built exactly if its entries are lawful.** Otherwise the fault is what the first
entry breaks with which the entries up to it are not lawful any more. -/
theorem buildWith_iff (l : Layout) (t : KindTable) :
    ((∃ r, buildWith l t = .ok r) ↔ Lawful l t.entries) ∧
      ∀ f, buildWith l t = .error f ↔ ∃ before e after, t.entries = before ++ e :: after ∧
        Lawful l before ∧ ¬ Lawful l (before ++ [e]) ∧ e.fault? l before = some f := by
  have hok : (∃ r, buildWith l t = .ok r) ↔ Lawful l t.entries := by
    constructor
    · rintro ⟨r, hr⟩
      by_contra hlawful
      obtain ⟨before, e, after, f, hes, hbefore, hf⟩ := exists_fault_of_not_lawful hlawful
      rw [buildWith_of_fault hes hbefore hf] at hr
      cases hr
    · intro h
      obtain ⟨r, hr, -⟩ := buildWith_of_lawful h
      exact ⟨r, hr⟩
  refine ⟨hok, fun f => ⟨fun h => ?_, ?_⟩⟩
  · have hlawful : ¬ Lawful l t.entries := by
      intro hlawful
      obtain ⟨r, hr⟩ := hok.2 hlawful
      rw [h] at hr
      cases hr
    obtain ⟨before, e, after, g, hes, hbefore, hg⟩ := exists_fault_of_not_lawful hlawful
    rw [buildWith_of_fault hes hbefore hg] at h
    cases h
    refine ⟨before, e, after, hes, hbefore, fun hconcat => ?_, hg⟩
    rw [(lawful_concat.1 hconcat).2] at hg
    cases hg
  · rintro ⟨before, e, after, hes, hbefore, -, hf⟩
    exact buildWith_of_fault hes hbefore hf

/-- The second entry breaks three rules, and the third one another. The name of the second decides. -/
example : buildWith .standard
    { entries := [⟨"Name", 2, none⟩, ⟨"Name", 2, some .stmt⟩, ⟨"Token", 1, none⟩] } =
      .error (.duplicateName "Name") := by
  decide +kernel

end Registry

end SyntaxWire
