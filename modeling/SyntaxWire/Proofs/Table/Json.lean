/-
Tables as text. The ranges of a table are checked and sorted again when they are
read, so only lists that make a layout get through (`Layout.reader_ok_iff`),
and those of a layout come back as they are. Tags and ranges that are left out
are not written, and what a record has no member for is read as left out. A
table nests three levels deep at most, so both of its texts are read back
whatever is in it (`KindTable.ofJson_texts`).
-/
import SyntaxWire.Proofs.Json.Reading
import SyntaxWire.Proofs.Layout
import SyntaxWire.Table.Json

namespace SyntaxWire

open Json

variable {levels : Nat}

/-! ## Ranges -/

namespace Category

theorem findVariant_name (c : Category) :
    findVariant (all.map fun c => .plain c.name c) c.name = .ok (.plain c.name c) := by
  have hfind : (all.map fun c => Variant.plain c.name c).find? (·.name == c.name) = some (.plain c.name c) := by
    rw [List.find?_map]
    exact congrArg (Option.map _) (ofName?_name c)
  rw [findVariant, hfind]

theorem reads_category (levels : Nat) (c : Category) : Reads levels (reader levels) c.toJson c :=
  reads_variant (findVariant_name c)

end Category

namespace CategoryRange

theorem reads_range (levels : Nat) (r : CategoryRange) : Reads levels (reader levels) r.toJson r := by
  cases levels with
  | zero => exact reads_record_zero _ _
  | succ levels =>
    let takes := fun key slots s => fields.member levels key slots s
    have hcategory : Takes levels takes "category" r.category.toJson (none, none, none, ())
        (some r.category, none, none, ()) :=
      Fields.takes_field (Category.reads_category levels r.category)
    have hstart : Takes levels takes "start" (.natural r.start.toNat) (some r.category, none, none, ())
        (some r.category, some r.start, none, ()) :=
      Fields.takes_later (by decide) (Fields.takes_field (reads_uint32 r.start))
    have hstop : Takes levels takes "end" (.natural r.stop.toNat) (some r.category, some r.start, none, ())
        (some r.category, some r.start, some r.stop, ()) :=
      Fields.takes_later (by decide) <| Fields.takes_later (by decide) <| Fields.takes_field (reads_uint32 r.stop)
    exact reads_record (.cons hcategory (.cons hstart (.cons hstop (.nil _)))) rfl

end CategoryRange

/-! ## Layouts -/

namespace Layout

variable {l : Layout}

/-- A layout is read as the ranges of an array, which have to make one. -/
theorem reader_ok_iff {text rest : List Char} :
    reader levels text = .ok (l, rest) ↔
      ∃ ss, list CategoryRange.reader levels text = .ok (ss, rest) ∧ ofRanges ss = .ok l := by
  rw [reader, Except.bind_ok_iff]
  constructor
  · rintro ⟨⟨ss, s⟩, hss, h⟩
    dsimp only at h
    split at h
    · next m hm =>
      cases h
      exact ⟨ss, hss, hm⟩
    · cases h
  · rintro ⟨ss, hss, hl⟩
    refine ⟨(ss, rest), hss, ?_⟩
    dsimp only
    rw [hl]

/-- The ranges of a layout still make that layout when they are read. -/
theorem reads_layout (levels : Nat) (l : Layout) : Reads levels (reader levels) l.toJson l := by
  intro sp level gap rest hgap hrest
  have hranges : Reads levels (list CategoryRange.reader levels) l.toJson l.ranges :=
    reads_list_map CategoryRange.reads_range l.ranges
  rw [reader, hranges sp level gap rest hgap hrest, Except.ite_bind]
  dsimp only
  rw [ofRanges_ranges]

/-- **Layouts are the lists of disjoint ranges, up to order.** A list makes a layout exactly if its
ranges are broad, not empty and clear of the reserved codes, and no two of them have a code in
common. The layout has them in order of their starts, is the same for every order of the list, and
gives a code the category of the one range that has it, but none to the reserved codes. The standard
layout and all that are read from a text are such layouts. -/
theorem ofRanges_admissible :
    (∀ rs, (∃ l, ofRanges rs = .ok l) ↔
      (∀ r ∈ rs, r.category.IsBroad ∧ r.start < r.stop ∧ 2 ≤ r.start) ∧ rs.Pairwise CategoryRange.Disjoint) ∧
    (∀ rs l, ofRanges rs = .ok l →
      l.ranges.Perm rs ∧ l.ranges.Pairwise (fun r s => r.start < s.start) ∧
      (∀ ss, ss.Perm rs → ofRanges ss = .ok l) ∧
      (∀ c k, l.classify c = some k ↔ ∃ r ∈ rs, c ∈ r ∧ r.category = k) ∧
      (∀ c k, l.classify c = some k → rs.countP (fun r => decide (c ∈ r)) = 1) ∧
      l.classify 0 = none ∧ l.classify 1 = none) ∧
    ofRanges standard.ranges = .ok standard ∧
    ∀ levels text l rest, reader levels text = .ok (l, rest) ↔
      ∃ ss, list CategoryRange.reader levels text = .ok (ss, rest) ∧ ofRanges ss = .ok l := by
  refine ⟨fun rs => ?_, fun rs l h => ?_, ofRanges_ranges standard, fun _ _ _ _ => reader_ok_iff⟩
  · simp only [← CategoryRange.valid_iff]
    constructor
    · rintro ⟨l, h⟩
      have hrs := (ofRanges_ok_iff.1 h).1
      exact ⟨hrs.valid, hrs.disjoint⟩
    · rintro ⟨hvalid, hdisjoint⟩
      exact exists_ofRanges ⟨hvalid, hdisjoint⟩
  · obtain ⟨hrs, hl⟩ := ofRanges_ok_iff.1 h
    have hperm : l.ranges.Perm rs := hl ▸ byStart_perm rs
    have hclassify (c : KindCode) (k : Category) :
        l.classify c = some k ↔ ∃ r ∈ rs, c ∈ r ∧ r.category = k := by
      simp only [classify_eq_some_iff, hperm.mem_iff]
    refine ⟨hperm, l.start_lt, fun ss hss => ?_, hclassify, fun c k hk => ?_, ?_, ?_⟩
    · exact ofRanges_ok_iff.2 ⟨hrs.of_perm hss.symm, hl.trans (byStart_eq_of_perm hrs hss).symm⟩
    · obtain ⟨r, hr, hc, -⟩ := (hclassify c k).1 hk
      have hpos : 0 < rs.countP (fun r => decide (c ∈ r)) :=
        List.countP_pos_iff.2 ⟨r, hr, decide_eq_true hc⟩
      have hle := hrs.countP_le_one c
      omega
    · exact classify_reserved (by decide)
    · exact classify_reserved (by decide)

end Layout

/-! ## Tables -/

namespace TableEntry

theorem reads_entry (levels : Nat) (e : TableEntry) : Reads levels (reader levels) e.toJson e := by
  cases levels with
  | zero => exact reads_record_zero _ _
  | succ levels =>
    let takes := fun key slots s => fields.member levels key slots s
    have hname : Takes levels takes "name" (.string e.name) (none, none, none, ()) (some e.name, none, none, ()) :=
      Fields.takes_field (reads_string e.name)
    have hcode : Takes levels takes "code" (.natural e.code.toNat) (some e.name, none, none, ())
        (some e.name, some e.code, none, ()) :=
      Fields.takes_later (by decide) (Fields.takes_field (reads_uint32 e.code))
    have htag (c : Category) : Takes levels takes "category" c.toJson (some e.name, some e.code, none, ())
        (some e.name, some e.code, some (some c), ()) :=
      Fields.takes_later (by decide) <| Fields.takes_later (by decide) <| Fields.takes_field <|
        reads_nullable (Category.reads_category levels c) Value.noConfusion
    obtain ⟨name, code, category⟩ := e
    cases category with
    | none => exact reads_record (.cons hname (.cons hcode (.nil _))) rfl
    | some c => exact reads_record (.cons hname (.cons hcode (.cons (htag c) (.nil _)))) rfl

end TableEntry

namespace KindTable

theorem reads_table (levels : Nat) (t : KindTable) : Reads levels (reader levels) t.toJson t := by
  cases levels with
  | zero => exact reads_record_zero _ _
  | succ levels =>
    let takes := fun key slots s => fields.member levels key slots s
    have hranges (l : Layout) : Takes levels takes "ranges" l.toJson (none, none, ()) (some (some l), none, ()) :=
      Fields.takes_field (reads_nullable (Layout.reads_layout levels l) Value.noConfusion)
    have hkinds (slot : Option (Option Layout)) : Takes levels takes "kinds"
        (.array (t.entries.map TableEntry.toJson)) (slot, none, ()) (slot, some t.entries, ()) :=
      Fields.takes_later (by decide) (Fields.takes_field (reads_list_map TableEntry.reads_entry t.entries))
    obtain ⟨ranges, entries⟩ := t
    cases ranges with
    | none => exact reads_record (.cons (hkinds none) (.nil _)) rfl
    | some l => exact reads_record (.cons (hranges l) (.cons (hkinds _) (.nil _))) rfl

/-! ## How deep a table nests -/

/-- A table is an object of arrays of objects. -/
theorem nesting_toJson_le (t : KindTable) : t.toJson.nesting ≤ 3 := by
  have hranges (l : Layout) : Value.nestingItems (l.ranges.map CategoryRange.toJson) ≤ 1 := by
    refine Value.nestingItems_le (List.forall_mem_map.2 fun r _ => ?_)
    exact Nat.le_refl 1
  have hentries (es : List TableEntry) : Value.nestingItems (es.map TableEntry.toJson) ≤ 1 := by
    refine Value.nestingItems_le (List.forall_mem_map.2 fun e _ => ?_)
    obtain ⟨name, code, category⟩ := e
    cases category <;> exact Nat.le_refl 1
  obtain ⟨ranges, entries⟩ := t
  have hkinds := hentries entries
  cases ranges with
  | none =>
    simp only [toJson, Option.map_none, Option.toList_none, List.nil_append, Value.nesting, Value.nestingMembers]
    omega
  | some l =>
    have hl := hranges l
    simp only [toJson, Option.map_some, Option.toList_some, List.singleton_append, Layout.toJson, Value.nesting,
      Value.nestingMembers]
    omega

theorem ofJson_texts (t : KindTable) : ∀ text ∈ [t.toJson.compact, t.toJson.pretty], ofJson text = .ok t := by
  intro text htext
  have hempty : text ++ String.ofList [] = text := String.append_empty
  have hfits : t.toJson.nesting ≤ maxLevels := Nat.le_trans t.nesting_toJson_le (by decide)
  have hread := readAll_texts (r := reader) (reads_table maxLevels t) (List.forall_mem_nil _) text htext
  rwa [hempty, if_pos hfits] at hread

theorem ofJson_compact (t : KindTable) : ofJson t.toJson.compact = .ok t := t.ofJson_texts _ (by simp)

theorem ofJson_pretty (t : KindTable) : ofJson t.render = .ok t := t.ofJson_texts _ (by simp [render])

end KindTable

end SyntaxWire
