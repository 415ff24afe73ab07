/-
Which lists of ranges make a layout. The ranges are sorted by their starts,
and then only neighbours are compared. No range is empty, so neighbours that
keep apart keep all ranges apart; and of two ranges without a common code the
one that starts first also ends before the other starts. A list therefore
makes a layout exactly if each range is valid by itself and no two of them
share a code, at whatever places they stand (`ofRanges_ok_iff`). The order in
which they are given is then lost (`byStart_eq_of_perm`).
-/
import SyntaxWire.Layout

namespace SyntaxWire

namespace CategoryRange

/-- No code lies in both ranges. -/
def Disjoint (r s : CategoryRange) : Prop := ∀ c : KindCode, ¬ (c ∈ r ∧ c ∈ s)

variable {r s : CategoryRange} {rs ss : List CategoryRange}

theorem valid_iff : r.Valid ↔ r.category.IsBroad ∧ r.start < r.stop ∧ 2 ≤ r.start := by
  have hstart : 1 < r.start ↔ 2 ≤ r.start := by
    rw [UInt32.lt_iff_toNat_lt, UInt32.le_iff_toNat_le]
    exact Iff.rfl
  rw [← hstart]
  exact ⟨fun h => ⟨h.broad, h.nonempty, h.unreserved⟩, fun ⟨hbroad, hnonempty, hs⟩ => ⟨hbroad, hnonempty, hs⟩⟩

theorem Disjoint.symm (h : r.Disjoint s) : s.Disjoint r := fun c hc => h c hc.symm

theorem disjoint_of_le (h : r.stop ≤ s.start) : r.Disjoint s := by
  rintro c ⟨hr, hs⟩
  exact UInt32.lt_irrefl c (UInt32.lt_of_lt_of_le hr.2 (UInt32.le_trans h hs.1))

/-- The first code of a range tells it from a range that does not start behind it. -/
theorem Disjoint.stop_le (h : r.Disjoint s) (hs : s.start < s.stop) (hle : r.start ≤ s.start) : r.stop ≤ s.start := by
  refine UInt32.not_lt.1 fun hlt => h s.start ⟨?_, ?_⟩
  · exact ⟨hle, hlt⟩
  · exact ⟨UInt32.le_refl _, hs⟩

/-- Ranges that are valid, no two of which have a code in common. -/
structure Admissible (rs : List CategoryRange) : Prop where
  valid : ∀ r ∈ rs, r.Valid
  disjoint : rs.Pairwise Disjoint

theorem Admissible.of_perm (h : Admissible rs) (hp : rs.Perm ss) : Admissible ss where
  valid r hr := h.valid r (hp.mem_iff.2 hr)
  disjoint := (hp.pairwise_iff Disjoint.symm).1 h.disjoint

/-- A code lies in one of the ranges at most. -/
theorem Admissible.countP_le_one (h : Admissible rs) (c : KindCode) : rs.countP (fun r => decide (c ∈ r)) ≤ 1 := by
  have hfilter := h.disjoint.filter fun r => decide (c ∈ r)
  have hmem : ∀ r ∈ rs.filter (fun r => decide (c ∈ r)), c ∈ r := by simp
  rw [List.countP_eq_length_filter]
  match rs.filter (fun r => decide (c ∈ r)), hfilter, hmem with
  | [], _, _ => exact Nat.zero_le 1
  | [_], _, _ => exact Nat.le_refl 1
  | r :: s :: _, hfilter, hmem =>
    have hrs := (List.pairwise_cons.1 hfilter).1 s (by simp)
    exact absurd ⟨hmem r (by simp), hmem s (by simp)⟩ (hrs c)

theorem overlap?_eq_none (h : rs.Pairwise fun r s => r.stop ≤ s.start) : overlap? rs = none := by
  fun_induction overlap? rs with
  | case1 r s rs hrs =>
    have hle := (List.pairwise_cons.1 h).1 s (by simp)
    exact absurd hrs (UInt32.not_lt.2 hle)
  | case2 r s rs _ ih => exact ih (List.pairwise_cons.1 h).2
  | case3 => rfl

end CategoryRange

namespace Layout

open CategoryRange (Admissible)

variable {rs ss : List CategoryRange} {l : Layout} {c : KindCode}

/-! ## Ranges in order -/

theorem byStart_perm (rs : List CategoryRange) : (byStart rs).Perm rs := List.mergeSort_perm rs _

theorem pairwise_byStart (rs : List CategoryRange) : (byStart rs).Pairwise fun r s => r.start ≤ s.start := by
  refine (List.pairwise_mergeSort ?_ ?_ rs).imp of_decide_eq_true
  · intro r s t hrs hst
    exact decide_eq_true (UInt32.le_trans (of_decide_eq_true hrs) (of_decide_eq_true hst))
  · intro r s
    simp [UInt32.le_total r.start s.start]

theorem apart_byStart (h : Admissible rs) : (byStart rs).Pairwise fun r s => r.stop ≤ s.start := by
  have hsorted := h.of_perm (byStart_perm rs).symm
  refine ((pairwise_byStart rs).and hsorted.disjoint).imp_of_mem fun {r s} _ hs hrs => ?_
  exact hrs.2.stop_le (hsorted.valid s hs).nonempty hrs.1

theorem admissible_ranges (l : Layout) : Admissible l.ranges :=
  ⟨l.valid, l.apart.imp CategoryRange.disjoint_of_le⟩

theorem start_lt (l : Layout) : l.ranges.Pairwise fun r s => r.start < s.start :=
  l.apart.imp_of_mem fun hr _ hrs => UInt32.lt_of_lt_of_le (l.valid _ hr).nonempty hrs

theorem byStart_ranges (l : Layout) : byStart l.ranges = l.ranges :=
  List.mergeSort_of_pairwise (l.start_lt.imp fun h => decide_eq_true (UInt32.le_of_lt h))

/-- Two ranges cannot each end before the other starts, so there is one order of them. -/
theorem byStart_eq_of_perm (h : Admissible rs) (hp : ss.Perm rs) : byStart ss = byStart rs := by
  have hperm : (byStart ss).Perm (byStart rs) := ((byStart_perm ss).trans hp).trans (byStart_perm rs).symm
  refine hperm.eq_of_pairwise ?_ (apart_byStart (h.of_perm hp.symm)) (apart_byStart h)
  intro r s hr hs hrs hsr
  have hr := (h.valid r ((hperm.trans (byStart_perm rs)).mem_iff.1 hr)).nonempty
  have hs := (h.valid s ((byStart_perm rs).mem_iff.1 hs)).nonempty
  have hlt := UInt32.lt_of_lt_of_le hr hrs
  exact absurd (UInt32.lt_trans hlt (UInt32.lt_of_lt_of_le hs hsr)) (UInt32.lt_irrefl _)

/-! ## Acceptance -/

theorem ranges_of_ofRanges (h : ofRanges rs = .ok l) : l.ranges = byStart rs := by
  unfold ofRanges at h
  split at h
  · cases h
  split at h
  · cases h
  · cases h
    rfl

theorem ofRanges_ok_iff : ofRanges rs = .ok l ↔ Admissible rs ∧ l.ranges = byStart rs := by
  constructor
  · intro h
    have hl := ranges_of_ofRanges h
    have hperm : l.ranges.Perm rs := hl ▸ byStart_perm rs
    exact ⟨(admissible_ranges l).of_perm hperm, hl⟩
  · rintro ⟨hrs, hl⟩
    have hvalid : rs.findSome? CategoryRange.fault? = none :=
      List.findSome?_eq_none_iff.2 fun r hr => CategoryRange.fault?_eq_none.2 (hrs.valid r hr)
    have hapart := CategoryRange.overlap?_eq_none (apart_byStart hrs)
    unfold ofRanges
    split
    · next f hf => rw [hvalid] at hf; cases hf
    split
    · next f hf => rw [hapart] at hf; cases hf
    · exact congrArg Except.ok (ext hl.symm)

theorem ofRanges_ranges (l : Layout) : ofRanges l.ranges = .ok l :=
  ofRanges_ok_iff.2 ⟨admissible_ranges l, (byStart_ranges l).symm⟩

theorem exists_ofRanges (h : Admissible rs) : ∃ l, ofRanges rs = .ok l := by
  have hsorted := h.of_perm (byStart_perm rs).symm
  exact ⟨⟨byStart rs, hsorted.valid, apart_byStart h⟩, ofRanges_ok_iff.2 ⟨h, rfl⟩⟩

/-! ## Classification -/

/-- Of ranges that are apart the first with the code is the only one. -/
theorem find?_range {r : CategoryRange} (h : rs.Pairwise fun r s => r.stop ≤ s.start) (hr : r ∈ rs) (hc : c ∈ r) :
    rs.find? (fun s => decide (c ∈ s)) = some r := by
  induction rs with
  | nil => cases hr
  | cons s rs ih =>
    obtain ⟨hs, hrs⟩ := List.pairwise_cons.1 h
    rw [List.find?_cons]
    rcases List.mem_cons.1 hr with rfl | hr
    · rw [decide_eq_true hc]
    · rw [decide_eq_false fun hcs => CategoryRange.disjoint_of_le (hs r hr) c ⟨hcs, hc⟩]
      exact ih hrs hr

theorem classify_eq_some_iff {k : Category} : l.classify c = some k ↔ ∃ r ∈ l.ranges, c ∈ r ∧ r.category = k := by
  refine ⟨classify_eq_some, ?_⟩
  rintro ⟨r, hr, hc, rfl⟩
  rw [classify, find?_range l.apart hr hc]
  rfl

theorem classify_reserved (h : c ≤ 1) : l.classify c = none := by
  cases hk : l.classify c with
  | none => rfl
  | some k => exact absurd (one_lt_of_classify hk) (UInt32.not_lt.2 h)

end Layout

end SyntaxWire
