/-
The ranges of codes that belong to broad categories.

Codes 0 and 1 are reserved. A layout keeps its ranges in order of their
starts, and no two of them share a code, so a code has at most one category
(`Layout.classify`).
-/
import SyntaxWire.Category

namespace SyntaxWire

abbrev KindCode := UInt32

/-- The codes from `start` up to but not including `stop`. -/
structure CategoryRange where
  category : Category
  start : KindCode
  stop : KindCode
deriving DecidableEq, Repr

namespace CategoryRange

instance : Membership KindCode CategoryRange := ⟨fun r c => r.start ≤ c ∧ c < r.stop⟩

theorem mem_def {r : CategoryRange} {c : KindCode} : c ∈ r ↔ r.start ≤ c ∧ c < r.stop := Iff.rfl

instance (c : KindCode) (r : CategoryRange) : Decidable (c ∈ r) :=
  decidable_of_iff _ mem_def.symm

/-- A range that a layout may hold. -/
structure Valid (r : CategoryRange) : Prop where
  broad : r.category.IsBroad
  nonempty : r.start < r.stop
  unreserved : 1 < r.start

def span (r : CategoryRange) : String :=
  s!"[{r.start}, {r.stop})"

end CategoryRange

/-- Why a list of ranges is no layout. -/
inductive LayoutFault where
  | cannotOwn (category : Category)
  | emptyRange (range : CategoryRange)
  | reservedCode (range : CategoryRange)
  | overlap (first second : CategoryRange)
deriving DecidableEq, Repr

def LayoutFault.message (f : LayoutFault) : String :=
  "category ranges overlap or are malformed: " ++ match f with
    | .cannotOwn c => s!"{c.name} cannot own a range"
    | .emptyRange r => s!"{r.category.name} range {r.span} is empty"
    | .reservedCode r => s!"{r.category.name} range {r.span} covers a reserved code"
    | .overlap r s => s!"{r.category.name} {r.span} overlaps {s.category.name} {s.span}"

namespace CategoryRange

/-- What is wrong with a range taken alone. -/
def fault? (r : CategoryRange) : Option LayoutFault :=
  if ¬ r.category.IsBroad then some (.cannotOwn r.category)
  else if r.stop ≤ r.start then some (.emptyRange r)
  else if r.start ≤ 1 then some (.reservedCode r)
  else none

theorem fault?_eq_none {r : CategoryRange} : r.fault? = none ↔ r.Valid := by
  unfold fault?
  constructor
  · intro h
    split at h
    · cases h
    · split at h
      · cases h
      · split at h
        · cases h
        · exact ⟨by simp_all, by simp_all [UInt32.not_le], by simp_all [UInt32.not_le]⟩
  · intro h
    have h₁ := UInt32.not_le.2 h.nonempty
    have h₂ := UInt32.not_le.2 h.unreserved
    simp [h.broad, h₁, h₂]

/-- The first of `rs` that runs into the range after it. -/
def overlap? : List CategoryRange → Option LayoutFault
  | r :: s :: rs => if s.start < r.stop then some (.overlap r s) else overlap? (s :: rs)
  | _ => none

/-- Neighbours that keep apart keep all ranges apart, since none is empty. -/
theorem pairwise_of_overlap? {rs : List CategoryRange} (hv : ∀ r ∈ rs, r.Valid)
    (h : overlap? rs = none) : rs.Pairwise fun r s => r.stop ≤ s.start := by
  fun_induction overlap? rs with
  | case1 => cases h
  | case2 r s rs hrs ih =>
    have hp := ih (fun x hx => hv x (List.mem_cons_of_mem _ hx)) h
    refine List.pairwise_cons.2 ⟨fun x hx => ?_, hp⟩
    have hrs := UInt32.not_lt.1 hrs
    rcases List.mem_cons.1 hx with rfl | hx
    · exact hrs
    · have hs := (hv s (by simp)).nonempty
      have hsx := (List.pairwise_cons.1 hp).1 x hx
      exact UInt32.le_trans hrs (UInt32.le_trans (UInt32.le_of_lt hs) hsx)
  | case3 rs hrs =>
    match rs with
    | [] => exact List.Pairwise.nil
    | [r] => exact List.pairwise_singleton _ r
    | r :: s :: rs => exact absurd rfl (hrs r s rs)

end CategoryRange

structure Layout where
  ranges : List CategoryRange
  valid : ∀ r ∈ ranges, r.Valid
  apart : ranges.Pairwise fun r s => r.stop ≤ s.start

namespace Layout

theorem ext {l m : Layout} (h : l.ranges = m.ranges) : l = m := by
  cases l; cases m; cases h; rfl

instance : DecidableEq Layout := fun l m =>
  decidable_of_iff (l.ranges = m.ranges) ⟨ext, fun h => h ▸ rfl⟩

def byStart (rs : List CategoryRange) : List CategoryRange :=
  rs.mergeSort fun r s => decide (r.start ≤ s.start)

/-- The layout of the given ranges, whatever their order. Each range is checked by itself first. -/
def ofRanges (rs : List CategoryRange) : Except LayoutFault Layout :=
  match hv : rs.findSome? CategoryRange.fault? with
  | some f => .error f
  | none =>
    have valid : ∀ r ∈ byStart rs, r.Valid := fun r hr =>
      CategoryRange.fault?_eq_none.1 (List.findSome?_eq_none_iff.1 hv r (List.mem_mergeSort.1 hr))
    match ha : CategoryRange.overlap? (byStart rs) with
    | some f => .error f
    | none => .ok ⟨byStart rs, valid, CategoryRange.pairwise_of_overlap? valid ha⟩

/-- The broad category whose range has the code. -/
def classify (l : Layout) (c : KindCode) : Option Category :=
  (l.ranges.find? fun r => decide (c ∈ r)).map (·.category)

/-- The layout of a table that names none. -/
def standard : Layout where
  ranges := [⟨.decl, 2, 1000⟩, ⟨.expr, 1001, 2000⟩, ⟨.stmt, 2001, 3000⟩]
  valid r hr := CategoryRange.fault?_eq_none.1 (by
    simp only [List.mem_cons, List.not_mem_nil, or_false] at hr
    rcases hr with rfl | rfl | rfl <;> decide)
  apart := by decide

theorem classify_eq_some {l : Layout} {c : KindCode} {k : Category} (h : l.classify c = some k) :
    ∃ r ∈ l.ranges, c ∈ r ∧ r.category = k := by
  unfold classify at h
  obtain ⟨r, hr, rfl⟩ := Option.map_eq_some_iff.1 h
  exact ⟨r, List.mem_of_find?_eq_some hr, by simpa using List.find?_some hr, rfl⟩

/-- A classified code is not reserved. -/
theorem one_lt_of_classify {l : Layout} {c : KindCode} {k : Category} (h : l.classify c = some k) :
    1 < c := by
  obtain ⟨r, hr, hc, _⟩ := classify_eq_some h
  exact UInt32.lt_of_lt_of_le (l.valid r hr).unreserved hc.1

end Layout

end SyntaxWire
