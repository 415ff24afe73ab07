/-
Registries of node kinds.

A registry is the primitive kinds and the declared ones, in order of their
codes. No two of its kinds share a code or a name, and each declared kind
fits the layout; `insert` is the one way to add a kind and keeps all of it,
so the two lookups are inverse to each other.
-/
import SyntaxWire.NodeKind

namespace SyntaxWire

structure Registry where
  layout : Layout
  /-- The kinds beside the primitive ones, in order of their codes. -/
  declared : List NodeKind
  fits : ∀ k ∈ declared, k.Fits layout
  ascending : declared.Pairwise fun j k => j.code < k.code
  named : (NodeKind.primitives ++ declared).Pairwise fun j k => j.name ≠ k.name

namespace Registry

/-- The registry of the primitive kinds alone. -/
def bare (l : Layout) : Registry where
  layout := l
  declared := []
  fits := by simp
  ascending := .nil
  named := by decide

/-- All kinds in order of their codes. -/
def kinds (r : Registry) : List NodeKind := NodeKind.primitives ++ r.declared

theorem ext {r s : Registry} (hl : r.layout = s.layout) (hd : r.declared = s.declared) : r = s := by
  cases r; cases s; cases hl; cases hd; rfl

instance : DecidableEq Registry := fun r s =>
  decidable_of_iff (r.layout = s.layout ∧ r.declared = s.declared)
    ⟨fun h => ext h.1 h.2, fun h => h ▸ ⟨rfl, rfl⟩⟩

def byName (r : Registry) (name : String) : Option NodeKind := r.kinds.find? (·.name == name)

def byCode (r : Registry) (code : KindCode) : Option NodeKind := r.kinds.find? (·.code == code)

def codeOf (r : Registry) (name : String) : Option KindCode := (r.byName name).map (·.code)

def nameOf (r : Registry) (code : KindCode) : Option String := (r.byCode code).map (·.name)

def size (r : Registry) : Nat := r.kinds.length

/-- Puts a kind in front of the first one with a greater code. -/
def place (k : NodeKind) : List NodeKind → List NodeKind
  | [] => [k]
  | j :: ks => if k.code < j.code then k :: j :: ks else j :: place k ks

theorem place_perm (k : NodeKind) (ks : List NodeKind) : (place k ks).Perm (k :: ks) := by
  induction ks with
  | nil => exact .refl _
  | cons j ks ih =>
    unfold place
    split
    · exact .refl _
    · exact (List.Perm.cons j ih).trans (.swap k j ks)

theorem mem_place {j k : NodeKind} {ks : List NodeKind} : j ∈ place k ks ↔ j = k ∨ j ∈ ks :=
  ((place_perm k ks).mem_iff).trans List.mem_cons

theorem place_ascending {k : NodeKind} {ks : List NodeKind} (hk : ∀ j ∈ ks, j.code ≠ k.code)
    (h : ks.Pairwise fun i j => i.code < j.code) :
    (place k ks).Pairwise fun i j => i.code < j.code := by
  induction ks with
  | nil => exact List.pairwise_singleton _ _
  | cons j ks ih =>
    obtain ⟨hj, hks⟩ := List.pairwise_cons.1 h
    unfold place
    split
    · rename_i hlt
      refine List.pairwise_cons.2 ⟨fun i hi => ?_, h⟩
      rcases List.mem_cons.1 hi with rfl | hi
      · exact hlt
      · exact UInt32.lt_trans hlt (hj i hi)
    · rename_i hge
      refine List.pairwise_cons.2 ⟨fun i hi => ?_, ih (fun i hi => hk i (List.mem_cons_of_mem _ hi)) hks⟩
      rcases mem_place.1 hi with rfl | hi
      · have hle := UInt32.not_lt.1 hge
        have hne := hk j (by simp)
        exact UInt32.lt_of_le_of_ne hle hne
      · exact hj i hi

/-- Adds a kind that fits, under a name and a code that are free. -/
def insert (r : Registry) (k : NodeKind) (hfits : k.Fits r.layout)
    (hname : ∀ j ∈ r.kinds, j.name ≠ k.name) (hcode : ∀ j ∈ r.kinds, j.code ≠ k.code) : Registry where
  layout := r.layout
  declared := place k r.declared
  fits j hj := by
    rcases mem_place.1 hj with rfl | hj
    · exact hfits
    · exact r.fits j hj
  ascending := place_ascending (fun j hj => hcode j (List.mem_append_right _ hj)) r.ascending
  named := by
    have hp : (NodeKind.primitives ++ place k r.declared).Perm (k :: r.kinds) :=
      ((place_perm k r.declared).append_left _).trans List.perm_middle
    refine (hp.pairwise_iff fun h => h.symm).2 (List.pairwise_cons.2 ⟨fun j hj => ?_, r.named⟩)
    exact (hname j hj).symm

theorem mem_kinds_insert {r : Registry} {k : NodeKind} {hf hn hc} {j : NodeKind} :
    j ∈ (r.insert k hf hn hc).kinds ↔ j = k ∨ j ∈ r.kinds := by
  simp only [kinds, insert, List.mem_append, mem_place]
  rw [or_left_comm]

end Registry

end SyntaxWire
