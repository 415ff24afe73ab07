/-
The two lookups of a registry. No two kinds share a name or a code, so a
lookup finds a kind exactly if the kind is there under that name
(`byName_eq_some`) or that code (`byCode_eq_some`).
-/
import SyntaxWire.Registry

namespace SyntaxWire.Registry

/-- Where the keys differ, a key finds the one element that has it. -/
theorem find?_key_eq_some {α β : Type} [BEq β] [LawfulBEq β] {key : α → β} {l : List α}
    (h : l.Pairwise fun a b => key a ≠ key b) {x : β} {a : α} :
    l.find? (key · == x) = some a ↔ a ∈ l ∧ key a = x := by
  induction l with
  | nil => simp
  | cons b l ih =>
    obtain ⟨hb, hl⟩ := List.pairwise_cons.1 h
    rw [List.find?_cons]
    by_cases hx : key b = x
    · subst hx
      simp only [beq_self_eq_true, Option.some.injEq, List.mem_cons]
      constructor
      · rintro rfl
        exact ⟨.inl rfl, rfl⟩
      · rintro ⟨rfl | ha, hkey⟩
        · rfl
        · exact absurd hkey.symm (hb a ha)
    · have hbeq : (key b == x) = false := by simpa using hx
      rw [hbeq]
      simp only [ih hl, List.mem_cons]
      constructor
      · rintro ⟨ha, hkey⟩
        exact ⟨.inr ha, hkey⟩
      · rintro ⟨rfl | ha, hkey⟩
        · exact absurd hkey hx
        · exact ⟨ha, hkey⟩

theorem kinds_ascending (r : Registry) : r.kinds.Pairwise fun j k => j.code < k.code := by
  refine List.pairwise_append.2 ⟨by decide, r.ascending, fun j hj k hk => ?_⟩
  have hprimitive : ∀ j ∈ NodeKind.primitives, j.code ≤ 1 := by decide
  exact UInt32.lt_of_le_of_lt (hprimitive j hj) (r.fits k hk).one_lt

theorem kinds_pairwise_code (r : Registry) : r.kinds.Pairwise fun j k => j.code ≠ k.code :=
  r.kinds_ascending.imp UInt32.ne_of_lt

theorem byName_eq_some {r : Registry} {name : String} {k : NodeKind} :
    r.byName name = some k ↔ k ∈ r.kinds ∧ k.name = name :=
  find?_key_eq_some r.named

/-- A name stands for the same kind where there are more. -/
theorem byName_of_subset {r s : Registry} (h : r.kinds ⊆ s.kinds) {name : String} {k : NodeKind}
    (hk : r.byName name = some k) : s.byName name = some k := by
  obtain ⟨hmem, hname⟩ := byName_eq_some.1 hk
  exact byName_eq_some.2 ⟨h hmem, hname⟩

theorem byCode_eq_some {r : Registry} {code : KindCode} {k : NodeKind} :
    r.byCode code = some k ↔ k ∈ r.kinds ∧ k.code = code :=
  find?_key_eq_some r.kinds_pairwise_code

end SyntaxWire.Registry
