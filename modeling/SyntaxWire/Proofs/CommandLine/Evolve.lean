/-
The command that compares two table files. It goes by the registries of the
two files, and what it counts are the names that the newer one has in
addition (`execute_evolve`).
-/
import SyntaxWire.CommandLine.Run
import SyntaxWire.Proofs.Registry.Append

namespace SyntaxWire.CommandLine

open Job

variable {m : Type → Type} [Monad m] [LawfulMonad m]

/-- After a check, only what it lets pass matters. -/
theorem check_bind_congr {ε α β : Type} {trouble : ε → Trouble} {x : Except ε α} {f g : α → Job m β}
    (h : ∀ a, x = .ok a → f a = g a) : (check trouble x >>= f) = check trouble x >>= g := by
  cases x with
  | ok a =>
    have hpass : (check trouble (.ok a) : Job m α) = pure a := rfl
    rw [hpass, pure_bind, pure_bind, h a rfl]
  | error e =>
    have hstop (k : α → Job m β) : (check trouble (.error e) >>= k) = throw (trouble e) := by
      apply ExceptT.ext
      simp [check]
    rw [hstop, hstop]

/-- What is printed is the number of names that have come in. -/
theorem execute_evolve (h : Host m) (old new : String) :
    execute h (.evolve old new) = (do
      let older ← registryIn h old
      let newer ← registryIn h new
      check evolutionTrouble (newer.checkExtends older)
      pure s!"ok: {(newer.namesBeyond older).card} kinds appended\n") := by
  unfold execute
  refine bind_congr fun older => bind_congr fun newer => check_bind_congr fun u hextends => ?_
  rw [(Registry.card_names_of_checkExtends hextends).2]

/-- **Two registries are compared exactly.** The newer one passes if it has all triples of the older
one, and then it is at least as large, by as many kinds as it has further names, which is the number
that the command prints. Else the first kind in code order that it does not have decides the fault. -/
theorem evolution_decided (older newer : Registry) :
    (newer.checkExtends older = .ok () ↔ older.kinds.map NodeKind.triple ⊆ newer.kinds.map NodeKind.triple) ∧
    (newer.checkExtends older = .ok () →
      older.size ≤ newer.size ∧ newer.size - older.size = (newer.namesBeyond older).card) ∧
    (∀ f, newer.checkExtends older = .error f ↔
      ∃ k ∈ older.kinds, k.triple ∉ newer.kinds.map NodeKind.triple ∧
        (∀ j ∈ older.kinds, j.code < k.code → j.triple ∈ newer.kinds.map NodeKind.triple) ∧ newer.Breach k f) ∧
    ∀ (m : Type → Type) [Monad m] [LawfulMonad m] (h : Host m) (old new : String),
      execute h (.evolve old new) = (do
        let older ← registryIn h old
        let newer ← registryIn h new
        check evolutionTrouble (newer.checkExtends older)
        pure s!"ok: {(newer.namesBeyond older).card} kinds appended\n") :=
  ⟨Registry.checkExtends_iff_subset, Registry.card_names_of_checkExtends,
    fun _ => Registry.checkExtends_eq_error_iff, fun _ => execute_evolve⟩

/-- A class comes in; then its code is given away while its name gets another one. -/
theorem evolution_of_withClass :
    Registry.withClass.checkExtends (.bare .standard) = .ok () ∧
      Registry.withClass.size - (Registry.bare .standard).size =
        (Registry.withClass.namesBeyond (.bare .standard)).card ∧
      Registry.withMember.checkExtends .withClass = .error (.reusedCode 2 "Class" "Member") := by
  obtain ⟨hpasses, hcount, -⟩ := evolution_decided (.bare .standard) .withClass
  obtain ⟨-, -, hfault, -⟩ := evolution_decided .withClass .withMember
  have hextends := hpasses.2 (by decide)
  refine ⟨hextends, (hcount hextends).2, (hfault _).2 ?_⟩
  exact ⟨⟨"Class", 2, .decl, .decl⟩, by decide, by decide, by decide,
    .reused ⟨"Member", 2, .decl, .decl⟩ (by decide) rfl (by decide)⟩

end SyntaxWire.CommandLine
