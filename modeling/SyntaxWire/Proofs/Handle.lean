/-
Runs of a handle: any calls to it in any order. What is loaded is always what
was put in last (`current_after`), going by the answers of the calls alone.
One call that is no replacement keeps what the current registry resolves
(`call_extends`), and so do any number of them (`after_extends`): extension is
transitive, and a reload that is turned down changes nothing.
-/
import SyntaxWire.Handle
import SyntaxWire.Proofs.Registry.Append

namespace SyntaxWire.Handle

/-- What a handle can be asked. -/
inductive Call where
  | load
  | reload (next : Edition)
  | replace (next : Edition)
deriving DecidableEq

/-- The edition that a call gives, or why it does not take its own. -/
abbrev Reply := Except EvolutionFault Edition

/-- The answer to a call, and the handle after it. -/
def call (h : Handle) : Call → Reply × Handle
  | .load => (.ok h.current, h)
  | .reload next =>
    match h.reload next with
    | .ok (old, h') => (.ok old, h')
    | .error f => (.error f, h)
  | .replace next =>
    let (old, h') := h.replace next
    (.ok old, h')

/-- The handle after calls. -/
def after (h : Handle) (cs : List Call) : Handle := cs.foldl (fun h c => (h.call c).2) h

/-- Calls with their answers. -/
def record (h : Handle) : List Call → List (Call × Reply)
  | [] => []
  | c :: cs => (c, (h.call c).1) :: (h.call c).2.record cs

/-- The edition that a call has put in, going by its answer. -/
def published : Call × Reply → Option Edition
  | (.load, _) => none
  | (.reload _, .error _) => none
  | (.reload next, .ok _) => some next
  | (.replace next, _) => some next

/-- The edition put in last, or the one from before. -/
def latest (first : Edition) (record : List (Call × Reply)) : Edition :=
  (record.filterMap published).getLastD first

variable {h : Handle} {c : Call} {cs : List Call} {next : Edition}

theorem reload_of_extends (hnext : next.registry.checkExtends h.current.registry = .ok ()) :
    h.reload next = .ok (h.current, { current := next }) := by
  rw [reload, hnext]
  rfl

theorem reload_of_breach {f : EvolutionFault} (hnext : next.registry.checkExtends h.current.registry = .error f) :
    h.reload next = .error f := by
  rw [reload, hnext]
  rfl

theorem call_reload_of_extends (hnext : next.registry.checkExtends h.current.registry = .ok ()) :
    h.call (.reload next) = (.ok h.current, { current := next }) := by
  simp only [call, reload_of_extends hnext]

theorem call_reload_of_breach {f : EvolutionFault}
    (hnext : next.registry.checkExtends h.current.registry = .error f) : h.call (.reload next) = (.error f, h) := by
  simp only [call, reload_of_breach hnext]

/-! ## What is current -/

theorem call_current (h : Handle) (c : Call) :
    (h.call c).2.current = (published (c, (h.call c).1)).getD h.current := by
  cases c with
  | load => rfl
  | replace next => rfl
  | reload next =>
    cases hnext : next.registry.checkExtends h.current.registry with
    | ok u => rw [call_reload_of_extends hnext]; rfl
    | error f => rw [call_reload_of_breach hnext]; rfl

theorem latest_cons (first : Edition) (p : Call × Reply) (record : List (Call × Reply)) :
    latest first (p :: record) = latest ((published p).getD first) record := by
  unfold latest
  cases hp : published p with
  | none => rw [List.filterMap_cons_none hp]; rfl
  | some e => rw [List.filterMap_cons_some hp, List.getLastD_cons]; rfl

/-- The current edition is the one that was put in last. -/
theorem current_after (h : Handle) (cs : List Call) : (h.after cs).current = latest h.current (h.record cs) := by
  induction cs generalizing h with
  | nil => rfl
  | cons c cs ih =>
    -- For the calls after the first one, what it has left is what was there before.
    have hafter : h.after (c :: cs) = (h.call c).2.after cs := rfl
    rw [hafter, ih, call_current, record, latest_cons]

/-! ## What stays -/

/-- A call that replaces nothing extends what is current. -/
theorem call_extends (hc : ∀ next, c ≠ .replace next) :
    (h.call c).2.current.registry.checkExtends h.current.registry = .ok () := by
  cases c with
  | load => exact Registry.checkExtends_self _
  | replace next => exact absurd rfl (hc next)
  | reload next =>
    cases hnext : next.registry.checkExtends h.current.registry with
    | ok u => rw [call_reload_of_extends hnext]; exact hnext
    | error f => rw [call_reload_of_breach hnext]; exact Registry.checkExtends_self _

theorem after_extends (hcs : ∀ next, .replace next ∉ cs) :
    (h.after cs).current.registry.checkExtends h.current.registry = .ok () := by
  induction cs generalizing h with
  | nil => exact Registry.checkExtends_self _
  | cons c cs ih =>
    have hc : ∀ next, c ≠ .replace next := by
      intro next hnext
      exact hcs next (hnext ▸ List.mem_cons_self)
    have hrest : ∀ next, .replace next ∉ cs := fun next hnext => hcs next (List.mem_cons_of_mem _ hnext)
    exact Registry.checkExtends_trans (ih hrest) (call_extends hc)

theorem after_append (h : Handle) (cs ds : List Call) : h.after (cs ++ ds) = (h.after cs).after ds :=
  List.foldl_append

/-- **A handle only appends, unless it is told to replace.** After any calls a load gives the edition
that was put in last, a reload puts in a registry precisely if it extends that one, and else leaves
the handle as it was, and a reload or a replacement that is carried out gives what was current.
What is found under its name and its code stays so up to the next replacement. -/
theorem append_only_between_replacements (h : Handle) (cs : List Call) :
    let now := latest h.current (h.record cs)
    (h.after cs).call .load = (.ok now, h.after cs) ∧
    (∀ next,
      next.registry.checkExtends now.registry = .ok () ∧
        (h.after cs).call (.reload next) = (.ok now, { current := next }) ∨
      ∃ f, next.registry.checkExtends now.registry = .error f ∧
        (h.after cs).call (.reload next) = (.error f, h.after cs)) ∧
    (∀ next, (h.after cs).call (.replace next) = (.ok now, { current := next })) ∧
    ∀ ds, (∀ next, .replace next ∉ ds) → ∀ x, (h.after cs).current.registry.Resolves x →
      (h.after (cs ++ ds)).current.registry.Resolves x := by
  intro now
  have hnow : (h.after cs).current = now := current_after h cs
  rw [← hnow]
  refine ⟨rfl, fun next => ?_, fun next => rfl, fun ds hds x hx => ?_⟩
  · cases hnext : next.registry.checkExtends (h.after cs).current.registry with
    | ok u => exact .inl ⟨rfl, call_reload_of_extends hnext⟩
    | error f => exact .inr ⟨f, rfl, call_reload_of_breach hnext⟩
  · rw [after_append]
    exact hx.of_checkExtends (after_extends hds)

/-- A class is put in, and then a registry is turned down that gives its code to a member. -/
theorem class_kept_by_rejected_reload :
    let start : Handle := { current := ⟨0, .bare .standard⟩ }
    let later := start.after ([.reload ⟨1, .withClass⟩] ++ [.reload ⟨2, .withMember⟩])
    (later.call .load).1 = .ok ⟨1, .withClass⟩ ∧ later.current.registry.Resolves ⟨"Class", 2, .decl⟩ := by
  intro start later
  obtain ⟨-, -, -, hkept⟩ := append_only_between_replacements start [.reload ⟨1, .withClass⟩]
  obtain ⟨hload, -⟩ :=
    append_only_between_replacements start ([.reload ⟨1, .withClass⟩] ++ [.reload ⟨2, .withMember⟩])
  have hclass : (start.after [.reload ⟨1, .withClass⟩]).current.registry.Resolves ⟨"Class", 2, .decl⟩ :=
    Registry.resolves_iff.2 (by decide)
  refine ⟨(congrArg Prod.fst hload).trans (by decide), hkept [.reload ⟨2, .withMember⟩] ?_ _ hclass⟩
  simp

end SyntaxWire.Handle
