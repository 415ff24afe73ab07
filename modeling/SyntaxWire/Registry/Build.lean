/-
Building a registry from a table.

Entries are taken one by one in table order, so the first entry that
breaks a rule decides the fault. Inside an entry a taken name is found
before a taken code, and both before a code outside its range.
-/
import SyntaxWire.Registry
import SyntaxWire.Table

namespace SyntaxWire

inductive BuildFault where
  | duplicateCode (code : KindCode)
  | duplicateName (name : String)
  /-- The entry names a category whose range does not have the code. -/
  | rangeViolation (name : String) (code : KindCode) (expected : Category)
  | reservedCode (code : KindCode)
  /-- The entry names no category, and no range has the code. -/
  | unclassifiedCode (name : String) (code : KindCode)
deriving DecidableEq, Repr

def BuildFault.message : BuildFault → String
  | .duplicateCode c => s!"duplicate code {c}"
  | .duplicateName n => s!"duplicate name `{n}`"
  | .rangeViolation n c e => s!"`{n}` has code {c}, outside the {e.name} range"
  | .reservedCode c => s!"code {c} is reserved for a primitive kind"
  | .unclassifiedCode n c => s!"`{n}` has code {c}, which no category range covers"

namespace TableEntry

/-- The category that the entry gets in a range of the family, if its tag allows one. -/
def categoryIn (e : TableEntry) (family : Category) : Option Category :=
  match e.category with
  | none => some family
  | some c => if c = .collection ∨ c = family then some c else none

theorem categoryIn_eq_some {e : TableEntry} {f c : Category} (h : e.categoryIn f = some c) :
    c = f ∨ c = .collection := by
  unfold categoryIn at h
  split at h
  · simp_all
  · split at h
    · simp only [Option.some.injEq] at h
      subst h
      rename_i hc
      exact hc.symm
    · cases h

/-- The fault of an entry that no range of the layout takes. -/
def misplaced (e : TableEntry) : BuildFault :=
  match e.category with
  | none => .unclassifiedCode e.name e.code
  | some c => .rangeViolation e.name e.code c

/-- The kind that the entry declares under the layout. -/
def kindIn (e : TableEntry) (l : Layout) : Except BuildFault { k : NodeKind // k.Fits l ∧ k.name = e.name ∧ k.code = e.code } :=
  match hf : l.classify e.code with
  | none => .error e.misplaced
  | some family =>
    match hc : e.categoryIn family with
    | none => .error e.misplaced
    | some category => .ok ⟨⟨e.name, e.code, category, family⟩, ⟨hf, categoryIn_eq_some hc⟩, rfl, rfl⟩

/-- The entry says again what is so for a primitive kind. -/
def restates (e : TableEntry) : Bool :=
  NodeKind.primitives.any fun k => k.code == e.code && k.name == e.name
    && (e.category.isNone || e.category == some .unclassified)

end TableEntry

namespace Registry

/-- Adds the kind that an entry with a code of its own declares. -/
def enter (r : Registry) (e : TableEntry) : Except BuildFault Registry :=
  if hn : ∃ j ∈ r.kinds, j.name = e.name then .error (.duplicateName e.name)
  else if hc : ∃ j ∈ r.kinds, j.code = e.code then .error (.duplicateCode e.code)
  else do
    let ⟨k, hk, hname, hcode⟩ ← e.kindIn r.layout
    .ok (r.insert k hk (fun j hj h => hn ⟨j, hj, h.trans hname⟩) (fun j hj h => hc ⟨j, hj, h.trans hcode⟩))

end Registry

/-- A registry under construction, with the primitive codes that the table has restated. -/
structure Draft where
  registry : Registry
  restated : List KindCode := []

namespace Draft

def add (d : Draft) (e : TableEntry) : Except BuildFault Draft :=
  if e.code ≤ 1 then
    if e.restates then
      if e.code ∈ d.restated then .error (.duplicateName e.name)
      else .ok { d with restated := e.code :: d.restated }
    else .error (.reservedCode e.code)
  else (d.registry.enter e).map fun r => { d with registry := r }

end Draft

namespace Registry

/-- The registry of a table under the given layout, whatever ranges the table names. -/
def buildWith (l : Layout) (t : KindTable) : Except BuildFault Registry :=
  (t.entries.foldlM Draft.add { registry := bare l }).map (·.registry)

/-- The registry of a table. -/
def build (t : KindTable) : Except BuildFault Registry := buildWith t.layout t

/-- The table that lists the declared kinds in code order with their categories, and the layout. -/
def toTable (r : Registry) : KindTable where
  ranges := some r.layout
  entries := r.declared.map fun k => ⟨k.name, k.code, some k.category⟩

end Registry

end SyntaxWire
