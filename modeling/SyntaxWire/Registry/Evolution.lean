/-
Append-only evolution: a newer registry keeps the code and the category of
every kind that an older one has published, and gives none of its codes to
another name.
-/
import SyntaxWire.Registry

namespace SyntaxWire

inductive EvolutionFault where
  | removedKind (name : String)
  | reassignedCode (name : String) (old new : KindCode)
  | reusedCode (code : KindCode) (old new : String)
  | recategorized (name : String) (old new : Category)
deriving DecidableEq, Repr

def EvolutionFault.message : EvolutionFault → String
  | .removedKind n => s!"`{n}` was removed"
  | .reassignedCode n o c => s!"`{n}` moved from code {o} to {c}"
  | .reusedCode c o n => s!"code {c} was `{o}` and is now `{n}`"
  | .recategorized n o c => s!"`{n}` changed category from {o.name} to {c.name}"

namespace Registry

/-- What becomes of a published kind that the registry does not keep. -/
def breach? (r : Registry) (old : NodeKind) : Option EvolutionFault :=
  match (r.byCode old.code).filter (·.name ≠ old.name) with
  | some now => some (.reusedCode old.code old.name now.name)
  | none =>
    match r.byName old.name with
    | none => some (.removedKind old.name)
    | some now =>
      if now.code ≠ old.code then some (.reassignedCode old.name old.code now.code)
      else if now.category ≠ old.category then some (.recategorized old.name old.category now.category)
      else none

/-- Whether the registry only appends to an older one; the first broken kind in code order decides. -/
def checkExtends (r old : Registry) : Except EvolutionFault Unit :=
  match old.kinds.findSome? r.breach? with
  | some f => .error f
  | none => .ok ()

end Registry

end SyntaxWire
