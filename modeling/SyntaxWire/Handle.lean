/-
Publication of registries.

A handle has one current registry. It is replaced as a whole, never changed,
and a reload takes only a registry that appends to the current one. A
publication counts the registries it was given, so that two of them can be
told apart even where they hold the same kinds.
-/
import SyntaxWire.Registry.Evolution

namespace SyntaxWire

/-- A registry as it was handed out, under a number of its own. -/
structure Edition where
  number : Nat
  registry : Registry
deriving DecidableEq

structure Handle where
  current : Edition
deriving DecidableEq

namespace Handle

/-- Puts in an edition that appends to the current one; gives what was current before. -/
def reload (h : Handle) (next : Edition) : Except EvolutionFault (Edition × Handle) := do
  next.registry.checkExtends h.current.registry
  .ok (h.current, { current := next })

/-- Puts in an edition whatever it holds; gives what was current before. -/
def replace (h : Handle) (next : Edition) : Edition × Handle := (h.current, { current := next })

end Handle

end SyntaxWire
