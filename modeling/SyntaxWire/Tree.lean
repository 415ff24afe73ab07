/-
Syntax trees. A producer's tree names its kinds; a decoded tree has their
codes. The two are the same trees under different labels, so what changes
labels (`relabel`) keeps the shape and the payloads.
-/
import SyntaxWire.Bytes
import SyntaxWire.Layout

namespace SyntaxWire

/-- Ordered trees. A payload that is absent is not an empty one. -/
inductive Tree (κ : Type) where
  | node (kind : κ) (children : List (Tree κ)) (payload : Option Bytes)

abbrev SyntaxTree := Tree String

abbrev CodeTree := Tree KindCode

/-- A node of a tree by itself. -/
structure Node (κ : Type) where
  /-- The root is at depth 1. -/
  depth : Nat
  kind : κ
  /-- The number of its children. -/
  count : Nat
  payload : Option Bytes
deriving DecidableEq, Repr

namespace Tree

variable {κ ι ε : Type}

def kind : Tree κ → κ
  | node k _ _ => k

def children : Tree κ → List (Tree κ)
  | node _ cs _ => cs

def payload : Tree κ → Option Bytes
  | node _ _ p => p

/-- The topmost node. -/
def top (depth : Nat) : Tree κ → Node κ
  | node k cs p => ⟨depth, k, cs.length, p⟩

mutual

/-- The number of nodes. -/
def size : Tree κ → Nat
  | node _ cs _ => 1 + sizeAll cs

def sizeAll : List (Tree κ) → Nat
  | [] => 0
  | t :: ts => size t + sizeAll ts

end

mutual

/-- Changes the labels, stopping at the first node in pre-order whose label cannot be changed. -/
def relabel (f : κ → Except ε ι) : Tree κ → Except ε (Tree ι)
  | node k cs p => do
    let k ← f k
    let cs ← relabelAll f cs
    .ok (node k cs p)

def relabelAll (f : κ → Except ε ι) : List (Tree κ) → Except ε (List (Tree ι))
  | [] => .ok []
  | t :: ts => do
    let t ← relabel f t
    let ts ← relabelAll f ts
    .ok (t :: ts)

end

mutual

def decEq [DecidableEq κ] : (s t : Tree κ) → Decidable (s = t)
  | node j bs o, node k cs p =>
    if hk : j = k then
      if hp : o = p then
        match decEqAll bs cs with
        | isTrue h => isTrue (by rw [hk, hp, h])
        | isFalse h => isFalse fun e => h (node.inj e).2.1
      else isFalse fun e => hp (node.inj e).2.2
    else isFalse fun e => hk (node.inj e).1

def decEqAll [DecidableEq κ] : (ss ts : List (Tree κ)) → Decidable (ss = ts)
  | [], [] => isTrue rfl
  | [], _ :: _ => isFalse nofun
  | _ :: _, [] => isFalse nofun
  | s :: ss, t :: ts =>
    match decEq s t with
    | isFalse h => isFalse fun e => h (List.cons.inj e).1
    | isTrue h =>
      match decEqAll ss ts with
      | isFalse h' => isFalse fun e => h' (List.cons.inj e).2
      | isTrue h' => isTrue (by rw [h, h'])

end

instance [DecidableEq κ] : DecidableEq (Tree κ) := decEq

theorem sizeAll_append (ts us : List (Tree κ)) : sizeAll (ts ++ us) = sizeAll ts + sizeAll us := by
  induction ts with
  | nil => simp [sizeAll]
  | cons t ts ih => simp [sizeAll, ih, Nat.add_assoc]

theorem size_eq (t : Tree κ) : t.size = 1 + sizeAll t.children := by
  cases t; simp only [size, children]

end Tree

end SyntaxWire
