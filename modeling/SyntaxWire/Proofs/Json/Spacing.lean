/-
The two ways of writing a JSON value are one up to the blanks between its
parts. A `Spacing` says where they stand, and `Spacing.write` writes a value
with them; with no blanks it is the compact text (`writeCompact_eq`) and with
lines of two blanks a level the pretty one (`writePretty_eq`). What is shown of
`write` for every spacing holds of both.

`Value.nesting` is how deep arrays and objects lie inside one another.
-/
import SyntaxWire.Json.Scan
import SyntaxWire.Json.Value

namespace SyntaxWire.Json

/-- The function writes a text in front of what it is given and does not look at that. -/
def Prepends (f : List Char → List Char) : Prop := ∀ rest more, f (rest ++ more) = f rest ++ more

theorem Prepends.comp {f g : List Char → List Char} (hf : Prepends f) (hg : Prepends g) : Prepends fun s => f (g s) := by
  intro rest more
  show f (g (rest ++ more)) = f (g rest) ++ more
  rw [hg, hf]

theorem Prepends.eq_append {f : List Char → List Char} (hf : Prepends f) (rest : List Char) : f rest = f [] ++ rest :=
  hf [] rest

theorem prepends_append (s : List Char) : Prepends (s ++ ·) := fun _ _ => (List.append_assoc _ _ _).symm

theorem prepends_writeString (s : String) : Prepends (writeString s) := by
  intro rest more
  simp only [writeString, List.cons_append, List.append_assoc]

/-- Nothing but blanks. -/
def Blank (s : List Char) : Prop := ∀ c ∈ s, isBlank c = true

/-- The blanks of a way of writing. -/
structure Spacing where
  /-- What stands in front of an item or a member at a level, and of the bracket behind those of the next level. -/
  line : Nat → List Char
  /-- What stands between a colon and the value. -/
  colon : List Char
  blank_line : ∀ level, Blank (line level)
  blank_colon : Blank colon

namespace Spacing

def compact : Spacing where
  line _ := []
  colon := []
  blank_line _ := List.forall_mem_nil _
  blank_colon := List.forall_mem_nil _

def pretty : Spacing where
  line level := '\n' :: List.replicate (2 * level) ' '
  colon := [' ']
  blank_line level := by
    refine List.forall_mem_cons.2 ⟨by decide, fun c hc => ?_⟩
    rw [List.eq_of_mem_replicate hc]
    decide
  blank_colon := List.forall_mem_singleton.2 (by decide)

mutual

/-- The text of a value at a level, in front of what follows it. -/
def write (sp : Spacing) (level : Nat) : Value → List Char → List Char
  | .null, rest => 'n' :: 'u' :: 'l' :: 'l' :: rest
  | .integer n, rest => (toString n).toList ++ rest
  | .string s, rest => writeString s rest
  | .array [], rest => '[' :: ']' :: rest
  | .array (v :: vs), rest =>
    '[' :: (sp.line (level + 1) ++
      sp.write (level + 1) v (sp.writeItems (level + 1) vs (sp.line level ++ ']' :: rest)))
  | .object [], rest => '\x7b' :: '\x7d' :: rest
  | .object ((k, v) :: ms), rest =>
    '\x7b' :: (sp.line (level + 1) ++ writeString k (':' :: (sp.colon ++
      sp.write (level + 1) v (sp.writeMembers (level + 1) ms (sp.line level ++ '\x7d' :: rest)))))

/-- The items behind the first one. -/
def writeItems (sp : Spacing) (level : Nat) : List Value → List Char → List Char
  | [], rest => rest
  | v :: vs, rest => ',' :: (sp.line level ++ sp.write level v (sp.writeItems level vs rest))

/-- The members behind the first one. -/
def writeMembers (sp : Spacing) (level : Nat) : List (String × Value) → List Char → List Char
  | [], rest => rest
  | (k, v) :: ms, rest =>
    ',' :: (sp.line level ++ writeString k (':' :: (sp.colon ++ sp.write level v (sp.writeMembers level ms rest))))

end

/-! ## The two ways -/

mutual

theorem writeCompact_eq (level : Nat) :
    ∀ (v : Value) (rest : List Char), v.writeCompact rest = compact.write level v rest
  | .null, _ => rfl
  | .integer _, _ => rfl
  | .string _, _ => rfl
  | .array [], _ => rfl
  | .array (v :: vs), rest =>
    congrArg ('[' :: ·) (writeCompactItems_eq (level + 1) vs v (']' :: rest) (writeCompact_eq (level + 1) v))
  | .object [], _ => rfl
  | .object ((k, v) :: ms), rest =>
    congrArg ('\x7b' :: ·) (writeCompactMembers_eq (level + 1) ms k v ('\x7d' :: rest) (writeCompact_eq (level + 1) v))

theorem writeCompactItems_eq (level : Nat) : ∀ (vs : List Value) (v : Value) (rest : List Char),
    (∀ rest, v.writeCompact rest = compact.write level v rest) →
      Value.writeItems (v :: vs) rest = compact.write level v (compact.writeItems level vs rest)
  | [], _, rest, hv => hv rest
  | w :: vs, v, rest, hv => by
    have hrest := writeCompactItems_eq level vs w rest (writeCompact_eq level w)
    rw [Value.writeItems, hrest, hv]
    · rfl
    · exact List.cons_ne_nil _ _

theorem writeCompactMembers_eq (level : Nat) :
    ∀ (ms : List (String × Value)) (k : String) (v : Value) (rest : List Char),
      (∀ rest, v.writeCompact rest = compact.write level v rest) →
        Value.writeMembers ((k, v) :: ms) rest =
          writeString k (':' :: compact.write level v (compact.writeMembers level ms rest))
  | [], k, _, rest, hv => congrArg (fun text => writeString k (':' :: text)) (hv rest)
  | (j, w) :: ms, k, v, rest, hv => by
    have hrest := writeCompactMembers_eq level ms j w rest (writeCompact_eq level w)
    rw [Value.writeMembers, hrest, hv]
    · rfl
    · exact List.cons_ne_nil _ _

end

mutual

theorem writePretty_eq (level : Nat) :
    ∀ (v : Value) (rest : List Char), v.writePretty level rest = pretty.write level v rest
  | .null, _ => rfl
  | .integer _, _ => rfl
  | .string _, _ => rfl
  | .array [], _ => rfl
  | .array (v :: vs), rest =>
    congrArg ('[' :: ·) (writePrettyItems_eq (level + 1) vs v (Value.lineBreak level (']' :: rest))
      (writePretty_eq (level + 1) v))
  | .object [], _ => rfl
  | .object ((k, v) :: ms), rest =>
    congrArg ('\x7b' :: ·) (writePrettyMembers_eq (level + 1) ms k v (Value.lineBreak level ('\x7d' :: rest))
      (writePretty_eq (level + 1) v))

theorem writePrettyItems_eq (level : Nat) : ∀ (vs : List Value) (v : Value) (rest : List Char),
    (∀ rest, v.writePretty level rest = pretty.write level v rest) →
      Value.writePrettyItems level (v :: vs) rest =
        pretty.line level ++ pretty.write level v (pretty.writeItems level vs rest)
  | [], _, rest, hv => congrArg (Value.lineBreak level) (hv rest)
  | w :: vs, v, rest, hv => by
    have hrest := writePrettyItems_eq level vs w rest (writePretty_eq level w)
    rw [Value.writePrettyItems, hrest, hv]
    · rfl
    · exact List.cons_ne_nil _ _

theorem writePrettyMembers_eq (level : Nat) :
    ∀ (ms : List (String × Value)) (k : String) (v : Value) (rest : List Char),
      (∀ rest, v.writePretty level rest = pretty.write level v rest) →
        Value.writePrettyMembers level ((k, v) :: ms) rest =
          pretty.line level ++ writeString k (':' :: (pretty.colon ++
            pretty.write level v (pretty.writeMembers level ms rest)))
  | [], k, _, rest, hv => congrArg (fun text => Value.lineBreak level (writeString k (':' :: ' ' :: text))) (hv rest)
  | (j, w) :: ms, k, v, rest, hv => by
    have hrest := writePrettyMembers_eq level ms j w rest (writePretty_eq level w)
    rw [Value.writePrettyMembers, hrest, hv]
    · rfl
    · exact List.cons_ne_nil _ _

end

/-! ## In front of what follows -/

variable (sp : Spacing)

mutual

theorem prepends_write (level : Nat) : ∀ v : Value, Prepends (sp.write level v)
  | .null => prepends_append ['n', 'u', 'l', 'l']
  | .integer n => prepends_append (toString n).toList
  | .string s => prepends_writeString s
  | .array [] => prepends_append ['[', ']']
  | .array (v :: vs) =>
    (prepends_append ('[' :: sp.line (level + 1))).comp <|
    (prepends_write (level + 1) v).comp <|
    (prepends_writeItems (level + 1) vs).comp <|
    (prepends_append (sp.line level)).comp (prepends_append [']'])
  | .object [] => prepends_append ['\x7b', '\x7d']
  | .object ((k, v) :: ms) =>
    (prepends_append ('\x7b' :: sp.line (level + 1))).comp <|
    (prepends_writeString k).comp <|
    (prepends_append (':' :: sp.colon)).comp <|
    (prepends_write (level + 1) v).comp <|
    (prepends_writeMembers (level + 1) ms).comp <|
    (prepends_append (sp.line level)).comp (prepends_append ['\x7d'])

theorem prepends_writeItems (level : Nat) : ∀ vs : List Value, Prepends (sp.writeItems level vs)
  | [] => fun _ _ => rfl
  | v :: vs =>
    (prepends_append (',' :: sp.line level)).comp <|
    (prepends_write level v).comp (prepends_writeItems level vs)

theorem prepends_writeMembers (level : Nat) : ∀ ms : List (String × Value), Prepends (sp.writeMembers level ms)
  | [] => fun _ _ => rfl
  | (k, v) :: ms =>
    (prepends_append (',' :: sp.line level)).comp <|
    (prepends_writeString k).comp <|
    (prepends_append (':' :: sp.colon)).comp <|
    (prepends_write level v).comp (prepends_writeMembers level ms)

end

theorem length_le_write (level : Nat) (v : Value) (rest : List Char) : rest.length ≤ (sp.write level v rest).length := by
  rw [(prepends_write sp level v).eq_append, List.length_append]
  exact Nat.le_add_left _ _

/-- A text is extended at its end by writing it in front of more. -/
theorem ofList_write_append (level : Nat) (v : Value) (more : List Char) :
    String.ofList (sp.write level v []) ++ String.ofList more = String.ofList (sp.write level v more) := by
  rw [← String.ofList_append, ← (prepends_write sp level v).eq_append]

/-- Every item takes its comma at least. -/
theorem length_le_writeItems (level : Nat) (vs : List Value) (rest : List Char) :
    vs.length + rest.length ≤ (sp.writeItems level vs rest).length := by
  induction vs with
  | nil => simp [writeItems]
  | cons v vs ih =>
    have hwrite := length_le_write sp level v (sp.writeItems level vs rest)
    rw [writeItems, List.length_cons, List.length_cons, List.length_append]
    omega

theorem length_le_writeMembers (level : Nat) (ms : List (String × Value)) (rest : List Char) :
    ms.length + rest.length ≤ (sp.writeMembers level ms rest).length := by
  induction ms with
  | nil => simp [writeMembers]
  | cons m ms ih =>
    obtain ⟨k, v⟩ := m
    have hwrite := length_le_write sp level v (sp.writeMembers level ms rest)
    rw [writeMembers, (prepends_writeString k).eq_append]
    simp only [List.length_cons, List.length_append]
    omega

end Spacing

/-! ## Nesting -/

namespace Value

mutual

/-- How many arrays and objects lie inside one another at the deepest place. -/
def nesting : Value → Nat
  | null => 0
  | integer _ => 0
  | string _ => 0
  | array vs => 1 + nestingItems vs
  | object ms => 1 + nestingMembers ms

def nestingItems : List Value → Nat
  | [] => 0
  | v :: vs => max (nesting v) (nestingItems vs)

def nestingMembers : List (String × Value) → Nat
  | [] => 0
  | (_, v) :: ms => max (nesting v) (nestingMembers ms)

end

theorem nestingItems_le {n : Nat} {vs : List Value} (h : ∀ v ∈ vs, v.nesting ≤ n) : nestingItems vs ≤ n := by
  induction vs with
  | nil => exact Nat.zero_le n
  | cons v vs ih =>
    obtain ⟨hv, hvs⟩ := List.forall_mem_cons.1 h
    rw [nestingItems]
    exact Nat.max_le.2 ⟨hv, ih hvs⟩

end Value

end SyntaxWire.Json
