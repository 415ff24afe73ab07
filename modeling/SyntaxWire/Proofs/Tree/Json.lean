/-
Trees written as JSON are read back. A tree nests two levels for each of its
own, and one more where the payload of a node at the bottom is an array
(`nesting_le_iff`); if that is no more than a reader has left, it reads the
tree that was written, and else it stops at the bracket that is too many
(`reads_tree`). For whole texts that is `ofJson_toJson`.
-/
import SyntaxWire.Proofs.Bytes
import SyntaxWire.Proofs.Json.Reading
import SyntaxWire.Proofs.Tree
import SyntaxWire.Tree.Json

namespace SyntaxWire

open Json

variable {levels : Nat}

/-! ## Payloads -/

namespace Content

theorem read_of_quote {s text : List Char} (h : skipBlanks s = '"' :: text) :
    read levels s = (readString text).map fun (t, s) => (Content.text t, s) := by
  rw [read.eq_def]
  dsimp only
  rw [h]
  rfl

theorem read_of_bracket {s text : List Char} (h : skipBlanks s = '[' :: text) :
    read levels s = (Json.list read levels s).map fun (cs, s) => (Content.list cs, s) := by
  rw [list_of_bracket h, read.eq_def]
  dsimp only
  rw [h]
  cases levels <;> rfl

theorem read_of_digit {s text : List Char} {c : Char} (h : skipBlanks s = c :: text) (hc : isDigit c = true) :
    read levels s = (readNumber false (c :: text)).map fun (n, s) => (number n, s) := by
  rw [read.eq_def]
  dsimp only
  rw [h]
  split
  case h_9 h =>
    cases h
    exact if_pos hc
  all_goals next h => cases h <;> cases hc

theorem reads_text (t : String) : Reads levels (read levels) (.string t) (text t) := by
  intro sp level gap rest hgap _
  have hskip : skipBlanks (gap ++ sp.write level (.string t) rest) =
      '"' :: (t.toList.flatMap escapeChar ++ '"' :: rest) := skipBlanks_gap_cons hgap rfl _
  have hfits : (Value.string t).nesting ≤ levels := Nat.zero_le levels
  rw [if_pos hfits, read_of_quote hskip, readString_escaped]
  rfl

/-- What a byte is read as by itself. -/
def ofByte (b : UInt8) : Content := number (.integer b.toNat)

theorem reads_byte (b : UInt8) : Reads levels (read levels) (.natural b.toNat) (ofByte b) := by
  intro sp level gap rest hgap hrest
  have hn : b.toNat < UInt64.size := Nat.lt_trans b.toNat_lt (by decide)
  obtain ⟨c, text, htext, hc, hread⟩ := readNumber_write hn sp level hrest
  have hskip : skipBlanks (gap ++ sp.write level (.natural b.toNat) rest) = c :: text := by
    rw [htext, skipBlanks_gap_cons hgap (isBlank_of_isDigit hc)]
  have hfits : (Value.natural b.toNat).nesting ≤ levels := Nat.zero_le levels
  rw [if_pos hfits, read_of_digit hskip hc, hread]
  rfl

theorem reads_bytes (p : Bytes) :
    Reads levels (read levels) (.array (p.map fun b => .natural b.toNat)) (list (p.map ofByte)) := by
  have hitems (levels : Nat) :
      List.Forall₂ (Reads levels (read levels)) (p.map fun b => .natural b.toNat) (p.map ofByte) := by
    rw [List.forall₂_map_left_iff, List.forall₂_map_right_iff, List.forall₂_same]
    exact fun b _ => reads_byte b
  have hlist : Reads levels (Json.list read levels) (.array (p.map fun b => .natural b.toNat)) (p.map ofByte) := by
    cases levels with
    | zero => exact reads_list_zero _ _
    | succ levels => exact reads_list (hitems levels)
  intro sp level gap rest hgap hrest
  obtain ⟨text, hskip⟩ := skipBlanks_array hgap sp level (p.map fun b => .natural b.toNat) rest
  rw [read_of_bracket hskip, hlist sp level gap rest hgap hrest]
  split <;> rfl

theorem byte?_ofByte (b : UInt8) : (ofByte b).byte? = some b := by
  have hb : (0 : Int) ≤ b.toNat ∧ (b.toNat : Int) < 256 := ⟨Int.natCast_nonneg _, Int.ofNat_lt.2 b.toNat_lt⟩
  rw [ofByte, byte?, if_pos hb, Int.toNat_natCast, UInt8.ofNat_toNat]

theorem bytes?_list_ofByte (p : Bytes) : (list (p.map ofByte)).bytes? = some p := by
  rw [bytes?, List.mapM_map]
  induction p with
  | nil => rfl
  | cons b p ih => simp [byte?_ofByte, ih]

end Content

namespace Payload

theorem toJson_ne_null (p : Bytes) : toJson p ≠ .null := by
  unfold toJson
  split <;> exact Value.noConfusion

/-- A payload is read back as its bytes, from a string and from an array. -/
theorem reads_payload (p : Bytes) : Reads levels (reader levels) (toJson p) p := by
  obtain ⟨c, hread, hbytes⟩ : ∃ c : Content, Reads levels (Content.read levels) (toJson p) c ∧ c.bytes? = some p := by
    unfold toJson
    split
    · next t ht => exact ⟨.text t, Content.reads_text t, congrArg some (Bytes.text?_eq_some.1 ht)⟩
    · exact ⟨_, Content.reads_bytes p, Content.bytes?_list_ofByte p⟩
  intro sp level gap rest hgap hrest
  rw [reader, hread sp level gap rest hgap hrest, Except.ite_bind]
  dsimp only
  rw [hbytes]

/-- How many arrays an optional payload takes. -/
def nesting (p : Option Bytes) : Nat := (p.map fun p => (toJson p).nesting).getD 0

theorem nesting_toJson (p : Bytes) : (toJson p).nesting = if (Bytes.text? p).isSome then 0 else 1 := by
  have hitems : Value.nestingItems (p.map fun b => .natural b.toNat) = 0 := by
    induction p with
    | nil => rfl
    | cons b p ih =>
      rw [List.map_cons, Value.nestingItems, ih]
      rfl
  unfold toJson
  split
  · next t ht =>
    rw [ht]
    rfl
  · next ht =>
    rw [ht, Value.nesting, hitems]
    rfl

end Payload

/-! ## Trees -/

namespace TreeFormat

variable {κ : Type} {f : TreeFormat κ}

/-- Labels are read back as they were written, and their members are told from the others of a node. -/
structure Faithful (f : TreeFormat κ) : Prop where
  reads : ∀ (levels : Nat) (k : κ), Reads levels (f.read levels) (f.write k) k
  nesting_write : ∀ k : κ, (f.write k).nesting = 0
  ne_children : f.field ≠ "children"
  ne_payload : f.field ≠ "payload"

theorem faithful_named : named.Faithful where
  reads _ := reads_string
  nesting_write _ := rfl
  ne_children := by decide
  ne_payload := by decide

theorem faithful_coded : coded.Faithful where
  reads _ := reads_uint32
  nesting_write _ := rfl
  ne_children := by decide
  ne_payload := by decide

/-- A node is read back if its children are. Without children or a payload it has no members for them. -/
theorem reads_node (hf : f.Faithful) {children : Reader (List (Tree κ))} (k : κ) {cs : List (Tree κ)}
    (p : Option Bytes) (hcs : Reads levels (children levels) (.array (f.toJsonAll cs)) cs) :
    Reads (levels + 1) (f.node children (levels + 1)) (f.toJson (.node k cs p)) (.node k cs p) := by
  let takes := fun key slots s => (f.fields children).member levels key slots s
  have hkind : Takes levels takes f.field (f.write k) (none, none, none, ()) (some k, none, none, ()) :=
    Fields.takes_field (hf.reads levels k)
  have hchildren : Takes levels takes "children" (.array (f.toJsonAll cs)) (some k, none, none, ())
      (some k, some cs, none, ()) :=
    Fields.takes_later hf.ne_children (Fields.takes_field hcs)
  have hpayload (q : Bytes) (slot : Option (List (Tree κ))) :
      Takes levels takes "payload" (Payload.toJson q) (some k, slot, none, ()) (some k, slot, some (some q), ()) := by
    have hne : "children" ≠ "payload" := by decide
    exact Fields.takes_later hf.ne_payload <| Fields.takes_later hne <| Fields.takes_field <|
      reads_nullable (Payload.reads_payload q) (Payload.toJson_ne_null q)
  cases cs with
  | nil =>
    cases p with
    | none => exact reads_record (.cons hkind (.nil _)) rfl
    | some q => exact reads_record (.cons hkind (.cons (hpayload q none) (.nil _))) rfl
  | cons c cs =>
    cases p with
    | none => exact reads_record (.cons hkind (.cons hchildren (.nil _))) rfl
    | some q => exact reads_record (.cons hkind (.cons hchildren (.cons (hpayload q _) (.nil _)))) rfl

mutual

/-- A tree is read back if it does not nest deeper than what is left. -/
theorem reads_tree (hf : f.Faithful) : ∀ (t : Tree κ) (levels : Nat), Reads levels (f.reader levels) (f.toJson t) t
  | .node _ _ _, 0 => reads_record_zero _ _
  | .node k _ p, 1 => reads_node hf k p (reads_list_zero _ _)
  | .node k cs p, levels + 2 => reads_node hf k p (reads_list (reads_trees hf cs levels))

theorem reads_trees (hf : f.Faithful) : ∀ (ts : List (Tree κ)) (levels : Nat),
    List.Forall₂ (Reads levels (f.reader levels)) (f.toJsonAll ts) ts
  | [], _ => .nil
  | t :: ts, levels => .cons (reads_tree hf t levels) (reads_trees hf ts levels)

end

/-! ## How deep a tree nests -/

theorem nesting_leaf (hf : f.Faithful) (k : κ) (p : Option Bytes) :
    (f.toJson (.node k [] p)).nesting = 1 + Payload.nesting p := by
  cases p <;> simp [toJson, Value.nesting, Value.nestingMembers, hf.nesting_write, Payload.nesting]

theorem nesting_inner (hf : f.Faithful) (k : κ) (c : Tree κ) (cs : List (Tree κ)) (p : Option Bytes) :
    (f.toJson (.node k (c :: cs) p)).nesting =
      1 + max (1 + Value.nestingItems (f.toJsonAll (c :: cs))) (Payload.nesting p) := by
  cases p <;> simp [toJson, Value.nesting, Value.nestingMembers, hf.nesting_write, Payload.nesting]

end TreeFormat

/-- How deep arrays and objects nest in the JSON of a tree down to one of its nodes. -/
def Node.nesting {κ : Type} (n : Node κ) : Nat := 2 * n.depth - 1 + Payload.nesting n.payload

namespace TreeFormat

variable {κ : Type} {f : TreeFormat κ}

theorem nestingItems_le_iff {bound above : Nat} (t : Tree κ) (ts : List (Tree κ)) :
    Value.nestingItems (f.toJsonAll (t :: ts)) + above ≤ bound ↔
      ∀ u ∈ t :: ts, (f.toJson u).nesting + above ≤ bound := by
  induction ts generalizing t with
  | nil => rw [toJsonAll, toJsonAll, Value.nestingItems, Value.nestingItems, Nat.max_zero, List.forall_mem_singleton]
  | cons u us ih =>
    rw [toJsonAll, Value.nestingItems, List.forall_mem_cons, ← ih]
    omega

mutual

/-- A tree that lies below others nests as its nodes do from the outermost bracket on. -/
theorem nesting_le_iff (hf : f.Faithful) (bound : Nat) : ∀ (t : Tree κ) (above : Nat),
    (f.toJson t).nesting + 2 * above ≤ bound ↔ ∀ n ∈ t.preorder (above + 1), n.nesting ≤ bound
  | .node k [] p, above => by
    rw [nesting_leaf hf, Tree.preorder, Tree.preorderAll, List.forall_mem_singleton, Node.nesting]
    dsimp only
    omega
  | .node k (c :: cs) p, above => by
    have hchildren := nestingAll_le_iff hf bound (c :: cs) (above + 1)
    rw [← nestingItems_le_iff] at hchildren
    rw [nesting_inner hf, Tree.preorder, List.forall_mem_cons, ← hchildren, Node.nesting]
    dsimp only
    omega

theorem nestingAll_le_iff (hf : f.Faithful) (bound : Nat) : ∀ (ts : List (Tree κ)) (above : Nat),
    (∀ t ∈ ts, (f.toJson t).nesting + 2 * above ≤ bound) ↔ ∀ n ∈ Tree.preorderAll (above + 1) ts, n.nesting ≤ bound
  | [], _ => iff_of_true (List.forall_mem_nil _) (List.forall_mem_nil _)
  | t :: ts, above => by
    rw [List.forall_mem_cons, Tree.preorderAll, List.forall_mem_append, nesting_le_iff hf bound t above,
      nestingAll_le_iff hf bound ts above]

end

end TreeFormat

namespace Payload

theorem nesting_le_one (p : Option Bytes) : nesting p ≤ 1 := by
  cases p with
  | none => exact Nat.zero_le 1
  | some p =>
    have hp := nesting_toJson p
    show (toJson p).nesting ≤ 1
    split at hp <;> omega

theorem nesting_eq_zero {p : Option Bytes} : nesting p = 0 ↔ ∀ q, p = some q → ∃ s, Bytes.ofText s = q := by
  cases p with
  | none => exact iff_of_true rfl fun _ h => nomatch h
  | some p =>
    have hsome : nesting (some p) = if (Bytes.text? p).isSome then 0 else 1 := nesting_toJson p
    simp only [hsome, ite_eq_left_iff, Nat.one_ne_zero, imp_false, Option.isSome_iff_exists,
      Bytes.text?_eq_some, Option.some.injEq, forall_eq', Classical.not_not]

end Payload

/-- The JSON of the tree stays within the levels of a reader: no node lies deeper than the 64th
level, and there every payload is text. -/
def Tree.FitsJson {κ : Type} (t : Tree κ) : Prop :=
  ∀ n ∈ t.preorder 1, n.depth ≤ 64 ∧ (n.depth = 64 → ∀ p, n.payload = some p → ∃ s, Bytes.ofText s = p)

namespace TreeFormat

variable {κ : Type} {f : TreeFormat κ}

theorem nesting_le_maxLevels (hf : f.Faithful) {t : Tree κ} : (f.toJson t).nesting ≤ maxLevels ↔ t.FitsJson := by
  have hnodes := nesting_le_iff hf maxLevels t 0
  rw [Nat.mul_zero, Nat.add_zero, Nat.zero_add] at hnodes
  rw [hnodes]
  refine forall₂_congr fun n _ => ?_
  have hpayload := Payload.nesting_le_one n.payload
  rw [← Payload.nesting_eq_zero, Node.nesting, maxLevels]
  omega

/-! ## Whole texts -/

/-- Both texts of a tree, with blanks behind them. -/
theorem ofJson_texts (hf : f.Faithful) (t : Tree κ) {gap : List Char} (hgap : Blank gap) :
    ∀ text ∈ [(f.toJson t).compact, (f.toJson t).pretty],
      f.ofJson (text ++ String.ofList gap) =
        if (f.toJson t).nesting ≤ maxLevels then .ok t else .error .tooDeep :=
  readAll_texts (reads_tree hf t maxLevels) hgap

/-- **The text of a tree is read as that tree** as long as arrays and objects nest at most 127 deep
in it, and else both texts break the grammar, by nesting too deep. A payload by itself is a string
if it is UTF-8 and an array of its bytes if not, and is read back from either. -/
theorem ofJson_toJson :
    (∀ t : SyntaxTree, ∀ text ∈ [(named.toJson t).compact, (named.toJson t).pretty],
      named.ofJson text = if (named.toJson t).nesting ≤ 127 then .ok t else .error .tooDeep) ∧
    (∀ t : CodeTree, ∀ text ∈ [(coded.toJson t).compact, (coded.toJson t).pretty],
      coded.ofJson text = if (coded.toJson t).nesting ≤ 127 then .ok t else .error .tooDeep) ∧
    Fault.kind .tooDeep = .grammar ∧
    ∀ p : Bytes,
      ((∃ s, Bytes.ofText s = p ∧ Payload.toJson p = .string s) ∨
        (¬ ∃ s, Bytes.ofText s = p) ∧ Payload.toJson p = .array (p.map fun b => .natural b.toNat)) ∧
      ∀ text ∈ [(Payload.toJson p).compact, (Payload.toJson p).pretty], readAll Payload.reader text = .ok p := by
  have hblank : Blank [] := List.forall_mem_nil _
  have hempty (text : String) : text ++ String.ofList [] = text := String.append_empty
  refine ⟨fun t text htext => ?_, fun t text htext => ?_, rfl, fun p => ⟨?_, fun text htext => ?_⟩⟩
  · rw [← hempty text]
    exact ofJson_texts faithful_named t hblank text htext
  · rw [← hempty text]
    exact ofJson_texts faithful_coded t hblank text htext
  · rw [Payload.toJson]
    split
    · next s hs => exact .inl ⟨s, Bytes.text?_eq_some.1 hs, rfl⟩
    · next hs =>
      refine .inr ⟨fun ⟨s, h⟩ => ?_, rfl⟩
      rw [Bytes.text?_eq_some.2 h] at hs
      cases hs
  · have hfits : (Payload.toJson p).nesting ≤ maxLevels := Nat.le_trans (Payload.nesting_le_one (some p)) (by decide)
    have hread := readAll_texts (r := Payload.reader) (Payload.reads_payload p) hblank text htext
    rw [← hempty text, hread, if_pos hfits]

end TreeFormat

end SyntaxWire
