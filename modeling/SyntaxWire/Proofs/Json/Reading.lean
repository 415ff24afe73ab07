/-
What a reader makes of a written value. `Reads levels r v a` says that `r`
reads every text of the value `v`, whatever its spacing and whatever follows
it, as `a`, if `v` does not nest deeper than the levels that are left, and
else stops because it does. A reader of arrays has this from the reader of
the items (`reads_list`), and a reader of records from what reads the members
one after the other (`reads_record`). A whole text is then read as its value
(`readAll_write`).
-/
import Mathlib.Data.List.Forall2
import SyntaxWire.Json.Record
import SyntaxWire.Proofs.Except
import SyntaxWire.Proofs.Json.Scan
import SyntaxWire.Proofs.Json.Spacing

namespace SyntaxWire.Json

/-! ## Blanks -/

theorem continuesNumber_of_isBlank {c : Char} (h : isBlank c = true) : continuesNumber c = false := by
  simp only [isBlank, Bool.or_eq_true, decide_eq_true_eq] at h
  rcases h with ((rfl | rfl) | rfl) | rfl <;> decide

theorem stops_gap {gap s : List Char} (hgap : Blank gap) (hs : Stops s) : Stops (gap ++ s) := by
  cases gap with
  | nil => exact hs
  | cons c gap => exact stops_cons (continuesNumber_of_isBlank (hgap c List.mem_cons_self))

theorem skipBlanks_gap {gap : List Char} (hgap : Blank gap) (s : List Char) : skipBlanks (gap ++ s) = skipBlanks s :=
  List.dropWhile_append_of_pos hgap

theorem skipBlanks_cons {c : Char} (hc : isBlank c = false) (s : List Char) : skipBlanks (c :: s) = c :: s :=
  List.dropWhile_cons_of_neg (by simp [hc])

theorem skipBlanks_gap_cons {gap : List Char} (hgap : Blank gap) {c : Char} (hc : isBlank c = false) (s : List Char) :
    skipBlanks (gap ++ c :: s) = c :: s := by
  rw [skipBlanks_gap hgap, skipBlanks_cons hc]

theorem isBlank_of_isDigit {c : Char} (h : isDigit c = true) : isBlank c = false := by
  cases hblank : isBlank c with
  | false => rfl
  | true =>
    have hcontinues := continuesNumber_of_isBlank hblank
    simp [continuesNumber, h] at hcontinues

/-! ## How values start -/

/-- A character that the value can start with. -/
structure Value.Opens (v : Value) (c : Char) : Prop where
  notBlank : isBlank c = false
  notClosing : c ≠ ']'
  notNull : v ≠ .null → c ≠ 'n'

theorem Value.opens_digit {v : Value} {c : Char} (h : isDigit c = true) : v.Opens c where
  notBlank := isBlank_of_isDigit h
  notClosing := by
    rintro rfl
    cases h
  notNull := by
    rintro - rfl
    cases h

/-- A number starts with a digit. -/
theorem exists_digit (n : Nat) (rest : List Char) :
    ∃ c text, (toString n).toList ++ rest = c :: text ∧ isDigit c = true := by
  have hdigits : (toString n).toList = Nat.toDigits 10 n := String.toList_ofList
  obtain ⟨c, cs, hcs⟩ := List.exists_cons_of_ne_nil (@Nat.toDigits_ne_nil n 10)
  rw [hdigits, hcs]
  exact ⟨c, cs ++ rest, rfl, isDigit_of_mem_toDigits (n := n) (by rw [hcs]; exact List.mem_cons_self)⟩

theorem exists_opens (sp : Spacing) (level : Nat) (v : Value) (rest : List Char) :
    ∃ c text, sp.write level v rest = c :: text ∧ v.Opens c := by
  cases v with
  | null => exact ⟨_, _, rfl, rfl, by decide, fun h => absurd rfl h⟩
  | integer n =>
    cases n with
    | ofNat n =>
      obtain ⟨c, text, htext, hc⟩ := exists_digit n rest
      exact ⟨c, text, htext, Value.opens_digit hc⟩
    | negSucc n =>
      have hsign : (toString (Int.negSucc n)).toList = '-' :: (toString (n + 1)).toList := String.toList_append
      exact ⟨_, _, congrArg (· ++ rest) hsign, rfl, by decide, fun _ => by decide⟩
  | string s => exact ⟨_, _, rfl, rfl, by decide, fun _ => by decide⟩
  | array vs => cases vs <;> exact ⟨_, _, rfl, rfl, by decide, fun _ => by decide⟩
  | object ms => cases ms <;> exact ⟨_, _, rfl, rfl, by decide, fun _ => by decide⟩

/-! ## Readers -/

variable {α : Type} {levels : Nat}

/-- The reader reads the value as `a` if it may open as many arrays and objects as lie inside one
another in it. -/
def Reads (levels : Nat) (r : List Char → Except Fault (α × List Char)) (v : Value) (a : α) : Prop :=
  ∀ (sp : Spacing) (level : Nat) (gap rest : List Char), Blank gap → Stops rest →
    r (gap ++ sp.write level v rest) = if v.nesting ≤ levels then .ok (a, rest) else .error .tooDeep

theorem reads_string (s : String) : Reads levels (string levels) (.string s) s := by
  intro sp level gap rest hgap _
  have hskip : skipBlanks (gap ++ sp.write level (.string s) rest) =
      '"' :: (s.toList.flatMap escapeChar ++ '"' :: rest) := skipBlanks_gap_cons hgap rfl _
  have hfits : (Value.string s).nesting ≤ levels := Nat.zero_le levels
  rw [string, hskip, if_pos hfits]
  exact readString_escaped s rest

/-- A written number is read as a number, from its first digit on. -/
theorem readNumber_write {n : Nat} (hn : n < UInt64.size) (sp : Spacing) (level : Nat) {rest : List Char}
    (hrest : Stops rest) :
    ∃ c text, sp.write level (.natural n) rest = c :: text ∧ isDigit c = true ∧
      readNumber false (c :: text) = .ok (.integer n, rest) := by
  obtain ⟨c, text, htext, hc⟩ := exists_digit n rest
  have hdigits : (toString n).toList = Nat.toDigits 10 n := String.toList_ofList
  refine ⟨c, text, htext, hc, ?_⟩
  rw [← htext, hdigits]
  exact readNumber_toDigits hn hrest

theorem reads_integer {low high : Int} {expected : String} {n : Nat} (hn : n < UInt64.size) (hlow : low ≤ n)
    (hhigh : n ≤ high) : Reads levels (integer low high expected levels) (.natural n) n := by
  intro sp level gap rest hgap hrest
  obtain ⟨c, text, htext, hc, hread⟩ := readNumber_write hn sp level hrest
  have hskip : skipBlanks (gap ++ sp.write level (.natural n) rest) = c :: text := by
    rw [htext, skipBlanks_gap_cons hgap (isBlank_of_isDigit hc)]
  have hfits : (Value.natural n).nesting ≤ levels := Nat.zero_le levels
  rw [integer, hskip, if_pos hfits]
  split
  · next h =>
    cases h
    cases hc
  · next h =>
    cases h
    rw [if_pos hc, hread]
    exact if_pos ⟨hlow, hhigh⟩
  · next h => cases h

theorem reads_natural {bound : Nat} {expected : String} {n : Nat} (hbound : bound ≤ UInt64.size) (hn : n < bound) :
    Reads levels (natural bound expected levels) (.natural n) n := by
  intro sp level gap rest hgap hrest
  have hfits : (Value.natural n).nesting ≤ levels := Nat.zero_le levels
  have hinteger : Reads levels (integer 0 (bound - 1) expected levels) (.natural n) n :=
    reads_integer (by omega) (by omega) (by omega)
  have hread := hinteger sp level gap rest hgap hrest
  rw [if_pos hfits] at hread ⊢
  rw [natural, hread]
  rfl

theorem reads_uint32 (n : UInt32) : Reads levels (uint32 levels) (.natural n.toNat) n := by
  intro sp level gap rest hgap hrest
  have hfits : (Value.natural n.toNat).nesting ≤ levels := Nat.zero_le levels
  have hread := @reads_natural levels UInt32.size "u32" n.toNat (by decide) n.toNat_lt sp level gap rest hgap hrest
  rw [if_pos hfits] at hread ⊢
  rw [uint32, hread]
  exact congrArg (fun n => Except.ok (n, rest)) UInt32.ofNat_toNat

/-- What reads a value that is not `null` reads it also where `null` may stand. -/
theorem reads_nullable {r : Reader α} {v : Value} {a : α} (h : Reads levels (r levels) v a) (hv : v ≠ .null) :
    Reads levels (nullable r levels) v (some a) := by
  intro sp level gap rest hgap hrest
  obtain ⟨c, text, htext, hc⟩ := exists_opens sp level v rest
  have hread := h sp level [] rest (List.forall_mem_nil _) hrest
  have hskip : skipBlanks (gap ++ sp.write level v rest) = c :: text := by
    rw [htext, skipBlanks_gap_cons hgap hc.notBlank]
  rw [List.nil_append, htext] at hread
  rw [nullable, hskip]
  split
  · next h =>
    cases h
    exact absurd rfl (hc.notNull hv)
  · rw [hread]
    split <;> rfl

/-! ## Arrays -/

section Items

variable {sp : Spacing} {level : Nat} {gap rest : List Char} {item : List Char → Except Fault (α × List Char)}

theorem nextItem_write (hgap : Blank gap) (v : Value) :
    nextItem true (gap ++ sp.write level v rest) = .ok (some (sp.write level v rest)) := by
  obtain ⟨c, text, htext, hc⟩ := exists_opens sp level v rest
  rw [htext, nextItem, skipBlanks_gap_cons hgap hc.notBlank]
  split
  · next h => cases h
  · next h => exact absurd (List.cons.inj h).1 hc.notClosing
  · next h => cases h; rfl

theorem nextItem_comma (hgap : Blank gap) (v : Value) :
    nextItem false (',' :: (gap ++ sp.write level v rest)) = .ok (some (sp.write level v rest)) := by
  obtain ⟨c, text, htext, hc⟩ := exists_opens sp level v rest
  have hcomma : skipBlanks (',' :: (gap ++ c :: text)) = ',' :: (gap ++ c :: text) := skipBlanks_cons rfl _
  rw [htext, nextItem]
  split
  · next h => cases hcomma.symm.trans h
  · next h => exact absurd (List.cons.inj (hcomma.symm.trans h)).1 (by decide)
  · next h =>
    cases hcomma.symm.trans h
    rw [if_neg Bool.false_ne_true, if_pos rfl, skipBlanks_gap_cons hgap hc.notBlank]
    split
    · next h => cases h
    · next h => exact absurd (List.cons.inj h).1 hc.notClosing
    · rfl

theorem nextItem_close (first : Bool) (hgap : Blank gap) : nextItem first (gap ++ ']' :: rest) = .ok none := by
  rw [nextItem, skipBlanks_gap_cons hgap rfl]
  rfl

theorem closeList_close (hgap : Blank gap) : closeList (gap ++ ']' :: rest) = .ok rest := by
  rw [closeList, skipBlanks_gap_cons hgap rfl]
  rfl

/-- One item of an array is read, or it is too deep. -/
theorem items_of_nextItem {v : Value} {a : α} {done : List α} {s : List Char} {fuel : Nat} (h : Reads levels item v a)
    (hs : nextItem done.isEmpty s = .ok (some (sp.write level v rest))) (hrest : Stops rest) :
    items item (fuel + 1) done s =
      if v.nesting ≤ levels then items item fuel (a :: done) rest else .error .tooDeep := by
  have hread := h sp level [] rest (List.forall_mem_nil _) hrest
  rw [List.nil_append] at hread
  rw [items, hs, Except.ok_bind]
  dsimp only
  rw [hread, Except.ite_bind]

theorem items_close (done : List α) (fuel : Nat) (hgap : Blank gap) :
    items item (fuel + 1) done (gap ++ ']' :: rest) = .ok (done.reverse, rest) := by
  rw [items, nextItem_close _ hgap, Except.ok_bind]
  dsimp only
  rw [closeList_close hgap, Except.ok_bind]

theorem stops_writeItems (vs : List Value) (hgap : Blank gap) : Stops (sp.writeItems level vs (gap ++ ']' :: rest)) := by
  cases vs with
  | nil => exact stops_gap hgap (stops_cons rfl)
  | cons v vs => exact stops_cons rfl

/-- The items behind the first one. -/
theorem items_writeItems {vs : List Value} {as : List α} (h : List.Forall₂ (Reads levels item) vs as) (hgap : Blank gap)
    {fuel : Nat} (hfuel : vs.length ≤ fuel) {done : List α} (hdone : done ≠ []) :
    items item (fuel + 1) done (sp.writeItems level vs (gap ++ ']' :: rest)) =
      if Value.nestingItems vs ≤ levels then .ok (done.reverse ++ as, rest) else .error .tooDeep := by
  induction h generalizing fuel done with
  | nil =>
    have hfits : Value.nestingItems [] ≤ levels := Nat.zero_le levels
    rw [if_pos hfits, List.append_nil]
    exact items_close done fuel hgap
  | @cons v a vs as hv _ ih =>
    have hnext : nextItem done.isEmpty (sp.writeItems level (v :: vs) (gap ++ ']' :: rest)) =
        .ok (some (sp.write level v (sp.writeItems level vs (gap ++ ']' :: rest)))) := by
      rw [List.isEmpty_eq_false_iff.2 hdone]
      exact nextItem_comma (sp.blank_line level) v
    obtain ⟨fuel, rfl⟩ := Nat.exists_eq_add_one_of_ne_zero (Nat.ne_zero_of_lt hfuel)
    rw [items_of_nextItem hv hnext (stops_writeItems vs hgap),
      ih (Nat.le_of_succ_le_succ hfuel) (List.cons_ne_nil a done), List.reverse_cons, List.append_assoc]
    simp only [Value.nestingItems, Nat.max_le, ite_and]
    rfl

end Items

theorem list_of_bracket {item : Reader α} {s text : List Char} (h : skipBlanks s = '[' :: text) :
    list item levels s = enter levels fun levels => items (item levels) (text.length + 1) [] text := by
  rw [list, h]
  rfl

theorem skipBlanks_array {gap : List Char} (hgap : Blank gap) (sp : Spacing) (level : Nat) (vs : List Value)
    (rest : List Char) : ∃ text, skipBlanks (gap ++ sp.write level (.array vs) rest) = '[' :: text := by
  cases vs <;> exact ⟨_, skipBlanks_gap_cons hgap rfl _⟩

/-- A reader of arrays with one more level than the reader of the items. -/
theorem reads_list {item : Reader α} {vs : List Value} {as : List α}
    (h : List.Forall₂ (Reads levels (item levels)) vs as) :
    Reads (levels + 1) (list item (levels + 1)) (.array vs) as := by
  intro sp level gap rest hgap hrest
  have hnesting : (Value.array vs).nesting ≤ levels + 1 ↔ Value.nestingItems vs ≤ levels := by
    rw [Value.nesting]
    omega
  simp only [hnesting]
  cases h with
  | nil =>
    have hskip : skipBlanks (gap ++ sp.write level (.array []) rest) = '[' :: ']' :: rest :=
      skipBlanks_gap_cons hgap rfl _
    have hfits : Value.nestingItems [] ≤ levels := Nat.zero_le levels
    rw [list_of_bracket hskip, if_pos hfits]
    exact items_close [] _ (List.forall_mem_nil _)
  | @cons v a vs as hv hvs =>
    -- Behind the first item and its gap stands the rest of the items with the closing bracket.
    let tail := sp.writeItems (level + 1) vs (sp.line level ++ ']' :: rest)
    have hskip : skipBlanks (gap ++ sp.write level (.array (v :: vs)) rest) =
        '[' :: (sp.line (level + 1) ++ sp.write (level + 1) v tail) := skipBlanks_gap_cons hgap rfl _
    have hfirst : nextItem ([] : List α).isEmpty (sp.line (level + 1) ++ sp.write (level + 1) v tail) =
        .ok (some (sp.write (level + 1) v tail)) := nextItem_write (sp.blank_line (level + 1)) v
    have htail : Stops tail := stops_writeItems vs (sp.blank_line level)
    obtain ⟨fuel, hfuel, hvs_fuel⟩ : ∃ fuel, (sp.line (level + 1) ++ sp.write (level + 1) v tail).length = fuel + 1 ∧
        vs.length ≤ fuel := by
      have hwrite := sp.length_le_write (level + 1) v tail
      have hitems : vs.length + (sp.line level ++ ']' :: rest).length ≤ tail.length :=
        sp.length_le_writeItems (level + 1) vs _
      rw [List.length_append, List.length_cons] at hitems
      rw [List.length_append]
      exact ⟨_ - 1, (Nat.sub_add_cancel (by omega)).symm, by omega⟩
    rw [list_of_bracket hskip, hfuel]
    show items (item levels) (fuel + 1 + 1) [] _ = _
    rw [items_of_nextItem hv hfirst htail, items_writeItems hvs (sp.blank_line level) hvs_fuel (List.cons_ne_nil a [])]
    simp only [Value.nestingItems, Nat.max_le, ite_and]
    rfl

theorem reads_list_zero {item : Reader α} (vs : List Value) (as : List α) : Reads 0 (list item 0) (.array vs) as := by
  intro sp level gap rest hgap hrest
  have hnesting : ¬ (Value.array vs).nesting ≤ 0 := by
    rw [Value.nesting]
    omega
  obtain ⟨text, hskip⟩ := skipBlanks_array hgap sp level vs rest
  rw [list_of_bracket hskip, if_neg hnesting]
  rfl

/-- Items that are read back wherever they stand make an array that is read back. -/
theorem reads_list_map {β : Type} {item : Reader β} {f : β → Value}
    (h : ∀ (levels : Nat) (b : β), Reads levels (item levels) (f b) b) (bs : List β) :
    Reads levels (list item levels) (.array (bs.map f)) bs := by
  cases levels with
  | zero => exact reads_list_zero _ _
  | succ levels =>
    refine reads_list ?_
    rw [List.forall₂_map_left_iff, List.forall₂_same]
    exact fun b _ => h levels b

/-! ## Objects -/

section Members

variable {σ : Type} {sp : Spacing} {level : Nat} {gap rest : List Char}
  {member : String → σ → List Char → Except Fault (σ × List Char)}

/-- A member with the value takes the state from `s` to `s'`, unless it is too deep. -/
def Takes (levels : Nat) (member : String → σ → List Char → Except Fault (σ × List Char)) (k : String) (v : Value)
    (s s' : σ) : Prop :=
  ∀ (sp : Spacing) (level : Nat) (rest : List Char), Stops rest →
    member k s (':' :: (sp.colon ++ sp.write level v rest)) =
      if v.nesting ≤ levels then .ok (s', rest) else .error .tooDeep

/-- The members take the state from one to the other in their order. -/
inductive Gathers (levels : Nat) (member : String → σ → List Char → Except Fault (σ × List Char)) :
    σ → List (String × Value) → σ → Prop where
  | nil (s : σ) : Gathers levels member s [] s
  | cons {s s' s'' : σ} {k : String} {v : Value} {ms : List (String × Value)} (hv : Takes levels member k v s s')
      (hms : Gathers levels member s' ms s'') : Gathers levels member s ((k, v) :: ms) s''

theorem nextKey_key (hgap : Blank gap) (k : String) : nextKey true (gap ++ writeString k rest) = .ok (some k, rest) := by
  rw [nextKey, writeString, skipBlanks_gap_cons hgap rfl]
  exact congrArg (· >>= fun p => .ok (some p.1, p.2)) (readString_escaped k rest)

theorem nextKey_comma (hgap : Blank gap) (k : String) :
    nextKey false (',' :: (gap ++ writeString k rest)) = .ok (some k, rest) := by
  have hcomma : skipBlanks (',' :: (gap ++ writeString k rest)) = ',' :: (gap ++ writeString k rest) :=
    skipBlanks_cons rfl _
  rw [nextKey]
  split
  · next h => cases hcomma.symm.trans h
  · next h => exact absurd (List.cons.inj (hcomma.symm.trans h)).1 (by decide)
  · next h =>
    cases hcomma.symm.trans h
    rw [if_neg Bool.false_ne_true, if_pos rfl, writeString, skipBlanks_gap_cons hgap rfl]
    exact congrArg (· >>= fun p => .ok (some p.1, p.2)) (readString_escaped k rest)

theorem nextKey_close (first : Bool) (hgap : Blank gap) : nextKey first (gap ++ '\x7d' :: rest) = .ok (none, rest) := by
  rw [nextKey, skipBlanks_gap_cons hgap rfl]
  rfl

theorem members_of_nextKey {k : String} {v : Value} {s s' : σ} {first : Bool} {text : List Char} {fuel : Nat}
    (h : Takes levels member k v s s')
    (htext : nextKey first text = .ok (some k, ':' :: (sp.colon ++ sp.write level v rest))) (hrest : Stops rest) :
    members member (fuel + 1) first s text =
      if v.nesting ≤ levels then members member fuel false s' rest else .error .tooDeep := by
  rw [members, htext, Except.ok_bind]
  dsimp only
  rw [h sp level rest hrest, Except.ite_bind]

theorem members_close (s : σ) (first : Bool) (fuel : Nat) (hgap : Blank gap) :
    members member (fuel + 1) first s (gap ++ '\x7d' :: rest) = .ok (s, rest) := by
  rw [members, nextKey_close _ hgap]
  rfl

theorem stops_writeMembers (ms : List (String × Value)) (hgap : Blank gap) :
    Stops (sp.writeMembers level ms (gap ++ '\x7d' :: rest)) := by
  cases ms with
  | nil => exact stops_gap hgap (stops_cons rfl)
  | cons m ms => exact stops_cons rfl

/-- The members behind the first one. -/
theorem members_writeMembers {ms : List (String × Value)} {s s' : σ} (h : Gathers levels member s ms s')
    (hgap : Blank gap) {fuel : Nat} (hfuel : ms.length ≤ fuel) :
    members member (fuel + 1) false s (sp.writeMembers level ms (gap ++ '\x7d' :: rest)) =
      if Value.nestingMembers ms ≤ levels then .ok (s', rest) else .error .tooDeep := by
  induction h generalizing fuel with
  | nil s =>
    have hfits : Value.nestingMembers [] ≤ levels := Nat.zero_le levels
    rw [if_pos hfits]
    exact members_close s false fuel hgap
  | @cons s s' s'' k v ms hv _ ih =>
    have hnext : nextKey false (sp.writeMembers level ((k, v) :: ms) (gap ++ '\x7d' :: rest)) =
        .ok (some k, ':' :: (sp.colon ++ sp.write level v (sp.writeMembers level ms (gap ++ '\x7d' :: rest)))) :=
      nextKey_comma (sp.blank_line level) k
    obtain ⟨fuel, rfl⟩ := Nat.exists_eq_add_one_of_ne_zero (Nat.ne_zero_of_lt hfuel)
    rw [members_of_nextKey hv hnext (stops_writeMembers ms hgap), ih (Nat.le_of_succ_le_succ hfuel)]
    simp only [Value.nestingMembers, Nat.max_le, ite_and]

theorem skipBlanks_object (hgap : Blank gap) (sp : Spacing) (level : Nat) (ms : List (String × Value))
    (rest : List Char) : ∃ text, skipBlanks (gap ++ sp.write level (.object ms) rest) = '\x7b' :: text := by
  cases ms <;> exact ⟨_, skipBlanks_gap_cons hgap rfl _⟩

/-- All members of an object, behind its brace. -/
theorem members_write {ms : List (String × Value)} {s s' : σ} (h : Gathers levels member s ms s') (hgap : Blank gap) :
    ∃ text, skipBlanks (gap ++ sp.write level (.object ms) rest) = '\x7b' :: text ∧
      members member (text.length + 1) true s text =
        if Value.nestingMembers ms ≤ levels then .ok (s', rest) else .error .tooDeep := by
  cases h with
  | nil =>
    have hfits : Value.nestingMembers [] ≤ levels := Nat.zero_le levels
    refine ⟨'\x7d' :: rest, skipBlanks_gap_cons hgap rfl _, ?_⟩
    rw [if_pos hfits]
    exact members_close s true _ (List.forall_mem_nil _)
  | @cons s s'' s' k v ms hv hms =>
    -- Behind the first value stands the rest of the members with the closing brace.
    let tail := sp.writeMembers (level + 1) ms (sp.line level ++ '\x7d' :: rest)
    let value := ':' :: (sp.colon ++ sp.write (level + 1) v tail)
    have hfirst : nextKey true (sp.line (level + 1) ++ writeString k value) = .ok (some k, value) :=
      nextKey_key (sp.blank_line (level + 1)) k
    have htail : Stops tail := stops_writeMembers ms (sp.blank_line level)
    obtain ⟨fuel, hfuel, hms_fuel⟩ : ∃ fuel, (sp.line (level + 1) ++ writeString k value).length = fuel + 1 ∧
        ms.length ≤ fuel := by
      have hvalue : (sp.write (level + 1) v tail).length < value.length := by
        rw [List.length_cons, List.length_append]
        omega
      have hwrite := sp.length_le_write (level + 1) v tail
      have hmembers : ms.length + (sp.line level ++ '\x7d' :: rest).length ≤ tail.length :=
        sp.length_le_writeMembers (level + 1) ms _
      rw [List.length_append, (prepends_writeString k).eq_append, List.length_append]
      exact ⟨_ - 1, (Nat.sub_add_cancel (by omega)).symm, by omega⟩
    refine ⟨sp.line (level + 1) ++ writeString k value, skipBlanks_gap_cons hgap rfl _, ?_⟩
    rw [hfuel, members_of_nextKey hv hfirst htail, members_writeMembers hms (sp.blank_line level) hms_fuel]
    simp only [Value.nestingMembers, Nat.max_le, ite_and]

end Members

/-! ## Records -/

namespace Fields

variable {β : Type} {ts : List Type} {f : Field β} {fs : Fields ts}

theorem member_cons (k : String) (slot : Option β) (slots : Slots ts) (s : List Char) :
    (cons f fs).member levels k (slot, slots) s =
      if f.name = k then
        if slot.isSome then .error (.shape (.duplicateField k))
        else readColon s >>= fun s => f.value levels s >>= fun (b, s) => .ok ((some b, slots), s)
      else fs.member levels k slots s >>= fun (slots, s) => .ok ((slot, slots), s) := rfl

/-- A member is read as the value of the field that it is named for. -/
theorem takes_field {v : Value} {b : β} {slots : Slots ts} (h : Reads levels (f.value levels) v b) :
    Takes levels (fun k slots s => (cons f fs).member levels k slots s) f.name v (none, slots) (some b, slots) := by
  intro sp level rest hrest
  have hread := h sp level sp.colon rest sp.blank_colon hrest
  have hcolon : readColon (':' :: (sp.colon ++ sp.write level v rest)) = .ok (sp.colon ++ sp.write level v rest) := rfl
  have hunset : ¬ (none : Option β).isSome = true := Bool.false_ne_true
  dsimp only
  rw [member_cons, if_pos rfl, if_neg hunset, hcolon, Except.ok_bind, hread, Except.ite_bind]
  rfl

theorem takes_later {k : String} {v : Value} {slot : Option β} {slots slots' : Slots ts} (hk : f.name ≠ k)
    (h : Takes levels (fun k slots s => fs.member levels k slots s) k v slots slots') :
    Takes levels (fun k slots s => (cons f fs).member levels k slots s) k v (slot, slots) (slot, slots') := by
  intro sp level rest hrest
  have hread := h sp level rest hrest
  dsimp only at hread ⊢
  rw [member_cons, if_neg hk, hread, Except.ite_bind]
  rfl

end Fields

section Records

variable {ts : List Type} {fields : Fields ts} {make : Values ts → α} {name : String}

theorem record_of_brace {s text : List Char} (h : skipBlanks s = '\x7b' :: text) :
    record name fields make levels s = enter levels (fun levels =>
      members (fun key slots s => fields.member levels key slots s) (text.length + 1) true fields.empty text >>=
        fun (slots, s) => fields.complete slots >>= fun vs => .ok (make vs, s)) := by
  rw [record, h]
  rfl

/-- A record is read if its members fill the slots of all fields that may not be left out. -/
theorem reads_record {ms : List (String × Value)} {slots : Slots ts} {vs : Values ts}
    (h : Gathers levels (fun k slots s => fields.member levels k slots s) fields.empty ms slots)
    (hvs : fields.complete slots = .ok vs) :
    Reads (levels + 1) (record name fields make (levels + 1)) (.object ms) (make vs) := by
  intro sp level gap rest hgap hrest
  obtain ⟨text, hskip, hread⟩ : ∃ text, skipBlanks (gap ++ sp.write level (.object ms) rest) = '\x7b' :: text ∧
      members (fun key slots s => fields.member levels key slots s) (text.length + 1) true fields.empty text =
        if Value.nestingMembers ms ≤ levels then .ok (slots, rest) else .error .tooDeep :=
    members_write h hgap
  have hnesting : (Value.object ms).nesting ≤ levels + 1 ↔ Value.nestingMembers ms ≤ levels := by
    rw [Value.nesting]
    omega
  simp only [record_of_brace hskip, enter, hread, hnesting, Except.ite_bind, hvs, Except.ok_bind]

theorem reads_record_zero (ms : List (String × Value)) (a : α) : Reads 0 (record name fields make 0) (.object ms) a := by
  intro sp level gap rest hgap hrest
  have hnesting : ¬ (Value.object ms).nesting ≤ 0 := by
    rw [Value.nesting]
    omega
  obtain ⟨text, hskip⟩ := skipBlanks_object hgap sp level ms rest
  rw [record_of_brace hskip, if_neg hnesting]
  rfl

end Records

/-! ## Variants -/

theorem variant_of_quote {variants : List (Variant α)} {s text : List Char} (h : skipBlanks s = '"' :: text) :
    variant variants levels s = readString text >>= fun (name, s) => findVariant variants name >>= fun v =>
      match v with
      | .plain _ a => .ok (a, s)
      | .holding _ _ => .error (wrongType .unitVariant "newtype variant") := by
  rw [variant, h]
  rfl

/-- A variant that holds nothing is read from its name. -/
theorem reads_variant {variants : List (Variant α)} {name n : String} {a : α}
    (h : findVariant variants name = .ok (.plain n a)) : Reads levels (variant variants levels) (.string name) a := by
  intro sp level gap rest hgap _
  have hskip : skipBlanks (gap ++ sp.write level (.string name) rest) =
      '"' :: (name.toList.flatMap escapeChar ++ '"' :: rest) := skipBlanks_gap_cons hgap rfl _
  have hfits : (Value.string name).nesting ≤ levels := Nat.zero_le levels
  rw [variant_of_quote hskip, readString_escaped, Except.ok_bind, if_pos hfits]
  dsimp only
  rw [h, Except.ok_bind]

/-! ## Whole texts -/

theorem readAll_write {r : Reader α} {v : Value} {a : α} (h : Reads maxLevels (r maxLevels) v a) (sp : Spacing)
    {gap : List Char} (hgap : Blank gap) :
    readAll r (String.ofList (sp.write 0 v gap)) = if v.nesting ≤ maxLevels then .ok a else .error .tooDeep := by
  have hstops : Stops gap := by
    have hend := stops_gap hgap stops_nil
    rwa [List.append_nil] at hend
  have hread := h sp 0 [] gap (List.forall_mem_nil _) hstops
  have hend : (skipBlanks gap).isEmpty = true := by
    have hskip := skipBlanks_gap hgap []
    rw [List.append_nil] at hskip
    rw [hskip]
    rfl
  rw [List.nil_append] at hread
  rw [readAll, String.toList_ofList, hread, Except.ite_bind]
  dsimp only
  rw [if_pos hend]

/-- Both texts of a value, with the same blanks behind them. -/
theorem readAll_texts {r : Reader α} {v : Value} {a : α} (h : Reads maxLevels (r maxLevels) v a) {gap : List Char}
    (hgap : Blank gap) :
    ∀ text ∈ [v.compact, v.pretty],
      readAll r (text ++ String.ofList gap) = if v.nesting ≤ maxLevels then .ok a else .error .tooDeep := by
  have hcompact : v.compact = String.ofList (Spacing.compact.write 0 v []) :=
    congrArg String.ofList (Spacing.writeCompact_eq 0 v [])
  have hpretty : v.pretty = String.ofList (Spacing.pretty.write 0 v []) :=
    congrArg String.ofList (Spacing.writePretty_eq 0 v [])
  rw [List.forall_mem_cons, List.forall_mem_singleton, hcompact, hpretty, Spacing.ofList_write_append,
    Spacing.ofList_write_append]
  exact ⟨readAll_write h _ hgap, readAll_write h _ hgap⟩

end SyntaxWire.Json
