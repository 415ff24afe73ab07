/-
The written form of a coded tree: every node in pre-order as its code, the
number of its children and its payload, if it has one. Every node takes two
bytes or more, so a count of children is at most half of what is written.
Where the code tells whether there is a payload, no written form is the front
of another one (`written_append_inj`).
-/
import SyntaxWire.Proofs.Tree
import SyntaxWire.Proofs.Varint

namespace SyntaxWire

/-- A payload behind its length. -/
def payloadText : Option Bytes → Bytes
  | none => []
  | some payload => Varint.encode payload.length ++ payload

def nodeText (code : KindCode) (count : Nat) (payload : Option Bytes) : Bytes :=
  Varint.encode code.toNat ++ Varint.encode count ++ payloadText payload

def Node.text (n : Node KindCode) : Bytes := nodeText n.kind n.count n.payload

namespace Tree

mutual

def written : CodeTree → Bytes
  | node code cs p => nodeText code cs.length p ++ writtenAll cs

def writtenAll : List CodeTree → Bytes
  | [] => []
  | t :: ts => written t ++ writtenAll ts

end

theorem writtenAll_append (ts us : List CodeTree) : writtenAll (ts ++ us) = writtenAll ts ++ writtenAll us := by
  induction ts with
  | nil => rfl
  | cons t ts ih => rw [List.cons_append, writtenAll, writtenAll, ih, List.append_assoc]

mutual

theorem flatMap_preorder (depth : Nat) : ∀ t : CodeTree, (t.preorder depth).flatMap Node.text = t.written
  | node code cs p => by
    rw [preorder, List.flatMap_cons, flatMap_preorderAll (depth + 1) cs, written, Node.text]

theorem flatMap_preorderAll (depth : Nat) :
    ∀ ts : List CodeTree, (preorderAll depth ts).flatMap Node.text = writtenAll ts
  | [] => rfl
  | t :: ts => by
    rw [preorderAll, List.flatMap_append, flatMap_preorder depth t, flatMap_preorderAll depth ts, writtenAll]

end

/-! ## Lengths -/

theorem two_le_nodeText (code : KindCode) (count : Nat) (payload : Option Bytes) :
    2 ≤ (nodeText code count payload).length := by
  have hcode := Varint.length_encode_pos code.toNat
  have hcount := Varint.length_encode_pos count
  rw [nodeText, List.length_append, List.length_append]
  omega

theorem length_le_writtenAll (ts : List CodeTree) : 2 * ts.length ≤ (writtenAll ts).length := by
  induction ts with
  | nil => exact Nat.le_refl _
  | cons t ts ih =>
    cases t with
    | node code cs p =>
      have := two_le_nodeText code cs.length p
      rw [List.length_cons, writtenAll, written, List.length_append, List.length_append]
      omega

mutual

theorem count_le_written {depth : Nat} :
    ∀ {t : CodeTree} {n : Node KindCode}, n ∈ t.preorder depth → 2 * n.count ≤ t.written.length
  | node code cs p, n, h => by
    rw [preorder, List.mem_cons] at h
    rw [written, List.length_append]
    rcases h with rfl | h
    · have := length_le_writtenAll cs
      dsimp only
      omega
    · have := count_le_writtenAll h
      omega

theorem count_le_writtenAll {depth : Nat} :
    ∀ {ts : List CodeTree} {n : Node KindCode}, n ∈ preorderAll depth ts → 2 * n.count ≤ (writtenAll ts).length
  | [], _, h => by cases h
  | t :: ts, n, h => by
    rw [preorderAll, List.mem_append] at h
    rw [writtenAll, List.length_append]
    rcases h with h | h
    · have := count_le_written h
      omega
    · have := count_le_writtenAll h
      omega

end

mutual

theorem size_le_written : ∀ t : CodeTree, 2 * t.size ≤ t.written.length
  | node code cs p => by
    have := two_le_nodeText code cs.length p
    have := sizeAll_le_writtenAll cs
    rw [size, written, List.length_append]
    omega

theorem sizeAll_le_writtenAll : ∀ ts : List CodeTree, 2 * sizeAll ts ≤ (writtenAll ts).length
  | [] => Nat.le_refl _
  | t :: ts => by
    have := size_le_written t
    have := sizeAll_le_writtenAll ts
    rw [sizeAll, writtenAll, List.length_append]
    omega

end

/-! ## One tree only -/

theorem payloadText_append_inj {p q : Option Bytes} {x y : Bytes} (hpq : p.isSome = q.isSome)
    (h : payloadText p ++ x = payloadText q ++ y) : p = q ∧ x = y := by
  cases p with
  | none =>
    cases q with
    | none => exact ⟨rfl, h⟩
    | some q => cases hpq
  | some p =>
    cases q with
    | none => cases hpq
    | some q =>
      rw [payloadText, payloadText, List.append_assoc, List.append_assoc] at h
      obtain ⟨hlength, h⟩ := Varint.encode_append_inj h
      obtain ⟨rfl, rfl⟩ := List.append_inj h hlength
      exact ⟨rfl, rfl⟩

mutual

theorem written_append_inj {carries : KindCode → Bool} {depth : Nat} :
    ∀ {t u : CodeTree} {x y : Bytes}, (∀ n ∈ t.preorder depth, n.payload.isSome = carries n.kind) →
      (∀ n ∈ u.preorder depth, n.payload.isSome = carries n.kind) →
      t.written ++ x = u.written ++ y → t = u ∧ x = y
  | node code cs p, node code' ds q, x, y, ht, hu, h => by
    rw [preorder, List.forall_mem_cons] at ht hu
    simp only [written, nodeText, List.append_assoc] at h
    obtain ⟨hcode, hrest⟩ := Varint.encode_append_inj h
    obtain rfl := UInt32.toNat_inj.1 hcode
    obtain ⟨hcount, hrest⟩ := Varint.encode_append_inj hrest
    have hpayload : p.isSome = q.isSome := ht.1.trans hu.1.symm
    obtain ⟨rfl, hchildren⟩ := payloadText_append_inj hpayload hrest
    obtain ⟨rfl, rfl⟩ := writtenAll_append_inj hcount ht.2 hu.2 hchildren
    exact ⟨rfl, rfl⟩

theorem writtenAll_append_inj {carries : KindCode → Bool} {depth : Nat} :
    ∀ {ts us : List CodeTree} {x y : Bytes}, ts.length = us.length →
      (∀ n ∈ preorderAll depth ts, n.payload.isSome = carries n.kind) →
      (∀ n ∈ preorderAll depth us, n.payload.isSome = carries n.kind) →
      writtenAll ts ++ x = writtenAll us ++ y → ts = us ∧ x = y
  | [], [], _, _, _, _, _, h => ⟨rfl, h⟩
  | t :: ts, u :: us, x, y, hlength, ht, hu, h => by
    rw [preorderAll, List.forall_mem_append] at ht hu
    rw [writtenAll, writtenAll, List.append_assoc, List.append_assoc] at h
    obtain ⟨rfl, hrest⟩ := written_append_inj ht.1 hu.1 h
    obtain ⟨rfl, rfl⟩ := writtenAll_append_inj (Nat.succ.inj hlength) ht.2 hu.2 hrest
    exact ⟨rfl, rfl⟩

end

end Tree

end SyntaxWire
