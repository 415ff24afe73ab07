/-
Tokens that declare children. A round that comes to one turns it down, and it
says that it is a token with children if behind the child count there is room
for as many nodes of two bytes (`ParentToken.step_eq`). Where there is not, the
stream is cut short, whatever node it was, and the round finds that first. No
other node is turned down for its shape: where the answer names a token with
children, the loop has come to one (`parentToken_of_step`).
-/
import SyntaxWire.Proofs.Stream.Slots

namespace SyntaxWire.Checked

variable {c : Codec} {r : Registry} {s rest : Bytes} {st : State} {n : UInt64}

/-- The loop has come to a token that declares `n` children, with `rest` behind the child count. -/
structure ParentToken (c : Codec) (r : Registry) (s : Bytes) (st : State) (n : UInt64) (rest : Bytes) : Prop where
  head : Head c r s st
  running : c.cancelled = false
  depth : st.stack.length < c.limits.maxDepth.toNat
  text : st.reader.buf = numbersText [0, n] ++ rest
  children : n ≠ 0

/-- What a token with `n` children is turned down for, by what is behind the child count. -/
def childrenFault (n : UInt64) (rest : Bytes) : CodecFault :=
  if 2 * n.toNat ≤ rest.length then .tokenWithChildren n.toNat else .truncatedStream

theorem byCode_zero (r : Registry) : r.byCode 0 = some .token :=
  Registry.byCode_eq_some.2 ⟨List.mem_append_left _ (by decide), rfl⟩

/-- The one kind that is a token has the code 0. -/
theorem eq_zero_of_isToken {raw : UInt64} {kind : NodeKind} (hrange : raw.toNat < UInt32.size)
    (hkind : r.byCode raw.toUInt32 = some kind) (htoken : kind.isToken = true) : raw = 0 := by
  obtain ⟨-, hcode⟩ := Registry.byCode_eq_some.1 hkind
  have hzero : raw.toUInt32.toNat = 0 := by
    rw [← hcode, eq_of_beq htoken]
    rfl
  rw [UInt64.toNat_toUInt32, Nat.mod_eq_of_lt hrange] at hzero
  exact UInt64.toNat_inj.1 hzero

theorem ParentToken.step_eq (h : ParentToken c r s st n rest) :
    step c r st = .error (.fault (childrenFault n rest)) := by
  let rd : Reader := ⟨Varint.encode n.toNat ++ rest, st.reader.pos + (Varint.encode (0 : UInt64).toNat).length⟩
  let rd' : Reader := ⟨rest, rd.pos + (Varint.encode n.toNat).length⟩
  have hraw : st.reader.varint = .ok (0, rd) := by
    refine Reader.varint_ok_iff.2 ⟨?_, rfl⟩
    rw [h.text]
    simp [numbersText, rd]
  have hn : rd.varint = .ok (n, rd') := Reader.varint_ok_iff.2 ⟨rfl, rfl⟩
  have hslot : Slot c r st [0] rd := .count (.code h.running h.depth) hraw (by decide) (byCode_zero r)
  rw [childrenFault]
  by_cases hroom : 2 * n.toNat ≤ rest.length
  · rw [if_pos hroom]
    have hhalf : n.toNat ≤ rest.length / 2 := by omega
    refine hslot.step_payload (byCode_zero r) hn hhalf ?_
    have htoken : NodeKind.token.isToken = true := rfl
    have hcount : n.toNat ≠ 0 := fun hzero => h.children (UInt64.toNat_inj.1 hzero)
    rw [payload, if_pos htoken, if_pos hcount]
  · rw [if_neg hroom]
    have hhalf : rest.length / 2 < n.toNat := by omega
    exact hslot.step_no_room hn hhalf

theorem ParentToken.decode_eq (h : ParentToken c r s st n rest) : c.decode r s = .error (childrenFault n rest) :=
  h.head.decode_error h.step_eq

/-- A round reports a token with children only where it has come to one. -/
theorem parentToken_of_step {m : Nat} (hst : Head c r s st)
    (h : step c r st = .error (.fault (.tokenWithChildren m))) :
    ∃ n rest, ParentToken c r s st n rest ∧ n.toNat = m ∧ 2 * m ≤ rest.length := by
  cases stepFault_of_step h with
  | number hslot hbad => rcases Reader.varint_fault hbad with hf | hf <;> cases hf
  | @children _ n _ rd' _ hslot hn hroom hkind htoken hzero =>
    cases hslot with
    | count hcode hraw hrange _ =>
      obtain rfl := eq_zero_of_isToken hrange hkind htoken
      cases hcode with
      | code hc hdepth =>
        refine ⟨n, rd'.buf, ⟨hst, hc, hdepth, ?_, hzero⟩, rfl, by omega⟩
        rw [(Reader.varint_ok_iff.1 hraw).1, (Reader.varint_ok_iff.1 hn).1]
        simp [numbersText]

/-- What the loop has read of the stream by then: the header, what the open frames stand for, and the
numbers of the token. -/
theorem ParentToken.whole (h : ParentToken c r s st n rest) :
    ∃ v : ProtocolVersion, s = v.header ++ Walk.consumed st.stack ++ numbersText [0, n] ++ rest := by
  obtain ⟨o, -, hbehind⟩ := h.head.behind
  refine ⟨o.version, ?_⟩
  rw [List.append_assoc _ _ rest, ← h.text]
  exact hbehind.whole

/-- **A token with children is turned down for them, or because the stream ends before they could.**
Wherever the loop comes to a token that declares children, that is the answer to the stream: a token
with so many children if two bytes for each of them are left behind the count, and else a stream
that is cut short. The other way round, the answer names a token with children only where the loop
has come to one. -/
theorem tokens_with_children (c : Codec) (r : Registry) (s : Bytes) :
    (∀ st n rest, ParentToken c r s st n rest →
      (∃ v : ProtocolVersion, s = v.header ++ Walk.consumed st.stack ++ numbersText [0, n] ++ rest) ∧
      c.decode r s = .error (if 2 * n.toNat ≤ rest.length then .tokenWithChildren n.toNat else .truncatedStream)) ∧
    ∀ m, c.decode r s = .error (.tokenWithChildren m) ↔
      ∃ st n rest, ParentToken c r s st n rest ∧ n.toNat = m ∧ 2 * m ≤ rest.length := by
  refine ⟨fun st n rest h => ⟨h.whole, h.decode_eq⟩, fun m => ⟨fun h => ?_, ?_⟩⟩
  · have hheader : c.openStream r s ≠ .error (.tokenWithChildren m) := by
      intro hopen
      rcases openStream_error hopen with hf | hf | ⟨v, hf⟩ <;> cases hf
    obtain ⟨st, hst, hstep⟩ := exists_head_of_decode_error h hheader nofun
    exact ⟨st, parentToken_of_step hst hstep⟩
  · rintro ⟨st, n, rest, h, rfl, hroom⟩
    rw [h.decode_eq, childrenFault, if_pos hroom]

/-- A token with one child at the end of the stream. -/
theorem last_token_truncated : ¬ ∀ (c : Codec) (r : Registry) (s : Bytes) (st : State) (n : UInt64) (rest : Bytes),
    ParentToken c r s st n rest → c.decode r s = .error (.tokenWithChildren n.toNat) := by
  intro h
  let r : Registry := .bare .standard
  let v : ProtocolVersion := ⟨1, 0⟩
  have hopen : Codec.openStream {} r (v.header ++ [0, 1]) = .ok ⟨v, r.compatibility v, [0, 1]⟩ :=
    Codec.openStream_ok_iff.2 ⟨rfl, rfl, rfl⟩
  have htext : [0, 1] = numbersText [0, 1] ++ [] := by cbv
  have htoken : ParentToken {} r (v.header ++ [0, 1]) (.of _ 0 { rest := [0, 1] }) 1 [] :=
    ⟨.first hopen (start_eq hopen), rfl, by decide, htext, by decide⟩
  have hreported := h _ _ _ _ _ _ htoken
  rw [htoken.decode_eq] at hreported
  cases hreported

/-- A token with a child below another node, and bytes for the child behind it. -/
theorem nested_token_reported :
    let v : ProtocolVersion := ⟨1, 0⟩
    Codec.decode {} (.bare .standard) (v.header ++ [1, 1, 0, 1, 1, 0]) = .error (.tokenWithChildren 1) := by
  intro v
  let r : Registry := .bare .standard
  let body : Bytes := [1, 1, 0, 1, 1, 0]
  have hopen : Codec.openStream {} r (v.header ++ body) = .ok ⟨v, r.compatibility v, body⟩ :=
    Codec.openStream_ok_iff.2 ⟨rfl, rfl, rfl⟩
  have hstep (total : Nat) : ∃ pos, step {} r (.of total 0 { rest := body }) =
      .ok (.more ⟨⟨[0, 1, 1, 0], pos⟩, [⟨1, 1, 1, []⟩], 1⟩) := ⟨_, by cbv⟩
  obtain ⟨pos, hpos⟩ := hstep _
  have hhead := (Head.first hopen (start_eq hopen)).next hpos
  have htext : [0, 1, 1, 0] = numbersText [0, 1] ++ [1, 0] := by cbv
  have hdepth : 1 < ({} : Codec).limits.maxDepth.toNat := by decide
  exact ((tokens_with_children {} r _).1 _ 1 [1, 0] ⟨hhead, rfl, hdepth, htext, by decide⟩).2

end SyntaxWire.Checked
