/-
What the decoder spends. At the head of every round of its loop the frames
say how many children they still wait for, and what room was made for
children is what the frames owe (`Budget`). A round spends two bytes or more
and keeps the budget (`Budget.step`), so the loop ends without a trap and with
the answer of the walk (`run_eq`).
-/
import SyntaxWire.Proofs.Stream.Checked
import SyntaxWire.Proofs.Stream.Decode

namespace SyntaxWire

open SyntaxWire.Tree

namespace Walk

variable {c : Codec} {r : Registry} {total : Nat}

def Outcome.rest : Outcome → Bytes
  | .more w => w.rest
  | .root _ rest => rest

def Outcome.frames : Outcome → List Frame
  | .more w => w.frames
  | .root _ _ => []

/-- The children that the frames have, with all that is below them, and those they wait for. -/
def owed : List Frame → Nat
  | [] => 0
  | f :: fs => f.remaining + sizeAll f.done.reverse + owed fs

def Outcome.owed : Outcome → Nat
  | .more w => Walk.owed w.frames
  | .root t _ => sizeAll t.children

theorem rest_attach (t : CodeTree) (rest : Bytes) (frames : List Frame) : (attach t rest frames).rest = rest := by
  induction frames generalizing t with
  | nil => rfl
  | cons f fs ih =>
    rw [attach]
    split
    · exact ih _
    · rfl

theorem rest_enter (n : Node KindCode) (rest : Bytes) (frames : List Frame) : (n.enter rest frames).rest = rest := by
  unfold Node.enter
  split
  · exact rest_attach _ rest frames
  · rfl

theorem declared_attach {limit : Nat} {frames : List Frame} (h : ∀ f ∈ frames, f.declared ≤ limit) (t : CodeTree)
    (rest : Bytes) : ∀ f ∈ (attach t rest frames).frames, f.declared ≤ limit := by
  induction frames generalizing t with
  | nil => exact List.forall_mem_nil _
  | cons f fs ih =>
    obtain ⟨hf, hfs⟩ := List.forall_mem_cons.1 h
    rw [attach]
    split
    · exact ih hfs _
    · exact List.forall_mem_cons.2 ⟨hf, hfs⟩

theorem declared_enter {limit : Nat} {frames : List Frame} (h : ∀ f ∈ frames, f.declared ≤ limit)
    {n : Node KindCode} (hn : n.count ≤ limit) (rest : Bytes) :
    ∀ f ∈ (n.enter rest frames).frames, f.declared ≤ limit := by
  unfold Node.enter
  split
  · exact declared_attach h _ rest
  · exact List.forall_mem_cons.2 ⟨hn, h⟩

theorem length_frames_attach (t : CodeTree) (rest : Bytes) (frames : List Frame) :
    (attach t rest frames).frames.length ≤ frames.length := by
  induction frames generalizing t with
  | nil => exact Nat.le_refl _
  | cons f fs ih =>
    rw [attach]
    split
    · exact Nat.le_succ_of_le (ih _)
    · exact Nat.le_refl _

/-- A finished node is one of the children that were owed. -/
theorem owed_attach {frames : List Frame} (h : ∀ f ∈ frames, 0 < f.remaining) (t : CodeTree) (rest : Bytes) :
    (attach t rest frames).owed + 1 = owed frames + t.size := by
  induction frames generalizing t with
  | nil =>
    rw [attach, Outcome.owed, owed, size_eq]
    omega
  | cons f fs ih =>
    obtain ⟨hf, hfs⟩ := List.forall_mem_cons.1 h
    have hdone : sizeAll (t :: f.done).reverse = sizeAll f.done.reverse + t.size := by
      rw [List.reverse_cons, sizeAll_append, sizeAll, sizeAll, Nat.add_zero]
    rw [attach, owed]
    split
    · next hlast =>
      rw [ih hfs, size, hdone]
      omega
    · next hmore =>
      dsimp only [Outcome.owed, owed]
      rw [hdone]
      omega

theorem owed_enter {n : Node KindCode} {frames : List Frame} (h : ∀ f ∈ frames, 0 < f.remaining) (rest : Bytes) :
    (n.enter rest frames).owed = owed frames + n.count := by
  unfold Node.enter
  split
  · next hcount =>
    have hleaf := owed_attach h (.node n.kind [] n.payload) rest
    rw [size, sizeAll] at hleaf
    omega
  · dsimp only [Outcome.owed, owed]
    rw [List.reverse_nil, sizeAll]
    omega

/-- Every frame waits for a child, and its children so far and those to come are as many as declared. -/
theorem Sound.waiting {frames : List Frame} (h : Sound c r frames) :
    ∀ f ∈ frames, 0 < f.remaining ∧ f.done.length + f.remaining = f.declared := by
  induction frames with
  | nil => exact List.forall_mem_nil _
  | cons f fs ih => exact List.forall_mem_cons.2 ⟨⟨h.1.waiting, h.1.count⟩, ih h.2⟩

theorem Sound.length_le {frames : List Frame} (h : Sound c r frames) : frames.length ≤ c.limits.maxDepth.toNat := by
  cases frames with
  | nil => exact Nat.zero_le _
  | cons f fs => exact (Codec.refusal_eq_none.1 h.1.node.2).1

theorem owed_le {limit : Nat} {frames : List Frame} (h : Sound c r frames)
    (hdeclared : ∀ f ∈ frames, f.declared ≤ limit) :
    2 * owed frames ≤ 2 * (frames.length * limit) + (consumed frames).length := by
  induction frames with
  | nil => exact Nat.zero_le _
  | cons f fs ih =>
    obtain ⟨hf, hfs⟩ := List.forall_mem_cons.1 hdeclared
    have hcount := h.1.count
    have hdone := sizeAll_le_writtenAll f.done.reverse
    have hrest := ih h.2 hfs
    rw [owed, consumed, frameText, List.length_append, List.length_append, List.length_cons,
      Nat.succ_mul fs.length]
    omega

end Walk

namespace Checked

open SyntaxWire.Walk (Accounts Sound Reads)

variable {c : Codec} {r : Registry} {total reserved : Nat} {body : Bytes}

/-- How many nodes bytes have room for. -/
def room (s : Bytes) : Nat := s.length / 2

theorem frontCount_of_reads {w : Walk} {n : Node KindCode} {rest : Bytes} (h : Reads c r w n rest) :
    frontCount total w.rest = n.count := by
  have hkind : n.kind.toNat < UInt64.size := Nat.lt_trans n.kind.toNat_lt (by decide)
  rw [frontCount, h.text, Node.text, nodeText, List.append_assoc, List.append_assoc, Walk.readVarint_encode _ hkind]
  dsimp only
  rw [Walk.readVarint_encode _ h.accepted.1.count]

/-- What is known of the walk over `body`, where room was made for `reserved` children. A count is
only held against the bytes behind it, so what bounds the sum of the counts is how much less room
each of them leaves (`spent`), and how many nodes can be open (`declared`). The innermost of as many
as may be open is one that was just opened (`full`). -/
structure Budget (c : Codec) (r : Registry) (body : Bytes) (reserved : Nat) (o : Walk.Outcome) : Prop where
  accounts : Accounts c r body o
  owed : reserved = o.owed
  spent : 2 * reserved + room o.rest * (room o.rest - 1) ≤ room body * (room body - 1)
  declared : ∀ f ∈ o.frames, f.declared ≤ room body
  full : ∀ f fs, o.frames = f :: fs → fs.length + 1 = c.limits.maxDepth.toNat →
    f.done = [] ∧ 2 * f.remaining ≤ o.rest.length

theorem Budget.rest_le {w : Walk} (h : Budget c r body reserved (.more w)) : w.rest.length ≤ body.length := by
  rw [h.accounts.1, List.length_append]
  omega

theorem Budget.waiting {w : Walk} (h : Budget c r body reserved (.more w)) : ∀ f ∈ w.frames, 0 < f.remaining :=
  fun f hf => (h.accounts.2.waiting f hf).1

theorem Budget.start (body : Bytes) : Budget c r body 0 (.more { rest := body }) where
  accounts := ⟨rfl, trivial⟩
  owed := rfl
  spent := by
    rw [Nat.mul_zero, Nat.zero_add]
    exact Nat.le_refl _
  declared := List.forall_mem_nil _
  full := nofun

/-- A node takes room for itself, and for no more children than there is room for behind it. -/
theorem spend {count left before : Nat} (hcount : count ≤ left) (hleft : left < before) :
    2 * count + left * (left - 1) ≤ before * (before - 1) := by
  cases left with
  | zero =>
    obtain rfl := Nat.le_zero.1 hcount
    exact Nat.zero_le _
  | succ k =>
    calc 2 * count + (k + 1) * k
        ≤ 2 * (k + 1) + (k + 1) * k := by omega
      _ = (k + 2) * (k + 1) := by rw [Nat.mul_comm 2, ← Nat.mul_add, Nat.mul_comm, Nat.add_comm]
      _ ≤ before * (before - 1) := Nat.mul_le_mul hleft (by omega)

/-- The walk goes on with a node only if one more may be open. -/
theorem full_enter {w : Walk} {n : Node KindCode} {rest : Bytes} (hn : Reads c r w n rest) (f : Frame)
    (fs : List Frame) (hframes : (n.enter rest w.frames).frames = f :: fs)
    (hfull : fs.length + 1 = c.limits.maxDepth.toNat) : f.done = [] ∧ 2 * f.remaining ≤ rest.length := by
  have hdepth := (Codec.refusal_eq_none.1 hn.accepted.2).1
  rw [hn.depth] at hdepth
  unfold Node.enter at hframes
  split at hframes
  · have hfewer := Walk.length_frames_attach (.node n.kind [] n.payload) rest w.frames
    rw [hframes, List.length_cons] at hfewer
    omega
  · cases hframes
    exact ⟨rfl, hn.room⟩

theorem Budget.step {w : Walk} {o : Walk.Outcome} (h : Budget c r body reserved (.more w))
    (hstep : Walk.step c r total w = .ok o) :
    Budget c r body (reserved + frontCount total w.rest) o ∧ o.rest.length + 2 ≤ w.rest.length := by
  obtain ⟨-, n, rest, hn, rfl⟩ := Walk.reads_of_step hstep
  have hlength : w.rest.length = n.text.length + rest.length := by rw [hn.text, List.length_append]
  have htext : 2 ≤ n.text.length := two_le_nodeText n.kind n.count n.payload
  have hbody := h.rest_le
  have hroom := hn.room
  rw [frontCount_of_reads hn]
  refine ⟨⟨Walk.enter_accounts h.accounts hn, ?_, ?_, ?_, ?_⟩, ?_⟩
  · rw [Walk.owed_enter h.waiting, h.owed]
    rfl
  · have hspend := @spend n.count (room rest) (room w.rest) (by rw [room]; omega) (by rw [room, room]; omega)
    have hspent := h.spent
    rw [Walk.rest_enter]
    dsimp only [Walk.Outcome.rest] at hspent
    omega
  · exact Walk.declared_enter h.declared (by rw [room]; omega) rest
  · rw [Walk.rest_enter]
    exact full_enter hn
  · rw [Walk.rest_enter]
    omega

/-- Each node of a tree that was read took two bytes or more. -/
theorem Budget.size_le {t : CodeTree} {rest : Bytes} (h : Budget c r body reserved (.root t rest)) :
    t.size ≤ room body := by
  have hsize := size_le_written t
  rw [room, h.accounts.1, List.length_append]
  omega

/-- Every level of the tree has its share, which is what there is room for. Where no level is left,
the innermost node has no child yet, and what it waits for has room behind it. -/
theorem owed_le_shares {frames : List Frame} {rest : Bytes} (hbody : body = Walk.consumed frames ++ rest)
    (hsound : Sound c r frames) (hdeclared : ∀ f ∈ frames, f.declared ≤ room body)
    (hfull : ∀ f fs, frames = f :: fs → fs.length + 1 = c.limits.maxDepth.toNat →
      f.done = [] ∧ 2 * f.remaining ≤ rest.length) : Walk.owed frames ≤ c.limits.maxDepth.toNat * room body := by
  have hroom : room body = body.length / 2 := rfl
  have hlength := congrArg List.length hbody
  rw [List.length_append] at hlength
  rcases Nat.lt_or_eq_of_le hsound.length_le with hfewer | hmost
  · have hshares := Nat.mul_le_mul_right (room body) hfewer
    rw [Nat.succ_mul frames.length] at hshares
    have := Walk.owed_le hsound hdeclared
    omega
  · cases frames with
    | nil => exact Nat.zero_le _
    | cons f fs =>
      obtain ⟨hdone, hremaining⟩ := hfull f fs rfl hmost
      rw [Walk.consumed, List.length_append] at hlength
      rw [← hmost, Walk.owed, hdone, List.reverse_nil, sizeAll, List.length_cons, Nat.succ_mul fs.length]
      have := Walk.owed_le hsound.2 (List.forall_mem_cons.1 hdeclared).2
      omega

theorem Budget.reserved_le {o : Walk.Outcome} (h : Budget c r body reserved o) :
    reserved ≤ c.limits.maxDepth.toNat * room body := by
  rw [h.owed]
  cases o with
  | more w => exact owed_le_shares h.accounts.1 h.accounts.2 h.declared h.full
  | root t rest =>
    have hlevel : 0 < c.limits.maxDepth.toNat := by
      cases t with
      | node code cs p => exact (Codec.refusal_eq_none.1 (h.accounts.2 _ List.mem_cons_self).2).1
    calc sizeAll t.children
        ≤ t.size := by rw [size_eq]; omega
      _ ≤ room body := h.size_le
      _ ≤ c.limits.maxDepth.toNat * room body := Nat.le_mul_of_pos_left _ hlevel

/-- Where a walk over `body` may end, after `reserved`. -/
structure Ending (c : Codec) (body : Bytes) (reserved : Nat) (result : Except CodecFault (CodeTree × Bytes)) :
    Prop where
  square : 2 * reserved ≤ room body * (room body - 1)
  depth : reserved ≤ c.limits.maxDepth.toNat * room body
  root : ∀ t rest, result = .ok (t, rest) → reserved + 1 = t.size

theorem Budget.ending {o : Walk.Outcome} (h : Budget c r body reserved o)
    {result : Except CodecFault (CodeTree × Bytes)}
    (hroot : ∀ t rest, result = .ok (t, rest) → o = .root t rest) : Ending c body reserved result where
  square := Nat.le_trans (Nat.le_add_right _ _) h.spent
  depth := h.reserved_le
  root := by
    intro t rest hresult
    obtain rfl := hroot t rest hresult
    rw [h.owed, size_eq, Nat.add_comm]
    rfl

/-- A round from the head of the loop does what a step of the walk does, and does not trap. -/
theorem Budget.round {w : Walk} (h : Budget c r body reserved (.more w)) (hbody : body.length ≤ total) :
    Checked.step c r (.of total reserved w) =
      ((Walk.step c r total w).map (Outcome.of total (reserved + frontCount total w.rest))).mapError .fault :=
  step_eq (Nat.le_trans h.rest_le hbody) h.waiting

/-- With a round for every node that there is room for, and one more, the loop ends as the walk does. -/
theorem run_eq {w : Walk} (h : Budget c r body reserved (.more w)) (hbody : body.length ≤ total) :
    ∃ spent, Ending c body spent (Walk.run c r total w) ∧ ∀ n, room w.rest ≤ n →
      run c r (n + 1) (.of total reserved w) =
        some (spent, ((Walk.run c r total w).map fun p => (p.1, .of total p.2)).mapError .fault) := by
  have hround := h.round hbody
  fun_induction Walk.run c r total w generalizing reserved with
  | case1 w f hstep =>
    refine ⟨reserved, h.ending (fun _ _ h => by cases h), fun n _ => ?_⟩
    rw [run, hround, hstep]
    rfl
  | case2 w t rest hstep =>
    have hroot := (h.step hstep).1
    refine ⟨reserved + frontCount total w.rest, hroot.ending ?_, fun n _ => ?_⟩
    · rintro _ _ ⟨⟩
      rfl
    · rw [run, hround, hstep]
      rfl
  | case3 w w' hstep ih =>
    obtain ⟨hw', hlength⟩ := h.step hstep
    obtain ⟨spent, hspent, hrun⟩ := ih hw' (hw'.round hbody)
    refine ⟨spent, hspent, fun n hn => ?_⟩
    have hroom : room w'.rest + 1 ≤ n := by
      rw [room] at hn ⊢
      dsimp only [Walk.Outcome.rest] at hlength
      omega
    obtain ⟨m, rfl⟩ := Nat.exists_eq_add_of_le' (Nat.le_trans (Nat.le_add_left 1 _) hroom)
    rw [run, hround, hstep]
    exact hrun m (Nat.le_of_succ_le_succ hroom)

/-! ## A whole stream -/

theorem openStream_length {s : Bytes} {o : Opening} (h : c.openStream r s = .ok o) :
    s.length = 14 + o.body.length := by
  obtain ⟨hs, -⟩ := Codec.openStream_ok_iff.1 h
  rw [hs, List.length_append, ProtocolVersion.length_header]
  rfl

theorem start_eq {s : Bytes} {o : Opening} (h : c.openStream r s = .ok o) :
    start s o.body = .ok (.of s.length 0 { rest := o.body }) := by
  have hlength := openStream_length h
  rw [start, Trap.difference_of_le (by omega)]
  rfl

/-- The states at the head of the loop, when a stream is read. -/
inductive Head (c : Codec) (r : Registry) (s : Bytes) : State → Prop where
  | first {o : Opening} {st : State} : c.openStream r s = .ok o → start s o.body = .ok st → Head c r s st
  | next {st st' : State} : Head c r s st → step c r st = .ok (.more st') → Head c r s st'

/-- Every head of the loop is a place of the walk, within its budget. -/
theorem Head.budget {s : Bytes} {st : State} (h : Head c r s st) : ∃ o reserved w, c.openStream r s = .ok o ∧
    st = .of s.length reserved w ∧ Budget c r o.body reserved (.more w) := by
  induction h with
  | @first o st hopen hstart =>
    rw [start_eq hopen] at hstart
    exact ⟨o, 0, { rest := o.body }, hopen, (Except.ok.inj hstart).symm, .start o.body⟩
  | @next st st' _ hstep ih =>
    obtain ⟨o, reserved, w, hopen, rfl, hw⟩ := ih
    have hlength := openStream_length hopen
    rw [hw.round (by omega), Except.mapError_ok_iff, Except.map_ok_iff] at hstep
    obtain ⟨outcome, hwalk, hstep⟩ := hstep
    cases outcome with
    | root t rest => cases hstep
    | more w' =>
      cases hstep
      exact ⟨o, _, w', hopen, rfl, (hw.step hwalk).1⟩

theorem decode_not_open {s : Bytes} {f : CodecFault} (h : c.openStream r s = .error f) (rounds : Nat) :
    decode c r rounds s = some (0, (c.decode r s).mapError .fault) := by
  rw [decode, Codec.decode, h]
  rfl

theorem decode_open {s : Bytes} {o : Opening} (h : c.openStream r s = .ok o) :
    ∃ spent, Ending c o.body spent (Walk.run c r s.length { rest := o.body }) ∧ ∀ rounds, room o.body < rounds →
      decode c r rounds s = some (spent, (c.decode r s).mapError .fault) := by
  have hlength := openStream_length h
  obtain ⟨spent, hspent, hrun⟩ := @run_eq c r s.length 0 o.body { rest := o.body } (.start o.body) (by omega)
  refine ⟨spent, hspent, fun rounds hrounds => ?_⟩
  obtain ⟨n, rfl⟩ := Nat.exists_eq_add_of_le' (Nat.succ_le_of_lt (Nat.zero_lt_of_lt hrounds))
  simp only [decode, h, start_eq h, hrun n (Nat.le_of_lt_succ hrounds), Codec.decode, Option.map_some, Except.ok_bind]
  cases Walk.run c r s.length { rest := o.body } with
  | error f => rfl
  | ok p =>
    obtain ⟨t, rest⟩ := p
    cases rest <;> rfl

theorem size_le_of_decode {s : Bytes} {d : Decoded} (h : c.decode r s = .ok d) :
    d.root.size ≤ (s.length - 14) / 2 := by
  obtain ⟨-, hs, -⟩ := Codec.decode_ok_iff.1 h
  have hsize := size_le_written d.root
  have hheader := ProtocolVersion.length_header d.version
  rw [hs, List.length_append, hheader, ProtocolVersion.headerSize]
  omega

/-- The decoder comes to an answer on every stream, and at no point does it trap. Every round that
does not end it spends two bytes or more, and a tree that it gives is within the stream and the limit. -/
theorem decode_safe (c : Codec) (r : Registry) (s : Bytes) :
    (∀ rounds, (s.length - 14) / 2 < rounds →
      ∃ reserved, decode c r rounds s = some (reserved, (c.decode r s).mapError .fault)) ∧
    (∀ st, Head c r s st →
      st.reader.pos + st.reader.buf.length = s.length ∧
      (∀ f ∈ st.stack, 1 ≤ f.remaining ∧ f.done.length + f.remaining = f.declared) ∧
      (∀ t, step c r st ≠ .error (.trap t)) ∧
      ∀ st', step c r st = .ok (.more st') → st'.reader.buf.length + 2 ≤ st.reader.buf.length) ∧
    ∀ d, c.decode r s = .ok d →
      d.root.size ≤ (s.length - 14) / 2 ∧ d.root.height ≤ c.limits.maxDepth.toNat := by
  refine ⟨fun rounds hrounds => ?_, fun st hst => ?_, fun d hd => ⟨size_le_of_decode hd, ?_⟩⟩
  · cases hopen : c.openStream r s with
    | error f => exact ⟨0, decode_not_open hopen rounds⟩
    | ok o =>
      have hlength := openStream_length hopen
      obtain ⟨spent, -, hdecode⟩ := decode_open hopen
      exact ⟨spent, hdecode rounds (by rw [room]; omega)⟩
  · obtain ⟨o, reserved, w, hopen, rfl, hw⟩ := hst.budget
    have hlength := openStream_length hopen
    rw [hw.round (by omega)]
    refine ⟨?_, hw.accounts.2.waiting, ?_, ?_⟩
    · have hrest := hw.rest_le
      dsimp only [State.of, Reader.of]
      omega
    · intro t
      cases Walk.step c r s.length w <;> nofun
    · intro st' hstep
      rw [Except.mapError_ok_iff, Except.map_ok_iff] at hstep
      obtain ⟨outcome, hwalk, hstep⟩ := hstep
      cases outcome with
      | root t rest => cases hstep
      | more w' =>
        cases hstep
        exact (hw.step hwalk).2
  · obtain ⟨-, -, -, -, haccepts⟩ := Codec.decode_ok_iff.1 hd
    have hheight := height_le fun n hn => (Codec.refusal_eq_none.1 (haccepts n hn).2).1
    omega

/-- What room is made for in one call: the nodes below the root, if there is an answer, and in any
case no more than if every node declares as many children as the bytes behind it have room for. -/
theorem decode_reserved (c : Codec) (r : Registry) (s : Bytes) : ∃ reserved,
    (∀ rounds, (s.length - 14) / 2 < rounds →
      decode c r rounds s = some (reserved, (c.decode r s).mapError .fault)) ∧
    (∀ d, c.decode r s = .ok d → reserved + 1 = d.root.size ∧ d.root.size ≤ (s.length - 14) / 2) ∧
    2 * reserved ≤ (s.length - 14) / 2 * ((s.length - 14) / 2 - 1) ∧
    reserved ≤ c.limits.maxDepth.toNat * ((s.length - 14) / 2) := by
  cases hopen : c.openStream r s with
  | error f =>
    refine ⟨0, fun rounds _ => decode_not_open hopen rounds, fun d hd => ?_, Nat.zero_le _, Nat.zero_le _⟩
    rw [Codec.decode, hopen] at hd
    cases hd
  | ok o =>
    have hroom : room o.body = (s.length - 14) / 2 := by
      rw [room, openStream_length hopen, Nat.add_sub_cancel_left]
    obtain ⟨spent, hspent, hdecode⟩ := decode_open hopen
    rw [hroom] at hdecode
    refine ⟨spent, hdecode, fun d hd => ⟨?_, size_le_of_decode hd⟩, hroom ▸ hspent.square, hroom ▸ hspent.depth⟩
    rw [Codec.decode, hopen, Except.ok_bind, Except.bind_ok_iff] at hd
    obtain ⟨⟨t, rest⟩, hrun, hd⟩ := hd
    dsimp only at hd
    split at hd
    · cases hd
      exact hspent.root t rest hrun
    · cases hd

/-- Nested counts rely on the same bytes: the first three of these nodes declare six children, and
there are bytes for four nodes in all. -/
theorem nested_counts_reserve_more : ¬ ∀ (c : Codec) (r : Registry) (rounds : Nat) (s : Bytes) (reserved : Nat)
    (result : Result Decoded), decode c r rounds s = some (reserved, result) → reserved ≤ (s.length - 14) / 2 := by
  intro h
  let r : Registry := .bare .standard
  let v : ProtocolVersion := ⟨1, 0⟩
  let body : Bytes := [1, 3, 1, 2, 1, 1, 9, 0]
  have hopen : Codec.openStream {} r (v.header ++ body) = .ok ⟨v, r.compatibility v, body⟩ :=
    Codec.openStream_ok_iff.2 ⟨rfl, rfl, rfl⟩
  have hrun (total : Nat) : run {} r 5 (.of total 0 { rest := body }) = some (6, .error (.fault (.unknownCode 9))) := by
    cbv
  have hdecode : decode {} r 5 (v.header ++ body) = some (6, .error (.fault (.unknownCode 9))) := by
    simp only [decode, hopen, start_eq hopen, hrun]
    rfl
  have hlength : (v.header ++ body).length = 22 := by
    rw [List.length_append, ProtocolVersion.length_header]
    rfl
  have hsix := h _ _ _ _ _ _ hdecode
  rw [hlength] at hsix
  exact absurd hsix (by decide)

end Checked

end SyntaxWire
