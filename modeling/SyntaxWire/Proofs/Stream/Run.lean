/-
Runs of the decoder. A run over the written form of a tree comes to the
first node in pre-order that the reader refuses, or hands the tree on to the
open frames (`run_written`). The other way round, a run that ends with a tree
has read the written form of that tree and accepted each of its nodes
(`written_of_run`): what a run has consumed is at all times what its frames
say, `consumed`, and no node of theirs is refused (`Sound`).
-/
import SyntaxWire.Proofs.Stream.Walk

namespace SyntaxWire.Walk

open SyntaxWire.Tree

variable {c : Codec} {r : Registry} {total : Nat}

/-- How a run goes on from the outcome of a step. -/
def resume (c : Codec) (r : Registry) (total : Nat) : Outcome → Except CodecFault (CodeTree × Bytes)
  | .root t rest => .ok (t, rest)
  | .more w => run c r total w

theorem run_eq (w : Walk) : run c r total w = step c r total w >>= resume c r total := by
  rw [run]
  split
  · next f h => rw [h]; rfl
  · next t rest h => rw [h]; rfl
  · next w' h => rw [h]; rfl

theorem not_cancelled_of_run {w : Walk} {p : CodeTree × Bytes} (h : run c r total w = .ok p) :
    c.cancelled = false := by
  rw [run_eq, Except.bind_ok_iff] at h
  obtain ⟨o, hstep, -⟩ := h
  exact (step_ok_iff.1 hstep).1

/-! ## Reading what is written -/

mutual

theorem run_written (hc : c.cancelled = false) :
    ∀ {t : CodeTree} {rest : Bytes} {frames : List Frame}, (∀ n ∈ t.preorder (frames.length + 1), n.Readable) →
      run c r total ⟨t.written ++ rest, frames⟩ =
        match (t.preorder (frames.length + 1)).findSome? (c.refusal r) with
        | some f => .error f
        | none => resume c r total (attach t rest frames)
  | .node code cs p, rest, frames, h => by
    rw [preorder, List.forall_mem_cons] at h
    obtain ⟨hn, hcs⟩ := h
    have hroom : 2 * cs.length ≤ (writtenAll cs ++ rest).length := by
      have := length_le_writtenAll cs
      rw [List.length_append]
      omega
    have hstep := @step_text c r total _ _ frames hc rfl hn hroom
    rw [run_eq, written, List.append_assoc, preorder, List.findSome?_cons]
    rw [Node.text] at hstep
    rw [hstep]
    cases hrefusal : c.refusal r ⟨frames.length + 1, code, cs.length, p⟩ with
    | some f => rfl
    | none =>
      dsimp only [bind, Except.bind]
      cases cs with
      | nil => rfl
      | cons u us =>
        have hcount : (⟨frames.length + 1, code, (u :: us).length, p⟩ : Node KindCode).count ≠ 0 :=
          Nat.succ_ne_zero _
        have hp : p = none := hn.payload_eq_none hcount
        rw [Node.enter, if_neg hcount, resume, run_writtenAll hc (List.cons_ne_nil u us) rfl hcs, hp]
        rfl

theorem run_writtenAll (hc : c.cancelled = false) :
    ∀ {ts : List CodeTree} {rest : Bytes} {f : Frame} {frames : List Frame}, ts ≠ [] → f.remaining = ts.length →
      (∀ n ∈ preorderAll (frames.length + 2) ts, n.Readable) →
      run c r total ⟨writtenAll ts ++ rest, f :: frames⟩ =
        match (preorderAll (frames.length + 2) ts).findSome? (c.refusal r) with
        | some f => .error f
        | none => resume c r total (attach (.node f.code (f.done.reverse ++ ts) none) rest frames)
  | [], _, _, _, hne, _, _ => absurd rfl hne
  | t :: ts, rest, f, frames, _, hremaining, h => by
    rw [preorderAll, List.forall_mem_append] at h
    have hdepth : (f :: frames).length + 1 = frames.length + 2 := rfl
    have ht : ∀ n ∈ t.preorder ((f :: frames).length + 1), n.Readable := h.1
    rw [writtenAll, List.append_assoc, run_written hc ht, hdepth, preorderAll, List.findSome?_append]
    cases (t.preorder (frames.length + 2)).findSome? (c.refusal r) with
    | some _ => rfl
    | none =>
      rw [Option.none_or]
      cases ts with
      | nil =>
        rw [attach, if_pos (by rw [hremaining]; rfl), List.reverse_cons]
        rfl
      | cons u us =>
        rw [attach, if_neg (by rw [hremaining, List.length_cons, List.length_cons]; omega), resume,
          run_writtenAll hc (List.cons_ne_nil u us) (by rw [hremaining]; rfl) h.2]
        simp only [List.reverse_cons, List.append_assoc, List.singleton_append]

end

/-! ## What has been read -/

/-- The bytes that a frame stands for so far. -/
def frameText (f : Frame) : Bytes := nodeText f.code f.declared none ++ writtenAll f.done.reverse

/-- The bytes that the open frames stand for so far, those of the outermost first. -/
def consumed : List Frame → Bytes
  | [] => []
  | f :: fs => consumed fs ++ frameText f

/-- A frame whose node is at the given depth: children are still to come, as many as were declared
and are not there yet, and the reader takes the node and all that is below it so far. -/
structure FrameSound (c : Codec) (r : Registry) (depth : Nat) (f : Frame) : Prop where
  waiting : 0 < f.remaining
  count : f.done.length + f.remaining = f.declared
  node : c.Accepts r ⟨depth, f.code, f.declared, none⟩
  done : ∀ n ∈ preorderAll (depth + 1) f.done.reverse, c.Accepts r n

def Sound (c : Codec) (r : Registry) : List Frame → Prop
  | [] => True
  | f :: fs => FrameSound c r (fs.length + 1) f ∧ Sound c r fs

/-- An outcome accounts for all bytes of `body`: they are written in what has been read, and the
rest is still there. -/
def Accounts (c : Codec) (r : Registry) (body : Bytes) : Outcome → Prop
  | .root t rest => body = t.written ++ rest ∧ ∀ n ∈ t.preorder 1, c.Accepts r n
  | .more w => body = consumed w.frames ++ w.rest ∧ Sound c r w.frames

theorem attach_accounts {t : CodeTree} {rest body : Bytes} {frames : List Frame}
    (hbody : body = consumed frames ++ (t.written ++ rest)) (hframes : Sound c r frames)
    (ht : ∀ n ∈ t.preorder (frames.length + 1), c.Accepts r n) :
    Accounts c r body (attach t rest frames) := by
  induction frames generalizing t with
  | nil => exact ⟨hbody, ht⟩
  | cons f fs ih =>
    obtain ⟨hf, hfs⟩ := hframes
    have hwritten : writtenAll (t :: f.done).reverse = writtenAll f.done.reverse ++ t.written := by
      rw [List.reverse_cons, writtenAll_append, writtenAll, writtenAll, List.append_nil]
    have hdone : ∀ n ∈ preorderAll (fs.length + 2) (t :: f.done).reverse, c.Accepts r n := by
      rw [List.reverse_cons, preorderAll_append, List.forall_mem_append, preorderAll, preorderAll, List.append_nil]
      exact ⟨hf.done, ht⟩
    have hcount := hf.count
    rw [attach]
    split
    · next hlast =>
      -- The last child: the frame's node is finished and goes to the frame outside it.
      have hlength : (t :: f.done).reverse.length = f.declared := by
        have := hf.waiting
        rw [List.length_reverse, List.length_cons]
        omega
      refine ih ?_ hfs ?_
      · rw [hbody, written, hlength, hwritten, consumed, frameText]
        simp only [List.append_assoc]
      · rw [preorder, List.forall_mem_cons, hlength]
        exact ⟨hf.node, hdone⟩
    · next hmore =>
      refine ⟨?_, ⟨?_, ?_, hf.node, hdone⟩, hfs⟩
      · rw [hbody]
        simp only [consumed, frameText, hwritten, List.append_assoc]
      · dsimp only
        omega
      · dsimp only
        rw [List.length_cons]
        omega

theorem enter_accounts {w : Walk} {n : Node KindCode} {rest body : Bytes} (h : Accounts c r body (.more w))
    (hn : Reads c r w n rest) : Accounts c r body (n.enter rest w.frames) := by
  obtain ⟨hbody, hframes⟩ := h
  obtain ⟨depth, code, count, payload⟩ := n
  obtain rfl : depth = w.frames.length + 1 := hn.depth
  have haccepted := hn.accepted
  rw [hn.text, Node.text] at hbody
  unfold Node.enter
  split
  · next hcount =>
    obtain rfl : count = 0 := hcount
    refine attach_accounts ?_ hframes ?_
    · rw [hbody, written, writtenAll, List.append_nil]
      rfl
    · rw [preorder, preorderAll, List.forall_mem_singleton]
      exact haccepted
  · next hcount =>
    obtain rfl : payload = none := haccepted.1.payload_eq_none hcount
    refine ⟨?_, ⟨Nat.pos_of_ne_zero hcount, Nat.zero_add _, haccepted, ?_⟩, hframes⟩
    · rw [hbody]
      simp only [consumed, frameText, List.reverse_nil, writtenAll, List.append_nil, List.append_assoc]
    · rw [List.reverse_nil, preorderAll]
      exact fun _ h => nomatch h

theorem run_accounts {w : Walk} {t : CodeTree} {rest body : Bytes} (h : Accounts c r body (.more w))
    (hrun : run c r total w = .ok (t, rest)) : Accounts c r body (.root t rest) := by
  fun_induction run c r total w with
  | case1 w f hstep => cases hrun
  | case2 w u s hstep =>
    cases hrun
    obtain ⟨-, n, rest', hn, ho⟩ := step_ok_iff.1 hstep
    rw [ho]
    exact enter_accounts h hn
  | case3 w w' hstep ih =>
    obtain ⟨-, n, rest', hn, ho⟩ := step_ok_iff.1 hstep
    have hw' := enter_accounts h hn
    rw [← ho] at hw'
    exact ih hw' hrun

/-- A run that ends with a tree has read its written form, and the reader takes all of its nodes. -/
theorem written_of_run {s rest : Bytes} {t : CodeTree} (h : run c r total { rest := s } = .ok (t, rest)) :
    s = t.written ++ rest ∧ ∀ n ∈ t.preorder 1, c.Accepts r n := by
  have hstart : Accounts c r s (.more { rest := s }) := ⟨rfl, trivial⟩
  exact run_accounts hstart h

end SyntaxWire.Walk
