/-
What more bytes do to an answer. A stream that was cut short may become
anything. Every other answer stands: a fault of a node or of the header is
the same fault at the same place, and a tree is the same tree with the new
bytes left over (`Survives`, `readFront_append`). So a stream that is accepted
is cut short wherever it is cut (`decodeTree_append`).

The count of children is checked against the bytes that are left, and more
bytes only turn the fault of that check, a stream cut short, into an answer.
-/
import SyntaxWire.Proofs.Stream.Canonical

namespace SyntaxWire

/-- A fault that is neither of a stream that ends too early nor of one that ends too late. -/
def CodecFault.Settled : CodecFault → Prop
  | .truncatedStream | .trailingBytes _ => False
  | _ => True

theorem CodecFault.settled_iff {f : CodecFault} :
    f.Settled ↔ f ≠ .truncatedStream ∧ ∀ k, f ≠ .trailingBytes k := by
  cases f <;> simp [Settled]

variable {α β : Type}

/-- How the answer to some bytes, the first one, relates to the answer to the same bytes and more
after them. `f` adds them to what is left over. -/
inductive Survives (f : α → α) : Except CodecFault α → Except CodecFault α → Prop where
  | cut {q} : Survives f (.error .truncatedStream) q
  | fault {e} (he : e.Settled) : Survives f (.error e) (.error e)
  | result {a} : Survives f (.ok a) (.ok (f a))

namespace Survives

variable {f : α → α} {g : β → β} {p q : Except CodecFault α}

theorem bind {k k' : α → Except CodecFault β} (h : Survives f p q) (hk : ∀ a, Survives g (k a) (k' (f a))) :
    Survives g (p >>= k) (q >>= k') := by
  cases h with
  | cut => exact .cut
  | fault he => exact .fault he
  | result => exact hk _

/-- A check that does not look at what is left. -/
theorem check {P : Prop} [Decidable P] {e : CodecFault} (he : e.Settled) (h : Survives f p q) :
    Survives f (if P then .error e else p) (if P then .error e else q) := by
  by_cases hP : P
  · rw [if_pos hP, if_pos hP]
    exact .fault he
  · rw [if_neg hP, if_neg hP]
    exact h

theorem of_ok {a : α} (h : Survives f (.ok a) q) : q = .ok (f a) := by
  cases h
  rfl

theorem of_error {e : CodecFault} (h : Survives f (.error e) q) :
    e = .truncatedStream ∨ e.Settled ∧ q = .error e := by
  cases h with
  | cut => exact .inl rfl
  | fault he => exact .inr ⟨he, rfl⟩

end Survives

namespace Walk

variable {c : Codec} {r : Registry} {total : Nat}

def Outcome.append (x : Bytes) : Outcome → Outcome
  | .more w => .more { w with rest := w.rest ++ x }
  | .root t rest => .root t (rest ++ x)

/-- The place of a fault in a number is counted from the front, so it does not move. -/
theorem readVarint_append (x s : Bytes) :
    Survives (fun p => (p.1, p.2 ++ x)) (readVarint total s) (readVarint (total + x.length) (s ++ x)) := by
  have hplace : total + x.length - (s ++ x).length = total - s.length := by
    rw [List.length_append]
    omega
  unfold readVarint
  rw [hplace]
  cases h : Varint.decode s with
  | ok p =>
    rw [Varint.decode_append h x]
    exact .result
  | error e =>
    cases e with
    | truncated => exact .cut
    | overflow =>
      rw [Varint.decode_error_append h nofun x]
      exact .fault trivial
    | nonCanonical =>
      rw [Varint.decode_error_append h nofun x]
      exact .fault trivial

theorem attach_append {t : CodeTree} {rest x : Bytes} {frames : List Frame} :
    attach t (rest ++ x) frames = (attach t rest frames).append x := by
  induction frames generalizing t with
  | nil => rfl
  | cons f fs ih =>
    rw [attach, attach]
    split
    · exact ih
    · rfl

theorem enter_append (x : Bytes) {k : NodeKind} {count : Nat} {s : Bytes} {frames : List Frame} :
    Survives (Outcome.append x) (enter c total k count s frames)
      (enter c (total + x.length) k count (s ++ x) frames) := by
  unfold enter
  by_cases ht : k.isToken = true
  · rw [if_pos ht, if_pos ht]
    refine .check trivial ((readVarint_append x s).bind fun ⟨length, s'⟩ => .check trivial ?_)
    cases hsplit : Bytes.split? length s' with
    | none => exact .cut
    | some p =>
      obtain ⟨payload, rest⟩ := p
      obtain ⟨rfl, rfl⟩ := Bytes.split?_eq_some hsplit
      rw [List.append_assoc, Bytes.split?_append]
      dsimp only
      rw [attach_append]
      exact .result
  · rw [if_neg ht, if_neg ht]
    by_cases hcount : count = 0
    · rw [if_pos hcount, if_pos hcount, attach_append]
      exact .result
    · rw [if_neg hcount, if_neg hcount]
      exact .result

theorem step_append (x : Bytes) (w : Walk) :
    Survives (Outcome.append x) (step c r total w)
      (step c r (total + x.length) { w with rest := w.rest ++ x }) := by
  unfold step
  refine .check trivial (.check trivial ?_)
  refine (readVarint_append x w.rest).bind fun ⟨code, s⟩ => .check trivial ?_
  have hkind : Survives id (r.resolveCode code.toUInt32) (r.resolveCode code.toUInt32) := by
    unfold Registry.resolveCode
    cases r.byCode code.toUInt32 with
    | none => exact .fault trivial
    | some k => exact .result
  refine hkind.bind fun k => (readVarint_append x s).bind fun ⟨count, s'⟩ => ?_
  dsimp only
  -- The one check that looks at all that is left.
  by_cases hholds : Bytes.holds (2 * count) s' = true
  · have hholds' : Bytes.holds (2 * count) (s' ++ x) = true := by
      rw [Bytes.holds_iff] at hholds ⊢
      rw [List.length_append]
      omega
    rw [if_pos hholds, if_pos hholds']
    exact enter_append x
  · rw [if_neg hholds]
    exact .cut

theorem run_append (x : Bytes) (w : Walk) :
    Survives (fun p => (p.1, p.2 ++ x)) (run c r total w)
      (run c r (total + x.length) { w with rest := w.rest ++ x }) := by
  fun_induction run c r total w with
  | case1 w f hstep =>
    have h := @step_append c r total x w
    rw [hstep] at h
    rcases h.of_error with rfl | ⟨hf, h⟩
    · exact .cut
    · rw [run_eq { w with rest := w.rest ++ x }, h]
      exact .fault hf
  | case2 w t rest hstep =>
    have h := @step_append c r total x w
    rw [hstep] at h
    rw [run_eq { w with rest := w.rest ++ x }, h.of_ok]
    exact .result
  | case3 w w' hstep ih =>
    have h := @step_append c r total x w
    rw [hstep] at h
    rw [run_eq { w with rest := w.rest ++ x }, h.of_ok]
    exact ih

end Walk

theorem ProtocolVersion.read_append (x s : Bytes) :
    Survives (fun p => (p.1, p.2 ++ x)) (read s) (read (s ++ x)) := by
  cases h : read s with
  | ok p =>
    obtain ⟨v, body⟩ := p
    obtain rfl := eq_header_of_read h
    rw [List.append_assoc, read_header]
    exact .result
  | error e =>
    unfold read at h
    split at h
    · next hmagic =>
      -- A wrong byte among the first four is still there.
      have hmagic' : ¬ ((s ++ x).take 4).isPrefixOf magic := by
        rw [List.isPrefixOf_iff_prefix] at hmagic ⊢
        rw [List.take_append]
        exact fun h' => hmagic ((List.prefix_append ..).trans h')
      cases h
      rw [read, if_pos hmagic']
      exact .fault trivial
    · split at h
      · cases h
        exact .cut
      · cases h

namespace Codec

variable {c : Codec} {r : Registry}

theorem openStream_append (x s : Bytes) :
    Survives (fun o => { o with body := o.body ++ x }) (c.openStream r s) (c.openStream r (s ++ x)) := by
  unfold openStream
  refine (ProtocolVersion.read_append x s).bind fun ⟨v, body⟩ => ?_
  dsimp only
  cases c.guard.check v r with
  | error m => exact .fault trivial
  | ok verdict => exact .result

theorem readFront_append (x s : Bytes) :
    Survives (fun p => (p.1, p.2 ++ x)) (c.readFront r s) (c.readFront r (s ++ x)) := by
  unfold readFront
  refine (openStream_append x s).bind fun ⟨v, verdict, body⟩ => ?_
  rw [List.length_append]
  refine (Walk.run_append x { rest := body }).bind fun ⟨t, rest⟩ => ?_
  exact .result

theorem decodeTree_eq (s : Bytes) :
    c.decodeTree r s = c.readFront r s >>= fun p => (closeStream p).map (·.root) := by
  rw [decodeTree, decode_eq]
  cases c.readFront r s <;> rfl

/-! ## From an answer to the front that gave it -/

variable {b x : Bytes}

theorem readFront_of_ok {t : CodeTree} (h : c.decodeTree r b = .ok t) :
    ∃ d, c.readFront r b = .ok (d, []) ∧ d.root = t := by
  rw [decodeTree_eq, Except.bind_ok_iff] at h
  obtain ⟨⟨d, rest⟩, hfront, h⟩ := h
  cases rest with
  | nil =>
    cases h
    exact ⟨d, hfront, rfl⟩
  | cons y rest => cases h

theorem readFront_of_error {f : CodecFault} (h : c.decodeTree r b = .error f) :
    (c.readFront r b = .error f ∧ (f = .truncatedStream ∨ f.Settled)) ∨
      ∃ d y rest, c.readFront r b = .ok (d, y :: rest) ∧ f = .trailingBytes (y :: rest).length := by
  rw [decodeTree_eq] at h
  cases hfront : c.readFront r b with
  | error e =>
    rw [hfront] at h
    cases h
    have hstands := readFront_append (c := c) (r := r) [] b
    rw [hfront] at hstands
    exact .inl ⟨rfl, hstands.of_error.imp_right And.left⟩
  | ok p =>
    obtain ⟨d, rest⟩ := p
    rw [hfront] at h
    cases rest with
    | nil => cases h
    | cons y rest =>
      cases h
      exact .inr ⟨d, y, rest, rfl, rfl⟩

/-! ## More bytes -/

theorem readFront_append_of_ok {d : Decoded} {rest : Bytes} (h : c.readFront r b = .ok (d, rest)) (x : Bytes) :
    c.readFront r (b ++ x) = .ok (d, rest ++ x) := by
  have hstands := readFront_append (c := c) (r := r) x b
  rw [h] at hstands
  exact hstands.of_ok

theorem decodeTree_append_of_ok {t : CodeTree} (h : c.decodeTree r b = .ok t) (hx : x ≠ []) :
    c.decodeTree r (b ++ x) = .error (.trailingBytes x.length) := by
  obtain ⟨d, hfront, -⟩ := readFront_of_ok h
  obtain ⟨y, x, rfl⟩ := List.exists_cons_of_ne_nil hx
  rw [decodeTree_eq, readFront_append_of_ok hfront]
  rfl

/-- The tree is behind the bytes that are left over, and is accepted without them. -/
theorem decodeTree_append_of_trailing {k : Nat} (h : c.decodeTree r b = .error (.trailingBytes k)) (x : Bytes) :
    c.decodeTree r (b ++ x) = .error (.trailingBytes (k + x.length)) ∧ k ≤ b.length ∧
      ∃ t, c.decodeTree r (b.take (b.length - k)) = .ok t := by
  rcases readFront_of_error h with ⟨-, h | h⟩ | ⟨d, y, rest, hfront, h⟩
  · cases h
  · cases h
  obtain rfl : k = (y :: rest).length := CodecFault.trailingBytes.inj h
  refine ⟨?_, ?_⟩
  · rw [decodeTree_eq, readFront_append_of_ok hfront, ← List.length_append]
    rfl
  obtain ⟨hc, hb, haccepted⟩ := readFront_ok_iff.1 hfront
  have hsplit : b = d.version.header ++ d.root.written ++ (y :: rest) := by
    rw [hb, List.append_assoc]
  have hlength : b.length = (d.version.header ++ d.root.written).length + (y :: rest).length := by
    rw [hsplit, List.length_append]
  have htake : b.take (b.length - (y :: rest).length) = d.version.header ++ d.root.written := by
    rw [hlength, Nat.add_sub_cancel, hsplit, List.take_left]
  have hdecode : c.decode r (d.version.header ++ d.root.written) = .ok d := decode_ok_iff.2 ⟨hc, rfl, haccepted⟩
  refine ⟨by omega, d.root, ?_⟩
  rw [htake, decodeTree, hdecode]
  rfl

theorem decodeTree_append_of_settled {f : CodecFault} (h : c.decodeTree r b = .error f) (hf : f.Settled) :
    c.decodeTree r (b ++ x) = .error f := by
  rcases readFront_of_error h with ⟨hfront, -⟩ | ⟨d, y, rest, -, rfl⟩
  · have hstands := readFront_append (c := c) (r := r) x b
    rw [hfront] at hstands
    rcases hstands.of_error with rfl | ⟨-, hfront'⟩
    · exact absurd hf id
    · rw [decodeTree_eq, hfront']
      rfl
  · exact absurd hf id

theorem truncated_of_decodeTree_append {t : CodeTree} (h : c.decodeTree r (b ++ x) = .ok t) (hx : x ≠ []) :
    c.decodeTree r b = .error .truncatedStream := by
  cases hb : c.decodeTree r b with
  | ok u =>
    rw [decodeTree_append_of_ok hb hx] at h
    cases h
  | error f =>
    rcases readFront_of_error hb with ⟨-, rfl | hf⟩ | ⟨d, y, rest, -, rfl⟩
    · rfl
    · rw [decodeTree_append_of_settled hb hf] at h
      cases h
    · rw [(decodeTree_append_of_trailing hb x).1] at h
      cases h

/-- **More bytes cure a stream that was cut short and nothing else.** Bytes behind a tree are
counted, and the tree is there without them; any other fault stays as it is. So a stream that is
accepted was cut short wherever it was cut, and is not the front of another one. -/
theorem decodeTree_append (c : Codec) (r : Registry) (b x : Bytes) :
    (∀ t, c.decodeTree r b = .ok t → x ≠ [] → c.decodeTree r (b ++ x) = .error (.trailingBytes x.length)) ∧
      (∀ k, c.decodeTree r b = .error (.trailingBytes k) →
        c.decodeTree r (b ++ x) = .error (.trailingBytes (k + x.length)) ∧ k ≤ b.length ∧
          ∃ t, c.decodeTree r (b.take (b.length - k)) = .ok t) ∧
      (∀ f, c.decodeTree r b = .error f → f ≠ .truncatedStream → (∀ k, f ≠ .trailingBytes k) →
        c.decodeTree r (b ++ x) = .error f) ∧
      (∀ t, c.decodeTree r (b ++ x) = .ok t → x ≠ [] → c.decodeTree r b = .error .truncatedStream) ∧
      ∀ t u, c.decodeTree r b = .ok t → c.decodeTree r (b ++ x) = .ok u → x = [] := by
  refine ⟨fun t h hx => decodeTree_append_of_ok h hx, fun k h => decodeTree_append_of_trailing h x, ?_,
    fun t h hx => truncated_of_decodeTree_append h hx, ?_⟩
  · intro f h hcut htrailing
    exact decodeTree_append_of_settled h (CodecFault.settled_iff.2 ⟨hcut, htrailing⟩)
  · intro t u ht hu
    by_cases hx : x = []
    · exact hx
    · rw [decodeTree_append_of_ok ht hx] at hu
      cases hu

/-- A stream with a byte behind it, and the same stream without its last byte. -/
theorem decodeTree_sampleStream_append :
    ({} : Codec).decodeTree (.bare .standard) (sampleStream ++ [0]) = .error (.trailingBytes 1) ∧
      ({} : Codec).decodeTree (.bare .standard)
        ((({} : Codec).guard.stamp (.bare .standard)).header ++ [1, 3, 0, 0, 0, 1, 0, 0, 0, 1]) =
          .error .truncatedStream := by
  obtain ⟨s, -, hs⟩ := lower_of_encode encode_sampleTree
  have hdecode := decode_of_encodeCodes (Registry.checkExtends_self _) hs length_sampleStream
  have htree : ({} : Codec).decodeTree (.bare .standard) sampleStream = .ok s := by
    rw [decodeTree, hdecode]
    rfl
  refine ⟨(decodeTree_append _ _ _ [0]).1 s htree (List.cons_ne_nil _ _), ?_⟩
  refine (decodeTree_append _ _ _ [120]).2.2.2.1 s ?_ (List.cons_ne_nil _ _)
  rw [List.append_assoc]
  exact htree

end Codec

end SyntaxWire
