/-
The grammar of streams, read by plain recursion. A node is its code, the
number of its children and, for a token, its payload; its children come one
level deeper. The limit on depth bounds the recursion, whatever the bytes say.

The decoder keeps the nodes that it has not finished in a list of frames.
Reading one node by recursion is a run of it up to the point where the node
goes to the frames (`run_parseNode`), so both give the same answer on all
bytes, the fault included that comes first (`decode_eq_parse`).
-/
import SyntaxWire.Proofs.Stream.Decode
import SyntaxWire.Stream.Decode

namespace SyntaxWire

namespace Codec

/-- The kind of a node and the number of its children, each of which takes two bytes or more. -/
def parseHead (r : Registry) (total : Nat) (s : Bytes) : Except CodecFault (NodeKind × Nat × Bytes) := do
  let (code, s) ← Walk.readVarint total s
  if UInt32.size ≤ code then .error (.codeOutOfRange code)
  else do
    let kind ← r.resolveCode code.toUInt32
    let (count, s) ← Walk.readVarint total s
    if s.length / 2 < count then .error .truncatedStream
    else .ok (kind, count, s)

/-- The payload of a token, behind its length. -/
def parsePayload (c : Codec) (total : Nat) (s : Bytes) : Except CodecFault (Bytes × Bytes) := do
  let (length, s) ← Walk.readVarint total s
  if c.limits.maxPayload.toNat < length then .error (.payloadTooLarge length c.limits.maxPayload)
  else if s.length < length then .error .truncatedStream
  else .ok (s.take length, s.drop length)

mutual

/-- One node at the given depth with all that is below it, and the bytes after it. -/
def parseNode (c : Codec) (r : Registry) (total depth : Nat) (s : Bytes) : Except CodecFault (CodeTree × Bytes) :=
  if c.limits.maxDepth.toNat < depth then .error (.depthExceeded c.limits.maxDepth)
  else do
    let (kind, count, s) ← parseHead r total s
    if kind.isToken then
      if count ≠ 0 then .error (.tokenWithChildren count)
      else do
        let (payload, s) ← c.parsePayload total s
        .ok (.node kind.code [] (some payload), s)
    else do
      let (children, s) ← parseNodes c r total (depth + 1) count s
      .ok (.node kind.code children none, s)
termination_by (c.limits.maxDepth.toNat + 1 - depth, 0)
decreasing_by exact Prod.Lex.left _ _ (by omega)

/-- So many nodes at the given depth, from left to right. -/
def parseNodes (c : Codec) (r : Registry) (total depth : Nat) (count : Nat) (s : Bytes) :
    Except CodecFault (List CodeTree × Bytes) :=
  match count with
  | 0 => .ok ([], s)
  | count + 1 => do
    let (t, s) ← parseNode c r total depth s
    let (ts, s) ← parseNodes c r total depth count s
    .ok (t :: ts, s)
termination_by (c.limits.maxDepth.toNat + 1 - depth, count)
decreasing_by
  · exact Prod.Lex.right _ (Nat.succ_pos _)
  · exact Prod.Lex.right _ (Nat.lt_succ_self _)

end

/-- A stream is a header of the reader's major and one node, and nothing after it. -/
def parse (c : Codec) (r : Registry) (s : Bytes) : Except CodecFault Decoded := do
  let (version, body) ← ProtocolVersion.read s
  let compatibility ← (c.guard.check version r).mapError .version
  let (root, rest) ← c.parseNode r s.length 1 body
  if rest = [] then .ok ⟨version, compatibility, root⟩ else .error (.trailingBytes rest.length)

end Codec

namespace Walk

variable {c : Codec} {r : Registry} {total : Nat}

/-- A step reads the head of a node, if the frames leave room for it, and enters the node. -/
theorem step_eq (hc : c.cancelled = false) (s : Bytes) (frames : List Frame) :
    step c r total ⟨s, frames⟩ =
      if c.limits.maxDepth.toNat < frames.length + 1 then .error (.depthExceeded c.limits.maxDepth)
      else Codec.parseHead r total s >>= fun (kind, count, s) => enter c total kind count s frames := by
  rw [step, hc, if_neg (by decide)]
  dsimp only
  by_cases hd : c.limits.maxDepth.toNat < frames.length + 1
  · rw [if_pos (by omega), if_pos hd]
  rw [if_neg (by omega), if_neg hd, Codec.parseHead]
  cases readVarint total s with
  | error f => rfl
  | ok p =>
    obtain ⟨code, s⟩ := p
    dsimp only [bind, Except.bind]
    by_cases hrange : UInt32.size ≤ code
    · rw [if_pos hrange, if_pos hrange]
    rw [if_neg hrange, if_neg hrange]
    cases r.resolveCode code.toUInt32 with
    | error f => rfl
    | ok kind =>
      dsimp only
      cases readVarint total s with
      | error f => rfl
      | ok p =>
        obtain ⟨count, s⟩ := p
        dsimp only
        by_cases hroom : s.length / 2 < count
        · rw [if_pos hroom, if_neg (by rw [Bytes.holds_iff]; omega)]
        · rw [if_neg hroom, if_pos (by rw [Bytes.holds_iff]; omega)]

theorem enter_token {kind : NodeKind} (ht : kind.isToken = true) (s : Bytes) (frames : List Frame) :
    enter c total kind 0 s frames =
      c.parsePayload total s >>= fun (payload, s) => .ok (attach (.node kind.code [] (some payload)) s frames) := by
  rw [enter, if_pos ht, if_neg (by decide), Codec.parsePayload]
  cases readVarint total s with
  | error f => rfl
  | ok p =>
    obtain ⟨length, s⟩ := p
    dsimp only [bind, Except.bind]
    by_cases hlimit : c.limits.maxPayload.toNat < length
    · rw [if_pos hlimit, if_pos hlimit]
    rw [if_neg hlimit, if_neg hlimit, Bytes.split?]
    by_cases hroom : s.length < length
    · rw [if_pos hroom, if_neg (by rw [Bytes.holds_iff]; omega)]
    · rw [if_neg hroom, if_pos (by rw [Bytes.holds_iff]; omega)]

mutual

/-- A node that is read by recursion goes to the frames that are open where it starts. -/
theorem run_parseNode (hc : c.cancelled = false) (s : Bytes) (frames : List Frame) :
    run c r total ⟨s, frames⟩ =
      c.parseNode r total (frames.length + 1) s >>= fun (t, rest) => resume c r total (attach t rest frames) := by
  rw [run_eq, step_eq hc, Codec.parseNode]
  by_cases hd : c.limits.maxDepth.toNat < frames.length + 1
  · rw [if_pos hd, if_pos hd]
    rfl
  rw [if_neg hd, if_neg hd]
  cases Codec.parseHead r total s with
  | error f => rfl
  | ok p =>
    obtain ⟨kind, count, s⟩ := p
    dsimp only [bind, Except.bind]
    by_cases ht : kind.isToken = true
    · rw [if_pos ht]
      by_cases hcount : count ≠ 0
      · rw [enter, if_pos ht, if_pos hcount, if_pos hcount]
      obtain rfl := Classical.not_not.1 hcount
      rw [if_neg hcount, enter_token ht]
      cases c.parsePayload total s <;> rfl
    · rw [if_neg ht, enter, if_neg ht]
      cases count with
      | zero =>
        rw [if_pos rfl, Codec.parseNodes]
      | succ count =>
        rw [if_neg (Nat.succ_ne_zero count)]
        dsimp only [resume]
        rw [run_parseNodes hc count s ⟨kind.code, count + 1, count + 1, []⟩ frames rfl]
        cases c.parseNodes r total (frames.length + 1 + 1) (count + 1) s <;> rfl
termination_by (c.limits.maxDepth.toNat + 1 - (frames.length + 1), 0)
decreasing_by exact Prod.Lex.left _ _ (by omega)

/-- The children that a frame waits for finish its node. -/
theorem run_parseNodes (hc : c.cancelled = false) (count : Nat) (s : Bytes) (f : Frame) (frames : List Frame)
    (hf : f.remaining = count + 1) :
    run c r total ⟨s, f :: frames⟩ =
      c.parseNodes r total (frames.length + 1 + 1) (count + 1) s >>= fun (ts, rest) =>
        resume c r total (attach (.node f.code (f.done.reverse ++ ts) none) rest frames) := by
  rw [run_parseNode hc s (f :: frames), List.length_cons, Codec.parseNodes]
  cases c.parseNode r total (frames.length + 1 + 1) s with
  | error e => rfl
  | ok p =>
    obtain ⟨t, s⟩ := p
    dsimp only [bind, Except.bind]
    cases hcount : count with
    | zero =>
      rw [Codec.parseNodes, attach, if_pos (by omega), List.reverse_cons]
    | succ n =>
      rw [attach, if_neg (by omega)]
      dsimp only [resume]
      rw [run_parseNodes hc n s _ frames (by dsimp only; omega)]
      cases c.parseNodes r total (frames.length + 1 + 1) (n + 1) s with
      | error e => rfl
      | ok q =>
        dsimp only [bind, Except.bind]
        rw [List.reverse_cons, List.append_assoc]
        rfl
termination_by (c.limits.maxDepth.toNat + 1 - (frames.length + 2), count + 1)
decreasing_by
  · exact Prod.Lex.right _ (Nat.succ_pos _)
  · exact Prod.Lex.right _ (by omega)

end

end Walk

namespace Codec

variable {c : Codec} {r : Registry}

/-- **The decoder reads the grammar.** On every byte string it gives the answer of the plain
recursion: the same tree and verdict, or the same fault with the same data. -/
theorem decode_eq_parse (hc : c.cancelled = false) (s : Bytes) : c.decode r s = c.parse r s := by
  rw [decode, parse, openStream]
  cases ProtocolVersion.read s with
  | error f => rfl
  | ok p =>
    obtain ⟨version, body⟩ := p
    dsimp only [bind, Except.bind]
    cases c.guard.check version r with
    | error m => rfl
    | ok compatibility =>
      dsimp only [Except.ok_mapError]
      have hrun := @Walk.run_parseNode c r s.length hc body []
      rw [List.length_nil, Nat.zero_add] at hrun
      rw [hrun]
      cases c.parseNode r s.length 1 body with
      | error f => rfl
      | ok q =>
        obtain ⟨root, rest⟩ := q
        dsimp only [bind, Except.bind, Walk.attach, Walk.resume]
        cases rest <;> rfl

/-- A token that finishes two nodes, and behind it a code that no kind has. The header is of another
registry. -/
def nestedStream : Bytes :=
  [83, 89, 78, 82, 1, 0, 0, 0, 0, 0, 0, 0, 0, 0] ++ [1, 2, 1, 1, 1, 1, 0, 0, 1, 120, 2, 0]

theorem decode_nestedStream :
    ({} : Codec).cancelled = false ∧ ({} : Codec).decode (.bare .standard) nestedStream = .error (.unknownCode 2) := by
  refine ⟨rfl, ?_⟩
  have hstream : nestedStream = (⟨1, 0⟩ : ProtocolVersion).header ++ [1, 2, 1, 1, 1, 1, 0, 0, 1, 120, 2, 0] := by
    decide
  have hread : ProtocolVersion.read nestedStream = .ok (⟨1, 0⟩, [1, 2, 1, 1, 1, 1, 0, 0, 1, 120, 2, 0]) := by
    rw [hstream, ProtocolVersion.read_header]
  have hmajor : (⟨1, 0⟩ : ProtocolVersion).major = ({} : Codec).guard.major := rfl
  have hnode : ({} : Codec).parseNode (.bare .standard) nestedStream.length 1
      [1, 2, 1, 1, 1, 1, 0, 0, 1, 120, 2, 0] = .error (.unknownCode 2) := by cbv
  rw [decode_eq_parse rfl, parse, hread, Except.ok_bind]
  dsimp only
  rw [VersionGuard.check_eq, if_pos hmajor, Except.ok_mapError, Except.ok_bind, hnode]
  rfl

end Codec

end SyntaxWire
