/-
The decoder with nothing taken on trust: numbers are machine words, every
subtraction, shift, narrowing and slice traps where the machine has no answer,
and the loop runs on a bounded number of rounds. It also adds up the child
counts for which it makes room (`reserved`). A round of it is a step of the
walk (`step_eq`), so no round traps.
-/
import SyntaxWire.Proofs.Stream.Run
import SyntaxWire.Proofs.Varint.Words
import SyntaxWire.Stream.Decode

namespace SyntaxWire.Checked

/-- What a decoder gives that stops at faults and traps. -/
abbrev Result := Except (Stop CodecFault)

/-- The bytes left, and where in the stream they start. -/
structure Reader where
  buf : Bytes
  pos : Nat

namespace Reader

def varint (rd : Reader) : Result (UInt64 × Reader) :=
  match Varint.readWord rd.buf with
  | .ok (x, rest) => do
    let used ← Trap.difference rd.buf.length rest.length
    .ok (x, ⟨rest, rd.pos + used⟩)
  | .error (.trap t) => .error (.trap t)
  | .error (.fault .truncated) => .error (.fault .truncatedStream)
  | .error (.fault .overflow) | .error (.fault .nonCanonical) => .error (.fault (.malformedVarint rd.pos))

def take (rd : Reader) (n : Nat) : Result (Bytes × Reader) :=
  if rd.buf.length < n then .error (.fault .truncatedStream)
  else do
    let (head, rest) ← Trap.splitAt n rd.buf
    .ok (head, ⟨rest, rd.pos + n⟩)

end Reader

/-- What the loop keeps from one round to the next. -/
structure State where
  reader : Reader
  stack : List Frame
  /-- The sum of all child counts for which room was made. -/
  reserved : Nat

inductive Outcome where
  | more (st : State)
  | root (t : CodeTree) (rd : Reader) (reserved : Nat)

/-- Attaches a finished node, and closes every parent that it completes. -/
def close (done : CodeTree) (rd : Reader) (reserved : Nat) : List Frame → Result Outcome
  | [] => .ok (.root done rd reserved)
  | f :: frames => do
    let remaining ← Trap.difference f.remaining 1
    let f := { f with remaining }
    if 0 < remaining then .ok (.more ⟨rd, { f with done := done :: f.done } :: frames, reserved⟩)
    else do
      -- The frame is popped, which an empty stack has no answer to.
      let f ← Trap.top (f :: frames)
      close (.node f.code (done :: f.done).reverse none) rd reserved frames

/-- The payload of a token. Other nodes have none, and a token has no children. -/
def payload (c : Codec) (kind : NodeKind) (count : Nat) (rd : Reader) : Result (Option Bytes × Reader) :=
  if kind.isToken then
    if count ≠ 0 then .error (.fault (.tokenWithChildren count))
    else do
      let (length, rd) ← rd.varint
      if c.limits.maxPayload < length then .error (.fault (.payloadTooLarge length.toNat c.limits.maxPayload))
      else do
        let length ← Trap.toLength c.limits.maxPayload.toNat length
        let (payload, rd) ← rd.take length
        .ok (some payload, rd)
  else .ok (none, rd)

/-- One round of the loop. -/
def step (c : Codec) (r : Registry) (st : State) : Result Outcome :=
  if c.cancelled then .error (.fault .cancelled)
  else if c.limits.maxDepth.toNat ≤ st.stack.length then .error (.fault (.depthExceeded c.limits.maxDepth))
  else do
    let (raw, rd) ← st.reader.varint
    if UInt32.size ≤ raw.toNat then .error (.fault (.codeOutOfRange raw.toNat))
    else do
      let code ← Trap.narrow raw
      match r.byCode code with
      | none => .error (.fault (.unknownCode code))
      | some kind => do
        let (count, rd) ← rd.varint
        if rd.buf.length / 2 < count.toNat then .error (.fault .truncatedStream)
        else do
          let count ← Trap.toLength rd.buf.length count
          let (payload, rd) ← payload c kind count rd
          -- Room for the children is made before any of them is read.
          let reserved := st.reserved + count
          if 0 < count then .ok (.more ⟨rd, ⟨code, count, count, []⟩ :: st.stack, reserved⟩)
          else close (.node code [] payload) rd reserved st.stack

/-- The loop, for a number of rounds. Nothing if it has not ended by then; else what it ends with,
after the sum of the child counts for which room was made. -/
def run (c : Codec) (r : Registry) : Nat → State → Option (Nat × Result (CodeTree × Reader))
  | 0, _ => none
  | rounds + 1, st =>
    match step c r st with
    | .error e => some (st.reserved, .error e)
    | .ok (.root t rd reserved) => some (reserved, .ok (t, rd))
    | .ok (.more st') => run c r rounds st'

/-- The loop before its first round. -/
def start (s body : Bytes) : Result State := do
  let pos ← Trap.difference s.length body.length
  .ok ⟨⟨body, pos⟩, [], 0⟩

/-- The tree of a whole stream, in a number of rounds. -/
def decode (c : Codec) (r : Registry) (rounds : Nat) (s : Bytes) : Option (Nat × Result Decoded) :=
  match c.openStream r s with
  | .error f => some (0, .error (.fault f))
  | .ok ⟨version, compatibility, body⟩ =>
    match start s body with
    | .error e => some (0, .error e)
    | .ok st => (run c r rounds st).map fun (reserved, result) => (reserved, do
        let (root, rd) ← result
        if rd.buf.isEmpty then .ok ⟨version, compatibility, root⟩ else .error (.fault (.trailingBytes rd.buf.length)))

/-! ## A round is a step of the walk -/

/-- The reader with `rest` left of a stream of `total` bytes. -/
def Reader.of (total : Nat) (rest : Bytes) : Reader := ⟨rest, total - rest.length⟩

def State.of (total reserved : Nat) (w : Walk) : State := ⟨.of total w.rest, w.frames, reserved⟩

def Outcome.of (total reserved : Nat) : Walk.Outcome → Outcome
  | .more w => .more (.of total reserved w)
  | .root t rest => .root t (.of total rest) reserved

variable {c : Codec} {r : Registry} {total reserved : Nat}

theorem varint_of {s : Bytes} (h : s.length ≤ total) : (Reader.of total s).varint =
    ((Walk.readVarint total s).map fun p => (UInt64.ofNat p.1, Reader.of total p.2)).mapError .fault := by
  rw [Reader.varint, Reader.of, Varint.readWord_eq, Walk.readVarint]
  cases hd : Varint.decode s with
  | error e => cases e <;> rfl
  | ok p =>
    obtain ⟨n, rest⟩ := p
    have hshort := Varint.decode_shortens hd
    have hpos : total - s.length + (s.length - rest.length) = total - rest.length := by omega
    change (Trap.difference s.length rest.length >>= fun used =>
      .ok (UInt64.ofNat n, (⟨rest, total - s.length + used⟩ : Reader))) = .ok (UInt64.ofNat n, Reader.of total rest)
    rw [Trap.difference_of_le (Nat.le_of_lt hshort), Except.ok_bind, hpos]
    rfl

theorem varint_ok {s rest : Bytes} {n : Nat} (h : s.length ≤ total) (hv : Walk.readVarint total s = .ok (n, rest)) :
    ∃ x, (Reader.of total s).varint = .ok (x, .of total rest) ∧ x.toNat = n ∧ rest.length ≤ total := by
  have hshort := Walk.readVarint_shortens hv
  refine ⟨UInt64.ofNat n, ?_, UInt64.toNat_ofNat_of_lt' (Walk.eq_encode_of_readVarint hv).2, by omega⟩
  rw [varint_of h, hv]
  rfl

theorem varint_error {s : Bytes} {f : CodecFault} (h : s.length ≤ total) (hv : Walk.readVarint total s = .error f) :
    (Reader.of total s).varint = .error (.fault f) := by
  rw [varint_of h, hv]
  rfl

theorem take_of {s : Bytes} (n : Nat) (h : s.length ≤ total) : (Reader.of total s).take n =
    match Bytes.split? n s with
    | none => .error (.fault .truncatedStream)
    | some (p, rest) => .ok (p, .of total rest) := by
  rw [Reader.take, Reader.of, Bytes.split?]
  by_cases hn : n ≤ s.length
  · have hpos : total - s.length + n = total - (s.drop n).length := by
      rw [List.length_drop]
      omega
    rw [if_neg (Nat.not_lt.2 hn), Trap.splitAt, if_pos hn, Except.ok_bind, hpos, if_pos (Bytes.holds_iff.2 hn)]
    rfl
  · rw [if_pos (Nat.not_le.1 hn), if_neg (fun h => hn (Bytes.holds_iff.1 h))]

/-- A finished node is handed on as in the walk, as long as every frame waits for a child. -/
theorem close_eq {frames : List Frame} (h : ∀ f ∈ frames, 0 < f.remaining) (t : CodeTree) (rest : Bytes) :
    close t (.of total rest) reserved frames = .ok (.of total reserved (Walk.attach t rest frames)) := by
  induction frames generalizing t with
  | nil => rfl
  | cons f frames ih =>
    obtain ⟨hf, hframes⟩ := List.forall_mem_cons.1 h
    rw [close, Trap.difference_of_le hf, Except.ok_bind, Walk.attach]
    by_cases hlast : f.remaining - 1 = 0
    · rw [if_neg (by omega), if_pos hlast]
      exact ih hframes _
    · rw [if_pos (by omega), if_neg hlast]
      rfl

/-- What follows the numbers of a node is dealt with as in the walk. A token has no children, so no
frame has a payload. -/
theorem enter_eq {k : NodeKind} {count : Nat} {s : Bytes} {frames : List Frame} (h : s.length ≤ total)
    (hframes : ∀ f ∈ frames, 0 < f.remaining) :
    (payload c k count (.of total s) >>= fun (p, rd) =>
      if 0 < count then .ok (.more ⟨rd, ⟨k.code, count, count, []⟩ :: frames, reserved⟩)
      else close (.node k.code [] p) rd reserved frames) =
      ((Walk.enter c total k count s frames).map (Outcome.of total reserved)).mapError .fault := by
  rw [payload, Walk.enter]
  by_cases ht : k.isToken = true
  · rw [if_pos ht, if_pos ht]
    by_cases hcount : count = 0
    · rw [if_neg (by omega), if_neg (by omega)]
      cases hv : Walk.readVarint total s with
      | error f => rw [varint_error h hv]; rfl
      | ok p =>
        obtain ⟨length, rest⟩ := p
        obtain ⟨x, hx, rfl, hrest⟩ := varint_ok h hv
        rw [hx]
        simp only [Except.ok_bind]
        by_cases hlimit : c.limits.maxPayload < x
        · rw [if_pos hlimit, if_pos (UInt64.lt_iff_toNat_lt.1 hlimit)]
          rfl
        · have hlimit' : x.toNat ≤ c.limits.maxPayload.toNat :=
            Nat.not_lt.1 fun h => hlimit (UInt64.lt_iff_toNat_lt.2 h)
          rw [if_neg hlimit, if_neg (Nat.not_lt.2 hlimit'), Trap.toLength_of_le hlimit', Except.ok_bind,
            take_of _ hrest]
          cases Bytes.split? x.toNat rest with
          | none => rfl
          | some p =>
            dsimp only
            rw [Except.ok_bind, Except.ok_bind, if_neg (by omega), close_eq hframes]
            rfl
    · rw [if_pos (by omega), if_pos (by omega)]
      rfl
  · rw [if_neg ht, if_neg ht, Except.ok_bind]
    by_cases hcount : count = 0
    · simp only [if_pos hcount]
      rw [if_neg (by omega), close_eq hframes]
      rfl
    · simp only [if_neg hcount]
      rw [if_pos (by omega)]
      rfl

/-- The child count of the node at the front of `s`. -/
def frontCount (total : Nat) (s : Bytes) : Nat :=
  match Walk.readVarint total s with
  | .error _ => 0
  | .ok (_, s) => match Walk.readVarint total s with
    | .error _ => 0
    | .ok (count, _) => count

/-- A round does what a step of the walk does, and does not trap. -/
theorem step_eq {w : Walk} (h : w.rest.length ≤ total) (hframes : ∀ f ∈ w.frames, 0 < f.remaining) :
    step c r (.of total reserved w) =
      ((Walk.step c r total w).map (Outcome.of total (reserved + frontCount total w.rest))).mapError .fault := by
  rw [step, Walk.step, State.of]
  by_cases hc : c.cancelled = true
  · rw [if_pos hc, if_pos hc]
    rfl
  rw [if_neg hc, if_neg hc]
  by_cases hdepth : c.limits.maxDepth.toNat ≤ w.frames.length
  · rw [if_pos hdepth, if_pos hdepth]
    rfl
  rw [if_neg hdepth, if_neg hdepth, frontCount]
  cases hcode : Walk.readVarint total w.rest with
  | error f => rw [varint_error h hcode]; rfl
  | ok p =>
    obtain ⟨code, s⟩ := p
    obtain ⟨raw, hraw, rfl, hs⟩ := varint_ok h hcode
    rw [hraw]
    simp only [Except.ok_bind]
    by_cases hrange : UInt32.size ≤ raw.toNat
    · rw [if_pos hrange, if_pos hrange]
      rfl
    rw [if_neg hrange, if_neg hrange, Trap.narrow_of_lt (Nat.not_le.1 hrange), Except.ok_bind]
    have hnarrow : raw.toUInt32 = raw.toNat.toUInt32 := rfl
    rw [hnarrow, Registry.resolveCode]
    cases hk : r.byCode raw.toNat.toUInt32 with
    | none => rfl
    | some k =>
      rw [Except.ok_bind]
      dsimp only
      cases hcount : Walk.readVarint total s with
      | error f => rw [varint_error hs hcount]; rfl
      | ok p =>
        obtain ⟨count, s'⟩ := p
        obtain ⟨x, hx, rfl, hs'⟩ := varint_ok hs hcount
        rw [hx]
        simp only [Except.ok_bind]
        have hkcode := (Registry.byCode_eq_some.1 hk).2
        have hhalf : (Reader.of total s').buf.length / 2 < x.toNat ↔ s'.length < 2 * x.toNat := by
          dsimp only [Reader.of]
          omega
        by_cases hroom : s'.length < 2 * x.toNat
        · rw [if_pos (hhalf.2 hroom), if_neg (fun h => Nat.not_le.2 hroom (Bytes.holds_iff.1 h))]
          rfl
        · have hfits : x.toNat ≤ (Reader.of total s').buf.length := by
            dsimp only [Reader.of]
            omega
          rw [if_neg (fun h => hroom (hhalf.1 h)), if_pos (Bytes.holds_iff.2 (Nat.not_lt.1 hroom)),
            Trap.toLength_of_le hfits, Except.ok_bind, ← hkcode]
          exact enter_eq hs' hframes

end SyntaxWire.Checked
