/-
Where a number is malformed. A reader keeps the bytes that are left and, apart
from them, how many there were in front, and both change whenever a number or
a payload is read. They change by the same bytes, so at every place that a
reader comes to, what is left is the stream from its position on
(`Reached.behind`). A round of the loop reads numbers at up to three places,
its slots, and all that it can be turned down for shows at one of them, or
before it reads (`stepFault_of_step`); so a fault of a number is one at a slot.
What lies in front of a slot is the header, what the open frames stand for
and the numbers of the node so far (`Slot.text`).
-/
import SyntaxWire.Proofs.Stream.Resources

namespace SyntaxWire

/-- The bytes start a number, and it is too large or not in its shortest form. -/
def Varint.Malformed (s : Bytes) : Prop := decode s = .error .overflow ∨ decode s = .error .nonCanonical

theorem Varint.Malformed.ne_nil {s : Bytes} (h : Malformed s) : s ≠ [] := by
  rintro rfl
  rcases h with h | h <;> cases h

namespace Checked

variable {c : Codec} {r : Registry} {s : Bytes}

/-! ## Places of a reader -/

/-- The reader has read `front` of the stream and has the rest left. -/
structure Reader.Behind (s front : Bytes) (rd : Reader) : Prop where
  whole : s = front ++ rd.buf
  pos : rd.pos = front.length

namespace Reader

variable {front : Bytes} {rd rd' : Reader}

theorem Behind.buf_eq (h : rd.Behind s front) : rd.buf = s.drop rd.pos := by
  rw [h.whole, h.pos, List.drop_left]

theorem Behind.front_eq (h : rd.Behind s front) : front = s.take rd.pos := by
  rw [h.whole, h.pos, List.take_left]

theorem Behind.pos_le (h : rd.Behind s front) : rd.pos ≤ s.length := by
  rw [h.whole, h.pos, List.length_append]
  omega

theorem varint_eq (rd : Reader) : rd.varint =
    match Varint.decode rd.buf with
    | .ok (n, rest) => .ok (UInt64.ofNat n, ⟨rest, rd.pos + (rd.buf.length - rest.length)⟩)
    | .error .truncated => .error (.fault .truncatedStream)
    | .error .overflow | .error .nonCanonical => .error (.fault (.malformedVarint rd.pos)) := by
  rw [varint, Varint.readWord_eq]
  cases hd : Varint.decode rd.buf with
  | error e => cases e <;> rfl
  | ok p =>
    have hshort := Varint.decode_shortens hd
    change (Trap.difference rd.buf.length p.2.length >>= _) = _
    rw [Trap.difference_of_le (Nat.le_of_lt hshort), Except.ok_bind]

/-- A number is read where it is written in its shortest form, and the reader goes on behind it. -/
theorem varint_ok_iff {x : UInt64} : rd.varint = .ok (x, rd') ↔
    rd.buf = Varint.encode x.toNat ++ rd'.buf ∧ rd'.pos = rd.pos + (Varint.encode x.toNat).length := by
  rw [varint_eq]
  constructor
  · intro hx
    split at hx
    · next n rest hd =>
      cases hx
      obtain ⟨hbuf, hn⟩ := Varint.eq_encode_of_decode hd
      have hword : (UInt64.ofNat n).toNat = n := UInt64.toNat_ofNat_of_lt' hn
      have hlength := congrArg List.length hbuf
      rw [List.length_append] at hlength
      rw [hword]
      refine ⟨hbuf, ?_⟩
      dsimp only
      omega
    all_goals cases hx
  · rintro ⟨hbuf, hpos⟩
    have hlength := congrArg List.length hbuf
    rw [List.length_append] at hlength
    have hused : rd.buf.length - rd'.buf.length = (Varint.encode x.toNat).length := by omega
    rw [hbuf, Varint.decode_encode _ x.toNat_lt]
    dsimp only
    rw [UInt64.ofNat_toNat, ← hbuf, hused, ← hpos]

/-- Reading a number goes on behind its written form. -/
theorem Behind.varint {x : UInt64} (h : rd.Behind s front) (hx : rd.varint = .ok (x, rd')) :
    rd'.Behind s (front ++ Varint.encode x.toNat) := by
  obtain ⟨hbuf, hpos⟩ := varint_ok_iff.1 hx
  constructor
  · rw [List.append_assoc, ← hbuf]
    exact h.whole
  · rw [hpos, h.pos, List.length_append]

theorem take_ok {n : Nat} {p : Bytes} (h : rd.take n = .ok (p, rd')) :
    rd.buf = p ++ rd'.buf ∧ rd'.pos = rd.pos + p.length := by
  rw [take] at h
  split at h
  · cases h
  · next hn =>
    rw [Trap.splitAt, if_pos (Nat.not_lt.1 hn), Except.ok_bind] at h
    cases h
    rw [List.length_take, Nat.min_eq_left (Nat.not_lt.1 hn)]
    exact ⟨(List.take_append_drop n rd.buf).symm, rfl⟩

/-- Taking a payload goes on behind it. -/
theorem Behind.take {n : Nat} {p : Bytes} (h : rd.Behind s front) (hp : rd.take n = .ok (p, rd')) :
    rd'.Behind s (front ++ p) := by
  obtain ⟨hbuf, hpos⟩ := take_ok hp
  constructor
  · rw [List.append_assoc, ← hbuf]
    exact h.whole
  · rw [hpos, h.pos, List.length_append]

theorem varint_malformed_iff {p : Nat} :
    rd.varint = .error (.fault (.malformedVarint p)) ↔ Varint.Malformed rd.buf ∧ rd.pos = p := by
  rw [varint_eq, Varint.Malformed]
  cases Varint.decode rd.buf with
  | error e => cases e <;> simp
  | ok p => simp

theorem varint_fault {f : CodecFault} (h : rd.varint = .error (.fault f)) :
    f = .truncatedStream ∨ f = .malformedVarint rd.pos := by
  rw [varint_eq] at h
  split at h <;> cases h
  · exact .inl rfl
  all_goals exact .inr rfl

theorem take_fault {n : Nat} {f : CodecFault} (h : rd.take n = .error (.fault f)) : f = .truncatedStream := by
  rw [take] at h
  split at h
  · cases h
    rfl
  · next hn =>
    rw [Trap.splitAt, if_pos (Nat.not_lt.1 hn), Except.ok_bind] at h
    cases h

end Reader

/-- The readers that reading numbers and payloads leads to from the start of the loop. -/
inductive Reached (c : Codec) (r : Registry) (s : Bytes) : Reader → Prop where
  | start {o : Opening} {st : State} : c.openStream r s = .ok o → start s o.body = .ok st → Reached c r s st.reader
  | varint {rd rd' : Reader} {x : UInt64} : Reached c r s rd → rd.varint = .ok (x, rd') → Reached c r s rd'
  | take {rd rd' : Reader} {n : Nat} {p : Bytes} : Reached c r s rd → rd.take n = .ok (p, rd') → Reached c r s rd'

theorem start_behind {o : Opening} (h : c.openStream r s = .ok o) (reserved : Nat) :
    (State.of s.length reserved { rest := o.body }).reader.Behind s o.version.header := by
  have hlength := openStream_length h
  constructor
  · exact (Codec.openStream_ok_iff.1 h).1
  · rw [ProtocolVersion.length_header]
    dsimp only [State.of, Reader.of]
    rw [hlength, Nat.add_sub_cancel]
    rfl

/-- The position of a reader and the bytes that it has left do not drift apart. -/
theorem Reached.behind {rd : Reader} (h : Reached c r s rd) : ∃ front, rd.Behind s front ∧ 14 ≤ front.length := by
  induction h with
  | @start o st hopen hstart =>
    rw [start_eq hopen] at hstart
    cases hstart
    refine ⟨_, start_behind hopen 0, ?_⟩
    rw [ProtocolVersion.length_header]
    exact Nat.le_refl 14
  | varint _ hx ih =>
    obtain ⟨front, hfront, hheader⟩ := ih
    refine ⟨_, hfront.varint hx, ?_⟩
    rw [List.length_append]
    omega
  | take _ hp ih =>
    obtain ⟨front, hfront, hheader⟩ := ih
    refine ⟨_, hfront.take hp, ?_⟩
    rw [List.length_append]
    omega

/-! ## Rounds -/

def Outcome.reader : Outcome → Reader
  | .more st => st.reader
  | .root _ rd _ => rd

theorem close_reader {done : CodeTree} {rd : Reader} {reserved : Nat} {frames : List Frame} {o : Outcome}
    (h : close done rd reserved frames = .ok o) : o.reader = rd := by
  induction frames generalizing done with
  | nil =>
    cases h
    rfl
  | cons f frames ih =>
    rw [close, Except.bind_ok_iff] at h
    obtain ⟨remaining, -, h⟩ := h
    dsimp only at h
    split at h
    · cases h
      rfl
    · exact ih h

theorem close_ne_fault {done : CodeTree} {rd : Reader} {reserved : Nat} {frames : List Frame} {f : CodecFault} :
    close done rd reserved frames ≠ .error (.fault f) := by
  induction frames generalizing done with
  | nil => nofun
  | cons g frames ih =>
    intro h
    rw [close, Except.bind_error_iff] at h
    rcases h with h | ⟨remaining, -, h⟩
    · rw [Trap.difference] at h
      split at h <;> cases h
    · dsimp only at h
      split at h
      · cases h
      · exact ih h

theorem Reached.payload {kind : NodeKind} {count : Nat} {rd rd' : Reader} {p : Option Bytes} (h : Reached c r s rd)
    (hp : payload c kind count rd = .ok (p, rd')) : Reached c r s rd' := by
  rw [Checked.payload] at hp
  split at hp
  · split at hp
    · cases hp
    · simp only [Except.bind_ok_iff] at hp
      obtain ⟨⟨length, rd₁⟩, hlength, hp⟩ := hp
      dsimp only at hp
      split at hp
      · cases hp
      · simp only [Except.bind_ok_iff] at hp
        obtain ⟨n, -, ⟨bytes, rd₂⟩, hbytes, hp⟩ := hp
        cases hp
        exact (h.varint hlength).take hbytes
  · cases hp
    exact h

/-- A round leaves its reader at a place that it has come to by reading. -/
theorem Reached.step {st : State} {o : Outcome} (h : Reached c r s st.reader) (hstep : step c r st = .ok o) :
    Reached c r s o.reader := by
  rw [Checked.step] at hstep
  split at hstep
  · cases hstep
  split at hstep
  · cases hstep
  obtain ⟨⟨raw, rd₁⟩, hraw, hstep⟩ := Except.bind_ok_iff.1 hstep
  dsimp only at hstep
  split at hstep
  · cases hstep
  obtain ⟨code, -, hstep⟩ := Except.bind_ok_iff.1 hstep
  split at hstep
  · cases hstep
  obtain ⟨⟨count, rd₂⟩, hcount, hstep⟩ := Except.bind_ok_iff.1 hstep
  dsimp only at hstep
  split at hstep
  · cases hstep
  obtain ⟨n, -, hstep⟩ := Except.bind_ok_iff.1 hstep
  obtain ⟨⟨p, rd₃⟩, hp, hstep⟩ := Except.bind_ok_iff.1 hstep
  have hrd₃ := ((h.varint hraw).varint hcount).payload hp
  dsimp only at hstep
  split at hstep
  · cases hstep
    exact hrd₃
  · rwa [close_reader hstep]

theorem Head.reached {st : State} (h : Head c r s st) : Reached c r s st.reader := by
  induction h with
  | first hopen hstart => exact .start hopen hstart
  | next _ hstep ih => exact ih.step hstep

/-- The frames of a head account for all that was read behind the header. -/
theorem Head.behind {st : State} (h : Head c r s st) :
    ∃ o, c.openStream r s = .ok o ∧ st.reader.Behind s (o.version.header ++ Walk.consumed st.stack) := by
  obtain ⟨o, reserved, w, hopen, rfl, hw⟩ := h.budget
  obtain ⟨hs, -⟩ := Codec.openStream_ok_iff.1 hopen
  have hbody := hw.accounts.1
  rw [hbody, ← List.append_assoc] at hs
  refine ⟨o, hopen, hs, ?_⟩
  have hlength := congrArg List.length hs
  rw [List.length_append] at hlength
  dsimp only [State.of, Reader.of]
  omega

/-! ## Slots -/

/-- The places where a round reads numbers, each with the numbers of the node in front of it: the
code, the child count if the code is one of the registry, and the length of a payload if the kind is
a token without children. -/
inductive Slot (c : Codec) (r : Registry) (st : State) : List UInt64 → Reader → Prop where
  | code : c.cancelled = false → st.stack.length < c.limits.maxDepth.toNat → Slot c r st [] st.reader
  | count {raw : UInt64} {rd rd' : Reader} {k : NodeKind} : Slot c r st [] rd → rd.varint = .ok (raw, rd') →
      raw.toNat < UInt32.size → r.byCode raw.toUInt32 = some k → Slot c r st [raw] rd'
  | length {raw : UInt64} {rd rd' : Reader} {k : NodeKind} : Slot c r st [raw] rd → rd.varint = .ok (0, rd') →
      r.byCode raw.toUInt32 = some k → k.isToken = true → Slot c r st [raw, 0] rd'

/-- Numbers as they are written, one after the other. -/
def numbersText (numbers : List UInt64) : Bytes := numbers.flatMap fun x => Varint.encode x.toNat

variable {st : State} {numbers : List UInt64} {rd : Reader}

theorem Slot.reached (h : Slot c r st numbers rd) (hst : Reached c r s st.reader) : Reached c r s rd := by
  induction h with
  | code => exact hst
  | count _ hraw _ _ ih => exact ih.varint hraw
  | length _ hcount _ _ ih => exact ih.varint hcount

theorem Slot.behind {front : Bytes} (h : Slot c r st numbers rd) (hst : st.reader.Behind s front) :
    rd.Behind s (front ++ numbersText numbers) := by
  induction h with
  | code => simpa [numbersText] using hst
  | count _ hraw _ _ ih => simpa [numbersText] using ih.varint hraw
  | length _ hcount _ _ ih => simpa [numbersText] using ih.varint hcount

/-- What a round is turned down for: before it reads, in a number, by what the numbers of the node say,
or in a payload. -/
inductive StepFault (c : Codec) (r : Registry) (st : State) : CodecFault → Prop where
  | cancelled : c.cancelled = true → StepFault c r st .cancelled
  | depth : c.limits.maxDepth.toNat ≤ st.stack.length → StepFault c r st (.depthExceeded c.limits.maxDepth)
  | number {numbers : List UInt64} {rd : Reader} {f : CodecFault} : Slot c r st numbers rd →
      rd.varint = .error (.fault f) → StepFault c r st f
  | range {raw : UInt64} {rd rd' : Reader} : Slot c r st [] rd → rd.varint = .ok (raw, rd') →
      UInt32.size ≤ raw.toNat → StepFault c r st (.codeOutOfRange raw.toNat)
  | unknown {raw : UInt64} {rd rd' : Reader} : Slot c r st [] rd → rd.varint = .ok (raw, rd') →
      r.byCode raw.toUInt32 = none → StepFault c r st (.unknownCode raw.toUInt32)
  | room {raw n : UInt64} {rd rd' : Reader} : Slot c r st [raw] rd → rd.varint = .ok (n, rd') →
      rd'.buf.length / 2 < n.toNat → StepFault c r st .truncatedStream
  | children {raw n : UInt64} {rd rd' : Reader} {k : NodeKind} : Slot c r st [raw] rd → rd.varint = .ok (n, rd') →
      n.toNat ≤ rd'.buf.length / 2 → r.byCode raw.toUInt32 = some k → k.isToken = true → n ≠ 0 →
      StepFault c r st (.tokenWithChildren n.toNat)
  | large {raw length : UInt64} {rd rd' : Reader} : Slot c r st [raw, 0] rd → rd.varint = .ok (length, rd') →
      c.limits.maxPayload < length → StepFault c r st (.payloadTooLarge length.toNat c.limits.maxPayload)
  | short {raw length : UInt64} {rd rd' : Reader} : Slot c r st [raw, 0] rd → rd.varint = .ok (length, rd') →
      length ≤ c.limits.maxPayload → StepFault c r st .truncatedStream

/-- The part of a round behind the child count. -/
theorem stepFault_of_payload {raw n : UInt64} {rd' : Reader} {k : NodeKind} {f : CodecFault}
    (hslot : Slot c r st [raw] rd) (hn : rd.varint = .ok (n, rd')) (hroom : n.toNat ≤ rd'.buf.length / 2)
    (hk : r.byCode raw.toUInt32 = some k) (h : payload c k n.toNat rd' = .error (.fault f)) : StepFault c r st f := by
  rw [payload] at h
  split at h
  · next htoken =>
    split at h
    · next hcount =>
      cases h
      refine .children hslot hn hroom hk htoken ?_
      rintro rfl
      exact hcount rfl
    next hcount =>
    obtain rfl : n = 0 := UInt64.toNat_inj.1 (Classical.not_not.1 hcount)
    have hlengthSlot : Slot c r st [raw, 0] rd' := .length hslot hn hk htoken
    rcases Except.bind_error_iff.1 h with h | ⟨⟨length, rd₂⟩, hlength, h⟩
    · exact .number hlengthSlot h
    dsimp only at h
    split at h
    · next hlarge =>
      cases h
      exact .large hlengthSlot hlength hlarge
    next hlarge =>
    have hlimit : length ≤ c.limits.maxPayload := UInt64.not_lt.1 hlarge
    rw [Trap.toLength_of_le (UInt64.le_iff_toNat_le.1 hlimit), Except.ok_bind] at h
    rcases Except.bind_error_iff.1 h with h | ⟨_, -, h⟩
    · obtain rfl := Reader.take_fault h
      exact .short hlengthSlot hlength hlimit
    · cases h
  · cases h

theorem stepFault_of_step {f : CodecFault} (h : step c r st = .error (.fault f)) : StepFault c r st f := by
  rw [step] at h
  split at h
  · next hc =>
    cases h
    exact .cancelled hc
  next hc =>
  split at h
  · next hdepth =>
    cases h
    exact .depth hdepth
  next hdepth =>
  have hcode : Slot c r st [] st.reader := .code (Bool.not_eq_true _ ▸ hc) (Nat.not_le.1 hdepth)
  rcases Except.bind_error_iff.1 h with h | ⟨⟨raw, rd₁⟩, hraw, h⟩
  · exact .number hcode h
  dsimp only at h
  split at h
  · next hrange =>
    cases h
    exact .range hcode hraw hrange
  next hrange =>
  rw [Trap.narrow_of_lt (Nat.not_le.1 hrange), Except.ok_bind] at h
  split at h
  · next hnone =>
    cases h
    exact .unknown hcode hraw hnone
  next kind hkind =>
  have hcount : Slot c r st [raw] rd₁ := .count hcode hraw (Nat.not_le.1 hrange) hkind
  rcases Except.bind_error_iff.1 h with h | ⟨⟨n, rd₂⟩, hn, h⟩
  · exact .number hcount h
  dsimp only at h
  split at h
  · next hroom =>
    cases h
    exact .room hcount hn hroom
  next hroom =>
  have hfits : n.toNat ≤ rd₂.buf.length := by omega
  rw [Trap.toLength_of_le hfits, Except.ok_bind] at h
  rcases Except.bind_error_iff.1 h with h | ⟨⟨bytes, rd₃⟩, -, h⟩
  · exact stepFault_of_payload hcount hn (Nat.not_lt.1 hroom) hkind h
  · dsimp only at h
    split at h
    · cases h
    · exact absurd h close_ne_fault

/-- A round finds a malformed number at a slot. -/
theorem slot_of_step_malformed {p : Nat} (h : step c r st = .error (.fault (.malformedVarint p))) :
    ∃ numbers rd, Slot c r st numbers rd ∧ Varint.Malformed rd.buf ∧ rd.pos = p := by
  cases stepFault_of_step h with
  | number hslot hbad => exact ⟨_, _, hslot, Reader.varint_malformed_iff.1 hbad⟩

section Count

variable {raw n : UInt64} {rd' : Reader} {k : NodeKind}

/-- A child count that the bytes behind it have no room for ends the round. -/
theorem Slot.step_no_room (h : Slot c r st [raw] rd) (hn : rd.varint = .ok (n, rd'))
    (hroom : rd'.buf.length / 2 < n.toNat) : step c r st = .error (.fault .truncatedStream) := by
  rw [step]
  cases h with
  | count hcode hraw hrange hk =>
    cases hcode with
    | code hc hdepth =>
      simp only [hc, Bool.false_eq_true, if_false, if_neg (Nat.not_le.2 hdepth), hraw, Except.ok_bind,
        if_neg (Nat.not_le.2 hrange), Trap.narrow_of_lt hrange, hk, hn, if_pos hroom]

/-- What is wrong with a payload ends the round, if there is room for the children. -/
theorem Slot.step_payload {stop : Stop CodecFault} (h : Slot c r st [raw] rd) (hk : r.byCode raw.toUInt32 = some k)
    (hn : rd.varint = .ok (n, rd')) (hroom : n.toNat ≤ rd'.buf.length / 2)
    (hp : payload c k n.toNat rd' = .error stop) : step c r st = .error stop := by
  rw [step]
  cases h with
  | count hcode hraw hrange _ =>
    cases hcode with
    | code hc hdepth =>
      have hfits : (Trap.toLength rd'.buf.length n : Result Nat) = .ok n.toNat := Trap.toLength_of_le (by omega)
      simp only [hc, Bool.false_eq_true, if_false, if_neg (Nat.not_le.2 hdepth), hraw, Except.ok_bind,
        if_neg (Nat.not_le.2 hrange), Trap.narrow_of_lt hrange, hk, hn, if_neg (Nat.not_lt.2 hroom), hfits, hp]
      rfl

end Count

/-- A malformed number at a slot ends the round there. -/
theorem Slot.step_malformed (h : Slot c r st numbers rd) (hrd : Varint.Malformed rd.buf) :
    step c r st = .error (.fault (.malformedVarint rd.pos)) := by
  have hbad := Reader.varint_malformed_iff.2 ⟨hrd, rfl⟩
  cases h with
  | code hc hdepth =>
    rw [step]
    simp only [hc, Bool.false_eq_true, if_false, if_neg (Nat.not_le.2 hdepth), hbad]
    rfl
  | count hcode hraw hrange hkind =>
    rw [step]
    cases hcode with
    | code hc hdepth =>
      simp only [hc, Bool.false_eq_true, if_false, if_neg (Nat.not_le.2 hdepth), hraw, Except.ok_bind,
        if_neg (Nat.not_le.2 hrange), Trap.narrow_of_lt hrange, hkind, hbad]
      rfl
  | length hcount hx hkind htoken =>
    refine hcount.step_payload hkind hx (Nat.zero_le _) ?_
    rw [payload, if_pos htoken, UInt64.toNat_zero, if_neg (not_not_intro rfl), hbad]
    rfl

/-! ## Runs -/

/-- A loop that ends with a fault ends in a round from one of its heads. -/
theorem exists_head_of_run {rounds spent : Nat} {f : CodecFault} (hst : Head c r s st)
    (h : run c r rounds st = some (spent, .error (.fault f))) :
    ∃ st', Head c r s st' ∧ step c r st' = .error (.fault f) := by
  induction rounds generalizing st with
  | zero => cases h
  | succ rounds ih =>
    rw [run] at h
    split at h
    · next e hstep =>
      cases h
      exact ⟨st, hst, hstep⟩
    · cases h
    · next st' hstep => exact ih (hst.next hstep) h

/-- The loop comes to each of its heads, in some number of rounds. -/
theorem Head.run_eq (h : Head c r s st) : ∃ o st₀ before, c.openStream r s = .ok o ∧ start s o.body = .ok st₀ ∧
    ∀ rounds, run c r (rounds + before) st₀ = run c r rounds st := by
  induction h with
  | @first o st hopen hstart => exact ⟨o, st, 0, hopen, hstart, fun _ => rfl⟩
  | @next st st' _ hstep ih =>
    obtain ⟨o, st₀, before, hopen, hstart, hrun⟩ := ih
    refine ⟨o, st₀, before + 1, hopen, hstart, fun rounds => ?_⟩
    have hround : run c r (rounds + 1) st = run c r rounds st' := by rw [run, hstep]
    rw [← hround, ← hrun, Nat.add_right_comm, Nat.add_assoc]

/-- A fault of a round from a head is the answer to the stream. -/
theorem Head.decode_error {f : CodecFault} (h : Head c r s st) (hstep : step c r st = .error (.fault f)) :
    c.decode r s = .error f := by
  obtain ⟨o, st₀, before, hopen, hstart, hrun⟩ := h.run_eq
  obtain ⟨spent, -, hdecode⟩ := decode_open hopen
  have hlast : run c r (room o.body + 1) st = some (st.reserved, .error (.fault f)) := by rw [run, hstep]
  have hanswer := hdecode (room o.body + 1 + before) (by omega)
  simp only [decode, hopen, hstart, hrun, hlast] at hanswer
  cases hd : c.decode r s with
  | error g =>
    rw [hd] at hanswer
    cases hanswer
    rfl
  | ok d =>
    rw [hd] at hanswer
    cases hanswer

/-- What a header is turned down for. -/
theorem openStream_error {f : CodecFault} (h : c.openStream r s = .error f) :
    f = .truncatedStream ∨ f = .badMagic ∨ ∃ m, f = .version m := by
  rw [Codec.openStream, Except.bind_error_iff] at h
  rcases h with h | ⟨⟨v, body⟩, -, h⟩
  · rw [ProtocolVersion.read] at h
    split at h
    · cases h
      exact .inr (.inl rfl)
    · split at h <;> cases h
      exact .inl rfl
  · dsimp only at h
    split at h <;> cases h
    exact .inr (.inr ⟨_, rfl⟩)

/-- Other faults than those of a header and bytes behind the root are found by a round of the loop. -/
theorem exists_head_of_decode_error {f : CodecFault} (h : c.decode r s = .error f)
    (hheader : c.openStream r s ≠ .error f) (hrest : ∀ n, f ≠ .trailingBytes n) :
    ∃ st, Head c r s st ∧ step c r st = .error (.fault f) := by
  cases hopen : c.openStream r s with
  | error g =>
    rw [Codec.decode, hopen] at h
    cases h
    exact absurd hopen hheader
  | ok o =>
    obtain ⟨spent, -, hdecode⟩ := decode_open hopen
    have hanswer := hdecode (room o.body + 1) (Nat.lt_succ_self _)
    rw [h, decode, hopen] at hanswer
    dsimp only at hanswer
    rw [start_eq hopen] at hanswer
    obtain ⟨⟨reserved, result⟩, hrun, hanswer⟩ := Option.map_eq_some_iff.1 hanswer
    have hresult := (Prod.mk.inj hanswer).2
    cases result with
    | error e =>
      obtain rfl : e = .fault f := Except.error.inj hresult
      exact exists_head_of_run (.first hopen (start_eq hopen)) hrun
    | ok q =>
      obtain ⟨t, rd⟩ := q
      dsimp only [Except.ok_bind] at hresult
      split at hresult
      · cases hresult
      · exact absurd (Stop.fault.inj (Except.error.inj hresult)).symm (hrest _)

/-- A malformed number is reported by a round of the loop. -/
theorem exists_head_of_malformed {p : Nat} (h : c.decode r s = .error (.malformedVarint p)) :
    ∃ st, Head c r s st ∧ step c r st = .error (.fault (.malformedVarint p)) := by
  refine exists_head_of_decode_error h (fun hopen => ?_) nofun
  rcases openStream_error hopen with hf | hf | ⟨m, hf⟩ <;> cases hf

/-! ## Reports -/

/-- Behind the header, what lies in front of a slot is what the open frames stand for and the numbers
of the node so far. -/
theorem Slot.text (h : Slot c r st numbers rd) (hst : Head c r s st) :
    (s.take rd.pos).drop 14 = Walk.consumed st.stack ++ numbersText numbers := by
  obtain ⟨o, -, hbehind⟩ := hst.behind
  rw [← (h.behind hbehind).front_eq, List.append_assoc]
  exact List.drop_left' (ProtocolVersion.length_header _)

/-- A reader that has been reached has the stream from its position on left. -/
theorem Reached.place (h : Reached c r s rd) : 14 ≤ rd.pos ∧ rd.pos ≤ s.length ∧ rd.buf = s.drop rd.pos := by
  obtain ⟨front, hfront, hheader⟩ := h.behind
  exact ⟨hfront.pos ▸ hheader, hfront.pos_le, hfront.buf_eq⟩

/-- **A malformed number is reported where it starts.** The position lies behind the header and within
the stream, and the number that starts there is too large or not in its shortest form. It is a slot
of a round: between the header and it lie what the open frames stand for and the numbers of the node
so far, and nothing else. The other way round, such a number at a slot is reported. Wherever the
reader comes to, it has the stream from its position on left; and it comes to the head of every
round, to every slot and to the end of every round. -/
theorem malformed_at_slot (c : Codec) (r : Registry) (s : Bytes) :
    (∀ p, c.decode r s = .error (.malformedVarint p) →
      14 ≤ p ∧ p < s.length ∧ Varint.Malformed (s.drop p) ∧
      ∃ st numbers rd, Head c r s st ∧ Slot c r st numbers rd ∧ rd.pos = p ∧
        (s.take p).drop 14 = Walk.consumed st.stack ++ numbersText numbers) ∧
    (∀ st numbers rd, Head c r s st → Slot c r st numbers rd →
      (s.take rd.pos).drop 14 = Walk.consumed st.stack ++ numbersText numbers ∧
      (Varint.Malformed (s.drop rd.pos) → c.decode r s = .error (.malformedVarint rd.pos))) ∧
    (∀ rd, Reached c r s rd → 14 ≤ rd.pos ∧ rd.pos ≤ s.length ∧ rd.buf = s.drop rd.pos) ∧
    ∀ st, Head c r s st → Reached c r s st.reader ∧ (∀ numbers rd, Slot c r st numbers rd → Reached c r s rd) ∧
      ∀ o, step c r st = .ok o → Reached c r s o.reader := by
  refine ⟨fun p h => ?_, fun st numbers rd hst hslot => ⟨hslot.text hst, fun hbad => ?_⟩, fun _ => Reached.place,
    fun st hst => ⟨hst.reached, fun numbers rd hslot => hslot.reached hst.reached, fun o => hst.reached.step⟩⟩
  · obtain ⟨st, hst, hstep⟩ := exists_head_of_malformed h
    obtain ⟨numbers, rd, hslot, hrd, rfl⟩ := slot_of_step_malformed hstep
    obtain ⟨hheader, hpos, hbuf⟩ := (hslot.reached hst.reached).place
    rw [hbuf] at hrd
    refine ⟨hheader, ?_, hrd, st, numbers, rd, hst, hslot, rfl, hslot.text hst⟩
    exact Nat.lt_of_not_le fun hle => hrd.ne_nil (List.drop_eq_nil_of_le hle)
  · obtain ⟨-, -, hbuf⟩ := (hslot.reached hst.reached).place
    rw [← hbuf] at hbad
    exact hst.decode_error (hslot.step_malformed hbad)

end Checked

end SyntaxWire
