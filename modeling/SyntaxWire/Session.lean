/-
A session: one handle, one codec, a slot that all parts of the process
share, and names for the registries and streams met on the way.

Each step answers with a result or a fault, and with the events it reports.
A step that fails leaves everything as it was.
-/
import SyntaxWire.Event
import SyntaxWire.Handle
import SyntaxWire.Registry.Build
import SyntaxWire.Stream.Encode

namespace SyntaxWire.Session

/-- Where a step takes its registry from. -/
inductive Source where
  | handle
  | slot
  | pin (name : String)
deriving DecidableEq, Repr

/-- Where a step takes its stream from. -/
inductive StreamSource where
  | named (name : String)
  | given (bytes : Bytes)
deriving DecidableEq, Repr

/-- Tables come as they were written down, so that the ranges of one may be no layout. -/
inductive Step where
  | reload (table : Except LayoutFault KindTable)
  | replace (table : Except LayoutFault KindTable)
  | pin (source : Source) (name : String)
  | same (source : Source) (pin : String)
  | lookup (source : Source) (name : String) (code : KindCode)
  | encode (source : Source) (tree : SyntaxTree) (name : Option String)
  | decode (source : Source) (stream : StreamSource)
  | cancel
  | install (source : Source)
  | get
  | teardown

/-- What a step answers. -/
inductive Answer where
  | edition (e : Edition)
  | noEdition
  | same (b : Bool)
  | entry (code : Option KindCode) (name : Option String)
  | stream (s : Bytes)
  | tree (d : Decoded) (raised : SyntaxTree)
  | done

inductive Fault where
  | layout (f : LayoutFault)
  | build (f : BuildFault)
  | evolution (f : EvolutionFault)
  | codec (f : CodecFault)
  | emptySlot
  | noPin
  | noStream
deriving DecidableEq, Repr

structure State where
  handle : Handle
  codec : Codec
  slot : Option Edition := none
  pins : List (String × Edition) := []
  streams : List (String × Bytes) := []
  /-- The number of the next edition. -/
  next : Nat := 1

/-- The state in which a session over a registry starts. -/
def start (r : Registry) (c : Codec) : State := { handle := ⟨0, r⟩, codec := c }

namespace State

def edition (st : State) : Source → Except Fault Edition
  | .handle => .ok st.handle.current
  | .slot => st.slot.elim (.error .emptySlot) .ok
  | .pin name => (st.pins.lookup name).elim (.error .noPin) .ok

def stream (st : State) : StreamSource → Except Fault Bytes
  | .named name => (st.streams.lookup name).elim (.error .noStream) .ok
  | .given s => .ok s

def answerSlot : Option Edition → Answer
  | none => .noEdition
  | some e => .edition e

/-- Builds the registry of a table and hands it to `put` as a new edition. -/
def publish (st : State) (t : Except LayoutFault KindTable)
    (put : Edition → Except EvolutionFault (Edition × Handle) × List Event) :
    Except Fault (Answer × State) × List Event :=
  match t.mapError Fault.layout >>= fun t => (Registry.build t).mapError Fault.build with
  | .error f => (.error f, [])
  | .ok r =>
    let (result, events) := put ⟨st.next, r⟩
    let events := r.buildEvent :: events
    match result with
    | .error f => (.error (.evolution f), events)
    | .ok (old, handle) => (.ok (.edition old, { st with handle, next := st.next + 1 }), events)

/-- Takes one step: its answer with the state after it, and its events. -/
def step (st : State) : Step → Except Fault (Answer × State) × List Event
  | .reload t => st.publish t fun e =>
    match st.handle.reload e with
    | .error f => (.error f, [])
    | .ok p => (.ok p, [.reloaded e.registry.size e.registry.checksum])
  | .replace t => st.publish t fun e =>
    (.ok (st.handle.replace e), [.replaced e.registry.size])
  | .pin source name => (do
      let e ← st.edition source
      .ok (.edition e, { st with pins := (name, e) :: st.pins }), [])
  | .same source pin => (do
      let e ← st.edition source
      let p ← st.edition (.pin pin)
      .ok (.same (e.number == p.number), st), [])
  | .lookup source name code => (do
      let e ← st.edition source
      .ok (.entry (e.registry.codeOf name) (e.registry.nameOf code), st), [])
  | .encode source tree name => (do
      let e ← st.edition source
      match st.codec.encode e.registry tree with
      | .error f => .error (.codec f)
      | .ok s =>
        let streams := match name with
          | some n => (n, s) :: st.streams
          | none => st.streams
        .ok (.stream s, { st with streams }), [])
  | .decode source stream =>
    match st.stream stream, st.edition source with
    | .error f, _ | _, .error f => (.error f, [])
    | .ok s, .ok e =>
      let result := st.codec.decode e.registry s >>= fun d => do
        let raised ← e.registry.raise d.root
        .ok (.tree d raised, st)
      (result.mapError .codec, st.codec.decodeEvents e.registry s)
  | .cancel => (.ok (.done, { st with codec := { st.codec with cancelled := true } }), [])
  | .install source =>
    match st.edition source with
    | .error f => (.error f, [])
    | .ok e =>
      (.ok (answerSlot st.slot, { st with slot := some e }),
        [.installed e.registry.size e.registry.checksum])
  | .get => (.ok (answerSlot st.slot, st), [])
  | .teardown => (.ok (answerSlot st.slot, { st with slot := none }), [])

end State

/-- What is seen of one step: its result, its events, and the registry of the handle after it. -/
structure Seen where
  result : Except Fault Answer
  events : List Event
  current : Registry

/-- Takes steps in order. -/
def run : State → List Step → List Seen
  | _, [] => []
  | st, s :: ss =>
    let (result, events) := st.step s
    let after := match result with
      | .ok (_, st') => st'
      | .error _ => st
    ⟨result.map (·.1), events, after.handle.current.registry⟩ :: run after ss

end SyntaxWire.Session
