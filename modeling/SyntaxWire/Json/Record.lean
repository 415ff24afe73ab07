/-
Records and variants in JSON.

A record is an object with its fields as members, in any order and with
other members passed over, or an array of its fields in order. A variant is
its name as a string, or an object whose one member has that name.
-/
import SyntaxWire.Json.Reader

namespace SyntaxWire.Json

structure Field (α : Type) where
  name : String
  value : Reader α
  /-- The value of a field that an object leaves out. -/
  ifMissing : Option α := none
  /-- The value of a field in front of which an array ends. -/
  ifCut : Option α := none

namespace Field

/-- A field that has to be there. -/
def required {α : Type} (name : String) (value : Reader α) : Field α := { name, value }

/-- A field that may be left out. -/
def defaulted {α : Type} (name : String) (value : Reader α) (a : α) : Field α :=
  { name, value, ifMissing := some a, ifCut := some a }

/-- A field that may be `null`, and that objects may leave out. -/
def optional {α : Type} (name : String) (value : Reader α) : Field (Option α) :=
  { name, value := nullable value, ifMissing := some none }

end Field

/-- The fields of a record with their types, in order. -/
inductive Fields : List Type → Type 1 where
  | nil : Fields []
  | cons {α : Type} {ts : List Type} (f : Field α) (fs : Fields ts) : Fields (α :: ts)

/-- A value for each type. -/
def Values : List Type → Type
  | [] => Unit
  | α :: ts => α × Values ts

/-- The values read so far. -/
def Slots : List Type → Type
  | [] => Unit
  | α :: ts => Option α × Slots ts

namespace Fields

def count : {ts : List Type} → Fields ts → Nat
  | _, nil => 0
  | _, cons _ fs => 1 + fs.count

def empty : {ts : List Type} → Fields ts → Slots ts
  | _, nil => ()
  | _, cons _ fs => (none, fs.empty)

/-- Reads the member with the given key, from the colon on. A field may be given once. -/
def member (levels : Nat) (key : String) :
    {ts : List Type} → Fields ts → Slots ts → List Char → Except Fault (Slots ts × List Char)
  | _, nil, (), s => do
    let s ← readColon s
    let s ← skipValue s
    .ok ((), s)
  | _, cons f fs, (slot, slots), s =>
    if f.name = key then
      if slot.isSome then .error (.shape (.duplicateField key))
      else do
        let s ← readColon s
        let (a, s) ← f.value levels s
        .ok ((some a, slots), s)
    else do
      let (slots, s) ← member levels key fs slots s
      .ok ((slot, slots), s)

/-- The values once the object has ended. The first field that is missing is reported. -/
def complete : {ts : List Type} → Fields ts → Slots ts → Except Fault (Values ts)
  | _, nil, () => .ok ()
  | _, cons f fs, (slot, slots) =>
    match slot <|> f.ifMissing with
    | none => .error (.shape (.missingField f.name))
    | some a => do
      let vs ← fs.complete slots
      .ok (a, vs)

/-- Reads the values as items of an array, from the field with the given index on. -/
def items (levels : Nat) (expected : String) :
    {ts : List Type} → Fields ts → (index : Nat) → List Char → Except Fault (Values ts × List Char)
  | _, nil, _, s => .ok ((), s)
  | _, cons f fs, index, s => do
    match ← nextItem (index == 0) s with
    | some s =>
      let (a, s) ← f.value levels s
      let (vs, s) ← fs.items levels expected (index + 1) s
      .ok ((a, vs), s)
    | none =>
      match f.ifCut with
      | none => .error (.shape (.wrongLength index expected))
      | some a =>
        let (vs, s) ← fs.items levels expected (index + 1) s
        .ok ((a, vs), s)

end Fields

/-- A record of the given name. -/
def record {α : Type} {ts : List Type} (name : String) (fields : Fields ts) (make : Values ts → α) :
    Reader α := fun levels s =>
  match skipBlanks s with
  | '\x7b' :: s => enter levels fun levels => do
    let (slots, s) ← members (fun key slots s => fields.member levels key slots s) (s.length + 1) true fields.empty s
    let vs ← fields.complete slots
    .ok (make vs, s)
  | '[' :: s => enter levels fun levels => do
    let noun := if fields.count = 1 then "element" else "elements"
    let (vs, s) ← fields.items levels s!"struct {name} with {fields.count} {noun}" 0 s
    let s ← closeList s
    .ok (make vs, s)
  | s => .error (mismatch s!"struct {name}" s)

/-- One way to be a value of a type with variants. -/
inductive Variant (α : Type) where
  | plain (name : String) (a : α)
  | holding (name : String) (value : Reader α)

def Variant.name {α : Type} : Variant α → String
  | plain n _ => n
  | holding n _ => n

/-- The `null` that an object may give to a plain variant. -/
def unit : Reader Unit := fun _ s =>
  match skipBlanks s with
  | 'n' :: s => do
    let s ← readNull s
    .ok ((), s)
  | s => .error (mismatch "unit" s)

def findVariant {α : Type} (variants : List (Variant α)) (name : String) : Except Fault (Variant α) :=
  match variants.find? (·.name == name) with
  | some v => .ok v
  | none => .error (.shape (.unknownVariant name (variants.map (·.name))))

/-- One of several variants. -/
def variant {α : Type} (variants : List (Variant α)) : Reader α := fun levels s =>
  match skipBlanks s with
  | [] => .error .endOfValue
  | '"' :: s => do
    let (name, s) ← readString s
    match ← findVariant variants name with
    | .plain _ a => .ok (a, s)
    | .holding _ _ => .error (wrongType .unitVariant "newtype variant")
  | '\x7b' :: s => enter levels fun levels => do
    let (name, s) ← match skipBlanks s with
      | '"' :: s => readString s
      | [] => .error .endOfValue
      | _ :: _ => .error .keyNotString
    let v ← findVariant variants name
    let s ← readColon s
    let (a, s) ← match v with
      | .plain _ a => (unit levels s).map fun (_, s) => (a, s)
      | .holding _ value => value levels s
    match skipBlanks s with
    | [] => .error .endOfObject
    | '\x7d' :: s => .ok (a, s)
    | _ :: _ => .error .expectedValue
  | _ :: _ => .error .expectedValue

end SyntaxWire.Json
