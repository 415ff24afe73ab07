/-
Kind tables as JSON: the format of table files.

    { "ranges": [ {"category": "decl", "start": 2, "end": 1000} ],
      "kinds":  [ {"name": "SourceFile", "code": 44},
                  {"name": "NameList", "code": 45, "category": "collection"} ] }

A layout is checked as soon as its array has been read. Tags and ranges that
a table does not have are not written.
-/
import SyntaxWire.Json.Record
import SyntaxWire.Json.Value
import SyntaxWire.Table

namespace SyntaxWire

open Json

namespace Category

def toJson (c : Category) : Value := .string c.name

def reader : Reader Category := variant (all.map fun c => .plain c.name c)

end Category

namespace CategoryRange

def toJson (r : CategoryRange) : Value :=
  .object [("category", r.category.toJson), ("start", .natural r.start.toNat), ("end", .natural r.stop.toNat)]

def fields : Fields [Category, KindCode, KindCode] :=
  .cons (.required "category" Category.reader) <|
  .cons (.required "start" uint32) <|
  .cons (.required "end" uint32) .nil

def reader : Reader CategoryRange :=
  record "CategoryRange" fields fun (category, start, stop, ()) => ⟨category, start, stop⟩

end CategoryRange

namespace Layout

def toJson (l : Layout) : Value := .array (l.ranges.map CategoryRange.toJson)

def reader : Reader Layout := fun levels s => do
  let (rs, s) ← list CategoryRange.reader levels s
  match ofRanges rs with
  | .ok l => .ok (l, s)
  | .error f => .error (.shape (.invalid f.message))

end Layout

namespace TableEntry

def toJson (e : TableEntry) : Value :=
  .object ([("name", .string e.name), ("code", .natural e.code.toNat)]
    ++ (e.category.map fun c => ("category", c.toJson)).toList)

def fields : Fields [String, KindCode, Option Category] :=
  .cons (.required "name" string) <|
  .cons (.required "code" uint32) <|
  .cons (.defaulted "category" (nullable Category.reader) none) .nil

def reader : Reader TableEntry :=
  record "TableEntry" fields fun (name, code, category, ()) => ⟨name, code, category⟩

end TableEntry

namespace KindTable

def toJson (t : KindTable) : Value :=
  .object ((t.ranges.map fun l => ("ranges", l.toJson)).toList
    ++ [("kinds", .array (t.entries.map TableEntry.toJson))])

def fields : Fields [Option Layout, List TableEntry] :=
  .cons (.defaulted "ranges" (nullable Layout.reader) none) <|
  .cons (.required "kinds" (list TableEntry.reader)) .nil

def reader : Reader KindTable :=
  record "KindTable" fields fun (ranges, entries, ()) => ⟨ranges, entries⟩

/-- The table that a text describes. -/
def ofJson (text : String) : Except Fault KindTable := readAll reader text

/-- The text of a table file. -/
def render (t : KindTable) : String := t.toJson.pretty

end KindTable

end SyntaxWire
