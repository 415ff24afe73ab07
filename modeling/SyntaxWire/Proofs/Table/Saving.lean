/-
Tables that are saved. A table is written beside its place and then moved
there, so what is loaded from its place afterwards is the text that was
written (`Folder.read_saveTable`), and that text is read as the table. A save
that fails has not touched the place itself (`Folder.saved`).
-/
import SyntaxWire.Proofs.CommandLine.Job
import SyntaxWire.Proofs.Folder
import SyntaxWire.Proofs.Table.Json

namespace SyntaxWire

namespace Folder

variable {d d' : Folder} {t : KindTable} {path : String}

/-- What becomes of the folder when a table is saved, by what comes of that. -/
inductive Saved (d : Folder) (t : KindTable) (path : String) : Except FileFault Unit → Folder → Prop where
  | moved {d₁ d' : Folder} (hwrite : d.writeFile (Path.withEnding path "json.tmp") (Bytes.ofText t.render) = .ok d₁)
      (hrename : d₁.rename (Path.withEnding path "json.tmp") path = .ok d') : Saved d t path (.ok ()) d'
  /-- A front of the text has been written beside the place, or all of it, and stays there. -/
  | left {d' : Folder} (f : FileFault) (k : Nat)
      (h : d.writeFile (Path.withEnding path "json.tmp") ((Bytes.ofText t.render).take k) = .ok d') :
      Saved d t path (.error f) d'
  | nothing (f : FileFault) : Saved d t path (.error f) d

theorem saveTable_amid (w : Mishaps) (t : KindTable) (path : String) (d : Folder) :
    (hostAmid w).saveTable t path d =
      match (hostAmid w).writeFile (Path.withEnding path "json.tmp") (Bytes.ofText t.render) d with
      | (.error f, d₁) => (.error f, d₁)
      | (.ok (), d₁) =>
        match w.check d₁ (.sync (Path.withEnding path "json.tmp")) >>= fun _ =>
          d₁.sync (Path.withEnding path "json.tmp") with
        | .error f => (.error f, d₁)
        | .ok () => change (fun d => w.check d (.rename (Path.withEnding path "json.tmp") path) >>= fun _ =>
            d.rename (Path.withEnding path "json.tmp") path) d₁ := by
  rw [Files.saveTable]
  generalize Path.withEnding path "json.tmp" = beside
  rw [bind_apply]
  obtain ⟨x, d₁⟩ := (hostAmid w).writeFile beside (Bytes.ofText t.render) d
  cases x with
  | error f => rfl
  | ok u =>
    have hsync : (hostAmid w).sync beside d₁ = (w.check d₁ (.sync beside) >>= fun _ => d₁.sync beside, d₁) := rfl
    dsimp only
    rw [bind_apply, hsync]
    cases w.check d₁ (.sync beside) >>= fun _ => d₁.sync beside <;> rfl

/-- A table that has been written is moved to its place. -/
theorem host_saveTable_of_ok {d₁ : Folder}
    (hwrite : host.writeFile (Path.withEnding path "json.tmp") (Bytes.ofText t.render) d = (.ok (), d₁))
    (hsync : d₁.sync (Path.withEnding path "json.tmp") = .ok ()) :
    host.saveTable t path d = change (·.rename (Path.withEnding path "json.tmp") path) d₁ := by
  have hpasses (s : Step) : Mishaps.none.check d₁ s = .ok () := rfl
  rw [host] at hwrite ⊢
  rw [saveTable_amid]
  generalize Path.withEnding path "json.tmp" = beside at hwrite hsync ⊢
  rw [hwrite]
  dsimp only
  rw [hpasses, Except.ok_bind, hsync]
  rfl

/-- **A save touches its place only by moving the whole table there.** If it fails, at most a front of the table
has come to stand beside it. -/
theorem saved (w : Mishaps) (d : Folder) (t : KindTable) (path : String) :
    Saved d t path ((hostAmid w).saveTable t path d).1 ((hostAmid w).saveTable t path d).2 := by
  have hwritten := written w d (Path.withEnding path "json.tmp") (Bytes.ofText t.render)
  rw [saveTable_amid]
  generalize (hostAmid w).writeFile (Path.withEnding path "json.tmp") (Bytes.ofText t.render) d = y at hwritten ⊢
  obtain ⟨x, d₁⟩ := y
  cases hwritten with
  | nothing f => exact .nothing f
  | front f k h => exact .left f k h
  | all h =>
    have hstays (f : FileFault) : Saved d t path (.error f) d₁ :=
      .left f (Bytes.ofText t.render).length (by rwa [List.take_length])
    dsimp only
    split
    · next f _ => exact hstays f
    · cases hd' : w.check d₁ (.rename (Path.withEnding path "json.tmp") path) >>= fun _ =>
          d₁.rename (Path.withEnding path "json.tmp") path with
      | error f =>
        rw [change_of_error hd']
        exact hstays f
      | ok d' =>
        obtain ⟨-, -, hrename⟩ := Except.bind_ok_iff.1 hd'
        rw [change_of_ok hd']
        exact .moved h hrename

/-- A table that has been saved stands in its place, unless it was written to a device. -/
theorem read_saveTable (h : host.saveTable t path d = (.ok (), d'))
    (hdevice : ∀ names, d.locate (Path.withEnding path "json.tmp") ≠ .ok (names, .device)) :
    d'.read path = .ok (Bytes.ofText t.render) := by
  have hsaved := saved .none d t path
  have hhost : (hostAmid .none).saveTable t path d = (.ok (), d') := h
  rw [hhost] at hsaved
  cases hsaved with
  | moved hwrite hrename =>
    have hbeside := (read_writeFile hwrite).resolve_right fun ⟨_, names, hnames⟩ => hdevice names hnames
    exact read_rename hrename hbeside

end Folder

namespace KindTable

/-- **A table that is written is read back as it was.** Both texts give the same table, with its
entries in order and without the tags and ranges that it does not have, and so does the file in
which it is saved. Hence it makes the same registry or the same fault as before. -/
theorem ofJson_render (t : KindTable) :
    ofJson t.render = .ok t ∧ ofJson t.toJson.compact = .ok t ∧
    (ofJson t.render).map Registry.build = .ok (Registry.build t) ∧
    ∀ path d d', Folder.host.saveTable t path d = (.ok (), d') →
      (∀ names, d.locate (Path.withEnding path "json.tmp") ≠ .ok (names, .device)) →
        Folder.host.loadTable path d' = (.ok t, d') ∧
        (Folder.host.loadTable path d').1.map Registry.build = .ok (Registry.build t) := by
  refine ⟨t.ofJson_pretty, t.ofJson_compact, ?_, fun path d d' hsave hdevice => ?_⟩
  · rw [t.ofJson_pretty, Except.map]
  · have hload : Folder.host.loadTable path d' = (.ok t, d') := by
      rw [CommandLine.loadTable_eq, CommandLine.tableAt,
        CommandLine.textAt_ofText (Folder.read_saveTable hsave hdevice), Except.ok_mapError, Except.ok_bind,
        t.ofJson_pretty, Except.ok_mapError]
    exact ⟨hload, by rw [hload, Except.map]⟩

end KindTable

end SyntaxWire
