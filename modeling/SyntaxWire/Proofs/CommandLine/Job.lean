/-
Commands in a folder. A job that is done in a folder ends with a result or a
trouble, the warnings so far and the folder as it is then (`Job.on`). Its steps
are taken one after the other, and the first trouble ends it.
-/
import SyntaxWire.CommandLine.Run
import SyntaxWire.Proofs.Bytes
import SyntaxWire.Proofs.Folder

namespace SyntaxWire.CommandLine

variable {α β ε : Type}

namespace Job

/-- What comes of a job in a folder, with the warnings that were given before. -/
def on (j : Job (StateM Folder) α) (warnings : List Event) (d : Folder) :
    (Except Trouble α × List Event) × Folder := j.run.run warnings d

variable {warnings : List Event} {d d' : Folder}

theorem on_bind (j : Job (StateM Folder) α) (f : α → Job (StateM Folder) β) :
    on (j >>= f) warnings d =
      match on j warnings d with
      | ((.ok a, warnings), d) => on (f a) warnings d
      | ((.error t, warnings), d) => ((.error t, warnings), d) := by
  show (match j warnings d with | ((x, after), d') => ExceptT.bindCont f x after d') = match j warnings d with
    | ((.ok a, warnings), d) => on (f a) warnings d
    | ((.error t, warnings), d) => ((.error t, warnings), d)
  obtain ⟨⟨x, after⟩, d'⟩ := j warnings d
  cases x <;> rfl

theorem on_bind_ok {j : Job (StateM Folder) α} {f : α → Job (StateM Folder) β} {a : α} {after : List Event}
    (h : on j warnings d = ((.ok a, after), d')) : on (j >>= f) warnings d = on (f a) after d' := by
  rw [on_bind, h]

theorem on_check (trouble : ε → Trouble) (x : Except ε α) :
    on (check trouble x) warnings d = ((x.mapError trouble, warnings), d) := by
  cases x <;> rfl

theorem on_perform (trouble : ε → Trouble) (x : StateM Folder (Except ε α)) :
    on (perform trouble x) warnings d = (((x d).1.mapError trouble, warnings), (x d).2) := by
  have hlift : on (liftM (liftM x : StateT (List Event) (StateM Folder) (Except ε α))) warnings d =
      ((.ok (x d).1, warnings), (x d).2) := rfl
  rw [perform, on_bind_ok hlift, on_check]

theorem on_warn (events : List Event) : on (warn events) warnings d = ((.ok (), warnings ++ events), d) := rfl

end Job

/-! ## What is read of files -/

/-- The text of a file. -/
def textAt (d : Folder) (path : String) : Except FileFault String :=
  d.read path >>= fun s => (Bytes.text? s).elim (.error .notText) .ok

theorem textAt_ofText {d : Folder} {path text : String} (h : d.read path = .ok (Bytes.ofText text)) :
    textAt d path = .ok text := by
  have htext : Bytes.text? (Bytes.ofText text) = some text := Bytes.text?_eq_some.2 rfl
  rw [textAt, h, Except.ok_bind, htext]
  rfl

theorem readText_amid (w : Folder.Mishaps) (path : String) (d : Folder) :
    (Folder.hostAmid w).readText path d = (w.check d (.read path) >>= fun _ => textAt d path, d) := by
  have hread : (Folder.hostAmid w).read path d = (w.check d (.read path) >>= fun _ => d.read path, d) := rfl
  rw [Files.readText, Folder.bind_apply, hread, textAt]
  cases w.check d (.read path) with
  | error f => rfl
  | ok u => cases d.read path <;> rfl

theorem readText_eq (path : String) (d : Folder) : Folder.host.readText path d = (textAt d path, d) :=
  readText_amid .none path d

/-- The table of a file. -/
def tableAt (d : Folder) (path : String) : Except TableFault KindTable :=
  (textAt d path).mapError .file >>= fun text => (KindTable.ofJson text).mapError .json

theorem loadTable_amid (w : Folder.Mishaps) (path : String) (d : Folder) :
    (Folder.hostAmid w).loadTable path d =
      ((w.check d (.read path)).mapError .file >>= fun _ => tableAt d path, d) := by
  rw [Files.loadTable, Folder.bind_apply, readText_amid, tableAt]
  cases w.check d (.read path) with
  | error f => rfl
  | ok u => cases textAt d path <;> rfl

theorem loadTable_eq (path : String) (d : Folder) : Folder.host.loadTable path d = (tableAt d path, d) :=
  loadTable_amid .none path d

/-- The registry of a table file. -/
def registryAt (d : Folder) (path : String) : Except Trouble Registry :=
  (tableAt d path).mapError (fun f => (tableTrouble f).during s!"reading {path}") >>= fun table =>
    (Registry.build table).mapError buildTrouble

theorem registryAt_ofText {d : Folder} {path text : String} {t : KindTable} {r : Registry}
    (h : d.read path = .ok (Bytes.ofText text)) (ht : KindTable.ofJson text = .ok t) (hr : Registry.build t = .ok r) :
    registryAt d path = .ok r := by
  have htable : tableAt d path = .ok t := by
    rw [tableAt, textAt_ofText h]
    show (KindTable.ofJson text).mapError TableFault.json = _
    rw [ht]
    rfl
  rw [registryAt, htable]
  show (Registry.build t).mapError buildTrouble = _
  rw [hr]
  rfl

theorem on_registryOf (path : String) (warnings : List Event) (d : Folder) :
    Job.on (registryOf Folder.host (.file path)) warnings d = ((registryAt d path, warnings), d) := by
  rw [registryOf, Job.on_bind, tableOf, Job.on_perform, loadTable_eq, registryAt]
  cases tableAt d path with
  | error f => rfl
  | ok table => exact Job.on_check buildTrouble (Registry.build table)

section

variable {m : Type → Type} [Monad m] {h h' : Host m}

theorem readText_congr (hread : h.read = h'.read) (path : String) : h.readText path = h'.readText path := by
  rw [Files.readText, Files.readText, hread]

/-- A table file is read, and nothing else is done with it. -/
theorem registryOf_congr (hread : h.read = h'.read) (path : String) :
    registryOf h (.file path) = registryOf h' (.file path) := by
  have hload : h.loadTable path = h'.loadTable path := by
    rw [Files.loadTable, Files.loadTable, readText_congr hread]
  rw [registryOf, registryOf, tableOf, tableOf, hload]

end

/-! ## Runs -/

/-- What is seen of a command that has ended, by what comes of printing its result. -/
def Outcome.of (print : String → Except FileFault Unit) : Except Trouble String × List Event → Outcome
  | (.error t, warnings) => { exit := 1, stderr := t.report, warnings }
  | (.ok stdout, warnings) =>
    match print stdout with
    | .ok () => { exit := 0, stdout, warnings }
    | .error f => { exit := 101, stderr := s!"failed printing to stdout: {f.message}\n", warnings }

section

variable {args : List String} {c : Command}

/-- A command works in the folder, and printing changes nothing more. -/
theorem run_amid (h : parse args = .ok c) (w : Folder.Mishaps) (d : Folder) :
    run (Folder.hostAmid w) args d =
      (.of (fun text => w.check (Job.on (execute (Folder.hostAmid w) c) [] d).2 (.print text))
        (Job.on (execute (Folder.hostAmid w) c) [] d).1, (Job.on (execute (Folder.hostAmid w) c) [] d).2) := by
  have hprint (text : String) (d : Folder) : (Folder.hostAmid w).print text d = (w.check d (.print text), d) := rfl
  have hjob : (execute (Folder.hostAmid w) c).run.run [] d = Job.on (execute (Folder.hostAmid w) c) [] d := rfl
  rw [run, h]
  dsimp only
  rw [Folder.bind_apply, hjob]
  obtain ⟨⟨x, warnings⟩, d'⟩ := Job.on (execute (Folder.hostAmid w) c) [] d
  cases x with
  | error t => rfl
  | ok stdout =>
    dsimp only [Outcome.of]
    rw [Folder.bind_apply, hprint]
    cases w.check d' (.print stdout) <;> rfl

theorem run_eq (h : parse args = .ok c) (d : Folder) :
    run Folder.host args d = (.of (fun _ => .ok ()) (Job.on (execute Folder.host c) [] d).1,
      (Job.on (execute Folder.host c) [] d).2) :=
  run_amid h .none d

end

end SyntaxWire.CommandLine
