/-
What the commands leave behind. A command reads its files and then writes once,
if at all, and nothing is known in advance of what may come in its way there
(`effect_execute`). Reading that does not fail finds what the folder shows, so
what is to be written is known before (`Command.draft?`). An encode writes it
to its target. An export writes it beside its target and moves it there: a file
that stood beside it is gone then, even if it is the table that was read. Who
is stopped leaves all as it was, or a front of the draft where it is written
(`run_changes_target`). A table that is generated is left out here, for its
generator may do anything.
-/
import SyntaxWire.Proofs.CommandLine.Arguments
import SyntaxWire.Proofs.CommandLine.Trees
import SyntaxWire.Proofs.Table.Saving

namespace SyntaxWire.CommandLine

open Folder

namespace Command

/-- The path that a command is told to write. -/
def target? : Command → Option String
  | .encode _ _ _ out | .exportTable _ out => some out
  | _ => none

/-- The path beside its target that a command writes first. -/
def staging? : Command → Option String
  | .exportTable _ out => some (Path.withEnding out "json.tmp")
  | _ => none

/-- The file is the one that the command is told to write. -/
def Writes (c : Command) (d : Folder) (n : List String) : Prop := ∃ path, c.target? = some path ∧ d.Leads path n

/-- The file stands where the command writes first. -/
def Stages (c : Command) (d : Folder) (n : List String) : Prop := ∃ path, c.staging? = some path ∧ d.Leads path n

section

variable {c : Command} {d : Folder} {n : List String} {source : TableSource} {limits : Limits} {input out : String}

@[simp] theorem writes_encode : (Command.encode source limits input out).Writes d n ↔ d.Leads out n := by
  simp [Writes, target?]

@[simp] theorem writes_exportTable : (Command.exportTable source out).Writes d n ↔ d.Leads out n := by
  simp [Writes, target?]

@[simp] theorem stages_exportTable :
    (Command.exportTable source out).Stages d n ↔ d.Leads (Path.withEnding out "json.tmp") n := by
  simp [Stages, staging?]

/-- Only an export writes beside its target. -/
theorem not_stages (hc : ∀ source out, c ≠ .exportTable source out) : ¬ c.Stages d n := by
  rintro ⟨path, hpath, -⟩
  cases c with
  | exportTable source out => exact hc source out rfl
  | validate | checksum | kinds | encode | decode | evolve => cases hpath

end

end Command

variable {α β ε : Type} {c : Command} {d d' : Folder} {warnings : List Event} {t : Trouble} {text : String}

/-! ## Reading -/

namespace Job

/-- The job leaves the folder as it is, and its result is as said if it has one. -/
def Finds (j : Job (StateM Folder) α) (d : Folder) (p : α → Prop) : Prop :=
  ∀ warnings, ∃ x after, on j warnings d = ((x, after), d) ∧ ∀ a, x = .ok a → p a

variable {j : Job (StateM Folder) α} {f : α → Job (StateM Folder) β} {p : α → Prop} {q : β → Prop}

theorem finds_pure {a : α} (ha : p a) : Finds (pure a) d p :=
  fun warnings => ⟨.ok a, warnings, rfl, fun _ h => Except.ok.inj h ▸ ha⟩

theorem Finds.mono {p' : α → Prop} (hj : j.Finds d p) (hp : ∀ a, p a → p' a) : j.Finds d p' := by
  intro warnings
  obtain ⟨x, after, hon, hx⟩ := hj warnings
  exact ⟨x, after, hon, fun a ha => hp a (hx a ha)⟩

theorem finds_bind (hj : j.Finds d p) (hf : ∀ a, p a → (f a).Finds d q) : Finds (j >>= f) d q := by
  intro warnings
  obtain ⟨x, after, hon, hx⟩ := hj warnings
  rw [on_bind, hon]
  cases x with
  | ok a => exact hf a (hx a rfl) after
  | error t => exact ⟨.error t, after, rfl, nofun⟩

theorem finds_check (trouble : ε → Trouble) (x : Except ε α) : Finds (check trouble x) d (x = .ok ·) := by
  intro warnings
  refine ⟨_, _, on_check trouble x, fun a ha => ?_⟩
  exact Except.mapError_ok_iff.1 ha

theorem finds_perform {trouble : ε → Trouble} {x : StateM Folder (Except ε α)} (hx : (x d).2 = d) :
    Finds (perform trouble x) d ((x d).1 = .ok ·) := by
  intro warnings
  refine ⟨(x d).1.mapError trouble, warnings, ?_, fun a ha => ?_⟩
  · rw [on_perform, hx]
  · exact Except.mapError_ok_iff.1 ha

theorem finds_warn (events : List Event) : Finds (warn events) d fun _ => True :=
  fun warnings => ⟨.ok (), warnings ++ events, rfl, fun _ _ => trivial⟩

end Job

open Job

/-- The table of a source that needs no generator. -/
def tableFrom? (d : Folder) : TableSource → Option KindTable
  | .builtin => some .builtin
  | .file path => (tableAt d path).toOption
  | .generated _ => none

def registryFrom? (d : Folder) (source : TableSource) : Option Registry :=
  tableFrom? d source >>= fun table => (Registry.build table).toOption

section

variable (w : Mishaps) {source : TableSource}

theorem finds_readText {trouble : FileFault → Trouble} (path : String) :
    Finds (perform trouble ((hostAmid w).readText path)) d (textAt d path = .ok ·) := by
  refine (finds_perform ?_).mono fun text h => ?_
  · rw [readText_amid]
  · rw [readText_amid] at h
    obtain ⟨-, -, htext⟩ := Except.bind_ok_iff.1 h
    exact htext

theorem finds_loadTable {trouble : TableFault → Trouble} (path : String) :
    Finds (perform trouble ((hostAmid w).loadTable path)) d (tableAt d path = .ok ·) := by
  refine (finds_perform ?_).mono fun table h => ?_
  · rw [loadTable_amid]
  · rw [loadTable_amid] at h
    obtain ⟨-, -, htable⟩ := Except.bind_ok_iff.1 h
    exact htable

theorem finds_tableOf (h : ∀ command, source ≠ .generated command) :
    Finds (tableOf (hostAmid w) source) d (tableFrom? d source = some ·) := by
  cases source with
  | builtin => exact finds_pure rfl
  | file path =>
    refine (finds_loadTable w path).mono fun table htable => ?_
    rw [tableFrom?, htable]
    rfl
  | generated command => exact absurd rfl (h command)

theorem finds_registryOf (h : ∀ command, source ≠ .generated command) :
    Finds (registryOf (hostAmid w) source) d (registryFrom? d source = some ·) := by
  refine finds_bind (finds_tableOf w h) fun table htable => ?_
  refine (finds_check buildTrouble (Registry.build table)).mono fun r hr => ?_
  rw [registryFrom?, htable, Option.bind_eq_bind, Option.bind_some, hr]
  rfl

theorem finds_registryIn (path : String) : Finds (registryIn (hostAmid w) path) d fun _ => True :=
  finds_bind (finds_loadTable w path) fun table _ => (finds_check _ (Registry.build table)).mono fun _ _ => trivial

end

/-! ## Effects -/

/-- What a command is to write first, and where. -/
def Command.draft? (d : Folder) : Command → Option (String × Bytes)
  | .encode source limits input out => do
    let r ← registryFrom? d source
    let text ← (textAt d input).toOption
    let tree ← (TreeFormat.named.ofJson text).toOption
    let stream ← (({ limits } : Codec).encode r tree).toOption
    some (out, stream)
  | .exportTable source out => do
    let r ← registryFrom? d source
    some (Path.withEnding out "json.tmp", Bytes.ofText r.toTable.render)
  | _ => none

/-- A draft is written beside the target where there is such a place, else to the target itself. -/
theorem Command.path_of_draft? {path : String} {s : Bytes} (h : c.draft? d = some (path, s)) :
    c.staging?.or c.target? = some path := by
  cases c with
  | encode source limits input out =>
    obtain ⟨r, -, h⟩ := Option.bind_eq_some_iff.1 h
    obtain ⟨text, -, h⟩ := Option.bind_eq_some_iff.1 h
    obtain ⟨tree, -, h⟩ := Option.bind_eq_some_iff.1 h
    obtain ⟨stream, -, h⟩ := Option.bind_eq_some_iff.1 h
    exact congrArg (Option.map Prod.fst) h
  | exportTable source out =>
    obtain ⟨r, -, h⟩ := Option.bind_eq_some_iff.1 h
    exact congrArg (Option.map Prod.fst) h
  | validate | checksum | kinds | decode | evolve => cases h

/-- What becomes of the folder, by the result of the command. -/
inductive Effect (c : Command) (d : Folder) : Except Trouble String → Folder → Prop where
  | stopped (t : Trouble) : Effect c d (.error t) d
  /-- A front of the draft was written, or all of it, and stays there. -/
  | broken {d' : Folder} {path : String} {s : Bytes} {k : Nat} (t : Trouble) (hdraft : c.draft? d = some (path, s))
      (hwrite : d.writeFile path (s.take k) = .ok d') : Effect c d (.error t) d'
  | printed (text : String) (hc : c.target? = none) : Effect c d (.ok text) d
  | encoded {d' : Folder} {source : TableSource} {limits : Limits} {input out : String} {s : Bytes} (text : String)
      (hc : c = .encode source limits input out) (hdraft : c.draft? d = some (out, s))
      (hwrite : d.writeFile out s = .ok d') : Effect c d (.ok text) d'
  | exported {d₁ d' : Folder} {source : TableSource} {out : String} {s : Bytes} (text : String)
      (hc : c = .exportTable source out) (hdraft : c.draft? d = some (Path.withEnding out "json.tmp", s))
      (hwrite : d.writeFile (Path.withEnding out "json.tmp") s = .ok d₁)
      (hrename : d₁.rename (Path.withEnding out "json.tmp") out = .ok d') : Effect c d (.ok text) d'

/-- The effect that a job has, done in the folder. -/
def Has (c : Command) (d : Folder) (j : Job (StateM Folder) String) : Prop :=
  ∀ warnings, Effect c d (on j warnings d).1.1 (on j warnings d).2

theorem has_of_finds {j : Job (StateM Folder) String} (hc : c.target? = none) (hj : j.Finds d fun _ => True) :
    Has c d j := by
  intro warnings
  obtain ⟨x, after, hon, -⟩ := hj warnings
  rw [hon]
  cases x with
  | ok text => exact .printed text hc
  | error t => exact .stopped t

/-- A step that only reads hands on what it finds, or ends the job there. -/
theorem has_bind {j : Job (StateM Folder) α} {f : α → Job (StateM Folder) String} {p : α → Prop} (hj : j.Finds d p)
    (hf : ∀ a, p a → Has c d (f a)) : Has c d (j >>= f) := by
  intro warnings
  obtain ⟨x, after, hon, hx⟩ := hj warnings
  rw [on_bind, hon]
  cases x with
  | ok a => exact hf a (hx a rfl) after
  | error t => exact .stopped t

section

variable (w : Mishaps) {source : TableSource} {input out : String} {limits : Limits}

theorem has_writeFile {s : Bytes} (hdraft : (Command.encode source limits input out).draft? d = some (out, s)) :
    Has (.encode source limits input out) d
      (perform fileTrouble ((hostAmid w).writeFile out s) >>= fun _ => pure text) := by
  intro warnings
  have hwritten := written w d out s
  rw [on_bind, on_perform]
  generalize (hostAmid w).writeFile out s d = y at hwritten ⊢
  obtain ⟨x, d'⟩ := y
  cases hwritten with
  | all hfile => exact .encoded _ rfl hdraft hfile
  | front f k hfile => exact .broken _ hdraft hfile
  | nothing f => exact .stopped _

theorem has_saveTable {table : KindTable} (hdraft : (Command.exportTable source out).draft? d =
    some (Path.withEnding out "json.tmp", Bytes.ofText table.render)) :
    Has (.exportTable source out) d
      (perform (fun f => tableTrouble (.file f)) ((hostAmid w).saveTable table out) >>= fun _ => pure text) := by
  intro warnings
  have hsaved := saved w d table out
  rw [on_bind, on_perform]
  generalize (hostAmid w).saveTable table out d = y at hsaved ⊢
  obtain ⟨x, d'⟩ := y
  cases hsaved with
  | moved hfile hrename => exact .exported _ rfl hdraft hfile hrename
  | left f k hfile => exact .broken _ hdraft hfile
  | nothing f => exact .stopped _

end

/-- A command writes at most once, and when all else is done. -/
theorem effect_execute (w : Mishaps) (hc : c.Ungenerated) : Has c d (execute (hostAmid w) c) := by
  have hsource {source : TableSource} (h : c.source? = some source) : ∀ command, source ≠ .generated command := by
    rintro command rfl
    exact hc command h
  cases c with
  | validate source =>
    exact has_of_finds rfl (finds_bind (finds_registryOf w (hsource rfl)) fun r _ => finds_pure trivial)
  | checksum source =>
    exact has_of_finds rfl (finds_bind (finds_registryOf w (hsource rfl)) fun r _ => finds_pure trivial)
  | kinds source category =>
    exact has_of_finds rfl (finds_bind (finds_registryOf w (hsource rfl)) fun r _ => finds_pure trivial)
  | evolve old new =>
    refine has_of_finds rfl (finds_bind (finds_registryIn w old) fun older _ => ?_)
    refine finds_bind (finds_registryIn w new) fun newer _ => ?_
    exact finds_bind (finds_check _ _) fun u _ => finds_pure trivial
  | decode source limits input raw pretty =>
    refine has_of_finds rfl (finds_bind (finds_registryOf w (hsource rfl)) fun r _ => ?_)
    refine finds_bind (finds_perform rfl) fun stream _ => ?_
    refine finds_bind (finds_warn _) fun u _ => ?_
    refine finds_bind (finds_check _ _) fun decoded _ => ?_
    exact finds_bind (finds_check _ _) fun text _ => finds_pure trivial
  | encode source limits input out =>
    refine has_bind (finds_registryOf w (hsource rfl)) fun r hr => ?_
    refine has_bind (finds_readText w input) fun text htext => ?_
    refine has_bind (finds_check _ _) fun tree htree => ?_
    refine has_bind (finds_check _ _) fun stream hstream => has_writeFile w ?_
    rw [Command.draft?, hr, htext, Option.bind_eq_bind, Option.bind_some]
    simp only [htree, hstream, Except.toOption, Option.bind_eq_bind, Option.bind_some]
  | exportTable source out =>
    refine has_bind (finds_registryOf w (hsource rfl)) fun r hr => has_saveTable w ?_
    rw [Command.draft?, hr, Option.bind_eq_bind, Option.bind_some]

/-! ## What stays -/

/-- What a command leaves behind that has come to its end. -/
structure Command.Finished (c : Command) (d d' : Folder) : Prop where
  same : SameBut (fun n => c.Writes d n ∨ c.Stages d n) d d'
  /-- Nothing stands any more where the command wrote first. -/
  cleared : ∀ n, c.Stages d n → ¬ c.Writes d n → d'.get? n = none
  /-- The target holds the draft, unless that was given to a device. -/
  written : ∀ target, c.target? = some target → ∃ path s, c.draft? d = some (path, s) ∧
    (d'.read target = .ok s ∨ ∃ names, d.locate path = .ok (names, .device))

/-- What a command leaves behind that was stopped: all as it was, or a front of its draft. -/
def Command.Stopped (c : Command) (d d' : Folder) : Prop :=
  d' = d ∨ ∃ path s, c.draft? d = some (path, s) ∧ CutShort path s d d'

theorem Effect.finished (h : Effect c d (.ok text) d') : c.Finished d d' := by
  cases h with
  | printed _ hc =>
    have hstages (n : List String) : ¬ c.Stages d n := by
      refine Command.not_stages ?_
      rintro source out rfl
      cases hc
    refine ⟨.refl _ _, fun n hn => absurd hn (hstages n), fun target htarget => ?_⟩
    rw [hc] at htarget
    cases htarget
  | encoded _ hc hdraft hwrite =>
    subst hc
    refine ⟨(writeFile_sameBut hwrite).mono fun n hn => .inl ?_, fun n hn => ?_, fun target htarget => ?_⟩
    · exact Command.writes_encode.2 hn
    · exact absurd hn (Command.not_stages nofun)
    · obtain rfl := Option.some.inj htarget
      exact ⟨_, _, hdraft, (read_writeFile hwrite).imp_right And.right⟩
  | exported _ hc hdraft hwrite hrename =>
    subst hc
    have hbeside := writeFile_sameBut hwrite
    obtain ⟨m, k, hm, hlocate, hk⟩ := locate_writeFile hwrite
    obtain ⟨hmoved, hgone⟩ := rename_sameBut hrename hlocate hk
    constructor
    · simp only [Command.writes_exportTable, Command.stages_exportTable]
      refine (hbeside.mono fun n => .inr).trans (hmoved.mono fun n hn => ?_)
      rcases hn with rfl | hn
      · exact .inr hm
      · exact .inl (hbeside.leads_iff.1 hn)
    · simp only [Command.writes_exportTable, Command.stages_exportTable]
      intro n hn hwrites
      obtain rfl := hn.unique hm
      exact hgone (mt hbeside.leads_iff.1 hwrites)
    · intro target htarget
      obtain rfl := Option.some.inj htarget
      refine ⟨_, _, hdraft, (read_writeFile hwrite).imp (fun hread => ?_) And.right⟩
      exact read_rename hrename hread

theorem Effect.stopped_of_error (h : Effect c d (.error t) d') : c.Stopped d d' := by
  cases h with
  | stopped => exact .inl rfl
  | broken _ hdraft hwrite => exact .inr ⟨_, _, hdraft, cutShort_writeFile hwrite⟩

/-! ## An export over its own table -/

/-- What comes of exporting on a host that reads what is there. -/
theorem on_export {h : Host (StateM Folder)} {table out : String} {r : Registry} (hread : h.read = Folder.host.read)
    (hr : registryAt d table = .ok r) :
    on (execute h (.exportTable (.file table) out)) [] d =
      match h.saveTable r.toTable out d with
      | (.error f, d') => ((.error (tableTrouble (.file f)), []), d')
      | (.ok (), d') => ((.ok s!"export: {r.size} kinds -> {out}\n", []), d') := by
  rw [execute, on_bind, registryOf_congr hread, on_registryOf, hr]
  dsimp only
  rw [on_bind, on_perform]
  obtain ⟨x, d'⟩ := h.saveTable r.toTable out d
  cases x <;> rfl

/-- A file where an export to `kinds.json` writes first. -/
def stagedFolder (s : Bytes) : Folder := .ofFiles [(["kinds.json.tmp"], s)]

/-- A table file in that place. -/
def stagedTable : Folder := stagedFolder (Bytes.ofText noKinds)

/-- What it is exported as. -/
def exportedText : Bytes := Bytes.ofText (Registry.bare .standard).toTable.render

def exportArgs (out : String) : List String := ["export", "--table", "kinds.json.tmp", "--out", out]

def exportCommand (out : String) : Command := .exportTable (.file "kinds.json.tmp") out

theorem parse_exportArgs : parse (exportArgs "kinds.json") = .ok (exportCommand "kinds.json") := by decide +kernel

theorem parse_exportArgs_new : parse (exportArgs "new/") = .ok (exportCommand "new/") := by decide +kernel

theorem beside_kinds : Path.withEnding "kinds.json" "json.tmp" = "kinds.json.tmp" := by decide

theorem beside_new : Path.withEnding "new/" "json.tmp" = "new.json.tmp" := by decide

theorem registryAt_stagedTable : registryAt stagedTable "kinds.json.tmp" = .ok (.bare .standard) :=
  registryAt_noKinds rfl

theorem stagedTable_not_leads : ¬ stagedTable.Leads "kinds.json" (home ++ ["kinds.json.tmp"]) := by
  intro h
  have htarget : stagedTable.Leads "kinds.json" (home ++ ["kinds.json"]) := rfl
  exact absurd (h.unique htarget) (by decide)

/-- The table is overwritten where it lies, and moved away from there. Then the result is printed. -/
theorem run_export_beside {w : Mishaps} (hw : insideAmid w = inside) :
    run (hostAmid w) (exportArgs "kinds.json") stagedTable =
      (.of (fun text => w.check (.ofFiles [(["kinds.json"], exportedText)]) (.print text))
        (.ok "export: 2 kinds -> kinds.json\n", []), .ofFiles [(["kinds.json"], exportedText)]) := by
  have hwrite (s t : Bytes) : Folder.host.writeFile "kinds.json.tmp" t (stagedFolder s) = (.ok (), stagedFolder t) := rfl
  have hrename (s : Bytes) : (stagedFolder s).rename "kinds.json.tmp" "kinds.json" =
      .ok (.ofFiles [(["kinds.json"], s)]) := by
    have hlocate : (stagedFolder s).locate "kinds.json.tmp" = .ok (home ++ ["kinds.json.tmp"], .file) := rfl
    exact (rename_ok_iff hlocate nofun).2 ⟨home ++ ["kinds.json"], rfl, rfl, rfl⟩
  have hsave : (hostAmid w).saveTable (Registry.bare .standard).toTable "kinds.json" stagedTable =
      (.ok (), .ofFiles [(["kinds.json"], exportedText)]) := by
    rw [hostAmid, hw]
    show Folder.host.saveTable (Registry.bare .standard).toTable "kinds.json" stagedTable = _
    rw [host_saveTable_of_ok (beside_kinds ▸ hwrite _ _) (by rw [beside_kinds]; rfl), beside_kinds]
    exact change_of_ok (hrename _)
  have hread : (hostAmid w).read = Folder.host.read := congrArg Files.read hw
  rw [run_amid parse_exportArgs, exportCommand, on_export hread registryAt_stagedTable, hsave]
  rfl

/-- The table cannot be moved to a directory that is not there, and stays where it was written. -/
theorem run_export_nowhere : run Folder.host (exportArgs "new/") stagedTable =
    ({ exit := 1, stderr := (tableTrouble (.file .notDirectory)).report },
      stagedTable.put (home ++ ["new.json.tmp"]) exportedText) := by
  have hwrite (s t : Bytes) : Folder.host.writeFile "new.json.tmp" t (stagedFolder s) =
      (.ok (), (stagedFolder s).put (home ++ ["new.json.tmp"]) t) := rfl
  have hrename (s t : Bytes) : ((stagedFolder s).put (home ++ ["new.json.tmp"]) t).rename "new.json.tmp" "new/" =
      .error .notDirectory := rfl
  have hsave : Folder.host.saveTable (Registry.bare .standard).toTable "new/" stagedTable =
      (.error .notDirectory, stagedTable.put (home ++ ["new.json.tmp"]) exportedText) := by
    rw [host_saveTable_of_ok (beside_new ▸ hwrite _ _) (by rw [beside_new]; rfl), beside_new]
    exact change_of_error (hrename _ _)
  rw [run_eq parse_exportArgs_new, exportCommand, on_export rfl registryAt_stagedTable, hsave]
  rfl

/-- What stops every write after so many bytes. -/
def stopWrites (f : FileFault) (k : Nat) : Mishaps
  | _, .write _ _ => some ⟨f, k⟩
  | _, _ => Option.none

/-- What stops the printing. -/
def stopPrint (f : FileFault) : Mishaps
  | _, .print _ => some { fault := f }
  | _, _ => Option.none

/-- A write that breaks off leaves the table cut short. -/
theorem run_export_cut (f : FileFault) (k : Nat) :
    run (hostAmid (stopWrites f k)) (exportArgs "kinds.json") stagedTable =
      ({ exit := 1, stderr := (tableTrouble (.file f)).report }, stagedFolder (exportedText.take k)) := by
  have hwrite (s t : Bytes) : (hostAmid (stopWrites f k)).writeFile "kinds.json.tmp" t (stagedFolder s) =
      (.error f, stagedFolder (t.take k)) := rfl
  have hsave : (hostAmid (stopWrites f k)).saveTable (Registry.bare .standard).toTable "kinds.json" stagedTable =
      (.error f, stagedFolder (exportedText.take k)) := by
    rw [saveTable_amid, beside_kinds, stagedTable, hwrite]
    rfl
  have hread : (hostAmid (stopWrites f k)).read = Folder.host.read := rfl
  rw [run_amid parse_exportArgs, exportCommand, on_export hread registryAt_stagedTable, hsave]
  rfl

/-- A write that breaks off leaves the stream cut short. -/
theorem run_encode_cut (f : FileFault) (k : Nat) :
    run (hostAmid (stopWrites f k)) encodeArgs (withPrinted [] (printedTree Codec.sampleTree false)) =
      ({ exit := 1, stderr := (fileTrouble f).report },
        (withPrinted [] (printedTree Codec.sampleTree false)).put (home ++ ["again.synr"])
          (Codec.sampleStream.take k)) := by
  have hwrite (s : Bytes) (printed : String) :
      (hostAmid (stopWrites f k)).writeFile "again.synr" s (withPrinted [] printed) =
        (.error f, (withPrinted [] printed).put (home ++ ["again.synr"]) (s.take k)) := rfl
  have hjson : TreeFormat.named.ofJson (printedTree Codec.sampleTree false) = .ok Codec.sampleTree := by
    rw [ofJson_printedTree, if_pos (by decide)]
  have hread : (hostAmid (stopWrites f k)).read = Folder.host.read := rfl
  have htext := textAt_ofText (read_withPrinted [] (printedTree Codec.sampleTree false))
  rw [run_amid parse_encodeArgs, on_encode hread (registryAt_withPrinted _ _) htext, hjson]
  dsimp only
  rw [Codec.encode_sampleTree]
  dsimp only
  rw [hwrite]
  rfl

/-! ## Runs -/

theorem run_help {args : List String} {command : Option String} (h : parse args = .error (.help command))
    (w : Mishaps) (d : Folder) : (run (hostAmid w) args d).1.exit = 0 ∧ (run (hostAmid w) args d).2 = d := by
  have hprint (text : String) : (hostAmid w).print text d = (w.check d (.print text), d) := rfl
  unfold run
  rw [h]
  dsimp only
  rw [bind_apply, hprint]
  cases w.check d (.print (helpText command)) <;> exact ⟨rfl, rfl⟩

example : (run Folder.host ["encode", "--input=tree.json", "--help"] stagedTable).1 =
    { exit := 0, stdout := "Encode a JSON syntax tree into a stream\n" } := by decide +kernel

theorem run_improper {args : List String} (h : parse args = .error .improper) (w : Mishaps) (d : Folder) :
    run (hostAmid w) args d = ({ exit := 2, stderr := "error: improper use\n" }, d) := by
  unfold run
  rw [h]
  rfl

end SyntaxWire.CommandLine
