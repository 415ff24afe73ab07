/-
The commands that decode and encode trees. `decode` prints the tree of every
stream that it accepts (`run_decode_iff`). Of what it prints `encode` makes
the same stream again if the JSON nests no deeper than a reader follows it,
and nothing if it does (`encode_of_printed`). The depth that trees may have is
not bounded by that, so there are streams that do not come back this way
(`chainStream_refused`).
-/
import SyntaxWire.Proofs.CommandLine.Job
import SyntaxWire.Proofs.Folder
import SyntaxWire.Proofs.Stream.Canonical
import SyntaxWire.Proofs.Tree.Json

namespace SyntaxWire

theorem Compatibility.events_eq_nil {v : Compatibility} : v.events = [] ↔ v = .exact := by
  cases v with
  | exact => exact iff_of_true rfl rfl
  | partialMismatch m => exact iff_of_false (List.cons_ne_nil _ _) (fun h => nomatch h)

namespace CommandLine

variable {d : Folder} {r : Registry} {table stream input out : String} {limits : Limits} {raw pretty : Bool}

/-- What is printed of a stream. -/
def decodedText (c : Codec) (r : Registry) (s : Bytes) (raw pretty : Bool) : Except Trouble String :=
  (c.decode r s).mapError codecTrouble >>= fun x =>
    (renderTree r x.root raw pretty).mapError codecTrouble >>= fun text => .ok (text ++ "\n")

theorem on_decode : Job.on (execute Folder.host (.decode (.file table) limits stream raw pretty)) [] d =
    (match registryAt d table with
    | .error t => (.error t, [])
    | .ok r =>
      match d.read stream with
      | .error f => (.error ((fileTrouble f).during s!"reading {stream}"), [])
      | .ok s => (decodedText { limits } r s raw pretty, ({ limits } : Codec).decodeEvents r s), d) := by
  rw [execute, Job.on_bind, on_registryOf]
  cases registryAt d table with
  | error t => rfl
  | ok r =>
    dsimp only
    have hread : Folder.host.read stream d = (d.read stream, d) := rfl
    rw [Job.on_bind, Job.on_perform, hread]
    cases d.read stream with
    | error f => rfl
    | ok s =>
      dsimp only [Except.ok_mapError]
      rw [Job.on_bind, Job.on_warn]
      dsimp only
      rw [Job.on_bind, Job.on_check, decodedText]
      cases ({ limits } : Codec).decode r s with
      | error f => rfl
      | ok x =>
        dsimp only [Except.ok_mapError]
        rw [Except.ok_bind, Job.on_bind, Job.on_check]
        cases renderTree r x.root raw pretty <;> rfl

/-- What is printed of a tree and the stream that it was written as. -/
def encodedText (t : SyntaxTree) (s : Bytes) : String :=
  s!"encoded: {t.size} nodes, {s.length} bytes, key {(Blake3.hash s).hex}\n"

/-- What comes of encoding on a host that reads what is there. -/
theorem on_encode {h : Host (StateM Folder)} {text : String} (hread : h.read = Folder.host.read)
    (hr : registryAt d table = .ok r) (htext : textAt d input = .ok text) :
    Job.on (execute h (.encode (.file table) limits input out)) [] d =
      match TreeFormat.named.ofJson text with
      | .error f => ((.error (jsonTrouble f), []), d)
      | .ok t =>
        match ({ limits } : Codec).encode r t with
        | .error f => ((.error (codecTrouble f), []), d)
        | .ok s =>
          match h.writeFile out s d with
          | (.error f, d') => ((.error (fileTrouble f), []), d')
          | (.ok (), d') => ((.ok (encodedText t s), []), d') := by
  rw [execute, Job.on_bind, registryOf_congr hread, on_registryOf, hr]
  dsimp only
  rw [Job.on_bind, Job.on_perform, readText_congr hread, readText_eq, htext]
  dsimp only [Except.ok_mapError]
  rw [Job.on_bind, Job.on_check]
  cases TreeFormat.named.ofJson text with
  | error f => rfl
  | ok t =>
    dsimp only [Except.ok_mapError]
    rw [Job.on_bind, Job.on_check]
    cases ({ limits } : Codec).encode r t with
    | error f => rfl
    | ok s =>
      dsimp only [Except.ok_mapError]
      rw [Job.on_bind, Job.on_perform]
      obtain ⟨x, d'⟩ := h.writeFile out s d
      cases x <;> rfl

/-! ## Decoding -/

/-- A named tree as it is printed. -/
def printedTree (t : SyntaxTree) (pretty : Bool) : String :=
  (if pretty then (TreeFormat.named.toJson t).pretty else (TreeFormat.named.toJson t).compact) ++ "\n"

theorem decodedText_ok_iff {c : Codec} {s : Bytes} {stdout : String} :
    decodedText c r s false pretty = .ok stdout ↔
      ∃ x t, c.decode r s = .ok x ∧ r.raise x.root = .ok t ∧ stdout = printedTree t pretty := by
  have hrender (x : Decoded) : renderTree r x.root false pretty = (r.raise x.root >>= fun t =>
      .ok (if pretty then (TreeFormat.named.toJson t).pretty else (TreeFormat.named.toJson t).compact)) := by
    unfold renderTree
    cases r.raise x.root <;> rfl
  simp only [decodedText, hrender, Except.bind_ok_iff, Except.mapError_ok_iff, Except.ok.injEq]
  constructor
  · rintro ⟨x, hx, text, ⟨t, ht, rfl⟩, rfl⟩
    exact ⟨x, t, hx, ht, rfl⟩
  · rintro ⟨x, t, hx, ht, rfl⟩
    exact ⟨x, hx, _, ⟨t, ht, rfl⟩, rfl⟩

theorem Outcome.of_eq_success {y : Except Trouble String} {given warnings : List Event} {stdout : String} :
    Outcome.of (fun _ => .ok ()) (y, given) = { exit := 0, stdout, warnings } ↔ y = .ok stdout ∧ given = warnings := by
  cases y with
  | error t =>
    have hexit : (1 : UInt8) ≠ 0 := by decide
    exact iff_of_false (fun h => hexit (congrArg Outcome.exit h)) (fun h => nomatch h.1)
  | ok text => simp [Outcome.of]

theorem decodeEvents_of_decode {c : Codec} {s : Bytes} {x : Decoded} (h : c.decode r s = .ok x) :
    c.decodeEvents r s = x.compatibility.events := by
  obtain ⟨-, hs, hmajor, hverdict, -⟩ := Codec.decode_ok_iff.1 h
  have hopen : c.openStream r s = .ok ⟨x.version, x.compatibility, x.root.written⟩ :=
    Codec.openStream_ok_iff.2 ⟨hs, hmajor, hverdict⟩
  rw [Codec.decodeEvents, hopen]

/-- A stream is accepted if its tree has names, and it is this tree that is printed. -/
theorem run_decode_iff {args : List String} {stdout : String} {warnings : List Event}
    (hargs : parse args = .ok (.decode (.file table) limits stream false pretty)) :
    (run Folder.host args d).1 = { exit := 0, stdout, warnings } ↔
      ∃ r s x t, registryAt d table = .ok r ∧ d.read stream = .ok s ∧ ({ limits } : Codec).decode r s = .ok x ∧
        r.raise x.root = .ok t ∧ stdout = printedTree t pretty ∧ warnings = x.compatibility.events := by
  rw [run_eq hargs, on_decode]
  dsimp only
  constructor
  · intro h
    split at h
    · cases (Outcome.of_eq_success.1 h).1
    · next r hr =>
      split at h
      · cases (Outcome.of_eq_success.1 h).1
      · next s hs =>
        obtain ⟨htext, hwarnings⟩ := Outcome.of_eq_success.1 h
        obtain ⟨x, t, hx, ht, hstdout⟩ := decodedText_ok_iff.1 htext
        exact ⟨r, s, x, t, hr, hs, hx, ht, hstdout, hwarnings ▸ decodeEvents_of_decode hx⟩
  · rintro ⟨r, s, x, t, hr, hs, hx, ht, hstdout, rfl⟩
    rw [hr]
    dsimp only
    rw [hs]
    exact Outcome.of_eq_success.2 ⟨decodedText_ok_iff.2 ⟨x, t, hx, ht, hstdout⟩, decodeEvents_of_decode hx⟩

/-! ## A folder to work in -/

/-- A table file without kinds of its own. -/
def noKinds : String := "\x7b\"kinds\":[]\x7d"

/-- That table, and a stream. -/
def workFolder (stream : Bytes) : Folder :=
  .ofFiles [(["kinds.json"], Bytes.ofText noKinds), (["tree.synr"], stream)]

/-- The folder with what was printed of the stream. -/
def withPrinted (stream : Bytes) (printed : String) : Folder :=
  (workFolder stream).put (Folder.home ++ ["tree.json"]) (Bytes.ofText printed)

def decodeArgs : List String := ["decode", "--table", "kinds.json", "--input", "tree.synr"]

def encodeArgs : List String := ["encode", "--table", "kinds.json", "--input", "tree.json", "--out", "again.synr"]

theorem parse_decodeArgs : parse decodeArgs = .ok (.decode (.file "kinds.json") {} "tree.synr" false false) := by
  decide +kernel

theorem parse_encodeArgs : parse encodeArgs = .ok (.encode (.file "kinds.json") {} "tree.json" "again.synr") := by
  decide +kernel

theorem registryAt_noKinds (h : d.read table = .ok (Bytes.ofText noKinds)) :
    registryAt d table = .ok (.bare .standard) := by
  have htable : KindTable.ofJson noKinds = .ok {} := by decide +kernel
  exact registryAt_ofText h htable rfl

section Reading

variable (s : Bytes) (printed : String)

theorem registryAt_workFolder : registryAt (workFolder s) "kinds.json" = .ok (.bare .standard) := registryAt_noKinds rfl

theorem registryAt_withPrinted : registryAt (withPrinted s printed) "kinds.json" = .ok (.bare .standard) :=
  registryAt_noKinds rfl

theorem read_kinds_withPrinted : (withPrinted s printed).read "kinds.json" = (workFolder s).read "kinds.json" := rfl

theorem read_withPrinted : (withPrinted s printed).read "tree.json" = .ok (Bytes.ofText printed) := rfl

theorem locate_again (t : Bytes) :
    ∃ d, Folder.host.writeFile "again.synr" t (withPrinted s printed) = (.ok (), d) ∧
      d.locate "again.synr" = .ok (Folder.home ++ ["again.synr"], .file) := ⟨_, rfl, rfl⟩

end Reading

/-- A stream of primitive kinds is decoded if it is what the tree that is printed is encoded as. -/
theorem run_decode_of_encode {t : SyntaxTree} {s : Bytes} (h : ({} : Codec).encode (.bare .standard) t = .ok s)
    (hs : s.length < UInt64.size) :
    (run Folder.host decodeArgs (workFolder s)).1 = { exit := 0, stdout := printedTree t false } := by
  obtain ⟨x, hdecode, hexact, hraise⟩ := Codec.decode_own_stream h hs
  refine (run_decode_iff parse_decodeArgs).2 ⟨_, s, x, t, registryAt_workFolder s, rfl, hdecode, hraise, rfl, ?_⟩
  exact (Compatibility.events_eq_nil.2 hexact).symm

/-! ## Encoding what was printed -/

theorem ofJson_printedTree (t : SyntaxTree) (pretty : Bool) :
    TreeFormat.named.ofJson (printedTree t pretty) =
      if (TreeFormat.named.toJson t).nesting ≤ Json.maxLevels then .ok t else .error .tooDeep := by
  have hblank : Json.Blank ['\n'] := List.forall_mem_singleton.2 rfl
  have htexts := TreeFormat.ofJson_texts TreeFormat.faithful_named t hblank
  cases pretty with
  | false => exact htexts _ List.mem_cons_self
  | true => exact htexts _ (List.mem_cons_of_mem _ List.mem_cons_self)

theorem run_encode_of_fits {args : List String} {d' : Folder} {t : SyntaxTree} {s : Bytes}
    (hargs : parse args = .ok (.encode (.file table) limits input out)) (hr : registryAt d table = .ok r)
    (htext : textAt d input = .ok (printedTree t pretty)) (ht : t.FitsJson)
    (hs : ({ limits } : Codec).encode r t = .ok s) (hout : Folder.host.writeFile out s d = (.ok (), d')) :
    run Folder.host args d = ({ exit := 0, stdout := encodedText t s }, d') := by
  have hfits := (TreeFormat.nesting_le_maxLevels TreeFormat.faithful_named).2 ht
  rw [run_eq hargs, on_encode rfl hr htext, ofJson_printedTree, if_pos hfits]
  dsimp only
  rw [hs]
  dsimp only
  rw [hout]
  rfl

theorem run_encode_of_deep {args : List String} {t : SyntaxTree}
    (hargs : parse args = .ok (.encode (.file table) limits input out)) (hr : registryAt d table = .ok r)
    (htext : textAt d input = .ok (printedTree t pretty)) (ht : ¬ t.FitsJson) :
    ∃ place, run Folder.host args d =
      ({ exit := 1, stderr := "Error: recursion limit exceeded" ++ place ++ "\n" }, d) := by
  have hdeep := mt (TreeFormat.nesting_le_maxLevels TreeFormat.faithful_named).1 ht
  refine ⟨"", ?_⟩
  rw [run_eq hargs, on_encode rfl hr htext, ofJson_printedTree, if_neg hdeep]
  rfl

/-- **What `decode` prints, `encode` writes back as the stream that it was printed of**, where the table
is the same and the verdict on the stream was exact, as long as no node lies deeper than the 64th
level and every payload on that level is text. Else the JSON nests too deep for `encode`, whatever
the limit on the depth of trees, and nothing is written. What is reported then starts with this fault;
where in the text it was found is left open. -/
theorem encode_of_printed {d d' : Folder} {args args' : List String} {table stream input out stdout : String}
    {limits : Limits} {pretty : Bool}
    (hargs : parse args = .ok (.decode (.file table) limits stream false pretty))
    (hargs' : parse args' = .ok (.encode (.file table) limits input out))
    (haccepts : (run Folder.host args d).1 = { exit := 0, stdout })
    (htable : d'.read table = d.read table) (hinput : d'.read input = .ok (Bytes.ofText stdout)) :
    ∃ r s x t, registryAt d table = .ok r ∧ d.read stream = .ok s ∧ ({ limits } : Codec).decode r s = .ok x ∧
      x.compatibility = .exact ∧ r.raise x.root = .ok t ∧
      (t.FitsJson → ∀ d'', Folder.host.writeFile out s d' = (.ok (), d'') →
        run Folder.host args' d' = ({ exit := 0, stdout := encodedText t s }, d'') ∧
        (d''.read out = .ok s ∨ ∃ names, d''.locate out = .ok (names, .device))) ∧
      (¬ t.FitsJson → ∃ place, run Folder.host args' d' =
        ({ exit := 1, stderr := "Error: recursion limit exceeded" ++ place ++ "\n" }, d')) := by
  obtain ⟨r, s, x, t, hr, hs, hx, ht, rfl, hwarnings⟩ := (run_decode_iff hargs).1 haccepts
  have hexact : x.compatibility = .exact := Compatibility.events_eq_nil.1 hwarnings.symm
  have hr' : registryAt d' table = .ok r := by
    rw [registryAt, tableAt, textAt, htable]
    exact hr
  have htext : textAt d' input = .ok (printedTree t pretty) := textAt_ofText hinput
  refine ⟨r, s, x, t, hr, hs, hx, hexact, ht, fun hfits d'' hout => ⟨?_, ?_⟩, fun hdeep => ?_⟩
  · exact run_encode_of_fits hargs' hr' htext hfits (Codec.encode_of_decode hx hexact ht) hout
  · refine (Folder.read_writeFile (Folder.host_writeFile_iff.1 hout)).imp_right ?_
    rintro ⟨rfl, hdevice⟩
    exact hdevice
  · exact run_encode_of_deep hargs' hr' htext hdeep

/-- A token below an inner node comes back. -/
theorem encode_of_printed_sampleTree :
    ∃ d, run Folder.host encodeArgs (withPrinted Codec.sampleStream (printedTree Codec.sampleTree false)) =
        ({ exit := 0, stdout := encodedText Codec.sampleTree Codec.sampleStream }, d) ∧
      d.read "again.synr" = .ok Codec.sampleStream := by
  have haccepts := run_decode_of_encode Codec.encode_sampleTree Codec.length_sampleStream
  have hfits : Codec.sampleTree.FitsJson := fun n hn => by
    have hdepth : ∀ n ∈ Codec.sampleTree.preorder 1, n.depth ≤ 2 := by decide
    have := hdepth n hn
    exact ⟨by omega, by omega⟩
  obtain ⟨r, s, x, t, hr, hs, hx, -, ht, hback, -⟩ := encode_of_printed parse_decodeArgs parse_encodeArgs haccepts
    (read_kinds_withPrinted _ _) (read_withPrinted _ _)
  obtain rfl : r = .bare .standard := Except.ok.inj (hr.symm.trans (registryAt_workFolder _))
  obtain rfl : s = Codec.sampleStream := Except.ok.inj hs.symm
  obtain ⟨y, hdecode, -, hraise⟩ := Codec.decode_own_stream Codec.encode_sampleTree Codec.length_sampleStream
  obtain rfl : x = y := Except.ok.inj (hx.symm.trans hdecode)
  obtain rfl : t = Codec.sampleTree := Except.ok.inj (ht.symm.trans hraise)
  obtain ⟨d, hcreate, hfile⟩ := locate_again Codec.sampleStream (printedTree Codec.sampleTree false) Codec.sampleStream
  obtain ⟨hrun, hread⟩ := hback hfits d hcreate
  refine ⟨d, hrun, hread.resolve_right fun ⟨names, hdevice⟩ => ?_⟩
  rw [hfile] at hdevice
  cases hdevice

/-! ## Too deep to come back -/

/-- Nodes of one kind below one another. -/
def chain {κ : Type} (k : κ) : Nat → Tree κ
  | 0 => .node k [] none
  | n + 1 => .node k [chain k n] none

theorem mem_preorder_chain {κ : Type} {k : κ} {n depth : Nat} {m : Node κ} (h : m ∈ (chain k n).preorder depth) :
    m.depth ≤ depth + n ∧ m.kind = k ∧ m.count ≤ 1 ∧ m.payload = none := by
  induction n generalizing depth with
  | zero =>
    obtain rfl := List.mem_singleton.1 h
    exact ⟨Nat.le_refl _, rfl, Nat.zero_le 1, rfl⟩
  | succ n ih =>
    rw [chain, Tree.preorder, Tree.preorderAll, Tree.preorderAll, List.append_nil, List.mem_cons] at h
    rcases h with rfl | h
    · exact ⟨Nat.le_add_right _ _, rfl, Nat.le_refl 1, rfl⟩
    · obtain ⟨hdepth, hrest⟩ := ih h
      exact ⟨by omega, hrest⟩

theorem exists_deepest {κ : Type} (k : κ) (n depth : Nat) : ∃ m ∈ (chain k n).preorder depth, m.depth = depth + n := by
  induction n generalizing depth with
  | zero => exact ⟨_, List.mem_cons_self, rfl⟩
  | succ n ih =>
    obtain ⟨m, hm, hdepth⟩ := ih (depth + 1)
    refine ⟨m, ?_, by omega⟩
    rw [chain, Tree.preorder, Tree.preorderAll, Tree.preorderAll, List.append_nil]
    exact List.mem_cons_of_mem _ hm

theorem fitsJson_chain {κ : Type} (k : κ) (n : Nat) : (chain k n).FitsJson ↔ n < 64 := by
  constructor
  · intro h
    obtain ⟨m, hm, hdepth⟩ := exists_deepest k n 1
    have := (h m hm).1
    omega
  · intro hn m hm
    obtain ⟨hdepth, -, -, hpayload⟩ := mem_preorder_chain hm
    refine ⟨by omega, fun _ p hp => ?_⟩
    rw [hpayload] at hp
    cases hp

theorem lower_chain (n : Nat) : (Registry.bare .standard).lower (chain "Unknown" n) = .ok (chain 1 n) := by
  induction n with
  | zero => rfl
  | succ n ih =>
    unfold Registry.lower at ih ⊢
    exact Tree.relabel_ok_iff.2 ⟨1, [chain 1 n], rfl, Tree.relabelAll_ok_iff.2 ⟨_, [], ih, rfl, rfl⟩, rfl⟩

theorem length_written_chain (n : Nat) : (Tree.written (chain 1 n)).length = 2 * (n + 1) := by
  induction n with
  | zero =>
    have hleaf : nodeText 1 0 none = [1, 0] := by decide +kernel
    rw [chain, Tree.written, Tree.writtenAll, List.append_nil, List.length_nil, hleaf]
    rfl
  | succ n ih =>
    have hinner : nodeText 1 1 none = [1, 1] := by decide +kernel
    rw [chain, Tree.written, Tree.writtenAll, Tree.writtenAll, List.append_nil, List.length_append, ih,
      List.length_singleton, hinner, List.length_cons, List.length_singleton]
    omega

def chainStream (n : Nat) : Bytes := (({} : Codec).guard.stamp (.bare .standard)).header ++ Tree.written (chain 1 n)

theorem length_chainStream (n : Nat) : (chainStream n).length = 14 + 2 * (n + 1) := by
  rw [chainStream, List.length_append, ProtocolVersion.length_header, length_written_chain]
  rfl

theorem encode_chain {n : Nat} (hn : n < 4096) :
    ({} : Codec).encode (.bare .standard) (chain "Unknown" n) = .ok (chainStream n) := by
  rw [Codec.encode_eq_encodeCodes (lower_chain n)]
  refine Codec.encodeCodes_ok_iff.2 ⟨fun m hm => ⟨rfl, ?_⟩, rfl⟩
  obtain ⟨hdepth, hkind, -, hpayload⟩ := mem_preorder_chain hm
  refine ⟨?_, ⟨.unknown, ?_, hpayload⟩, fun p hp => ?_⟩
  · have hlimit : ({} : Codec).limits.maxDepth.toNat = 4096 := rfl
    omega
  · rw [hkind]
    rfl
  · rw [hpayload] at hp
    cases hp

/-- **A stream that is accepted and does not come back.** Its 65 nodes lie one below the other, far from
the limit on the depth of trees. -/
theorem chainStream_refused :
    (run Folder.host decodeArgs (workFolder (chainStream 64))).1 =
        { exit := 0, stdout := printedTree (chain "Unknown" 64) false } ∧
      ∃ place, run Folder.host encodeArgs (withPrinted (chainStream 64) (printedTree (chain "Unknown" 64) false)) =
        ({ exit := 1, stderr := "Error: recursion limit exceeded" ++ place ++ "\n" },
          withPrinted (chainStream 64) (printedTree (chain "Unknown" 64) false)) := by
  have hlength : (chainStream 64).length < UInt64.size := by
    rw [length_chainStream]
    decide
  refine ⟨run_decode_of_encode (encode_chain (by decide)) hlength, ?_⟩
  exact run_encode_of_deep parse_encodeArgs (registryAt_withPrinted _ _) (textAt_ofText (read_withPrinted _ _))
    (mt (fitsJson_chain "Unknown" 64).1 (Nat.lt_irrefl 64))

end CommandLine

end SyntaxWire
