/-
What is written to a file is read back from it, also under a new name. Putting
a file takes away no directory, so a path still leads where it led before
(`resolve_put`), and what it leads to is then the new file (`read_writeFile`).
A file that is taken out leaves the directories that it was in, and it makes
no others (`isDirectory_erase`), so a renamed file is read as it was
(`read_rename`). Nothing else changes: of all directories none, and of the
files at most those to which the paths lead (`SameBut`).

Writing a file anew takes two steps, and the second one may be stopped on its
way. Then a front of the bytes is there instead of what was there before, and
that is all that differs (`Written`, `CutShort`).
-/
import SyntaxWire.Folder
import SyntaxWire.Proofs.Except

namespace SyntaxWire.Folder

variable {d d' : Folder} {n : List String} {s : Bytes} {path : String}

/-! ## Putting a file -/

theorem lookup_replaced {files : List (List String × Bytes)} (h : (files.lookup n).isSome) :
    (files.map fun (m, t) => if m = n then (m, s) else (m, t)).lookup n = some s := by
  induction files with
  | nil => cases h
  | cons file files ih =>
    obtain ⟨m, t⟩ := file
    rw [List.map_cons]
    dsimp only
    by_cases hm : m = n
    · rw [if_pos hm, hm, List.lookup_cons_self]
    · have hne : (n == m) = false := beq_false_of_ne (Ne.symm hm)
      rw [List.lookup_cons, hne] at h
      rw [if_neg hm, List.lookup_cons, hne]
      exact ih h

theorem lookup_replaced_of_ne {files : List (List String × Bytes)} {l : List String} (hl : l ≠ n) :
    (files.map fun (m, t) => if m = n then (m, s) else (m, t)).lookup l = files.lookup l := by
  induction files with
  | nil => rfl
  | cons file files ih =>
    obtain ⟨m, t⟩ := file
    rw [List.map_cons]
    dsimp only
    by_cases hm : m = n
    · have hne : (l == m) = false := beq_false_of_ne (hm ▸ hl)
      rw [if_pos hm, List.lookup_cons, List.lookup_cons, hne]
      exact ih
    · rw [if_neg hm, List.lookup_cons, List.lookup_cons, ih]

theorem get?_put (d : Folder) (n : List String) (s : Bytes) : (d.put n s).get? n = some s := by
  unfold put
  split
  · next h => exact lookup_replaced h
  · next h =>
    have hnone : d.files.lookup n = none := Option.not_isSome_iff_eq_none.1 h
    simp [get?, List.lookup_append, hnone]

theorem replaced_replaced (files : List (List String × Bytes)) (t : Bytes) :
    (files.map fun (m, u) => if m = n then (m, s) else (m, u)).map (fun (m, u) => if m = n then (m, t) else (m, u)) =
      files.map fun (m, u) => if m = n then (m, t) else (m, u) := by
  rw [List.map_map]
  refine List.map_congr_left fun file _ => ?_
  by_cases hm : file.1 = n <;> simp [hm]

theorem replaced_of_lookup {files : List (List String × Bytes)} (h : files.lookup n = none) :
    (files.map fun (m, u) => if m = n then (m, s) else (m, u)) = files := by
  induction files with
  | nil => rfl
  | cons file files ih =>
    obtain ⟨m, u⟩ := file
    rw [List.lookup_cons] at h
    split at h
    · cases h
    · next hne =>
      have hm : m ≠ n := fun heq => beq_eq_false_iff_ne.1 hne heq.symm
      rw [List.map_cons, ih h]
      dsimp only
      rw [if_neg hm]

/-- What was put there before is gone. -/
theorem put_put (d : Folder) (n : List String) (s t : Bytes) : (d.put n s).put n t = d.put n t := by
  have hput : ((d.put n s).get? n).isSome := by
    rw [get?_put]
    rfl
  rw [put, if_pos hput]
  unfold put
  split
  · rw [replaced_replaced]
  · next h =>
    have hnone : d.files.lookup n = none := Option.not_isSome_iff_eq_none.1 h
    rw [List.map_append, replaced_of_lookup hnone]
    simp

theorem get?_put_of_ne {m : List String} (hm : m ≠ n) : (d.put n s).get? m = d.get? m := by
  unfold put
  split
  · exact lookup_replaced_of_ne hm
  · have hne : (m == n) = false := beq_false_of_ne hm
    simp [get?, List.lookup_append, List.lookup_cons, hne]

theorem mem_files_of_get? (h : (d.get? n).isSome) : n ∈ d.files.map (·.1) := by
  obtain ⟨file, hfile, heq⟩ := List.lookup_isSome_iff.1 h
  obtain rfl := eq_of_beq heq
  exact List.mem_map_of_mem hfile

theorem mem_names_put {m : List String} : m ∈ (d.put n s).names ↔ m ∈ d.names ∨ m = n := by
  unfold put
  split
  · next h =>
    have hnames : (d.files.map fun (k, t) => if k = n then (k, s) else (k, t)).map (·.1) = d.files.map (·.1) := by
      rw [List.map_map]
      refine List.map_congr_left fun file _ => ?_
      show (if file.1 = n then (file.1, s) else (file.1, file.2)).1 = file.1
      split <;> rfl
    have hn : n ∈ d.names := List.mem_append_left _ (mem_files_of_get? h)
    unfold names
    rw [hnames]
    exact ⟨.inl, fun h => h.elim id fun h => h ▸ hn⟩
  · simp only [names, List.map_append, List.mem_append, List.map_cons, List.map_nil, List.mem_singleton]
    exact or_right_comm

theorem isDirectory_iff {m : List String} :
    d.isDirectory m = true ↔ m ∈ standing ∨ m ∈ d.made ∨ ∃ k ∈ d.names, m.isPrefixOf k = true ∧ k ≠ m := by
  simp only [isDirectory, Bool.or_eq_true, decide_eq_true_eq, List.any_eq_true, Bool.and_eq_true, or_assoc]

theorem isDirectory_put {m : List String} :
    (d.put n s).isDirectory m = true ↔ d.isDirectory m = true ∨ m.isPrefixOf n = true ∧ n ≠ m := by
  have hmade : (d.put n s).made = d.made := by
    unfold put
    split <;> rfl
  simp only [isDirectory_iff, hmade, mem_names_put, or_and_right, exists_or, exists_eq_left, or_assoc]

theorem isDirectory_put_self (d : Folder) (n : List String) (s : Bytes) :
    (d.put n s).isDirectory n = d.isDirectory n := by
  rw [Bool.eq_iff_iff, isDirectory_put]
  exact ⟨fun h => h.elim id fun h => absurd rfl h.2, .inl⟩

/-! ## Paths -/

theorem kindOf_eq_directory : d.kindOf n = some .directory ↔ d.isDirectory n = true := by
  unfold kindOf
  split
  · next h => exact iff_of_true rfl h
  · next h =>
    refine iff_of_false (fun hkind => ?_) h
    split at hkind
    · cases hkind
    · split at hkind <;> cases hkind

/-- Names are followed through directories only, so it matters only that these stay. -/
theorem follow_of_isDirectory {at_ names target : List String}
    (hstay : ∀ m, d.isDirectory m = true → d'.isDirectory m = true) (h : d.follow at_ names = .ok target) :
    d'.follow at_ names = .ok target := by
  induction names generalizing at_ with
  | nil => exact h
  | cons name names ih =>
    rw [follow] at h ⊢
    split at h
    · cases h
    · cases h
    · cases h
    · next hkind =>
      have hdirectory : d'.kindOf at_ = some .directory :=
        kindOf_eq_directory.2 (hstay at_ (kindOf_eq_directory.1 hkind))
      rw [hdirectory]
      dsimp only
      split at h
      · next hstay => rw [if_pos hstay]; exact ih h
      · next hstay =>
        rw [if_neg hstay]
        split at h
        · next hup => rw [if_pos hup]; exact ih h
        · next hup =>
          rw [if_neg hup]
          split at h
          · cases h
          · next hlong => rw [if_neg hlong]; exact ih h

theorem resolve_of_isDirectory {target : List String × Bool}
    (hstay : ∀ m, d.isDirectory m = true → d'.isDirectory m = true) (h : d.resolve path = .ok target) :
    d'.resolve path = .ok target := by
  unfold resolve at h ⊢
  by_cases hempty : path.isEmpty
  · rw [if_pos hempty] at h
    cases h
  · by_cases hlong : 4096 ≤ path.utf8ByteSize
    · rw [if_neg hempty, if_pos hlong] at h
      cases h
    · rw [if_neg hempty, if_neg hlong] at h ⊢
      obtain ⟨names, hnames, htarget⟩ := Except.bind_ok_iff.1 h
      exact Except.bind_ok_iff.2 ⟨names, follow_of_isDirectory hstay hnames, htarget⟩

theorem resolve_put {target : List String × Bool} (h : d.resolve path = .ok target) :
    (d.put n s).resolve path = .ok target :=
  resolve_of_isDirectory (fun _ hm => isDirectory_put.2 (.inl hm)) h

/-- A file that is created is empty, where the path leads. A device stays what it is. -/
theorem create_cases (h : d.create path = .ok d') :
    ∃ names, d.resolve path = .ok (names, false) ∧ d.isDirectory names = false ∧
      (devices.lookup names = none ∧ d' = d.put names [] ∨ (devices.lookup names).isSome ∧ d' = d) := by
  obtain ⟨⟨names, insists⟩, hresolve, h⟩ := Except.bind_ok_iff.1 h
  dsimp only at h
  split at h
  · cases h
  next hfile =>
  obtain ⟨hinsists, hdirectory⟩ := not_or.1 hfile
  rw [Bool.not_eq_true] at hinsists hdirectory
  subst hinsists
  refine ⟨names, hresolve, hdirectory, ?_⟩
  split at h
  · next hdevice => exact .inr ⟨hdevice, (Except.ok.inj h).symm⟩
  · next hdevice => exact .inl ⟨Option.not_isSome_iff_eq_none.1 hdevice, (Except.ok.inj h).symm⟩

theorem locate_of_resolve {k : EntryKind} (h : d.resolve path = .ok (n, false)) (hk : d.kindOf n = some k) :
    d.locate path = .ok (n, k) := by
  unfold locate
  rw [h]
  dsimp only [bind, Except.bind]
  rw [hk]
  cases k <;> rfl

theorem locate_ok {k : EntryKind} (h : d.locate path = .ok (n, k)) :
    ∃ insists, d.resolve path = .ok (n, insists) ∧ d.kindOf n = some k := by
  obtain ⟨⟨names, insists⟩, hresolve, h⟩ := Except.bind_ok_iff.1 h
  dsimp only at h
  split at h
  · cases h
  · next hkind =>
    cases h
    exact ⟨insists, hresolve, hkind⟩
  · next hkind =>
    split at h
    · cases h
    · cases h
      exact ⟨insists, hresolve, hkind⟩

theorem read_ok_iff : d.read path = .ok s ↔
    ∃ names k, d.locate path = .ok (names, k) ∧ k ≠ .directory ∧ (d.get? names).getD [] = s := by
  rw [read, Except.bind_ok_iff]
  constructor
  · rintro ⟨⟨names, k⟩, hlocate, h⟩
    cases k with
    | directory => cases h
    | file => exact ⟨names, _, hlocate, nofun, Except.ok.inj h⟩
    | device => exact ⟨names, _, hlocate, nofun, Except.ok.inj h⟩
  · rintro ⟨names, k, hlocate, hk, rfl⟩
    refine ⟨(names, k), hlocate, ?_⟩
    cases k with
    | directory => exact absurd rfl hk
    | file => rfl
    | device => rfl

theorem kindOf_put (hn : d.isDirectory n = false) :
    (d.put n s).kindOf n = some (if (devices.lookup n).isSome then .device else .file) := by
  rw [kindOf, isDirectory_put_self, hn, get?_put, if_neg Bool.false_ne_true, Option.isSome_some, if_pos rfl]
  split <;> rfl

theorem locate_put (h : d.resolve path = .ok (n, false)) (hn : d.isDirectory n = false) :
    ∃ k, (d.put n s).locate path = .ok (n, k) ∧ k ≠ .directory := by
  refine ⟨_, locate_of_resolve (resolve_put h) (kindOf_put hn), ?_⟩
  split <;> nofun

/-- What is put is read, also where a device stands. -/
theorem read_put (h : d.resolve path = .ok (n, false)) (hn : d.isDirectory n = false) :
    (d.put n s).read path = .ok s := by
  obtain ⟨k, hlocate, hk⟩ := locate_put h hn
  exact read_ok_iff.2 ⟨n, k, hlocate, hk, by rw [get?_put]; rfl⟩

theorem locate_device (h : d.resolve path = .ok (n, false)) (hn : d.isDirectory n = false)
    (hdevice : (devices.lookup n).isSome) : d.locate path = .ok (n, .device) := by
  refine locate_of_resolve h ?_
  rw [kindOf, hn, if_pos hdevice]
  rfl

/-! ## Writing anew -/

/-- A step after another one works in the folder that it left. -/
theorem bind_apply {α β : Type} (x : StateM Folder α) (f : α → StateM Folder β) (d : Folder) :
    (x >>= f) d = f (x d).1 (x d).2 := rfl

section

variable {f : Folder → Except FileFault Folder}

theorem change_of_ok (h : f d = .ok d') : change f d = (.ok (), d') := by
  rw [change, h]

theorem change_of_error {e : FileFault} (h : f d = .error e) : change f d = (.error e, d) := by
  rw [change, h]

end

theorem write_amid (w : Mishaps) (d : Folder) (path : String) (s : Bytes) : (hostAmid w).write path s d =
    match w d (.write path s) with
    | some m => (.error m.fault, (change (·.write path (s.take m.written)) d).2)
    | none => change (·.write path s) d := rfl

/-- The folder in which a file has been created and written. -/
def writeFile (d : Folder) (path : String) (s : Bytes) : Except FileFault Folder :=
  d.create path >>= fun d₁ => d₁.write path s

/-- What is written goes to the file that has just been created. Only a device may refuse it. -/
theorem write_create {d₁ : Folder} (h : d.create path = .ok d₁) (s : Bytes) :
    ∃ names, d.resolve path = .ok (names, false) ∧ d.isDirectory names = false ∧
      (devices.lookup names = none ∧ d₁.write path s = .ok (d.put names s) ∨
        (devices.lookup names).isSome ∧ d₁ = d ∧ ∀ d', d₁.write path s = .ok d' → d' = d) := by
  obtain ⟨names, hresolve, hdirectory, ⟨hdevice, rfl⟩ | ⟨hdevice, rfl⟩⟩ := create_cases h
  · refine ⟨names, hresolve, hdirectory, .inl ⟨hdevice, ?_⟩⟩
    have hlocate : (d.put names []).locate path = .ok (names, .file) := by
      refine locate_of_resolve (resolve_put hresolve) ?_
      rw [kindOf_put hdirectory, hdevice]
      rfl
    rw [write, hlocate, Except.ok_bind]
    dsimp only
    rw [get?_put, put_put]
    rfl
  · refine ⟨names, hresolve, hdirectory, .inr ⟨hdevice, rfl, fun d' hwrite => ?_⟩⟩
    rw [write, locate_device hresolve hdirectory hdevice, Except.ok_bind] at hwrite
    dsimp only at hwrite
    split at hwrite
    · obtain ⟨-, -, hwrite⟩ := Except.bind_ok_iff.1 hwrite
      exact (Except.ok.inj hwrite).symm
    · exact (Except.ok.inj hwrite).symm

/-- A file that is written anew is put where the path leads. A device stays what it is. -/
theorem writeFile_cases (h : d.writeFile path s = .ok d') :
    ∃ names, d.resolve path = .ok (names, false) ∧ d.isDirectory names = false ∧
      (devices.lookup names = none ∧ d' = d.put names s ∨ (devices.lookup names).isSome ∧ d' = d) := by
  obtain ⟨d₁, hcreate, hwrite⟩ := Except.bind_ok_iff.1 h
  obtain ⟨names, hresolve, hdirectory, ⟨hdevice, hput⟩ | ⟨hdevice, -, hkept⟩⟩ := write_create hcreate s
  · exact ⟨names, hresolve, hdirectory, .inl ⟨hdevice, Except.ok.inj (hwrite.symm.trans hput)⟩⟩
  · exact ⟨names, hresolve, hdirectory, .inr ⟨hdevice, hkept d' hwrite⟩⟩

/-- A file that has been written holds what was written. Only a device keeps nothing. -/
theorem read_writeFile (h : d.writeFile path s = .ok d') :
    d'.read path = .ok s ∨ d' = d ∧ ∃ names, d.locate path = .ok (names, .device) := by
  obtain ⟨names, hresolve, hdirectory, ⟨-, rfl⟩ | ⟨hdevice, rfl⟩⟩ := writeFile_cases h
  · exact .inl (read_put hresolve hdirectory)
  · exact .inr ⟨rfl, names, locate_device hresolve hdirectory hdevice⟩

/-- What becomes of the folder when a file is written anew, by what comes of that. -/
inductive Written (d : Folder) (path : String) (s : Bytes) : Except FileFault Unit → Folder → Prop where
  | all {d' : Folder} (h : d.writeFile path s = .ok d') : Written d path s (.ok ()) d'
  /-- The file has been emptied, and then a front of the bytes was written. -/
  | front {d' : Folder} (f : FileFault) (k : Nat) (h : d.writeFile path (s.take k) = .ok d') :
      Written d path s (.error f) d'
  | nothing (f : FileFault) : Written d path s (.error f) d

/-- Only a device refuses bytes, and it has not changed. -/
theorem change_write {d₁ : Folder} (h : d.create path = .ok d₁) (s : Bytes) :
    (∃ d', d.writeFile path s = .ok d' ∧ change (·.write path s) d₁ = (.ok (), d')) ∨
      ∃ f, change (·.write path s) d₁ = (.error f, d) := by
  cases hwrite : d₁.write path s with
  | ok d' => exact .inl ⟨d', Except.bind_ok_iff.2 ⟨d₁, h, hwrite⟩, change_of_ok (f := (·.write path s)) hwrite⟩
  | error f =>
    refine .inr ⟨f, ?_⟩
    obtain ⟨names, -, -, ⟨-, hput⟩ | ⟨-, rfl, -⟩⟩ := write_create h s
    · cases hwrite.symm.trans hput
    · exact change_of_error (f := (·.write path s)) hwrite

/-- **Whatever comes in the way, a file that is written anew ends with all bytes, with a front of them,
or as it was.** -/
theorem written (w : Mishaps) (d : Folder) (path : String) (s : Bytes) :
    Written d path s ((hostAmid w).writeFile path s d).1 ((hostAmid w).writeFile path s d).2 := by
  have hcreate : (hostAmid w).create path d =
      change (fun d => w.check d (.create path) >>= fun _ => d.create path) d := rfl
  rw [Files.writeFile, bind_apply, hcreate]
  cases hd₁ : w.check d (.create path) >>= fun _ => d.create path with
  | error f =>
    rw [change_of_error hd₁]
    exact .nothing f
  | ok d₁ =>
    obtain ⟨-, -, hempty⟩ := Except.bind_ok_iff.1 hd₁
    rw [change_of_ok hd₁]
    dsimp only
    rw [write_amid]
    cases w d₁ (.write path s) with
    | some m =>
      dsimp only
      rcases change_write hempty (s.take m.written) with ⟨d', hfile, heq⟩ | ⟨f, heq⟩
      · rw [heq]
        exact .front m.fault m.written hfile
      · rw [heq]
        exact .nothing m.fault
    | none =>
      dsimp only
      rcases change_write hempty s with ⟨d', hfile, heq⟩ | ⟨f, heq⟩
      · rw [heq]
        exact .all hfile
      · rw [heq]
        exact .nothing f

theorem host_writeFile_iff : host.writeFile path s d = (.ok (), d') ↔ d.writeFile path s = .ok d' := by
  constructor
  · intro h
    have hwritten := written .none d path s
    have hhost : (hostAmid .none).writeFile path s d = (.ok (), d') := h
    rw [hhost] at hwritten
    cases hwritten with
    | all hfile => exact hfile
  · intro h
    obtain ⟨d₁, hempty, hwrite⟩ := Except.bind_ok_iff.1 h
    have hcreate : host.create path d = change (·.create path) d := rfl
    rw [Files.writeFile, bind_apply, hcreate, change_of_ok (f := (·.create path)) hempty]
    exact change_of_ok (f := (·.write path s)) hwrite

/-! ## Renaming -/

/-- Something other than a directory is a device, or a file that was put. -/
theorem kindOf_cases {k : EntryKind} (h : d.kindOf n = some k) (hk : k ≠ .directory) :
    (devices.lookup n).isSome ∨ n ∈ d.names := by
  unfold kindOf at h
  split at h
  · exact absurd (Option.some.inj h).symm hk
  split at h
  · next hdevice => exact .inl hdevice
  split at h
  · next hfile => exact .inr (List.mem_append_left _ (mem_files_of_get? hfile))
  · cases h

/-- Devices lie in a directory that always stands. -/
theorem dropLast_mem_standing (h : (devices.lookup n).isSome) : n.dropLast ∈ standing := by
  obtain ⟨device, hmem, heq⟩ := List.lookup_isSome_iff.1 h
  obtain rfl := eq_of_beq heq
  have hall : ∀ device ∈ devices, device.1.dropLast ∈ standing := by decide
  exact hall device hmem

theorem standing_closed {m : List String} (hn : n ∈ standing) (h : m <+: n) : m ∈ standing := by
  have hall : ∀ n ∈ standing, ∀ k ≤ n.length, n.take k ∈ standing := by decide
  rw [List.prefix_iff_eq_take.1 h]
  exact hall n hn m.length h.length_le

theorem prefix_dropLast {m : List String} (h : m <+: n) (hne : n ≠ m) : m <+: n.dropLast := by
  obtain ⟨rest, rfl⟩ := h
  have hrest : rest ≠ [] := fun hnil => hne (by rw [hnil, List.append_nil])
  rw [List.dropLast_append_of_ne_nil hrest]
  exact List.prefix_append m _

theorem mem_made_erase {m : List String} :
    m ∈ (d.erase n).made ↔ m ∈ d.made ∨ n.dropLast ∉ standing ∧ m = n.dropLast := by
  unfold erase
  dsimp only
  split
  · next hn => simp [hn]
  · next hn => simp [hn, or_comm]

theorem mem_files_erase {m : List String} : m ∈ (d.erase n).files.map (·.1) ↔ m ∈ d.files.map (·.1) ∧ m ≠ n := by
  simp only [erase, List.mem_map, List.mem_filter, decide_eq_true_eq]
  constructor
  · rintro ⟨file, ⟨hmem, hne⟩, rfl⟩
    exact ⟨⟨file, hmem, rfl⟩, hne⟩
  · rintro ⟨⟨file, hmem, rfl⟩, hne⟩
    exact ⟨file, ⟨hmem, hne⟩, rfl⟩

theorem get?_erase (d : Folder) (n m : List String) : (d.erase n).get? m = if m = n then none else d.get? m := by
  unfold get? erase
  dsimp only
  induction d.files with
  | nil => split <;> rfl
  | cons file files ih =>
    obtain ⟨l, t⟩ := file
    by_cases hl : l = n
    · rw [List.filter_cons_of_neg (by simp [hl]), ih]
      split
      · rfl
      · next hm =>
        have hne : (m == l) = false := beq_false_of_ne (hl ▸ hm)
        rw [List.lookup_cons, hne]
    · rw [List.filter_cons_of_pos (by simp [hl]), List.lookup_cons, List.lookup_cons, ih]
      by_cases hm : m = n
      · have hne : (m == l) = false := beq_false_of_ne (hm ▸ Ne.symm hl)
        rw [hne, if_pos hm]
      · rw [if_neg hm, if_neg hm]

theorem mem_names_erase {m : List String} : m ∈ (d.erase n).names ↔
    (m ∈ d.files.map (·.1) ∧ m ≠ n) ∨ m ∈ d.made ∨ n.dropLast ∉ standing ∧ m = n.dropLast := by
  rw [names, List.mem_append, mem_files_erase, mem_made_erase]

section Erase

variable {k : EntryKind} {m : List String}

/-- A directory that does not always stand was there because of the file in it. -/
theorem mem_names_of_dropLast (h : d.kindOf n = some k) (hk : k ≠ .directory) (hn : n.dropLast ∉ standing) :
    n ∈ d.names ∧ n ≠ n.dropLast := by
  refine ⟨(kindOf_cases h hk).resolve_left fun hdevice => hn (dropLast_mem_standing hdevice), fun heq => ?_⟩
  have hlength := congrArg List.length heq
  rw [List.length_dropLast] at hlength
  have hnil : n = [] := List.eq_nil_of_length_eq_zero (by omega)
  rw [hnil] at hn
  exact hn (by decide)

theorem isDirectory_of_erase (h : d.kindOf n = some k) (hk : k ≠ .directory)
    (hm : (d.erase n).isDirectory m = true) : d.isDirectory m = true := by
  rw [isDirectory_iff, mem_made_erase] at hm
  rw [isDirectory_iff]
  rcases hm with hstanding | (hmade | ⟨hn, rfl⟩) | ⟨l, hl, hprefix, hne⟩
  · exact .inl hstanding
  · exact .inr (.inl hmade)
  · obtain ⟨hmem, hne⟩ := mem_names_of_dropLast h hk hn
    exact .inr (.inr ⟨n, hmem, List.isPrefixOf_iff_prefix.2 (List.dropLast_prefix n), hne⟩)
  rcases mem_names_erase.1 hl with ⟨hfile, -⟩ | hmade | ⟨hn, rfl⟩
  · exact .inr (.inr ⟨l, List.mem_append_left _ hfile, hprefix, hne⟩)
  · exact .inr (.inr ⟨l, List.mem_append_right _ hmade, hprefix, hne⟩)
  · obtain ⟨hmem, -⟩ := mem_names_of_dropLast h hk hn
    have hm := List.isPrefixOf_iff_prefix.1 hprefix
    refine .inr (.inr ⟨n, hmem, List.isPrefixOf_iff_prefix.2 (hm.trans (List.dropLast_prefix n)), ?_⟩)
    rintro rfl
    exact hne (hm.eq_of_length_le (List.dropLast_prefix n).length_le).symm

/-- The directory that something was in is kept, and with it those further up. -/
theorem isDirectory_erase_of (hm : d.isDirectory m = true) : (d.erase n).isDirectory m = true := by
  rw [isDirectory_iff] at hm
  rw [isDirectory_iff, mem_made_erase]
  rcases hm with hstanding | hmade | ⟨l, hl, hprefix, hne⟩
  · exact .inl hstanding
  · exact .inr (.inl (.inl hmade))
  by_cases hln : l = n
  · subst hln
    have hm := prefix_dropLast (List.isPrefixOf_iff_prefix.1 hprefix) hne
    by_cases hstanding : l.dropLast ∈ standing
    · exact .inl (standing_closed hstanding hm)
    · by_cases heq : m = l.dropLast
      · exact .inr (.inl (.inr ⟨hstanding, heq⟩))
      · have hkept : l.dropLast ∈ (d.erase l).names := mem_names_erase.2 (.inr (.inr ⟨hstanding, rfl⟩))
        exact .inr (.inr ⟨_, hkept, List.isPrefixOf_iff_prefix.2 hm, Ne.symm heq⟩)
  · refine .inr (.inr ⟨l, mem_names_erase.2 ?_, hprefix, hne⟩)
    rcases List.mem_append.1 hl with hfile | hmade
    · exact .inl ⟨hfile, hln⟩
    · exact .inr (.inl hmade)

/-- Taking a file or a device out changes no directory. -/
theorem isDirectory_erase (h : d.kindOf n = some k) (hk : k ≠ .directory) :
    (d.erase n).isDirectory m = d.isDirectory m := by
  rw [Bool.eq_iff_iff]
  exact ⟨isDirectory_of_erase h hk, isDirectory_erase_of⟩

end Erase

theorem rename_ok_iff {old new : String} {k : EntryKind} (hlocate : d.locate old = .ok (n, k)) (hk : k ≠ .directory) :
    d.rename old new = .ok d' ↔ ∃ target, d.resolve new = .ok (target, false) ∧ d.isDirectory target = false ∧
      d' = if n = target then d else (d.erase n).put target ((d.get? n).getD []) := by
  rw [rename, hlocate, Except.ok_bind]
  dsimp only
  constructor
  · intro h
    obtain ⟨⟨target, insists⟩, hresolve, h⟩ := Except.bind_ok_iff.1 h
    refine ⟨target, ?_⟩
    cases k with
    | directory => exact absurd rfl hk
    | file | device =>
      dsimp only at h
      split at h
      · cases h
      next hinsists =>
      split at h
      · cases h
      next hdirectory =>
      rw [Bool.not_eq_true] at hinsists hdirectory
      subst hinsists
      refine ⟨hresolve, hdirectory, ?_⟩
      split at h
      · next heq => rw [if_pos heq]; exact (Except.ok.inj h).symm
      · next hne => rw [if_neg hne]; exact (Except.ok.inj h).symm
  · rintro ⟨target, hresolve, hdirectory, rfl⟩
    refine Except.bind_ok_iff.2 ⟨(target, false), hresolve, ?_⟩
    cases k with
    | directory => exact absurd rfl hk
    | file | device =>
      dsimp only
      rw [hdirectory]
      by_cases heq : n = target
      · rw [if_pos heq, if_pos heq]
        rfl
      · rw [if_neg heq, if_neg heq]
        rfl

/-- A file is read under its new name as it was under the old one. -/
theorem read_rename {old new : String} (h : d.rename old new = .ok d') (hread : d.read old = .ok s) :
    d'.read new = .ok s := by
  obtain ⟨source, k, hlocate, hk, hs⟩ := read_ok_iff.1 hread
  obtain ⟨-, -, hkind⟩ := locate_ok hlocate
  obtain ⟨target, hresolve, hdirectory, rfl⟩ := (rename_ok_iff hlocate hk).1 h
  rw [hs]
  split
  · next heq =>
    subst heq
    exact read_ok_iff.2 ⟨source, k, locate_of_resolve hresolve hkind, hk, hs⟩
  · refine read_put (resolve_of_isDirectory (fun m => isDirectory_erase_of) hresolve) ?_
    rw [isDirectory_erase hkind hk, hdirectory]

/-! ## What stays -/

section Frame

variable {m : List String}

/-- Everything above the names is a directory. -/
def Enclosed (d : Folder) (n : List String) : Prop := ∀ m, m <+: n → n ≠ m → d.isDirectory m = true

theorem Enclosed.dropLast (h : d.Enclosed n) : d.Enclosed n.dropLast := by
  intro m hm hne
  refine h m (hm.trans (List.dropLast_prefix n)) ?_
  rintro rfl
  exact hne (hm.eq_of_length_le (List.dropLast_prefix n).length_le).symm

theorem Enclosed.concat {name : String} (h : d.Enclosed n) (hn : d.isDirectory n = true) :
    d.Enclosed (n ++ [name]) := by
  intro m hm hne
  have hmn := prefix_dropLast hm hne
  rw [List.dropLast_concat] at hmn
  by_cases heq : n = m
  · exact heq ▸ hn
  · exact h m hmn heq

theorem enclosed_standing (h : n ∈ standing) : d.Enclosed n :=
  fun _ hm _ => isDirectory_iff.2 (.inl (standing_closed h hm))

theorem follow_enclosed {at_ names : List String} (h : d.follow at_ names = .ok n) (hat : d.Enclosed at_) :
    d.Enclosed n := by
  induction names generalizing at_ with
  | nil => exact Except.ok.inj h ▸ hat
  | cons name names ih =>
    rw [follow] at h
    split at h
    · cases h
    · cases h
    · cases h
    · next hkind =>
      split at h
      · exact ih h hat
      split at h
      · exact ih h hat.dropLast
      split at h
      · cases h
      · exact ih h (hat.concat (kindOf_eq_directory.1 hkind))

/-- A path leads through directories. -/
theorem resolve_enclosed {insists : Bool} (h : d.resolve path = .ok (n, insists)) : d.Enclosed n := by
  unfold resolve at h
  by_cases hempty : path.isEmpty
  · rw [if_pos hempty] at h
    cases h
  · by_cases hlong : 4096 ≤ path.utf8ByteSize
    · rw [if_neg hempty, if_pos hlong] at h
      cases h
    · rw [if_neg hempty, if_neg hlong] at h
      obtain ⟨names, hnames, htarget⟩ := Except.bind_ok_iff.1 h
      cases htarget
      refine follow_enclosed hnames (enclosed_standing ?_)
      split <;> decide

theorem isDirectory_put_of_enclosed (h : d.Enclosed n) : (d.put n s).isDirectory m = d.isDirectory m := by
  rw [Bool.eq_iff_iff, isDirectory_put]
  refine ⟨fun hm => hm.elim id fun hm => h m (List.isPrefixOf_iff_prefix.1 hm.1) hm.2, .inl⟩

/-- The path leads to the names, where a file may be. -/
def Leads (d : Folder) (path : String) (n : List String) : Prop := d.resolve path = .ok (n, false)

theorem Leads.unique (h : d.Leads path n) (h' : d.Leads path m) : n = m :=
  (Prod.mk.inj (Except.ok.inj (h.symm.trans h'))).1

/-- The directories are the same, and so are the files but for those under some names. -/
structure SameBut (p : List String → Prop) (d d' : Folder) : Prop where
  directories : ∀ m, d'.isDirectory m = d.isDirectory m
  files : ∀ m, ¬ p m → d'.get? m = d.get? m

namespace SameBut

variable {p q : List String → Prop} {d'' : Folder}

theorem refl (p : List String → Prop) (d : Folder) : SameBut p d d := ⟨fun _ => rfl, fun _ _ => rfl⟩

theorem trans (h : SameBut p d d') (h' : SameBut p d' d'') : SameBut p d d'' where
  directories m := (h'.directories m).trans (h.directories m)
  files m hm := (h'.files m hm).trans (h.files m hm)

theorem mono (h : SameBut p d d') (hpq : ∀ m, p m → q m) : SameBut q d d' :=
  ⟨h.directories, fun m hm => h.files m (mt (hpq m) hm)⟩

/-- Paths lead where they led before. -/
theorem leads_iff (h : SameBut p d d') : d'.Leads path n ↔ d.Leads path n :=
  ⟨resolve_of_isDirectory fun m hm => h.directories m ▸ hm, resolve_of_isDirectory fun m hm => h.directories m ▸ hm⟩

end SameBut

theorem writeFile_sameBut (h : d.writeFile path s = .ok d') : SameBut (d.Leads path) d d' := by
  obtain ⟨n, hresolve, -, ⟨-, rfl⟩ | ⟨-, rfl⟩⟩ := writeFile_cases h
  · refine ⟨fun m => isDirectory_put_of_enclosed (resolve_enclosed hresolve), fun m hm => get?_put_of_ne ?_⟩
    rintro rfl
    exact hm hresolve
  · exact .refl _ _

theorem locate_writeFile (h : d.writeFile path s = .ok d') :
    ∃ n k, d.Leads path n ∧ d'.locate path = .ok (n, k) ∧ k ≠ .directory := by
  obtain ⟨n, hresolve, hdirectory, ⟨-, rfl⟩ | ⟨hdevice, rfl⟩⟩ := writeFile_cases h
  · obtain ⟨k, hlocate, hk⟩ := locate_put hresolve hdirectory
    exact ⟨n, k, hresolve, hlocate, hk⟩
  · exact ⟨n, .device, hresolve, locate_device hresolve hdirectory hdevice, nofun⟩

/-- The file that the path leads to is as it was or holds a front of the bytes, and all else is the same. -/
structure CutShort (path : String) (s : Bytes) (d d' : Folder) : Prop where
  same : SameBut (d.Leads path) d d'
  front : ∀ n, d.Leads path n → d'.get? n = d.get? n ∨ ∃ k, d'.get? n = some (s.take k)

theorem cutShort_writeFile {k : Nat} (h : d.writeFile path (s.take k) = .ok d') : CutShort path s d d' := by
  refine ⟨writeFile_sameBut h, fun m hm => ?_⟩
  obtain ⟨n, hresolve, -, ⟨-, rfl⟩ | ⟨-, rfl⟩⟩ := writeFile_cases h
  · obtain rfl := hm.unique hresolve
    exact .inr ⟨k, get?_put _ _ _⟩
  · exact .inl rfl

/-- A file that is renamed is gone from its place, and nothing else differs but the new place. -/
theorem rename_sameBut {old new : String} {k : EntryKind} (h : d.rename old new = .ok d')
    (hlocate : d.locate old = .ok (n, k)) (hk : k ≠ .directory) :
    SameBut (fun m => m = n ∨ d.Leads new m) d d' ∧ (¬ d.Leads new n → d'.get? n = none) := by
  obtain ⟨-, -, hkind⟩ := locate_ok hlocate
  obtain ⟨target, hresolve, -, rfl⟩ := (rename_ok_iff hlocate hk).1 h
  split
  · next heq => exact ⟨.refl _ _, fun hn => absurd (heq ▸ hresolve) hn⟩
  · next hne =>
    have henclosed : (d.erase n).Enclosed target := fun m hm hmt =>
      isDirectory_erase_of (resolve_enclosed hresolve m hm hmt)
    refine ⟨⟨fun m => ?_, fun m hm => ?_⟩, fun _ => ?_⟩
    · rw [isDirectory_put_of_enclosed henclosed, isDirectory_erase hkind hk]
    · obtain ⟨hmn, hmt⟩ := not_or.1 hm
      have hmtarget : m ≠ target := by
        rintro rfl
        exact hmt hresolve
      rw [get?_put_of_ne hmtarget, get?_erase, if_neg hmn]
    · rw [get?_put_of_ne hne, get?_erase, if_pos rfl]

end Frame

end SyntaxWire.Folder
