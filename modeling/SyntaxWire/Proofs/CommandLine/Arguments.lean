/-
Options and the arguments that give them. What has been read of the arguments
under a name was given by one of them (`gives_of_readOptions`), so a command
takes its table from a generator only if the option for that is among its
arguments (`gives_of_parse`). Arguments are read from the left, and help is
given where the first one asks for it that comes after a proper front
(`readOptions_help_iff`).
-/
import SyntaxWire.CommandLine.Arguments
import SyntaxWire.Proofs.Except

namespace SyntaxWire.CommandLine

namespace Command

def source? : Command → Option TableSource
  | .validate table | .checksum table | .kinds table _ | .encode table .. | .decode table .. | .exportTable table _ =>
    some table
  | .evolve .. => none

/-- The table comes from no generator. -/
def Ungenerated (c : Command) : Prop := ∀ command, c.source? ≠ some (.generated command)

end Command

/-- One of the arguments is the option, with or without its value. -/
def Gives (args : List String) (name : String) : Prop :=
  ∃ arg ∈ args, ∃ value, splitOption arg.toList = some (name, value)

variable {args : List String} {name : String} {given os : Options} {c : Command}

theorem gives_iff_any :
    Gives args name ↔ args.any (fun arg => (splitOption arg.toList).any (·.1 == name)) = true := by
  simp only [Gives, List.any_eq_true, Option.any_eq_true]
  constructor
  · rintro ⟨arg, harg, value, h⟩
    exact ⟨arg, harg, _, h, beq_self_eq_true _⟩
  · rintro ⟨arg, harg, ⟨n, value⟩, h, heq⟩
    exact ⟨arg, harg, value, by rw [h, ← eq_of_beq heq]⟩

instance : Decidable (Gives args name) := decidable_of_iff _ gives_iff_any.symm

theorem Gives.cons {arg : String} (h : Gives args name) : Gives (arg :: args) name := by
  obtain ⟨a, ha, hvalue⟩ := h
  exact ⟨a, List.mem_cons_of_mem _ ha, hvalue⟩

theorem gives_cons_of_eq {arg : String} {value : Option String} (h : splitOption arg.toList = some (name, value)) :
    Gives (arg :: args) name := ⟨arg, List.mem_cons_self, value, h⟩

theorem lookup_give {n : String} {value : Option String} (h : give given n value = .ok os)
    (hname : (os.lookup name).isSome) : n = name ∨ (given.lookup name).isSome := by
  unfold give at h
  split at h
  · cases h
  · cases h
    rw [List.lookup_cons] at hname
    split at hname
    · next heq => exact .inl (eq_of_beq heq).symm
    · exact .inr hname

/-- What is there after an option has been added was there before, or is the option, or comes later. -/
theorem gives_of_give {arg n : String} {value value' : Option String} {g : Options}
    (harg : splitOption arg.toList = some (n, value)) (hgive : give given n value' = .ok g)
    (hrest : (g.lookup name).isSome ∨ Gives args name) : (given.lookup name).isSome ∨ Gives (arg :: args) name := by
  rcases hrest with hg | hargs
  · rcases lookup_give hgive hg with rfl | hgiven
    · exact .inr (gives_cons_of_eq harg)
    · exact .inl hgiven
  · exact .inr hargs.cons

/-- What has been read was given before, or is one of the arguments. -/
theorem gives_of_readOptions {command : String} {valued flags : List String}
    (h : readOptions command valued flags given args = .ok os) (hname : (os.lookup name).isSome) :
    (given.lookup name).isSome ∨ Gives args name := by
  fun_induction readOptions command valued flags given args with
  | case1 | case2 =>
    cases h
    exact .inl hname
  | case3 | case4 | case5 | case7 | case9 | case11 | case12 => cases h
  | case6 given arg rest _ _ n value harg _ ih | case8 given arg rest _ _ n harg _ ih =>
    obtain ⟨g, hgive, h⟩ := Except.bind_ok_iff.1 h
    exact gives_of_give harg hgive (ih g h)
  -- The value is an argument of its own here, and no option.
  | case10 given arg _ _ n harg _ _ value rest _ ih =>
    obtain ⟨g, hgive, h⟩ := Except.bind_ok_iff.1 h
    exact gives_of_give harg hgive ((ih g h).imp_right Gives.cons)

/-- A table is generated only if the option for that is there. -/
theorem gives_of_readSource {command : String} {valued flags : List String} {generator : String}
    (h : readOptions command valued flags [] args = .ok os) (hs : readSource os = some (.generated generator)) :
    Gives args "table-cmd" := by
  have hlookup : (os.lookup "table-cmd").isSome := by
    obtain ⟨table, -, hs⟩ := Option.bind_eq_some_iff.1 hs
    cases hgenerator : valueOf os "table-cmd" with
    | none =>
      rw [hgenerator] at hs
      cases table <;> cases hs
    | some generator' =>
      rw [Option.join_eq_some_iff.1 hgenerator]
      rfl
  exact (gives_of_readOptions h hlookup).resolve_left (by simp)

/-- What is made of options is made of options that could be read. -/
theorem made_ok_iff {x : Except Refusal Options} {make : Options → Option Command} :
    (x >>= fun os => (make os).elim (.error .improper) .ok) = .ok c ↔ ∃ os, x = .ok os ∧ make os = some c := by
  rw [Except.bind_ok_iff]
  refine exists_congr fun os => and_congr_right fun _ => ?_
  cases make os with
  | none => exact iff_of_false nofun nofun
  | some c' => rw [Option.elim_some, Except.ok.injEq, Option.some.injEq]

theorem gives_of_sourced {command : String} {valued flags : List String} {generator : String}
    {f : Options → TableSource → Option Command} (hf : ∀ os source c, f os source = some c → c.source? = some source)
    (h : (readOptions command valued flags [] args >>= fun os =>
      (readSource os >>= f os).elim (.error .improper) .ok) = .ok c)
    (hc : c.source? = some (.generated generator)) : Gives args "table-cmd" := by
  obtain ⟨os, hos, h⟩ := made_ok_iff.1 h
  obtain ⟨source, hsource, h⟩ := Option.bind_eq_some_iff.1 h
  obtain rfl := Option.some.inj ((hf os source c h).symm.trans hc)
  exact gives_of_readSource hos hsource

/-- A command takes its table from a generator only if the arguments say so. -/
theorem gives_of_parse {generator : String} (h : parse args = .ok c) (hc : c.source? = some (.generated generator)) :
    Gives args "table-cmd" := by
  unfold parse at h
  split at h
  · cases h
  next name rest =>
  dsimp only at h
  -- One case for each command. Only `evolve` takes no table.
  split at h
  · refine (gives_of_sourced (fun os source c h => ?_) h hc).cons
    cases h
    rfl
  · refine (gives_of_sourced (fun os source c h => ?_) h hc).cons
    cases h
    rfl
  · refine (gives_of_sourced (fun os source c h => ?_) h hc).cons
    obtain ⟨category, -, h⟩ := Option.bind_eq_some_iff.1 h
    cases h
    rfl
  · refine (gives_of_sourced (fun os source c h => ?_) h hc).cons
    obtain ⟨limits, -, h⟩ := Option.bind_eq_some_iff.1 h
    obtain ⟨input, -, h⟩ := Option.bind_eq_some_iff.1 h
    obtain ⟨out, -, h⟩ := Option.bind_eq_some_iff.1 h
    cases h
    rfl
  · refine (gives_of_sourced (fun os source c h => ?_) h hc).cons
    obtain ⟨limits, -, h⟩ := Option.bind_eq_some_iff.1 h
    obtain ⟨input, -, h⟩ := Option.bind_eq_some_iff.1 h
    cases h
    rfl
  · obtain ⟨os, -, h⟩ := made_ok_iff.1 h
    obtain ⟨old, -, h⟩ := Option.bind_eq_some_iff.1 h
    obtain ⟨new, -, h⟩ := Option.bind_eq_some_iff.1 h
    cases h
    cases hc
  · refine (gives_of_sourced (fun os source c h => ?_) h hc).cons
    obtain ⟨out, -, h⟩ := Option.bind_eq_some_iff.1 h
    cases h
    rfl
  · cases h
  · cases h

theorem ungenerated_of_parse (hargs : ¬ Gives args "table-cmd") (h : parse args = .ok c) : c.Ungenerated :=
  fun _ hc => hargs (gives_of_parse h hc)

/-! ## Asking for help -/

section Help

variable {command : String} {valued flags front rest : List String} {arg : String} {topic : Option String}

/-- The argument is an option with its value. -/
theorem readOptions_valued {n value : String} (harg : arg ≠ "--") (hasks : ¬ asksHelp arg = true)
    (hoption : splitOption arg.toList = some (n, some value)) (hn : n ∈ valued) :
    readOptions command valued flags given (arg :: rest) =
      (give given n (some value) >>= fun g => readOptions command valued flags g rest) := by
  rw [readOptions, if_neg harg, if_neg hasks, hoption]
  dsimp only
  rw [if_pos hn]

theorem readOptions_flag {n : String} (harg : arg ≠ "--") (hasks : ¬ asksHelp arg = true)
    (hoption : splitOption arg.toList = some (n, none)) (hn : n ∈ flags) :
    readOptions command valued flags given (arg :: rest) =
      (give given n none >>= fun g => readOptions command valued flags g rest) := by
  rw [readOptions, if_neg harg, if_neg hasks, hoption]
  dsimp only
  rw [if_pos hn]

/-- The value stands behind its option. -/
theorem readOptions_value {n value : String} (harg : arg ≠ "--") (hasks : ¬ asksHelp arg = true)
    (hoption : splitOption arg.toList = some (n, none)) (hflag : n ∉ flags) (hn : n ∈ valued)
    (hvalue : isValue value = true) :
    readOptions command valued flags given (arg :: value :: rest) =
      (give given n (some value) >>= fun g => readOptions command valued flags g rest) := by
  rw [readOptions, if_neg harg, if_neg hasks, hoption]
  dsimp only
  rw [if_neg hflag, if_pos hn, if_pos hvalue]

/-- Arguments are read from the left, up to the mark that ends the options. -/
theorem readOptions_append (h : readOptions command valued flags given front = .ok os) (hend : "--" ∉ front) :
    readOptions command valued flags given (front ++ rest) = readOptions command valued flags os rest := by
  fun_induction readOptions command valued flags given front with
  | case1 =>
    cases h
    rfl
  | case2 => exact absurd List.mem_cons_self hend
  | case3 | case4 | case5 | case7 | case9 | case11 | case12 => cases h
  | case6 given arg front harg hasks n value hoption hn ih =>
    obtain ⟨g, hgive, h⟩ := Except.bind_ok_iff.1 h
    rw [List.cons_append, readOptions_valued harg hasks hoption hn, hgive, Except.ok_bind]
    exact ih g h (mt (List.mem_cons_of_mem arg) hend)
  | case8 given arg front harg hasks n hoption hn ih =>
    obtain ⟨g, hgive, h⟩ := Except.bind_ok_iff.1 h
    rw [List.cons_append, readOptions_flag harg hasks hoption hn, hgive, Except.ok_bind]
    exact ih g h (mt (List.mem_cons_of_mem arg) hend)
  | case10 given arg harg hasks n hoption hflag hn value front hvalue ih =>
    obtain ⟨g, hgive, h⟩ := Except.bind_ok_iff.1 h
    rw [List.cons_append, List.cons_append, readOptions_value harg hasks hoption hflag hn hvalue, hgive, Except.ok_bind]
    exact ih g h fun hmem => hend (List.mem_cons_of_mem arg (List.mem_cons_of_mem value hmem))

theorem give_ne_help {value : Option String} : give given name value ≠ .error (.help topic) := by
  unfold give
  split <;> nofun

/-- **Help is given where it is asked for after a proper front,** and only there. What follows is not looked at. -/
theorem readOptions_help_iff : readOptions command valued flags given args = .error (.help topic) ↔
    topic = some command ∧ ∃ front arg rest os, args = front ++ arg :: rest ∧
      readOptions command valued flags given front = .ok os ∧ "--" ∉ front ∧ asksHelp arg = true := by
  constructor
  · intro h
    fun_induction readOptions command valued flags given args with
    | case1 | case2 | case3 | case5 | case7 | case9 | case11 | case12 => cases h
    | case4 given arg rest harg hasks =>
      cases h
      exact ⟨rfl, [], arg, rest, given, rfl, rfl, List.not_mem_nil, hasks⟩
    | case6 given arg rest harg hasks n value hoption hn ih =>
      obtain ⟨g, hgive, h⟩ := (Except.bind_error_iff.1 h).resolve_left give_ne_help
      obtain ⟨rfl, front, asking, rest, os, rfl, hfront, hend, hasking⟩ := ih g h
      refine ⟨rfl, arg :: front, asking, rest, os, rfl, ?_, ?_, hasking⟩
      · rw [readOptions_valued harg hasks hoption hn, hgive]
        exact hfront
      · exact List.not_mem_cons_of_ne_of_not_mem (Ne.symm harg) hend
    | case8 given arg rest harg hasks n hoption hn ih =>
      obtain ⟨g, hgive, h⟩ := (Except.bind_error_iff.1 h).resolve_left give_ne_help
      obtain ⟨rfl, front, asking, rest, os, rfl, hfront, hend, hasking⟩ := ih g h
      refine ⟨rfl, arg :: front, asking, rest, os, rfl, ?_, ?_, hasking⟩
      · rw [readOptions_flag harg hasks hoption hn, hgive]
        exact hfront
      · exact List.not_mem_cons_of_ne_of_not_mem (Ne.symm harg) hend
    | case10 given arg harg hasks n hoption hflag hn value rest hvalue ih =>
      obtain ⟨g, hgive, h⟩ := (Except.bind_error_iff.1 h).resolve_left give_ne_help
      obtain ⟨rfl, front, asking, rest, os, rfl, hfront, hend, hasking⟩ := ih g h
      refine ⟨rfl, arg :: value :: front, asking, rest, os, rfl, ?_, ?_, hasking⟩
      · rw [readOptions_value harg hasks hoption hflag hn hvalue, hgive]
        exact hfront
      · have hne : "--" ≠ value := by
          rintro rfl
          cases hvalue
        exact List.not_mem_cons_of_ne_of_not_mem (Ne.symm harg) (List.not_mem_cons_of_ne_of_not_mem hne hend)
  · rintro ⟨rfl, front, arg, rest, os, rfl, hfront, hend, hasks⟩
    have harg : arg ≠ "--" := by
      rintro rfl
      cases hasks
    rw [readOptions_append hfront hend, readOptions, if_neg harg, if_pos hasks]

end Help

end SyntaxWire.CommandLine
