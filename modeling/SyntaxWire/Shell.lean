/-
A shell for table generators: it runs a script on the files it is given and
answers as a process that has ended.
-/
import SyntaxWire.Shell.Evaluation

namespace SyntaxWire.Shell

/-- A shell that has been started with an empty input. -/
def Machine.start : Machine where
  streams := #[.pipe "", .pipe "", .pipe ""]
  self :=
    { number := 999, directory := home
      vars := Process.initial ++ [
        ("HOME", { value := some "/root", exported := true }),
        ("PATH", { value := some "/usr/local/sbin:/usr/local/bin:/usr/sbin:/usr/bin:/sbin:/bin", exported := true }),
        ("PWD", { value := some home, exported := true })] }

/-- What has been written to one of the first streams. -/
def Machine.written (s : Machine) (n : Nat) : Bytes :=
  match s.streams[n]? with
  | some (.pipe held) => Raw.toBytes held
  | _ => []

/-- Commands stand no deeper inside one another than this in a script of so many characters. -/
def depthOf (text : String) : Nat := text.length + 20000

variable {m : Type → Type} [Monad m]

/-- Runs a script given as text. -/
def run (files : Files m) (text : String) : m ToolRun := do
  let text := Raw.ofText text
  let evaluate := Act.command (m := m) (depthOf text)
  let whole : Act m Unit := Act.toEnd evaluate do Act.setStatus (← Act.shellProgram evaluate ["-c", text])
  let (result, s) ← ((whole.run files).run).run Machine.start
  let word := match result with
    | .error (.killed _ signal) => signal % 128
    | _ => 256 * (s.self.status % 256)
  return ⟨UInt32.ofNat word, s.written 1, s.written 2⟩

end SyntaxWire.Shell
