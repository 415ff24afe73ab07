/-
Failures of the external tools that generate tables. Nothing is done with
them but to sort them into three kinds and to pass them on.
-/
import SyntaxWire.Json.Record
import SyntaxWire.Json.Value
import SyntaxWire.Text.Blank

namespace SyntaxWire

/-- How a process ended badly. -/
inductive FailureKind where
  | signaled (signal : Int32)
  /-- It exited by itself with this status. -/
  | exited (status : Int32)
  /-- It never started, or ended without a status. -/
  | other
deriving DecidableEq, Repr

structure ToolFailure where
  signal : Option Int32
  exitCode : Option Int32
  message : String
deriving DecidableEq, Repr

namespace ToolFailure

def signaled (signal : Int32) : ToolFailure :=
  ⟨some signal, none, s!"process terminated by signal {signal}"⟩

/-- The tool's own error output is quoted without the blanks around it. -/
def exited (status : Int32) (stderr : String) : ToolFailure :=
  let stderr := Text.trim stderr
  let message := s!"process exited with status {status}"
  ⟨none, some status, if stderr.isEmpty then message else s!"{message}: {stderr}"⟩

def other (message : String) : ToolFailure := ⟨none, none, message⟩

/-- A signal outweighs an exit code. -/
def kind (f : ToolFailure) : FailureKind :=
  match f.signal, f.exitCode with
  | some s, _ => .signaled s
  | none, some c => .exited c
  | none, none => .other

/-- The failure in a wait status word, whose low seven bits are the signal and whose second byte is the exit code. -/
def ofStatus (status : UInt32) (stderr : String) : Option ToolFailure :=
  let low := status.toNat % 128
  if status = 0 then none
  else if low = 0 then some (exited (Int32.ofNat (status.toNat / 256 % 256)) stderr)
  else if low = 127 then some (other "process ended without an exit status")
  else some (signaled (Int32.ofNat low))

end ToolFailure

open Json

namespace FailureKind

def toJson : FailureKind → Value
  | signaled n => .object [("Signaled", .integer n.toInt)]
  | exited n => .object [("Exited", .integer n.toInt)]
  | other => .string "Other"

def reader : Reader FailureKind :=
  variant [.holding "Signaled" fun levels s => (int32 levels s).map fun (n, s) => (signaled n, s),
    .holding "Exited" fun levels s => (int32 levels s).map fun (n, s) => (exited n, s),
    .plain "Other" other]

end FailureKind

namespace ToolFailure

def toJson (f : ToolFailure) : Value :=
  .object [("signal", .optional (fun n => .integer n.toInt) f.signal),
    ("exit_code", .optional (fun n => .integer n.toInt) f.exitCode), ("message", .string f.message)]

def fields : Fields [Option Int32, Option Int32, String] :=
  .cons (.optional "signal" int32) <|
  .cons (.optional "exit_code" int32) <|
  .cons (.required "message" string) .nil

def reader : Reader ToolFailure :=
  record "ExternalToolFailure" fields fun (signal, exitCode, message, ()) => ⟨signal, exitCode, message⟩

end ToolFailure

end SyntaxWire
