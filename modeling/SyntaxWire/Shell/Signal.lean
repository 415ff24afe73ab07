/-
Signals: their names and numbers, and what each does to a shell that sets no
trap for it.
-/
import SyntaxWire.Shell.Raw

namespace SyntaxWire.Shell.Signal

/-- The names of the signals from number 1 on, and what is said of a process that one has ended. -/
def table : List (String × String) :=
  [("HUP", "Hangup"), ("INT", ""), ("QUIT", "Quit"), ("ILL", "Illegal instruction"),
    ("TRAP", "Trace/breakpoint trap"), ("ABRT", "Aborted"), ("BUS", "Bus error"),
    ("FPE", "Floating point exception"), ("KILL", "Killed"), ("USR1", "User defined signal 1"),
    ("SEGV", "Segmentation fault"), ("USR2", "User defined signal 2"), ("PIPE", ""), ("ALRM", "Alarm clock"),
    ("TERM", "Terminated"), ("16", "Stack fault"), ("CHLD", ""), ("CONT", ""), ("STOP", ""), ("TSTP", ""),
    ("TTIN", ""), ("TTOU", ""), ("URG", ""), ("XCPU", "CPU time limit exceeded"),
    ("XFSZ", "File size limit exceeded"), ("VTALRM", "Virtual timer expired"),
    ("PROF", "Profiling timer expired"), ("WINCH", ""), ("IO", "I/O possible"), ("PWR", "Power failure"),
    ("SYS", "Bad system call"), ("32", "Real-time signal 0"), ("33", "Real-time signal 1"),
    ("RTMIN", "Real-time signal 0")]

/-- Signals have numbers below this one. -/
def limit : Nat := 65

def name (n : Nat) : String :=
  if n = 0 then "EXIT"
  else match table[n - 1]? with
    | some (name, _) => name
    | none =>
      if n < 50 then "RTMIN+" ++ toString (n - 34)
      else if n = 64 then "RTMAX"
      else "RTMAX-" ++ toString (64 - n)

def epitaph (n : Nat) : String :=
  match table[n - 1]? with
  | some (_, said) => said
  | none => "Real-time signal " ++ toString (n - 34)

/-- The signal with a number or a name. Names go without `SIG`; their case does not count. -/
def find? (least : Nat) (s : String) : Option Nat :=
  if s ≠ "" ∧ s.toList.all Char.isDigit then (Raw.count? s).filter (· < limit)
  else (List.range limit).find? fun n => least ≤ n && (name n).toLower == s.toLower

/-- Whether the signal does nothing that ends a process. -/
def isHarmless (n : Nat) : Bool := n ∈ [0, 17, 18, 19, 20, 21, 22, 23, 28]

end SyntaxWire.Shell.Signal
