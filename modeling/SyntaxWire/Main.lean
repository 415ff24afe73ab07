/-
The program on the real file system.
-/
import SyntaxWire.CommandLine.Run
import SyntaxWire.Shell

namespace SyntaxWire.CommandLine

def fileFault : IO.Error → FileFault
  | .noFileOrDirectory .. => .notFound
  | .permissionDenied .. => .denied
  | .alreadyExists .. => .alreadyExists
  | .inappropriateType _ number _ => if number = 20 then .notDirectory else .isDirectory
  | .resourceExhausted _ 28 _ => .noSpace
  | e => .other (toString e)

/-- An action on a file whose failure is an answer. -/
def attempt {α : Type} (act : IO α) : IO (Except FileFault α) := do
  match ← act.toBaseIO with
  | .ok a => return .ok a
  | .error e => return .error (fileFault e)

def workingDirectory : Files IO where
  read path := attempt do
    let s ← IO.FS.readBinFile path
    return s.data.toList
  create path := attempt (IO.FS.writeBinFile path .empty)
  write path s := attempt do
    let file ← IO.FS.Handle.mk path .append
    file.write ⟨s.toArray⟩
    file.flush
  -- A file is closed as soon as it is written, and there is no way to wait for the disk.
  sync _ := return .ok ()
  rename old new := attempt (IO.FS.rename old new)
  remove path := attempt (IO.FS.removeFile path)
  makeDirectory path := attempt (IO.FS.createDir path)
  removeDirectory path := attempt (IO.FS.removeDir path)
  kind path := do
    match ← attempt (IO.FS.readBinFile path) with
    | .ok _ => return .ok .file
    | .error .isDirectory => return .ok .directory
    | .error f => return .error f
  entries _ := return []

def host : Host IO where
  toFiles := workingDirectory
  generate := Shell.run workingDirectory
  print text := attempt do
    let out ← IO.getStdout
    out.putStr text
    out.flush

end SyntaxWire.CommandLine

open SyntaxWire.CommandLine in
def main (args : List String) : IO UInt32 := do
  let outcome ← run host args
  for e in outcome.warnings do
    IO.eprintln e.render
  IO.eprint outcome.stderr
  return outcome.exit.toUInt32
