import OneBit.CommandLine

/-!
# The program

The commands on the real file system. Everything but the system calls is decided elsewhere.
-/

namespace OneBit

/-- The cause of a failed system call. -/
def SystemError.ofIO : IO.Error → SystemError
  | .noFileOrDirectory _ _ _ => .notFound
  | .permissionDenied _ _ _ => .permissionDenied
  | .alreadyExists _ _ _ => .alreadyExists
  | .inappropriateType _ code _ => if code = 20 then .notDirectory else .isDirectory
  | .invalidArgument _ 36 _ => .nameTooLong
  | e => .other 5 (toString e)

/-- Runs system calls on a path and catches their errors. -/
def attempt {α : Type} (path : String) (calls : IO α) : IO (Except SystemError α) := do
  if path.contains '\x00' then return .error .nulInPath
  match ← calls.toBaseIO with
  | .ok a => return .ok a
  | .error e => return .error (.ofIO e)

instance : Host IO where
  open? path := attempt path do
    let handle ← IO.FS.Handle.mk path .read
    match ← handle.readBinToEnd.toBaseIO with
    | .ok bytes => return .file bytes.toList
    | .error e => if SystemError.ofIO e = .isDirectory then return .directory else throw e
  create path bytes := attempt path (IO.FS.writeBinFile path ⟨bytes.toArray⟩)
  makeDirectory path := attempt path (IO.FS.createDir path)
  print text := IO.print text

end OneBit

def main (args : List String) : IO UInt32 := do
  let outcome ← OneBit.CommandLine.run (m := IO) args
  match outcome with
  | .done => pure ()
  | .failed message => IO.eprintln message
  | .misused => IO.eprintln "Usage: binq <pack|unpack|inspect|verify> ..."
  return outcome.exitCode
