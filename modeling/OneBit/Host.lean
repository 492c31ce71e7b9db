import OneBit.Disk

/-!
# What commands need of their host

Commands read and write whole files and print text. They are written against the class `Host`, so
that the same command runs on a real file system and on a `Machine`, whose state is a value.
-/

namespace OneBit

class Host (m : Type → Type) where
  /-- What a path names. -/
  open? : String → m (Except SystemError Entry)
  /-- Writes a file, in place of a file that was there. -/
  create : String → Bytes → m (Except SystemError Unit)
  /-- Makes a directory in one that exists. -/
  makeDirectory : String → m (Except SystemError Unit)
  /-- Writes to standard output. -/
  print : String → m Unit

namespace Host

variable {m : Type → Type} [Monad m] [Host m]

/-- The outcome of making a directory, where one that is there already is as good. -/
def acceptDirectory (path : String) (outcome : Except SystemError Unit) :
    m (Except SystemError Unit) := do
  match outcome with
  | .ok () => return .ok ()
  | .error e =>
    match ← open? path with
    | .ok .directory => return .ok ()
    | _ => return .error e

/-- Makes the first of some directories, each of which is in the next, and for it those of the
others that are missing. -/
def makeOutward : List String → m (Except SystemError Unit)
  | [] => return .ok ()
  | path :: outer => do
    match ← makeDirectory path with
    | .error .notFound =>
      match ← makeOutward outer with
      | .ok () => acceptDirectory path (← makeDirectory path)
      | .error e => return .error e
    | outcome => acceptDirectory path outcome

/-- The directories above a path, the nearest first. -/
def directoriesAbove (path : String) : List String :=
  let names := (Disk.pieces path).filter fun name => name ≠ "" ∧ name ≠ "."
  (List.range names.length).reverse.filterMap fun n =>
    if n = 0 then none else some (String.intercalate "/" (names.take n))

/-- Makes a directory and those above it. What was made stays when a later one cannot be made. -/
def makeDirectories (path : String) : m (Except SystemError Unit) :=
  if path = "" then return .ok () else makeOutward (path :: directoriesAbove path)

end Host

/-- A disk and what has been printed. -/
structure Machine where
  disk : Disk := {}
  printed : String := ""
deriving Repr

namespace Machine

/-- Replaces the disk by a new one, unless there was an error. -/
def update (change : Disk → Except SystemError Disk) :
    StateM Machine (Except SystemError Unit) := do
  let machine ← get
  match change machine.disk with
  | .ok disk =>
    set { machine with disk }
    return .ok ()
  | .error e => return .error e

end Machine

instance : Host (StateM Machine) where
  open? path := do return (← get).disk.open? path
  create path bytes := Machine.update (·.create path bytes)
  makeDirectory path := Machine.update (·.makeDirectory path)
  print text := modify fun machine => { machine with printed := machine.printed ++ text }

end OneBit
