import OneBit.Bytes
import OneBit.SystemError

/-!
# A file system

A disk is a tree of directories and files, kept as a map from locations to entries. A path is
walked name by name from the directory that everything is relative to; `.` and empty names stay, and
`..` goes up. Each name but the last must be that of a directory. The first fault on the way is the
one that is reported, so a name that is too long after a missing directory is not noticed.
-/

namespace OneBit

/-- The names from the top directory down. -/
abbrev Location := List String

inductive Entry
  | file (bytes : Bytes)
  | directory
deriving DecidableEq, Repr

structure Disk where
  entries : List (Location × Entry) := []
deriving DecidableEq, Repr

namespace Disk

/-- What is at a location. The top directory is always there. -/
def lookup? (disk : Disk) (location : Location) : Option Entry :=
  if location = [] then some .directory else disk.entries.lookup location

/-- Puts an entry at a location, in place of what was there. -/
def put (disk : Disk) (location : Location) (entry : Entry) : Disk :=
  ⟨(location, entry) :: disk.entries.filter fun e => e.1 ≠ location⟩

theorem lookup?_put_self (disk : Disk) {location : Location} (entry : Entry) (h : location ≠ []) :
    (disk.put location entry).lookup? location = some entry := by
  simp [lookup?, put, h]

theorem lookup?_put_of_ne (disk : Disk) {location other : Location} (entry : Entry)
    (h : other ≠ location) : (disk.put location entry).lookup? other = disk.lookup? other := by
  have ne : (other == location) = false := by simp [h]
  have skip (entries : List (Location × Entry)) :
      (entries.filter fun e => e.1 ≠ location).lookup other = entries.lookup other := by
    induction entries with
    | nil => rfl
    | cons e rest ih =>
      obtain ⟨l, entry⟩ := e
      by_cases he : l = location
      · subst he
        simpa [List.lookup_cons, ne] using ih
      · rw [List.filter_cons_of_pos (by simpa using he), List.lookup_cons, List.lookup_cons, ih]
  unfold lookup? put
  rw [List.lookup_cons, ne, skip]

/-- Fails unless there is a directory. -/
def expectDirectory (disk : Disk) (location : Location) : Except SystemError Unit :=
  match disk.lookup? location with
  | some .directory => .ok ()
  | some (.file _) => .error .notDirectory
  | none => .error .notFound

/-! ## Paths -/

/-- The pieces of a path between its slashes, with an empty one where two slashes meet. -/
def pieces (path : String) : List String :=
  (path.toList.splitOn '/').map String.ofList

/-- The names in a path, some of them perhaps empty. A path has at most 4095 bytes. -/
def pathNames (path : String) : Except SystemError (List String) :=
  if path.toList.contains '\x00' then .error .nulInPath
  else if path = "" then .error .notFound
  else if 4095 < path.utf8ByteSize then .error .nameTooLong
  else .ok (pieces path)

/-- The location one name further on. A name has at most 255 bytes. -/
def move (location : Location) (name : String) : Except SystemError Location :=
  if name = "" ∨ name = "." then .ok location
  else if name = ".." then .ok location.dropLast
  else if 255 < name.utf8ByteSize then .error .nameTooLong
  else .ok (location ++ [name])

/-- Walks names from a location on. -/
def walk (disk : Disk) (location : Location) : List String → Except SystemError Location
  | [] => .ok location
  | name :: names => do
    disk.expectDirectory location
    disk.walk (← move location name) names

/-- The location that a path names, whether or not there is something. -/
def locate (disk : Disk) (path : String) : Except SystemError Location := do
  disk.walk [] (← pathNames path)

/-- The directory that a path ends in and the last name, which slashes may follow. -/
def locateLast (disk : Disk) (path : String) : Except SystemError (Location × String) := do
  match (← pathNames path).reverse.dropWhile (· = "") with
  | [] => return ([], ".")
  | last :: outer =>
    let directory ← disk.walk [] outer.reverse
    disk.expectDirectory directory
    return (directory, last)

/-! ## Access by path -/

/-- What a path names. -/
def open? (disk : Disk) (path : String) : Except SystemError Entry := do
  match disk.lookup? (← disk.locate path) with
  | some entry => return entry
  | none => throw .notFound

/-- Writes a file, in place of a file that was there. A path that ends in a slash names no file. -/
def create (disk : Disk) (path : String) (bytes : Bytes) : Except SystemError Disk := do
  let (directory, last) ← disk.locateLast path
  if last = "." ∨ last = ".." ∨ path.endsWith '/' then throw .isDirectory
  let location ← move directory last
  match disk.lookup? location with
  | some .directory => throw .isDirectory
  | _ => return disk.put location (.file bytes)

/-- Makes a directory in one that exists. -/
def makeDirectory (disk : Disk) (path : String) : Except SystemError Disk := do
  let (directory, last) ← disk.locateLast path
  if last = "." ∨ last = ".." then throw .alreadyExists
  let location ← move directory last
  match disk.lookup? location with
  | some _ => throw .alreadyExists
  | none => return disk.put location .directory

/-- The sorted names in a directory. -/
def list (disk : Disk) (path : String) : Except SystemError (List String) := do
  let location ← disk.locate path
  disk.expectDirectory location
  let names := disk.entries.filterMap fun (other, _) =>
    if other.dropLast = location then other.getLast? else none
  return names.mergeSort (fun a b => a ≤ b)

end Disk

end OneBit
