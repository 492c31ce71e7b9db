import OneBit.Container
import OneBit.Host

/-!
# Container files

Reading and writing containers on a host, and a set of sample files.
-/

namespace OneBit

open Ieee

variable {m : Type → Type} [Monad m] [Host m]

/-- Reads from the start of a file; bytes that the reader leaves do not matter. -/
def Reader.file {α : Type} (reader : Reader α) (path : String) : ExceptT ContainerError m α := do
  match ← (Host.open? path : m _) with
  | .error e => throw (.io (.system e))
  | .ok .directory => throw (.io (.system .isDirectory))
  | .ok (.file bytes) =>
    match reader bytes with
    | .ok (a, _) => return a
    | .error e => throw e

namespace Container

def writeFile (path : String) (c : Container) : ExceptT ContainerError m Unit := do
  if let .error e ← (Host.create path c.encode : m _) then throw (.io (.system e))

/-! ## Sample files -/

/-- The path of a file in a directory. -/
def pathIn (directory name : String) : String :=
  if directory = "" ∨ directory.endsWith "/" then directory ++ name else directory ++ "/" ++ name

/-- Two rows of forty singles of alternating sign. -/
def sampleSingles : Tensor where
  shape := [2, 40]
  data := .float32 ((List.range 80).map fun i => if i % 2 = 0 then ⟨0x3FC00000⟩ else ⟨0xBF000000⟩)

def sampleInt8s : Tensor where
  shape := [3, 3]
  data := .int8 [-3, 7, 2, 2, -128, 127, 0, 1, 5]
  quantization := some ⟨⟨0x3F000000⟩, 2⟩

def sampleBools : Tensor where
  shape := [6]
  data := .bool [true, false, false, true, true, false]

/-- The container with one bit of its first word flipped and the checksum kept. -/
def corrupted (c : Container) : Container :=
  { c with words := match c.words with
      | [] => []
      | word :: words => (word ^^^ 0x10) :: words }

/-- Packs a dense tensor into a file. -/
def writeDense (path : String) (dense : Tensor) (layout : Layout) :
    ExceptT ContainerError m Container := do
  let c ← ofDense dense layout
  writeFile path c
  return c

/-- Eight elements to a word. -/
def byteLayout : Layout := ⟨8, by decide, by decide⟩

/-- Writes one container per element type and a corrupted one into a directory, which is made if it
does not exist, and gives their paths. -/
def writeSamples (directory : String) : ExceptT ContainerError m (List String) := do
  if let .error _ ← (Host.open? directory : m _) then
    if let .error e ← (Host.makeDirectories directory : m _) then throw (.io (.system e))
  let singles := pathIn directory "float.binq"
  let int8s := pathIn directory "int8.binq"
  let bools := pathIn directory "bool.binq"
  let corrupt := pathIn directory "corrupt.binq"
  let c ← writeDense singles sampleSingles .full
  let _ ← writeDense int8s sampleInt8s byteLayout
  let _ ← writeDense bools sampleBools .full
  writeFile corrupt c.corrupted
  return [singles, int8s, bools, corrupt]

end Container

end OneBit
