import OneBit.Command.Error
import OneBit.Container.File
import OneBit.TensorFile.Printer
import OneBit.Text.Table

/-!
# Commands

* `pack` : a dense tensor file to a container file;
* `unpack` : a container file to a dense tensor file;
* `inspect` : a table of container headers;
* `verify` : a report on the words of a container.
-/

namespace OneBit

open Ieee

variable {m : Type → Type} [Monad m] [Host m]

/-! ## Dense tensor files -/

def readTensorFile (path : String) : ExceptT CommandError m Tensor := do
  match ← (Host.open? path : m _) with
  | .error _ => throw (.opening path)
  | .ok .directory => throw (.parsing path)
  | .ok (.file bytes) =>
    match TensorFile.ofBytes? bytes with
    | none => throw (.parsing path)
    | some file => CommandError.liftFile file.toTensor

/-- Writes a tensor. The file is made before the tensor is converted, and stays empty if it cannot
be. -/
def writeTensorFile (path : String) (t : Tensor) : ExceptT CommandError m Unit := do
  let text := t.fileText
  let bytes := match text with
    | .ok text => Bytes.ofText text
    | .error _ => []
  match ← (Host.create path bytes : m _) with
  | .error _ => throw (.creating path)
  | .ok () => discard (CommandError.liftFile text)

/-! ## Packing and unpacking -/

structure PackSettings where
  wordBits : Nat := 32
  threshold : Binary32 := Binary32.zero
deriving DecidableEq, Repr

/-- The operator of the settings. -/
def PackSettings.operator (settings : PackSettings) : Except TensorError Operator := do
  return .quantize (← Layout.ofBits settings.wordBits) settings.threshold

def runPack (input output : String) (settings : PackSettings) :
    ExceptT CommandError m Container := do
  let dense ← readTensorFile input
  let layout ← CommandError.liftTensor (Layout.ofBits settings.wordBits)
  let packed ← CommandError.liftTensor (dense.quantized layout settings.threshold)
  let c ← CommandError.liftContainer (Container.ofTensor layout dense.dtype dense.shape packed)
  CommandError.onContainer (c.writeFile output)
  let packedShape ← CommandError.liftContainer c.header.packedShape
  Host.print (m := m) ("Packed " ++ dense.shape.describe ++ " " ++ dense.dtype.name ++ " -> "
    ++ packedShape.describe ++ s!" ({c.words.length} words, crc64 "
    ++ hexadecimal 16 c.header.checksum.toNat ++ ")\n")
  return c

structure UnpackSettings where
  /-- The element type to reconstruct, that of the container when none is given. -/
  dtype : Option DType := none
  scale : Option Binary32 := none
  zeroPoint : Option Int32 := none
deriving DecidableEq, Repr

/-- The int8 parameters of the result, if it is int8. -/
def UnpackSettings.quantization (settings : UnpackSettings) (dtype : DType) : Option Quantization :=
  if dtype = .int8 then
    some { scale := settings.scale.getD Binary32.one, zeroPoint := settings.zeroPoint.getD 0 }
  else none

/-- The tensor in a container, reconstructed into `dense`. -/
def Tensor.reconstructed (dense packed : Tensor) (layout : Layout) : Except TensorError Tensor := do
  let (outcome, arena) := Step.on ((Operator.dequantize layout).invoke ⟨[0], [1]⟩) [packed, dense]
  outcome
  return arena.getD 1 dense

def runUnpack (input output : String) (settings : UnpackSettings) :
    ExceptT CommandError m Tensor := do
  let c ← CommandError.onContainer (Container.read.file input)
  let dtype := settings.dtype.getD c.header.dtype
  if !dtype.isBinarizable then throw (.unreconstructible dtype)
  let dense :=
    { Tensor.zeros dtype c.header.shape with quantization := settings.quantization dtype }
  let layout ← CommandError.liftContainer c.header.layout
  let packed ← CommandError.liftContainer c.toTensor
  let dense ← CommandError.liftTensor (dense.reconstructed packed layout)
  writeTensorFile output dense
  Host.print (m := m) (s!"Unpacked {dense.size} elements to " ++ output ++ "\n")
  return dense

/-! ## Reports -/

/-- The row of a readable header. -/
def Header.reportRow (h : Header) (name : String) : List String :=
  let packed := match h.packedShape with
    | .ok shape => shape.describe
    | .error e => e.message
  [name, "OK", toString h.version, h.dtype.name, h.shape.describe, packed, toString h.wordBits,
    hexadecimal 16 h.checksum.toNat]

/-- The row of a path: its header, or why there is none. -/
def reportRow (path : String) : m (List String) := do
  if let .error e ← Host.open? path then
    if e.namesNothing then return [path, "MISSING"]
  match ← (Header.read.file path).run with
  | .ok h => return h.reportRow path
  | .error e => return [path, "CORRUPT", e.message]

def runInspect (paths : List String) : m Unit := do
  let rows ← paths.mapM fun path => reportRow path
  let table : Text.Table :=
    { header := ["File", "Status", "Version", "Source", "Shape", "Packed", "Word Bits", "CRC64"]
      rows }
  Host.print ("\nContainer Report\n\n" ++ table.render ++ "\n\n")

/-- Reports on the words of a container; its errors are those of `Container.read`. -/
def runVerify (path : String) : ExceptT CommandError m Unit := do
  let c ← CommandError.onContainer (Container.readUnverified.file path)
  let computed := wordChecksum c.words
  if computed = c.header.checksum then
    match c.verify with
    | .error e =>
      Host.print (m := m) ("\n❌ MALFORMED\n\nReason:        " ++ e.message ++ "\n")
      throw (.container e)
    | .ok () =>
      Host.print (m := m) ("\n✅ VERIFIED\n\nComputed Hash: " ++ hexadecimal 16 computed.toNat
        ++ s!"\nWords:         {c.words.length}\n\n")
  else
    Host.print (m := m) ("\n❌ CORRUPTED\n\nExpected Hash: "
      ++ hexadecimal 16 c.header.checksum.toNat ++ "\nFound Hash:    "
      ++ hexadecimal 16 computed.toNat ++ "\n")
    throw (.container (.checksumMismatch c.header.checksum computed))

/-! ## All commands -/

inductive Command
  | pack (input output : String) (settings : PackSettings)
  | unpack (input output : String) (settings : UnpackSettings)
  | inspect (paths : List String)
  | verify (path : String)
deriving DecidableEq, Repr

def Command.run : Command → ExceptT CommandError m Unit
  | pack input output settings => discard (runPack input output settings)
  | unpack input output settings => discard (runUnpack input output settings)
  | inspect paths => (runInspect paths : m Unit)
  | verify path => runVerify path

end OneBit
