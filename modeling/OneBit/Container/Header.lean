import OneBit.Container.Reader
import OneBit.Layout

/-!
# Container headers

All fields are little-endian:

| bytes | field |
|---|---|
| 4 | magic, `BINQ` |
| 4 | version |
| 1 | word width |
| 1 | element type before packing |
| 2 | reserved, written as zero and skipped |
| 4 | rank |
| 8 each | dimensions before packing |
| 8 | number of words |
| 8 | checksum of the words |

The dense shape is stored because the packed one does not determine it.
-/

namespace OneBit

structure Header where
  magic : UInt32
  version : UInt32
  wordBits : UInt8
  dtype : DType
  shape : Shape
  wordCount : UInt64
  checksum : UInt64
deriving DecidableEq, Repr

namespace Header

/-- `BINQ`, read as a number. -/
def binq : UInt32 := 0x514E4942

def currentVersion : UInt32 := 1

/-- Larger ranks are taken for garbage. -/
def maxRank : Nat := 16

def layout (h : Header) : Except ContainerError Layout :=
  ContainerError.ofTensor (Layout.ofBits h.wordBits.toNat)

/-- The shape of the words. -/
def packedShape (h : Header) : Except ContainerError Shape := do
  let layout ← h.layout
  ContainerError.ofTensor (layout.packedShape h.shape)

/-- The number of words that the shape takes. -/
def expectedWords (h : Header) : Except ContainerError Nat := do
  let layout ← h.layout
  let (rows, cols) ← ContainerError.ofTensor h.shape.rowsCols
  match checkedMul? rows (layout.packedSize cols) with
  | some n => return n
  | none => throw (.invalidFormat .packedSizeOverflow)

/-- The length of the encoded header. -/
def size (h : Header) : Nat :=
  32 + 8 * h.shape.length

def encode (h : Header) : Bytes :=
  Bytes.littleEndian 4 h.magic.toNat ++ Bytes.littleEndian 4 h.version.toNat
    ++ [h.wordBits, h.dtype.code] ++ Bytes.littleEndian 2 0
    ++ Bytes.littleEndian 4 h.shape.length ++ h.shape.flatMap (Bytes.littleEndian 8)
    ++ Bytes.littleEndian 8 h.wordCount.toNat ++ Bytes.littleEndian 8 h.checksum.toNat

theorem length_encode (h : Header) : h.encode.length = h.size := by
  have dims : (h.shape.flatMap (Bytes.littleEndian 8)).length = 8 * h.shape.length := by
    induction h.shape with
    | nil => rfl
    | cons d rest ih => simp [ih]; omega
  simp [encode, size, dims]; omega

/-- Reads a header and checks each field as it comes; the number of words must be the one that the
shape takes. -/
def read : Reader Header := do
  let magic ← Reader.word
  if magic ≠ binq then throw .invalidMagic
  let version ← Reader.word
  if version ≠ currentVersion then throw (.unsupportedVersion version)
  let wordBits ← Reader.byte
  let code ← Reader.byte
  let some dtype := DType.ofCode? code | throw (.invalidFormat (.unknownDType code))
  let _reserved ← Reader.take 2
  let rank ← Reader.number 4
  if rank = 0 ∨ maxRank < rank then throw (.invalidFormat (.invalidRank rank))
  let shape ← Reader.many (Reader.number 8) rank
  let wordCount ← Reader.long
  let checksum ← Reader.long
  let header : Header := { magic, version, wordBits, dtype, shape, wordCount, checksum }
  let needed ← header.expectedWords
  if needed ≠ wordCount.toNat then
    throw (.invalidFormat (.wordCount shape needed wordCount.toNat))
  return header

end Header

end OneBit
