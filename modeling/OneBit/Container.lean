import OneBit.Container.Header
import OneBit.Crc64
import OneBit.Operator

/-!
# Containers

A container is a header and the words of one packed tensor.

* `Container.ofWords`, `Container.ofTensor`, `Container.ofDense` : build one;
* `Container.encode` : its bytes;
* `Container.readUnverified`, `Container.read` : from bytes, without and with `Container.verify`,
  which compares the checksum and refuses bits that carry no element;
* `Container.toTensor` : the words as a tensor again.
-/

namespace OneBit

open Ieee

structure Container where
  header : Header
  words : List UInt32
deriving DecidableEq, Repr

/-- The words as bytes. -/
def wordBytes (words : List UInt32) : Bytes :=
  words.flatMap fun word => Bytes.littleEndian 4 word.toNat

/-- The checksum that a header stores. -/
def wordChecksum (words : List UInt32) : UInt64 :=
  Crc64.checksum (wordBytes words)

namespace Container

/-- Puts a header before words that were packed from the given shape. -/
def ofWords (layout : Layout) (dtype : DType) (shape : Shape) (words : List UInt32) :
    Except ContainerError Container := do
  let header : Header :=
    { magic := Header.binq
      version := Header.currentVersion
      wordBits := UInt8.ofNat layout.bits
      dtype
      shape
      wordCount := UInt64.ofNat words.length
      checksum := wordChecksum words }
  let needed ← header.expectedWords
  if needed ≠ header.wordCount.toNat then
    throw (.invalidFormat (.wordsGiven shape needed header.wordCount.toNat))
  return { header, words }

/-- Takes the words from a packed tensor. -/
def ofTensor (layout : Layout) (dtype : DType) (shape : Shape) (packed : Tensor) :
    Except ContainerError Container := do
  let values ← ContainerError.ofTensor packed.int32s
  ofWords layout dtype shape (values.map Int32.toUInt32)

/-- The words as an int32 tensor. -/
def toTensor (c : Container) : Except ContainerError Tensor := do
  let shape ← c.header.packedShape
  ContainerError.ofTensor (Tensor.ofData shape (.int32 (c.words.map UInt32.toInt32)))

def encode (c : Container) : Bytes :=
  c.header.encode ++ wordBytes c.words

def readUnverified : Reader Container := do
  let header ← Header.read
  let words ← Reader.many Reader.word header.wordCount.toNat
  return { header, words }

/-- The stored checksum is that of the words, and no word has a bit set that carries no element. -/
def verify (c : Container) : Except ContainerError Unit := do
  let found := wordChecksum c.words
  if found ≠ c.header.checksum then throw (.checksumMismatch c.header.checksum found)
  let layout ← c.header.layout
  if let some word := c.words.find? fun word => word &&& ~~~layout.usedMask ≠ 0 then
    throw (.invalidFormat (.strayBits word c.header.wordBits.toNat))

def read : Reader Container := do
  let c ← readUnverified
  c.verify
  return c

end Container

/-- The output of quantizing a dense tensor on its own. -/
def Tensor.quantized (dense : Tensor) (layout : Layout) (threshold : Binary32) :
    Except TensorError Tensor := do
  let output := Tensor.zeros .int32 (List.replicate dense.rank 0)
  let (outcome, arena) :=
    Step.on ((Operator.quantize layout threshold).invoke ⟨[0], [1]⟩) [dense, output]
  outcome
  return arena.getD 1 output

/-- Quantizes a dense tensor with threshold zero and keeps the words. -/
def Container.ofDense (dense : Tensor) (layout : Layout) : Except ContainerError Container := do
  let packed ← ContainerError.ofTensor (dense.quantized layout Binary32.zero)
  Container.ofTensor layout dense.dtype dense.shape packed

end OneBit
