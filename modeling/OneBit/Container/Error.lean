import OneBit.Error
import OneBit.Bytes
import OneBit.SystemError

/-!
# What can go wrong with a container
-/

namespace OneBit

/-- Why bytes could not be read or written. -/
inductive IoFault
  /-- The bytes ended inside a field. -/
  | endOfInput
  | system (e : SystemError)
deriving DecidableEq, Repr

def IoFault.message : IoFault → String
  | endOfInput => "failed to fill whole buffer"
  | system e => e.message

/-- Why a header or its words make no container. -/
inductive FormatFault
  | unknownDType (code : UInt8)
  | invalidRank (rank : Nat)
  | packedSizeOverflow
  /-- The header names another number of words than its shape takes. -/
  | wordCount (shape : Shape) (needed declared : Nat)
  /-- There are more or fewer words than the shape takes. -/
  | wordsGiven (shape : Shape) (needed given : Nat)
  /-- A word has a bit set that carries no element. -/
  | strayBits (word : UInt32) (width : Nat)
deriving DecidableEq, Repr

def FormatFault.message : FormatFault → String
  | unknownDType code => s!"unknown dtype code {code}"
  | invalidRank rank => s!"invalid rank {rank}"
  | packedSizeOverflow => "packed size overflows"
  | wordCount shape needed declared =>
    "shape " ++ shape.describe ++ s!" needs {needed} words, header declares {declared}"
  | wordsGiven shape needed given =>
    "shape " ++ shape.describe ++ s!" needs {needed} words, got {given}"
  | strayBits word width =>
    "word " ++ hexadecimal 8 word.toNat ++ s!" sets bits above width {width}"

inductive ContainerError
  | invalidMagic
  | unsupportedVersion (version : UInt32)
  | checksumMismatch (expected found : UInt64)
  | io (fault : IoFault)
  | invalidFormat (fault : FormatFault)
  | tensor (e : TensorError)
deriving DecidableEq, Repr

def ContainerError.message : ContainerError → String
  | invalidMagic => "Invalid magic bytes in header"
  | unsupportedVersion version => s!"Unsupported container version: {version}"
  | checksumMismatch expected found =>
    "Checksum mismatch: expected " ++ hexadecimal 16 expected.toNat ++ ", found "
      ++ hexadecimal 16 found.toNat
  | io fault => "IO error: " ++ fault.message
  | invalidFormat fault => "Invalid data format: " ++ fault.message
  | tensor e => "Kernel error: " ++ e.message

/-- An error of the tensors inside a container. -/
def ContainerError.ofTensor {α : Type} : Except TensorError α → Except ContainerError α
  | .ok a => .ok a
  | .error e => .error (.tensor e)

end OneBit
