import OneBit.Bytes

/-!
# CRC-64/XZ

The remainder of the bytes by a polynomial of degree 64, least significant bit first, starting
from all ones and complemented at the end. The empty message has checksum zero.
-/

namespace OneBit.Crc64

/-- The polynomial with its bits reversed, so that the remainder moves to the right. -/
def polynomial : UInt64 := 0xC96C5795D7870F42

/-- Divides out one bit. -/
def shift (remainder : UInt64) : UInt64 :=
  if remainder &&& 1 = 1 then (remainder >>> 1) ^^^ polynomial else remainder >>> 1

/-- Takes in one byte. -/
def step (remainder : UInt64) (byte : UInt8) : UInt64 :=
  Nat.repeat shift 8 (remainder ^^^ byte.toUInt64)

/-- The checksum of a message. -/
def checksum (bytes : Bytes) : UInt64 :=
  bytes.foldl step 0xFFFFFFFFFFFFFFFF ^^^ 0xFFFFFFFFFFFFFFFF

end OneBit.Crc64
