/-!
# Element types

Dense tensors hold singles, bytes or booleans; packed words travel as 32-bit integers.
-/

namespace OneBit

/-- The type of a tensor's elements. -/
inductive DType
  | float32
  | int8
  | bool
  | int32
deriving DecidableEq, Repr, Inhabited

namespace DType

/-- The byte that stands for the type in a container. -/
def code : DType → UInt8
  | float32 => 0
  | int8 => 1
  | bool => 2
  | int32 => 3

def ofCode? (code : UInt8) : Option DType :=
  if code = 0 then some float32
  else if code = 1 then some int8
  else if code = 2 then some bool
  else if code = 3 then some int32
  else none

/-- The name in files and reports. -/
def name : DType → String
  | float32 => "float32"
  | int8 => "int8"
  | bool => "bool"
  | int32 => "int32"

/-- The capitalised name in error messages. -/
def title : DType → String
  | float32 => "Float32"
  | int8 => "Int8"
  | bool => "Bool"
  | int32 => "Int32"

def all : List DType := [float32, int8, bool, int32]

def ofName? (name : String) : Option DType :=
  all.find? fun dtype => dtype.name = name

/-- The types that pack to bits and are reconstructed from them. -/
def isBinarizable : DType → Bool
  | int32 => false
  | _ => true

theorem ofCode?_code (dtype : DType) : ofCode? dtype.code = some dtype := by
  cases dtype <;> rfl

end DType

end OneBit
