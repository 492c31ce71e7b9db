import OneBit.Json.Number
import OneBit.Json.Parser
import OneBit.Json.Text
import OneBit.Tensor

/-!
# Dense tensor files

A dense tensor is exchanged as JSON:

    {"dtype": "int8", "shape": [2, 2], "data": [1, -2, 3, 0],
     "quant": {"scale": 0.5, "zero_point": 0}}

Data is a list of numbers or of booleans, an empty list counting as numbers; `quant` may be missing
or null. Other members are skipped, and a member that comes twice is an error. A record may also be
given as the array of its fields.

* `TensorFile.ofBytes?` : the file that a text spells;
* `TensorFile.toTensor`, `TensorFile.ofTensor` : between files and tensors.
-/

namespace OneBit

open Ieee

/-- The data of a file. -/
inductive FileData
  | numbers (values : List Binary64)
  | flags (values : List Bool)
deriving DecidableEq, Repr

structure TensorFile where
  dtype : DType
  shape : Shape
  data : FileData
  quantization : Option Quantization
deriving DecidableEq, Repr

/-- Why a file makes no tensor, or a tensor no file. -/
inductive FileError
  /-- The text is not a tensor in JSON. -/
  | malformed
  | notInt8 (x : Binary64)
  | dataMismatch (dtype : DType)
  /-- Packed words are kept in containers. -/
  | packedData
  | tensor (e : TensorError)
deriving DecidableEq, Repr

/-- A double-precision number inside a message. -/
def Ieee.Binary64.describe (x : Binary64) : String :=
  Decimal.Style.message.write Binary64.format x.value

def FileError.message : FileError → String
  | malformed => ""
  | notInt8 x => x.describe ++ " is not an int8 value"
  | dataMismatch dtype => "data does not match dtype " ++ dtype.name
  | packedData => "int32 tensors are not written as dense files"
  | tensor e => e.message

/-! ## From JSON -/

namespace Json

/-- The members of an object with their keys as text. -/
def namedMembers? (members : List (List Piece × Value)) : Option (List (String × Value)) :=
  members.mapM fun (key, item) => (text? key).map fun name => (name, item)

/-- The member of a given name, if there is one; there must not be two. -/
def member? (name : String) (members : List (String × Value)) : Option (Option Value) :=
  match members.filter fun (key, _) => key = name with
  | [] => some none
  | [(_, item)] => some (some item)
  | _ => none

/-- The fields of a record, given as an object with these names or as an array in this order. Only
trailing fields of an array may be left out. -/
def fields? (names : List String) : Value → Option (List (Option Value))
  | .object members => do
    let members ← namedMembers? members
    names.mapM fun name => member? name members
  | .array items =>
    if items.length ≤ names.length then
      some (items.map some ++ List.replicate (names.length - items.length) none)
    else none
  | _ => none

def number? : Value → Option Number
  | .number literal => literal.number?
  | _ => none

def bool? : Value → Option Bool
  | .bool b => some b
  | _ => none

/-- A name, or the object with the name as its only key and null under it. -/
def dtype? : Value → Option DType
  | .string pieces => (text? pieces).bind DType.ofName?
  | .object [(pieces, .null)] => (text? pieces).bind DType.ofName?
  | _ => none

/-- A 64-bit size. -/
def size? (v : Value) : Option Nat :=
  match number? v with
  | some (.natural n) => some n
  | _ => none

def shape? : Value → Option Shape
  | .array items => items.mapM size?
  | _ => none

/-- A list of numbers, otherwise a list of booleans. -/
def data? : Value → Option FileData
  | .array items =>
    match items.mapM number? with
    | some numbers => some (.numbers (numbers.map Number.toDouble))
    | none => (items.mapM bool?).map .flags
  | _ => none

def int32? (v : Value) : Option Int32 := do
  let n ← (← number? v).toInt?
  if -2147483648 ≤ n ∧ n ≤ 2147483647 then some (Int32.ofInt n) else none

def quantization? (v : Value) : Option Quantization := do
  match ← fields? ["scale", "zero_point"] v with
  | [some scale, some zeroPoint] =>
    return { scale := (← number? scale).toSingle, zeroPoint := ← int32? zeroPoint }
  | _ => none

end Json

namespace TensorFile

def ofJson? (v : Json.Value) : Option TensorFile := do
  match ← Json.fields? ["dtype", "shape", "data", "quant"] v with
  | [some dtype, some shape, some data, quant] =>
    let quantization ← match quant with
      | none => some none
      | some .null => some none
      | some q => (Json.quantization? q).map some
    return { dtype := ← Json.dtype? dtype, shape := ← Json.shape? shape,
             data := ← Json.data? data, quantization }
  | _ => none

def ofBytes? (bytes : Bytes) : Option TensorFile :=
  (Json.parse bytes).bind ofJson?

/-! ## Files and tensors -/

/-- A whole number that int8 holds. -/
def int8 (x : Binary64) : Except FileError Int8 :=
  match x.toInt? with
  | some n => if -128 ≤ n ∧ n ≤ 127 then .ok (Int8.ofInt n) else .error (.notInt8 x)
  | none => .error (.notInt8 x)

/-- The elements of a file, in its element type. -/
def elements : DType → FileData → Except FileError TensorData
  | .float32, .numbers values => .ok (.float32 (values.map Binary64.toBinary32))
  | .int8, .numbers values => do return .int8 (← values.mapM int8)
  | .bool, .flags values => .ok (.bool values)
  | .bool, .numbers [] => .ok (.bool [])
  | dtype, _ => .error (.dataMismatch dtype)

def toTensor (file : TensorFile) : Except FileError Tensor := do
  let data ← elements file.dtype file.data
  match Tensor.ofData file.shape data with
  | .ok t => return { t with quantization := file.quantization }
  | .error e => throw (.tensor e)

def ofTensor (t : Tensor) : Except FileError TensorFile := do
  let data ← match t.data with
    | .float32 values => .ok (.numbers (values.map Binary64.ofBinary32))
    | .int8 values => .ok (.numbers (values.map fun x => Binary64.ofInt x.toInt))
    | .bool values => .ok (.flags values)
    | .int32 _ => .error .packedData
  return { dtype := t.dtype, shape := t.shape, data, quantization := t.quantization }

end TensorFile

end OneBit
