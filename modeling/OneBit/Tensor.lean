import OneBit.Access
import OneBit.Binarization
import OneBit.Buffer

/-!
# Tensors

A tensor is a shape with as many elements as its dimensions multiply to in 64 bits, optional int8
parameters, and a note on how its memory was planned. `Tensor.WellFormed` states the count.
-/

namespace OneBit

open Ieee

/-- The elements of a tensor, row after row. -/
inductive TensorData
  | float32 (values : List Binary32)
  | int8 (values : List Int8)
  | bool (values : List Bool)
  | int32 (values : List Int32)
deriving DecidableEq, Repr

namespace TensorData

def dtype : TensorData → DType
  | float32 _ => .float32
  | int8 _ => .int8
  | bool _ => .bool
  | int32 _ => .int32

def length : TensorData → Nat
  | float32 values => values.length
  | int8 values => values.length
  | bool values => values.length
  | int32 values => values.length

/-- Zeros, or `false`. -/
def zeros (dtype : DType) (length : Nat) : TensorData :=
  match dtype with
  | .float32 => float32 (List.replicate length Binary32.zero)
  | .int8 => int8 (List.replicate length 0)
  | .bool => bool (List.replicate length false)
  | .int32 => int32 (List.replicate length 0)

@[simp] theorem dtype_zeros (dtype : DType) (n : Nat) : (zeros dtype n).dtype = dtype := by
  cases dtype <;> rfl

@[simp] theorem length_zeros (dtype : DType) (n : Nat) : (zeros dtype n).length = n := by
  cases dtype <;> simp [zeros, length]

/-- Writes the new elements from the start, as many as both have, if they are of the same type. -/
def overwrite? : TensorData → TensorData → Option TensorData
  | float32 old, float32 new => some (float32 (overwrite old new))
  | int8 old, int8 new => some (int8 (overwrite old new))
  | bool old, bool new => some (bool (overwrite old new))
  | int32 old, int32 new => some (int32 (overwrite old new))
  | _, _ => none

end TensorData

/-- How the memory of a tensor was planned. -/
inductive Allocation
  /-- Planned before execution; the shape is fixed once prepared. -/
  | arena
  /-- Read-only data known before execution. -/
  | constant
  /-- The shape is known only when the node is evaluated. -/
  | dynamic
deriving DecidableEq, Repr, Inhabited

structure Tensor where
  shape : Shape
  data : TensorData
  quantization : Option Quantization := none
  allocation : Allocation := .arena
deriving DecidableEq, Repr

namespace Tensor

/-- The data has as many elements as 64 bits count positions of the shape. -/
def WellFormed (t : Tensor) : Prop :=
  t.data.length = t.shape.flatSize

def dtype (t : Tensor) : DType := t.data.dtype

def rank (t : Tensor) : Nat := t.shape.length

/-- The number of elements. -/
def size (t : Tensor) : Nat := t.data.length

/-- Dimension `i`. -/
def dim (t : Tensor) (i : Nat) : Except TensorError Nat :=
  elementAt t.shape i

/-- A tensor of zeros. -/
def zeros (dtype : DType) (shape : Shape) : Tensor :=
  { shape, data := .zeros dtype shape.flatSize }

/-- A tensor of given elements. -/
def ofData (shape : Shape) (data : TensorData) : Except TensorError Tensor :=
  if data.length = shape.flatSize then .ok { shape, data }
  else .error (.bufferSize shape.flatSize data.length)

/-- Gives the tensor a new shape and fills it with zeros. -/
def resize (t : Tensor) (shape : Shape) : Tensor :=
  { t with shape, data := .zeros t.dtype shape.flatSize }

def setDynamic (t : Tensor) : Tensor :=
  { t with allocation := .dynamic }

theorem wellFormed_zeros (dtype : DType) (shape : Shape) : (zeros dtype shape).WellFormed := by
  simp [WellFormed, zeros]

theorem wellFormed_resize (t : Tensor) (shape : Shape) : (t.resize shape).WellFormed := by
  simp [WellFormed, resize]

@[simp] theorem dtype_resize (t : Tensor) (shape : Shape) : (t.resize shape).dtype = t.dtype := by
  simp [resize, dtype]

/-! ## Typed access -/

def float32s (t : Tensor) : Except TensorError (List Binary32) :=
  match t.data with
  | .float32 values => .ok values
  | data => .error (.unsupportedType data.dtype)

def int8s (t : Tensor) : Except TensorError (List Int8) :=
  match t.data with
  | .int8 values => .ok values
  | data => .error (.unsupportedType data.dtype)

def bools (t : Tensor) : Except TensorError (List Bool) :=
  match t.data with
  | .bool values => .ok values
  | data => .error (.unsupportedType data.dtype)

def int32s (t : Tensor) : Except TensorError (List Int32) :=
  match t.data with
  | .int32 values => .ok values
  | data => .error (.unsupportedType data.dtype)

/-- Writes elements of the tensor's own type from the start, as many as there is room for. -/
def write (t : Tensor) (values : TensorData) : Except TensorError Tensor :=
  match t.data.overwrite? values with
  | some data => .ok { t with data }
  | none => .error (.unsupportedType t.dtype)

/-- Replaces all elements by as many others of the same type. -/
def fill (t : Tensor) (values : TensorData) : Except TensorError Tensor :=
  if t.dtype = values.dtype then
    if t.size = values.length then .ok { t with data := values }
    else .error (.outOfBounds t.size values.length)
  else .error (.unsupportedType t.dtype)

end Tensor

end OneBit
