import OneBit.TensorFile

/-!
# Writing dense tensor files

Two spaces of indentation, one item per line, and `quant` left out when there is none. Data is
written in double precision and the scale in single, with the fewest digits that read back.
-/

namespace OneBit

open Ieee Decimal

namespace TensorFile

/-- Doubles have an exponent below `10 ^ -5` and from `10 ^ 16` on. -/
def doubleStyle : Style where
  isPlain := fun e => -5 ≤ e && e ≤ 15
  keepsPoint := true
  tie := .toEven
  nan := "null"
  infinity := "null"
  negativeInfinity := "null"

/-- Singles have an exponent below `10 ^ -6` and from `10 ^ 13` on. -/
def singleStyle : Style :=
  { doubleStyle with isPlain := fun e => -6 ≤ e && e ≤ 12 }

/-- A list inside the record, one item per line. -/
def listText (items : List String) : String :=
  if items.isEmpty then "[]"
  else "[\n    " ++ String.intercalate ",\n    " items ++ "\n  ]"

def dataItems : FileData → List String
  | .numbers values => values.map fun x => doubleStyle.write Binary64.format x.value
  | .flags values => values.map fun b => if b then "true" else "false"

def quantizationText (q : Quantization) : String :=
  "\x7b\n    \"scale\": " ++ singleStyle.write Binary32.format q.scale.value
    ++ ",\n    \"zero_point\": " ++ toString q.zeroPoint.toInt ++ "\n  \x7d"

/-- The text of a file, without a line end after it. -/
def text (file : TensorFile) : String :=
  "\x7b\n  \"dtype\": \"" ++ file.dtype.name ++ "\",\n  \"shape\": "
    ++ listText (file.shape.map toString) ++ ",\n  \"data\": " ++ listText (dataItems file.data)
    ++ (match file.quantization with
      | none => ""
      | some q => ",\n  \"quant\": " ++ quantizationText q)
    ++ "\n\x7d"

end TensorFile

/-- The text of a tensor's file. -/
def Tensor.fileText (t : Tensor) : Except FileError String := do
  return (← TensorFile.ofTensor t).text

end OneBit
