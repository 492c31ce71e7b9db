import OneBit.Operator.Quantize
import OneBit.Operator.Dequantize
import OneBit.Operator.UnsortedSegmentProd

/-!
# Operators

A node runs in two steps: `prepare` checks it and sizes the output where that is possible, `eval`
computes. `invoke` does both.
-/

namespace OneBit

open Ieee

inductive Operator
  /-- Packs a dense tensor; singles are compared with the threshold. -/
  | quantize (layout : Layout) (threshold : Binary32)
  /-- Reconstructs a dense tensor. -/
  | dequantize (layout : Layout)
  /-- Products of rows by segment id. -/
  | unsortedSegmentProd
deriving DecidableEq, Repr

namespace Operator

/-- The byte that names the operator. -/
def code : Operator → UInt8
  | quantize _ _ => 1
  | dequantize _ => 2
  | unsortedSegmentProd => 3

/-- The name in a graph. -/
def name : Operator → String
  | quantize _ _ => "LceQuantize"
  | dequantize _ => "LceDequantize"
  | unsortedSegmentProd => "UnsortedSegmentProd"

/-- The operators with full words and threshold zero. -/
def defaults : List Operator :=
  [quantize .full Binary32.zero, dequantize .full, unsortedSegmentProd]

def ofCode? (code : UInt8) : Option Operator :=
  defaults.find? fun op => op.code = code

def ofName? (name : String) : Option Operator :=
  defaults.find? fun op => op.name = name

def prepare (op : Operator) (node : Node) : Step Unit :=
  match op with
  | quantize layout _ => Quantize.prepare layout node
  | dequantize layout => Dequantize.prepare layout node
  | unsortedSegmentProd => UnsortedSegmentProd.prepare node

def eval (op : Operator) (node : Node) : Step Unit :=
  match op with
  | quantize layout threshold => Quantize.eval layout threshold node
  | dequantize layout => Dequantize.eval layout node
  | unsortedSegmentProd => UnsortedSegmentProd.eval node

def invoke (op : Operator) (node : Node) : Step Unit := do
  op.prepare node
  op.eval node

end Operator

end OneBit
