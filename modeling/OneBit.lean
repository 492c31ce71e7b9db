import OneBit.Main
import OneBit.Proofs.Operator.Failure
import OneBit.Proofs.Pipeline
import OneBit.Proofs.Session
import OneBit.Proofs.Error
import OneBit.Proofs.Ieee.Order
import OneBit.Proofs.Operator.Elementwise
import OneBit.Proofs.Operator.Segments
import OneBit.Proofs.Operator.Footprint
import OneBit.Proofs.Operator.Planning
import OneBit.Proofs.Crc64
import OneBit.Proofs.Container.Damage
import OneBit.Proofs.Container.Truncation
import OneBit.Proofs.Unpacking
import OneBit.Proofs.Files
import OneBit.Proofs.Repacking
import OneBit.Proofs.Ieee.Rounding
import OneBit.Proofs.Levels
import OneBit.Proofs.Json.Digits
import OneBit.Proofs.Json.Spelling
import OneBit.Proofs.Operator.Requantizing
import OneBit.Proofs.TensorFile.Rereading
import OneBit.Proofs.Packing.Checks
import OneBit.Proofs.SegmentProduct.Rows
import OneBit.Proofs.Operator.Repeating
import OneBit.Proofs.Operator.Mismatch
