import OneBit.Proofs.Packing
import OneBit.Proofs.SegmentProduct

/-!
# Errors that say what is so

* `TensorError.Genuine` : the two values that a mismatch reports differ;
* `TensorError.Accurate` : an error is genuine, and neither an alias nor an access out of bounds.
  The codec raises no others (`raises_pack`, `raises_unpackInto`, `raises_segmentProduct`): its
  accesses stay in range whatever it is given.

Two tensors without dimensions have equal ranks and are still refused where one dimension is needed.
This is the one mismatch that is not genuine, and only `Layout.checkUnpacked` reports it here.
-/

namespace OneBit

/-- What an error gives as expected is not what it gives as found, and an id it gives as out of
range is not below the number of segments. -/
def TensorError.Genuine : TensorError → Prop
  | .shapeMismatch expected found => expected ≠ found
  | .rankMismatch expected found => expected ≠ found
  | .arity _ expected found => expected ≠ found
  | .bufferSize expected found => expected ≠ found
  | .segmentIdOutOfRange id count => count ≤ id
  | _ => True

/-- An error about the values at hand, and not about where they are. -/
def TensorError.Accurate : TensorError → Prop
  | .aliasedTensor _ => False
  | .outOfBounds _ _ => False
  | e => e.Genuine

theorem TensorError.Accurate.genuine {e : TensorError} (h : e.Accurate) : e.Genuine := by
  cases e with
  | aliasedTensor => exact h.elim
  | outOfBounds => exact h.elim
  | _ => exact h

open TensorError (Accurate)

variable {α : Type} {kind : TensorError → Prop}

/-! ## Sizes and shapes -/

theorem raises_expectLength (expected found : Nat) :
    Raises Accurate (expectLength expected found) := by
  unfold expectLength
  split
  · exact .ok ()
  · exact .error ‹_›

theorem raises_sizeProduct (a b : Nat) : Raises Accurate (sizeProduct a b) := by
  unfold sizeProduct
  split
  · exact .ok _
  · exact .error trivial

theorem Layout.raises_packedShape (layout : Layout) (shape : Shape) :
    Raises Accurate (layout.packedShape shape) := by
  cases shape with
  | nil => exact .error Nat.one_ne_zero
  | cons d rest => exact .ok _

theorem Shape.raises_rowsCols (shape : Shape) : Raises Accurate shape.rowsCols := by
  cases shape with
  | nil => exact .error Nat.one_ne_zero
  | cons d rest => exact .ok _

/-- Ranks that are refused differ, or there are no dimensions on either side. -/
theorem kind_rankMismatch {expected found : Shape} (accurate : ∀ e, e.Accurate → kind e)
    (scalars : expected = [] → found = [] → kind (.rankMismatch 0 0))
    (h : expected = [] ∨ expected.length ≠ found.length) :
    kind (.rankMismatch expected.length found.length) := by
  by_cases hlen : expected.length = found.length
  · obtain rfl : expected = [] := h.resolve_right fun hne => hne hlen
    obtain rfl : found = [] := List.length_eq_zero_iff.1 hlen.symm
    exact scalars rfl rfl
  · exact accurate _ hlen

theorem Layout.raises_checkUnpacked (layout : Layout) {packed unpacked : Shape}
    (accurate : ∀ e, e.Accurate → kind e)
    (scalars : packed = [] → unpacked = [] → kind (.rankMismatch 0 0)) :
    Raises kind (layout.checkUnpacked packed unpacked) := by
  rw [checkUnpacked_eq]
  split_ifs with hrank heq
  · exact .error (kind_rankMismatch accurate scalars hrank)
  · exact .ok ()
  · exact .error (accurate _ heq)

/-! ## Packing and unpacking -/

theorem raises_checkSizes (rows readCols found writeCols room : Nat) :
    Raises Accurate (checkSizes rows readCols found writeCols room) := by
  refine .bind (raises_sizeProduct _ _) fun _ _ => .bind (raises_expectLength _ _) fun _ _ => ?_
  exact .bind (raises_sizeProduct _ _) fun _ _ => raises_expectLength _ _

theorem raises_packInto (layout : Layout) (bit : α → Bool) (src : List α) (rows cols : Nat)
    (buffer : List UInt32) : Raises Accurate (runOn (packInto layout bit src rows cols) buffer).1 :=
  (packInto_replaces layout bit src rows cols).raises (raises_checkSizes _ _ _ _ _)

theorem raises_pack (layout : Layout) (bit : α → Bool) (src : List α) (rows cols : Nat) :
    Raises Accurate (pack layout bit src rows cols) :=
  .bind (raises_sizeProduct _ _) fun _ _ =>
    BufferM.raises_filled (raises_packInto layout bit src rows cols _)

/-- Once the lengths have been checked, every column has its word and every bit is in it. -/
theorem raises_unpackInto (layout : Layout) (levels : Levels α) (words : List UInt32)
    (rows cols : Nat) (buffer : List α) :
    Raises Accurate (runOn (unpackInto layout levels words rows cols) buffer).1 :=
  (unpackInto_replaces layout levels words rows cols).raises (raises_checkSizes _ _ _ _ _)

theorem raises_unpack (layout : Layout) (levels : Levels α) (words : List UInt32)
    (rows cols : Nat) : Raises Accurate (unpack layout levels words rows cols) :=
  .bind (raises_sizeProduct _ _) fun _ _ =>
    BufferM.raises_filled (raises_unpackInto layout levels words rows cols _)

/-! ## Products by segment -/

/-- The number of segments can be shown as an id when an id reaches it. -/
theorem ofNat_le_of_le_toInt {id : Int32} {count : Nat} (hid : 0 ≤ id.toInt)
    (h : count ≤ id.toInt.toNat) : Int32.ofNat count ≤ id := by
  have := id.toInt_lt
  rw [Int32.le_iff_toInt_le, Int32.toInt_ofNat_of_lt (by omega)]
  omega

theorem raises_checkSegments (data : List α) (rowLength : Nat) (ids : List Int32) (count room : Nat) :
    Raises Accurate (checkSegments data rowLength ids count room) := by
  refine .bind (raises_expectLength _ _) fun _ _ => .bind (raises_expectLength _ _) fun _ _ => ?_
  rw [checkIds]
  split
  · rename_i id hid
    have hout := List.find?_some hid
    simp only [Bool.and_eq_true, decide_eq_true_eq] at hout
    exact .error (ofNat_le_of_le_toInt hout.1 hout.2)
  · exact .ok ()

/-- Once the lengths and the ids have been checked, every row has its place. -/
theorem raises_segmentProduct (factor : Factor α) (data : List α) (rowLength : Nat)
    (ids : List Int32) (count : Nat) (out : List α) :
    Raises Accurate (runOn (segmentProduct factor data rowLength ids count) out).1 :=
  (segmentProduct_replaces factor data rowLength ids count).raises (raises_checkSegments _ _ _ _ _)

end OneBit
