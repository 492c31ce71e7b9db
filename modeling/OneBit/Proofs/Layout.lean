import Mathlib.Algebra.Order.Floor.Div
import OneBit.Proofs.Shape

/-!
# Widths and packed sizes

* `Layout.ofBits_eq_ok_iff` : the widths that make a layout;
* `Layout.packedSize_eq_ceilDiv`, `Layout.lt_packedSize_iff` : the packed size rounds up, so word `k`
  exists exactly when its first element does;
* `Layout.mul_packedSize_lt` : packing never makes a matrix too large;
* `Layout.packed` : the packed shape, which has as many rows;
* `Layout.checkUnpacked_eq` : which dense shapes go with a packed shape, and why another does not;
* `Layout.checkUnpacked_inverts_packedShape` : checking a shape undoes packing it, for any number of
  dimensions and any number of words.
-/

namespace OneBit

namespace Layout

theorem ofBits_eq_ok_iff {bits : Nat} {layout : Layout} :
    ofBits bits = .ok layout ↔ layout.bits = bits := by
  constructor
  · intro h
    unfold ofBits at h
    split_ifs at h
    cases h
    rfl
  · rintro rfl
    rw [ofBits, dif_pos ⟨layout.bits_pos, layout.bits_dvd⟩]

theorem packedSize_eq_ceilDiv (layout : Layout) (n : Nat) :
    layout.packedSize n = n ⌈/⌉ layout.bits :=
  (Nat.ceilDiv_eq_add_pred_div n layout.bits).symm

@[simp] theorem packedSize_zero (layout : Layout) : layout.packedSize 0 = 0 := by
  rw [packedSize_eq_ceilDiv, zero_ceilDiv]

theorem packedSize_le_iff (layout : Layout) {n k : Nat} :
    layout.packedSize n ≤ k ↔ n ≤ k * layout.bits := by
  rw [packedSize_eq_ceilDiv, ceilDiv_le_iff_le_mul layout.bits_pos, Nat.mul_comm]

theorem lt_packedSize_iff (layout : Layout) {n k : Nat} :
    k < layout.packedSize n ↔ k * layout.bits < n := by
  rw [← Nat.not_le, packedSize_le_iff, Nat.not_le]

theorem packedSize_eq_succ_iff (layout : Layout) {n k : Nat} :
    layout.packedSize n = k + 1 ↔ k * layout.bits < n ∧ n ≤ (k + 1) * layout.bits := by
  rw [← lt_packedSize_iff, ← packedSize_le_iff, Nat.eq_iff_le_and_ge, and_comm, Nat.succ_le_iff]

theorem packedSize_le (layout : Layout) (n : Nat) : layout.packedSize n ≤ n :=
  layout.packedSize_le_iff.2 (Nat.le_mul_of_pos_right n layout.bits_pos)

theorem div_lt_packedSize (layout : Layout) {n col : Nat} (h : col < n) :
    col / layout.bits < layout.packedSize n :=
  layout.lt_packedSize_iff.2 (Nat.lt_of_le_of_lt (Nat.div_mul_le_self col layout.bits) h)

theorem packedSize_pos (layout : Layout) {n : Nat} (h : 0 < n) : 0 < layout.packedSize n :=
  layout.lt_packedSize_iff.2 (by rwa [Nat.zero_mul])

theorem mul_packedSize_lt (layout : Layout) {rows cols : Nat} (h : rows * cols < sizeLimit) :
    rows * layout.packedSize cols < sizeLimit :=
  Nat.lt_of_le_of_lt (Nat.mul_le_mul_left rows (layout.packedSize_le cols)) h

/-! ## Packed shapes -/

/-- The shape with its last dimension packed. -/
def packed (layout : Layout) (shape : Shape) : Shape :=
  shape.dropLast ++ [layout.packedSize shape.cols]

theorem packedShape_eq_ok (layout : Layout) {shape : Shape} (h : shape ≠ []) :
    layout.packedShape shape = .ok (layout.packed shape) := by
  cases shape with
  | nil => exact absurd rfl h
  | cons d rest => rw [packedShape, packed, Shape.cols_eq_getLast h]

theorem packedShape_eq_ok_iff (layout : Layout) {shape packed : Shape} :
    layout.packedShape shape = .ok packed ↔ shape ≠ [] ∧ packed = layout.packed shape := by
  by_cases h : shape = []
  · subst h
    simp [packedShape]
  · rw [layout.packedShape_eq_ok h, Except.ok.injEq]
    exact ⟨fun heq => ⟨h, heq.symm⟩, fun heq => heq.2.symm⟩

theorem packed_ne_nil (layout : Layout) (shape : Shape) : layout.packed shape ≠ [] := by
  simp [packed]

@[simp] theorem dropLast_packed (layout : Layout) (shape : Shape) :
    (layout.packed shape).dropLast = shape.dropLast := by
  simp [packed]

@[simp] theorem rows_packed (layout : Layout) (shape : Shape) :
    (layout.packed shape).rows = shape.rows := by
  rw [Shape.rows, dropLast_packed, Shape.rows]

@[simp] theorem cols_packed (layout : Layout) (shape : Shape) :
    (layout.packed shape).cols = layout.packedSize shape.cols := by
  simp [packed, Shape.cols]

theorem length_packed (layout : Layout) {shape : Shape} (h : shape ≠ []) :
    (layout.packed shape).length = shape.length := by
  have := List.length_pos_iff.2 h
  simp [packed]
  omega

theorem flatSize_packed (layout : Layout) (shape : Shape) :
    (layout.packed shape).flatSize = shape.rows * layout.packedSize shape.cols % sizeLimit := by
  rw [Shape.flatSize_eq_rows_mul_cols (layout.packed_ne_nil shape), rows_packed, cols_packed]

theorem flatSize_packed_of_fits (layout : Layout) {shape : Shape}
    (fits : shape.rows * layout.packedSize shape.cols < sizeLimit) :
    (layout.packed shape).flatSize = shape.rows * layout.packedSize shape.cols := by
  rw [flatSize_packed, Nat.mod_eq_of_lt fits]

/-- There are no more words than elements. -/
theorem rows_mul_packedSize_lt (layout : Layout) {shape : Shape} (h : shape ≠ [])
    (fits : shape.elementCount < sizeLimit) :
    shape.rows * layout.packedSize shape.cols < sizeLimit :=
  layout.mul_packedSize_lt (Shape.elementCount_eq_rows_mul_cols h fits ▸ fits)

theorem elementCount_packed_le (layout : Layout) {shape : Shape} (h : shape ≠ []) :
    (layout.packed shape).elementCount ≤ shape.elementCount := by
  conv_rhs => rw [← Shape.dropLast_concat_cols h]
  rw [packed, Shape.elementCount_append, Shape.elementCount_append]
  exact Nat.mul_le_mul_left _ (by simpa using layout.packedSize_le shape.cols)

theorem eq_packed_iff (layout : Layout) {packed unpacked : Shape} (h : packed ≠ []) :
    packed = layout.packed unpacked ↔
      packed.dropLast = unpacked.dropLast ∧ layout.packedSize unpacked.cols = packed.cols := by
  constructor
  · rintro rfl
    exact ⟨layout.dropLast_packed unpacked, (layout.cols_packed unpacked).symm⟩
  · rintro ⟨hdrop, hcols⟩
    rw [Layout.packed, ← hdrop, hcols, Shape.cols_eq_getLast h, List.dropLast_append_getLast]

/-- The last position of a shape is in range unless the shape is empty. -/
theorem elementAt_last {shape : Shape} (h : shape ≠ []) :
    elementAt shape (shape.length - 1) = .ok shape.cols := by
  have := List.length_pos_iff.2 h
  rw [elementAt_eq_ok (by omega), Shape.cols_eq_getLast h, List.getLast_eq_getElem]

theorem cutAt_last (shape : Shape) :
    cutAt shape (shape.length - 1) = .ok (shape.dropLast, shape.drop (shape.length - 1)) := by
  rw [cutAt_eq_ok (Nat.sub_le _ _), List.dropLast_eq_take]

/-- What is left once the ranks have been compared. -/
theorem ranked_of_not {packed unpacked : Shape}
    (h : ¬(packed = [] ∨ packed.length ≠ unpacked.length)) :
    packed ≠ [] ∧ unpacked ≠ [] ∧ packed.length = unpacked.length := by
  obtain ⟨hne, hlen⟩ : packed ≠ [] ∧ packed.length = unpacked.length := by simpa using h
  refine ⟨hne, ?_, hlen⟩
  rw [← List.length_pos_iff, ← hlen, List.length_pos_iff]
  exact hne

/-- A dense shape goes with its packed shape; another rank is refused first. -/
theorem checkUnpacked_eq (layout : Layout) (packed unpacked : Shape) :
    layout.checkUnpacked packed unpacked =
      if packed = [] ∨ packed.length ≠ unpacked.length then
        .error (.rankMismatch packed.length unpacked.length)
      else if packed = layout.packed unpacked then .ok ()
      else .error (.shapeMismatch packed (layout.packed unpacked)) := by
  by_cases hrank : packed = [] ∨ packed.length ≠ unpacked.length
  · rw [if_pos hrank, checkUnpacked, if_pos (by simpa using hrank)]
    rfl
  · obtain ⟨hne, hne', hlen⟩ := ranked_of_not hrank
    have hbad : (packed.dropLast != unpacked.dropLast
        || !layout.fits packed.cols unpacked.cols) = true ↔ packed ≠ layout.packed unpacked := by
      rw [ne_eq, layout.eq_packed_iff hne, Decidable.not_and_iff_not_or_not]
      simp [fits]
    have hcut : cutAt unpacked (packed.length - 1) =
        .ok (unpacked.dropLast, unpacked.drop (packed.length - 1)) := hlen ▸ cutAt_last unpacked
    have hlast : elementAt unpacked (packed.length - 1) = .ok unpacked.cols :=
      hlen ▸ elementAt_last hne'
    rw [if_neg hrank, checkUnpacked, if_neg (by simpa using hrank)]
    simp only [cutAt_last, hcut, elementAt_last hne, hlast, ok_bind, hbad,
      layout.packedShape_eq_ok hne']
    exact ite_not ..

theorem checkUnpacked_eq_ok_iff (layout : Layout) {packed unpacked : Shape} :
    layout.checkUnpacked packed unpacked = .ok () ↔
      unpacked ≠ [] ∧ packed = layout.packed unpacked := by
  rw [checkUnpacked_eq]
  constructor
  · intro h
    split_ifs at h with hrank heq
    exact ⟨(ranked_of_not hrank).2.1, heq⟩
  · rintro ⟨hne, rfl⟩
    rw [if_neg (by simp [layout.packed_ne_nil, layout.length_packed hne]), if_pos rfl]

/-- No elements take no words. Any other number of words is taken by more elements than one word
less holds, and by no more than it holds itself. The bounds are unbounded integers. -/
theorem fits_iff (layout : Layout) (words size : Nat) :
    layout.fits words size = true ↔
      if words = 0 then size = 0
      else ((words : Int) - 1) * layout.bits < size ∧ (size : Int) ≤ words * layout.bits := by
  rw [fits, decide_eq_true_iff]
  cases words with
  | zero =>
    rw [if_pos rfl, ← Nat.le_zero, packedSize_le_iff, Nat.zero_mul, Nat.le_zero]
  | succ k =>
    have hpred : ((k + 1 : Nat) : Int) - 1 = (k : Int) := by omega
    rw [if_neg (Nat.succ_ne_zero k), packedSize_eq_succ_iff, hpred, ← Int.natCast_mul,
      ← Int.natCast_mul, Int.ofNat_lt, Int.ofNat_le]

/-- A dense shape passes the check against a packed one exactly when it packs to it. The ranks are
refused when they differ or there are none; otherwise the error shows two different shapes, the
packed one and the one that the dense shape packs to. For a single dimension, the sizes that pass
are all those above what one word less holds, up to what the words hold. -/
theorem checkUnpacked_inverts_packedShape (layout : Layout) (packed unpacked : Shape) :
    let outcome := layout.checkUnpacked packed unpacked
    (outcome = .ok () ↔ layout.packedShape unpacked = .ok packed) ∧
    ((∃ expected found, outcome = .error (.rankMismatch expected found)) ↔
      packed = [] ∨ packed.length ≠ unpacked.length) ∧
    (outcome = .ok () ∨
      outcome = .error (.rankMismatch packed.length unpacked.length) ∨
      ∃ found, layout.packedShape unpacked = .ok found ∧ packed ≠ found ∧
        outcome = .error (.shapeMismatch packed found)) ∧
    ∀ words size : Nat, layout.fits words size = true ↔
      if words = 0 then size = 0
      else ((words : Int) - 1) * layout.bits < size ∧ (size : Int) ≤ words * layout.bits := by
  intro outcome
  have houtcome : outcome = _ := layout.checkUnpacked_eq packed unpacked
  refine ⟨layout.checkUnpacked_eq_ok_iff.trans layout.packedShape_eq_ok_iff.symm, ?_, ?_,
    layout.fits_iff⟩
  · rw [houtcome]
    split_ifs with hrank hshape
    · exact iff_of_true ⟨_, _, rfl⟩ hrank
    · exact iff_of_false nofun hrank
    · exact iff_of_false nofun hrank
  · rw [houtcome]
    split_ifs with hrank hshape
    · exact .inr (.inl rfl)
    · exact .inl rfl
    · have hpacked := layout.packedShape_eq_ok (ranked_of_not hrank).2.1
      exact .inr (.inr ⟨_, hpacked, hshape, rfl⟩)

/-- Three words hold 65 to 96 elements. -/
example : full.checkUnpacked [2, 3] [2, 96] = .ok () ∧
    full.checkUnpacked [2, 3] [2, 64] = .error (.shapeMismatch [2, 3] [2, 2]) := by
  decide

end Layout

end OneBit
