import Mathlib.Data.List.Induction
import OneBit.Layout
import OneBit.Proofs.Outcome

/-!
# How many elements a shape counts

* `Shape.elementCount` : the product of all dimensions, however large;
* `Shape.flatSize_eq_mod` : 64 bits hold what is left of it after wrapping around;
* `Shape.rowsCols_eq_ok` : the rows and columns of a shape, the rows counted in 64 bits;
* `Shape.elementCount_eq_rows_mul_cols` : where 64 bits count the elements, they fill the rows.
-/

namespace OneBit.Shape

/-- The product of all dimensions, one for a scalar. -/
def elementCount (shape : Shape) : Nat :=
  shape.foldr (· * ·) 1

@[simp] theorem elementCount_nil : elementCount [] = 1 := rfl

@[simp] theorem elementCount_cons (d : Nat) (shape : Shape) :
    elementCount (d :: shape) = d * elementCount shape := rfl

theorem elementCount_append (a b : Shape) :
    elementCount (a ++ b) = elementCount a * elementCount b := by
  induction a with
  | nil => simp
  | cons d a ih => rw [List.cons_append, elementCount_cons, ih, elementCount_cons, Nat.mul_assoc]

/-! ## Counting in 64 bits -/

theorem flatSize_concat (shape : Shape) (d : Nat) :
    flatSize (shape ++ [d]) = flatSize shape * d % sizeLimit := by
  rw [flatSize, List.foldl_append]
  rfl

/-- Wrapping around at every dimension comes to wrapping around once. -/
theorem flatSize_eq_mod (shape : Shape) : flatSize shape = elementCount shape % sizeLimit := by
  induction shape using List.reverseRecOn with
  | nil => rfl
  | append_singleton shape d ih =>
    rw [flatSize_concat, ih, elementCount_append, elementCount_cons, elementCount_nil, Nat.mul_one,
      Nat.mod_mul_mod]

theorem flatSize_eq_elementCount {shape : Shape} (fits : elementCount shape < sizeLimit) :
    flatSize shape = elementCount shape := by
  rw [flatSize_eq_mod, Nat.mod_eq_of_lt fits]

/-- So the rows of a shape do, when there is one and 64 bits count what is in all of them. -/
theorem flatSize_eq_elementCount_of_mul_lt {shape : Shape} {n : Nat} (hn : 0 < n)
    (fits : n * elementCount shape < sizeLimit) : flatSize shape = elementCount shape :=
  flatSize_eq_elementCount (Nat.lt_of_le_of_lt (Nat.le_mul_of_pos_left _ hn) fits)

theorem mul_flatSize_lt {shape : Shape} {n : Nat} (h : n * elementCount shape < sizeLimit) :
    n * flatSize shape < sizeLimit := by
  rw [flatSize_eq_mod]
  exact Nat.lt_of_le_of_lt (Nat.mul_le_mul_left n (Nat.mod_le _ _)) h

theorem flatSize_cons (d : Nat) (shape : Shape) :
    flatSize (d :: shape) = d * flatSize shape % sizeLimit := by
  rw [flatSize_eq_mod, flatSize_eq_mod, elementCount_cons, Nat.mul_mod_mod]

/-! ## Rows and columns -/

/-- The product of all dimensions but the last, in 64 bits. -/
def rows (shape : Shape) : Nat :=
  flatSize shape.dropLast

/-- The last dimension. -/
def cols (shape : Shape) : Nat :=
  shape.getLastD 0

theorem cols_eq_getLast {shape : Shape} (h : shape ≠ []) : shape.cols = shape.getLast h := by
  rw [cols, List.getLastD_eq_getLast?, List.getLast?_eq_some_getLast h]
  rfl

theorem dropLast_concat_cols {shape : Shape} (h : shape ≠ []) :
    shape.dropLast ++ [shape.cols] = shape := by
  rw [cols_eq_getLast h, List.dropLast_concat_getLast]

theorem rowsCols_eq_ok {shape : Shape} (h : shape ≠ []) :
    rowsCols shape = .ok (shape.rows, shape.cols) := by
  cases shape with
  | nil => exact absurd rfl h
  | cons d rest => rw [rowsCols, cols_eq_getLast h]; rfl

theorem flatSize_eq_rows_mul_cols {shape : Shape} (h : shape ≠ []) :
    flatSize shape = shape.rows * shape.cols % sizeLimit := by
  conv_lhs => rw [← dropLast_concat_cols h, flatSize_concat, ← rows]

/-- The elements of a shape fill its rows. -/
theorem elementCount_eq_rows_mul_cols {shape : Shape} (h : shape ≠ [])
    (fits : elementCount shape < sizeLimit) : elementCount shape = shape.rows * shape.cols := by
  have hsplit : elementCount shape = elementCount shape.dropLast * shape.cols := by
    conv_lhs => rw [← dropLast_concat_cols h, elementCount_append]
    simp
  rcases Nat.eq_zero_or_pos shape.cols with hcols | hcols
  · rw [hsplit, hcols, Nat.mul_zero, Nat.mul_zero]
  · -- Where there are columns, there are no more rows than elements.
    have hrows : elementCount shape.dropLast < sizeLimit :=
      Nat.lt_of_le_of_lt (hsplit ▸ Nat.le_mul_of_pos_right _ hcols) fits
    rw [hsplit, rows, flatSize_eq_elementCount hrows]

end OneBit.Shape
