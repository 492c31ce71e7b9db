import Mathlib.Data.List.Perm.Basic
import OneBit.Proofs.SegmentProduct

/-!
# Products of labelled rows

A row with its id is one thing, so that rows can be moved, left out and split without a thought for
where their elements stand in the buffer.

* `LabelledRow.exists_rows` : a call whose sizes match is a call on labelled rows;
* `LabelledRow.segmentColumn_rows` : the column of a segment, row by row;
* `LabelledRow.runOn_product_rearranged` : the order of the rows does not count, nor do rows with a
  negative id, and the product of two batches is the product of their products.
-/

namespace OneBit

/-- A row of elements and the segment it is for. -/
structure LabelledRow (α : Type) (rowLength : Nat) where
  id : Int32
  values : Vector α rowLength

namespace LabelledRow

variable {α : Type} {rowLength count : Nat} {out new : List α}

/-- The ids of the rows, as a call takes them. -/
def ids (rows : List (LabelledRow α rowLength)) : List Int32 :=
  rows.map (·.id)

/-- The elements of the rows, one row after the other. -/
def elements (rows : List (LabelledRow α rowLength)) : List α :=
  rows.flatMap fun row => row.values.toList

/-- Fills the buffer with the products of the rows by segment. -/
def product (factor : Factor α) (rows : List (LabelledRow α rowLength)) (count : Nat) :
    BufferM α Unit :=
  segmentProduct factor (elements rows) rowLength (ids rows) count

/-- The rows that go into a product. -/
def kept (rows : List (LabelledRow α rowLength)) : List (LabelledRow α rowLength) :=
  rows.filter fun row => 0 ≤ row.id.toInt

@[simp] theorem ids_cons (row : LabelledRow α rowLength) (rows : List (LabelledRow α rowLength)) :
    ids (row :: rows) = row.id :: ids rows :=
  rfl

@[simp] theorem elements_cons (row : LabelledRow α rowLength)
    (rows : List (LabelledRow α rowLength)) :
    elements (row :: rows) = row.values.toList ++ elements rows :=
  rfl

theorem length_elements (rows : List (LabelledRow α rowLength)) :
    (ids rows).length * rowLength = (elements rows).length := by
  induction rows with
  | nil => exact Nat.zero_mul rowLength
  | cons row rows ih =>
    rw [ids_cons, elements_cons, List.length_cons, List.length_append, Vector.length_toList, ← ih,
      Nat.succ_mul, Nat.add_comm]

/-- Elements and ids of matching sizes are those of rows. -/
theorem exists_rows {ids : List Int32} {data : List α} (h : ids.length * rowLength = data.length) :
    ∃ rows : List (LabelledRow α rowLength), LabelledRow.ids rows = ids ∧ elements rows = data := by
  induction ids generalizing data with
  | nil =>
    rw [List.length_nil, Nat.zero_mul] at h
    exact ⟨[], rfl, (List.length_eq_zero_iff.1 h.symm).symm⟩
  | cons id ids ih =>
    rw [List.length_cons, Nat.succ_mul] at h
    have hfirst : (data.take rowLength).toArray.size = rowLength := by
      rw [List.size_toArray, List.length_take]
      omega
    obtain ⟨rows, hids, helements⟩ := ih (show _ = (data.drop rowLength).length by
      rw [List.length_drop]
      omega)
    refine ⟨⟨id, ⟨_, hfirst⟩⟩ :: rows, by rw [ids_cons, hids], ?_⟩
    rw [elements_cons, helements]
    exact List.take_append_drop rowLength data

/-! ## Columns -/

/-- What a row adds to a column of a segment. -/
def cell? (s col : Nat) (row : LabelledRow α rowLength) : Option α :=
  if row.id.toInt = s then row.values[col]? else none

theorem segmentColumn_rows (rows : List (LabelledRow α rowLength)) (s : Nat) {col : Nat}
    (hcol : col < rowLength) :
    segmentColumn rowLength (ids rows) (elements rows) s col = rows.filterMap (cell? s col) := by
  induction rows with
  | nil => rfl
  | cons row rows ih =>
    have hlength : row.values.toList.length = rowLength := Vector.length_toList
    have hfirst : (elements (row :: rows))[col]? = row.values[col]? := by
      rw [elements_cons, List.getElem?_append_left (hlength.symm ▸ hcol), Vector.getElem?_toList]
    rw [ids_cons, segmentColumn_cons, hfirst, elements_cons, List.drop_left' hlength, ih,
      List.filterMap_cons, cell?]
    split
    · cases row.values[col]? <;> rfl
    · rfl

/-- An element of the output is the product of what the rows with its id hold in its column. -/
theorem segmentCells_rows (factor : Factor α) (rows : List (LabelledRow α rowLength))
    (count : Nat) :
    segmentCells factor rowLength (ids rows) (elements rows) count =
      (List.range (count * rowLength)).map fun k =>
        (rows.filterMap (cell? (k / rowLength) (k % rowLength))).foldl factor.mul factor.one := by
  apply List.map_congr_left
  intro k hk
  have hpos : 0 < rowLength := by
    apply Nat.pos_of_ne_zero
    rintro rfl
    simp at hk
  rw [segmentCell, segmentColumn_rows rows _ (Nat.mod_lt k hpos)]

theorem runOn_product_eq_ok_iff (factor : Factor α) (rows : List (LabelledRow α rowLength)) :
    runOn (product factor rows count) out = (.ok (), new) ↔
      (count * rowLength = out.length ∧ IdsBelow count (ids rows)) ∧
        new = segmentCells factor rowLength (ids rows) (elements rows) count := by
  rw [product, (segmentProduct_replaces factor _ rowLength _ count).runOn_eq_ok_iff,
    checkSegments_eq_ok_iff, and_iff_right (length_elements rows)]

/-! ## Rows with a negative id -/

theorem cell?_eq_none {row : LabelledRow α rowLength} (h : ¬ 0 ≤ row.id.toInt) (s col : Nat) :
    cell? s col row = none := by
  rw [cell?, if_neg]
  omega

theorem filterMap_kept (rows : List (LabelledRow α rowLength)) (s col : Nat) :
    (kept rows).filterMap (cell? s col) = rows.filterMap (cell? s col) := by
  rw [kept, List.filterMap_filter]
  congr 1
  funext row
  split
  · rfl
  · rename_i h
    exact (cell?_eq_none (by simpa using h) s col).symm

theorem checkSegments_rows (rows : List (LabelledRow α rowLength)) (count room : Nat) :
    checkSegments (elements rows) rowLength (ids rows) count room =
      (expectLength (count * rowLength) room >>= fun _ => checkIds count (ids rows)) := by
  rw [checkSegments, length_elements, expectLength_self, ok_bind]

theorem checkIds_kept (rows : List (LabelledRow α rowLength)) :
    checkIds count (ids (kept rows)) = checkIds count (ids rows) := by
  have hfind : ((ids (kept rows)).find? fun id => 0 ≤ id.toInt && count ≤ id.toInt.toNat) =
      (ids rows).find? fun id => 0 ≤ id.toInt && count ≤ id.toInt.toNat := by
    rw [ids, ids, kept, List.find?_map, List.find?_map, List.find?_filter]
    congr 2
    funext row
    simp only [Function.comp_apply, Bool.and_eq_true, decide_eq_true_eq, ← and_assoc, and_self,
      Bool.decide_and]
  rw [checkIds, checkIds, hfind]

/-- Rows with a negative id make no difference, whether the call succeeds or not. -/
theorem runOn_product_kept (factor : Factor α) (rows : List (LabelledRow α rowLength)) (count : Nat)
    (out : List α) :
    runOn (product factor (kept rows) count) out = runOn (product factor rows count) out := by
  have hcells : segmentCells factor rowLength (ids (kept rows)) (elements (kept rows)) count =
      segmentCells factor rowLength (ids rows) (elements rows) count := by
    rw [segmentCells_rows, segmentCells_rows]
    simp only [filterMap_kept]
  rw [product, product, segmentProduct_replaces, segmentProduct_replaces, hcells,
    checkSegments_rows, checkSegments_rows, checkIds_kept]

/-! ## Rows in another order, rows in batches -/

theorem ids_perm {rows rows' : List (LabelledRow α rowLength)} (h : rows'.Perm rows)
    (below : IdsBelow count (ids rows)) : IdsBelow count (ids rows') :=
  fun id hid => below id ((h.map _).mem_iff.1 hid)

theorem foldl_int32 (column : List Int32) :
    column.foldl Factor.int32.mul Factor.int32.one = column.prod :=
  List.prod_eq_foldl.symm

/-- Products that wrap around do not depend on the order of the rows. -/
theorem segmentCells_perm {rows rows' : List (LabelledRow Int32 rowLength)} (h : rows'.Perm rows) :
    segmentCells .int32 rowLength (ids rows') (elements rows') count =
      segmentCells .int32 rowLength (ids rows) (elements rows) count := by
  rw [segmentCells_rows, segmentCells_rows]
  apply List.map_congr_left
  intro k _
  exact (h.filterMap _).foldl_eq (f := fun a b : Int32 => a * b) 1

theorem segmentCells_append (first second : List (LabelledRow Int32 rowLength)) :
    segmentCells .int32 rowLength (ids (first ++ second)) (elements (first ++ second)) count =
      List.zipWith (· * ·) (segmentCells .int32 rowLength (ids first) (elements first) count)
        (segmentCells .int32 rowLength (ids second) (elements second) count) := by
  rw [segmentCells_rows, segmentCells_rows, segmentCells_rows, List.zipWith_map, List.zipWith_self]
  apply List.map_congr_left
  intro k _
  rw [foldl_int32, foldl_int32, foldl_int32, List.filterMap_append, List.prod_append]

theorem idsBelow_append (first second : List (LabelledRow α rowLength)) :
    IdsBelow count (ids (first ++ second)) ↔
      IdsBelow count (ids first) ∧ IdsBelow count (ids second) := by
  rw [ids, List.map_append]
  exact List.forall_mem_append

/-- Every call that succeeds is a call on labelled rows, and what it makes of them does not depend
on how they are ordered or batched. Integer rows come to the same in every order. Rows with a
negative id can be put in and taken out anywhere, which changes no call on any kind of number,
failures included. And the call succeeds on two batches together exactly when it succeeds on each;
their product is then the product of the two outputs, element by element. -/
theorem runOn_product_rearranged (rowLength count : Nat) (out new : List Int32) :
    (∀ (ids : List Int32) (data : List Int32),
      runOn (segmentProduct .int32 data rowLength ids count) out = (.ok (), new) →
        ∃ rows : List (LabelledRow Int32 rowLength),
          LabelledRow.ids rows = ids ∧ elements rows = data) ∧
    (∀ rows rows' : List (LabelledRow Int32 rowLength), rows'.Perm rows →
      runOn (product .int32 rows count) out = (.ok (), new) →
        runOn (product .int32 rows' count) out = (.ok (), new)) ∧
    (∀ {α : Type} (factor : Factor α) (rows rows' : List (LabelledRow α rowLength)) (out : List α),
      kept rows' = kept rows →
        runOn (product factor rows' count) out = runOn (product factor rows count) out) ∧
    (∀ first second : List (LabelledRow Int32 rowLength),
      runOn (product .int32 (first ++ second) count) out = (.ok (), new) ↔
        ∃ a b : List Int32, runOn (product .int32 first count) out = (.ok (), a) ∧
          runOn (product .int32 second count) out = (.ok (), b) ∧
          new = List.zipWith (· * ·) a b) := by
  refine ⟨fun ids data hrun => ?_, fun rows rows' hperm hrun => ?_,
    fun factor rows rows' out hkept => ?_, fun first second => ?_⟩
  · have hreplaces := segmentProduct_replaces Factor.int32 data rowLength ids count
    exact exists_rows (checkSegments_eq_ok_iff.1 (hreplaces.runOn_eq_ok_iff.1 hrun).1).1
  · obtain ⟨⟨room, below⟩, hnew⟩ := (runOn_product_eq_ok_iff .int32 rows).1 hrun
    apply (runOn_product_eq_ok_iff .int32 rows').2
    exact ⟨⟨room, ids_perm hperm below⟩, hnew.trans (segmentCells_perm hperm).symm⟩
  · rw [← runOn_product_kept factor rows', hkept, runOn_product_kept]
  · simp only [runOn_product_eq_ok_iff, idsBelow_append, segmentCells_append]
    constructor
    · rintro ⟨⟨room, hfirst, hsecond⟩, hnew⟩
      exact ⟨_, _, ⟨⟨room, hfirst⟩, rfl⟩, ⟨⟨room, hsecond⟩, rfl⟩, hnew⟩
    · rintro ⟨a, b, ⟨⟨room, hfirst⟩, rfl⟩, ⟨⟨-, hsecond⟩, rfl⟩, hnew⟩
      exact ⟨⟨room, hfirst, hsecond⟩, hnew⟩

/-- Two rows of segment 1 whose product wraps around, with a row that is left out before, between
and after them. -/
theorem runOn_product_rearranged_wrapped :
    let wide : LabelledRow Int32 2 := ⟨1, #v[65536, 3]⟩
    let odd : LabelledRow Int32 2 := ⟨1, #v[65537, -5]⟩
    let skipped : LabelledRow Int32 2 := ⟨-4, #v[7, 7]⟩
    runOn (product .int32 [wide, skipped, odd] 2) [9, 9, 9, 9] = (.ok (), [1, 1, 65536, -15]) ∧
      runOn (product .int32 [odd, wide, skipped] 2) [9, 9, 9, 9] = (.ok (), [1, 1, 65536, -15]) ∧
      runOn (product .int32 [skipped, wide, odd] 2) [9, 9, 9, 9] = (.ok (), [1, 1, 65536, -15]) ∧
      ∃ a b : List Int32, runOn (product .int32 [wide] 2) [9, 9, 9, 9] = (.ok (), a) ∧
        runOn (product .int32 [skipped, odd] 2) [9, 9, 9, 9] = (.ok (), b) ∧
        [1, 1, 65536, -15] = List.zipWith (· * ·) a b := by
  intro wide odd skipped
  have hrun : runOn (product .int32 [wide, skipped, odd] 2) [9, 9, 9, 9] =
      (.ok (), [1, 1, 65536, -15]) := by decide
  obtain ⟨-, hperm, hkept, hbatch⟩ :=
    runOn_product_rearranged 2 2 [9, 9, 9, 9] [1, 1, 65536, -15]
  refine ⟨hrun, hperm _ _ ?_ hrun, ?_, (hbatch [wide] [skipped, odd]).1 hrun⟩
  · show ([odd] ++ [wide, skipped]).Perm ([wide, skipped] ++ [odd])
    exact List.perm_append_comm
  · exact (hkept .int32 [wide, skipped, odd] [skipped, wide, odd] _ rfl).trans hrun

end LabelledRow

end OneBit
