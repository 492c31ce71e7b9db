import OneBit.Proofs.Operator.Alias

/-!
# Segment products, element by element

* `UnsortedSegmentProd.Accepts` : the tensors that a segment product takes, and the number of segments;
* `Operator.segmentProduct_spec` : the nodes it runs on, and every element of what it leaves there.

The shape of the output may be settled in the first step or in the second; nothing of what is asked for
or left depends on which.
-/

namespace OneBit

open Ieee

namespace UnsortedSegmentProd

variable {data ids count output t new : Tensor} {n : Nat}

/-- The types that `prepare` asks for, the shapes and numbers that fix the shape of the output, and an
id for each row of the data. -/
structure Accepts (data ids count output : Tensor) (n : Nat) : Prop extends
    Typed data ids count output, Shaped data ids count n where
  counted : ids.size * Shape.elementCount data.shape.tail = data.size

/-- Both steps together look at everything that is asked for. -/
theorem counted_of_evaluated (hprepared : prepared data ids count output = .ok t)
    (hevaluated : evaluated data ids count t = .ok new) :
    ∃ n, Typed data ids count output ∧ Shaped data ids count n ∧ Counted data ids n := by
  obtain ⟨htyped, -⟩ := prepared_eq_ok_iff.1 hprepared
  simp only [evaluated, guard_eq_ok_iff, bind_eq_ok_iff] at hevaluated
  obtain ⟨-, shape, hshape, -, values, hvalues, -⟩ := hevaluated
  obtain ⟨n, hshaped, rfl⟩ := outputShape_eq_ok_iff.1 hshape
  exact ⟨n, htyped, hshaped, ((segmentProducts_eq_ok_iff hshaped).1 hvalues).2.1⟩

/-- Where 64 bits count the elements, the ids are counted as the exact product of the dimensions has
it. -/
theorem Shaped.counted_iff (h : Shaped data ids count n) (wfData : data.WellFormed)
    (wfIds : ids.WellFormed) (fitsData : data.shape.elementCount < sizeLimit)
    (fits : n * Shape.elementCount data.shape.tail < sizeLimit) :
    Counted data ids n ↔ ids.size * Shape.elementCount data.shape.tail = data.size := by
  rw [UnsortedSegmentProd.counted_iff, and_iff_left (Shape.mul_flatSize_lt fits)]
  obtain ⟨rows, rowShape, hdata⟩ := List.exists_cons_of_length_pos h.data_rank
  obtain ⟨found, rest, hids⟩ := List.exists_cons_of_length_pos h.ids_rank
  obtain rfl : found = rows := by simpa [hdata, hids] using h.rows
  rw [hdata, List.tail_cons]
  rcases Nat.eq_zero_or_pos found with rfl | hrows
  · -- Without rows there are neither elements nor ids, however long a row would be.
    rw [Tensor.WellFormed, hdata, Shape.flatSize_cons, Nat.zero_mul] at wfData
    rw [Tensor.WellFormed, hids, Shape.flatSize_cons, Nat.zero_mul] at wfIds
    rw [Tensor.size, Tensor.size, wfData, wfIds]
    simp
  · rw [hdata, Shape.elementCount_cons] at fitsData
    rw [Shape.flatSize_eq_elementCount_of_mul_lt hrows fitsData]

/-- The products of rows that 64 bits count, in segments or in none. -/
theorem segmentCells_flatSize (data : TensorData) {rowShape : Shape} {found : List Int32}
    (fits : n * Shape.elementCount rowShape < sizeLimit) :
    data.segmentCells (Shape.flatSize rowShape) found n =
      data.segmentCells (Shape.elementCount rowShape) found n := by
  rcases Nat.eq_zero_or_pos n with rfl | hn
  · cases data <;> simp [TensorData.segmentCells, segmentCells]
  · rw [Shape.flatSize_eq_elementCount_of_mul_lt hn fits]

/-- On tensors that are taken both steps succeed, wherever the shape of the output is settled. -/
theorem Accepts.exists_evaluated (h : Accepts data ids count output n) (wf : output.WellFormed)
    (hcounted : Counted data ids n) :
    ∃ t new found, prepared data ids count output = .ok t ∧ evaluated data ids count t = .ok new ∧
      ids.data = .int32 found ∧ new.shape = n :: data.shape.tail ∧
      new.data = data.data.segmentCells (Shape.flatSize data.shape.tail) found n := by
  obtain ⟨found, hids, -⟩ := h.ids_below
  by_cases hstatic : Static data ids count
  · have hshape := outputShape_eq_ok_iff.2 ⟨n, h.toShaped, rfl⟩
    have hprepared := prepared_eq_ok_iff.2 ⟨h.toTyped, .inr ⟨hstatic, _, hshape, rfl⟩⟩
    have hevaluated := (evaluated_eq_ok_iff (h.toTyped.resize _) h.toShaped
      (Tensor.wellFormed_resize output _) (.inr rfl)).2 ⟨hcounted, found, hids, rfl⟩
    exact ⟨_, _, found, hprepared, hevaluated, hids, rfl, rfl⟩
  · have htyped : Typed data ids count output.setDynamic := { h.toTyped with }
    have hprepared := prepared_eq_ok_iff.2 ⟨h.toTyped, .inl ⟨hstatic, rfl⟩⟩
    have hevaluated := (evaluated_eq_ok_iff htyped h.toShaped wf (.inl rfl)).2
      ⟨hcounted, found, hids, rfl⟩
    exact ⟨_, _, found, hprepared, hevaluated, hids, rfl, rfl⟩

end UnsortedSegmentProd

namespace Operator

variable {node : Node} {arena : Arena} {target n : Nat} {data ids count output t new : Tensor}

theorem runOn_invoke_segmentProduct (hnode : node.Unaliased)
    (h : node.Gathers arena target data ids count output)
    (hprepared : UnsortedSegmentProd.prepared data ids count output = .ok t)
    (hevaluated : UnsortedSegmentProd.evaluated data ids count t = .ok new) :
    runOn (unsortedSegmentProd.invoke node) arena = (.ok (), arena.set target new) :=
  runOn_invoke_eq_ok_iff.2 ⟨target, t, new,
    Node.onTernary_eq_ok_iff.2 ⟨data, ids, count, output, h, hprepared⟩,
    Node.onTernary_eq_ok_iff.2 ⟨data, ids, count, t, h.set hnode t, hevaluated⟩, rfl⟩

/-- Both steps of a segment product that succeeds read the same inputs. -/
theorem exists_evaluated_of_invoke (hnode : node.Unaliased)
    (hok : (runOn (unsortedSegmentProd.invoke node) arena).1 = .ok ()) :
    ∃ target data ids count output t new, node.Gathers arena target data ids count output ∧
      UnsortedSegmentProd.prepared data ids count output = .ok t ∧
      UnsortedSegmentProd.evaluated data ids count t = .ok new := by
  obtain ⟨target, t, new, hprepared, hevaluated, -⟩ := runOn_invoke_eq_ok_iff.1 (Prod.ext hok rfl)
  obtain ⟨data, ids, count, output, hgathers, ht⟩ := Node.onTernary_eq_ok_iff.1 hprepared
  obtain ⟨_, _, _, _, hgathers', hnew⟩ := Node.onTernary_eq_ok_iff.1 hevaluated
  -- The second step finds the output that the first one left.
  obtain ⟨-, rfl, rfl, rfl, rfl⟩ := (hgathers.set hnode t).unique hgathers'
  exact ⟨target, _, _, _, output, _, new, hgathers, ht, hnew⟩

theorem OutputFits.mul_elementCount_lt (hfits : unsortedSegmentProd.OutputFits node arena)
    (h : node.Gathers arena target data ids count output)
    (hshaped : UnsortedSegmentProd.Shaped data ids count n) :
    n * Shape.elementCount data.shape.tail < sizeLimit :=
  hfits rfl target data ids count output _ h
    (UnsortedSegmentProd.outputShape_eq_ok_iff.2 ⟨n, hshaped, rfl⟩)

theorem OutputFits.counted_iff (hfits : unsortedSegmentProd.OutputFits node arena)
    (harena : ∀ t ∈ arena, t.WellFormed ∧ t.shape.elementCount < sizeLimit)
    (h : node.Gathers arena target data ids count output)
    (hshaped : UnsortedSegmentProd.Shaped data ids count n) :
    UnsortedSegmentProd.Counted data ids n ↔
      ids.size * Shape.elementCount data.shape.tail = data.size := by
  obtain ⟨hdata, hids, -⟩ := h.mem
  obtain ⟨wfData, fitsData⟩ := harena data hdata
  exact hshaped.counted_iff wfData (harena ids hids).1 fitsData
    (hfits.mul_elementCount_lt h hshaped)

/-- On nodes that do not write what they read, a segment product succeeds exactly when it takes the
tensors. The output has a row for each segment, and an element of it is the product of its column over
the rows with that id, in order: for integers the product in 32 bits from 1, for singles the rounded
product from 1.0. Tensors in memory have 64-bit sizes, and the output is to have one too. -/
theorem segmentProduct_spec (hnode : node.Unaliased)
    (harena : ∀ t ∈ arena, t.WellFormed ∧ t.shape.elementCount < sizeLimit)
    (hfits : unsortedSegmentProd.OutputFits node arena) :
    ((runOn (unsortedSegmentProd.invoke node) arena).1 = .ok () ↔
      ∃ target data ids count output n, node.Gathers arena target data ids count output ∧
        UnsortedSegmentProd.Accepts data ids count output n) ∧
    ∀ target data ids count output n, node.Gathers arena target data ids count output →
      UnsortedSegmentProd.Accepts data ids count output n →
      ∃ new found, runOn (unsortedSegmentProd.invoke node) arena = (.ok (), arena.set target new) ∧
        new.shape = n :: data.shape.tail ∧ ids.data = .int32 found ∧
        (∀ values, data.data = .int32 values → ∃ cells, new.data = .int32 cells ∧
          HoldsSegments 1 (· * ·) (Shape.elementCount data.shape.tail) found values n cells) ∧
        (∀ values, data.data = .float32 values → ∃ cells, new.data = .float32 cells ∧
          HoldsSegments Binary32.one Binary32.mul (Shape.elementCount data.shape.tail) found values
            n cells) := by
  have hevaluated {target n : Nat} {data ids count output : Tensor}
      (h : node.Gathers arena target data ids count output)
      (haccepts : UnsortedSegmentProd.Accepts data ids count output n) :=
    haccepts.exists_evaluated (harena output (List.mem_of_getElem? h.output_at)).1
      ((hfits.counted_iff harena h haccepts.toShaped).2 haccepts.counted)
  refine ⟨⟨fun hok => ?_, ?_⟩, ?_⟩
  · obtain ⟨target, data, ids, count, output, t, new, hgathers, ht, hnew⟩ :=
      exists_evaluated_of_invoke hnode hok
    obtain ⟨n, htyped, hshaped, hcounted⟩ := UnsortedSegmentProd.counted_of_evaluated ht hnew
    exact ⟨target, data, ids, count, output, n, hgathers, { htyped, hshaped with
      counted := (hfits.counted_iff harena hgathers hshaped).1 hcounted }⟩
  · rintro ⟨target, data, ids, count, output, n, hgathers, haccepts⟩
    obtain ⟨t, new, found, hprepared, hnew, -⟩ := hevaluated hgathers haccepts
    rw [runOn_invoke_segmentProduct hnode hgathers hprepared hnew]
  · intro target data ids count output n hgathers haccepts
    obtain ⟨t, new, found, hprepared, hnew, hids, hshape, hdata⟩ := hevaluated hgathers haccepts
    rw [UnsortedSegmentProd.segmentCells_flatSize _
      (hfits.mul_elementCount_lt hgathers haccepts.toShaped)] at hdata
    have hrows {values : TensorData} (hvalues : data.data = values) :
        found.length * Shape.elementCount data.shape.tail = values.length := by
      have hcounted := haccepts.counted
      rwa [Tensor.size, Tensor.size, hids, hvalues] at hcounted
    refine ⟨new, found, runOn_invoke_segmentProduct hnode hgathers hprepared hnew, hshape, hids,
      ?_, ?_⟩
    · intro values hvalues
      exact ⟨_, by rw [hdata, hvalues]; rfl,
        holdsSegments_segmentCells Factor.int32 n (hrows hvalues)⟩
    · intro values hvalues
      exact ⟨_, by rw [hdata, hvalues]; rfl,
        holdsSegments_segmentCells Factor.float32 n (hrows hvalues)⟩

/-- Three rows of two integers and three of one single, of which one has a negative id, two segments of
which one is empty, and outputs that have to grow. -/
def gappedArena : Arena :=
  [{ shape := [3, 2], data := .int32 [2, 3, 5, 7, 11, 13] },
    { shape := [3], data := .int32 [1, -4, 1], allocation := .constant },
    { shape := [1], data := .int32 [2], allocation := .constant },
    { shape := [], data := .int32 [0], allocation := .dynamic },
    { shape := [3, 1], data := .float32 [⟨0x3FC00000⟩, Binary32.zero, ⟨0x40200000⟩] },
    { shape := [0], data := .float32 [] }]

/-- The products of 2 and 11 and of 3 and 13, and that of 1.5 and 2.5, which is 3.75. -/
theorem segmentProduct_spec_gapped :
    (∃ new cells, runOn (unsortedSegmentProd.invoke ⟨[0, 1, 2], [3]⟩) gappedArena =
        (.ok (), gappedArena.set 3 new) ∧ new.shape = [2, 2] ∧ new.data = .int32 cells ∧
      cells[0]? = some 1 ∧ cells[2]? = some 22) ∧
    ∃ new cells, runOn (unsortedSegmentProd.invoke ⟨[4, 1, 2], [5]⟩) gappedArena =
        (.ok (), gappedArena.set 5 new) ∧ new.shape = [2, 1] ∧ new.data = .float32 cells ∧
      cells[0]? = some Binary32.one ∧ cells[1]? = some ⟨0x40700000⟩ := by
  have harena : ∀ t ∈ gappedArena, t.WellFormed ∧ t.shape.elementCount < sizeLimit := by decide
  have haccepts {data output : Tensor} (hdtype : data.dtype = .int32 ∨ data.dtype = .float32)
      (houtput : output.dtype = data.dtype) (rank : 1 ≤ data.rank)
      (rows : some 3 = data.shape.head?)
      (counted : 3 * Shape.elementCount data.shape.tail = data.size) :
      UnsortedSegmentProd.Accepts data
        { shape := [3], data := .int32 [1, -4, 1], allocation := .constant }
        { shape := [1], data := .int32 [2], allocation := .constant } output 2 :=
    { data_dtype := hdtype
      ids_dtype := rfl
      count_dtype := rfl
      output_dtype := houtput
      count_shape := .inr rfl
      count_value := ⟨[2], rfl, rfl⟩
      data_rank := rank
      ids_rank := by decide
      rows := rows
      ids_below := ⟨[1, -4, 1], rfl, by simp⟩
      counted := counted }
  constructor
  · have hfits : unsortedSegmentProd.OutputFits ⟨[0, 1, 2], [3]⟩ gappedArena :=
      .of_gathers ⟨rfl, rfl, rfl⟩ rfl (by decide)
    obtain ⟨new, found, hrun, hshape, hids, hint32, -⟩ :=
      (segmentProduct_spec (by decide) harena hfits).2 3 _ _ _ _ 2 ⟨rfl, rfl, rfl⟩
        (haccepts (.inl rfl) rfl (by decide) rfl rfl)
    cases hids
    obtain ⟨cells, hcells, hholds⟩ := hint32 _ rfl
    obtain ⟨column, hcolumn, hcell⟩ := hholds.product 1 (by decide) 0 (by decide)
    have hvalues : column.map some = [2, 11].map some := hcolumn
    rw [(Option.some_injective _).list_map hvalues] at hcell
    exact ⟨new, cells, hrun, hshape, hcells, hholds.one 0 (by decide) (by simp) 0 (by decide), hcell⟩
  · have hfits : unsortedSegmentProd.OutputFits ⟨[4, 1, 2], [5]⟩ gappedArena :=
      .of_gathers ⟨rfl, rfl, rfl⟩ rfl (by decide)
    obtain ⟨new, found, hrun, hshape, hids, -, hfloat32⟩ :=
      (segmentProduct_spec (by decide) harena hfits).2 5 _ _ _ _ 2 ⟨rfl, rfl, rfl⟩
        (haccepts (.inr rfl) rfl (by decide) rfl rfl)
    cases hids
    obtain ⟨cells, hcells, hholds⟩ := hfloat32 _ rfl
    obtain ⟨column, hcolumn, hcell⟩ := hholds.product 1 (by decide) 0 (by decide)
    have hvalues : column.map some = [⟨0x3FC00000⟩, ⟨0x40200000⟩].map some := hcolumn
    have hproduct : [⟨0x3FC00000⟩, ⟨0x40200000⟩].foldl Binary32.mul Binary32.one = ⟨0x40700000⟩ := by
      decide +kernel
    rw [(Option.some_injective _).list_map hvalues, hproduct] at hcell
    exact ⟨new, cells, hrun, hshape, hcells, hholds.one 0 (by decide) (by simp) 0 (by decide), hcell⟩

end Operator

end OneBit
