import OneBit.Operator
import OneBit.Proofs.SegmentProduct
import OneBit.Proofs.Shape
import OneBit.Proofs.Update

/-!
# What a segment product writes

On any node, each step is the single update that `UnsortedSegmentProd.prepared` or
`UnsortedSegmentProd.evaluated` decides. `eval` resizes the output before it fills it; the two are one
update because the fill cannot fail any more (`runOn_writeOutput`).

* `outputShape_eq_ok_iff` : what the shape of the output asks of the inputs;
* `prepared_eq_ok_iff` : `prepare` sizes the output when all that its shape depends on is fixed;
* `evaluated_eq_ok_iff` : on an output that has the shape or is free to take it, `eval` succeeds exactly
  when there is an id for each row and room for the products (`Counted`), which it leaves there.
-/

namespace OneBit

open Ieee

theorem Tensor.int32s_eq_ok_iff {t : Tensor} {values : List Int32} :
    t.int32s = .ok values ↔ t.data = .int32 values := by
  unfold Tensor.int32s
  cases t.data <;> simp

/-- The products of elements by segment, segment after segment. -/
def TensorData.segmentCells (data : TensorData) (rowLength : Nat) (ids : List Int32) (count : Nat) :
    TensorData :=
  match data with
  | .int32 values => .int32 (OneBit.segmentCells .int32 rowLength ids values count)
  | .float32 values => .float32 (OneBit.segmentCells .float32 rowLength ids values count)
  | other => other

theorem TensorData.dtype_segmentCells (data : TensorData) (rowLength : Nat) (ids : List Int32)
    (count : Nat) : (data.segmentCells rowLength ids count).dtype = data.dtype := by
  cases data <;> rfl

theorem TensorData.length_segmentCells {data : TensorData} {rowLength : Nat} {ids : List Int32}
    {count : Nat} (h : data.dtype = .int32 ∨ data.dtype = .float32) :
    (data.segmentCells rowLength ids count).length = count * rowLength := by
  cases data with
  | int32 values => exact OneBit.length_segmentCells ..
  | float32 values => exact OneBit.length_segmentCells ..
  | _ => rcases h with h | h <;> cases h

/-- The tensor with a given shape: as it is if it has that shape, else zeros. -/
def Tensor.sizedTo (t : Tensor) (shape : Shape) : Tensor :=
  if t.shape ≠ shape then t.resize shape else t

theorem Tensor.shape_sizedTo (t : Tensor) (shape : Shape) : (t.sizedTo shape).shape = shape := by
  unfold Tensor.sizedTo
  split
  · rfl
  · exact Classical.not_not.1 ‹_›

theorem Tensor.fill_eq_ok {t : Tensor} {values : TensorData} (hdtype : t.dtype = values.dtype)
    (hlength : t.data.length = values.length) : t.fill values = .ok { t with data := values } := by
  rw [Tensor.fill, if_pos hdtype]
  exact if_pos hlength

/-- A tensor that was just resized takes any elements of its type and number. -/
theorem Tensor.fill_resize_eq_ok {t : Tensor} {shape : Shape} {values : TensorData}
    (hdtype : t.dtype = values.dtype) (hlength : values.length = shape.flatSize) :
    (t.resize shape).fill values = .ok { t.resize shape with data := values } :=
  fill_eq_ok ((dtype_resize t shape).trans hdtype)
    ((wellFormed_resize t shape).trans hlength.symm)

/-- So does any well-formed tensor that is given their shape. -/
theorem Tensor.fill_sizedTo_eq_ok {t : Tensor} {shape : Shape} {values : TensorData}
    (wf : t.WellFormed) (hdtype : t.dtype = values.dtype)
    (hlength : values.length = shape.flatSize) :
    (t.sizedTo shape).fill values = .ok { t with shape, data := values } := by
  unfold Tensor.sizedTo
  split
  · exact fill_resize_eq_ok hdtype hlength
  · rename_i hshape
    have hshape := Classical.not_not.1 hshape
    rw [fill_eq_ok hdtype (wf.trans (hshape ▸ hlength.symm)), ← hshape]

theorem Tensor.Continues.sizedTo (t : Tensor) (shape : Shape) : t.Continues (t.sizedTo shape) := by
  unfold Tensor.sizedTo
  split
  · exact .resize t shape
  · exact .refl t

namespace UnsortedSegmentProd

variable {data ids count output new : Tensor} {shape : Shape} {node : Node} {arena : Arena}
  {target : Nat}

/-! ## Ids -/

theorem max_lt_iff {a b c : Int32} : max a b < c ↔ a < c ∧ b < c := by
  show (if a ≤ b then b else a) < c ↔ a < c ∧ b < c
  simp only [Int32.lt_iff_toInt_lt, Int32.le_iff_toInt_le]
  split <;> omega

theorem foldl_max_lt_iff {ids : List Int32} {start n : Int32} :
    ids.foldl max start < n ↔ start < n ∧ ∀ id ∈ ids, id < n := by
  induction ids generalizing start with
  | nil => simp
  | cons id ids ih => rw [List.foldl_cons, ih, max_lt_iff, List.forall_mem_cons, and_assoc]

/-- Comparing the largest id with the count compares them all. -/
theorem maxId_lt_iff {ids : List Int32} {n : Int32} (hn : 0 ≤ n.toInt) :
    maxId ids < n ↔ ∀ id ∈ ids, id.toInt < n.toInt := by
  simp only [← Int32.lt_iff_toInt_lt]
  cases ids with
  | nil =>
    have hneg : (-1 : Int32) < n := by
      rw [Int32.lt_iff_toInt_lt, show (-1 : Int32).toInt = -1 from rfl]
      omega
    simp [maxId, hneg]
  | cons id ids => rw [maxId, foldl_max_lt_iff, List.forall_mem_cons]

/-! ## The shape of the output -/

/-- The first dimension is looked at only when there is one. -/
theorem isSingle_eq_ok (count : Tensor) :
    isSingle count = .ok (decide (count.shape = [] ∨ count.shape = [1])) := by
  unfold isSingle Tensor.rank Tensor.dim
  rcases count.shape with _ | ⟨d, _ | ⟨e, rest⟩⟩
  · rfl
  · simp [elementAt]
  · simp

theorem outputShape_eq (data ids count : Tensor) : outputShape data ids count = (do
    let n ← segmentCount count
    match data.shape, ids.shape with
    | rows :: rowShape, found :: _ =>
      if found ≠ rows then throw (.shapeMismatch [rows] ids.shape)
      let largest := maxId (← ids.int32s)
      if n ≤ largest then throw (.segmentIdOutOfRange largest n)
      return n.toInt.toNat :: rowShape
    | _, _ => throw (.rankMismatch 1 0)) := by
  unfold outputShape Tensor.rank Tensor.dim
  cases data.shape with
  | nil => simp
  | cons rows rowShape =>
    cases ids.shape with
    | nil => simp
    | cons found rest => simp [elementAt, cutAt]

theorem segmentCount_eq_ok_iff {n : Int32} : segmentCount count = .ok n ↔
    (count.shape = [] ∨ count.shape = [1]) ∧
      ∃ values, count.data = .int32 values ∧ values[0]? = some n ∧ 0 ≤ n.toInt := by
  have hneg (m : Int32) : ¬m < 0 ↔ 0 ≤ m.toInt := by
    rw [Int32.lt_iff_toInt_lt, Int32.toInt_zero]
    omega
  simp only [segmentCount, isSingle_eq_ok, ok_bind, guard_eq_ok_iff, bind_eq_ok_iff,
    Tensor.int32s_eq_ok_iff, elementAt_eq_ok_iff, Bool.not_eq_true', decide_eq_false_iff_not,
    Classical.not_not, hneg]
  constructor
  · rintro ⟨hshape, values, hvalues, m, hm, hpos, h⟩
    cases h
    exact ⟨hshape, values, hvalues, hm, hpos⟩
  · rintro ⟨hshape, values, hvalues, hn, hpos⟩
    exact ⟨hshape, values, hvalues, n, hn, hpos, rfl⟩

/-- What the shape of the output asks of the inputs: one number of segments, an id for each row as far
as the first dimension tells, and a segment for each id. -/
structure Shaped (data ids count : Tensor) (n : Nat) : Prop where
  count_shape : count.shape = [] ∨ count.shape = [1]
  count_value : ∃ values, count.data = .int32 values ∧ values[0]?.map Int32.toInt = some (n : Int)
  data_rank : 1 ≤ data.rank
  ids_rank : 1 ≤ ids.rank
  rows : ids.shape.head? = data.shape.head?
  ids_below : ∃ values, ids.data = .int32 values ∧ ∀ id ∈ values, id.toInt < n

theorem outputShape_eq_ok_iff : outputShape data ids count = .ok shape ↔
    ∃ n, Shaped data ids count n ∧ shape = n :: data.shape.tail := by
  simp only [outputShape_eq, bind_eq_ok_iff, segmentCount_eq_ok_iff]
  constructor
  · rintro ⟨n, ⟨hcount, values, hvalues, hn, hpos⟩, h⟩
    have hnat : (n.toInt.toNat : Int) = n.toInt := Int.toNat_of_nonneg hpos
    split at h
    · rename_i rows rowShape found rest hdata hids
      simp only [guard_eq_ok_iff, bind_eq_ok_iff, Tensor.int32s_eq_ok_iff, Int32.not_le] at h
      obtain ⟨hrows, segments, hsegments, hmax, h⟩ := h
      cases h
      refine ⟨n.toInt.toNat, ⟨hcount, ⟨values, hvalues, ?_⟩, ?_, ?_, ?_, segments, hsegments, ?_⟩, ?_⟩
      · rw [hn, hnat]
        rfl
      · rw [Tensor.rank, hdata]
        exact Nat.succ_pos _
      · rw [Tensor.rank, hids]
        exact Nat.succ_pos _
      · rw [hids, hdata, Classical.not_not.1 hrows]
        rfl
      · rw [hnat]
        exact (maxId_lt_iff hpos).1 hmax
      · rw [hdata]
        rfl
    · cases h
  · rintro ⟨n, h, rfl⟩
    obtain ⟨values, hvalues, hn⟩ := h.count_value
    obtain ⟨v, hv, hvn⟩ := Option.map_eq_some_iff.1 hn
    obtain ⟨rows, rowShape, hdata⟩ := List.exists_cons_of_length_pos h.data_rank
    obtain ⟨found, rest, hids⟩ := List.exists_cons_of_length_pos h.ids_rank
    obtain ⟨segments, hsegments, hbelow⟩ := h.ids_below
    have hrows : found = rows := by simpa [hdata, hids] using h.rows
    refine ⟨v, ⟨h.count_shape, values, hvalues, hv, by omega⟩, ?_⟩
    simp only [hdata, hids, guard_eq_ok_iff, bind_eq_ok_iff, Tensor.int32s_eq_ok_iff, Int32.not_le]
    refine ⟨fun hne => hne hrows, segments, hsegments, (maxId_lt_iff (by omega)).2 ?_, ?_⟩
    · rw [hvn]
      exact hbelow
    · rw [hvn]
      rfl

/-! ## The output as a function of the tensors -/

/-- The output that `prepare` leaves. -/
def prepared (data ids count output : Tensor) : Except TensorError Tensor := do
  if data.dtype ≠ .int32 ∧ data.dtype ≠ .float32 then throw (.unsupportedType data.dtype)
  if ids.dtype ≠ .int32 then throw (.unsupportedType ids.dtype)
  if count.dtype ≠ .int32 then throw (.unsupportedType count.dtype)
  if output.dtype ≠ data.dtype then throw (.unsupportedType output.dtype)
  if data.allocation = .dynamic ∨ ids.allocation ≠ .constant ∨ count.allocation ≠ .constant then
    return output.setDynamic
  else
    return output.resize (← outputShape data ids count)

/-- The elements of an output of the given shape. -/
def segmentProducts (data ids : Tensor) (shape : Shape) : Except TensorError TensorData := do
  let n :: _ := shape | throw (.outOfBounds 0 0)
  let _ :: rowShape := data.shape | throw (.outOfBounds 0 1)
  match data.data with
  | .int32 values =>
    return .int32 (← products .int32 values (Shape.flatSize rowShape) (← ids.int32s) n)
  | .float32 values =>
    return .float32 (← products .float32 values (Shape.flatSize rowShape) (← ids.int32s) n)
  | other => throw (.unsupportedType other.dtype)

/-- The output that `eval` leaves. -/
def evaluated (data ids count output : Tensor) : Except TensorError Tensor := do
  if output.dtype ≠ data.dtype then throw (.unsupportedType output.dtype)
  let shape ← outputShape data ids count
  if output.allocation ≠ .dynamic ∧ output.shape ≠ shape then
    throw (.shapeMismatch shape output.shape)
  let values ← segmentProducts data ids shape
  (output.sizedTo shape).fill values

theorem runOn_prepare_eq (node : Node) (arena : Arena) :
    runOn (prepare node) arena = arena.commit (node.onTernary prepared arena) := by
  refine Step.runOn_bind_eq_commit (runOn_lift _ _) fun ((first, second, third), target) _ => ?_
  refine Step.runOn_bind_eq_commit (Step.runOn_tensor_eq _ _) fun data _ => ?_
  refine Step.runOn_bind_eq_commit (Step.runOn_tensor_eq _ _) fun ids _ => ?_
  refine Step.runOn_bind_eq_commit (Step.runOn_tensor_eq _ _) fun count _ => ?_
  refine Step.runOn_bind_eq_commit (Step.runOn_tensor_eq _ _) fun output _ => ?_
  refine Step.runOn_guard_eq_put fun _ => Step.runOn_guard_eq_put fun _ => ?_
  refine Step.runOn_guard_eq_put fun _ => Step.runOn_guard_eq_put fun _ => ?_
  split
  · rfl
  · exact Step.runOn_check_eq_put fun shape _ => rfl

/-- Values of the right type and number are written whatever shape the output had. -/
theorem runOn_writeOutput {values : TensorData} (hout : arena[target]? = some output)
    (hdtype : output.dtype = values.dtype) (hlength : values.length = shape.flatSize) :
    runOn (writeOutput target shape values) arena =
      arena.put target ((output.sizedTo shape).fill values) := by
  rw [writeOutput, runOn_bind_ok (Step.runOn_tensor hout), Tensor.sizedTo]
  by_cases hshape : output.shape ≠ shape
  · have hlt := (List.getElem?_eq_some_iff.1 hout).1
    have hresized : (arena.set target (output.resize shape))[target]? =
        some (output.resize shape) := by rw [List.getElem?_set_self hlt]
    rw [if_pos hshape, if_pos hshape, runOn_bind_ok (Step.runOn_replace _ _ _),
      runOn_bind_ok (Step.runOn_tensor hresized), Tensor.fill_resize_eq_ok hdtype hlength]
    -- The elements replace the zeros, so the two updates are one.
    exact Prod.ext rfl (List.set_set ..)
  · rw [if_neg hshape, if_neg hshape, runOn_bind_ok (Step.runOn_tensor hout)]
    exact Step.runOn_bind_eq_commit (runOn_lift _ _) fun new _ => rfl

theorem products_eq_ok_iff {α : Type} {factor : Factor α} {values cells : List α} {rowLength n : Nat}
    {found : List Int32} (below : ∀ id ∈ found, id.toInt < n) :
    products factor values rowLength found n = .ok cells ↔
      (found.length * rowLength = values.length ∧ n * rowLength < sizeLimit) ∧
        cells = segmentCells factor rowLength found values n := by
  have hbelow : IdsBelow n found := fun id hid hpos => by
    have := below id hid
    omega
  simp only [products, bind_eq_ok_iff, roomFor_eq_ok_iff, filled_segmentProduct_eq_ok_iff]
  constructor
  · rintro ⟨_, ⟨fits, rfl⟩, ⟨hlength, -, -⟩, hcells⟩
    exact ⟨⟨hlength, fits⟩, hcells⟩
  · rintro ⟨⟨hlength, fits⟩, hcells⟩
    exact ⟨_, ⟨fits, rfl⟩, ⟨hlength, List.length_replicate.symm, hbelow⟩, hcells⟩

/-- There is an id for each row, and 64 bits count the elements of so many segments. -/
structure Counted (data ids : Tensor) (n : Nat) : Prop where
  rows : ids.size * Shape.flatSize data.shape.tail = data.size
  fits : n * Shape.flatSize data.shape.tail < sizeLimit

theorem counted_iff {n : Nat} : Counted data ids n ↔
    ids.size * Shape.flatSize data.shape.tail = data.size ∧
      n * Shape.flatSize data.shape.tail < sizeLimit :=
  ⟨fun h => ⟨h.rows, h.fits⟩, fun h => ⟨h.1, h.2⟩⟩

/-- The products then are as many as 64 bits count for the output. -/
theorem Counted.flatSize_cons {n : Nat} (h : Counted data ids n) :
    Shape.flatSize (n :: data.shape.tail) = n * Shape.flatSize data.shape.tail := by
  rw [Shape.flatSize_cons, Nat.mod_eq_of_lt h.fits]

/-- There are products when there is an id for each row and room for all of them. -/
theorem segmentProducts_eq_ok_iff {n : Nat} (h : Shaped data ids count n) {values : TensorData} :
    segmentProducts data ids (n :: data.shape.tail) = .ok values ↔
      (data.dtype = .int32 ∨ data.dtype = .float32) ∧ Counted data ids n ∧
        ∃ found, ids.data = .int32 found ∧
          values = data.data.segmentCells (Shape.flatSize data.shape.tail) found n := by
  obtain ⟨found, hids, hbelow⟩ := h.ids_below
  obtain ⟨rows, rowShape, hrows⟩ := List.exists_cons_of_length_pos h.data_rank
  have hfound : ids.int32s = .ok found := Tensor.int32s_eq_ok_iff.2 hids
  have hsize : ids.size = found.length := by rw [Tensor.size, hids]; rfl
  obtain ⟨_, elements, _, _⟩ := data
  cases hrows
  rw [counted_iff, hsize]
  cases elements with
  | int32 old =>
    simp [segmentProducts, hfound, bind_eq_ok_iff, products_eq_ok_iff hbelow, hids, Tensor.dtype,
      Tensor.size, TensorData.dtype, TensorData.length, TensorData.segmentCells, and_assoc,
      eq_comm (a := values)]
  | float32 old =>
    simp [segmentProducts, hfound, bind_eq_ok_iff, products_eq_ok_iff hbelow, hids, Tensor.dtype,
      Tensor.size, TensorData.dtype, TensorData.length, TensorData.segmentCells, and_assoc,
      eq_comm (a := values)]
  | _ => simp [segmentProducts, Tensor.dtype, TensorData.dtype]

/-- Products have the type of the data and the number that the shape asks for. -/
theorem segmentProducts_eq_ok (hshape : outputShape data ids count = .ok shape)
    {values : TensorData} (h : segmentProducts data ids shape = .ok values) :
    data.dtype = values.dtype ∧ values.length = shape.flatSize := by
  obtain ⟨n, hshaped, rfl⟩ := outputShape_eq_ok_iff.1 hshape
  obtain ⟨hdtype, hcounted, found, -, rfl⟩ := (segmentProducts_eq_ok_iff hshaped).1 h
  rw [hcounted.flatSize_cons]
  exact ⟨(TensorData.dtype_segmentCells ..).symm, TensorData.length_segmentCells hdtype⟩

theorem runOn_eval_eq (node : Node) (arena : Arena) :
    runOn (eval node) arena = arena.commit (node.onTernary evaluated arena) := by
  refine Step.runOn_bind_eq_commit (runOn_lift _ _) fun ((first, second, third), target) _ => ?_
  refine Step.runOn_bind_eq_commit (Step.runOn_tensor_eq _ _) fun data _ => ?_
  refine Step.runOn_bind_eq_commit (Step.runOn_tensor_eq _ _) fun ids _ => ?_
  refine Step.runOn_bind_eq_commit (Step.runOn_tensor_eq _ _) fun count _ => ?_
  refine Step.runOn_bind_eq_commit (Step.runOn_tensor_eq _ _) fun output hout => ?_
  refine Step.runOn_guard_eq_put fun hdtype => ?_
  refine Step.runOn_check_eq_put fun shape hshape => ?_
  refine Step.runOn_guard_eq_put fun _ => ?_
  have hwrite (values : TensorData) (h : segmentProducts data ids shape = .ok values) :
      runOn (writeOutput target shape values) arena =
        arena.put target ((output.sizedTo shape).fill values) := by
    obtain ⟨hvalues, hlength⟩ := segmentProducts_eq_ok hshape h
    exact runOn_writeOutput (Arena.tensor_eq_ok_iff.1 hout)
      ((Classical.not_not.1 hdtype).trans hvalues) hlength
  obtain ⟨n, hshaped, rfl⟩ := outputShape_eq_ok_iff.1 hshape
  obtain ⟨rows, rowShape, hdata⟩ := List.exists_cons_of_length_pos hshaped.data_rank
  obtain ⟨_, elements, _, _⟩ := data
  cases hdata
  cases elements with
  | int32 old =>
    simp only [segmentProducts, bind_assoc, pure_bind] at hwrite ⊢
    refine Step.runOn_check_eq_put fun found hfound => ?_
    refine Step.runOn_check_eq_put fun values hvalues => hwrite _ ?_
    simp only [hfound, hvalues, ok_bind, pure_eq_ok]
  | float32 old =>
    simp only [segmentProducts, bind_assoc, pure_bind] at hwrite ⊢
    refine Step.runOn_check_eq_put fun found hfound => ?_
    refine Step.runOn_check_eq_put fun values hvalues => hwrite _ ?_
    simp only [hfound, hvalues, ok_bind, pure_eq_ok]
  | _ => rfl

/-! ## What the output keeps, and when there is one -/

/-- The types that `prepare` asks for. -/
structure Typed (data ids count output : Tensor) : Prop where
  data_dtype : data.dtype = .int32 ∨ data.dtype = .float32
  ids_dtype : ids.dtype = .int32
  count_dtype : count.dtype = .int32
  output_dtype : output.dtype = data.dtype

/-- What the shape of the output depends on is known before evaluation. -/
structure Static (data ids count : Tensor) : Prop where
  data_fixed : data.allocation ≠ .dynamic
  ids_constant : ids.allocation = .constant
  count_constant : count.allocation = .constant

theorem not_static_iff : ¬Static data ids count ↔
    data.allocation = .dynamic ∨ ids.allocation ≠ .constant ∨ count.allocation ≠ .constant := by
  constructor
  · intro h
    by_cases hdata : data.allocation = .dynamic
    · exact .inl hdata
    · by_cases hids : ids.allocation = .constant
      · exact .inr (.inr fun hcount => h ⟨hdata, hids, hcount⟩)
      · exact .inr (.inl hids)
  · rintro (hdata | hids | hcount) h
    · exact h.data_fixed hdata
    · exact hids h.ids_constant
    · exact hcount h.count_constant

/-- `prepare` sizes the output when it can and else leaves that to `eval`. -/
theorem prepared_eq_ok_iff : prepared data ids count output = .ok new ↔
    Typed data ids count output ∧ (¬Static data ids count ∧ new = output.setDynamic ∨
      Static data ids count ∧
        ∃ shape, outputShape data ids count = .ok shape ∧ new = output.resize shape) := by
  have htyped : Typed data ids count output ↔ (data.dtype = .int32 ∨ data.dtype = .float32) ∧
      ids.dtype = .int32 ∧ count.dtype = .int32 ∧ output.dtype = data.dtype :=
    ⟨fun ⟨h₁, h₂, h₃, h₄⟩ => ⟨h₁, h₂, h₃, h₄⟩, fun ⟨h₁, h₂, h₃, h₄⟩ => ⟨h₁, h₂, h₃, h₄⟩⟩
  simp only [prepared, guard_eq_ok_iff, Decidable.not_and_iff_not_or_not, Classical.not_not,
    htyped, and_assoc]
  by_cases hstatic : Static data ids count
  · rw [if_neg fun h => not_static_iff.2 h hstatic, bind_eq_ok_iff]
    simp [hstatic, eq_comm]
  · rw [if_pos (not_static_iff.1 hstatic)]
    simp [hstatic, eq_comm]

theorem continues_of_prepared (h : prepared data ids count output = .ok new) :
    output.Continues new := by
  obtain ⟨-, ⟨-, rfl⟩ | ⟨-, shape, -, rfl⟩⟩ := prepared_eq_ok_iff.1 h
  · exact .of_eq rfl rfl
  · exact .resize output shape

theorem continues_of_evaluated (h : evaluated data ids count output = .ok new) :
    output.Continues new := by
  simp only [evaluated, guard_eq_ok_iff, bind_eq_ok_iff] at h
  obtain ⟨-, shape, -, -, values, -, hfill⟩ := h
  exact (Tensor.Continues.sizedTo output shape).trans (.fill hfill)

/-- Once its output has the right shape or is free to take it, `eval` asks for an id for each row, for
room for all products and for nothing more. -/
theorem evaluated_eq_ok_iff {n : Nat} (htyped : Typed data ids count output)
    (hshaped : Shaped data ids count n) (wf : output.WellFormed)
    (hsized : output.allocation = .dynamic ∨ output.shape = n :: data.shape.tail) :
    evaluated data ids count output = .ok new ↔
      Counted data ids n ∧ ∃ found, ids.data = .int32 found ∧ new = { output with
        shape := n :: data.shape.tail
        data := data.data.segmentCells (Shape.flatSize data.shape.tail) found n } := by
  have hcheck : ¬(output.allocation ≠ .dynamic ∧ output.shape ≠ n :: data.shape.tail) :=
    fun h => hsized.elim h.1 h.2
  have hshape := outputShape_eq_ok_iff.2 ⟨n, hshaped, rfl⟩
  have hfill (hcounted : Counted data ids n) (found : List Int32) :
      (output.sizedTo (n :: data.shape.tail)).fill
          (data.data.segmentCells (Shape.flatSize data.shape.tail) found n) =
        .ok { output with
          shape := n :: data.shape.tail
          data := data.data.segmentCells (Shape.flatSize data.shape.tail) found n } :=
    Tensor.fill_sizedTo_eq_ok wf
      (htyped.output_dtype.trans (TensorData.dtype_segmentCells ..).symm)
      ((TensorData.length_segmentCells htyped.data_dtype).trans hcounted.flatSize_cons.symm)
  simp only [evaluated, guard_eq_ok_iff, bind_eq_ok_iff, hshape, Except.ok.injEq, exists_eq_left',
    hcheck, segmentProducts_eq_ok_iff hshaped, htyped.output_dtype]
  constructor
  · rintro ⟨-, -, values, ⟨-, hcounted, found, hids, rfl⟩, h⟩
    rw [hfill hcounted] at h
    exact ⟨hcounted, found, hids, (Except.ok.inj h).symm⟩
  · rintro ⟨hcounted, found, hids, rfl⟩
    exact ⟨fun h => h rfl, not_false, _, ⟨htyped.data_dtype, hcounted, found, hids, rfl⟩,
      hfill hcounted found⟩

theorem Typed.resize (h : Typed data ids count output) (shape : Shape) :
    Typed data ids count (output.resize shape) where
  data_dtype := h.data_dtype
  ids_dtype := h.ids_dtype
  count_dtype := h.count_dtype
  output_dtype := (Tensor.dtype_resize output shape).trans h.output_dtype

/-- So it does once `prepare` has sized the output. -/
theorem evaluated_resize_iff {n : Nat} (htyped : Typed data ids count output)
    (hshaped : Shaped data ids count n) :
    (∃ new, evaluated data ids count (output.resize (n :: data.shape.tail)) = .ok new) ↔
      Counted data ids n := by
  obtain ⟨found, hids, -⟩ := hshaped.ids_below
  have wf := Tensor.wellFormed_resize output (n :: data.shape.tail)
  constructor
  · rintro ⟨new, h⟩
    exact ((evaluated_eq_ok_iff (htyped.resize _) hshaped wf (.inr rfl)).1 h).1
  · intro h
    exact ⟨_, (evaluated_eq_ok_iff (htyped.resize _) hshaped wf (.inr rfl)).2 ⟨h, found, hids, rfl⟩⟩

end UnsortedSegmentProd

end OneBit
