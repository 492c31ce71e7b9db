import Mathlib.Data.List.Basic
import OneBit.SegmentProduct
import OneBit.Proofs.Buffer

/-!
# What rows multiply into segments

* `segmentCell` : an element of the output as the product of a column, over the rows with one id;
* `runOn_multiplyRows` : each row multiplies the columns of its segment, so all of them together
  multiply each element by its column;
* `segmentProduct_replaces` : the checks come first, and nothing is left of what the buffer held;
* `filled_segmentProduct_eq_ok_iff` : `segmentProduct` succeeds exactly when there is an id for each
  row, room for each segment, and a segment for each id that is not negative;
* `segmentProduct_checks_first` : the whole of what a call does to a buffer, error or not, with the
  products of integers and of singles written out (`MultipliesBySegment`).
-/

namespace OneBit

variable {α : Type} {factor : Factor α} {rowLength count : Nat} {ids : List Int32}
  {data out : List α}

/-- Every id that is not negative names one of `count` segments. -/
def IdsBelow (count : Nat) (ids : List Int32) : Prop :=
  ∀ id ∈ ids, 0 ≤ id.toInt → id.toInt.toNat < count

theorem find?_eq_none_iff_idsBelow :
    (ids.find? fun id => 0 ≤ id.toInt && count ≤ id.toInt.toNat) = none ↔ IdsBelow count ids := by
  simp [List.find?_eq_none, IdsBelow]

/-! ## Products by column -/

/-- The rows with a given id. -/
def rowsOf (ids : List Int32) (s : Nat) : List Nat :=
  (List.range ids.length).filter fun row => ids[row]?.map Int32.toInt = some (s : Int)

/-- The elements of a column in the rows with a given id. -/
def segmentColumn (rowLength : Nat) (ids : List Int32) (data : List α) (s col : Nat) : List α :=
  (rowsOf ids s).filterMap fun row => data[row * rowLength + col]?

/-- An element of the output: the product of its column, row by row, starting from one. -/
def segmentCell (factor : Factor α) (rowLength : Nat) (ids : List Int32) (data : List α)
    (s col : Nat) : α :=
  (segmentColumn rowLength ids data s col).foldl factor.mul factor.one

/-- The output, segment after segment. -/
def segmentCells (factor : Factor α) (rowLength : Nat) (ids : List Int32) (data : List α)
    (count : Nat) : List α :=
  (List.range (count * rowLength)).map fun k =>
    segmentCell factor rowLength ids data (k / rowLength) (k % rowLength)

theorem mem_rowsOf {s row : Nat} : row ∈ rowsOf ids s ↔ ids[row]?.map Int32.toInt = some (s : Int) := by
  rw [rowsOf, List.mem_filter, List.mem_range, decide_eq_true_iff, and_iff_right_iff_imp]
  intro h
  obtain ⟨id, hid, -⟩ := Option.map_eq_some_iff.1 h
  exact (List.getElem?_eq_some_iff.1 hid).1

theorem rowsOf_cons (id : Int32) (ids : List Int32) (s : Nat) :
    rowsOf (id :: ids) s = (if id.toInt = s then [0] else []) ++ (rowsOf ids s).map (· + 1) := by
  rw [rowsOf, List.length_cons, List.range_succ_eq_map, List.filter_cons, List.filter_map]
  simp only [List.getElem?_cons_zero, Option.map_some, Option.some.injEq, decide_eq_true_eq, rowsOf]
  split <;> rfl

theorem segmentColumn_cons (id : Int32) (ids : List Int32) (data : List α) (s col : Nat) :
    segmentColumn rowLength (id :: ids) data s col =
      (if id.toInt = s then data[col]?.toList else []) ++
        segmentColumn rowLength ids (data.drop rowLength) s col := by
  have hskip (row : Nat) : rowLength + (row * rowLength + col) = (row + 1) * rowLength + col := by
    rw [Nat.succ_mul]
    omega
  rw [segmentColumn, rowsOf_cons, List.filterMap_append, List.filterMap_map, segmentColumn]
  congr 1
  · split
    · cases h : data[col]? <;> simp [h]
    · rfl
  · simp only [List.getElem?_drop, hskip]
    rfl

/-- A segment that no row names holds ones. -/
theorem segmentCell_eq_one (factor : Factor α) (data : List α) {s : Nat} (col : Nat)
    (h : ∀ id ∈ ids, id.toInt ≠ s) : segmentCell factor rowLength ids data s col = factor.one := by
  have hrows : rowsOf ids s = [] := by
    rw [List.eq_nil_iff_forall_not_mem]
    intro row hrow
    obtain ⟨id, hid, hs⟩ := Option.map_eq_some_iff.1 (mem_rowsOf.1 hrow)
    exact h id (List.mem_of_getElem? hid) hs
  rw [segmentCell, segmentColumn, hrows]
  rfl

theorem getElem?_segmentCells (factor : Factor α) (ids : List Int32) (data : List α) {s col : Nat}
    (hs : s < count) (hcol : col < rowLength) :
    (segmentCells factor rowLength ids data count)[s * rowLength + col]? =
      some (segmentCell factor rowLength ids data s col) :=
  getElem?_rowMajor (segmentCell factor rowLength ids data) hs hcol

@[simp] theorem length_segmentCells (factor : Factor α) (ids : List Int32) (data : List α) :
    (segmentCells factor rowLength ids data count).length = count * rowLength := by
  simp [segmentCells]

/-- Every row with the id has an element in the column. -/
theorem map_some_segmentColumn (hdata : ids.length * rowLength = data.length) (s : Nat) {col : Nat}
    (hcol : col < rowLength) :
    (segmentColumn rowLength ids data s col).map some =
      (rowsOf ids s).map fun row => data[row * rowLength + col]? := by
  rw [segmentColumn, List.map_filterMap, List.filterMap_eq_map_iff_forall_eq_some]
  intro row hrow
  have hlt : row < ids.length := List.mem_range.1 (List.mem_filter.1 hrow).1
  have hend := Nat.mul_le_mul_right rowLength hlt
  rw [Nat.succ_mul] at hend
  rw [List.getElem?_eq_getElem (show row * rowLength + col < data.length by omega)]
  rfl

/-- Every element of a buffer is the product of its column over the rows with that id, taken from
`one` on, one row after the other; it is `one` where no row has the id. -/
structure HoldsSegments (one : α) (mul : α → α → α) (rowLength : Nat) (ids : List Int32)
    (data : List α) (count : Nat) (cells : List α) : Prop where
  length : cells.length = count * rowLength
  product : ∀ s < count, ∀ col < rowLength, ∃ column : List α,
    column.map some = (rowsOf ids s).map (fun row => data[row * rowLength + col]?) ∧
    cells[s * rowLength + col]? = some (column.foldl mul one)
  one : ∀ s < count, (∀ id ∈ ids, id.toInt ≠ s) → ∀ col < rowLength,
    cells[s * rowLength + col]? = some one

theorem holdsSegments_segmentCells (factor : Factor α) (count : Nat)
    (hdata : ids.length * rowLength = data.length) :
    HoldsSegments factor.one factor.mul rowLength ids data count
      (segmentCells factor rowLength ids data count) where
  length := length_segmentCells factor ids data
  product s hs col hcol :=
    ⟨segmentColumn rowLength ids data s col, map_some_segmentColumn hdata s hcol,
      getElem?_segmentCells factor ids data hs hcol⟩
  one s hs h col hcol := by
    rw [getElem?_segmentCells factor ids data hs hcol, segmentCell_eq_one factor data col h]

/-! ## Row after row -/

/-- What one row makes of the element at a position of the buffer. -/
def multiplied (factor : Factor α) (start : Nat) (row : List α) (k : Nat) (x : α) : α :=
  if start ≤ k then row[k - start]?.elim x (factor.mul x) else x

/-- The product of the elements that two rows have side by side; the rest of the first stays. -/
theorem zipWith_append_drop_eq_mapIdx (factor : Factor α) (row segment : List α) :
    List.zipWith (fun x product => factor.mul product x) row segment ++ segment.drop row.length =
      segment.mapIdx fun k x => row[k]?.elim x (factor.mul x) := by
  induction row generalizing segment with
  | nil =>
    apply List.ext_getElem?
    intro k
    rw [List.getElem?_mapIdx]
    cases h : segment[k]? <;> simp [h]
  | cons x row ih =>
    cases segment with
    | nil => rfl
    | cons y segment =>
      rw [List.mapIdx_cons, List.zipWith_cons_cons, List.length_cons, List.drop_succ_cons,
        List.cons_append, ih]
      rfl

/-- A row changes nothing of a buffer but the segment that starts at `start`. -/
theorem take_mapIdx_drop_eq_mapIdx (factor : Factor α) {start : Nat} {row : List α}
    (hrow : row.length ≤ rowLength) (room : start + rowLength ≤ out.length) :
    out.take start ++
        ((out.drop start).take rowLength).mapIdx (fun k x => row[k]?.elim x (factor.mul x)) ++
        (out.drop start).drop rowLength =
      out.mapIdx (multiplied factor start row) := by
  have htake : (out.take start).length = start := by
    rw [List.length_take]
    omega
  have hsegment : ((out.drop start).take rowLength).length = rowLength := by
    rw [List.length_take, List.length_drop]
    omega
  apply List.ext_getElem?
  intro k
  rw [List.getElem?_mapIdx, List.append_assoc]
  rcases Nat.lt_or_ge k start with hk | hk
  · rw [List.getElem?_append_left (by omega), List.getElem?_take_of_lt hk]
    cases out[k]? <;> simp [multiplied, Nat.not_le.2 hk]
  · rw [List.getElem?_append_right (by omega), htake]
    have hfrom : start + (k - start) = k := Nat.add_sub_cancel' hk
    rcases Nat.lt_or_ge (k - start) rowLength with hend | hend
    · rw [List.getElem?_append_left (by rw [List.length_mapIdx]; omega), List.getElem?_mapIdx,
        List.getElem?_take_of_lt hend, List.getElem?_drop, hfrom]
      cases out[k]? <;> simp [multiplied, hk]
    · have hrest : start + (rowLength + (k - start - rowLength)) = k := by omega
      rw [List.getElem?_append_right (by rw [List.length_mapIdx]; omega), List.length_mapIdx,
        hsegment, List.getElem?_drop, List.getElem?_drop, hrest]
      cases out[k]? <;> simp [multiplied, List.getElem?_eq_none (Nat.le_trans hrow hend)]

theorem runOn_multiplyAt (factor : Factor α) {start : Nat} {row : List α}
    (hrow : row.length ≤ rowLength) (room : start + rowLength ≤ out.length) :
    runOn (multiplyAt factor start rowLength row) out =
      (.ok (), out.mapIdx (multiplied factor start row)) := by
  have hrest : rowLength ≤ (out.drop start).length := by
    rw [List.length_drop]
    omega
  rw [multiplyAt, runOn_bind_ok (runOn_get out), cutAt_eq_ok (by omega : start ≤ out.length),
    runOn_bind_ok (runOn_lift _ _)]
  dsimp only
  rw [cutAt_eq_ok hrest, runOn_bind_ok (runOn_lift _ _)]
  dsimp only
  rw [zipUpdate_ok_eq, runOn_bind_ok (runOn_lift _ _), runOn_set, zipWith_append_drop_eq_mapIdx,
    take_mapIdx_drop_eq_mapIdx factor hrow room]

/-- Two passes over a buffer that come to a third, position by position. -/
theorem mapIdx_mapIdx_eq {f g h : Nat → α → α} {xs : List α}
    (heq : ∀ k < xs.length, ∀ x, g k (f k x) = h k x) : (xs.mapIdx f).mapIdx g = xs.mapIdx h := by
  apply List.ext_getElem?
  intro k
  rw [List.getElem?_mapIdx, List.getElem?_mapIdx, List.getElem?_mapIdx]
  rcases Nat.lt_or_ge k xs.length with hk | hk
  · rw [List.getElem?_eq_getElem hk, Option.map_some, Option.map_some, heq k hk, Option.map_some]
  · rw [List.getElem?_eq_none hk]
    rfl

/-- The row of a segment lies inside the buffer. -/
theorem segment_end_le {id : Nat} (hid : id < count) (room : out.length = count * rowLength) :
    id * rowLength + rowLength ≤ out.length := by
  rw [room, ← Nat.succ_mul]
  exact Nat.mul_le_mul_right rowLength hid

/-- A row multiplies the columns of the segment that its id names, and no others. -/
theorem multiplied_eq_foldl (factor : Factor α) {id : Int32} (data : List α) (hid : 0 ≤ id.toInt)
    (hrow : 0 < rowLength) (k : Nat) (x : α) :
    multiplied factor (id.toInt.toNat * rowLength) (data.take rowLength) k x =
      (if id.toInt = (k / rowLength : Nat) then data[k % rowLength]?.toList else []).foldl
        factor.mul x := by
  have hsplit : k / rowLength * rowLength + k % rowLength = k := Nat.div_add_mod' k rowLength
  have hcol := Nat.mod_lt k hrow
  by_cases hs : id.toInt = (k / rowLength : Nat)
  · have hstart : id.toInt.toNat * rowLength = k / rowLength * rowLength := by
      rw [hs, Int.toNat_natCast]
    rw [multiplied, if_pos hs, hstart, if_pos (by omega),
      show k - k / rowLength * rowLength = k % rowLength by omega, List.getElem?_take_of_lt hcol]
    cases data[k % rowLength]? <;> rfl
  · rw [multiplied, if_neg hs, List.foldl_nil]
    split
    · rename_i hstart
      have hlt : id.toInt.toNat < k / rowLength := by
        have := (Nat.le_div_iff_mul_le hrow).2 hstart
        omega
      have hend := Nat.mul_le_mul_right rowLength hlt
      rw [Nat.succ_mul] at hend
      rw [List.getElem?_take, if_neg (by omega)]
      rfl
    · rfl

/-- Multiplying all rows multiplies each element by its column. -/
theorem runOn_multiplyRows (factor : Factor α) (data : List α)
    (below : IdsBelow count ids) (room : out.length = count * rowLength) :
    runOn (multiplyRows factor rowLength (firstPieces rowLength ids.length data) ids) out =
      (.ok (), out.mapIdx fun k x =>
        (segmentColumn rowLength ids data (k / rowLength) (k % rowLength)).foldl factor.mul x) := by
  -- A segment that a row names lies inside the buffer, and a row leaves the length alone.
  induction ids generalizing data out with
  | nil =>
    rw [List.length_nil, firstPieces, multiplyRows, runOn_pure]
    · refine Prod.ext rfl (List.ext_getElem? fun k => ?_)
      rw [List.getElem?_mapIdx]
      cases out[k]? <;> rfl
    · rintro _ _ _ _ ⟨⟩
  | cons id ids ih =>
    have rest : IdsBelow count ids := fun i hi => below i (List.mem_cons_of_mem id hi)
    rw [List.length_cons, firstPieces, multiplyRows]
    by_cases hid : 0 ≤ id.toInt
    · have hend := segment_end_le (below id List.mem_cons_self hid) room
      have hlength := List.length_take_le rowLength data
      rw [if_pos hid, runOn_bind_ok (runOn_multiplyAt factor hlength hend),
        ih _ rest (List.length_mapIdx.trans room)]
      refine Prod.ext rfl (mapIdx_mapIdx_eq fun k hk x => ?_)
      have hrow : 0 < rowLength := Nat.pos_of_mul_pos_left (room ▸ Nat.zero_lt_of_lt hk)
      rw [segmentColumn_cons, List.foldl_append, multiplied_eq_foldl factor data hid hrow]
    · rw [if_neg hid]
      refine (ih _ rest room).trans (Prod.ext rfl (congrArg (out.mapIdx ·) ?_))
      funext k x
      have hne : id.toInt ≠ (k / rowLength : Nat) := fun h => hid (h ▸ Int.natCast_nonneg _)
      rw [segmentColumn_cons, if_neg hne, List.nil_append]

/-- Multiplying into ones gives the products of the columns. -/
theorem runOn_fillSegments (factor : Factor α) (hdata : ids.length * rowLength = data.length)
    (below : IdsBelow count ids) (room : out.length = count * rowLength) :
    runOn (fillSegments factor data rowLength ids) out =
      (.ok (), segmentCells factor rowLength ids data count) := by
  have hones : (out.map fun _ => factor.one).length = count * rowLength :=
    (List.length_map _).trans room
  rw [fillSegments, runOn_bind_ok (runOn_modify _ out)]
  by_cases hrow : rowLength = 0
  · have hnil : out = [] := List.length_eq_zero_iff.1 (by rw [room, hrow, Nat.mul_zero])
    rw [if_pos hrow, hnil, segmentCells, hrow]
    rfl
  · rw [if_neg hrow, exactPieces_eq_ok (Nat.pos_of_ne_zero hrow) hdata.symm,
      runOn_bind_ok (runOn_lift _ _), runOn_multiplyRows factor data below hones]
    refine Prod.ext rfl (List.ext_getElem? fun k => ?_)
    rw [List.getElem?_mapIdx, List.getElem?_map, segmentCells, List.getElem?_map]
    rcases Nat.lt_or_ge k (count * rowLength) with hk | hk
    · rw [List.getElem?_range hk, List.getElem?_eq_getElem (room ▸ hk)]
      rfl
    · rw [List.getElem?_eq_none (by omega), List.getElem?_eq_none (by simpa using hk)]
      rfl

/-! ## The checks, and what comes after them -/

/-- Refuses the first id that names no segment. -/
def checkIds (count : Nat) (ids : List Int32) : Except TensorError Unit :=
  match ids.find? fun id => 0 ≤ id.toInt && count ≤ id.toInt.toNat with
  | some id => .error (.segmentIdOutOfRange id (Int32.ofNat count))
  | none => .ok ()

/-- What is checked before a buffer with room for so many elements is touched. -/
def checkSegments (data : List α) (rowLength : Nat) (ids : List Int32) (count room : Nat) :
    Except TensorError Unit := do
  expectLength (ids.length * rowLength) data.length
  expectLength (count * rowLength) room
  checkIds count ids

theorem checkIds_eq_ok_iff : checkIds count ids = .ok () ↔ IdsBelow count ids := by
  rw [checkIds, ← find?_eq_none_iff_idsBelow]
  cases ids.find? fun id => 0 ≤ id.toInt && count ≤ id.toInt.toNat <;> simp

theorem checkSegments_eq_ok_iff {room : Nat} :
    checkSegments data rowLength ids count room = .ok () ↔
      ids.length * rowLength = data.length ∧ count * rowLength = room ∧ IdsBelow count ids := by
  simp only [checkSegments, bind_eq_ok_iff, expectLength_eq_ok_iff, checkIds_eq_ok_iff,
    exists_const]

theorem segmentProduct_replaces (factor : Factor α) (data : List α) (rowLength : Nat)
    (ids : List Int32) (count : Nat) :
    (segmentProduct factor data rowLength ids count).Replaces
      (checkSegments data rowLength ids count)
      (segmentCells factor rowLength ids data count) := by
  intro out
  refine BufferM.runOn_bind_eq_conclude (runOn_lift _ _) fun _ hdata => ?_
  rw [runOn_bind_ok (runOn_get out)]
  refine BufferM.runOn_bind_eq_conclude (runOn_lift _ _) fun _ hroom => ?_
  rw [checkIds]
  cases hids : ids.find? fun id => 0 ≤ id.toInt && count ≤ id.toInt.toNat with
  | some id => rfl
  | none =>
    exact runOn_fillSegments factor (expectLength_eq_ok_iff.1 hdata)
      (find?_eq_none_iff_idsBelow.1 hids) (expectLength_eq_ok_iff.1 hroom).symm

/-! ## The call as a whole -/

/-- Multiplying succeeds when there is an id for each row, room for each segment and a segment for
each id, and then nothing is left of what the buffer held. -/
theorem filled_segmentProduct_eq_ok_iff {new : List α} :
    (segmentProduct factor data rowLength ids count).filled out = .ok new ↔
      (ids.length * rowLength = data.length ∧ count * rowLength = out.length ∧
        IdsBelow count ids) ∧ new = segmentCells factor rowLength ids data count := by
  rw [(segmentProduct_replaces factor data rowLength ids count).filled_eq_ok_iff,
    checkSegments_eq_ok_iff]

/-- An id that is refused is the first that names no segment, and the number of segments, which it
reaches, is shown as it is. -/
theorem checkIds_eq_error {id n : Int32}
    (h : checkIds count ids = .error (.segmentIdOutOfRange id n)) :
    n.toInt = count ∧ (count : Int) ≤ id.toInt ∧
      ∃ before rest, ids = before ++ id :: rest ∧ IdsBelow count before := by
  rw [checkIds] at h
  split at h
  · rename_i found hfound
    cases h
    obtain ⟨hid, before, rest, hids, hbefore⟩ := List.find?_eq_some_iff_append.1 hfound
    simp only [Bool.and_eq_true, decide_eq_true_eq] at hid
    have hlt := id.toInt_lt
    refine ⟨Int32.toInt_ofNat_of_lt (by omega), by omega, before, rest, hids, fun i hi hpos => ?_⟩
    have hbelow := hbefore i hi
    simp only [Bool.not_eq_true', Bool.and_eq_false_iff, decide_eq_false_iff_not] at hbelow
    omega
  · cases h

theorem checkSegments_eq_error {room : Nat} {id n : Int32}
    (h : checkSegments data rowLength ids count room = .error (.segmentIdOutOfRange id n)) :
    checkIds count ids = .error (.segmentIdOutOfRange id n) := by
  have hlength {a b : Nat} (hne : a ≠ b) : expectLength a b = .error (.bufferSize a b) := if_neg hne
  by_cases hdata : ids.length * rowLength = data.length
  · by_cases hroom : count * rowLength = room
    · rwa [checkSegments, hdata, hroom, expectLength_self, expectLength_self, ok_bind, ok_bind] at h
    · rw [checkSegments, hdata, expectLength_self, hlength hroom] at h
      cases h
  · rw [checkSegments, hlength hdata] at h
    cases h

/-- A call on a buffer that checks all sizes and ids first and then leaves the products of rows by
segment. -/
structure MultipliesBySegment (one : α) (mul : α → α → α) (data : List α) (rowLength : Nat)
    (ids : List Int32) (count : Nat) (call : BufferM α Unit) : Prop where
  /-- There are as many elements as the ids ask for, room for each segment, and a segment for each
  id that is not negative. -/
  succeeds (out : List α) : (runOn call out).1 = .ok () ↔
    data.length = ids.length * rowLength ∧ out.length = count * rowLength ∧
      ∀ id ∈ ids, 0 ≤ id.toInt → id.toInt < count
  kept_of_error (out : List α) (e : TensorError) :
    (runOn call out).1 = .error e → (runOn call out).2 = out
  /-- The error gives the first id that names no segment, and the number of segments. -/
  first_of_outOfRange (out : List α) (id n : Int32) :
    (runOn call out).1 = .error (.segmentIdOutOfRange id n) →
      n.toInt = count ∧ (count : Int) ≤ id.toInt ∧ ∃ before rest, ids = before ++ id :: rest ∧
        ∀ i ∈ before, 0 ≤ i.toInt → i.toInt < count
  holds (out : List α) : (runOn call out).1 = .ok () →
    HoldsSegments one mul rowLength ids data count (runOn call out).2
  /-- Nothing is left of what the buffer held. -/
  independent (out other : List α) : (runOn call out).1 = .ok () → other.length = out.length →
    runOn call other = runOn call out

theorem segmentProduct_multiplies (factor : Factor α) (data : List α) (rowLength : Nat)
    (ids : List Int32) (count : Nat) :
    MultipliesBySegment factor.one factor.mul data rowLength ids count
      (segmentProduct factor data rowLength ids count) := by
  have hreplaces := segmentProduct_replaces factor data rowLength ids count
  have hbelow {ids : List Int32} :
      IdsBelow count ids ↔ ∀ id ∈ ids, 0 ≤ id.toInt → id.toInt < count := by
    refine forall_congr' fun id => forall_congr' fun _ => forall_congr' fun hpos => ?_
    omega
  constructor
  case succeeds =>
    intro out
    rw [hreplaces.runOn_fst, checkSegments_eq_ok_iff, hbelow, eq_comm,
      eq_comm (a := count * rowLength)]
  case kept_of_error =>
    intro out e he
    exact hreplaces.runOn_snd_of_error he
  case first_of_outOfRange =>
    intro out id n he
    rw [hreplaces.runOn_fst] at he
    obtain ⟨hn, hid, before, rest, hids, hbefore⟩ := checkIds_eq_error (checkSegments_eq_error he)
    exact ⟨hn, hid, before, rest, hids, hbelow.1 hbefore⟩
  case holds =>
    intro out hok
    rw [hreplaces.runOn_snd_of_ok hok]
    rw [hreplaces.runOn_fst] at hok
    exact holdsSegments_segmentCells factor count (checkSegments_eq_ok_iff.1 hok).1
  case independent =>
    intro out other hok hother
    exact hreplaces.runOn_eq_of_length hok hother

/-- Whatever the sizes and ids, the call checks them all before it touches the buffer, and an error
leaves the buffer alone. After a success every element is the product of its column over the rows
with that id, from the first row on: for integers the product in 32 bits from 1, for singles the
rounded product from 1.0. -/
theorem segmentProduct_checks_first (rowLength : Nat) (ids : List Int32) (count : Nat) :
    (∀ data : List Int32, MultipliesBySegment 1 (· * ·) data rowLength ids count
      (segmentProduct .int32 data rowLength ids count)) ∧
    (∀ data : List Ieee.Binary32,
      MultipliesBySegment Ieee.Binary32.one Ieee.Binary32.mul data rowLength ids count
        (segmentProduct .float32 data rowLength ids count)) :=
  ⟨fun data => segmentProduct_multiplies .int32 data rowLength ids count,
    fun data => segmentProduct_multiplies .float32 data rowLength ids count⟩

/-- Two rows of segment 1 and one that is left out; and an id that names no segment. The singles
2¹²⁷, 2 and 0.5 overflow in this order, and in the other they would not. -/
theorem segmentProduct_checks_first_gap :
    let call := segmentProduct Factor.int32 [2, 3, 5, 7, 11, 13] 2 [1, -4, 1] 2
    let refused := segmentProduct Factor.int32 [2, 3, 5, 7, 11, 13] 2 [0, 2, 7] 2
    let singles := segmentProduct Factor.float32 [⟨0x7F000000⟩, ⟨0x40000000⟩, ⟨0x3F000000⟩] 1
      [1, 1, 1] 2
    (runOn call [9, 9, 9, 9] = (.ok (), [1, 1, 22, 39]) ∧
      ∀ other : List Int32, other.length = 4 → runOn call other = (.ok (), [1, 1, 22, 39])) ∧
    runOn refused [9, 9, 9, 9] = (.error (.segmentIdOutOfRange 2 2), [9, 9, 9, 9]) ∧
    ∀ other : List Ieee.Binary32, other.length = 2 →
      runOn singles other = (.ok (), [⟨0x3F800000⟩, ⟨0x7F800000⟩]) := by
  intro call refused singles
  have hcall := (segmentProduct_checks_first 2 [1, -4, 1] 2).1 [2, 3, 5, 7, 11, 13]
  have hrefused := (segmentProduct_checks_first 2 [0, 2, 7] 2).1 [2, 3, 5, 7, 11, 13]
  have hsingles := (segmentProduct_checks_first 1 [1, 1, 1] 2).2
    [⟨0x7F000000⟩, ⟨0x40000000⟩, ⟨0x3F000000⟩]
  have hrun : runOn call [9, 9, 9, 9] = (.ok (), [1, 1, 22, 39]) := by decide
  have herror : (runOn refused [9, 9, 9, 9]).1 = .error (.segmentIdOutOfRange 2 2) := by decide
  have hsingle : runOn singles [⟨0⟩, ⟨0⟩] = (.ok (), [⟨0x3F800000⟩, ⟨0x7F800000⟩]) := by
    decide +kernel
  refine ⟨⟨hrun, fun other hother => ?_⟩, Prod.ext herror (hrefused.kept_of_error _ _ herror),
    fun other hother => ?_⟩
  · exact (hcall.independent [9, 9, 9, 9] other (by rw [hrun]) hother).trans hrun
  · exact (hsingles.independent [⟨0⟩, ⟨0⟩] other (by rw [hsingle]) hother).trans hsingle

end OneBit
