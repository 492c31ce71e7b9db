import OneBit.Proofs.Packing

/-!
# Calls that check every size first

* `runOn_packRowInto`, `exists_rows_of_packRows` : a row packs alone to the words it has among the
  others;
* `codec_checks_first` : packing into a buffer and unpacking into one succeed on exactly the sizes
  that match, leave the buffer alone when they fail, and else write what the calls without a buffer
  return.
-/

namespace OneBit

variable {α : Type}

/-! ## Row by row -/

/-- A row of a matrix of `cols` columns. -/
def matrixRow (cols : Nat) (src : List α) (row : Nat) : List α :=
  (src.drop (row * cols)).take cols

theorem length_matrixRow {rows cols row : Nat} {src : List α} (full : src.length = rows * cols)
    (hr : row < rows) : (matrixRow cols src row).length = cols := by
  have hend := Nat.mul_le_mul_right cols hr
  rw [Nat.succ_mul] at hend
  rw [matrixRow, List.length_take, List.length_drop]
  omega

/-- A single row packs to its words whatever the buffer held. -/
theorem runOn_packRowInto (layout : Layout) (bit : α → Bool) {row : List α} {buffer : List UInt32}
    (fits : row.length < sizeLimit) (room : buffer.length = layout.packedSize row.length) :
    runOn (packRowInto layout bit row) buffer =
      (.ok (), packRow layout bit (layout.packedSize row.length) row) := by
  have hrows : packRows layout bit row.length 1 row =
      packRow layout bit (layout.packedSize row.length) row := by
    rw [packRows_succ, packRows, firstPieces, List.map_nil, List.flatten_nil, List.append_nil,
      List.take_length]
  have hcols : 1 * row.length < sizeLimit := by
    rw [Nat.one_mul]
    exact fits
  rw [packRowInto, (packInto_replaces layout bit row 1 row.length).runOn_of_ok, hrows]
  apply checkSizes_eq_ok_iff.2
  exact ⟨⟨hcols, (Nat.one_mul _).symm⟩, layout.mul_packedSize_lt hcols, by rw [room, Nat.one_mul]⟩

/-- The words of a matrix can be cut into pieces, one for each row and the same that it packs to
alone. -/
theorem exists_rows_of_packRows (layout : Layout) (bit : α → Bool) {rows cols : Nat} {src : List α}
    (fits : rows * cols < sizeLimit) (full : src.length = rows * cols) :
    ∃ pieces : List (List UInt32), pieces.length = rows ∧
      packRows layout bit cols rows src = pieces.flatten ∧
      ∀ row piece, pieces[row]? = some piece →
        ∀ buffer : List UInt32, buffer.length = layout.packedSize cols →
          runOn (packRowInto layout bit (matrixRow cols src row)) buffer = (.ok (), piece) := by
  refine ⟨(firstPieces cols rows src).map (packRow layout bit (layout.packedSize cols)), by simp,
    rfl, fun row piece hpiece buffer hroom => ?_⟩
  have hr : row < rows := by
    have hlt := (List.getElem?_eq_some_iff.1 hpiece).1
    simpa using hlt
  have hlength := length_matrixRow full hr
  have hcols : cols ≤ rows * cols := Nat.le_mul_of_pos_left cols (Nat.zero_lt_of_lt hr)
  rw [List.getElem?_map, getElem?_firstPieces src hr, ← matrixRow, Option.map_some,
    Option.some.injEq] at hpiece
  rw [runOn_packRowInto layout bit (by omega) (by rw [hroom, hlength]), hlength, hpiece]

/-! ## The checks -/

/-- Where 64 bits count a matrix they count its words, so only the first of the two checks for
overflow ever fails. -/
theorem checkSizes_eq_overflow_iff (layout : Layout) (rows cols found room : Nat) :
    checkSizes rows cols found (layout.packedSize cols) room = .error .overflow ↔
      sizeLimit ≤ rows * cols := by
  have hlength (a b : Nat) : Raises (· ≠ .overflow) (expectLength a b) := by
    unfold expectLength
    split
    · exact .ok ()
    · exact .error nofun
  constructor
  · intro h
    apply Nat.not_lt.1
    intro fits
    have hcheck : Raises (· ≠ .overflow)
        (checkSizes rows cols found (layout.packedSize cols) room) := by
      unfold checkSizes
      rw [sizeProduct_eq_ok fits, sizeProduct_eq_ok (layout.mul_packedSize_lt fits), ok_bind,
        ok_bind]
      exact .bind (hlength _ _) fun _ _ => hlength _ _
    exact hcheck _ h rfl
  · intro h
    unfold checkSizes sizeProduct checkedMul?
    rw [if_neg (Nat.not_lt.2 h)]
    rfl

theorem runOn_packInto_eq_ok_iff (layout : Layout) (bit : α → Bool) (src : List α) (rows cols : Nat)
    (out : List UInt32) :
    (runOn (packInto layout bit src rows cols) out).1 = .ok () ↔
      rows * cols < sizeLimit ∧ src.length = rows * cols ∧
        out.length = rows * layout.packedSize cols := by
  rw [(packInto_replaces layout bit src rows cols).runOn_fst, checkSizes_eq_ok_iff, and_assoc]
  constructor
  · intro h
    exact ⟨h.1, h.2.1, h.2.2.2⟩
  · intro h
    exact ⟨h.1, h.2.1, layout.mul_packedSize_lt h.1, h.2.2⟩

theorem runOn_unpackInto_eq_ok_iff (layout : Layout) (levels : Levels α) (words : List UInt32)
    (rows cols : Nat) (out : List α) :
    (runOn (unpackInto layout levels words rows cols) out).1 = .ok () ↔
      rows * layout.packedSize cols < sizeLimit ∧ rows * cols < sizeLimit ∧
        words.length = rows * layout.packedSize cols ∧ out.length = rows * cols := by
  rw [(unpackInto_replaces layout levels words rows cols).runOn_fst, checkSizes_eq_ok_iff]
  constructor
  · intro h
    exact ⟨h.1.1, h.2.1, h.1.2, h.2.2⟩
  · intro h
    exact ⟨⟨h.1, h.2.2.1⟩, h.2.1, h.2.2.2⟩

/-- Both calls check all sizes before they touch the buffer. Packing succeeds exactly when 64 bits
count the elements, there are as many of them as the matrix has, and the buffer has room for `⌈cols
/ bits⌉` words to a row; that 64 bits count the words follows. A failure leaves the buffer as it
was. After a success nothing is left of what it held: it holds what packing without a buffer
returns, which is what each row packs to alone, row after row. Unpacking is the same with words and
elements exchanged. `bit` stands for any rule from elements to bits, with whatever threshold. -/
theorem codec_checks_first (layout : Layout) (rows cols : Nat) :
    (∀ {α : Type} (bit : α → Bool) (src : List α) (out : List UInt32),
      let after := runOn (packInto layout bit src rows cols) out
      (after.1 = .ok () ↔ rows * cols < sizeLimit ∧ src.length = rows * cols ∧
        out.length = rows * (cols ⌈/⌉ layout.bits)) ∧
      (after.1 = .error .overflow ↔ sizeLimit ≤ rows * cols) ∧
      (∀ e, after.1 = .error e → after.2 = out) ∧
      (after.1 = .ok () →
        pack layout bit src rows cols = .ok after.2 ∧
        (∀ other : List UInt32, other.length = out.length →
          runOn (packInto layout bit src rows cols) other = after) ∧
        ∃ pieces : List (List UInt32), pieces.length = rows ∧ after.2 = pieces.flatten ∧
          ∀ row piece, pieces[row]? = some piece →
            ∀ buffer : List UInt32, buffer.length = cols ⌈/⌉ layout.bits →
              runOn (packRowInto layout bit (matrixRow cols src row)) buffer = (.ok (), piece))) ∧
    (rows * cols < sizeLimit → rows * (cols ⌈/⌉ layout.bits) < sizeLimit) ∧
    (∀ {α : Type} (levels : Levels α) (words : List UInt32) (out : List α),
      let after := runOn (unpackInto layout levels words rows cols) out
      (after.1 = .ok () ↔ rows * (cols ⌈/⌉ layout.bits) < sizeLimit ∧ rows * cols < sizeLimit ∧
        words.length = rows * (cols ⌈/⌉ layout.bits) ∧ out.length = rows * cols) ∧
      (∀ e, after.1 = .error e → after.2 = out) ∧
      (after.1 = .ok () →
        unpack layout levels words rows cols = .ok after.2 ∧
        ∀ other : List α, other.length = out.length →
          runOn (unpackInto layout levels words rows cols) other = after)) := by
  rw [← layout.packedSize_eq_ceilDiv]
  refine ⟨fun bit src out => ?_, layout.mul_packedSize_lt, fun levels words out => ?_⟩
  · intro after
    have hreplaces := packInto_replaces layout bit src rows cols
    have hiff := runOn_packInto_eq_ok_iff layout bit src rows cols out
    have hoverflow : after.1 = .error .overflow ↔ sizeLimit ≤ rows * cols := by
      rw [hreplaces.runOn_fst, checkSizes_eq_overflow_iff]
    refine ⟨hiff, hoverflow, fun e he => hreplaces.runOn_snd_of_error he, fun hok => ?_⟩
    obtain ⟨fits, full, -⟩ := hiff.1 hok
    have hafter : after.2 = packRows layout bit cols rows src := hreplaces.runOn_snd_of_ok hok
    rw [hafter]
    exact ⟨pack_eq_ok layout bit fits full, fun other => hreplaces.runOn_eq_of_length hok,
      exists_rows_of_packRows layout bit fits full⟩
  · intro after
    have hreplaces := unpackInto_replaces layout levels words rows cols
    have hiff := runOn_unpackInto_eq_ok_iff layout levels words rows cols out
    refine ⟨hiff, fun e he => hreplaces.runOn_snd_of_error he, fun hok => ?_⟩
    obtain ⟨-, fits, full, -⟩ := hiff.1 hok
    have hafter : after.2 = (storedBits layout rows cols words).map levels.value :=
      hreplaces.runOn_snd_of_ok hok
    rw [hafter]
    exact ⟨unpack_eq_ok layout levels fits full, fun other => hreplaces.runOn_eq_of_length hok⟩

/-- Two rows of five flags take four words, whatever stood there, and three words are refused. -/
theorem codec_checks_first_two_rows :
    let flags := [true, true, false, false, false, true, false, true, false, false]
    let packing := packInto ⟨4, by decide, by decide⟩ Bit.ofBool flags 2 5
    let unpacking := unpackInto ⟨4, by decide, by decide⟩ Levels.bool [12, 1, 10, 1] 2 5
    (runOn packing [7, 7, 7, 7] = (.ok (), [12, 1, 10, 1]) ∧
      ∀ other : List UInt32, other.length = 4 → runOn packing other = (.ok (), [12, 1, 10, 1])) ∧
    runOn packing [7, 7, 7] = (.error (.bufferSize 4 3), [7, 7, 7]) ∧
    runOn unpacking (List.replicate 10 false) = (.ok (), flags) ∧
      ∀ other : List Bool, other.length = 10 → runOn unpacking other = (.ok (), flags) := by
  intro flags packing unpacking
  obtain ⟨hpack, -, hunpack⟩ := codec_checks_first ⟨4, by decide, by decide⟩ 2 5
  have hpacked : runOn packing [7, 7, 7, 7] = (.ok (), [12, 1, 10, 1]) := by decide
  have hunpacked : runOn unpacking (List.replicate 10 false) = (.ok (), flags) := by decide
  have hshort : (runOn packing [7, 7, 7]).1 = .error (.bufferSize 4 3) := by decide
  have hpackOther := ((hpack Bit.ofBool flags [7, 7, 7, 7]).2.2.2 (by rw [hpacked])).2.1
  have hunpackOther := ((hunpack Levels.bool [12, 1, 10, 1] (List.replicate 10 false)).2.2
    (by rw [hunpacked])).2
  refine ⟨⟨hpacked, fun other hother => ?_⟩, ?_, hunpacked, fun other hother => ?_⟩
  · exact (hpackOther other hother).trans hpacked
  · exact Prod.ext hshort ((hpack Bit.ofBool flags [7, 7, 7]).2.2.1 _ hshort)
  · exact (hunpackOther other hother).trans hunpacked

end OneBit
