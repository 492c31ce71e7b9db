import OneBit.Proofs.Decimal.Whole
import OneBit.Proofs.Files
import OneBit.Proofs.Json.Spelling
import OneBit.Proofs.Unpacking

/-!
# Tensor files read back

The text of a file spells a JSON value, and the file is read from that value again. This holds of
numbers for which writing and reading agree: integers of which ten times as much is still exact in a
double, so bytes, and singles that are one or minus one.

* `Json.Reads` : a text, and what a function takes from the value that it spells;
* `TensorFile.reads_shape`, `reads_data`, `reads_quantization` : the parts of a file;
* `TensorFile.Plain.ofBytes?_text` : a whole file, where an empty list of booleans becomes one of
  numbers;
* `Tensor.Plain.fileText_reads` : a tensor, which stays the same even so;
* `runOn_read_runUnpack` : the file that unpacking writes when no scale is asked for.
-/

namespace OneBit

open Ieee Json

/-- The text spells a value from which `read` takes `a`. -/
def Json.Reads {α : Type} (text : String) (read : Json.Value → Option α) (a : α) : Prop :=
  ∃ v, Spells (Bytes.ofText text) v ∧ read v = some a

namespace FileData

/-- Each number is that of an integer, small enough to be read without rounding. -/
def Whole : FileData → Prop
  | .numbers values => ∀ x ∈ values, ∃ z : Int, 10 * z.natAbs < 2 ^ 53 ∧ x = Binary64.ofInt z
  | .flags _ => True

/-- The data that is read back: an empty list counts as numbers. -/
def reread : FileData → FileData
  | .flags [] => .numbers []
  | data => data

end FileData

namespace TensorFile

variable {α β : Type}

/-! ## Lists -/

/-- The start of a line: two blanks for a field, four for what is inside a field. -/
def indent (width : Nat) : Bytes :=
  0x0A :: List.replicate width 0x20

theorem isBlank_of_mem_indent (width : Nat) : ∀ b ∈ indent width, isBlank b := by
  simp [indent, isBlank]

section Lists

variable {read : Json.Value → Option β} {write : α → String} {a : α → β}

/-- The lines of a list after its opening bracket. -/
theorem exists_spellsItems (x : α) (xs : List α) (h : ∀ y ∈ x :: xs, Reads (write y) read (a y)) :
    ∃ vs, SpellsItems (indent 4 ++
        Bytes.ofText (String.intercalate ",\n    " ((x :: xs).map write) ++ "\n  ]")) vs ∧
      vs.mapM read = some ((x :: xs).map a) := by
  induction xs generalizing x with
  | nil =>
    obtain ⟨v, hv, hread⟩ := h x List.mem_cons_self
    refine ⟨[v], ?_, by simp [hread]⟩
    have hclose : Bytes.ofText "\n  ]" = indent 2 ++ [closeBracket] := rfl
    rw [List.map_singleton, String.intercalate_singleton, Bytes.ofText_append, hclose,
      ← List.append_assoc, ← List.append_assoc]
    exact .single (hv.after_blanks (isBlank_of_mem_indent 4)) (isBlank_of_mem_indent 2)
  | cons y ys ih =>
    obtain ⟨v, hv, hread⟩ := h x List.mem_cons_self
    obtain ⟨vs, hvs, hreads⟩ := ih y fun z hz => h z (List.mem_cons_of_mem x hz)
    refine ⟨v :: vs, ?_, by rw [List.mapM_cons, hread, hreads]; rfl⟩
    have hcomma : Bytes.ofText ",\n    " = comma :: indent 4 := rfl
    have hitems := SpellsItems.cons (hv.after_blanks (isBlank_of_mem_indent 4)) hvs
    simp only [List.map_cons, String.intercalate_cons_cons, Bytes.ofText_append, hcomma,
      List.append_assoc, List.cons_append] at hitems ⊢
    exact hitems

theorem exists_spells_listText {xs : List α} (h : ∀ x ∈ xs, Reads (write x) read (a x)) :
    ∃ vs, Spells (Bytes.ofText (listText (xs.map write))) (.array vs) ∧
      vs.mapM read = some (xs.map a) := by
  cases xs with
  | nil =>
    have hnil : Bytes.ofText "[]" = [openBracket, closeBracket] := rfl
    exact ⟨[], hnil ▸ .array_nil, rfl⟩
  | cons x xs =>
    obtain ⟨vs, hvs, hread⟩ := exists_spellsItems x xs h
    refine ⟨vs, ?_, hread⟩
    have hopen : Bytes.ofText "[\n    " = openBracket :: indent 4 := rfl
    rw [listText, List.map_cons, List.isEmpty_cons, if_neg Bool.false_ne_true, String.append_assoc,
      Bytes.ofText_append, hopen]
    exact .array hvs

end Lists

/-! ## The shape -/

theorem reads_size {d : Nat} (h : d < sizeLimit) : Reads (toString d) size? d := by
  have hnumber : number? (.number (Literal.ofInt d)) = some (.natural d) := number?_natCast h
  refine ⟨_, Spells.int d, ?_⟩
  rw [size?, hnumber]

theorem reads_shape {shape : Shape} (h : ∀ d ∈ shape, d < sizeLimit) :
    Reads (listText (shape.map toString)) shape? shape := by
  obtain ⟨vs, hvs, hread⟩ := exists_spells_listText fun d hd => reads_size (h d hd)
  exact ⟨_, hvs, by rwa [List.map_id'] at hread⟩

/-! ## Integers as doubles -/

section Integers

variable {z : Int} (h : 10 * z.natAbs < 2 ^ 53)
include h

/-- An integer has too few digits for an exponent. -/
theorem write_ofInt : doubleStyle.write Binary64.format (Binary64.ofInt z).value =
    toString z ++ ".0" := by
  obtain ⟨p, hvalue⟩ := Binary64.exists_value_ofInt (z := z) (by omega)
  have hlength : (toString z.natAbs).length ≤ 16 := by
    rw [Nat.toString_eq_ofList_toDigits, String.length_ofList,
      Nat.length_toDigits_le_iff (by decide) (by decide)]
    omega
  have hplain : doubleStyle.isPlain ((toString z.natAbs).length - 1) = true := by
    simp only [doubleStyle, Bool.and_eq_true, decide_eq_true_eq]
    omega
  rw [hvalue, Decimal.Style.write_whole _ _ (by omega) hplain, toString_int, String.append_assoc]
  simp only [decide_eq_true_eq]
  rfl

theorem reads_integer : Reads (doubleStyle.write Binary64.format (Binary64.ofInt z).value)
    Json.number? (.double (Binary64.ofInt z)) := by
  rw [write_ofInt h]
  exact ⟨_, Spells.whole z, number?_ofWhole h⟩

end Integers

theorem natAbs_lt_of_int8 (x : Int8) : 10 * x.toInt.natAbs < 2 ^ 53 := by
  have hlo := x.le_toInt
  have hhi := x.toInt_lt
  omega

theorem int8_ofInt (x : Int8) : int8 (Binary64.ofInt x.toInt) = .ok x := by
  have hlo := x.le_toInt
  have hhi := x.toInt_lt
  simp only [int8, Binary64.toInt?_ofInt (z := x.toInt) (by omega), Int8.ofInt_toInt]
  exact if_pos ⟨by omega, by omega⟩

/-! ## The data -/

/-- A list of booleans is not one of numbers, unless it is empty. -/
theorem data?_array_of_bools {items : List Json.Value} {flags : List Bool}
    (h : items.mapM bool? = some flags) :
    data? (.array items) = some (FileData.flags flags).reread := by
  cases items with
  | nil =>
    cases h
    rfl
  | cons v items =>
    have hflags := h
    rw [List.mapM_cons] at h
    obtain ⟨b, hb, h⟩ := Option.bind_eq_some_iff.1 h
    obtain ⟨more, -, h⟩ := Option.bind_eq_some_iff.1 h
    cases h
    cases v with
    | bool _ => simp [data?, List.mapM_cons, Json.number?, hflags, FileData.reread]
    | _ => simp [bool?] at hb

theorem reads_data {data : FileData} (h : data.Whole) :
    Reads (listText (dataItems data)) data? data.reread := by
  cases data with
  | numbers values =>
    have hitems : ∀ x ∈ values, Reads (doubleStyle.write Binary64.format x.value) Json.number?
        (.double x) := by
      intro x hx
      obtain ⟨z, hz, rfl⟩ := h x hx
      exact reads_integer hz
    obtain ⟨vs, hvs, hread⟩ := exists_spells_listText hitems
    have htoDouble : Number.toDouble ∘ Number.double = id := rfl
    refine ⟨_, hvs, ?_⟩
    simp only [data?, hread, List.map_map, htoDouble, List.map_id, FileData.reread]
  | flags flags =>
    have hitems : ∀ b ∈ flags, Reads (if b then "true" else "false") bool? (id b) :=
      fun b _ => ⟨_, Spells.bool b, rfl⟩
    obtain ⟨vs, hvs, hread⟩ := exists_spells_listText hitems
    rw [List.map_id] at hread
    exact ⟨_, hvs, data?_array_of_bools hread⟩

/-! ## The fields of objects -/

theorem namedMembers?_pieces {fields : List (String × Json.Value)}
    (h : ∀ field ∈ fields, PlainText field.1) :
    namedMembers? (fields.map fun field => (pieces field.1, field.2)) = some fields := by
  induction fields with
  | nil => rfl
  | cons field fields ih =>
    have hfields := ih fun f hf => h f (List.mem_cons_of_mem field hf)
    have hname := (h field List.mem_cons_self).text?_pieces
    unfold namedMembers? at hfields ⊢
    simp only [List.map_cons, List.mapM_cons, hname, hfields]
    rfl

theorem fields?_object (names : List String) (fields : List (String × Json.Value))
    (h : ∀ field ∈ fields, PlainText field.1) :
    fields? names (.object (fields.map fun field => (pieces field.1, field.2))) =
      names.mapM fun name => member? name fields := by
  show (namedMembers? _).bind _ = _
  rw [namedMembers?_pieces h]
  rfl

/-! ## The parameters -/

theorem reads_scale : Reads (singleStyle.write Binary32.format Binary32.one.value)
    (fun v => (Json.number? v).map Number.toSingle) .one := by
  have hwrite : singleStyle.write Binary32.format Binary32.one.value =
      toString (1 : Int) ++ ".0" := by decide +kernel
  have hsingle : (Binary64.ofInt 1).toBinary32 = .one := by decide +kernel
  have hread : (Literal.ofWhole 1).number? = some (.double (Binary64.ofInt 1)) :=
    number?_ofWhole (by decide)
  rw [hwrite]
  refine ⟨_, Spells.whole 1, ?_⟩
  show (Literal.ofWhole 1).number?.map Number.toSingle = _
  rw [hread, Option.map_some, Number.toSingle, hsingle]

theorem reads_zeroPoint (z : Int32) : Reads (toString z.toInt) int32? z := by
  have hlo := z.le_toInt
  have hhi := z.toInt_lt
  have hread : (Literal.ofInt z.toInt).number?.bind Number.toInt? = some z.toInt :=
    toInt?_ofInt (by omega) (by unfold sizeLimit; omega)
  obtain ⟨n, hn, hint⟩ := Option.bind_eq_some_iff.1 hread
  have hrange : -2147483648 ≤ z.toInt ∧ z.toInt ≤ 2147483647 := by omega
  refine ⟨_, Spells.int z.toInt, ?_⟩
  simp only [int32?, Json.number?, hn, hint, Option.bind_eq_bind, Option.bind_some, if_pos hrange,
    Int32.ofInt_toInt]

theorem ofText_quantizationText (q : Quantization) : Bytes.ofText (quantizationText q) =
    openBrace :: (member (indent 4) "scale"
        (Bytes.ofText (singleStyle.write Binary32.format q.scale.value)) ++
      comma :: (member (indent 4) "zero_point" (Bytes.ofText (toString q.zeroPoint.toInt)) ++
        indent 2 ++ [closeBrace])) := by
  have hscale : Bytes.ofText "\x7b\n    \"scale\": " = openBrace :: (indent 4 ++
      quote :: (Bytes.ofText "scale" ++ quote :: colon :: [0x20])) := rfl
  have hzeroPoint : Bytes.ofText ",\n    \"zero_point\": " = comma :: (indent 4 ++
      quote :: (Bytes.ofText "zero_point" ++ quote :: colon :: [0x20])) := rfl
  have hclose : Bytes.ofText "\n  \x7d" = indent 2 ++ [closeBrace] := rfl
  unfold quantizationText
  simp only [Bytes.ofText_append]
  rw [hscale, hzeroPoint, hclose]
  simp only [member, List.append_assoc, List.cons_append, List.nil_append]

theorem reads_quantization {q : Quantization} (h : q.scale = .one) :
    Reads (quantizationText q) quantization? q := by
  obtain ⟨scale, hscale, hreadScale⟩ := reads_scale
  obtain ⟨zeroPoint, hzeroPoint, hreadZeroPoint⟩ := reads_zeroPoint q.zeroPoint
  obtain ⟨number, hnumber, hsingle⟩ := Option.map_eq_some_iff.1 hreadScale
  have hscaleKey : PlainText "scale" := by simp [PlainText]
  have hzeroPointKey : PlainText "zero_point" := by simp [PlainText]
  have hindent := isBlank_of_mem_indent 4
  have hmembers := SpellsMembers.cons hindent hscaleKey hscale
    (.single hindent hzeroPointKey hzeroPoint (isBlank_of_mem_indent 2))
  rw [← h] at hmembers
  refine ⟨_, by rw [ofText_quantizationText]; exact .object hmembers, ?_⟩
  have hfields : fields? ["scale", "zero_point"]
      (.object [(pieces "scale", scale), (pieces "zero_point", zeroPoint)]) =
        some [some scale, some zeroPoint] :=
    fields?_object _ [("scale", _), ("zero_point", _)] (by simp [hscaleKey, hzeroPointKey])
  simp only [quantization?, hfields, hnumber, hreadZeroPoint, Option.bind_eq_bind,
    Option.bind_some, hsingle, ← h]
  rfl

/-! ## The whole text -/

theorem ofText_text (file : TensorFile) : Bytes.ofText file.text =
    openBrace :: (member (indent 2) "dtype" (quote :: (Bytes.ofText file.dtype.name ++ [quote])) ++
      comma :: (member (indent 2) "shape" (Bytes.ofText (listText (file.shape.map toString))) ++
      comma :: (member (indent 2) "data" (Bytes.ofText (listText (dataItems file.data))) ++
      match file.quantization with
      | none => indent 0 ++ [closeBrace]
      | some q => comma :: (member (indent 2) "quant" (Bytes.ofText (quantizationText q)) ++
          indent 0 ++ [closeBrace])))) := by
  have hdtype : Bytes.ofText "\x7b\n  \"dtype\": \"" = openBrace :: (indent 2 ++
      quote :: (Bytes.ofText "dtype" ++ quote :: colon :: 0x20 :: [quote])) := rfl
  have hshape : Bytes.ofText "\",\n  \"shape\": " = quote :: comma :: (indent 2 ++
      quote :: (Bytes.ofText "shape" ++ quote :: colon :: [0x20])) := rfl
  have hdata : Bytes.ofText ",\n  \"data\": " = comma :: (indent 2 ++
      quote :: (Bytes.ofText "data" ++ quote :: colon :: [0x20])) := rfl
  have hquant : Bytes.ofText ",\n  \"quant\": " = comma :: (indent 2 ++
      quote :: (Bytes.ofText "quant" ++ quote :: colon :: [0x20])) := rfl
  have hnone : Bytes.ofText "" = [] := rfl
  have hclose : Bytes.ofText "\n\x7d" = indent 0 ++ [closeBrace] := rfl
  unfold text
  simp only [Bytes.ofText_append]
  rw [hdtype, hshape, hdata, hclose]
  simp only [member, List.append_assoc, List.cons_append, List.nil_append]
  cases file.quantization with
  | none => simp only [hnone, List.nil_append]
  | some q =>
    rw [Bytes.ofText_append, hquant]
    simp only [List.append_assoc, List.cons_append, List.nil_append]

theorem plainText_name (dtype : DType) : PlainText dtype.name := by
  cases dtype <;> simp [PlainText, DType.name]

theorem dtype?_pieces (dtype : DType) : dtype? (.string (pieces dtype.name)) = some dtype := by
  have hdtype : DType.ofName? dtype.name = some dtype := by
    cases dtype <;> rfl
  rw [dtype?, (plainText_name dtype).text?_pieces, Option.bind_some, hdtype]

/-- A record gives a file when its fields do; parameters may be missing. -/
theorem ofJson?_eq_some {v dtype shape data : Json.Value} {quant : Option Json.Value}
    {file : TensorFile}
    (hfields : fields? ["dtype", "shape", "data", "quant"] v =
      some [some dtype, some shape, some data, quant])
    (hdtype : dtype? dtype = some file.dtype) (hshape : shape? shape = some file.shape)
    (hdata : data? data = some file.data)
    (hquant : quant.map quantization? = file.quantization.map some) : ofJson? v = some file := by
  obtain ⟨_, _, _, quantization⟩ := file
  simp only [ofJson?, hfields, hdtype, hshape, hdata, Option.bind_eq_bind, Option.bind_some]
  cases quant with
  | none =>
    cases Option.map_eq_none_iff.1 hquant.symm
    rfl
  | some quant =>
    obtain ⟨q, hq, hread⟩ := Option.map_eq_some_iff.1 hquant.symm
    cases hq
    cases quant with
    | null => simp [quantization?, fields?] at hread
    | _ =>
      simp only [← hread]
      rfl

/-- A file of 64-bit sizes and integers, with a scale of one if there is a scale. -/
structure Plain (file : TensorFile) : Prop where
  sizes : ∀ d ∈ file.shape, d < sizeLimit
  data : file.data.Whole
  scale : ∀ q, file.quantization = some q → q.scale = .one

theorem Plain.ofBytes?_text {file : TensorFile} (h : file.Plain) :
    ofBytes? (Bytes.ofText file.text) = some { file with data := file.data.reread } := by
  have hdtype := Spells.string (plainText_name file.dtype)
  obtain ⟨shape, hshape, hreadShape⟩ := reads_shape h.sizes
  obtain ⟨data, hdata, hreadData⟩ := reads_data h.data
  have hdtypeKey : PlainText "dtype" := by simp [PlainText]
  have hshapeKey : PlainText "shape" := by simp [PlainText]
  have hdataKey : PlainText "data" := by simp [PlainText]
  have hquantKey : PlainText "quant" := by simp [PlainText]
  have hindent := isBlank_of_mem_indent 2
  have hclose := isBlank_of_mem_indent 0
  rw [ofBytes?, ofText_text]
  cases hquant : file.quantization with
  | none =>
    have hmembers := SpellsMembers.cons hindent hdtypeKey hdtype
      (.cons hindent hshapeKey hshape (.single hindent hdataKey hdata hclose))
    have hfields := fields?_object ["dtype", "shape", "data", "quant"]
      [("dtype", .string (pieces file.dtype.name)), ("shape", shape), ("data", data)]
      (by simp [hdtypeKey, hshapeKey, hdataKey])
    have hparse := (Spells.object hmembers).parse
    simp only [List.append_assoc] at hparse ⊢
    rw [hparse]
    exact ofJson?_eq_some hfields (dtype?_pieces _) hreadShape hreadData rfl
  | some q =>
    obtain ⟨quant, hspells, hread⟩ := reads_quantization (h.scale q hquant)
    have hmembers := SpellsMembers.cons hindent hdtypeKey hdtype
      (.cons hindent hshapeKey hshape
        (.cons hindent hdataKey hdata (.single hindent hquantKey hspells hclose)))
    have hfields := fields?_object ["dtype", "shape", "data", "quant"]
      [("dtype", .string (pieces file.dtype.name)), ("shape", shape), ("data", data),
        ("quant", quant)] (by simp [hdtypeKey, hshapeKey, hdataKey, hquantKey])
    have hparse := (Spells.object hmembers).parse
    simp only [List.append_assoc] at hparse ⊢
    rw [hparse]
    exact ofJson?_eq_some hfields (dtype?_pieces _) hreadShape hreadData (by simp [hread])

/-! ## Tensors and their files -/

theorem exists_ofInt {x : Binary32} (h : x = .one ∨ x = .negOne) :
    ∃ z : Int, 10 * z.natAbs < 2 ^ 53 ∧ Binary64.ofBinary32 x = Binary64.ofInt z := by
  rcases h with rfl | rfl
  · exact ⟨1, by decide, by decide +kernel⟩
  · exact ⟨-1, by decide, by decide +kernel⟩

theorem toBinary32_ofBinary32 {x : Binary32} (h : x = .one ∨ x = .negOne) :
    (Binary64.ofBinary32 x).toBinary32 = x := by
  rcases h with rfl | rfl <;> decide +kernel

end TensorFile

/-- Booleans, bytes, or singles that are one or minus one. -/
def TensorData.Plain : TensorData → Prop
  | float32 values => ∀ x ∈ values, x = .one ∨ x = .negOne
  | int8 _ => True
  | bool _ => True
  | int32 _ => False

/-- A tensor such as unpacking gives it when no scale is asked for. -/
structure Tensor.Plain (t : Tensor) : Prop where
  wellFormed : t.WellFormed
  sizes : ∀ d ∈ t.shape, d < sizeLimit
  data : t.data.Plain
  scale : ∀ q, t.quantization = some q → q.scale = .one
  allocation : t.allocation = .arena

namespace Tensor.Plain

variable {t : Tensor}

/-- The file of a plain tensor is plain, and the data that is read back is the tensor's. -/
theorem exists_ofTensor (h : t.Plain) :
    ∃ file, TensorFile.ofTensor t = .ok file ∧ file.Plain ∧
      TensorFile.elements file.dtype file.data.reread = .ok t.data ∧ file.shape = t.shape ∧
      file.quantization = t.quantization := by
  have hplain := h.data
  unfold TensorFile.ofTensor Tensor.dtype
  cases hdata : t.data with
  | float32 values =>
    rw [hdata] at hplain
    have hwhole : (FileData.numbers (values.map Binary64.ofBinary32)).Whole := by
      intro x hx
      obtain ⟨y, hy, rfl⟩ := List.mem_map.1 hx
      exact TensorFile.exists_ofInt (hplain y hy)
    have hback : (values.map Binary64.ofBinary32).map Binary64.toBinary32 = values := by
      rw [List.map_map]
      exact (List.map_congr_left (g := id) fun y hy =>
        TensorFile.toBinary32_ofBinary32 (hplain y hy)).trans (List.map_id values)
    refine ⟨_, rfl, ⟨h.sizes, hwhole, h.scale⟩, ?_, rfl, rfl⟩
    simp only [TensorData.dtype, FileData.reread, TensorFile.elements, hback]
  | int8 values =>
    have hwhole : (FileData.numbers (values.map fun x => Binary64.ofInt x.toInt)).Whole := by
      intro x hx
      obtain ⟨y, -, rfl⟩ := List.mem_map.1 hx
      exact ⟨y.toInt, TensorFile.natAbs_lt_of_int8 y, rfl⟩
    have hback : (values.map fun x => Binary64.ofInt x.toInt).mapM TensorFile.int8 =
        .ok values := by
      rw [List.mapM_map]
      exact (mapM_eq_ok (g := id) fun y _ => TensorFile.int8_ofInt y).trans
        (congrArg _ (List.map_id values))
    refine ⟨_, rfl, ⟨h.sizes, hwhole, h.scale⟩, ?_, rfl, rfl⟩
    simp only [TensorData.dtype, FileData.reread, TensorFile.elements, hback]
    rfl
  | bool values =>
    refine ⟨_, rfl, ⟨h.sizes, trivial, h.scale⟩, ?_, rfl, rfl⟩
    cases values <;> rfl
  | int32 values =>
    rw [hdata] at hplain
    exact hplain.elim

theorem exists_reread (h : t.Plain) :
    ∃ file : TensorFile, t.fileText = .ok file.text ∧ file.Plain ∧
      TensorFile.toTensor { file with data := file.data.reread } = .ok t := by
  obtain ⟨file, hfile, hplain, hdata, hshape, hquantization⟩ := h.exists_ofTensor
  refine ⟨file, ?_, hplain, TensorFile.toTensor_eq_ok_iff.2 ⟨t.data, hdata, ?_, ?_⟩⟩
  · rw [fileText, hfile]
    rfl
  · rw [hshape]
    exact h.wellFormed
  · rw [hshape, hquantization, ← h.allocation]

/-- What is printed for a plain tensor is read as the same tensor. -/
theorem fileText_reads (h : t.Plain) :
    ∃ text file, t.fileText = .ok text ∧ TensorFile.ofBytes? (Bytes.ofText text) = some file ∧
      file.toTensor = .ok t := by
  obtain ⟨file, htext, hplain, htensor⟩ := h.exists_reread
  exact ⟨file.text, _, htext, hplain.ofBytes?_text, htensor⟩

/-- The least and the greatest byte, with the least zero point. -/
def edgeBytes : Tensor where
  shape := [2, 1]
  data := .int8 [-128, 127]
  quantization := some { zeroPoint := -2147483648 }

/-- An empty list, which does not show that it is one of booleans. -/
def noFlags : Tensor where
  shape := [0, 3]
  data := .bool []

theorem fileText_reads_edges :
    (∃ text file, edgeBytes.fileText = .ok text ∧
      TensorFile.ofBytes? (Bytes.ofText text) = some file ∧ file.toTensor = .ok edgeBytes) ∧
    (∃ text file, noFlags.fileText = .ok text ∧
      TensorFile.ofBytes? (Bytes.ofText text) = some file ∧ file.toTensor = .ok noFlags) := by
  have hbytes : edgeBytes.Plain :=
    ⟨rfl, by decide, trivial, fun q hq => by cases hq; rfl, rfl⟩
  have hnoFlags : noFlags.Plain := ⟨rfl, by decide, trivial, nofun, rfl⟩
  exact ⟨fileText_reads hbytes, fileText_reads hnoFlags⟩

/-- A file with the text of a plain tensor is read as the tensor. -/
theorem runOn_readTensorFile (h : t.Plain) {path text : String} {machine : Machine}
    (htext : t.fileText = .ok text)
    (hopen : machine.disk.open? path = .ok (.file (Bytes.ofText text))) :
    runOn (readTensorFile path) machine = (.ok t, machine) := by
  obtain ⟨file, hfile, hplain, htensor⟩ := h.exists_reread
  cases htext.symm.trans hfile
  rw [readTensorFile, runOn_bind_ok (runOn_open path _), hopen]
  simp only [hplain.ofBytes?_text, htensor]
  rfl

end Tensor.Plain

/-! ## What unpacking writes -/

section Unpacking

variable {machine : Machine} {input output : String} {settings : UnpackSettings} {c : Container}
  {layout : Layout} {t : Tensor}

theorem TensorData.plain_ofBits {dtype : DType} {quantization : Option Quantization}
    {bits : List Bool} {data : TensorData} (h : TensorData.ofBits dtype quantization bits = .ok data) :
    data.Plain := by
  obtain ⟨-, rfl⟩ | ⟨-, q, levels, -, -, rfl⟩ | ⟨-, rfl⟩ := ofBits_eq_ok_iff.1 h
  · intro x hx
    obtain ⟨bit, -, rfl⟩ := List.mem_map.1 hx
    cases bit
    · exact .inl rfl
    · exact .inr rfl
  · trivial
  · trivial

theorem plain_of_runUnpack (hentry : Container.read.ofEntry (machine.disk.open? input) = .ok c)
    (h : c.Whole layout) (sizes : ∀ d ∈ c.header.shape, d < sizeLimit)
    (fits : c.header.shape.elementCount < sizeLimit)
    (hscale : settings.scale.getD Binary32.one = Binary32.one)
    (hran : (runOn (runUnpack input output settings) machine).1 = .ok t) : t.Plain := by
  obtain ⟨hint32, hpositive, -⟩ := (runOn_runUnpack_eq_ok_iff hentry h fits).1 ⟨t, hran⟩
  have hpacks := DType.ne_int32_iff.1 hint32
  have hbinarizable := DType.isBinarizable_iff.2 hpacks
  obtain ⟨data, hdata⟩ := TensorData.exists_ofBits hpacks (settings.exists_scale_of_int8 hpositive)
    (storedBits layout c.header.shape.rows c.header.shape.cols c.words)
  obtain ⟨hdtype, hlength⟩ := TensorData.dtype_ofBits hdata
  let result : Tensor :=
    { shape := c.header.shape, data
      quantization := settings.quantization (settings.dtype.getD c.header.dtype) }
  have hresult : result.Plain := by
    refine ⟨?_, sizes, TensorData.plain_ofBits hdata, fun q hq => ?_, rfl⟩
    · show data.length = _
      rw [hlength, length_storedBits, ← Shape.elementCount_eq_rows_mul_cols h.rank fits,
        Shape.flatSize_eq_elementCount fits]
    · simp only [result, UnpackSettings.quantization, hscale] at hq
      split at hq
      · cases hq
        rfl
      · cases hq
  have hbinary : result.dtype.isBinarizable := by
    rw [Tensor.dtype, hdtype, hbinarizable]
  obtain ⟨text, htext⟩ := Tensor.fileText_eq_ok hbinary
  obtain ⟨printed, hrun⟩ := runOn_runUnpack_eq output hentry h fits rfl hbinarizable hdata rfl htext
  rw [hrun] at hran
  cases hcreate : machine.disk.create output (Bytes.ofText text) with
  | error e => simp [hcreate] at hran
  | ok disk =>
    simp only [hcreate, Except.ok.injEq] at hran
    exact hran ▸ hresult

/-- Unpacking without a scale writes a file that is read as the tensor it gives. -/
theorem runOn_read_runUnpack {bytes rest : Bytes}
    (hopen : machine.disk.open? input = .ok (.file bytes))
    (hread : Container.read bytes = .ok (c, rest)) (fits : c.header.shape.elementCount < sizeLimit)
    (hscale : settings.scale.getD Binary32.one = Binary32.one)
    (hran : (runOn (runUnpack input output settings) machine).1 = .ok t) :
    runOn (readTensorFile output) (runOn (runUnpack input output settings) machine).2 =
      (.ok t, (runOn (runUnpack input output settings) machine).2) := by
  have hunverified := (Container.read_eq_ok_iff.1 hread).1
  obtain ⟨hacceptable, -, -⟩ := Container.readUnverified_eq_ok_iff_append.1 hunverified
  obtain ⟨layout, hwhole⟩ := Container.whole_of_readUnverified hunverified
  have hentry := Reader.ofEntry_eq_ok_iff.2 ⟨bytes, rest, hopen, hread⟩
  have hplain := plain_of_runUnpack hentry hwhole hacceptable.sizes fits hscale hran
  obtain ⟨_, ⟨text, htext, rfl⟩, hwrites⟩ :=
    (writesAtLast_runUnpack machine input output settings).writes hran
  exact hplain.runOn_readTensorFile htext hwrites.opens

end Unpacking

end OneBit
