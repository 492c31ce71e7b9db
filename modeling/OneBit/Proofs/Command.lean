import OneBit.Command
import OneBit.Proofs.Container.Building
import OneBit.Proofs.Disk
import OneBit.Proofs.Operator.Dequantize
import OneBit.Proofs.TensorFile

/-!
# Commands on a machine

What each command leaves on a machine when its files open and its outputs can be written.

* `Reader.runOn_file_eq` : a reader on what a path names leaves the machine as it is;
* `runOn_runPack` : the container of a dense tensor is written;
* `runOn_runUnpack` : the elements at the levels of the stored bits are written.
-/

namespace OneBit

open Ieee

/-! ## Single calls -/

section Calls

variable {σ ε α : Type} {machine : Machine} {disk : Disk} {path : String} {bytes rest : Bytes}

@[simp] theorem runOn_liftTensor_ok (a : α) (s : σ) :
    runOn (CommandError.liftTensor (.ok a) : ExceptT CommandError (StateM σ) α) s = (.ok a, s) := rfl

@[simp] theorem runOn_liftContainer_ok (a : α) (s : σ) :
    runOn (CommandError.liftContainer (.ok a) : ExceptT CommandError (StateM σ) α) s = (.ok a, s) :=
  rfl

theorem eq_ok_of_runOn_liftFile {outcome : Except FileError α} {a : α} {s : σ}
    (h : (runOn (CommandError.liftFile outcome : ExceptT CommandError (StateM σ) α) s).1 = .ok a) :
    outcome = .ok a := by
  cases outcome with
  | ok b => exact congrArg Except.ok (Except.ok.inj h)
  | error e => cases e <;> simp [CommandError.liftFile] at h

theorem runOn_liftFile_snd (outcome : Except FileError α) (s : σ) :
    (runOn (CommandError.liftFile outcome : ExceptT CommandError (StateM σ) α) s).2 = s := by
  cases outcome with
  | ok a => rfl
  | error e => cases e <;> rfl

theorem runOn_onContainer_eq (call : ExceptT ContainerError (StateM σ) α) (s : σ) :
    runOn (CommandError.onContainer call) s =
      ((runOn call s).1.mapError .container, (runOn call s).2) := by
  rw [CommandError.onContainer, runOn_bind, runOn_liftState]
  show runOn (CommandError.liftContainer (runOn call s).1) (runOn call s).2 = _
  cases (runOn call s).1 <;> rfl

theorem runOn_onContainer {call : ExceptT ContainerError (StateM σ) α} {a : α} {s t : σ}
    (h : runOn call s = (.ok a, t)) : runOn (CommandError.onContainer call) s = (.ok a, t) := by
  rw [runOn_onContainer_eq, h]
  rfl

theorem runOn_open (path : String) (machine : Machine) :
    runOn (liftM (Host.open? path : StateM Machine _) : ExceptT ε (StateM Machine) _) machine =
      (.ok (machine.disk.open? path), machine) := rfl

/-- A file is written whole, or the machine stays as it is. -/
theorem runOn_create (path : String) (bytes : Bytes) (machine : Machine) :
    runOn (liftM (Host.create path bytes : StateM Machine _) : ExceptT ε (StateM Machine) _) machine =
      match machine.disk.create path bytes with
      | .ok disk => (.ok (.ok ()), { machine with disk })
      | .error e => (.ok (.error e), machine) := by
  rw [runOn_liftState]
  show (Except.ok ((Machine.update (·.create path bytes)).run machine).1,
    ((Machine.update (·.create path bytes)).run machine).2) = _
  simp only [Machine.update, StateT.run_bind, StateT.run_get, pure_bind]
  cases machine.disk.create path bytes <;> rfl

theorem runOn_print (text : String) (machine : Machine) :
    runOn (liftM (Host.print text : StateM Machine _) : ExceptT ε (StateM Machine) _) machine =
      (.ok (), { machine with printed := machine.printed ++ text }) := rfl

/-- What a reader makes of what a path names. -/
def Reader.ofEntry (reader : Reader α) : Except SystemError Entry → Except ContainerError α
  | .error e => .error (.io (.system e))
  | .ok .directory => .error (.io (.system .isDirectory))
  | .ok (.file bytes) => Prod.fst <$> reader bytes

theorem Reader.runOn_file_eq (reader : Reader α) (path : String) (machine : Machine) :
    runOn (reader.file path) machine = (reader.ofEntry (machine.disk.open? path), machine) := by
  rw [Reader.file, runOn_bind_ok (runOn_open path machine)]
  rcases machine.disk.open? path with e | entry
  · rfl
  · cases entry with
    | directory => rfl
    | file bytes =>
      simp only [ofEntry]
      cases reader bytes <;> rfl

theorem Reader.ofEntry_eq_ok_iff {reader : Reader α} {a : α} {entry : Except SystemError Entry} :
    reader.ofEntry entry = .ok a ↔
      ∃ bytes rest, entry = .ok (.file bytes) ∧ reader bytes = .ok (a, rest) := by
  constructor
  · intro h
    rcases entry with e | entry
    · cases h
    · cases entry with
      | directory => cases h
      | file bytes =>
        obtain ⟨⟨a', rest⟩, hread, ha⟩ := OneBit.bind_eq_ok_iff.1 h
        cases ha
        exact ⟨bytes, rest, rfl, hread⟩
  · rintro ⟨bytes, rest, rfl, hread⟩
    rw [ofEntry, hread]
    rfl

/-- On a file there are the errors of the reader and those of the host. -/
theorem Reader.Raises.ofEntry {kind : ContainerError → Prop} {reader : Reader α}
    (h : reader.Raises kind) (hsystem : ∀ e, kind (.io (.system e)))
    (entry : Except SystemError Entry) : OneBit.Raises kind (reader.ofEntry entry) := by
  rcases entry with e | entry
  · exact .error (hsystem e)
  · cases entry with
    | directory => exact .error (hsystem .isDirectory)
    | file bytes => exact (h bytes).bind fun result _ => .ok result.1

/-- What a reader makes of a file, inside a command. -/
theorem Reader.runOn_onContainer_file {reader : Reader α} {a : α}
    (h : reader.ofEntry (machine.disk.open? path) = .ok a) :
    runOn (CommandError.onContainer (reader.file path)) machine = (.ok a, machine) := by
  rw [runOn_onContainer_eq, runOn_file_eq, h]
  rfl

theorem Container.runOn_writeFile (c : Container) (path : String) (machine : Machine) :
    runOn (c.writeFile path) machine =
      match machine.disk.create path c.encode with
      | .ok disk => (.ok (), { machine with disk })
      | .error e => (.error (.io (.system e)), machine) := by
  rw [Container.writeFile, runOn_bind, runOn_create]
  cases machine.disk.create path c.encode <;> rfl

end Calls

/-! ## Dense tensor files -/

section Files

variable {machine : Machine} {path : String} {t : Tensor}

/-- Reading leaves the machine as it is, whatever comes of it. -/
theorem runOn_readTensorFile_snd (path : String) (machine : Machine) :
    (runOn (readTensorFile path) machine).2 = machine := by
  rw [readTensorFile, runOn_bind_ok (runOn_open path machine)]
  rcases machine.disk.open? path with e | entry
  · rfl
  · cases entry with
    | directory => rfl
    | file bytes =>
      cases hfile : TensorFile.ofBytes? bytes with
      | none => simp [hfile]
      | some file =>
        simp only [hfile]
        exact runOn_liftFile_snd file.toTensor machine

/-- A tensor is read from a file that spells it. -/
theorem runOn_readTensorFile (h : (runOn (readTensorFile path) machine).1 = .ok t) :
    runOn (readTensorFile path) machine = (.ok t, machine) ∧
      ∃ bytes file, machine.disk.open? path = .ok (.file bytes) ∧
        TensorFile.ofBytes? bytes = some file ∧ file.toTensor = .ok t := by
  refine ⟨Prod.ext h (runOn_readTensorFile_snd path machine), ?_⟩
  rw [readTensorFile, runOn_bind_ok (runOn_open path machine)] at h
  cases hopen : machine.disk.open? path with
  | error e => simp [hopen] at h
  | ok entry =>
    cases entry with
    | directory => simp [hopen] at h
    | file bytes =>
      simp only [hopen] at h
      cases hfile : TensorFile.ofBytes? bytes with
      | none => simp [hfile] at h
      | some file =>
        simp only [hfile] at h
        exact ⟨bytes, file, rfl, hfile, eq_ok_of_runOn_liftFile h⟩

theorem runOn_writeTensorFile {text : String} (htext : t.fileText = .ok text) (path : String)
    (machine : Machine) :
    runOn (writeTensorFile path t) machine =
      match machine.disk.create path (Bytes.ofText text) with
      | .ok disk => (.ok (), { machine with disk })
      | .error _ => (.error (.creating path), machine) := by
  simp only [writeTensorFile, htext]
  rw [runOn_bind, runOn_create]
  cases machine.disk.create path (Bytes.ofText text) <;> rfl

end Files

/-! ## Packing -/

section Containers

variable {machine : Machine} {disk : Disk} {input output path : String} {layout : Layout}

/-- Packing writes the container of the tensor that it reads. -/
theorem runOn_runPack {settings : PackSettings} {dense : Tensor}
    (hread : (runOn (readTensorFile input) machine).1 = .ok dense) (h : dense.Dense)
    (hlayout : Layout.ofBits settings.wordBits = .ok layout)
    (hcreate : machine.disk.create output
      (Container.packed layout settings.threshold dense).encode = .ok disk) :
    ∃ printed, runOn (runPack input output settings) machine =
      (.ok (Container.packed layout settings.threshold dense), { disk, printed }) := by
  have hshape : (Container.packed layout settings.threshold dense).header.packedShape =
      .ok (layout.packed dense.shape) := Header.packedShape_eq_ok Header.layout_ofWords h.rank_pos
  rw [runPack, runOn_bind_ok (runOn_readTensorFile hread).1]
  simp only [hlayout, h.quantized_eq_ok, Container.ofTensor_written layout settings.threshold h,
    runOn_bind_ok (runOn_liftTensor_ok _ _), runOn_bind_ok (runOn_liftContainer_ok _ _)]
  have hwrite : runOn ((Container.packed layout settings.threshold dense).writeFile output) machine =
      (.ok (), { machine with disk }) := by
    rw [Container.runOn_writeFile, hcreate]
  rw [runOn_bind_ok (runOn_onContainer hwrite), hshape,
    runOn_bind_ok (runOn_liftContainer_ok _ _), runOn_bind_ok (runOn_print _ _)]
  exact ⟨_, rfl⟩

end Containers

/-! ## Unpacking -/

section Unpacking

variable {machine : Machine} {disk : Disk} {input output : String} {layout : Layout}
  {bytes rest : Bytes} {c : Container}

theorem Tensor.reconstructed_zeros {dtype : DType} {shape : Shape}
    {quantization : Option Quantization} {packed : Tensor} {words : List Int32} {data : TensorData}
    (hwords : packed.data = .int32 words) (hshape : packed.shape = layout.packed shape)
    (wf : packed.WellFormed) (hdtype : dtype.isBinarizable) (rank : shape ≠ [])
    (fits : shape.elementCount < sizeLimit)
    (hdata : TensorData.ofBits dtype quantization
      (storedBits layout shape.rows shape.cols (words.map Int32.toUInt32)) = .ok data) :
    Tensor.reconstructed { Tensor.zeros dtype shape with quantization } packed layout =
      .ok { shape, data, quantization } := by
  let dense : Tensor := { Tensor.zeros dtype shape with quantization }
  have hzeros : dense.dtype = dtype := TensorData.dtype_zeros dtype _
  have ok : Dequantize.check layout packed dense = .ok () :=
    Dequantize.check_eq_ok_iff.2
      ⟨by rw [Tensor.dtype, hwords, TensorData.dtype], by rw [hzeros, hdtype], rank, hshape⟩
  rw [reconstructed, Step.on_eq_runOn, Dequantize.runOn_invoke (Node.Connects.pair _ _) ok hwords wf
    (Tensor.wellFormed_zeros dtype shape) fits (hzeros.symm ▸ hdata)]
  rfl

/-- Unpacking a container that reads comes down to writing the elements of the chosen type at the levels
of the stored bits. -/
theorem runOn_runUnpack_eq (output : String) {settings : UnpackSettings} {dtype : DType}
    {data : TensorData} {result : Tensor} {text : String}
    (hentry : Container.read.ofEntry (machine.disk.open? input) = .ok c) (h : c.Whole layout)
    (fits : c.header.shape.elementCount < sizeLimit)
    (hdtype : settings.dtype.getD c.header.dtype = dtype) (hbinarizable : dtype.isBinarizable)
    (hdata : TensorData.ofBits dtype (settings.quantization dtype)
      (storedBits layout c.header.shape.rows c.header.shape.cols c.words) = .ok data)
    (hresult : result =
      { shape := c.header.shape, data, quantization := settings.quantization dtype })
    (htext : result.fileText = .ok text) :
    ∃ printed, runOn (runUnpack input output settings) machine =
      match machine.disk.create output (Bytes.ofText text) with
      | .ok disk => (.ok result, { disk, printed })
      | .error _ => (.error (.creating output), machine) := by
  have hdense := Tensor.reconstructed_zeros rfl rfl h.wellFormed hbinarizable h.rank fits
    (by rw [Tensor.toUInt32_toInt32, hdata])
  rw [runUnpack, runOn_bind_ok (Reader.runOn_onContainer_file hentry)]
  simp only [hdtype, hbinarizable, Bool.not_true, Bool.false_eq_true, if_false, h.layout_eq,
    h.toTensor_eq_ok, hdense, runOn_bind_ok (runOn_liftContainer_ok _ _),
    runOn_bind_ok (runOn_liftTensor_ok _ _)]
  subst hresult
  rw [runOn_bind, runOn_writeTensorFile htext]
  cases machine.disk.create output (Bytes.ofText text) with
  | error e => exact ⟨"", rfl⟩
  | ok disk => exact ⟨_, rfl⟩

theorem runOn_runUnpack {settings : UnpackSettings} {dtype : DType} {data : TensorData}
    {result : Tensor} {text : String}
    (hopen : machine.disk.open? input = .ok (.file bytes))
    (hread : Container.read bytes = .ok (c, rest)) (hlayout : c.header.layout = .ok layout)
    (fits : c.header.shape.elementCount < sizeLimit)
    (hdtype : settings.dtype.getD c.header.dtype = dtype) (hbinarizable : dtype.isBinarizable)
    (hdata : TensorData.ofBits dtype (settings.quantization dtype)
      (storedBits layout c.header.shape.rows c.header.shape.cols c.words) = .ok data)
    (hresult : result =
      { shape := c.header.shape, data, quantization := settings.quantization dtype })
    (htext : result.fileText = .ok text)
    (hcreate : machine.disk.create output (Bytes.ofText text) = .ok disk) :
    ∃ printed, runOn (runUnpack input output settings) machine = (.ok result, { disk, printed }) := by
  obtain ⟨layout', h⟩ := Container.whole_of_readUnverified (Container.read_eq_ok_iff.1 hread).1
  obtain rfl : layout' = layout := Except.ok.inj (h.layout_eq.symm.trans hlayout)
  have hentry := Reader.ofEntry_eq_ok_iff.2 ⟨bytes, rest, hopen, hread⟩
  obtain ⟨printed, hrun⟩ := runOn_runUnpack_eq output hentry h fits hdtype hbinarizable hdata hresult
    htext
  rw [hcreate] at hrun
  exact ⟨printed, hrun⟩

end Unpacking

end OneBit
