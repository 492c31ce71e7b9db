import OneBit.Proofs.Command
import OneBit.Proofs.Operator.Footprint

/-!
# The files that a command changes

Packing and unpacking make their output file only when everything that can fail is behind them. What
comes after that, the conversion of the result and the report, always succeeds.

* `Disk.Writes` : one file is written and nothing else changes;
* `WritesAtLast` : what becomes of a command that writes one file at last;
* `runOn_pack_unpack_allOrNothing` : failed commands change no file, and others only their output.
-/

namespace OneBit

/-- The bytes are put where the path leads, and nothing else changes. -/
structure Disk.Writes (before : Disk) (path : String) (bytes : Bytes) (after : Disk) : Prop where
  one_location : ∃ location, before.Target path location ∧
    after.lookup? location = some (.file bytes) ∧
    ∀ other, other ≠ location → after.lookup? other = before.lookup? other
  opens : after.open? path = .ok (.file bytes)

theorem Disk.writes_of_create {disk after : Disk} {path : String} {bytes : Bytes}
    (h : disk.create path bytes = .ok after) : disk.Writes path bytes after := by
  refine ⟨?_, open?_create h⟩
  obtain ⟨location, htarget, rfl⟩ := create_eq_ok_iff.1 h
  have hlocation : location ≠ [] := by
    rintro rfl
    exact htarget.no_directory rfl
  exact ⟨location, htarget, lookup?_put_self disk _ hlocation, fun _ => lookup?_put_of_ne disk _⟩

/-! ## Commands that write at last -/

/-- A command leaves the machine as it was and fails, or it writes its output and succeeds. -/
inductive WritesAtLast {α : Type} (output : String) (contents : α → Bytes → Prop)
    (machine : Machine) : Except CommandError α × Machine → Prop
  | failed (e : CommandError) : WritesAtLast output contents machine (.error e, machine)
  | wrote {a : α} {bytes : Bytes} {disk : Disk} {printed : String} (hbytes : contents a bytes)
      (hcreate : machine.disk.create output bytes = .ok disk) :
      WritesAtLast output contents machine (.ok a, { disk, printed })

namespace WritesAtLast

variable {α β : Type} {output : String} {contents : α → Bytes → Prop} {machine : Machine}
  {ran : Except CommandError α × Machine} {f : β → ExceptT CommandError (StateM Machine) α}

/-- What a command reads leaves the machine as it is. -/
theorem bind {x : ExceptT CommandError (StateM Machine) β} (hx : (runOn x machine).2 = machine)
    (hf : ∀ b, (runOn x machine).1 = .ok b →
      WritesAtLast output contents machine (runOn (f b) machine)) :
    WritesAtLast output contents machine (runOn (x >>= f) machine) := by
  obtain ⟨outcome, hran⟩ : ∃ outcome, runOn x machine = (outcome, machine) :=
    ⟨_, Prod.ext rfl hx⟩
  rw [runOn_bind, hran]
  rw [hran] at hf
  cases outcome with
  | error e => exact .failed e
  | ok b => exact hf b rfl

theorem liftTensor {outcome : Except TensorError β}
    (hf : ∀ b, outcome = .ok b → WritesAtLast output contents machine (runOn (f b) machine)) :
    WritesAtLast output contents machine
      (runOn (CommandError.liftTensor outcome >>= f) machine) := by
  cases outcome with
  | error e => exact .failed (.tensor e)
  | ok b => exact hf b rfl

theorem liftContainer {outcome : Except ContainerError β}
    (hf : ∀ b, outcome = .ok b → WritesAtLast output contents machine (runOn (f b) machine)) :
    WritesAtLast output contents machine
      (runOn (CommandError.liftContainer outcome >>= f) machine) := by
  cases outcome with
  | error e => exact .failed (.container e)
  | ok b => exact hf b rfl

theorem unchanged (h : WritesAtLast output contents machine ran) {e : CommandError}
    (he : ran.1 = .error e) : ran.2 = machine := by
  cases h with
  | failed _ => rfl
  | wrote _ _ => cases he

theorem writes (h : WritesAtLast output contents machine ran) {a : α} (ha : ran.1 = .ok a) :
    ∃ bytes, contents a bytes ∧ machine.disk.Writes output bytes ran.2.disk := by
  cases h with
  | failed _ => cases ha
  | wrote hbytes hcreate =>
    cases ha
    exact ⟨_, hbytes, Disk.writes_of_create hcreate⟩

end WritesAtLast

/-! ## Packing -/

/-- The report on a container that was built finds its packed shape. -/
theorem Container.exists_packedShape_of_ofTensor {layout : Layout} {dtype : DType} {shape : Shape}
    {packed : Tensor} {c : Container} (h : ofTensor layout dtype shape packed = .ok c) :
    ∃ packedShape, c.header.packedShape = .ok packedShape := by
  obtain ⟨values, -, h⟩ := bind_eq_ok_iff.1 h
  obtain ⟨needed, hneeded, h⟩ := bind_eq_ok_iff.1 h
  obtain ⟨-, h⟩ := guard_eq_ok_iff.1 h
  cases h
  obtain ⟨rank, -⟩ := Header.expectedWords_eq_ok_iff.1 hneeded
  exact ⟨_, Header.packedShape_eq_ok Header.layout_ofWords rank⟩

theorem writesAtLast_runPack (machine : Machine) (input output : String) (settings : PackSettings) :
    WritesAtLast output (fun c bytes => bytes = c.encode) machine
      (runOn (runPack input output settings) machine) := by
  refine .bind (runOn_readTensorFile_snd input machine) fun dense _ => .liftTensor fun layout _ =>
    .liftTensor fun packed _ => .liftContainer fun c hbuilt => ?_
  rw [runOn_bind, runOn_onContainer_eq, Container.runOn_writeFile]
  cases hcreate : machine.disk.create output c.encode with
  | error e => exact .failed _
  | ok disk =>
    -- The file is there now, so the rest of the command must succeed.
    obtain ⟨packedShape, hshape⟩ := Container.exists_packedShape_of_ofTensor hbuilt
    show WritesAtLast output _ machine (runOn (_ >>= _) ({ machine with disk } : Machine))
    rw [hshape, runOn_bind_ok (runOn_liftContainer_ok _ _), runOn_bind_ok (runOn_print _ _)]
    exact .wrote rfl hcreate

/-! ## Unpacking -/

/-- Reconstructing keeps the element type. -/
theorem Tensor.dtype_of_reconstructed {dense packed result : Tensor} {layout : Layout}
    (h : dense.reconstructed packed layout = .ok result) : result.dtype = dense.dtype := by
  obtain ⟨-, -, h⟩ := bind_eq_ok_iff.1 h
  have hat : [packed, dense][1]? = some dense := rfl
  obtain ⟨new, hnew, hpermits⟩ :=
    (Operator.dequantize layout).runOn_call_permits .invoke ⟨[0], [1]⟩ hat
  have hresult : (runOn ((Operator.dequantize layout).invoke ⟨[0], [1]⟩) [packed, dense]).2.getD 1
      dense = result := Except.ok.inj h
  rw [List.getD_eq_getElem?_getD] at hresult
  rw [← hpermits.dtype, ← hresult]
  exact congrArg (fun t : Option Tensor => (t.getD dense).dtype) hnew

theorem writesAtLast_runUnpack (machine : Machine) (input output : String)
    (settings : UnpackSettings) :
    WritesAtLast output (fun t bytes => ∃ text, t.fileText = .ok text ∧ bytes = Bytes.ofText text)
      machine (runOn (runUnpack input output settings) machine) := by
  refine .bind ?_ fun c _ => ?_
  · rw [runOn_onContainer_eq, Reader.runOn_file_eq]
  cases hdtype : (settings.dtype.getD c.header.dtype).isBinarizable with
  | false =>
    simp only [hdtype]
    exact .failed _
  | true =>
    simp only [hdtype]
    refine .liftContainer fun layout _ => .liftContainer fun packed _ =>
      .liftTensor fun dense hdense => ?_
    -- The file is made before the tensor is converted, which cannot fail on a type that packs.
    obtain ⟨text, htext⟩ : ∃ text, dense.fileText = .ok text := by
      refine Tensor.fileText_eq_ok ?_
      rw [Tensor.dtype_of_reconstructed hdense, ← hdtype]
      exact congrArg _ (TensorData.dtype_zeros _ _)
    rw [runOn_bind, runOn_writeTensorFile htext]
    cases hcreate : machine.disk.create output (Bytes.ofText text) with
    | error e => exact .failed _
    | ok disk => exact .wrote ⟨text, htext, rfl⟩ hcreate

/-! ## Both commands -/

/-- Packing and unpacking are all or nothing. A command that fails leaves every file as it was, and
the whole machine with it; one that succeeds writes its output and changes nothing else. The file is
then the encoding of the container, or the text of the tensor, that the command gives. Input and output
may be the same. -/
theorem runOn_pack_unpack_allOrNothing (machine : Machine) (input output : String) :
    (∀ settings,
      let ran := runOn (runPack input output settings) machine
      (∀ e, ran.1 = .error e → ran.2 = machine) ∧
      ∀ c, ran.1 = .ok c → machine.disk.Writes output c.encode ran.2.disk) ∧
    ∀ settings,
      let ran := runOn (runUnpack input output settings) machine
      (∀ e, ran.1 = .error e → ran.2 = machine) ∧
      ∀ t, ran.1 = .ok t → ∃ text, t.fileText = .ok text ∧
        machine.disk.Writes output (Bytes.ofText text) ran.2.disk := by
  refine ⟨fun settings => ?_, fun settings => ?_⟩
  · have h := writesAtLast_runPack machine input output settings
    refine ⟨fun _ => h.unchanged, fun c hc => ?_⟩
    obtain ⟨_, rfl, hwrites⟩ := h.writes hc
    exact hwrites
  · have h := writesAtLast_runUnpack machine input output settings
    refine ⟨fun _ => h.unchanged, fun t ht => ?_⟩
    obtain ⟨_, ⟨text, htext, rfl⟩, hwrites⟩ := h.writes ht
    exact ⟨text, htext, hwrites⟩

/-- A machine with two booleans in a tensor file. -/
def Machine.sampleFlags : Machine where
  disk := ⟨[(["t.json"], .file (Bytes.ofText "[\"bool\", [1, 2], [true, false]]"))]⟩

/-- Packing may put a container in place of its input. Unpacking does not take the tensor file. -/
theorem runOn_pack_unpack_allOrNothing_sampleFlags :
    (∃ c, (runOn (runPack "t.json" "t.json" {}) Machine.sampleFlags).1 = .ok c ∧
      Machine.sampleFlags.disk.Writes "t.json" c.encode
        (runOn (runPack "t.json" "t.json" {}) Machine.sampleFlags).2.disk) ∧
    ∃ e, (runOn (runUnpack "t.json" "u.json" {}) Machine.sampleFlags).1 = .error e ∧
      (runOn (runUnpack "t.json" "u.json" {}) Machine.sampleFlags).2 = Machine.sampleFlags := by
  have hpack : (runOn (runPack "t.json" "t.json" {}) Machine.sampleFlags).1 =
      .ok ⟨.ofWords .full .bool [1, 2] [2], [2]⟩ := by decide +kernel
  have hunpack : (runOn (runUnpack "t.json" "u.json" {}) Machine.sampleFlags).1 =
      .error (.container .invalidMagic) := by decide +kernel
  exact ⟨⟨_, hpack, ((runOn_pack_unpack_allOrNothing _ _ _).1 {}).2 _ hpack⟩,
    ⟨_, hunpack, ((runOn_pack_unpack_allOrNothing _ _ _).2 {}).1 _ hunpack⟩⟩

end OneBit
