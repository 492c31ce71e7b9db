import OneBit.Container.Error
import OneBit.TensorFile

/-!
# Why a command fails
-/

namespace OneBit

inductive CommandError
  | tensor (e : TensorError)
  | container (e : ContainerError)
  | file (e : FileError)
  | opening (path : String)
  | parsing (path : String)
  | creating (path : String)
  /-- Packed words cannot be the result of unpacking. -/
  | unreconstructible (dtype : DType)
deriving DecidableEq, Repr

namespace CommandError

def message : CommandError → String
  | tensor e => e.message
  | container e => e.message
  | file e => e.message
  | opening path => "opening " ++ path
  | parsing path => "parsing " ++ path
  | creating path => "creating " ++ path
  | unreconstructible dtype => "cannot reconstruct into " ++ dtype.name

variable {m : Type → Type} [Monad m] {α : Type}

def liftTensor (outcome : Except TensorError α) : ExceptT CommandError m α :=
  match outcome with
  | .ok a => pure a
  | .error e => throw (.tensor e)

def liftFile (outcome : Except FileError α) : ExceptT CommandError m α :=
  match outcome with
  | .ok a => pure a
  | .error (.tensor e) => throw (.tensor e)
  | .error e => throw (.file e)

def liftContainer (outcome : Except ContainerError α) : ExceptT CommandError m α :=
  match outcome with
  | .ok a => pure a
  | .error e => throw (.container e)

/-- Runs a computation on containers inside a command. -/
def onContainer (call : ExceptT ContainerError m α) : ExceptT CommandError m α := do
  liftContainer (← (call.run : m _))

end CommandError

end OneBit
