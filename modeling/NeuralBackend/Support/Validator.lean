import NeuralBackend.Layer.Basic
import NeuralBackend.Support.Unsupported
import NeuralBackend.Tensor.Info

/-!
# Validators

A validator speaks for the kernel library: it is asked about a layer with its operands and answers
with a `KernelStatus`.  Which validator a backend uses is part of its configuration, so everything
about queries is stated for an arbitrary one.

* A `RememberingValidator` answers from a memory, which every question changes.
* A `Validator` has nothing to remember; it is the case `Validator.live` of the other one.
-/

namespace NeuralBackend

/-- The answer of the kernel library. -/
inductive KernelStatus
  | ok
  | runtimeError (description : String)
  deriving DecidableEq, Repr, Inhabited

namespace KernelStatus

/-- Whether the library runs the layer. -/
def isOk : KernelStatus → Bool
  | ok => true
  | runtimeError _ => false

/-- The library's description of what is wrong; empty if nothing is. -/
def description : KernelStatus → String
  | ok => ""
  | runtimeError description => description

/-- The name of the status code. -/
def codeName : KernelStatus → String
  | ok => "Ok"
  | runtimeError _ => "RuntimeError"

/-- The answer of a query that the library decides; the description is passed on unchanged. -/
def support : KernelStatus → Support
  | ok => .ok ()
  | runtimeError description => .error (.refused description)

end KernelStatus

/-- What is asked: a layer with operands.  Operands come inputs first, then outputs, then parameter
tensors. -/
abbrev Question := Layer × List TensorInfo

/-- A validator that may remember what it has been asked: its name in traces, its answer from a
memory, and the memory that a question leaves it. -/
structure RememberingValidator (σ : Type) where
  name : String
  answer : σ → Question → KernelStatus
  remember : σ → Question → σ

/-- A validator without a memory: its name in traces, and its answer for a layer with operands. -/
structure Validator where
  name : String
  validate : Layer → List TensorInfo → KernelStatus

namespace Validator

/-- The validator, remembering nothing. -/
def live (v : Validator) : RememberingValidator Unit where
  name := v.name
  answer _ q := v.validate q.1 q.2
  remember memory _ := memory

/-- The stand-in where there is no kernel library: every layer is refused. -/
def unavailable : Validator where
  name := "unavailable"
  validate _ _ := .runtimeError Unsupported.unavailable.reason

/-- A validator that answers every question alike. -/
def fixed (status : KernelStatus) : Validator where
  name := "fixed"
  validate _ _ := status

end Validator

end NeuralBackend
