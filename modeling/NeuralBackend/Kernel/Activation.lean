import NeuralBackend.Layer.Parameters

/-!
# Activation functions of the kernel library

The kernel library has its own list of activation functions.  `ActivationKernel.apply` computes one
element, in single precision; `ActivationKernel.ofLayer` says which kernel runs an activation of a
graph.
-/

namespace NeuralBackend.Kernel

/-- The activation functions that have a kernel. -/
inductive ActivationKernel
  | logistic
  | tanh
  | relu
  /-- The smaller of `a` and the larger of zero and the element. -/
  | boundedRelu
  /-- The smaller of `a` and the larger of `b` and the element. -/
  | luBoundedRelu
  | leakyRelu
  | softRelu
  | abs
  | square
  | sqrt
  | linear
  deriving DecidableEq, Repr, Inhabited

namespace ActivationKernel

/-- The name of a function in messages. -/
def name : ActivationKernel → String
  | logistic => "Logistic"
  | tanh => "Tanh"
  | relu => "Relu"
  | boundedRelu => "BoundedRelu"
  | luBoundedRelu => "LuBoundedRelu"
  | leakyRelu => "LeakyRelu"
  | softRelu => "SoftRelu"
  | abs => "Abs"
  | square => "Square"
  | sqrt => "Sqrt"
  | linear => "Linear"

/-- The kernel for an activation of a graph. -/
def ofLayer : ActivationFunction → ActivationKernel
  | .sigmoid => logistic
  | .tanH => tanh
  | .linear => linear
  | .reLu => relu
  | .boundedReLu => luBoundedRelu
  | .softReLu => softRelu
  | .leakyReLu => leakyRelu
  | .abs => abs
  | .sqrt => sqrt
  | .square => square

/-- Whether a function is computed through an approximation of a transcendental function. -/
def isTranscendental : ActivationKernel → Bool
  | logistic | tanh | softRelu => true
  | _ => false

/-- The function at one element, with the constants `a` and `b`. -/
def apply (function : ActivationKernel) (a b x : Single) : Single :=
  match function with
  | logistic => Single.one.div (Single.one.add x.neg.exp)
  | tanh => a.mul (b.mul x).tanh
  | relu => x.max Single.zero
  | boundedRelu => a.min (x.max Single.zero)
  | luBoundedRelu => a.min (x.max b)
  | leakyRelu => if Single.zero.lt x then x else a.mul x
  | softRelu => x.exp.log1p
  | abs => x.abs
  | square => x.mul x
  | sqrt => x.sqrt
  | linear => (a.mul x).add b

end ActivationKernel

/-- An activation as the kernel library runs it. -/
structure ActivationInfo where
  function : ActivationKernel
  a : Single := Single.zero
  b : Single := Single.zero
  deriving DecidableEq, Repr, Inhabited

/-- The kernel for an activation of a graph, with its constants. -/
def ActivationInfo.ofLayer (p : Activation) : ActivationInfo where
  function := .ofLayer p.function
  a := p.a
  b := p.b

/-- One element of an activation. -/
def ActivationInfo.apply (info : ActivationInfo) (x : Single) : Single :=
  info.function.apply info.a info.b x

/-- The output of a kernel that goes over input and output at once and writes each image as it comes
to it.  It stops at the shorter of the two: what is beyond is left as it was. -/
def writeOver {α β : Type} (kernel : α → β) : List α → List β → List β
  | x :: input, _ :: output => kernel x :: writeOver kernel input output
  | _, output => output

theorem writeOver_nil {α β : Type} (kernel : α → β) (output : List β) :
    writeOver kernel [] output = output := by
  cases output with
  | nil => rfl
  | cons y output => rfl

theorem length_writeOver {α β : Type} (kernel : α → β) (input : List α) (output : List β) :
    (writeOver kernel input output).length = output.length := by
  induction input generalizing output with
  | nil => rw [writeOver_nil]
  | cons x input ih =>
      cases output with
      | nil => rfl
      | cons y output => rw [writeOver, List.length_cons, List.length_cons, ih]

end NeuralBackend.Kernel
