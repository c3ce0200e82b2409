import NeuralBackend.Kernel.Check.Basic
import NeuralBackend.Number.Word

/-!
# Checks of layers that rearrange their input

Permutations of dimensions, and the fully connected layer, which reads its input as one row of
features per batch item.
-/

namespace NeuralBackend.Kernel

/-- A permutation of dimensions: source dimension `i` of the input is destination dimension
`entries[i]` of the output. -/
def checkPermute (input output : Operand) (p : PermutationVector) : Verdict := do
  let routine := Routine.permute
  routine.requireSameType input output
  routine.require (p.IsValid ∧ p.rank = input.rank) (.permutation p input.rank)
  routine.require
    ((p.entries.zip input.dims).all fun pair => output.dim pair.1.toNat = pair.2)
    (.permutedShape output.dims)

/-- The number of features of an input: the product of all dimensions but the outermost, taken from
the inside out; `none` when a partial product does not fit a word. -/
def featureCount? (input : Operand) : Option UInt32 :=
  input.dims.dropLast.foldlM (fun count d => word? (count.toNat * d.toNat)) 1

/-- The number of rows of features: the outermost dimension, or one for a scalar. -/
def rowCount (input : Operand) : UInt32 := input.dim (input.rank - 1)

/-- A fully connected layer.  Innermost first, its weights are `[outputs, inputs]`, or `[inputs,
outputs]` when they are transposed. -/
def checkFullyConnected (input weights : Operand) (biases : Option Operand) (output : Operand)
    (transposeWeights : Bool) : Verdict := do
  let routine := Routine.fullyConnected
  routine.requireType input floatTypes
  routine.requireSameType input weights
  routine.requireSameType input output
  routine.require (weights.rank = 2) (.weightRank "2")
  let features ← routine.demand (featureCount? input) .featureCount
  let inputs := if transposeWeights then weights.dim 0 else weights.dim 1
  let outputs := if transposeWeights then weights.dim 1 else weights.dim 0
  routine.require (inputs = features) (.weightInputs inputs features)
  match biases with
  | none => pure ()
  | some biases =>
      routine.requireSameType input biases
      routine.requireVector "biases" biases outputs
  routine.require (output.dim 0 = outputs ∧ output.dim 1 = rowCount input)
    (.outputShape output.dims [outputs, rowCount input])

end NeuralBackend.Kernel
