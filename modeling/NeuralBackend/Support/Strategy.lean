import NeuralBackend.Support.TypeRules

/-!
# How each kind of layer is judged

`Strategy.of` is the table that says, for every kind of layer, how a query about it is answered.
-/

namespace NeuralBackend

/-- A way to answer a query. -/
inductive Strategy
  /-- The kernel library decides. -/
  | native
  /-- The type of the first operand decides. -/
  | dataType (rules : TypeRules)
  /-- A quantised first operand is refused; otherwise the kernel library decides. -/
  | fullyConnected
  /-- Method and size are looked at first; then the kernel library decides. -/
  | normalization
  /-- There is no kernel. -/
  | unimplemented
  /-- Supported whatever the operands, and even when the backend is unavailable. -/
  | alwaysSupported
  deriving DecidableEq, Repr, Inhabited

namespace Strategy

/-- The strategy as a trace shows it. -/
def text : Strategy → String
  | native => "Native"
  | dataType rules => "DataType(" ++ rules.text ++ ")"
  | fullyConnected => "FullyConnected"
  | normalization => "Normalization"
  | unimplemented => "Unimplemented"
  | alwaysSupported => "AlwaysSupported"

/-- Whether the backend must be available. -/
def isGated : Strategy → Bool
  | alwaysSupported => false
  | _ => true

/-- Whether the kernel library may be asked. -/
def usesKernelValidation : Strategy → Bool
  | native | fullyConnected | normalization => true
  | _ => false

/-- The strategy for a kind of layer. -/
def of : LayerKind → Strategy
  | .activation | .addition | .batchNormalization | .convolution2d | .depthwiseConvolution2d
  | .l2Normalization | .multiplication | .permute | .pooling2d | .softmax => native
  | .constant | .input | .output | .reshape | .splitter | .merger =>
      dataType .floatOrQuantised
  | .floor => dataType .float32Only
  | .fullyConnected => fullyConnected
  | .normalization => normalization
  | .lstm | .fakeQuantization | .resizeBilinear => unimplemented
  | .convertFp16ToFp32 | .convertFp32ToFp16 => alwaysSupported

/-- Every kind with its strategy, in alphabetical order. -/
def table : List (LayerKind × Strategy) := LayerKind.all.map fun kind => (kind, of kind)

/-- The kinds that are judged in a given way, in alphabetical order. -/
def kindsWith (strategy : Strategy) : List LayerKind :=
  (table.filter fun entry => entry.2 = strategy).map Prod.fst

end Strategy

end NeuralBackend
