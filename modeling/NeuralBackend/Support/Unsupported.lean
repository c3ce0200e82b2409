import NeuralBackend.Layer.Kind
import NeuralBackend.Tensor.DataType

/-!
# Answers of a support query

A query is answered by `Support`: the layer can run, or it cannot and there is a reason.  The reason
is kept as a cause; `Unsupported.reason` puts it into words.
-/

namespace NeuralBackend

/-- Why a layer cannot run on this backend. -/
inductive Unsupported
  /-- The backend is not available. -/
  | unavailable
  /-- The rule for the operand's type rejects it, with the rule's own words. -/
  | rejectedType (reason : String)
  /-- There is no rule for the operand's type. -/
  | typeWithoutRule (dataType : DataType)
  /-- A layer that is judged by its first operand has none. -/
  | noInput (kind : LayerKind)
  | quantisedFullyConnected
  | normalizationMethod
  | normalizationSize
  /-- No kernel exists for the kind. -/
  | notImplemented (kind : LayerKind)
  /-- The kernel library refused the layer, with its own description. -/
  | refused (description : String)
  deriving DecidableEq, Repr, Inhabited

/-- The reason in words. -/
def Unsupported.reason : Unsupported → String
  | unavailable => "The library has been built without NEON support"
  | rejectedType reason => reason
  | typeWithoutRule t => "Unsupported data type " ++ t.name
  | noInput kind => kind.name ++ " requires at least one input"
  | quantisedFullyConnected => "Fully connected layer is not implemented for QAsymm8 input"
  | normalizationMethod =>
      "Unsupported normalisation method type, only LocalBrightness is supported"
  | normalizationSize => "Normalization size must be an odd number."
  | notImplemented kind => kind.name ++ " is not implemented for the NEON backend"
  | refused description => description

/-- The answer of a support query. -/
abbrev Support := Except Unsupported Unit

end NeuralBackend
