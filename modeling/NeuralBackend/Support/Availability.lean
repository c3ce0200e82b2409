import NeuralBackend.Support.Unsupported

/-!
# Availability of the backend

Whether the kernel library is part of the build.
-/

namespace NeuralBackend

/-- Whether the backend can be used at all. -/
inductive Availability
  | enabled
  | disabled
  deriving DecidableEq, Repr, Inhabited

namespace Availability

/-- The name of an availability. -/
def name : Availability → String
  | enabled => "Enabled"
  | disabled => "Disabled"

/-- Whether the backend can be used. -/
def isEnabled (a : Availability) : Bool := a == enabled

/-- The availability in this build, which holds the kernel library. -/
def build : Availability := enabled

/-- An available backend passes; any layer of an unavailable one is unsupported. -/
def check : Availability → Support
  | enabled => .ok ()
  | disabled => .error .unavailable

end Availability

end NeuralBackend
