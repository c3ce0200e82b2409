import NeuralBackend.Tensor.DataType
import NeuralBackend.Tensor.Shape

/-!
# Faults

A negative answer of a support query is not a fault; a fault is raised when a tensor or a workload
is built from operands that never passed validation, or when a configuration makes no sense.

* `Breach` lists the broken preconditions, `ConfigProblem` the configurations that are refused.
* `Fault.message` puts a fault into words.
* `Fault.category` says whose mistake it is: a calling program's, a user's, or this library's own.
-/

namespace NeuralBackend

/-- Broken preconditions, other than a wrong number or type of operands. -/
inductive Breach
  /-- The declared type of a tensor is not the type of the data it holds. -/
  | storageType (declared held : DataType)
  /-- The number of elements does not fit 64 bits. -/
  | tooManyElements (shape : Shape)
  | elementCount (shape : Shape) (needed held : Nat)
  /-- There is no host storage for the type. -/
  | noHostStorage (dataType : DataType)
  | shapeMismatch (workload : String) (input output : Shape)
  /-- A bound tensor was replaced by one the workload cannot run on. -/
  | reboundStorage (workload : String)
  /-- Any other precondition, in the words of whoever checked it. -/
  | stated (text : String)
  deriving DecidableEq, Repr, Inhabited

/-- The breach in words. -/
def Breach.text : Breach → String
  | storageType declared held =>
      "tensor declared as " ++ declared.name ++ " but holds " ++ held.name ++ " data"
  | tooManyElements shape =>
      "tensor of shape " ++ shape.text ++ " has more elements than fit in memory"
  | elementCount shape needed held =>
      "tensor of shape " ++ shape.text ++ " needs " ++ toString needed ++ " elements, got " ++
        toString held
  | noHostStorage t => "no host storage for " ++ t.name ++ " tensors"
  | shapeMismatch workload input output =>
      workload ++ ": input shape " ++ input.text ++ " does not match output shape " ++ output.text
  | reboundStorage workload =>
      workload ++ ": bound tensor storage changed since construction"
  | stated text => text

/-- The errors of the operating system that opening a log file can meet. -/
inductive SystemError
  | notFound
  | fileExists
  | notADirectory
  | isADirectory
  | nameTooLong
  /-- A path holds the character NUL, which no name can. -/
  | nulInPath
  deriving DecidableEq, Repr, Inhabited

/-- The error in the operating system's words. -/
def SystemError.text : SystemError → String
  | notFound => "No such file or directory (os error 2)"
  | fileExists => "File exists (os error 17)"
  | notADirectory => "Not a directory (os error 20)"
  | isADirectory => "Is a directory (os error 21)"
  | nameTooLong => "File name too long (os error 36)"
  | nulInPath => "file name contained an unexpected NUL byte"

/-- Configurations that are refused. -/
inductive ConfigProblem
  | unknownLevel (text : String)
  | unknownFormat (text : String)
  | notBoolean (variableName value : String)
  | badFilter (directives : String)
  | logDirectory (path : String) (error : SystemError)
  | logFile (path : String) (error : SystemError)
  /-- Any other problem, in the words of whoever found it. -/
  | stated (text : String)
  deriving DecidableEq, Repr, Inhabited

/-- The problem in words. -/
def ConfigProblem.text : ConfigProblem → String
  | unknownLevel text => "unknown log level '" ++ text ++ "'"
  | unknownFormat text => "unknown log format '" ++ text ++ "'"
  | notBoolean variableName value =>
      variableName ++ " must be a boolean, got '" ++ value ++ "'"
  | badFilter directives => "invalid RUST_LOG '" ++ directives ++ "'"
  | logDirectory path error => "cannot create log directory " ++ path ++ ": " ++ error.text
  | logFile path error => "cannot open log file " ++ path ++ ": " ++ error.text
  | stated text => text

/-- Whose mistake a fault is. -/
inductive FaultCategory
  /-- A calling program broke a precondition. -/
  | contract
  /-- The configuration has to be changed. -/
  | user
  /-- This library is wrong. -/
  | internal
  deriving DecidableEq, Repr, Inhabited

/-- The name of a category. -/
def FaultCategory.name : FaultCategory → String
  | contract => "Contract"
  | user => "User"
  | internal => "Internal"

/-- Everything that can go wrong while a workload is built, run or configured. -/
inductive Fault
  | operandCount (workload : String)
      (expectedInputs expectedOutputs actualInputs actualOutputs : Nat)
  | dataTypeMismatch (workload : String) (expected actual : DataType)
  | contractViolation (breach : Breach)
  | invalidConfiguration (problem : ConfigProblem)
  | internalError (detail : String)
  deriving DecidableEq, Repr, Inhabited

namespace Fault

/-- The name of the kind of fault. -/
def kindName : Fault → String
  | operandCount .. => "InvalidOperandCount"
  | dataTypeMismatch .. => "DataTypeMismatch"
  | contractViolation _ => "ContractViolation"
  | invalidConfiguration _ => "InvalidConfiguration"
  | internalError _ => "InternalError"

/-- The fault in words. -/
def message : Fault → String
  | operandCount workload expectedInputs expectedOutputs actualInputs actualOutputs =>
      workload ++ ": expected " ++ toString expectedInputs ++ " input(s) and " ++
        toString expectedOutputs ++ " output(s), got " ++ toString actualInputs ++ " and " ++
        toString actualOutputs
  | dataTypeMismatch workload expected actual =>
      workload ++ ": expected " ++ expected.name ++ " data, got " ++ actual.name
  | contractViolation breach => "Contract violation: " ++ breach.text
  | invalidConfiguration problem => "Invalid configuration: " ++ problem.text
  | internalError detail => "Internal error: " ++ detail

/-- Whose mistake the fault is. -/
def category : Fault → FaultCategory
  | operandCount .. | dataTypeMismatch .. | contractViolation _ => .contract
  | invalidConfiguration _ => .user
  | internalError _ => .internal

/-- Whether the operation has to be given up: trying again can only fail in the same way. -/
def isFatal (f : Fault) : Bool := f.category == .contract || f.category == .internal

/-- Whether a user can mend the fault. -/
def isUserError (f : Fault) : Bool := f.category == .user

end Fault

/-- The number of inputs and outputs is the expected one. -/
def requireOperandCount (workload : String)
    (expectedInputs expectedOutputs actualInputs actualOutputs : Nat) : Except Fault Unit :=
  if expectedInputs = actualInputs ∧ expectedOutputs = actualOutputs then .ok ()
  else .error (.operandCount workload expectedInputs expectedOutputs actualInputs actualOutputs)

end NeuralBackend
