import NeuralBackend.Fault
import NeuralBackend.Number.Half
import NeuralBackend.Tensor.Info

/-!
# Tensors in memory

A `HostTensor` is a description together with elements.  Two facts hold of every one of them and are
part of its type: the elements have the declared type, and there are as many as the shape asks for.
Writing an element keeps both.

* `HostTensor.make` is the only way in, and `HostTensor.zeros` the shorthand for a blank tensor.
* `HostTensor.write?` changes one element through the view of its type.
* A `TensorView` shows the elements of a tensor as numbers of one type, and `HostTensor.update?`
  changes them through it, all at once.
* `TensorSource` is a recipe for a tensor, which may turn out not to make one.
-/

namespace NeuralBackend

/-- The elements of a tensor. -/
inductive TensorData
  | float32 (values : List Single)
  | float16 (values : List Half)
  deriving DecidableEq, Repr, Inhabited

namespace TensorData

/-- The number of elements. -/
def length : TensorData → Nat
  | float32 values => values.length
  | float16 values => values.length

/-- The type of the elements. -/
def dataType : TensorData → DataType
  | float32 _ => .float32
  | float16 _ => .float16

/-- The elements, if they are single precision numbers. -/
def float32? : TensorData → Option (List Single)
  | float32 values => some values
  | float16 _ => none

/-- The elements, if they are half precision numbers. -/
def float16? : TensorData → Option (List Half)
  | float32 _ => none
  | float16 values => some values

/-- `count` zeros of a type, if the type has storage. -/
def zeros? (count : Nat) : DataType → Option TensorData
  | .float32 => some (.float32 (List.replicate count Single.zero))
  | .float16 => some (.float16 (List.replicate count Half.zero))
  | _ => none

theorem dataType_of_zeros? {count : Nat} {t : DataType} {data : TensorData}
    (h : zeros? count t = some data) : data.dataType = t := by
  cases t <;> simp only [zeros?, Option.some.injEq, reduceCtorEq] at h <;> subst h <;> rfl

theorem length_of_zeros? {count : Nat} {t : DataType} {data : TensorData}
    (h : zeros? count t = some data) : data.length = count := by
  cases t <;> simp only [zeros?, Option.some.injEq, reduceCtorEq] at h <;> subst h <;>
    simp [length]

end TensorData

/-- One element to be written, of either type. -/
inductive Element
  | float32 (value : Single)
  | float16 (value : Half)
  deriving DecidableEq, Repr, Inhabited

/-- The data with element `index` replaced, if the element has the type of the data.  There is
nothing to replace beyond the end. -/
def TensorData.set? : TensorData → Nat → Element → Option TensorData
  | .float32 values, index, .float32 value => some (.float32 (values.set index value))
  | .float16 values, index, .float16 value => some (.float16 (values.set index value))
  | _, _, _ => none

theorem TensorData.set?_keeps {data data' : TensorData} {index : Nat} {e : Element}
    (h : data.set? index e = some data') :
    data'.dataType = data.dataType ∧ data'.length = data.length := by
  cases data <;> cases e <;> simp only [set?, Option.some.injEq, reduceCtorEq] at h <;>
    subst h <;> simp [dataType, length]

/-- A view of the elements of a tensor as numbers: data of one type, and only that, is made of such
numbers. -/
structure TensorView (α : Type) where
  dataType : DataType
  read? : TensorData → Option (List α)
  pack : List α → TensorData
  read?_eq_some_iff {data : TensorData} {xs : List α} : read? data = some xs ↔ data = pack xs
  exists_eq_pack {data : TensorData} (h : data.dataType = dataType) : ∃ xs, data = pack xs
  dataType_pack (xs : List α) : (pack xs).dataType = dataType
  length_pack (xs : List α) : (pack xs).length = xs.length

namespace TensorView

/-- The view of single precision numbers. -/
def float32 : TensorView Single where
  dataType := .float32
  read? := TensorData.float32?
  pack := .float32
  read?_eq_some_iff {data xs} := by
    cases data <;> simp [TensorData.float32?]
  exists_eq_pack {data} h := by
    cases data with
    | float32 values => exact ⟨values, rfl⟩
    | float16 values => cases h
  dataType_pack _ := rfl
  length_pack _ := rfl

/-- The view of half precision numbers. -/
def float16 : TensorView Half where
  dataType := .float16
  read? := TensorData.float16?
  pack := .float16
  read?_eq_some_iff {data xs} := by
    cases data <;> simp [TensorData.float16?]
  exists_eq_pack {data} h := by
    cases data with
    | float32 values => cases h
    | float16 values => exact ⟨values, rfl⟩
  dataType_pack _ := rfl
  length_pack _ := rfl

variable {α : Type} {view : TensorView α} {data : TensorData} {xs ys : List α}

/-- As many other numbers under a view make data of the same type and length. -/
theorem pack_keeps (h : view.read? data = some xs) (hlength : ys.length = xs.length) :
    (view.pack ys).dataType = data.dataType ∧ (view.pack ys).length = data.length := by
  rw [view.read?_eq_some_iff.1 h, view.dataType_pack, view.dataType_pack, view.length_pack,
    view.length_pack]
  exact ⟨rfl, hlength⟩

end TensorView

/-- A description with elements of the declared type and number. -/
structure HostTensor where
  info : TensorInfo
  data : TensorData
  dataType_eq : info.dataType = data.dataType
  elementCount_eq : info.elementCount? = some data.length
  deriving DecidableEq, Repr

namespace HostTensor

/-- The tensor with the given description and elements.  A wrong type of elements is reported before
a count beyond 64 bits, and that before a wrong number of elements. -/
def make (info : TensorInfo) (data : TensorData) : Except Fault HostTensor :=
  if hType : info.dataType = data.dataType then
    match hCount : info.elementCount? with
    | none => .error (.contractViolation (.tooManyElements info.shape))
    | some count =>
        if hLength : count = data.length then
          .ok ⟨info, data, hType, hLength ▸ hCount⟩
        else .error (.contractViolation (.elementCount info.shape count data.length))
  else .error (.contractViolation (.storageType info.dataType data.dataType))

/-- A tensor of zeros.  A count beyond 64 bits is reported before a type without storage. -/
def zeros (info : TensorInfo) : Except Fault HostTensor :=
  match hCount : info.elementCount? with
  | none => .error (.contractViolation (.tooManyElements info.shape))
  | some count =>
      match hData : TensorData.zeros? count info.dataType with
      | none => .error (.contractViolation (.noHostStorage info.dataType))
      | some data =>
          .ok ⟨info, data, (TensorData.dataType_of_zeros? hData).symm,
            hCount.trans (congrArg some (TensorData.length_of_zeros? hData).symm)⟩

/-- The tensor with other elements of the same type and number. -/
def withData (t : HostTensor) (data : TensorData)
    (h : data.dataType = t.data.dataType ∧ data.length = t.data.length) : HostTensor where
  info := t.info
  data := data
  dataType_eq := t.dataType_eq.trans h.1.symm
  elementCount_eq := t.elementCount_eq.trans (congrArg some h.2.symm)

/-- The tensor with element `index` replaced; `none` if it has no view of the element's type. -/
def write? (t : HostTensor) (index : Nat) (e : Element) : Option HostTensor :=
  match h : t.data.set? index e with
  | none => none
  | some data => some (t.withData data (TensorData.set?_keeps h))

/-- The tensor with the numbers that a view shows replaced by as many others; `none` if it does not
have the view. -/
def update? {α : Type} (t : HostTensor) (view : TensorView α) (f : List α → List α)
    (hf : ∀ xs, (f xs).length = xs.length) : Option HostTensor :=
  match h : view.read? t.data with
  | none => none
  | some xs => some (t.withData (view.pack (f xs)) (TensorView.pack_keeps h (hf xs)))

end HostTensor

/-- A recipe for a tensor. -/
inductive TensorSource
  /-- A description and elements. -/
  | declared (info : TensorInfo) (data : TensorData)
  /-- A shape and elements; the type is that of the elements. -/
  | ofData (shape : Shape) (data : TensorData)
  | zeros (info : TensorInfo)
  deriving DecidableEq, Repr, Inhabited

/-- The tensor that a recipe makes. -/
def TensorSource.build : TensorSource → Except Fault HostTensor
  | declared info data => HostTensor.make info data
  | ofData shape data => HostTensor.make { shape, dataType := data.dataType } data
  | zeros info => HostTensor.zeros info

end NeuralBackend
