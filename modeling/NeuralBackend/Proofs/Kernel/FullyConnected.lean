import NeuralBackend.Proofs.Products

/-!
# Elements of a fully connected layer

A fully connected layer reads its input as rows of features, one row for each index of the outermost
dimension.  No element may be lost or read twice in doing so: **`fullyConnected_conserves`** says
that the inputs of the weights times the number of rows is the number of elements of the input, for
every rank, and that nothing else is asked of the shape of the input.

**Rank.**  A scalar is one row of one feature, and a vector is as many rows of one feature as it has
elements.  Both come out of one equation, `product_dropLast_mul_getLastD`, in which the outermost
dimension of a scalar is one.

**Empty dimensions.**  Over an empty batch the equation says nothing about the features, so the
converse asks for an input without empty dimensions.
-/

namespace NeuralBackend

/-- The outermost dimension times all the others; the one of a scalar is one. -/
lemma product_dropLast_mul_getLastD (dims : List UInt32) :
    product dims.dropLast * (dims.getLastD 1).toNat = product dims := by
  rcases List.eq_nil_or_concat' dims with rfl | ⟨inner, d, rfl⟩ <;> simp [product]

namespace Kernel

variable {input weights output : Operand} {biases : Option Operand} {transposed : Bool}
  {inputs outputs : UInt32}

lemma rowCount_eq_getLastD (input : Operand) : rowCount input = input.dims.getLastD 1 := by
  rw [rowCount, Operand.rank, Operand.dim]
  rcases List.eq_nil_or_concat' input.dims with h | ⟨inner, d, h⟩ <;> simp [h]

/-- The two dimensions of the weights are their inputs and outputs, in the order that transposition
says. -/
lemma weights_dims_iff :
    weights.dims = (if transposed then [inputs, outputs] else [outputs, inputs]) ↔
      weights.rank = 2 ∧ weightInputs weights transposed = inputs ∧
        weightOutputs weights transposed = outputs := by
  rw [Operand.rank, List.length_eq_two, weightInputs, weightOutputs, Operand.dim, Operand.dim]
  constructor
  · intro h
    cases transposed <;> simp_all
  · rintro ⟨⟨a, b, h⟩, hinputs, houtputs⟩
    cases transposed <;> simp_all

/-- The shapes of a fully connected layer that go together: weights from `inputs` to `outputs`, an
input that has `inputs` features in each row, an output of as many rows, and a bias, if there is
one, for each output. -/
structure Connects (input weights : Operand) (biases : Option Operand) (output : Operand)
    (transposed : Bool) (inputs outputs : UInt32) : Prop where
  weights_dims : weights.dims = if transposed then [inputs, outputs] else [outputs, inputs]
  elements : inputs.toNat * (input.dims.getLastD 1).toNat = product input.dims
  output_begins : output.Begins [outputs, input.dims.getLastD 1]
  biases_dims : ∀ b ∈ biases, b.dims = [outputs]

/-- A feature count that is there is the product of all dimensions but the outermost. -/
lemma toNat_of_featureCount? {count : UInt32} (h : featureCount? input = some count) :
    count.toNat = product input.dims.dropLast := by
  rw [featureCount?_eq, Option.ite_none_right_eq_some] at h
  exact word?_eq_some_iff.1 h.2

/-- Without empty dimensions, what makes up the elements together with the number of rows is the
feature count; as the inputs of weights it fits a word. -/
lemma featureCount?_of_elements (hzero : 0 ∉ input.dims)
    (h : inputs.toNat * (input.dims.getLastD 1).toNat = product input.dims) :
    featureCount? input = some inputs := by
  have hpos : 0 < product input.dims := by
    simpa [upToZero_of_not_mem hzero] using product_upToZero_pos input.dims
  rw [← h] at hpos
  have hfeatures : inputs.toNat = product input.dims.dropLast := by
    rw [← product_dropLast_mul_getLastD] at h
    exact Nat.eq_of_mul_eq_mul_right (Nat.pos_of_mul_pos_left hpos) h
  have hzero' : 0 ∉ input.dims.dropLast := fun hmem => hzero (List.dropLast_subset _ hmem)
  rw [featureCount?_eq, upToZero_of_not_mem hzero', ← hfeatures, if_pos inputs.toNat_lt_size]
  exact word?_eq_some_iff.2 rfl

/-- The check, with the shapes that go together named: besides one type it asks for these and for
the feature count that they are about. -/
lemma checkFullyConnected_ok_iff_connects :
    checkFullyConnected input weights biases output transposed = .ok () ↔
      ((input.dataType = .float16 ∨ input.dataType = .float32) ∧
        ∀ x ∈ [weights, output] ++ biases.toList, x.dataType = input.dataType) ∧
      ∃ inputs outputs, featureCount? input = some inputs ∧
        Connects input weights biases output transposed inputs outputs := by
  rw [checkFullyConnected_ok_iff, mem_floatTypes_iff, rowCount_eq_getLastD]
  constructor
  · rintro ⟨hfloat, hweights, houtput, hrank, hfeatures, hbias, hbegins⟩
    refine ⟨⟨hfloat, ?_⟩, _, _, hfeatures, weights_dims_iff.2 ⟨hrank, rfl, rfl⟩, ?_, hbegins, ?_⟩
    · simpa [hweights.symm, houtput.symm] using fun b hb => (hbias b hb).1.symm
    · rw [toNat_of_featureCount? hfeatures, product_dropLast_mul_getLastD]
    · exact fun b hb => Operand.vector_iff.1 (hbias b hb).2
  · rintro ⟨⟨hfloat, htypes⟩, inputs, outputs, hfeatures, hdims, -, hbegins, hbias⟩
    obtain ⟨hrank, rfl, rfl⟩ := weights_dims_iff.1 hdims
    have htype : ∀ x ∈ [weights, output] ++ biases.toList, input.dataType = x.dataType :=
      fun x hx => (htypes x hx).symm
    refine ⟨hfloat, htype _ (by simp), htype _ (by simp), hrank, hfeatures, fun b hb => ?_, hbegins⟩
    exact ⟨htype b (by simp [Option.mem_def.1 hb]), Operand.vector_iff.2 (hbias b hb)⟩

/-- **Elements are conserved.**  An accepted fully connected layer has operands of one floating
point type, and its shapes go together: the inputs of the weights times the number of rows, over the
natural numbers, is the number of elements of the input, the output begins with outputs and rows,
and a bias is a vector with an element for each output.  The features of a row then fit a word.
Conversely, if no dimension of the input is empty, one type and shapes that go together suffice. -/
theorem fullyConnected_conserves (input weights output : Operand) (biases : Option Operand)
    (transposed : Bool) :
    let accepted := checkFullyConnected input weights biases output transposed = .ok ()
    let typed := (input.dataType = .float16 ∨ input.dataType = .float32) ∧
      ∀ x ∈ [weights, output] ++ biases.toList, x.dataType = input.dataType
    (accepted → typed ∧ product input.dims.dropLast < UInt32.size ∧
      ∃ inputs outputs, Connects input weights biases output transposed inputs outputs) ∧
    (0 ∉ input.dims → typed →
      (∃ inputs outputs, Connects input weights biases output transposed inputs outputs) →
      accepted) := by
  intro accepted typed
  constructor
  · intro h
    obtain ⟨htyped, inputs, outputs, hfeatures, hconnects⟩ :=
      checkFullyConnected_ok_iff_connects.1 h
    refine ⟨htyped, ?_, inputs, outputs, hconnects⟩
    rw [← toNat_of_featureCount? hfeatures]
    exact inputs.toNat_lt_size
  · rintro hzero htyped ⟨inputs, outputs, hconnects⟩
    have hfeatures := featureCount?_of_elements hzero hconnects.elements
    exact checkFullyConnected_ok_iff_connects.2 ⟨htyped, inputs, outputs, hfeatures, hconnects⟩

/-- Two rows of three by four features, by way of transposed weights with a bias. -/
theorem fullyConnected_conserves_of_transposed :
    let input : Operand := ⟨[3, 4, 2], .float16, {}⟩
    let weights : Operand := ⟨[12, 5], .float16, {}⟩
    let bias : Operand := ⟨[5], .float16, {}⟩
    let output : Operand := ⟨[5, 2], .float16, {}⟩
    0 ∉ input.dims ∧ Connects input weights (some bias) output true 12 5 ∧
      checkFullyConnected input weights (some bias) output true = .ok () ∧
      product input.dims.dropLast < UInt32.size := by
  intro input weights bias output
  obtain ⟨hfits, hsuffices⟩ := fullyConnected_conserves input weights output (some bias) true
  have hconnects : Connects input weights (some bias) output true 12 5 :=
    ⟨rfl, by decide, by decide, by simp [bias]⟩
  have hok := hsuffices (by decide) (by decide) ⟨12, 5, hconnects⟩
  exact ⟨by decide, hconnects, hok, (hfits hok).2.1⟩

/-- Over an empty batch any number of inputs makes up the elements, but the features are five. -/
example :
    let input : Operand := ⟨[5, 0], .float32, {}⟩
    7 * 0 = product input.dims ∧
      checkFullyConnected input ⟨[3, 7], .float32, {}⟩ none ⟨[3, 0], .float32, {}⟩ false
        = .error ⟨.fullyConnected, .weightInputs 7 5⟩ := by
  decide

end Kernel

end NeuralBackend
