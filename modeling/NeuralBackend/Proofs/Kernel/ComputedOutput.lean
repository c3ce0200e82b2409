import NeuralBackend.Proofs.Kernel.Check.Rearranged
import NeuralBackend.Proofs.Kernel.Check.Windowed

/-!
# Which outputs a computed shape leaves open

The two convolutions, pooling, the fully connected layer and permutations compute the shape of their
output from the other operands.  Each of their checks compares the output with it at a fixed number
of innermost indices: four, four, four, two, and the rank of the input.

**One form for the five checks.**  `ComputedLayer` is such a layer with all its operands but the
output, `ComputedLayer.outputDims?` the computed shape and `ComputedLayer.comparedRank` the number
of indices.  By `ComputedLayer.check_ok_iff` a check splits into what it asks of the other operands,
the type of the output, and the comparison with the computed shape.

**What follows for the output.**  The comparison ends at the compared rank, whereas shapes are equal
when they agree at every index.  **`ComputedLayer.accepted_outputs`** draws the line: two accepted
outputs have one shape exactly when they agree beyond the compared rank, and nothing makes them
agree there.
-/

namespace NeuralBackend.Kernel

/-- A layer whose output has a computed shape, with all operands but the output. -/
inductive ComputedLayer
  | convolution (input weights : Operand) (biases : Option Operand) (window : PadStride)
  | depthwiseConvolution (input weights : Operand) (biases : Option Operand) (window : PadStride)
  | pooling (input : Operand) (info : PoolingInfo)
  | fullyConnected (input weights : Operand) (biases : Option Operand) (transposed : Bool)
  | permute (input : Operand) (p : PermutationVector)

namespace ComputedLayer

/-- The check of the layer with an output. -/
def check : ComputedLayer → Operand → Verdict
  | convolution input weights biases window, output =>
      checkConvolution input weights biases output window
  | depthwiseConvolution input weights biases window, output =>
      checkDepthwiseConvolution input weights biases output window
  | pooling input info, output => checkPooling input output info
  | fullyConnected input weights biases transposed, output =>
      checkFullyConnected input weights biases output transposed
  | permute input p, output => checkPermute input output p

/-- The operand that the layer is applied to. -/
def input : ComputedLayer → Operand
  | convolution input .. | depthwiseConvolution input .. | pooling input _
  | fullyConnected input .. | permute input _ => input

/-- The number of indices at which the check looks at the output. -/
def comparedRank : ComputedLayer → Nat
  | convolution .. | depthwiseConvolution .. | pooling .. => 4
  | fullyConnected .. => 2
  | permute input _ => input.rank

/-- The computed shape of the output, innermost dimension first. -/
def outputDims? : ComputedLayer → Option (List UInt32)
  | convolution input weights _ window =>
      (window.planeCount? input.width input.height weights.width weights.height).map
        fun plane => [plane.1, plane.2, weights.dim 3, input.batch]
  | depthwiseConvolution input weights _ window =>
      (word? ((weights.dim 2).toNat * (weights.dim 3).toNat)).bind fun channels =>
        (window.planeCount? input.width input.height weights.width weights.height).map
          fun plane => [plane.1, plane.2, channels, input.batch]
  | pooling input info =>
      (info.window.planeCount? input.width input.height info.sizeX info.sizeY).map
        fun plane => [plane.1, plane.2, input.channels, input.batch]
  | fullyConnected input weights _ transposed =>
      some [weightOutputs weights transposed, rowCount input]
  | permute input p => some (permutedDims p input)

/-- What the check asks of everything but the output. -/
def Admits : ComputedLayer → Prop
  | convolution input weights biases _ =>
      input.dataType ∈ floatOrQuantisedTypes ∧ input.dataType = weights.dataType ∧
      input.rank ≤ 4 ∧ weights.rank = 4 ∧ weights.dim 2 = input.channels ∧
      BiasFits input biases (weights.dim 3)
  | depthwiseConvolution input weights biases _ =>
      input.dataType ∈ floatOrQuantisedTypes ∧ input.dataType = weights.dataType ∧
      input.rank ≤ 4 ∧ (weights.rank = 3 ∨ weights.rank = 4) ∧ weights.dim 2 = input.channels ∧
      ∀ channels ∈ word? ((weights.dim 2).toNat * (weights.dim 3).toNat),
        BiasFits input biases channels
  | pooling input info =>
      input.dataType ∈ floatOrQuantisedTypes ∧
      ¬(input.dataType = .quantisedAsymm8 ∧ info.poolType = .l2) ∧
      info.window.padding.left < info.sizeX ∧ info.window.padding.right < info.sizeX ∧
      info.window.padding.top < info.sizeY ∧ info.window.padding.bottom < info.sizeY
  | fullyConnected input weights biases transposed =>
      input.dataType ∈ floatTypes ∧ input.dataType = weights.dataType ∧ weights.rank = 2 ∧
      featureCount? input = some (weightInputs weights transposed) ∧
      ∀ b ∈ biases, input.dataType = b.dataType ∧ b.rank = 1 ∧
        b.dim 0 = weightOutputs weights transposed
  | permute input p => p.IsValid ∧ p.rank = input.rank

variable {c : ComputedLayer}

/-- A computed shape that comes from a number of window positions across and down. -/
lemma exists_map_iff {plane : Option (UInt32 × UInt32)} {shape : UInt32 × UInt32 → List UInt32}
    {y : Operand} :
    (∃ dims, plane.map shape = some dims ∧ y.Begins dims) ↔
      ∃ across down, plane = some (across, down) ∧ y.Begins (shape (across, down)) := by
  constructor
  · rintro ⟨dims, hdims, hbegins⟩
    obtain ⟨⟨across, down⟩, hplane, rfl⟩ := Option.map_eq_some_iff.1 hdims
    exact ⟨across, down, hplane, hbegins⟩
  · rintro ⟨across, down, hplane, hbegins⟩
    exact ⟨_, Option.map_eq_some_iff.2 ⟨_, hplane, rfl⟩, hbegins⟩

/-- A check asks something of the other operands, and the type of the input for the output; then it
compares the innermost dimensions of the output with the computed ones. -/
lemma check_ok_iff {y : Operand} :
    c.check y = .ok () ↔
      c.Admits ∧ y.dataType = c.input.dataType ∧
      ∃ dims, c.outputDims? = some dims ∧ y.Begins dims := by
  cases c with
  | convolution input weights biases window =>
      rw [check, checkConvolution_ok_iff, outputDims?, exists_map_iff]
      constructor
      · rintro ⟨htype, hweights, houtput, hrank, hweightRank, hchannels, hbias, hdims⟩
        exact ⟨⟨htype, hweights, hrank, hweightRank, hchannels, hbias⟩, houtput.symm, hdims⟩
      · rintro ⟨⟨htype, hweights, hrank, hweightRank, hchannels, hbias⟩, houtput, hdims⟩
        exact ⟨htype, hweights, houtput.symm, hrank, hweightRank, hchannels, hbias, hdims⟩
  | depthwiseConvolution input weights biases window =>
      rw [check, checkDepthwiseConvolution_ok_iff, outputDims?]
      constructor
      · rintro ⟨htype, hweights, houtput, hrank, hweightRank, hsame, channels, hchannels, hbias,
          hdims⟩
        rw [hchannels, Option.bind_some, exists_map_iff]
        refine ⟨⟨htype, hweights, hrank, hweightRank, hsame, ?_⟩, houtput.symm, hdims⟩
        intro channels' hchannels'
        rw [Option.mem_def, hchannels] at hchannels'
        rwa [← Option.some.inj hchannels']
      · rintro ⟨⟨htype, hweights, hrank, hweightRank, hsame, hbias⟩, houtput, dims, hdims, hbegins⟩
        obtain ⟨channels, hchannels, hplane⟩ := Option.bind_eq_some_iff.1 hdims
        exact ⟨htype, hweights, houtput.symm, hrank, hweightRank, hsame, channels, hchannels,
          hbias channels hchannels, exists_map_iff.1 ⟨dims, hplane, hbegins⟩⟩
  | pooling input info =>
      rw [check, checkPooling_ok_iff, outputDims?, exists_map_iff]
      constructor
      · rintro ⟨htype, houtput, hl2, hpadding, hdims⟩
        exact ⟨⟨htype, hl2, hpadding⟩, houtput.symm, hdims⟩
      · rintro ⟨⟨htype, hl2, hpadding⟩, houtput, hdims⟩
        exact ⟨htype, houtput.symm, hl2, hpadding, hdims⟩
  | fullyConnected input weights biases transposed =>
      rw [check, checkFullyConnected_ok_iff]
      constructor
      · rintro ⟨htype, hweights, houtput, hweightRank, hfeatures, hbias, hbegins⟩
        exact ⟨⟨htype, hweights, hweightRank, hfeatures, hbias⟩, houtput.symm, _, rfl, hbegins⟩
      · rintro ⟨⟨htype, hweights, hweightRank, hfeatures, hbias⟩, houtput, _, ⟨⟩, hbegins⟩
        exact ⟨htype, hweights, houtput.symm, hweightRank, hfeatures, hbias, hbegins⟩
  | permute input p =>
      rw [check, checkPermute_ok_iff]
      constructor
      · rintro ⟨houtput, hvector, hbegins⟩
        exact ⟨hvector, houtput.symm, _, rfl, hbegins⟩
      · rintro ⟨hvector, houtput, _, ⟨⟩, hbegins⟩
        exact ⟨houtput.symm, hvector, hbegins⟩

/-- The check looks at as many indices as the computed shape has dimensions. -/
lemma length_outputDims (h : c.Admits) {dims : List UInt32} (hdims : c.outputDims? = some dims) :
    dims.length = c.comparedRank := by
  cases c with
  | convolution input weights biases window =>
      obtain ⟨plane, -, rfl⟩ := Option.map_eq_some_iff.1 hdims
      rfl
  | depthwiseConvolution input weights biases window =>
      obtain ⟨channels, -, hplane⟩ := Option.bind_eq_some_iff.1 hdims
      obtain ⟨plane, -, rfl⟩ := Option.map_eq_some_iff.1 hplane
      rfl
  | pooling input info =>
      obtain ⟨plane, -, rfl⟩ := Option.map_eq_some_iff.1 hdims
      rfl
  | fullyConnected input weights biases transposed =>
      cases hdims
      rfl
  | permute input p =>
      obtain ⟨-, hrank⟩ := h
      cases hdims
      rw [permutedDims, List.length_map, List.length_range]
      exact hrank

/-- Once one output is accepted, the others are those of its type that begin with the computed
dimensions. -/
lemma exists_dims_of_check_ok {y : Operand} (h : c.check y = .ok ()) :
    ∃ dims, c.outputDims? = some dims ∧ dims.length = c.comparedRank ∧
      ∀ y', c.check y' = .ok () ↔ y'.dataType = y.dataType ∧ y'.Begins dims := by
  obtain ⟨hadmits, htype, dims, hdims, -⟩ := check_ok_iff.1 h
  refine ⟨dims, hdims, length_outputDims hadmits hdims, fun y' => ?_⟩
  rw [check_ok_iff, htype]
  constructor
  · rintro ⟨-, htype', dims', hdims', hbegins'⟩
    rw [hdims, Option.some.injEq] at hdims'
    subst hdims'
    exact ⟨htype', hbegins'⟩
  · rintro ⟨htype', hbegins'⟩
    exact ⟨hadmits, htype', dims, hdims, hbegins'⟩

/-- **What a computed shape leaves open.**  An accepted output begins with the computed dimensions,
and any output of its type that does is accepted as well.  It has the computed shape exactly when
all its other dimensions are one, and the shape of another accepted output exactly when the two
agree in these; there is always one with which it does not. -/
theorem accepted_outputs {y : Operand} (h : c.check y = .ok ()) :
    ∃ dims, c.outputDims? = some dims ∧ dims.length = c.comparedRank ∧ y.Begins dims ∧
      (∀ y', c.check y' = .ok () ↔ y'.dataType = y.dataType ∧ y'.Begins dims) ∧
      (y.sameShape { dims, dataType := y.dataType } = true ↔
        ∀ i, c.comparedRank ≤ i → y.dim i = 1) ∧
      (∀ y', c.check y' = .ok () →
        (y.sameShape y' = true ↔ ∀ i, c.comparedRank ≤ i → y.dim i = y'.dim i)) ∧
      ∃ y', c.check y' = .ok () ∧ ¬y.sameShape y' = true := by
  obtain ⟨dims, hdims, hlength, hcheck⟩ := exists_dims_of_check_ok h
  have hy : y.Begins dims := ((hcheck y).1 h).2
  have hshape : ∀ y', c.check y' = .ok () →
      (y.sameShape y' = true ↔ ∀ i, c.comparedRank ≤ i → y.dim i = y'.dim i) := by
    intro y' h'
    rw [← hlength]
    exact hy.sameShape_iff ((hcheck y').1 h').2
  refine ⟨dims, hdims, hlength, hy, hcheck, ?_, hshape, ?_⟩
  · have hself : Operand.Begins { dims, dataType := y.dataType } dims := fun _ _ => rfl
    rw [hy.sameShape_iff hself, hlength]
    refine forall_congr' fun i => imp_congr_right fun hi => ?_
    rw [Operand.dim_of_rank_le (x := { dims, dataType := y.dataType })]
    exact hlength.trans_le hi
  · -- one more dimension, other than the one `y` has at that index
    let extended : Operand :=
      { dims := dims ++ [y.dim dims.length + 1], dataType := y.dataType }
    have hbegins : extended.Begins dims := fun i hi => List.getD_append _ _ _ _ hi
    have hnext : extended.dim dims.length = y.dim dims.length + 1 := by
      simp [extended, Operand.dim]
    have hok : c.check extended = .ok () := (hcheck extended).2 ⟨rfl, hbegins⟩
    refine ⟨extended, hok, fun hsame => ?_⟩
    have hequal := (hshape extended hok).1 hsame dims.length hlength.ge
    rw [hnext] at hequal
    exact absurd hequal (by simp)

/-- A pooling of planes of four by four accepts an output that holds the computed shape five
times. -/
theorem accepted_outputs_of_pooling :
    let c := pooling ⟨[4, 4, 3, 1], .float32, {}⟩ (.ofLayer (.ofSize .max 2 2))
    let y : Operand := ⟨[2, 2, 3, 1, 5], .float32, {}⟩
    c.check y = .ok () ∧ y.dim 4 = 5 ∧
      y.sameShape { dims := [2, 2, 3, 1], dataType := .float32 } = false := by
  intro c y
  have hok : c.check y = .ok () := by decide
  obtain ⟨dims, hdims, -, -, -, hshape, -⟩ := accepted_outputs hok
  have hcomputed : dims = [2, 2, 3, 1] := Option.some.inj (hdims.symm.trans (by decide))
  rw [hcomputed] at hshape
  refine ⟨hok, rfl, Bool.eq_false_iff.2 fun hsame => ?_⟩
  exact absurd (hshape.1 hsame 4 (le_refl 4)) (by decide)

/-- The shape of an accepted output is not determined: the pooling of four by four planes takes one
with and one without a fifth dimension. -/
theorem not_output_shape_determined :
    ¬∀ (c : ComputedLayer) (y y' : Operand), c.check y = .ok () → c.check y' = .ok () →
      y.sameShape y' = true := by
  intro h
  have hsame := h (pooling ⟨[4, 4, 3, 1], .float32, {}⟩ (.ofLayer (.ofSize .max 2 2)))
    ⟨[2, 2, 3, 1], .float32, {}⟩ ⟨[2, 2, 3, 1, 5], .float32, {}⟩ (by decide) (by decide)
  exact absurd hsame (by decide)

end ComputedLayer

end NeuralBackend.Kernel
