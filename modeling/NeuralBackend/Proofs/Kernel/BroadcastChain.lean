import Mathlib.Tactic.Choose
import Mathlib.Tactic.Tauto
import NeuralBackend.Proofs.Kernel.Broadcast

/-!
# Broadcasting more than two operands

Three operands can be broadcast in two ways, and a longer chain of additions in as many ways as it
can be bracketed.  The result is the same, and where there is none in one way there is none in the
other.

**One index.**  `AllStretch ds d` says what any number of dimensions stretch to: each of them is one
or `d`, and `d` is among them unless it is one.  Neither order nor brackets occur in this.  For two
dimensions it is the rule of broadcasting (`allStretch_pair_iff`), and
**`allStretch_append_iff`** takes a list of dimensions apart wherever one likes.  The laws of
broadcasting are read off these two.

**Every index.**  `bind_broadcastDims?_eq_some_iff` says when three operands have a shape that they
broadcast to, and which.

**Chains.**  A `Bracketing` is a chain of additions with its brackets.  It yields an output when
every addition in it is accepted, for suitable outputs in between (`Bracketing.Yields`); what it
yields is what all its operands stretch to (`Bracketing.plus_yields_iff`).

**`broadcasting_laws`** states the laws, and that chains of the same operands yield the same.
-/

namespace NeuralBackend.Kernel

/-! ## One index -/

/-- The dimension `d` is what all of `ds` stretch to: each of them is one or `d`, and `d` is one of
them unless it is one itself. -/
def AllStretch (ds : List UInt32) (d : UInt32) : Prop :=
  (∀ e ∈ ds, e = 1 ∨ e = d) ∧ (d = 1 ∨ d ∈ ds)

section Index

variable {ds es : List UInt32} {x y d : UInt32}

lemma allStretch_singleton_iff : AllStretch [x] d ↔ d = x := by
  simp only [AllStretch, List.mem_singleton, forall_eq]
  constructor
  · rintro ⟨hx | hx, hd | hd⟩
    · rw [hd, hx]
    · exact hd
    · exact hx.symm
    · exact hd
  · rintro rfl
    exact ⟨.inr rfl, .inr rfl⟩

/-- For two dimensions this is broadcasting. -/
lemma allStretch_pair_iff : AllStretch [x, y] d ↔ Stretches x y d := by
  simp only [AllStretch, List.mem_cons, List.not_mem_nil, or_false, forall_eq_or_imp, forall_eq,
    Stretches]
  constructor
  · rintro ⟨⟨rfl | rfl, rfl | rfl⟩, h⟩
    · exact .inl ⟨rfl, by simpa using h⟩
    · exact .inr (.inl ⟨rfl, rfl⟩)
    · exact .inr (.inr ⟨rfl, rfl⟩)
    · exact .inl ⟨rfl, rfl⟩
  · rintro (⟨rfl, rfl⟩ | ⟨rfl, rfl⟩ | ⟨rfl, rfl⟩)
    · exact ⟨⟨.inr rfl, .inr rfl⟩, .inr (.inl rfl)⟩
    · exact ⟨⟨.inl rfl, .inr rfl⟩, .inr (.inr rfl)⟩
    · exact ⟨⟨.inr rfl, .inl rfl⟩, .inr (.inl rfl)⟩

/-- Dimensions that are one or `d` stretch to something, and to `d` if it is among them. -/
lemma exists_allStretch (h : ∀ e ∈ ds, e = 1 ∨ e = d) :
    ∃ a, AllStretch ds a ∧ (a = 1 ∨ a = d) ∧ (d ∈ ds → a = d) := by
  by_cases hd : d ∈ ds
  · exact ⟨d, ⟨h, .inr hd⟩, .inr rfl, fun _ => rfl⟩
  · have hones : ∀ e ∈ ds, e = 1 := by
      intro e he
      exact (h e he).resolve_right fun heq => hd (heq ▸ he)
    exact ⟨1, ⟨fun e he => .inl (hones e he), .inl rfl⟩, .inl rfl, fun hmem => absurd hmem hd⟩

/-- **Brackets do not matter.**  What two lists of dimensions stretch to together is what they do
when each of them is stretched on its own first. -/
lemma allStretch_append_iff :
    AllStretch (ds ++ es) d ↔ ∃ a b, AllStretch ds a ∧ AllStretch es b ∧ Stretches a b d := by
  constructor
  · rintro ⟨hall, hd⟩
    obtain ⟨hds, hes⟩ := List.forall_mem_append.1 hall
    obtain ⟨a, ha, ha1, had⟩ := exists_allStretch hds
    obtain ⟨b, hb, hb1, hbd⟩ := exists_allStretch hes
    refine ⟨a, b, ha, hb, allStretch_pair_iff.1 ⟨by simp [ha1, hb1], ?_⟩⟩
    rcases hd with hd | hd
    · exact .inl hd
    · rcases List.mem_append.1 hd with hmem | hmem
      · exact .inr (by simp [had hmem])
      · exact .inr (by simp [hbd hmem])
  · rintro ⟨a, b, ⟨hds, ha⟩, ⟨hes, hb⟩, hstretch⟩
    obtain ⟨hab, hd⟩ := allStretch_pair_iff.2 hstretch
    have hab1 : (a = 1 ∨ a = d) ∧ (b = 1 ∨ b = d) := by simpa using hab
    constructor
    · intro e he
      rcases List.mem_append.1 he with he | he
      · rcases hds e he with h | rfl
        · exact .inl h
        · exact hab1.1
      · rcases hes e he with h | rfl
        · exact .inl h
        · exact hab1.2
    · rcases hd with hd | hd
      · exact .inl hd
      · simp only [List.mem_cons, List.not_mem_nil, or_false] at hd
        rcases hd with rfl | rfl
        · exact ha.imp id (List.mem_append_left es)
        · exact hb.imp id (List.mem_append_right ds)

lemma AllStretch.eq_one (h : AllStretch ds 1) (h' : AllStretch ds d) : d = 1 := by
  rcases h'.2 with hd | hd
  · exact hd
  · exact (h.1 d hd).elim id id

/-- Dimensions stretch to one thing only. -/
lemma AllStretch.unique {d' : UInt32} (h : AllStretch ds d) (h' : AllStretch ds d') : d = d' := by
  rcases h.2 with rfl | hd
  · exact (h.eq_one h').symm
  · rcases h'.1 d hd with rfl | heq
    · exact (h.eq_one h').symm
    · exact heq

lemma allStretch_congr (h : ∀ e, e ∈ ds ↔ e ∈ es) : AllStretch ds d ↔ AllStretch es d := by
  simp only [AllStretch, h]

end Index

/-! ## Every index -/

section Operands

variable {x y z : Operand} {dims : List UInt32}

lemma broadcastDims?_comm (x y : Operand) : broadcastDims? x y = broadcastDims? y x := by
  ext dims
  rw [broadcastDims?_eq_some_iff, broadcastDims?_eq_some_iff, max_comm]
  exact and_congr_right fun _ => forall_congr' fun i => ⟨Stretches.symm, Stretches.symm⟩

lemma broadcastDims?_self (x : Operand) : broadcastDims? x x = some x.dims :=
  broadcastDims?_eq_some_iff.2 ⟨(max_self _).symm, fun _ => .inl ⟨rfl, rfl⟩⟩

/-- A scalar stretches to anything. -/
lemma broadcastDims?_scalar (h : x.rank = 0) : broadcastDims? x y = some y.dims := by
  have hone : ∀ i, x.dim i = 1 := fun i => Operand.dim_of_rank_le (by simp [h])
  refine broadcastDims?_eq_some_iff.2 ⟨?_, fun i => .inr (.inl ⟨hone i, rfl⟩)⟩
  rw [h, Nat.zero_max]
  rfl

/-- Three operands, two of them first: there is a shape when all three dimensions stretch at every
index, and it is what they stretch to. -/
lemma bind_broadcastDims?_eq_some_iff {t : DataType} {q : Quantization} :
    ((broadcastDims? x y).bind fun dims => broadcastDims? ⟨dims, t, q⟩ z) = some dims ↔
      dims.length = max (max x.rank y.rank) z.rank ∧
      ∀ i, AllStretch [x.dim i, y.dim i, z.dim i] (dims.getD i 1) := by
  have hsplit : ∀ i, AllStretch [x.dim i, y.dim i, z.dim i] (dims.getD i 1) ↔
      ∃ a, Stretches (x.dim i) (y.dim i) a ∧ Stretches a (z.dim i) (dims.getD i 1) := by
    intro i
    rw [show [x.dim i, y.dim i, z.dim i] = [x.dim i, y.dim i] ++ [z.dim i] from rfl,
      allStretch_append_iff]
    simp only [allStretch_pair_iff, allStretch_singleton_iff, exists_and_left, exists_eq_left]
  simp only [hsplit, Option.bind_eq_some_iff]
  constructor
  · rintro ⟨first, hfirst, hdims⟩
    obtain ⟨hlength, hstretch⟩ := broadcastDims?_eq_some_iff.1 hfirst
    obtain ⟨hlength', hstretch'⟩ := broadcastDims?_eq_some_iff.1 hdims
    refine ⟨?_, fun i => ⟨_, hstretch i, hstretch' i⟩⟩
    rw [hlength', ← hlength]
    rfl
  · rintro ⟨hlength, hstretch⟩
    choose f hfirst hdims using hstretch
    obtain ⟨first, hcomputed, hread⟩ := exists_broadcastDims?_of_stretches hfirst
    refine ⟨first, hcomputed, broadcastDims?_eq_some_iff.2 ⟨?_, fun i => ?_⟩⟩
    · rw [hlength, ← (broadcastDims?_eq_some_iff.1 hcomputed).1]
      rfl
    · have hi := hdims i
      rwa [← hread i] at hi

/-- Three operands broadcast to the same shape in either way, or in neither. -/
lemma broadcastDims?_assoc (x y z : Operand) (t t' : DataType) (q q' : Quantization) :
    ((broadcastDims? x y).bind fun dims => broadcastDims? ⟨dims, t, q⟩ z) =
      (broadcastDims? y z).bind fun dims => broadcastDims? x ⟨dims, t', q'⟩ := by
  simp only [broadcastDims?_comm x ⟨_, t', q'⟩]
  ext dims
  rw [bind_broadcastDims?_eq_some_iff, bind_broadcastDims?_eq_some_iff,
    max_comm (max y.rank z.rank), max_assoc]
  refine and_congr_right fun _ => forall_congr' fun i => allStretch_congr fun e => ?_
  simp only [List.mem_cons, List.not_mem_nil, or_false]
  tauto

end Operands

/-! ## Chains of additions -/

/-- A chain of additions with its brackets. -/
inductive Bracketing
  | operand (x : Operand)
  | plus (left right : Bracketing)

namespace Bracketing

/-- The operands of a chain, from left to right. -/
def operands : Bracketing → List Operand
  | operand x => [x]
  | plus left right => left.operands ++ right.operands

/-- Every addition of the chain is accepted, with `z` as the output of the last one and suitable
outputs in between. -/
def Yields : Bracketing → Operand → Prop
  | operand x, z => z = x
  | plus left right, z =>
      ∃ u v, left.Yields u ∧ right.Yields v ∧ checkAddition u v z = .ok ()

variable {s left right : Bracketing} {z : Operand}

lemma length_operands_pos (s : Bracketing) : 0 < s.operands.length := by
  induction s with
  | operand x => simp [operands]
  | plus left right ihl ihr =>
      simp only [operands, List.length_append]
      omega

/-- What a chain yields has the type of all operands, and all of them stretch to it. -/
lemma Yields.stretches (h : s.Yields z) :
    (∀ x ∈ s.operands, x.dataType = z.dataType) ∧
      ∀ i, AllStretch (s.operands.map fun x => x.dim i) (z.dim i) := by
  induction s generalizing z with
  | operand x =>
      obtain rfl : z = x := h
      exact ⟨by simp [operands], fun i => allStretch_singleton_iff.2 rfl⟩
  | plus left right ihl ihr =>
      obtain ⟨u, v, hu, hv, hadd⟩ := h
      obtain ⟨-, huv, huz, hstretch⟩ := checkArithmetic_ok_iff_stretches.1 hadd
      obtain ⟨hleft, hleft'⟩ := ihl hu
      obtain ⟨hright, hright'⟩ := ihr hv
      constructor
      · intro x hx
        rcases List.mem_append.1 hx with hx | hx
        · exact (hleft x hx).trans huz
        · exact (hright x hx).trans (huv.symm.trans huz)
      · intro i
        rw [operands, List.map_append, allStretch_append_iff]
        exact ⟨_, _, hleft' i, hright' i, hstretch i⟩

/-- There is an operand, so what a chain yields has no type but theirs. -/
lemma Yields.dataType_eq {t : DataType} (h : s.Yields z)
    (htypes : ∀ x ∈ s.operands, x.dataType = t) : z.dataType = t := by
  obtain ⟨x, hx⟩ := List.exists_mem_of_length_pos s.length_operands_pos
  exact (h.stretches.1 x hx).symm.trans (htypes x hx)

/-- Operands of one floating point type that stretch to something at every index yield something, in
any brackets, and it reads as that. -/
lemma exists_yields {t : DataType} (ht : t ∈ floatTypes) {f : Nat → UInt32}
    (htypes : ∀ x ∈ s.operands, x.dataType = t)
    (hf : ∀ i, AllStretch (s.operands.map fun x => x.dim i) (f i)) :
    ∃ z, s.Yields z ∧ z.dataType = t ∧ ∀ i, z.dim i = f i := by
  induction s generalizing f with
  | operand x =>
      refine ⟨x, rfl, htypes x (by simp [operands]), fun i => ?_⟩
      exact (allStretch_singleton_iff.1 (hf i)).symm
  | plus left right ihl ihr =>
      simp only [operands, List.map_append, allStretch_append_iff] at hf
      choose a b ha hb hab using hf
      obtain ⟨u, hu, hut, hua⟩ := ihl (fun x hx => htypes x (List.mem_append_left _ hx)) ha
      obtain ⟨v, hv, hvt, hvb⟩ := ihr (fun x hx => htypes x (List.mem_append_right _ hx)) hb
      simp only [← hua, ← hvb] at hab
      obtain ⟨dims, -, hdims⟩ := exists_broadcastDims?_of_stretches hab
      let z : Operand := ⟨dims, t, {}⟩
      have hz : ∀ i, z.dim i = f i := hdims
      refine ⟨z, ⟨u, v, hu, hv, checkArithmetic_ok_iff_stretches.2 ?_⟩, rfl, hz⟩
      refine ⟨hut ▸ ht, hut.trans hvt.symm, hut, fun i => ?_⟩
      rw [hz i]
      exact hab i

/-- What a chain of additions yields, without its brackets. -/
lemma plus_yields_iff :
    (plus left right).Yields z ↔
      z.dataType ∈ floatTypes ∧
      (∀ x ∈ (plus left right).operands, x.dataType = z.dataType) ∧
      ∀ i, AllStretch ((plus left right).operands.map fun x => x.dim i) (z.dim i) := by
  constructor
  · intro h
    obtain ⟨htypes, hstretch⟩ := h.stretches
    obtain ⟨u, v, -, -, hadd⟩ := h
    obtain ⟨hfloat, -, huz, -⟩ := checkArithmetic_ok_iff_stretches.1 hadd
    exact ⟨huz ▸ hfloat, htypes, hstretch⟩
  · rintro ⟨hfloat, htypes, hstretch⟩
    obtain ⟨z', ⟨u, v, hu, hv, hadd⟩, htype, hread⟩ := exists_yields hfloat htypes hstretch
    -- the output at hand need only be read like the one that was found
    refine ⟨u, v, hu, hv, ?_⟩
    rw [checkAddition, checkArithmetic_ok_iff_stretches] at hadd ⊢
    simpa only [htype, hread] using hadd

/-- The outputs in between may be chosen freely. -/
lemma checkAddition_of_yields {u v : Operand} (h : (plus left right).Yields z)
    (hu : left.Yields u) (hv : right.Yields v) : checkAddition u v z = .ok () := by
  obtain ⟨hfloat, htypes, hstretch⟩ := plus_yields_iff.1 h
  have hut : u.dataType = z.dataType :=
    hu.dataType_eq fun x hx => htypes x (List.mem_append_left _ hx)
  have hvt : v.dataType = z.dataType :=
    hv.dataType_eq fun x hx => htypes x (List.mem_append_right _ hx)
  refine checkArithmetic_ok_iff_stretches.2 ⟨hut ▸ hfloat, hut.trans hvt.symm, hut, fun i => ?_⟩
  have hi := hstretch i
  rw [operands, List.map_append, allStretch_append_iff] at hi
  obtain ⟨a, b, ha, hb, hab⟩ := hi
  rwa [(hu.stretches.2 i).unique ha, (hv.stretches.2 i).unique hb]

/-- Brackets and order do not show in what a chain yields. -/
lemma yields_congr {s' : Bracketing} (h : s.operands.Perm s'.operands) :
    s.Yields z ↔ s'.Yields z := by
  have hpos := length_operands_pos
  have hlength := h.length_eq
  cases s with
  | operand x =>
      cases s' with
      | operand x' =>
          obtain rfl : x = x' := by simpa [operands] using h
          rfl
      | plus left' right' =>
          simp only [operands, List.length_append, List.length_singleton] at hlength
          have := hpos left'
          have := hpos right'
          omega
  | plus left right =>
      cases s' with
      | operand x' =>
          simp only [operands, List.length_append, List.length_singleton] at hlength
          have := hpos left
          have := hpos right
          omega
      | plus left' right' =>
          rw [plus_yields_iff, plus_yields_iff]
          refine and_congr_right fun _ => and_congr ?_ (forall_congr' fun i => ?_)
          · simp only [h.mem_iff]
          · exact allStretch_congr fun e => (h.map _).mem_iff

end Bracketing

/-- **The laws of broadcasting.**  The shape that two operands broadcast to, if they do, does not
depend on their order; an operand broadcasts with itself and with any scalar, to its own dimensions;
and three operands broadcast to the same dimensions, or to none, whichever two come first.

Chains of additions of the same operands yield the same outputs, however they are bracketed and in
whatever order; and the last addition of a chain is accepted for all outputs of its two parts, if it
is for some. -/
theorem broadcasting_laws :
    (∀ x y, broadcastDims? x y = broadcastDims? y x) ∧
    (∀ x, broadcastDims? x x = some x.dims) ∧
    (∀ scalar x : Operand, scalar.rank = 0 →
      broadcastDims? scalar x = some x.dims ∧ broadcastDims? x scalar = some x.dims) ∧
    (∀ (x y z : Operand) (t t' : DataType) (q q' : Quantization),
      ((broadcastDims? x y).bind fun dims => broadcastDims? ⟨dims, t, q⟩ z) =
        (broadcastDims? y z).bind fun dims => broadcastDims? x ⟨dims, t', q'⟩) ∧
    (∀ (s s' : Bracketing) (z : Operand), s.operands.Perm s'.operands →
      (s.Yields z ↔ s'.Yields z)) ∧
    ∀ (left right : Bracketing) (u v z : Operand), (left.plus right).Yields z →
      left.Yields u → right.Yields v → checkAddition u v z = .ok () := by
  refine ⟨broadcastDims?_comm, broadcastDims?_self, fun scalar x h => ⟨broadcastDims?_scalar h, ?_⟩,
    broadcastDims?_assoc, fun s s' z => Bracketing.yields_congr, fun left right u v z => ?_⟩
  · rw [broadcastDims?_comm, broadcastDims?_scalar h]
  · exact Bracketing.checkAddition_of_yields

/-- A column of three, none deep, then a row of two, then a scalar: bracketed from the left they
yield an output, so they do when bracketed from the right, whichever output the row and the scalar
have. -/
theorem broadcasting_laws_of_column_row_scalar :
    let column : Operand := ⟨[1, 3, 0], .float32, {}⟩
    let row : Operand := ⟨[2], .float32, {}⟩
    let scalar : Operand := ⟨[], .float32, {}⟩
    let z : Operand := ⟨[2, 3, 0, 1], .float32, {}⟩
    let first : Bracketing := .plus (.operand column) (.operand row)
    let last : Bracketing := .plus (.operand row) (.operand scalar)
    scalar.rank = 0 ∧ broadcastDims? scalar column = some column.dims ∧
    (first.plus (.operand scalar)).Yields z ∧ ((Bracketing.operand column).plus last).Yields z ∧
    last.Yields ⟨[2, 1], .float32, {}⟩ ∧
    checkAddition column ⟨[2, 1], .float32, {}⟩ z = .ok () := by
  intro column row scalar z first last
  obtain ⟨-, -, hscalar, -, hbrackets, hfree⟩ := broadcasting_laws
  have hleft : (first.plus (.operand scalar)).Yields z :=
    ⟨⟨[2, 3, 0], .float32, {}⟩, scalar, ⟨column, row, rfl, rfl, by decide⟩, rfl, by decide⟩
  have hright : ((Bracketing.operand column).plus last).Yields z :=
    (hbrackets (first.plus (.operand scalar)) (.plus (.operand column) last) z (.refl _)).1 hleft
  have hlast : last.Yields ⟨[2, 1], .float32, {}⟩ := ⟨row, scalar, rfl, rfl, by decide⟩
  exact ⟨rfl, (hscalar scalar column rfl).1, hleft, hright, hlast,
    hfree _ _ column _ z hright rfl hlast⟩

end NeuralBackend.Kernel
