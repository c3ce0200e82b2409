import NeuralBackend.Proofs.Kernel.Check.Rearranged

/-!
# Reading at a place

A check reads lists at places: the operands it was given, and the entries of a permutation vector.
A list that is too short has nothing at the place, and reading there is an overrun, which is neither
an acceptance nor a refusal.  In `Access` a computation ends in one of these three ways, with `none`
for an overrun; `Access.decided` is a computation that reads nothing.

**The check of a permutation** goes through the dimensions of the input, reads for each of them the
entry that says where it goes, and uses the entry as an index (`checkPermuteByPlace`).  Nothing in
the loop asks whether there is such an entry or such an index.  That is left to the scan in front of
it: `scan_iff` says what the scan establishes, and **`checkPermuteByPlace_eq`** that with it the
loop never overruns and decides what `checkPermute` decides.
-/

namespace NeuralBackend

/-- A computation that may refuse, or read past the end of a list; `none` is an overrun. -/
abbrev Access (ε : Type) := ExceptT ε Option

namespace Access

variable {ε ε' α β ι : Type}

/-- What is decided without reading at a place. -/
def decided (result : Except ε α) : Access ε α := ExceptT.mk (some result)

/-- The place is below `count`, or else there is an overrun. -/
def within (count place : Nat) : Access ε Unit :=
  ExceptT.mk (if place < count then some (.ok ()) else none)

/-- The element at a place, or an overrun. -/
def read (list : List α) (place : Nat) : Access ε α := ExceptT.mk (list[place]?.map .ok)

lemma decided_inj {result result' : Except ε α} :
    decided result = decided result' ↔ result = result' := Option.some_inj

lemma within_bind {count place : Nat} {rest : Unit → Access ε β} (h : place < count) :
    within count place >>= rest = rest () := by
  rw [within, if_pos h]
  rfl

lemma read_bind {list : List α} {place : Nat} {a : α} {rest : α → Access ε β}
    (h : list[place]? = some a) : read list place >>= rest = rest a := by
  rw [read, h]
  rfl

/-- What follows a decision only has to be without overrun where the decision comes through. -/
lemma decided_bind {first : Except ε α} {rest : α → Access ε β} {rest' : α → Except ε β}
    (h : ∀ a, first = .ok a → rest a = decided (rest' a)) :
    decided first >>= rest = decided (first >>= rest') := by
  cases first with
  | error e => rfl
  | ok a => exact h a rfl

lemma adapt_decided (f : ε → ε') (result : Except ε α) :
    ExceptT.adapt f (decided result) = decided (result.mapError f) := rfl

/-- A loop whose turns are without overrun is without overrun. -/
lemma forM_decided {places : List ι} {turn : ι → Access ε PUnit} {turn' : ι → Except ε PUnit}
    (h : ∀ place ∈ places, turn place = decided (turn' place)) :
    forM places turn = decided (forM places turn') := by
  induction places with
  | nil => rfl
  | cons place places ih =>
      obtain ⟨hfirst, hrest⟩ := List.forall_mem_cons.1 h
      rw [List.forM_cons, List.forM_cons, hfirst]
      exact decided_bind fun _ _ => ih hrest

end Access

namespace Kernel

open Access

/-- Conditions with one cause of refusal, in turn, are one condition. -/
lemma Routine.forM_require {ι : Type} {routine : Routine} {cause : Cause} {places : List ι}
    {c : ι → Prop} [DecidablePred c] :
    (forM places fun place => routine.require (c place) cause) =
      routine.require (∀ place ∈ places, c place) cause := by
  induction places with
  | nil => exact (if_pos (by simp)).symm
  | cons place places ih =>
      rw [List.forM_cons, ih]
      simp only [require, List.forall_mem_cons]
      by_cases hplace : c place
      · rw [if_pos hplace]
        simp only [hplace, true_and]
        rfl
      · simp only [hplace, false_and, if_false]
        rfl

/-! ## The scan of a permutation vector -/

namespace PermutationVector

variable {p : PermutationVector}

/-- One entry of the scan: it has to be the index of a mark that is not set, and sets it. -/
def scanEntry (marks : List Bool) (entry : UInt32) : Option (List Bool) :=
  if marks[entry.toNat]? = some false then some (marks.set entry.toNat true) else none

/-- The scan of all entries, with one mark for each of them. -/
def scan (p : PermutationVector) : Bool :=
  (p.entries.foldlM scanEntry (List.replicate p.rank false)).isSome

/-- After an entry the marks that are not set are those that were not, but for its own. -/
lemma getElem?_set_eq_false_iff {marks : List Bool} {place index : Nat} :
    (marks.set place true)[index]? = some false ↔ index ≠ place ∧ marks[index]? = some false := by
  by_cases hindex : index = place
  · subst hindex
    refine iff_of_false (fun h => ?_) fun h => h.1 rfl
    rw [List.getElem?_set_self'] at h
    cases hmark : marks[index]? <;> rw [hmark] at h <;> cases h
  · rw [List.getElem?_set_ne (Ne.symm hindex)]
    exact (and_iff_right hindex).symm

/-- A scan comes to its end when the entries are different and none of their marks was set. -/
lemma isSome_foldlM_scanEntry_iff {entries : List UInt32} {marks : List Bool} :
    (entries.foldlM scanEntry marks).isSome = true ↔
      (∀ d ∈ entries, marks[d.toNat]? = some false) ∧ entries.Nodup := by
  induction entries generalizing marks with
  | nil => simp
  | cons d entries ih =>
      rw [List.foldlM_cons, scanEntry]
      split_ifs with hfree
      · -- the mark that is set now is the one that no later entry may have
        have hrest : (∀ e ∈ entries, e.toNat ≠ d.toNat ∧ marks[e.toNat]? = some false) ↔
            d ∉ entries ∧ ∀ e ∈ entries, marks[e.toNat]? = some false := by
          rw [forall₂_and]
          refine and_congr_left' ⟨fun h hd => h d hd rfl, fun hd e he heq => ?_⟩
          exact hd (UInt32.toNat_inj.1 heq ▸ he)
        rw [Option.bind_eq_bind, Option.bind_some, ih]
        simp only [getElem?_set_eq_false_iff, hrest, List.forall_mem_cons, List.nodup_cons, hfree,
          true_and]
        rw [and_comm (a := d ∉ entries), and_assoc]
      · exact iff_of_false (by simp) fun h => hfree (h.1 d List.mem_cons_self)

/-- The scan accepts the permutations. -/
lemma scan_iff : p.scan = true ↔ p.IsValid := by
  rw [scan, isSome_foldlM_scanEntry_iff, IsValid]
  refine and_congr_left' (forall₂_congr fun d _ => ?_)
  simp [List.getElem?_replicate]

end PermutationVector

/-! ## The check of a permutation -/

/-- The place that a dimension goes to: the entry that says so, which is used as an index. -/
def PermutationVector.destination (p : PermutationVector) (src : Nat) : Access Refusal Nat := do
  let entry ← read p.entries src
  within p.rank entry.toNat
  return entry.toNat

/-- The check of a permutation, dimension by dimension. -/
def checkPermuteByPlace (input output : Operand) (p : PermutationVector) : Access Refusal Unit := do
  decided (Routine.permute.requireSameType input output)
  decided (Routine.permute.require (p.scan = true ∧ p.rank = input.rank)
    (.permutation p input.rank))
  forM (List.range input.rank) fun src => do
    let dst ← p.destination src
    decided (Routine.permute.require (output.dim dst = input.dim src) (.permutedShape output.dims))

/-- A permutation has an entry for each of its dimensions, and the entry is one of its indices. -/
lemma PermutationVector.IsValid.destination_bind {p : PermutationVector} (h : p.IsValid) {src : Nat}
    (hsrc : src < p.rank) {rest : Nat → Access Refusal Unit} :
    p.destination src >>= rest = rest (p.indices.getD src 0) := by
  have hentry : p.entries[src]? = some p.entries[src] := List.getElem?_eq_getElem hsrc
  have hbound : p.entries[src].toNat < p.rank := h.1 _ (List.getElem_mem hsrc)
  have hindex : p.indices.getD src 0 = p.entries[src].toNat := by
    rw [indices, List.getD_eq_getElem?_getD, List.getElem?_map, hentry]
    rfl
  rw [destination, bind_assoc, read_bind hentry, bind_assoc, within_bind hbound, pure_bind, hindex]

/-- A dimension is paired with its entry by the index of both. -/
lemma all_zip_iff_forall_range {input output : Operand} {p : PermutationVector}
    (hrank : p.rank = input.rank) :
    ((p.entries.zip input.dims).all fun pair => output.dim pair.1.toNat = pair.2) = true ↔
      ∀ src ∈ List.range input.rank, output.dim (p.indices.getD src 0) = input.dim src := by
  have hlength : input.rank = p.indices.length :=
    hrank.symm.trans PermutationVector.length_indices.symm
  rw [all_zip_iff hrank, hlength]
  simp only [List.mem_range]
  refine forall₂_congr fun src hsrc => ?_
  rw [List.getD_eq_getElem _ _ hsrc]

/-- The loop over the dimensions never overruns, and the check decides what it decides when each
dimension is paired with its entry. -/
lemma checkPermuteByPlace_eq (input output : Operand) (p : PermutationVector) :
    checkPermuteByPlace input output p = decided (checkPermute input output p) := by
  rw [checkPermuteByPlace, checkPermute]
  refine decided_bind fun _ _ => ?_
  simp only [PermutationVector.scan_iff]
  refine decided_bind fun _ hfits => ?_
  -- the loop is only reached with a permutation of as many dimensions as there are
  obtain ⟨hvalid, hrank⟩ := Routine.require_ok_iff.1 hfits
  have hturn : ∀ src ∈ List.range input.rank,
      (p.destination src >>= fun dst => decided
        (Routine.permute.require (output.dim dst = input.dim src) (.permutedShape output.dims))) =
      decided (Routine.permute.require (output.dim (p.indices.getD src 0) = input.dim src)
        (.permutedShape output.dims)) := fun src hsrc =>
    hvalid.destination_bind ((List.mem_range.1 hsrc).trans_eq hrank.symm)
  rw [forM_decided hturn, Routine.forM_require]
  simp only [all_zip_iff_forall_range hrank]

end Kernel

end NeuralBackend
