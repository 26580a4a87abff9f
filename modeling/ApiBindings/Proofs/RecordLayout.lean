import Mathlib.Algebra.GroupWithZero.Nat
import Mathlib.Algebra.Order.Group.Nat
import Mathlib.Data.List.Basic
import Mathlib.Order.Bounds.Basic

/-!
# The layout of records

A record is laid out as C does it: each field lies at the next offset that its alignment divides, and the size
of the record is rounded up to the largest alignment of its fields.

An array has the alignment of its elements, which stand side by side.  A record keeps its size, its alignment
and the place of everything in it when each array is replaced by as many fields as it has elements
(`exists_getElem?_offsetsFrom`, `size_elementFields`, `alignment_elementFields`).  An element after the first needs
no padding, since the size of a type is a multiple of its alignment.
-/

namespace ApiBindings.Layout

set_option autoImplicit false

/-! ## Offsets -/

/-- The next offset that an alignment divides. -/
def roundUp (offset align : Nat) : Nat := (offset + align - 1) / align * align

/-- It is the least multiple of the alignment that is not below the offset. -/
theorem isLeast_roundUp {align : Nat} (positive : 0 < align) (offset : Nat) :
    IsLeast {multiple | align ∣ multiple ∧ offset ≤ multiple} (roundUp offset align) := by
  have split := Nat.div_add_mod' (offset + align - 1) align
  have small := Nat.mod_lt (offset + align - 1) positive
  refine ⟨⟨Nat.dvd_mul_left align _, ?_⟩, ?_⟩
  · show offset ≤ (offset + align - 1) / align * align
    omega
  · rintro _ ⟨⟨factor, rfl⟩, above⟩
    rw [roundUp, Nat.mul_comm align factor]
    refine Nat.mul_le_mul_right align (Nat.lt_succ_iff.mp ((Nat.div_lt_iff_lt_mul positive).mpr ?_))
    rw [Nat.succ_mul, Nat.mul_comm factor align]
    omega

theorem dvd_roundUp (offset align : Nat) : align ∣ roundUp offset align := Nat.dvd_mul_left align _

theorem roundUp_of_dvd {offset align : Nat} (positive : 0 < align) (aligned : align ∣ offset) :
    roundUp offset align = offset :=
  (isLeast_roundUp positive offset).unique ⟨⟨aligned, Nat.le_refl offset⟩, fun _ above => above.2⟩

/-! ## Records -/

/-- The size and the alignment of a type. -/
structure Extent where
  size : Nat
  align : Nat
  align_pos : 0 < align
  align_dvd_size : align ∣ size

/-- As many elements of a type side by side. -/
def Extent.array (extent : Extent) (count : Nat) : Extent where
  size := count * extent.size
  align := extent.align
  align_pos := extent.align_pos
  align_dvd_size := Nat.dvd_trans extent.align_dvd_size (Nat.dvd_mul_left extent.size count)

/-- Where fields lie, the first of them at the given offset or behind it. -/
def offsetsFrom (start : Nat) : List Extent → List Nat
  | [] => []
  | field :: fields =>
    roundUp start field.align :: offsetsFrom (roundUp start field.align + field.size) fields

/-- Where fields end, the first of them at the given offset or behind it. -/
def endFrom (start : Nat) : List Extent → Nat
  | [] => start
  | field :: fields => endFrom (roundUp start field.align + field.size) fields

/-- Where the fields of a record lie. -/
def offsets (fields : List Extent) : List Nat := offsetsFrom 0 fields

/-- The largest alignment of the fields of a record. -/
def alignment (fields : List Extent) : Nat := (fields.map (·.align)).foldr max 1

/-- The size of a record. -/
def size (fields : List Extent) : Nat := roundUp (endFrom 0 fields) (alignment fields)

theorem offsetsFrom_append (start : Nat) (fields others : List Extent) :
    offsetsFrom start (fields ++ others) =
      offsetsFrom start fields ++ offsetsFrom (endFrom start fields) others := by
  induction fields generalizing start with
  | nil => rfl
  | cons field fields ih => rw [List.cons_append, offsetsFrom, ih]; rfl

theorem endFrom_append (start : Nat) (fields others : List Extent) :
    endFrom start (fields ++ others) = endFrom (endFrom start fields) others := by
  induction fields generalizing start with
  | nil => rfl
  | cons field fields ih => exact ih _

/-! ## Elements side by side -/

section Elements

variable (extent : Extent)

/-- Behind an element lies another one without padding. -/
theorem dvd_add_size {start : Nat} (aligned : extent.align ∣ start) : extent.align ∣ start + extent.size :=
  Nat.dvd_add aligned extent.align_dvd_size

theorem offsetsFrom_replicate_of_dvd (count : Nat) {start : Nat} (aligned : extent.align ∣ start) :
    offsetsFrom start (List.replicate count extent) =
      (List.range count).map fun element => start + element * extent.size := by
  induction count generalizing start with
  | zero => rfl
  | succ count ih =>
      have here := roundUp_of_dvd extent.align_pos aligned
      rw [List.replicate_succ, offsetsFrom, here, ih (dvd_add_size extent aligned),
        List.range_succ_eq_map, List.map_cons, List.map_map, Nat.zero_mul, Nat.add_zero]
      congr 1
      refine List.map_congr_left fun element _ => ?_
      simp only [Function.comp_apply, Nat.succ_mul]
      omega

theorem endFrom_replicate_of_dvd (count : Nat) {start : Nat} (aligned : extent.align ∣ start) :
    endFrom start (List.replicate count extent) = start + count * extent.size := by
  induction count generalizing start with
  | zero => rw [Nat.zero_mul, Nat.add_zero]; rfl
  | succ count ih =>
      have here := roundUp_of_dvd extent.align_pos aligned
      rw [List.replicate_succ, endFrom, here, ih (dvd_add_size extent aligned), Nat.succ_mul]
      omega

/-- Elements lie where they lie in the array. -/
theorem offsetsFrom_replicate (start count : Nat) :
    offsetsFrom start (List.replicate count extent) =
      (List.range count).map fun element => roundUp start extent.align + element * extent.size := by
  have aligned := dvd_roundUp start extent.align
  rw [← offsetsFrom_replicate_of_dvd extent count aligned]
  cases count with
  | zero => rfl
  | succ count =>
      rw [List.replicate_succ, offsetsFrom, offsetsFrom, roundUp_of_dvd extent.align_pos aligned]

/-- Elements end where the array ends, if there are any. -/
theorem endFrom_replicate (start : Nat) {count : Nat} (positive : 1 ≤ count) :
    endFrom start (List.replicate count extent) = endFrom start [extent.array count] := by
  have aligned := dvd_roundUp start extent.align
  obtain ⟨count, rfl⟩ := Nat.exists_eq_add_of_le' positive
  rw [List.replicate_succ, endFrom, endFrom_replicate_of_dvd extent count (dvd_add_size extent aligned)]
  simp only [endFrom, Extent.array, Nat.succ_mul]
  omega

end Elements

/-! ## Arrays as fields -/

theorem alignment_le_iff {fields : List Extent} {bound : Nat} :
    alignment fields ≤ bound ↔ 1 ≤ bound ∧ ∀ field ∈ fields, field.align ≤ bound := by
  induction fields with
  | nil => simp [alignment]
  | cons field fields ih =>
      have largest : alignment (field :: fields) = max field.align (alignment fields) := rfl
      rw [largest, Nat.max_le, ih, List.forall_mem_cons]
      tauto

section Flattened

variable {ι : Type} (extent : ι → Extent) (count : ι → Nat)

/-- The fields of a record whose members are arrays. -/
def arrayFields (members : List ι) : List Extent := members.map fun m => (extent m).array (count m)

/-- The fields of a record with a field for each element instead. -/
def elementFields (members : List ι) : List Extent :=
  members.flatMap fun m => List.replicate (count m) (extent m)

theorem elementFields_cons (m : ι) (members : List ι) :
    elementFields extent count (m :: members) =
      List.replicate (count m) (extent m) ++ elementFields extent count members :=
  List.flatMap_cons

variable {members : List ι} (counts : ∀ m ∈ members, 1 ≤ count m)

include counts

theorem endFrom_elementFields (start : Nat) :
    endFrom start (elementFields extent count members) = endFrom start (arrayFields extent count members) := by
  induction members generalizing start with
  | nil => rfl
  | cons m members ih =>
      obtain ⟨here, rest⟩ := List.forall_mem_cons.mp counts
      rw [elementFields_cons, endFrom_append, endFrom_replicate (extent m) start here]
      exact ih rest _

/-- **An element lies in the record where it lies in its array.**  Each member has an offset in the record with
arrays, and the field for an element of the member lies at this offset, behind the elements before it. -/
theorem exists_getElem?_offsetsFrom (start : Nat) {index : Nat} {m : ι} (here : members[index]? = some m) :
    ∃ offset, (offsetsFrom start (arrayFields extent count members))[index]? = some offset ∧
      ∀ element < count m, (offsetsFrom start (elementFields extent count members))[
          ((members.take index).map count).sum + element]? =
        some (offset + element * (extent m).size) := by
  induction members generalizing start index with
  | nil => cases here
  | cons first members ih =>
      obtain ⟨positive, rest⟩ := List.forall_mem_cons.mp counts
      rw [elementFields_cons, offsetsFrom_append, offsetsFrom_replicate,
        endFrom_replicate (extent first) start positive]
      cases index with
      | zero =>
          obtain rfl := Option.some.inj here
          refine ⟨roundUp start (extent first).align, rfl, fun element inside => ?_⟩
          rw [List.getElem?_append_left (by simpa using inside)]
          simp [inside]
      | succ index =>
          obtain ⟨offset, there, inner⟩ := ih rest (endFrom start [(extent first).array (count first)]) here
          refine ⟨offset, there, fun element inside => ?_⟩
          -- The elements of the first member come before.
          rw [List.take_succ_cons, List.map_cons, List.sum_cons, Nat.add_assoc,
            List.getElem?_append_right (by simp), List.length_map, List.length_range,
            Nat.add_sub_cancel_left]
          exact inner element inside

theorem alignment_elementFields :
    alignment (elementFields extent count members) = alignment (arrayFields extent count members) := by
  refine eq_of_forall_ge_iff fun bound => ?_
  simp only [alignment_le_iff, elementFields, arrayFields, List.mem_flatMap, List.mem_replicate,
    List.mem_map]
  refine and_congr_right fun _ => ⟨?_, ?_⟩
  · rintro below _ ⟨m, mem, rfl⟩
    exact below (extent m) ⟨m, mem, Nat.ne_of_gt (counts m mem), rfl⟩
  · rintro below _ ⟨m, mem, -, rfl⟩
    exact below ((extent m).array (count m)) ⟨m, mem, rfl⟩

theorem size_elementFields :
    size (elementFields extent count members) = size (arrayFields extent count members) := by
  rw [size, size, endFrom_elementFields extent count counts, alignment_elementFields extent count counts]

end Flattened

end ApiBindings.Layout
