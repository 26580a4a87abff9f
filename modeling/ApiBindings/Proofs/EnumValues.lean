import ApiBindings.Proofs.Declarations
import Mathlib.Data.Int.ModEq
import Mathlib.Tactic.Linarith

/-!
# Values of emitted enumerations

The code of an enumeration names the integer type that stores it in one line and writes a number for each of
its values in others.  Both are chosen by kind and width, each for itself, and a declared value is a signed number
of 64 bits, which most of the types do not hold.

`enums_store_values` says what these lines are.  There is one line for each value, in the order of the values, and
the number in it is held by the type that the declaration names and congruent to the declared value modulo two to
the width of the type (`StoredAs`).  No type holds two such numbers, so a value that the type holds is written as
it is.
-/

namespace ApiBindings.Binding

set_option autoImplicit false

open Script Writer

/-! ## Integer types -/

/-- The least and the greatest number of each integer type that stores enumerations. -/
def integerTypes : List (String × Int × Int) :=
  [("i32", -2147483648, 2147483647),
    ("i64", -9223372036854775808, 9223372036854775807),
    ("u32", 0, 4294967295),
    ("u64", 0, 18446744073709551615)]

/-- The number is one of the numbers of the integer type of that name. -/
def InRange (type : String) (number : Int) : Prop :=
  ∃ least greatest, integerTypes.lookup type = some (least, greatest) ∧ least ≤ number ∧ number ≤ greatest

/-- The integer type for enumerations of that kind and width. -/
def storageType : EnumKind → Width → String
  | .plain, .w32 => "i32"
  | .plain, .w64 => "i64"
  | .bitmask, .w32 => "u32"
  | .bitmask, .w64 => "u64"

theorem name_storageOf (enumeration : Enumeration) :
    (storageOf enumeration).name = storageType enumeration.kind enumeration.width := by
  obtain ⟨_, kind, width, _⟩ := enumeration
  cases kind <;> cases width <;> rfl

/-- A wrapped value is a number of the type that stores the enumeration. -/
theorem inRange_wrap (enumeration : Enumeration) (value : Int) :
    InRange (storageType enumeration.kind enumeration.width) ((storageOf enumeration).wrap value) := by
  obtain ⟨_, kind, width, _⟩ := enumeration
  have positive : 0 < Nat.pow 2 width.bits := Nat.pow_pos (by decide)
  have modulus : (0 : Int) < Nat.pow 2 width.bits := Int.natCast_pos.mpr positive
  cases kind with
  | plain =>
      have least := Int.le_bmod (x := value) positive
      have greatest := Int.le_sub_one_of_lt (Int.bmod_lt (x := value) positive)
      cases width <;> exact ⟨_, _, rfl, least, greatest⟩
  | bitmask =>
      have least := Int.emod_nonneg value modulus.ne'
      have greatest := Int.le_sub_one_of_lt (Int.emod_lt_of_pos value modulus)
      cases width <;> exact ⟨_, _, rfl, least, greatest⟩

/-- Wrapping keeps the remainder modulo two to the width. -/
theorem wrap_modEq (storage : Storage) (value : Int) :
    storage.wrap value ≡ value [ZMOD Nat.pow 2 storage.width.bits] := by
  rw [Storage.wrap]
  split
  · exact Int.bmod_emod
  · exact Int.mod_modEq value _

/-- The numbers of a storage type differ by less than two to its width. -/
theorem span_lt {kind : EnumKind} {width : Width} {least greatest : Int}
    (bounds : integerTypes.lookup (storageType kind width) = some (least, greatest)) :
    greatest - least < Nat.pow 2 width.bits := by
  cases kind <;> cases width <;> cases bounds <;> decide

/-- Numbers of one storage type are not congruent unless they are the same. -/
theorem InRange.eq_of_modEq {kind : EnumKind} {width : Width} {number other : Int}
    (inside : InRange (storageType kind width) number) (insideOther : InRange (storageType kind width) other)
    (congruent : number ≡ other [ZMOD Nat.pow 2 width.bits]) : number = other := by
  obtain ⟨least, greatest, bounds, atLeast, atMost⟩ := inside
  obtain ⟨_, _, same, atLeastOther, atMostOther⟩ := insideOther
  cases bounds.symm.trans same
  have span := span_lt bounds
  have near : |other - number| < Nat.pow 2 width.bits := abs_lt.mpr ⟨by linarith, by linarith⟩
  exact (sub_eq_zero.mp (Int.eq_zero_of_abs_lt_dvd congruent.dvd near)).symm

/-! ## Members -/

/-- A number in decimal: its digits, behind a minus if it is negative. -/
def decimalText (number : Int) : String :=
  (if number < 0 then "-" else "") ++ String.ofList (Nat.toDigits 10 number.natAbs)

theorem toString_eq_decimalText (number : Int) : toString number = decimalText number := by
  cases number with
  | ofNat magnitude =>
      have unsigned : ¬ Int.ofNat magnitude < 0 := Int.not_lt.mpr (Int.natCast_nonneg magnitude)
      rw [decimalText, if_neg unsigned, String.empty_append]
      exact Nat.repr_eq_ofList_toDigits
  | negSucc magnitude =>
      rw [decimalText, if_pos (Int.negSucc_lt_zero magnitude)]
      exact congrArg ("-" ++ ·) Nat.repr_eq_ofList_toDigits

/-- What is written for a declared value: in decimal, a number of the type that stores the enumeration, congruent
to the declared value modulo two to the width. -/
structure StoredAs (type : String) (width : Width) (declared : Int) (text : String) : Prop where
  stored : ∃ number, text = decimalText number ∧ InRange type number ∧
    number ≡ declared [ZMOD Nat.pow 2 width.bits]
  /-- A value that the type holds is written as it is. -/
  unchanged : InRange type declared → text = decimalText declared

theorem storedAs_wrap (enumeration : Enumeration) (value : Int) :
    StoredAs (storageType enumeration.kind enumeration.width) enumeration.width value
      (toString ((storageOf enumeration).wrap value)) := by
  have inside := inRange_wrap enumeration value
  have congruent := wrap_modEq (storageOf enumeration) value
  rw [toString_eq_decimalText]
  constructor
  · exact ⟨_, rfl, inside, congruent⟩
  · intro fits
    rw [inside.eq_of_modEq fits congruent]

/-- The line of a member with that number. -/
def memberLine : EnumKind → (name number : String) → String
  | .plain, name, number => "pub const " ++ name ++ ": Self = Self(" ++ number ++ ");"
  | .bitmask, name, number => "const " ++ name ++ " = " ++ number ++ ";"

/-- The lines of an enumeration's members: one for each value, or the one of `None`. -/
structure MemberLines (enumeration : Enumeration) (lines : List String) : Prop where
  empty : enumeration.values = [] → lines = [memberLine enumeration.kind "None" "0"]
  each : enumeration.values ≠ [] → List.Forall₂ (fun value line =>
    ∃ number, line = memberLine enumeration.kind (identifier value.name) number ∧
      StoredAs (storageType enumeration.kind enumeration.width) enumeration.width value.value.toInt number)
    enumeration.values lines

/-- The lines of the members that the emitter makes. -/
def emittedLines (enumeration : Enumeration) : List String :=
  (enumMembers enumeration).map fun m => memberLine enumeration.kind m.name (toString m.value)

theorem memberLines_emittedLines (enumeration : Enumeration) :
    MemberLines enumeration (emittedLines enumeration) := by
  rw [emittedLines, enumMembers]
  constructor
  · intro empty
    rw [empty]
    rfl
  · intro nonempty
    rw [if_neg (mt List.isEmpty_iff.mp nonempty), List.map_map, List.forall₂_map_right_iff,
      List.forall₂_same]
    exact fun value _ => ⟨_, rfl, storedAs_wrap enumeration value.value.toInt⟩

/-! ## Code -/

/-- The code of an enumeration, with the lines of its members. -/
def enumText (enumeration : Enumeration) (lines : List String) : String :=
  let name := identifier enumeration.name
  let type := storageType enumeration.kind enumeration.width
  match enumeration.kind with
  | .plain =>
    linesText 0
        [ "#[repr(transparent)]",
          "#[derive(Clone, Copy, Debug, Default, PartialEq, Eq, Hash, PartialOrd, Ord)]",
          "pub struct " ++ name ++ "(pub " ++ type ++ ");" ] ++
      ("\n" ++ (lineText 0 ("impl " ++ name ++ " \x7b") ++ linesText 1 lines ++ lineText 0 "\x7d"))
  | .bitmask =>
    lineText 0 "::bitflags::bitflags! \x7b" ++
      (linesText 1
          [ "#[repr(transparent)]",
            "#[derive(Clone, Copy, Debug, PartialEq, Eq, Hash, PartialOrd, Ord)]" ] ++
        (lineText 1 ("pub struct " ++ name ++ ": " ++ type ++ " \x7b") ++ linesText 2 lines ++
          lineText 1 "\x7d")) ++
      lineText 0 "\x7d"

theorem writes_enumDeclaration (enumeration : Enumeration) :
    Writes 0 (enumDeclaration enumeration).script (enumText enumeration (emittedLines enumeration)) := by
  rw [EnumDeclaration.script, enumDeclaration, name_storageOf]
  obtain ⟨name, kind, width, values⟩ := enumeration
  cases kind with
  | plain => exact (writes_lines 0 _).append ((writes_blank 0).append (writes_block (writes_lines 1 _) _ _))
  | bitmask => exact writes_block ((writes_lines 1 _).append (writes_block (writes_lines 2 _) _ _)) _ _

/-- **The code of the enumerations has one declaration for each of them, and every value is written as the integer
type that the declaration names stores it.** -/
theorem enums_store_values (registry : Registry) :
    ∃ texts, code registry .enums = banner .enums ++ "\n\n" ++ "\n".intercalate texts ∧
      List.Forall₂ (fun enumeration text =>
        ∃ lines, MemberLines enumeration lines ∧ text = enumText enumeration lines) registry.enums texts := by
  refine ⟨registry.enums.map fun enumeration => enumText enumeration (emittedLines enumeration),
    code_of_writes registry ?_, ?_⟩
  · rw [bodyScript, Resolving.eval_pure, enumDeclarations, List.map_map]
    refine writes_separated ?_
    rw [List.forall₂_map_left_iff, List.forall₂_map_right_iff, List.forall₂_same]
    exact fun enumeration _ => writes_enumDeclaration enumeration
  · rw [List.forall₂_map_right_iff, List.forall₂_same]
    exact fun enumeration _ => ⟨_, memberLines_emittedLines enumeration, rfl⟩

example : (storageOf ⟨"Status", .plain, .w32, []⟩).wrap 0x80000000 = -2147483648 := by decide

end ApiBindings.Binding
