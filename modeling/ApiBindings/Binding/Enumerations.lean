import ApiBindings.Binding.Identifier
import ApiBindings.Binding.Script
import ApiBindings.Registry.Basic

/-!
# Enumerations of the emitted code

A plain enumeration becomes a transparent type over a signed integer with one associated constant per
value, so that values nobody listed are values too.  A bitmask becomes a set of flags over an unsigned
integer.  Declared values wrap into the integer that stores them, as C converts them: they keep their
remainder modulo two to its width.
-/

namespace ApiBindings.Binding

set_option autoImplicit false

/-! ## Storage -/

/-- The integer type that stores an enumeration. -/
structure Storage where
  isSigned : Bool
  width : Width
  deriving DecidableEq, Repr

/-- The name of the integer type. -/
def Storage.name (storage : Storage) : String :=
  (if storage.isSigned then "i" else "u") ++ (match storage.width with | .w32 => "32" | .w64 => "64")

/-- The value of the integer type with the same remainder modulo two to the width. -/
def Storage.wrap (storage : Storage) (value : Int) : Int :=
  if storage.isSigned then Int.bmod value (Nat.pow 2 storage.width.bits)
  else value % Int.pow 2 storage.width.bits

/-- Bitmasks are unsigned and plain enumerations signed. -/
def storageOf (enumeration : Enumeration) : Storage := ⟨enumeration.kind = .plain, enumeration.width⟩

/-! ## Declarations -/

/-- A constant of an enumeration's type. -/
structure EnumMember where
  name : String
  value : Int
  deriving DecidableEq, Repr

/-- The declaration of an enumeration. -/
structure EnumDeclaration where
  name : String
  kind : EnumKind
  storage : Storage
  members : List EnumMember
  deriving DecidableEq, Repr

/-- The member of an enumeration without values. -/
def emptyMember : EnumMember := ⟨"None", 0⟩

/-- The members of an enumeration in the order of its values. -/
def enumMembers (enumeration : Enumeration) : List EnumMember :=
  if enumeration.values.isEmpty then [emptyMember]
  else
    enumeration.values.map fun value =>
      ⟨identifier value.name, (storageOf enumeration).wrap value.value.toInt⟩

/-- The declaration of an enumeration of a registry. -/
def enumDeclaration (enumeration : Enumeration) : EnumDeclaration :=
  ⟨identifier enumeration.name, enumeration.kind, storageOf enumeration, enumMembers enumeration⟩

/-- The declarations of a registry's enumerations. -/
def enumDeclarations (registry : Registry) : List EnumDeclaration :=
  registry.enums.map enumDeclaration

/-! ## Code -/

/-- A member of a plain enumeration as a line. -/
def EnumMember.constantText (m : EnumMember) : String :=
  "pub const " ++ m.name ++ ": Self = Self(" ++ toString m.value ++ ");"

/-- A member of a bitmask as a line. -/
def EnumMember.flagText (m : EnumMember) : String :=
  "const " ++ m.name ++ " = " ++ toString m.value ++ ";"

/-- The declaration as code. -/
def EnumDeclaration.script (declaration : EnumDeclaration) : Script :=
  let name := declaration.name
  let storage := declaration.storage.name
  match declaration.kind with
  | .plain =>
    Script.lines
        [ "#[repr(transparent)]",
          "#[derive(Clone, Copy, Debug, Default, PartialEq, Eq, Hash, PartialOrd, Ord)]",
          "pub struct " ++ name ++ "(pub " ++ storage ++ ");" ]
      ++ .blank
      :: Script.block ("impl " ++ name ++ " \x7b")
        (Script.lines (declaration.members.map EnumMember.constantText)) "\x7d"
  | .bitmask =>
    Script.block "::bitflags::bitflags! \x7b"
      (Script.lines
          [ "#[repr(transparent)]",
            "#[derive(Clone, Copy, Debug, PartialEq, Eq, Hash, PartialOrd, Ord)]" ]
        ++ Script.block ("pub struct " ++ name ++ ": " ++ storage ++ " \x7b")
          (Script.lines (declaration.members.map EnumMember.flagText)) "\x7d")
      "\x7d"

end ApiBindings.Binding
