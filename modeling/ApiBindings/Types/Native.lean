import ApiBindings.Text.Blank

/-!
# Native scalar types

The scalar vocabulary of C headers.  These names are never declared in a registry, yet they are valid
ends of typedef chains and of base-type rows; most of them have a spelling of their own in the emitted
code.
-/

namespace ApiBindings.Types

set_option autoImplicit false

/-- The names of the native scalars. -/
def primitives : List String :=
  ["void", "char", "bool", "float", "double", "int", "unsigned", "size_t", "int8_t", "uint8_t",
    "int16_t", "uint16_t", "int32_t", "uint32_t", "int64_t", "uint64_t", "int8", "uint8", "int16",
    "uint16", "int32", "uint32", "int64", "uint64", "float32", "float64"]

/-- Whether a name is that of a native scalar. -/
def isPrimitive (name : String) : Bool := primitives.contains name

/-- What a native scalar is called in the emitted code. -/
def scalarSpelling? : String → Option String
  | "uint8_t" | "uint8" => some "u8"
  | "uint16_t" | "uint16" => some "u16"
  | "uint32_t" | "uint32" => some "u32"
  | "uint64_t" | "uint64" => some "u64"
  | "int8_t" | "int8" => some "i8"
  | "int16_t" | "int16" => some "i16"
  | "int32_t" | "int32" => some "i32"
  | "int64_t" | "int64" => some "i64"
  | "size_t" => some "usize"
  | "float" | "float32" => some "f32"
  | "double" | "float64" => some "f64"
  | "bool" => some "bool"
  | "int" => some "::core::ffi::c_int"
  | "unsigned" => some "::core::ffi::c_uint"
  | "char" => some "::core::ffi::c_char"
  | "void" => some "::core::ffi::c_void"
  | _ => none

end ApiBindings.Types
