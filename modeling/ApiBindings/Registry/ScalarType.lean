/-!
# Scalar types of constants

A constant of a registry holds an integer, a floating point number or a text.  Documents name these
types in several ways; this module lists the accepted names and reads them.
-/

namespace ApiBindings

set_option autoImplicit false

/-- The type of a constant's value. -/
inductive ScalarType where
  | u32
  | u64
  | i32
  | i64
  | f32
  | f64
  | str
  deriving DecidableEq, Repr, Inhabited

namespace ScalarType

/-- The names that documents use, in the order in which they are listed to a reader. -/
def names : List (String × ScalarType) :=
  [("u32", .u32), ("uint32", .u32), ("uint32_t", .u32), ("u64", .u64), ("uint64", .u64),
    ("uint64_t", .u64), ("i32", .i32), ("int32", .i32), ("int32_t", .i32), ("i64", .i64),
    ("int64", .i64), ("int64_t", .i64), ("f32", .f32), ("float", .f32), ("float32", .f32),
    ("double", .f64), ("f64", .f64), ("float64", .f64), ("str", .str), ("string", .str)]

/-- Reads a type name; names are matched exactly. -/
def ofName? (name : String) : Option ScalarType := names.lookup name

/-- Whether the values are floating point numbers. -/
def isFloat : ScalarType → Bool
  | .f32 | .f64 => true
  | _ => false

/-- The type in the emitted code. -/
def spelling : ScalarType → String
  | .u32 => "u32"
  | .u64 => "u64"
  | .i32 => "i32"
  | .i64 => "i64"
  | .f32 => "f32"
  | .f64 => "f64"
  | .str => "&str"

end ScalarType

end ApiBindings
