import ApiBindings.Binding.Identifier
import ApiBindings.Binding.Script
import ApiBindings.Registry.Basic

/-!
# Handles of the emitted code

A dispatchable handle is a pointer to an object of the driver, any other handle a 64-bit integer whose
meaning is up to the driver.  Both become a transparent type with a null value, conversion from what it
wraps, and comparison with it.
-/

namespace ApiBindings.Binding

set_option autoImplicit false

/-! ## Declarations -/

/-- What a handle wraps. -/
def handleStorage (handle : Handle) : String :=
  if handle.dispatchable then "*mut ::core::ffi::c_void" else "u64"

/-- The null of what a handle wraps. -/
def handleNull (handle : Handle) : String :=
  if handle.dispatchable then "::core::ptr::null_mut()" else "0"

/-- The declaration of a handle. -/
structure HandleDeclaration where
  name : String
  storage : String
  null : String
  deriving DecidableEq, Repr

/-- The declaration of a handle of a registry. -/
def handleDeclaration (handle : Handle) : HandleDeclaration :=
  ⟨identifier handle.name, handleStorage handle, handleNull handle⟩

/-- The declarations of a registry's handles. -/
def handleDeclarations (registry : Registry) : List HandleDeclaration :=
  registry.handles.map handleDeclaration

/-! ## Code -/

/-- A block for an implementation with one function of one line. -/
def singleFunction (head signature body : String) : Script :=
  Script.block (head ++ " \x7b")
    (Script.block (signature ++ " \x7b") (Script.lines [body]) "\x7d") "\x7d"

/-- The declaration of a handle as code. -/
def HandleDeclaration.script (declaration : HandleDeclaration) : Script :=
  let name := declaration.name
  let storage := declaration.storage
  Script.separated
    [ Script.lines
        [ "#[repr(transparent)]",
          "#[derive(Clone, Copy, Debug, PartialEq, Eq, Hash, PartialOrd, Ord)]",
          "pub struct " ++ name ++ "(pub " ++ storage ++ ");" ],
      Script.block ("impl " ++ name ++ " \x7b")
        (Script.separated
          [ Script.lines ["pub const NULL: Self = Self(" ++ declaration.null ++ ");"],
            Script.block "pub fn is_null(self) -> bool \x7b"
              (Script.lines ["self == Self::NULL"]) "\x7d" ])
        "\x7d",
      singleFunction ("impl Default for " ++ name) "fn default() -> Self" "Self::NULL",
      singleFunction ("impl From<" ++ storage ++ "> for " ++ name)
        ("fn from(raw: " ++ storage ++ ") -> Self") "Self(raw)",
      singleFunction ("impl PartialEq<" ++ storage ++ "> for " ++ name)
        ("fn eq(&self, other: &" ++ storage ++ ") -> bool") "self.0 == *other" ]

end ApiBindings.Binding
