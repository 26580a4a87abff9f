import ApiBindings.Binding.FunctionTypes

/-!
# The command table of the emitted code

Commands are found at run time, so they become one table: a private signature per command, a slot per
command that holds a function of that signature or nothing, a constructor that leaves every slot empty,
one that asks a loader for the address of every command, and a method per command that calls what its
slot holds.

A command that is only another name for a command has none of these.  Each of the five parts goes through
the commands for itself and reads from a command what it needs; `CommandTable` is what they come to.
-/

namespace ApiBindings.Binding

set_option autoImplicit false

/-! ## Names -/

/-- The name of the type of a command's function. -/
def signatureName (name : String) : String := name ++ "Fn"

/-- The methods of the table itself. -/
def tableMethods : List String := ["load", "unbound"]

/-- The method of a command: a name of the table's own methods gets a trailing underscore, as a keyword
does. -/
def methodName (name : String) : String :=
  if tableMethods.contains name then name ++ "_" else identifier name

/-- Parameters as they are declared. -/
def paramList (params : List EmittedParam) : String := ", ".intercalate (params.map EmittedParam.text)

/-! ## Signatures -/

/-- The type of a command's function. -/
structure SignatureType where
  name : String
  params : List EmittedParam
  /-- What follows the parameters. -/
  result : String
  deriving DecidableEq, Repr

/-- The signature as a line. -/
def SignatureType.text (signature : SignatureType) : String :=
  "type " ++ signature.name ++ " = unsafe extern \"system\" fn(" ++ paramList signature.params ++ ")"
    ++ signature.result ++ ";"

/-- The signature of a command. -/
def signatureType (registry : Registry) (command : Command) : Resolving SignatureType := do
  let params ← emittedParams registry command.params
  let result ← Types.returnSuffix registry command.returnType
  return ⟨signatureName command.name, params, result⟩

/-! ## Slots -/

/-- A slot of the table, for a function of a type. -/
structure Slot where
  name : String
  type : String
  deriving DecidableEq, Repr

/-- The slot as it is declared. -/
def Slot.text (slot : Slot) : String := slot.name ++ ": Option<" ++ slot.type ++ ">,"

/-- The slot of a command. -/
def commandSlot (command : Command) : Slot := ⟨identifier command.name, signatureName command.name⟩

/-- A slot that nothing is put into. -/
structure EmptySlot where
  slot : String
  deriving DecidableEq, Repr

/-- The empty slot as a line. -/
def EmptySlot.text (empty : EmptySlot) : String := empty.slot ++ ": None,"

/-- The empty slot of a command. -/
def emptySlot (command : Command) : EmptySlot := ⟨identifier command.name⟩

/-- A slot that gets what a loader finds. -/
structure LoadedSlot where
  slot : String
  type : String
  /-- The name that the loader is asked for. -/
  native : String
  deriving DecidableEq, Repr

/-- The loaded slot as a line. -/
def LoadedSlot.text (loaded : LoadedSlot) : String :=
  loaded.slot ++ ": unsafe \x7b ::core::mem::transmute::<*const ::core::ffi::c_void, Option<"
    ++ loaded.type ++ ">>(loader(c\"" ++ loaded.native ++ "\")) \x7d,"

/-- The loaded slot of a command. -/
def loadedSlot (command : Command) : LoadedSlot :=
  ⟨identifier command.name, signatureName command.name, command.name⟩

/-! ## Methods -/

/-- A method that calls the function in a slot. -/
structure Forwarder where
  name : String
  /-- The command's own name, for the reader of the code and of its messages. -/
  native : String
  params : List EmittedParam
  /-- What follows the parameters. -/
  result : String
  /-- The slot that is called. -/
  slot : String
  /-- What is passed on. -/
  arguments : List String
  deriving DecidableEq, Repr

/-- The method of a command. -/
def forwarder (registry : Registry) (command : Command) : Resolving Forwarder := do
  let params ← emittedParams registry command.params
  let result ← Types.returnSuffix registry command.returnType
  return {
    name := methodName command.name
    native := command.name
    params
    result
    slot := identifier command.name
    arguments := command.params.map fun param => identifier param.name }

namespace Forwarder

variable (method : Forwarder)

/-- The first line of the method. -/
def head : String :=
  "pub unsafe fn " ++ method.name ++ "(&self"
    ++ (if method.params.isEmpty then "" else ", " ++ paramList method.params) ++ ")" ++ method.result
    ++ " \x7b"

/-- The line of the method that calls the function. -/
def call : String :=
  "unsafe \x7b (self." ++ method.slot ++ ".expect(\"" ++ method.native ++ " is not bound\"))("
    ++ ", ".intercalate method.arguments ++ ") \x7d"

/-- The method as code. -/
def script : Script :=
  Script.lines
      [ "/// Calls `" ++ method.native ++ "`.",
        "///",
        "/// # Safety",
        "///",
        "/// The caller upholds the command's native contract.",
        "///",
        "/// # Panics",
        "///",
        "/// Panics if the command was not bound by [`Self::load`]." ]
    ++ Script.block method.head (Script.lines [method.call]) "\x7d"

end Forwarder

/-! ## The table -/

/-- What the five parts of the table hold. -/
structure CommandTable where
  signatures : List SignatureType
  slots : List Slot
  emptySlots : List EmptySlot
  loadedSlots : List LoadedSlot
  forwarders : List Forwarder
  deriving DecidableEq, Repr

/-- The commands that have an entry point of their own. -/
def boundCommands (registry : Registry) : List Command :=
  registry.commands.filter (·.aliasOf.isNone)

/-- The table of a registry's commands. -/
def commandTable (registry : Registry) : Resolving CommandTable := do
  let commands := boundCommands registry
  let signatures ← commands.mapM (signatureType registry)
  let forwarders ← commands.mapM (forwarder registry)
  return {
    signatures
    slots := commands.map commandSlot
    emptySlots := commands.map emptySlot
    loadedSlots := commands.map loadedSlot
    forwarders }

/-- The name of the table's type. -/
def tableName : String := "Commands"

/-- The table's type. -/
def tableScript (slots : List Slot) : Script :=
  Script.lines
      ["/// Runtime-resolved entry points, one slot per command.", "#[derive(Clone, Copy)]"]
    ++ Script.block ("pub struct " ++ tableName ++ " \x7b") (Script.lines (slots.map Slot.text)) "\x7d"

/-- The constructor that leaves every slot empty. -/
def unboundScript (slots : List EmptySlot) : Script :=
  Script.lines ["/// A table with every slot empty."]
    ++ Script.block "pub const fn unbound() -> Self \x7b"
      (Script.block "Self \x7b" (Script.lines (slots.map EmptySlot.text)) "\x7d")
      "\x7d"

/-- The constructor that asks a loader for every command. -/
def loadScript (slots : List LoadedSlot) : Script :=
  Script.lines
      [ "/// Fill every slot with the address `loader` returns for its name.",
        "/// A null address leaves the slot empty.",
        "///",
        "/// # Safety",
        "///",
        "/// Every non-null address must point to a function with the signature",
        "/// the registry declares for that name.",
        "pub unsafe fn load<F>(mut loader: F) -> Self",
        "where" ]
    ++ Script.indented
      (Script.lines ["F: FnMut(&::core::ffi::CStr) -> *const ::core::ffi::c_void,"])
    ++ Script.block "\x7b"
      (Script.lines (if slots.isEmpty then ["let _ = &mut loader;"] else [])
        ++ Script.block "Self \x7b" (Script.lines (slots.map LoadedSlot.text)) "\x7d")
      "\x7d"

/-- The table and all that belongs to it, as code. -/
def CommandTable.script (table : CommandTable) : Script :=
  (if table.signatures.isEmpty then []
    else Script.lines (table.signatures.map SignatureType.text) ++ [.blank])
    ++ Script.separated
      [ tableScript table.slots,
        Script.block ("impl " ++ tableName ++ " \x7b")
          (Script.separated
            (unboundScript table.emptySlots :: loadScript table.loadedSlots
              :: table.forwarders.map Forwarder.script))
          "\x7d",
        Script.block ("impl Default for " ++ tableName ++ " \x7b")
          (Script.block "fn default() -> Self \x7b" (Script.lines ["Self::unbound()"]) "\x7d")
          "\x7d" ]

end ApiBindings.Binding
