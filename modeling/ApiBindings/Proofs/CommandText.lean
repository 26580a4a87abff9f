import ApiBindings.Binding.CommandTable
import ApiBindings.Proofs.ScriptText

/-!
# The code of the command table

The script of the table nests blocks in blocks.  Here is the text that it writes, part by part, and each part with
one line for every entry (`CommandTable.text`); the methods stand behind the two constructors, a blank line before
each of them.
-/

namespace ApiBindings.Binding

set_option autoImplicit false

open Writer Script

/-! ## Methods -/

/-- The code of a method. -/
def Forwarder.code (method : Forwarder) : String :=
  linesText 1
      [ "/// Calls `" ++ method.native ++ "`.",
        "///",
        "/// # Safety",
        "///",
        "/// The caller upholds the command's native contract.",
        "///",
        "/// # Panics",
        "///",
        "/// Panics if the command was not bound by [`Self::load`]." ] ++
    (lineText 1 method.head ++ lineText 2 method.call ++ lineText 1 "\x7d")

theorem Forwarder.writes_code (method : Forwarder) : Writes 1 method.script method.code :=
  (writes_lines 1 _).append (writes_block (writes_line 2 method.call) method.head "\x7d")

/-! ## The parts of the table -/

namespace CommandTable

variable (table : CommandTable)

/-- The signatures and the blank line behind them. -/
def signatureCode : String :=
  if table.signatures.isEmpty then "" else linesText 0 (table.signatures.map SignatureType.text) ++ "\n"

/-- The table's type, with one line for each slot. -/
def typeCode : String :=
  linesText 0 ["/// Runtime-resolved entry points, one slot per command.", "#[derive(Clone, Copy)]"] ++
    (lineText 0 "pub struct Commands \x7b" ++ linesText 1 (table.slots.map Slot.text) ++ lineText 0 "\x7d")

/-- The constructor that leaves every slot empty, with one line for each of them. -/
def unboundCode : String :=
  linesText 1 ["/// A table with every slot empty."] ++
    (lineText 1 "pub const fn unbound() -> Self \x7b" ++
      (lineText 2 "Self \x7b" ++ linesText 3 (table.emptySlots.map EmptySlot.text) ++ lineText 2 "\x7d") ++
      lineText 1 "\x7d")

/-- The constructor that asks a loader, with one line for each slot. -/
def loadCode : String :=
  linesText 1
      [ "/// Fill every slot with the address `loader` returns for its name.",
        "/// A null address leaves the slot empty.",
        "///",
        "/// # Safety",
        "///",
        "/// Every non-null address must point to a function with the signature",
        "/// the registry declares for that name.",
        "pub unsafe fn load<F>(mut loader: F) -> Self",
        "where" ] ++
    linesText 2 ["F: FnMut(&::core::ffi::CStr) -> *const ::core::ffi::c_void,"] ++
    (lineText 1 "\x7b" ++
      (linesText 2 (if table.loadedSlots.isEmpty then ["let _ = &mut loader;"] else []) ++
        (lineText 2 "Self \x7b" ++ linesText 3 (table.loadedSlots.map LoadedSlot.text) ++
          lineText 2 "\x7d")) ++
      lineText 1 "\x7d")

/-- The constructors and the methods, with a blank line between each two. -/
def methodCode : String :=
  lineText 0 "impl Commands \x7b" ++
    "\n".intercalate (table.unboundCode :: table.loadCode :: table.forwarders.map Forwarder.code) ++
    lineText 0 "\x7d"

/-- The default, a table with every slot empty. -/
def defaultCode : String :=
  lineText 0 "impl Default for Commands \x7b" ++
    (lineText 1 "fn default() -> Self \x7b" ++ linesText 2 ["Self::unbound()"] ++ lineText 1 "\x7d") ++
    lineText 0 "\x7d"

/-- The code of the table. -/
def text : String :=
  table.signatureCode ++ "\n".intercalate [table.typeCode, table.methodCode, defaultCode]

theorem writes_signatureCode :
    Writes 0 (if table.signatures.isEmpty then []
      else lines (table.signatures.map SignatureType.text) ++ [.blank]) table.signatureCode := by
  rw [signatureCode]
  cases table.signatures.isEmpty with
  | true => exact writes_nil 0
  | false => exact (writes_lines 0 _).append (writes_blank 0)

theorem writes_typeCode : Writes 0 (tableScript table.slots) table.typeCode :=
  (writes_lines 0 _).append (writes_block (writes_lines 1 _) _ _)

theorem writes_unboundCode : Writes 1 (unboundScript table.emptySlots) table.unboundCode :=
  (writes_lines 1 _).append (writes_block (writes_block (writes_lines 3 _) _ _) _ _)

theorem writes_loadCode : Writes 1 (loadScript table.loadedSlots) table.loadCode := by
  have condition := writes_indented (writes_lines 2
    ["F: FnMut(&::core::ffi::CStr) -> *const ::core::ffi::c_void,"])
  have body := (writes_lines 2 (if table.loadedSlots.isEmpty then ["let _ = &mut loader;"] else [])).append
    (writes_block (writes_lines 3 (table.loadedSlots.map LoadedSlot.text)) "Self \x7b" "\x7d")
  exact ((writes_lines 1 _).append condition).append (writes_block body "\x7b" "\x7d")

theorem writes_methodCode :
    Writes 0 (block "impl Commands \x7b" (separated (unboundScript table.emptySlots ::
      loadScript table.loadedSlots :: table.forwarders.map Forwarder.script)) "\x7d") table.methodCode := by
  refine writes_block (writes_separated ?_) _ _
  refine .cons table.writes_unboundCode (.cons table.writes_loadCode ?_)
  rw [List.forall₂_map_left_iff, List.forall₂_map_right_iff, List.forall₂_same]
  exact fun method _ => method.writes_code

/-- The script of the table writes its code. -/
theorem writes_text : Writes 0 table.script table.text := by
  have default : Writes 0 _ defaultCode := writes_block (writes_block (writes_lines 2 _) _ _) _ _
  exact table.writes_signatureCode.append
    (writes_separated (.cons table.writes_typeCode (.cons table.writes_methodCode (.cons default .nil))))

end CommandTable

end ApiBindings.Binding
