import ApiBindings.Proofs.CommandText
import ApiBindings.Proofs.Declarations
import ApiBindings.Registry.Lowering

/-!
# The parts of the command table

The five parts of the command table come about one by one: each goes through the commands for itself, and they
take their names from the command in three different ways.  This module shows that they fit together
(`table_parts_fit`).

What is printed is said here without the scripts that print it.  A row has what the parts say of one command
(`CommandRow`), every part has its own lines for a row, and the lines of the whole artifact are laid out one below
the other, with the blanks in front of them (`tableLines`).  There is a row for every command that is not an alias,
in the order of the registry (`commandRow`).

Aliases leave no trace: without them the code of the table is the same.
-/

namespace ApiBindings.Binding

set_option autoImplicit false

open Resolving Writer

/-! ## Rows and their lines -/

/-- What the parts of the table say of one command. -/
structure CommandRow where
  /-- The name that the loader is asked for. -/
  native : String
  /-- The name of the function's type. -/
  signature : String
  slot : String
  method : String
  /-- The identifiers of the parameters with their types. -/
  params : List (String × String)
  /-- What follows the parameters. -/
  result : String
  deriving DecidableEq, Repr

namespace CommandRow

variable (row : CommandRow)

/-- The parameters as they are declared. -/
def declarations : List String := row.params.map fun (name, type) => name ++ ": " ++ type

/-- The type of the function. -/
def signatureLine : String :=
  "type " ++ row.signature ++ " = unsafe extern \"system\" fn(" ++ ", ".intercalate row.declarations ++ ")" ++
    row.result ++ ";"

/-- The slot in the table's type, for a function of the row's type. -/
def slotLine : String := "    " ++ row.slot ++ ": Option<" ++ row.signature ++ ">,"

/-- The slot in the table without functions. -/
def emptyLine : String := "            " ++ row.slot ++ ": None,"

/-- The slot in the table that is loaded, where it gets what the loader finds under the row's own name. -/
def loadedLine : String :=
  "            " ++ row.slot ++
    ": unsafe \x7b ::core::mem::transmute::<*const ::core::ffi::c_void, Option<" ++ row.signature ++
    ">>(loader(c\"" ++ row.native ++ "\")) \x7d,"

/-- The method, and a blank line in front of it.  It has the parameters and the result of the row's type, and what
it passes on to the function in the slot are these parameters. -/
def methodLines : List String :=
  [ "",
    "    /// Calls `" ++ row.native ++ "`.",
    "    ///",
    "    /// # Safety",
    "    ///",
    "    /// The caller upholds the command's native contract.",
    "    ///",
    "    /// # Panics",
    "    ///",
    "    /// Panics if the command was not bound by [`Self::load`].",
    "    pub unsafe fn " ++ row.method ++ "(" ++ ", ".intercalate ("&self" :: row.declarations) ++ ")" ++
      row.result ++ " \x7b",
    "        unsafe \x7b (self." ++ row.slot ++ ".expect(\"" ++ row.native ++ " is not bound\"))(" ++
      ", ".intercalate (row.params.map Prod.fst) ++ ") \x7d",
    "    \x7d" ]

end CommandRow

/-! ## The parts -/

section Lines

variable (rows : List CommandRow)

/-- The table's type. -/
def typeLines : List String :=
  [ "/// Runtime-resolved entry points, one slot per command.",
    "#[derive(Clone, Copy)]",
    "pub struct Commands \x7b" ] ++
  rows.map CommandRow.slotLine ++
  [ "\x7d" ]

/-- The constructor that leaves every slot empty. -/
def unboundLines : List String :=
  [ "    /// A table with every slot empty.",
    "    pub const fn unbound() -> Self \x7b",
    "        Self \x7b" ] ++
  rows.map CommandRow.emptyLine ++
  [ "        \x7d",
    "    \x7d" ]

/-- The constructor that asks a loader. -/
def loadLines : List String :=
  [ "    /// Fill every slot with the address `loader` returns for its name.",
    "    /// A null address leaves the slot empty.",
    "    ///",
    "    /// # Safety",
    "    ///",
    "    /// Every non-null address must point to a function with the signature",
    "    /// the registry declares for that name.",
    "    pub unsafe fn load<F>(mut loader: F) -> Self",
    "    where",
    "        F: FnMut(&::core::ffi::CStr) -> *const ::core::ffi::c_void,",
    "    \x7b" ] ++
  (if rows.isEmpty then ["        let _ = &mut loader;"] else []) ++
  [ "        Self \x7b" ] ++
  rows.map CommandRow.loadedLine ++
  [ "        \x7d",
    "    \x7d" ]

/-- The default, a table with every slot empty. -/
def defaultLines : List String :=
  [ "impl Default for Commands \x7b",
    "    fn default() -> Self \x7b",
    "        Self::unbound()",
    "    \x7d",
    "\x7d" ]

/-- The lines of the table, part by part. -/
def tableLines : List String :=
  rows.map CommandRow.signatureLine ++
  (if rows.isEmpty then [] else [""]) ++
  typeLines rows ++
  [ "",
    "impl Commands \x7b" ] ++
  unboundLines rows ++
  [ "" ] ++
  loadLines rows ++
  rows.flatMap CommandRow.methodLines ++
  [ "\x7d",
    "" ] ++
  defaultLines

end Lines

variable (registry : Registry)

/-- The row of a command. -/
def commandRow (command : Command) : CommandRow where
  native := command.name
  signature := command.name ++ "Fn"
  slot := identifier command.name
  method :=
    if command.name = "load" ∨ command.name = "unbound" then command.name ++ "_" else identifier command.name
  params := command.params.map fun param => (identifier param.name, typeText registry param.type)
  result :=
    if (Types.isVoid registry command.returnType).eval registry.resolve then ""
    else " -> " ++ typeText registry command.returnType

/-! ## What the emitters print of a command -/

section Command

variable (command : Command)

theorem declarations_commandRow :
    (commandRow registry command).declarations =
      (declaredParams registry command.params).map EmittedParam.text := by
  simp only [CommandRow.declarations, commandRow, declaredParams, List.map_map]
  rfl

theorem resultText_eq (spelling : String) :
    resultText registry spelling =
      if (Types.isVoid registry spelling).eval registry.resolve then ""
      else " -> " ++ typeText registry spelling := by
  simp only [resultText, typeText, Types.returnSuffix, Types.isVoid, Types.emittedType, eval_bind, eval_pure]

theorem methodName_eq :
    methodName command.name = (commandRow registry command).method := by
  simp [methodName, commandRow, tableMethods]

theorem signatureText_eq :
    ((signatureType registry command).eval registry.resolve).text =
      (commandRow registry command).signatureLine := by
  unfold CommandRow.signatureLine SignatureType.text
  rw [eval_signatureType, declarations_commandRow, paramList, resultText_eq]
  rfl

theorem slotText_eq : indentation 1 ++ (commandSlot command).text = (commandRow registry command).slotLine := by
  unfold CommandRow.slotLine Slot.text
  simp only [String.append_assoc]
  rfl

theorem emptyText_eq : indentation 3 ++ (emptySlot command).text = (commandRow registry command).emptyLine := by
  unfold CommandRow.emptyLine EmptySlot.text
  simp only [String.append_assoc]
  rfl

theorem loadedText_eq :
    indentation 3 ++ (loadedSlot command).text = (commandRow registry command).loadedLine := by
  unfold CommandRow.loadedLine LoadedSlot.text
  simp only [String.append_assoc]
  rfl

/-- The receiver stands before the parameters of a method as one more parameter. -/
theorem receiver_declarations (front : String) (params : List EmittedParam) :
    front ++ "(&self" ++ (if params.isEmpty then "" else ", " ++ paramList params) =
      front ++ "(" ++ ", ".intercalate ("&self" :: params.map EmittedParam.text) := by
  have opened : "(&self" = "(" ++ "&self" := rfl
  cases params with
  | nil =>
      rw [List.isEmpty_nil, if_pos rfl, String.append_empty, List.map_nil, String.intercalate_singleton, opened,
        String.append_assoc]
  | cons param params =>
      rw [List.isEmpty_cons, if_neg Bool.false_ne_true, List.map_cons, String.intercalate_cons_cons, opened,
        paramList, List.map_cons]
      simp only [String.append_assoc]

theorem head_forwarder :
    indentation 1 ++ ((forwarder registry command).eval registry.resolve).head =
      "    pub unsafe fn " ++ (commandRow registry command).method ++ "(" ++
        ", ".intercalate ("&self" :: (commandRow registry command).declarations) ++ ")" ++
        (commandRow registry command).result ++ " \x7b" := by
  have indented : indentation 1 ++ "pub unsafe fn " = "    pub unsafe fn " := by decide +kernel
  unfold Forwarder.head
  rw [eval_forwarder, declarations_commandRow, ← receiver_declarations, ← indented, methodName_eq registry,
    resultText_eq]
  simp only [commandRow, String.append_assoc]

theorem call_forwarder :
    indentation 2 ++ ((forwarder registry command).eval registry.resolve).call =
      "        unsafe \x7b (self." ++ (commandRow registry command).slot ++ ".expect(\"" ++
        (commandRow registry command).native ++ " is not bound\"))(" ++
        ", ".intercalate ((commandRow registry command).params.map Prod.fst) ++ ") \x7d" := by
  have indented : indentation 2 ++ "unsafe \x7b (self." = "        unsafe \x7b (self." := by decide +kernel
  unfold Forwarder.call
  rw [eval_forwarder, ← indented]
  simp only [commandRow, List.map_map, Function.comp_def, String.append_assoc]

theorem code_forwarder :
    "\n" ++ ((forwarder registry command).eval registry.resolve).code =
      linesText 0 (commandRow registry command).methodLines := by
  have native :
      ((forwarder registry command).eval registry.resolve).native = (commandRow registry command).native := by
    rw [eval_forwarder, commandRow]
  have blank : "\n" = linesText 0 [""] := by decide +kernel
  have deeper : indentation 1 = "    " := rfl
  unfold CommandRow.methodLines
  rw [Forwarder.code, blank, linesText_eq_zero 1, lineText_eq_zero 1, lineText_eq_zero 2, lineText_eq_zero 1,
    head_forwarder, call_forwarder, native, ← linesText_append, ← linesText_append, ← linesText_append,
    ← linesText_append, deeper]
  simp only [List.map_cons, List.map_nil, List.cons_append, List.nil_append, ← String.append_assoc,
    String.reduceAppend]

end Command

/-! ## What the whole table prints -/

/-- The columns of a table print the lines of the rows. -/
structure CommandTable.Prints (table : CommandTable) (rows : List CommandRow) : Prop where
  signatures : table.signatures.map SignatureType.text = rows.map CommandRow.signatureLine
  slots : (table.slots.map Slot.text).map (indentation 1 ++ ·) = rows.map CommandRow.slotLine
  emptySlots : (table.emptySlots.map EmptySlot.text).map (indentation 3 ++ ·) = rows.map CommandRow.emptyLine
  loadedSlots : (table.loadedSlots.map LoadedSlot.text).map (indentation 3 ++ ·) = rows.map CommandRow.loadedLine
  sameLoaded : table.loadedSlots.isEmpty = rows.isEmpty
  forwarders : (table.forwarders.map Forwarder.code).map ("\n" ++ ·) =
    rows.map fun row => linesText 0 row.methodLines

theorem prints_commandTable :
    ((commandTable registry).eval registry.resolve).Prints ((boundCommands registry).map (commandRow registry)) := by
  rw [eval_commandTable]
  constructor <;>
    simp only [List.map_map, Function.comp_def, List.isEmpty_map, signatureText_eq, slotText_eq registry,
      emptyText_eq registry, loadedText_eq registry, code_forwarder]

/-- Texts with a line break between each two have one in front of each but the first. -/
theorem intercalate_newline (first : String) (texts : List String) :
    "\n".intercalate (first :: texts) = first ++ String.join (texts.map ("\n" ++ ·)) := by
  induction texts generalizing first with
  | nil => rw [String.intercalate_singleton, List.map_nil, String.join_nil, String.append_empty]
  | cons text texts ih =>
      rw [String.intercalate_cons_cons, ih, List.map_cons, String.join_cons]
      simp only [String.append_assoc]

theorem linesText_flatMap {α : Type} (level : Nat) (entries : List α) (textsOf : α → List String) :
    linesText level (entries.flatMap textsOf) =
      String.join (entries.map fun entry => linesText level (textsOf entry)) := by
  induction entries with
  | nil => rfl
  | cons entry entries ih => rw [List.flatMap_cons, linesText_append, ih, List.map_cons, String.join_cons]

theorem newline_eq_linesText : "\n" = linesText 0 [""] := by decide +kernel

theorem indentation_levels : indentation 0 = "" ∧ indentation 1 = "    " ∧ indentation 2 = "        " ∧
    indentation 3 = "            " := by
  decide +kernel

namespace CommandTable.Prints

variable {table : CommandTable} {rows : List CommandRow} (prints : table.Prints rows)
include prints

theorem signatureCode_eq :
    table.signatureCode = linesText 0 (rows.map CommandRow.signatureLine ++ if rows.isEmpty then [] else [""]) := by
  have same : table.signatures.isEmpty = rows.isEmpty := by
    rw [← List.isEmpty_map (f := SignatureType.text), prints.signatures, List.isEmpty_map]
  rw [signatureCode, prints.signatures, same]
  cases rows with
  | nil => rfl
  | cons row rows => rw [List.isEmpty_cons, if_neg Bool.false_ne_true, if_neg Bool.false_ne_true, linesText_append,
      newline_eq_linesText]

theorem typeCode_eq : table.typeCode = linesText 0 (typeLines rows) := by
  rw [typeCode, linesText_eq_zero 1, prints.slots]
  simp only [lineText_eq_zero, ← linesText_append, typeLines, indentation_levels, String.empty_append,
    List.cons_append, List.nil_append]

theorem unboundCode_eq : table.unboundCode = linesText 0 (unboundLines rows) := by
  rw [unboundCode, linesText_eq_zero 3, prints.emptySlots, linesText_eq_zero 1]
  simp only [lineText_eq_zero, ← linesText_append, unboundLines, indentation_levels, String.reduceAppend,
    List.map_cons, List.map_nil, List.append_assoc, List.cons_append, List.nil_append]

theorem loadCode_eq : table.loadCode = linesText 0 (loadLines rows) := by
  rw [loadCode, linesText_eq_zero 3, prints.loadedSlots, prints.sameLoaded, linesText_eq_zero 1, linesText_eq_zero 2,
    linesText_eq_zero 2, loadLines]
  cases rows.isEmpty <;>
    simp only [lineText_eq_zero, ← linesText_append, indentation_levels, String.reduceAppend, if_true,
      Bool.false_eq_true, if_false, List.map_cons, List.map_nil, List.append_assoc, List.cons_append, List.nil_append]

theorem methodCode_eq : table.methodCode = linesText 0
    ("impl Commands \x7b" :: (unboundLines rows ++ "" :: (loadLines rows ++
      (rows.flatMap CommandRow.methodLines ++ ["\x7d"])))) := by
  rw [methodCode, intercalate_newline, List.map_cons, prints.forwarders, String.join_cons, ← linesText_flatMap,
    prints.unboundCode_eq, prints.loadCode_eq, newline_eq_linesText]
  simp only [lineText_eq_zero, ← linesText_append, indentation_levels, String.empty_append, List.append_assoc,
    List.cons_append, List.nil_append]

/-- The text of the table is the lines of its rows. -/
theorem text_eq : table.text = linesText 0 (tableLines rows) := by
  have default : defaultCode = linesText 0 defaultLines := by decide +kernel
  rw [text, prints.signatureCode_eq, intercalate_newline, prints.typeCode_eq, List.map_cons, List.map_singleton,
    prints.methodCode_eq, default, String.join_cons, String.join_cons, String.join_nil, newline_eq_linesText]
  simp only [← linesText_append, tableLines, String.append_empty, List.append_assoc, List.cons_append,
    List.nil_append]

end CommandTable.Prints

/-- The code of the commands is the text of the table. -/
theorem code_commands :
    code registry .commands =
      banner .commands ++ "\n\n" ++ ((commandTable registry).eval registry.resolve).text := by
  refine code_of_writes registry ?_
  rw [bodyScript, eval_bind, eval_pure]
  exact CommandTable.writes_text _

/-! ## Aliases -/

/-- Walks do not look at commands. -/
theorem walk_with_commands (commands : List Command) (steps : Nat) (name : String) :
    Registry.walk { registry with commands } steps name = registry.walk steps name := by
  induction steps generalizing name with
  | zero => rfl
  | succ steps ih =>
      simp only [Registry.walk, ih]
      rfl

theorem resolve_with_commands (commands : List Command) :
    Registry.resolve { registry with commands } = registry.resolve :=
  funext fun name => walk_with_commands registry commands registry.walkBound name

/-- The emitters of the table ask the registry for types only. -/
theorem commandTable_with_commands {commands : List Command}
    (same : boundCommands { registry with commands } = boundCommands registry) :
    commandTable { registry with commands } = commandTable registry := by
  rw [commandTable, commandTable, same]
  rfl

theorem boundCommands_boundCommands :
    boundCommands { registry with commands := boundCommands registry } = boundCommands registry := by
  simp only [boundCommands, List.filter_filter, Bool.and_self]

/-- **The parts of the command table fit together.**  The code of the commands is laid out line by line: there is
one row for every command without an alias, in the order of the registry, and each of the five parts has its lines
for each row, in this order.  So the slot of a command has one name in all of them and the type of its signature, the
loader is asked for the name that the registry has, and the method has the parameters and the result of the
signature and passes on its parameters in their order.  The code is the same when all aliases are left out. -/
theorem table_parts_fit :
    code registry .commands = banner .commands ++ "\n\n" ++
      linesText 0 (tableLines ((registry.commands.filter (·.aliasOf.isNone)).map (commandRow registry))) ∧
    code { registry with commands := registry.commands.filter (·.aliasOf.isNone) } .commands =
      code registry .commands := by
  constructor
  · rw [code_commands, (prints_commandTable registry).text_eq, boundCommands]
  · have same := commandTable_with_commands registry (boundCommands_boundCommands registry)
    rw [boundCommands] at same
    rw [code_eq_text, code_eq_text, bodyScript, bodyScript, same, resolve_with_commands]

/-- A command and a parameter that are named like keywords, a command that is named like a constructor, and an alias
between the two commands. -/
def keywordCommands : Registry :=
  Document.registry { Document.empty with
    typedefs := [⟨"Size", "uint32_t"⟩]
    commands := [⟨"move", "Size", [⟨"type", "Size"⟩, ⟨"from", "const char*"⟩], none⟩,
      ⟨"drag", "void", [], some "move"⟩, ⟨"load", "void", [], none⟩] }

theorem table_parts_fit_in_keywordCommands :
    let move : CommandRow :=
      ⟨"move", "moveFn", "move_", "move_", [("type_", "u32"), ("from", "*const ::core::ffi::c_char")], " -> u32"⟩
    let load : CommandRow := ⟨"load", "loadFn", "load", "load_", [], ""⟩
    code keywordCommands .commands = banner .commands ++ "\n\n" ++ linesText 0 (tableLines [move, load]) ∧
    (move.methodLines.drop 10).take 2 =
      [ "    pub unsafe fn move_(&self, type_: u32, from: *const ::core::ffi::c_char) -> u32 \x7b",
        "        unsafe \x7b (self.move_.expect(\"move is not bound\"))(type_, from) \x7d" ] := by
  intro move load
  have rows : (keywordCommands.commands.filter (·.aliasOf.isNone)).map (commandRow keywordCommands) =
      [move, load] := by
    decide +kernel
  obtain ⟨lines, -⟩ := table_parts_fit keywordCommands
  rw [rows] at lines
  exact ⟨lines, by decide +kernel⟩

end ApiBindings.Binding
