import ApiBindings.Proofs.CommandParts
import ApiBindings.Proofs.EscapedNames

/-!
# Names of the methods of the command table

The methods of the command table are its two constructors and one method for every command that is no alias.  The
method of a command has the command's name unless this is a keyword or the name of a constructor; then it gets a
trailing underscore.  No command takes the name of a constructor this way (`methodName_notMem_tableMethods`), but
one may take the name of another command.  The names of all methods are distinct exactly when no command that is
renamed stands beside one that has the new name already (`method_names_distinct_iff`).

Nothing keeps a document from declaring such a pair, and the two methods then have one name
(`build_accepts_method_clash`).  The slots of the pair need not clash: constructors are no keywords, so the slot
of a command that is named like one keeps its name.
-/

namespace ApiBindings.Binding

set_option autoImplicit false

/-! ## Renamed commands -/

/-- A name that no method of a command has: a keyword, or the name of a constructor of the table. -/
def isReserved (name : String) : Bool := tableMethods.contains name || isKeyword name

theorem methodName_eq_renamed : methodName = renamed isReserved := by
  funext name
  rw [methodName, identifier, renamed, isReserved]
  cases tableMethods.contains name <;> simp

theorem not_isReserved_append_underscore (name : String) : isReserved (name ++ "_") = false := by
  have constructors : ∀ method ∈ tableMethods, '_' ∉ method.toList := by decide
  rw [isReserved, isKeyword_append_underscore, Bool.or_false, List.contains_eq_mem, decide_eq_false_iff_not]
  intro mem
  exact constructors _ mem (by simp)

/-- The method of a command is not named like a constructor. -/
theorem methodName_notMem_tableMethods (name : String) : methodName name ∉ tableMethods := by
  intro mem
  have taken : isReserved (methodName name) = true := by
    rw [isReserved, List.contains_iff_mem.mpr mem, Bool.true_or]
  rw [methodName_eq_renamed, renamed] at taken
  split at taken
  · rw [not_isReserved_append_underscore] at taken
    cases taken
  · contradiction

/-! ## Methods -/

/-- The names of the methods in the code of the table: the two constructors, and the methods of commands. -/
def CommandTable.methodNames (table : CommandTable) : List String :=
  "unbound" :: "load" :: table.forwarders.map (·.name)

/-- A command that gets a new name as a method stands beside a command that has this name. -/
def MethodClash (names : List String) : Prop :=
  ∃ name ∈ names, (name = "load" ∨ name = "unbound" ∨ isKeyword name = true) ∧ name ++ "_" ∈ names

theorem isReserved_iff {name : String} :
    isReserved name = true ↔ name = "load" ∨ name = "unbound" ∨ isKeyword name = true := by
  rw [isReserved, Bool.or_eq_true, List.contains_iff_mem, tableMethods, List.mem_cons, List.mem_singleton,
    or_assoc]

theorem nodup_methodNames_iff {names : List String} (distinct : names.Nodup) :
    ("unbound" :: "load" :: names.map methodName).Nodup ↔ ¬ MethodClash names := by
  have apart := nodup_map_renamed_iff not_isReserved_append_underscore distinct
  rw [← methodName_eq_renamed] at apart
  simp only [isReserved_iff] at apart
  have free : ∀ method ∈ tableMethods, method ∉ names.map methodName := by
    intro method listed mem
    obtain ⟨name, -, rfl⟩ := List.mem_map.mp mem
    exact methodName_notMem_tableMethods name listed
  rw [MethodClash, ← apart, List.nodup_cons, List.nodup_cons, List.mem_cons, not_or]
  constructor
  · exact fun nodup => nodup.2.2
  · exact fun nodup => ⟨⟨by decide, free "unbound" (by decide)⟩, free "load" (by decide), nodup⟩

/-- Every command that is no alias has one method, in the order of the registry. -/
theorem forwarders_commandTable (registry : Registry) :
    List.Forall₂ (fun command method => method.native = command.name ∧ method.name = methodName command.name)
      (boundCommands registry) ((commandTable registry).eval registry.resolve).forwarders := by
  rw [eval_commandTable, List.forall₂_map_right_iff, List.forall₂_same]
  intro command _
  rw [eval_forwarder]
  exact ⟨rfl, rfl⟩

/-- **The methods of a built registry's table have distinct names exactly when no command that gets a new name as a
method stands beside a command that has this name.**  There is one method for every command that is no alias, and
none of them has the name of a constructor. -/
theorem method_names_distinct_iff {document : Document} {registry : Registry}
    (built : document.build = .ok registry) :
    let table := (commandTable registry).eval registry.resolve
    code registry .commands = banner .commands ++ "\n\n" ++ table.text ∧
    table.forwarders.map (·.native) = (boundCommands registry).map (·.name) ∧
    (∀ method ∈ table.forwarders, method.name ∉ ["load", "unbound"]) ∧
    (table.methodNames.Nodup ↔ ¬ MethodClash ((boundCommands registry).map (·.name))) := by
  intro table
  have methods := forwarders_commandTable registry
  have names : table.forwarders.map (·.name) =
      (boundCommands registry).map fun command => methodName command.name :=
    map_nameOf_eq methods fun _ _ fits => fits.2
  have bound : ((boundCommands registry).map (·.name)).Sublist (registry.commands.map (·.name)) :=
    List.filter_sublist.map _
  refine ⟨code_commands registry, map_nameOf_eq methods fun _ _ fits => fits.1, ?_, ?_⟩
  · intro method mem taken
    have listed := List.mem_map_of_mem (f := Forwarder.name) mem
    rw [names] at listed
    obtain ⟨command, -, same⟩ := List.mem_map.mp listed
    rw [← same] at taken
    exact methodName_notMem_tableMethods command.name taken
  · have distinct := (Document.distinct_of_build built).commands.sublist bound
    rw [← nodup_methodNames_iff distinct, List.map_map, CommandTable.methodNames, names]
    rfl

/-- Commands named like a keyword and like both constructors; what a constructor's command is renamed to is the name
of an alias, which has no method. -/
def renamedCommands : Document :=
  { Document.empty with
    commands := [⟨"load", "void", [], none⟩, ⟨"unbound", "void", [], none⟩, ⟨"move", "void", [], none⟩,
      ⟨"load_", "void", [], some "move"⟩] }

theorem method_names_distinct_in_renamedCommands :
    renamedCommands.build = .ok renamedCommands.registry ∧
    ((commandTable renamedCommands.registry).eval renamedCommands.registry.resolve).methodNames.Nodup := by
  have built : renamedCommands.build = .ok renamedCommands.registry :=
    Document.build_of_problems_eq_nil (by decide +kernel)
  obtain ⟨-, -, -, distinct⟩ := method_names_distinct_iff built
  refine ⟨built, distinct.mpr ?_⟩
  unfold MethodClash
  decide +kernel

/-- A command named like a constructor, beside one that has its new name. -/
def clashingCommands : Document :=
  { Document.empty with commands := [⟨"load", "void", [], none⟩, ⟨"load_", "void", [], none⟩] }

/-- A build does not keep a command and the new name of another one apart: both methods are named `load_`. -/
theorem build_accepts_method_clash :
    ∃ document registry, Document.build document = .ok registry ∧
      ¬ ((commandTable registry).eval registry.resolve).methodNames.Nodup := by
  refine ⟨clashingCommands, clashingCommands.registry, Document.build_of_problems_eq_nil (by decide +kernel), ?_⟩
  have names : ((commandTable clashingCommands.registry).eval clashingCommands.registry.resolve).methodNames =
      ["unbound", "load", "load_", "load_"] := by
    decide +kernel
  rw [names]
  decide

end ApiBindings.Binding
