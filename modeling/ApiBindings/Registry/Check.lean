import ApiBindings.Registry.Chain
import ApiBindings.Registry.Lowering
import ApiBindings.Registry.Problem
import ApiBindings.Text.Blank
import ApiBindings.Types.Spelling

/-!
# Checks of a document

All problems of a document, in the order in which they are reported: first the names of each collection,
then what is wrong with each row on its own, then the aliases and typedefs that lead nowhere or in a
circle.  References are checked against the registry of the document's rows, so one bad row does not
hide the problems of another.
-/

namespace ApiBindings

set_option autoImplicit false

open ApiBindings.Text (allBlank)

/-! ## Names -/

/-- The defects of a list of names with their positions: blank names, and names seen before, each with
the position where it was seen first.  Blank names are never counted as seen. -/
def nameDefects (index : Nat) (seen : List (String × Nat)) :
    List String → List (Nat × String × Defect)
  | [] => []
  | name :: names =>
    if allBlank name then
      (index, name, .emptyName .entity) :: nameDefects (index + 1) seen names
    else
      match seen.lookup name with
      | some first => (index, name, .duplicateName first) :: nameDefects (index + 1) seen names
      | none => nameDefects (index + 1) ((name, index) :: seen) names

/-- The problems of a collection's names. -/
def nameProblems (collection : Collection) (names : List String) : List Problem :=
  (nameDefects 0 [] names).map fun (index, name, defect) => ⟨⟨collection, index, name⟩, defect⟩

/-- The defects of the names inside one row: blank names, and names seen before. -/
def memberNameDefects (role : NameRole) (seen : List String) : List String → List Defect
  | [] => []
  | name :: names =>
    if allBlank name then .emptyName role :: memberNameDefects role seen names
    else if seen.contains name then .duplicateMember name :: memberNameDefects role seen names
    else memberNameDefects role (name :: seen) names

/-! ## Rows -/

/-- The defects of a constant row. -/
def ConstantRow.defects (row : ConstantRow) : List Defect :=
  if row.definition?.isNone then [.missingConstantValue] else []

/-- The defects of an enumeration row. -/
def EnumRow.defects (row : EnumRow) : List Defect :=
  (match row.width?, row.bitWidth with
    | none, some bits => [.invalidBitWidth bits]
    | _, _ => [])
    ++ memberNameDefects .enumerant [] (row.values.map (·.name))

/-- The defects of a struct row. -/
def AggregateRow.defects (row : AggregateRow) : List Defect :=
  memberNameDefects .member [] (row.members.map (·.name))
    ++ (row.members.filter (·.count == 0)).map fun m => .zeroElementCount m.name

/-- The defects of a union row, which needs a member. -/
def AggregateRow.unionDefects (row : AggregateRow) : List Defect :=
  (if row.members.isEmpty then [.emptyUnion] else []) ++ row.defects

/-- The defects of a command row. -/
def FunctionRow.defects (row : FunctionRow) : List Defect :=
  memberNameDefects .parameter [] (row.params.map (·.name))

/-- The defects of a function pointer row, which has no aliases. -/
def FunctionRow.pointerDefects (row : FunctionRow) : List Defect :=
  row.aliasOf.toList.map .unexpectedAlias ++ row.defects

/-- The problems of the rows of a collection, given a row's name and its defects. -/
def rowProblems {ρ : Type} (collection : Collection) (nameOf : ρ → String)
    (defectsOf : ρ → List Defect) (rows : List ρ) : List Problem :=
  rows.zipIdx.flatMap fun (row, index) =>
    (defectsOf row).map fun defect => ⟨⟨collection, index, nameOf row⟩, defect⟩

/-! ## References -/

/-- The defect of an alias whose chain goes wrong. -/
def ChainFault.aliasDefect : ChainFault → Defect
  | undeclared name => .unknownAlias name
  | cycle name => .aliasCycle name

/-- The defects of a row that may be an alias: `next` leads from a name to what it is an alias of. -/
def aliasDefects (next : String → Option String) (declared : List String) (name : String)
    (target : Option String) : List Defect :=
  ((Chain.fault? next declared [name] target).map ChainFault.aliasDefect).toList

/-- A name at which resolution goes on: one with a typedef and no base type. -/
def Registry.continuing? (registry : Registry) (name : String) : Option String :=
  if (registry.baseType? name).isNone && (registry.typedef? name).isSome then some name else none

/-- Where resolution goes on behind a typedef: the named type of its target, if it goes on there. -/
def Registry.typedefNext? (registry : Registry) (name : String) : Option String :=
  (registry.typedef? name).bind fun typedef => registry.continuing? (Types.baseName typedef.target)

/-- The defects of a typedef: a target that nothing defines, or a chain of typedefs in a circle. -/
def Registry.typedefDefects (registry : Registry) (typedef : Typedef) : List Defect :=
  let target := Types.baseName typedef.target
  if registry.definesType target then
    match Chain.fault? registry.typedefNext? (registry.typedefs.map (·.name)) [typedef.name]
        (registry.continuing? target) with
    | some (.cycle name) => [.typedefCycle name]
    | _ => []
  else [.unknownTypedefTarget typedef.target]

/-- The defects of a constant row as a reference.  Every row declares its name, even one that stands for
no constant. -/
def Registry.constantAliasDefects (registry : Registry) (declared : List String)
    (row : ConstantRow) : List Defect :=
  aliasDefects (fun name => (registry.constant? name).bind Constant.aliasOf?) declared row.name
    row.aliasOf

/-- The defects of a command row as a reference. -/
def Registry.commandAliasDefects (registry : Registry) (declared : List String)
    (row : FunctionRow) : List Defect :=
  aliasDefects (fun name => (registry.command? name).bind Command.aliasOf) declared row.name
    row.aliasOf

namespace Document

variable (document : Document)

/-! ## All problems -/

/-- The problems of the names of all collections. -/
def allNameProblems : List Problem :=
  nameProblems .constants (document.constants.map (·.name))
    ++ nameProblems .enums (document.enums.map (·.name))
    ++ nameProblems .structs (document.structs.map (·.name))
    ++ nameProblems .unions (document.unions.map (·.name))
    ++ nameProblems .handles (document.handles.map (·.name))
    ++ nameProblems .typedefs (document.typedefs.map (·.name))
    ++ nameProblems .baseTypes (document.baseTypes.map (·.name))
    ++ nameProblems .funcPointers (document.funcPointers.map (·.name))
    ++ nameProblems .commands (document.commands.map (·.name))

/-- The problems of all rows, each on its own. -/
def allRowProblems : List Problem :=
  rowProblems .constants (·.name) ConstantRow.defects document.constants
    ++ rowProblems .enums (·.name) EnumRow.defects document.enums
    ++ rowProblems .structs (·.name) AggregateRow.defects document.structs
    ++ rowProblems .unions (·.name) AggregateRow.unionDefects document.unions
    ++ rowProblems .funcPointers (·.name) FunctionRow.pointerDefects document.funcPointers
    ++ rowProblems .commands (·.name) FunctionRow.defects document.commands

/-- The problems of all references. -/
def allReferenceProblems : List Problem :=
  rowProblems .constants (·.name)
      (document.registry.constantAliasDefects (document.constants.map (·.name))) document.constants
    ++ rowProblems .commands (·.name)
      (document.registry.commandAliasDefects (document.commands.map (·.name))) document.commands
    ++ rowProblems .typedefs (·.name) document.registry.typedefDefects document.typedefs

/-- All problems of a document. -/
def problems : List Problem :=
  document.allNameProblems ++ document.allRowProblems ++ document.allReferenceProblems

end Document

end ApiBindings
