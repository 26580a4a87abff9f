import ApiBindings.Registry.Basic

/-!
# Problems of a document

What can be wrong with a document that reads well: a problem is a defect of one row.  Its location is
the collection, the position of the row in it, and the row's name; its wording starts with the location.
-/

namespace ApiBindings

set_option autoImplicit false

/-- The collections of a document. -/
inductive Collection where
  | constants
  | enums
  | structs
  | unions
  | handles
  | typedefs
  | baseTypes
  | funcPointers
  | commands
  deriving DecidableEq, Repr, Inhabited

/-- The collection's name in documents and messages. -/
def Collection.name : Collection → String
  | constants => "constants"
  | enums => "enums"
  | structs => "structs"
  | unions => "unions"
  | handles => "handles"
  | typedefs => "typedefs"
  | baseTypes => "base_types"
  | funcPointers => "func_pointers"
  | commands => "commands"

/-- A row of a document. -/
structure Location where
  collection : Collection
  index : Nat
  name : String
  deriving DecidableEq, Repr, Inhabited

/-- How a message names a row. -/
def Location.description (location : Location) : String :=
  location.collection.name ++ "[" ++ toString location.index ++ "] `" ++ location.name ++ "`"

/-- What a name belongs to. -/
inductive NameRole where
  | entity
  | enumerant
  | member
  | parameter
  deriving DecidableEq, Repr, Inhabited

/-- How a message names the role. -/
def NameRole.name : NameRole → String
  | entity => "entity"
  | enumerant => "enumerant"
  | member => "member"
  | parameter => "parameter"

/-- What is wrong with a row. -/
inductive Defect where
  | emptyName (role : NameRole)
  | duplicateName (first : Nat)
  | duplicateMember (member : String)
  | zeroElementCount (member : String)
  | unknownAlias (target : String)
  | aliasCycle (target : String)
  | emptyUnion
  | unexpectedAlias (target : String)
  | missingConstantValue
  | unknownTypedefTarget (target : String)
  | typedefCycle (target : String)
  | invalidBitWidth (width : UInt8)
  deriving DecidableEq, Repr, Inhabited

/-- The wording of a defect. -/
def Defect.message : Defect → String
  | emptyName role => "empty " ++ role.name ++ " name"
  | duplicateName first => "duplicate name, first declared at index " ++ toString first
  | duplicateMember member => "`" ++ member ++ "` is declared more than once"
  | zeroElementCount member => "member `" ++ member ++ "` has an element count of 0"
  | unknownAlias target => "alias target `" ++ target ++ "` is not declared"
  | aliasCycle target => "alias chain loops back through `" ++ target ++ "`"
  | emptyUnion => "union declares no members"
  | unexpectedAlias target => "aliases are not allowed here (alias of `" ++ target ++ "`)"
  | missingConstantValue => "constant has neither a typed value nor an alias"
  | unknownTypedefTarget target =>
    "typedef target `" ++ target ++ "` is not a declared or native type"
  | typedefCycle target => "typedef chain loops back through `" ++ target ++ "`"
  | invalidBitWidth width =>
    "unsupported bit width " ++ toString width.toNat ++ ", expected 32 or 64"

/-- A defect of a row. -/
structure Problem where
  location : Location
  defect : Defect
  deriving DecidableEq, Repr, Inhabited

/-- The wording of a problem. -/
def Problem.message (problem : Problem) : String :=
  problem.location.description ++ ": " ++ problem.defect.message

/-- The wording of the problems of one document. -/
def Problem.summary : List Problem → String
  | [problem] => "invalid registry: " ++ problem.message
  | problems =>
    "invalid registry: " ++ toString problems.length ++ " problems"
      ++ String.join (problems.map fun problem => "\n  " ++ problem.message)

end ApiBindings
