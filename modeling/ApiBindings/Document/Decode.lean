import ApiBindings.Document.Basic
import ApiBindings.Document.Record

/-!
# Decoding a document

The formats of the rows of a registry document, and `Document.decode`, which reads a whole text.  Every
field that a format does not require has its default in the format's blank record; a field that may be
null is absent then.  Anything but blanks behind the document is refused.
-/

namespace ApiBindings.Document

set_option autoImplicit false

open Reader

/-! ## Formats of the parts -/

/-- An enumerant: name and value. -/
def enumerantFormat : RecordFormat Enumerant where
  name := "RawEnumValue"
  blank := ⟨"", 0⟩
  fields :=
    [ .of "name" true text fun row name => { row with name },
      .of "value" true i64 fun row value => { row with value } ]

/-- A parameter: name and type. -/
def paramFormat : RecordFormat Param where
  name := "RawParam"
  blank := ⟨"", ""⟩
  fields :=
    [ .of "name" true text fun row name => { row with name },
      .of "type" true text fun row type => { row with type } ]

/-- A member: name, type, and an element count that is one by default. -/
def memberFormat : RecordFormat MemberRow where
  name := "RawMember"
  blank := ⟨"", "", 1⟩
  fields :=
    [ .of "name" true text fun row name => { row with name },
      .of "type" true text fun row type => { row with type },
      .of "count" false u32 fun row count => { row with count } ]

/-! ## Formats of the rows -/

/-- A constant: name, and a type, a value and an alias that may be absent. -/
def constantFormat : RecordFormat ConstantRow where
  name := "RawConstant"
  blank := ⟨"", none, none, none⟩
  fields :=
    [ .of "name" true text fun row name => { row with name },
      .of "type" false (nullable (variant ScalarType.names)) fun row type => { row with type },
      .of "value" false (nullable text) fun row value => { row with value },
      .of "alias" false (nullable text) fun row aliasOf => { row with aliasOf } ]

/-- An enumeration: plain, of the default width and without values unless it says otherwise. -/
def enumFormat : RecordFormat EnumRow where
  name := "RawEnum"
  blank := ⟨"", .plain, none, []⟩
  fields :=
    [ .of "name" true text fun row name => { row with name },
      .of "kind" false (variant EnumKind.names) fun row kind => { row with kind },
      .of "bitwidth" false (nullable u8) fun row bitWidth => { row with bitWidth },
      .of "values" false (sequence (record enumerantFormat)) fun row values =>
        { row with values } ]

/-- A struct or a union. -/
def aggregateFormat : RecordFormat AggregateRow where
  name := "RawAggregate"
  blank := ⟨"", []⟩
  fields :=
    [ .of "name" true text fun row name => { row with name },
      .of "members" false (sequence (record memberFormat)) fun row members =>
        { row with members } ]

/-- A handle, not dispatchable unless it says so. -/
def handleFormat : RecordFormat Handle where
  name := "RawHandle"
  blank := ⟨"", false⟩
  fields :=
    [ .of "name" true text fun row name => { row with name },
      .of "dispatchable" false boolean fun row dispatchable => { row with dispatchable } ]

/-- A typedef or a base type. -/
def typedefFormat : RecordFormat Typedef where
  name := "RawTypeDef"
  blank := ⟨"", ""⟩
  fields :=
    [ .of "name" true text fun row name => { row with name },
      .of "type" true text fun row target => { row with target } ]

/-- A function pointer type or a command; nothing is returned unless it says what. -/
def functionFormat : RecordFormat FunctionRow where
  name := "RawFunction"
  blank := ⟨"", "void", [], none⟩
  fields :=
    [ .of "name" true text fun row name => { row with name },
      .of "return_type" false text fun row returnType => { row with returnType },
      .of "parameters" false (sequence (record paramFormat)) fun row params =>
        { row with params },
      .of "alias" false (nullable text) fun row aliasOf => { row with aliasOf } ]

/-! ## The document -/

/-- A document: nine collections, each empty by default. -/
def documentFormat : RecordFormat Document where
  name := "RawRegistry"
  blank := Document.empty
  fields :=
    [ .of "constants" false (sequence (record constantFormat)) fun document constants =>
        { document with constants },
      .of "enums" false (sequence (record enumFormat)) fun document enums =>
        { document with enums },
      .of "structs" false (sequence (record aggregateFormat)) fun document structs =>
        { document with structs },
      .of "unions" false (sequence (record aggregateFormat)) fun document unions =>
        { document with unions },
      .of "handles" false (sequence (record handleFormat)) fun document handles =>
        { document with handles },
      .of "typedefs" false (sequence (record typedefFormat)) fun document typedefs =>
        { document with typedefs },
      .of "base_types" false (sequence (record typedefFormat)) fun document baseTypes =>
        { document with baseTypes },
      .of "func_pointers" false (sequence (record functionFormat)) fun document funcPointers =>
        { document with funcPointers },
      .of "commands" false (sequence (record functionFormat)) fun document commands =>
        { document with commands } ]

/-- A document and nothing behind it but blanks. -/
def document : Reader Document := do
  let read ← record documentFormat
  if (← peek).isSome then failNext .trailingCharacters
  return read

/-- Reads a document from its text. -/
def decodeText (source : List Char) : Except Fault Document := (document source).map (·.value)

/-- Reads a document, or says why and where the text is none. -/
def decode (source : String) : Except String Document :=
  (decodeText source.toList).mapError (·.message source.toList)

end ApiBindings.Document
