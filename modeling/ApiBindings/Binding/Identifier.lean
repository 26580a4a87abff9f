/-!
# Identifiers of the emitted code

Registry names are used as identifiers of the emitted code.  A name that is a keyword there is escaped
by one trailing underscore; every other name is kept as it is.
-/

namespace ApiBindings.Binding

set_option autoImplicit false

/-- The strict and reserved keywords of the emitted language, in every edition. -/
def keywords : List String :=
  ["abstract", "as", "async", "await", "become", "box", "break", "const", "continue", "crate",
    "do", "dyn", "else", "enum", "extern", "false", "final", "fn", "for", "gen", "if", "impl",
    "in", "let", "loop", "macro", "match", "mod", "move", "mut", "override", "priv", "pub", "ref",
    "return", "self", "Self", "static", "struct", "super", "trait", "true", "try", "type",
    "typeof", "unsafe", "unsized", "use", "virtual", "where", "while", "yield"]

/-- Whether a name is a keyword. -/
def isKeyword (name : String) : Bool := keywords.contains name

/-- The identifier for a name: a keyword gets a trailing underscore. -/
def identifier (name : String) : String := if isKeyword name then name ++ "_" else name

/-- A name that is no keyword is its own identifier. -/
theorem identifier_of_not_keyword {name : String} (h : isKeyword name = false) :
    identifier name = name := by
  simp [identifier, h]

end ApiBindings.Binding
