import Wiregen.Text.CharacterClass

/-!
# Identifiers of emitted code

A name becomes an identifier unless it is a keyword, which is then written in its raw form, or with
an underscore behind it where it has no raw form. A name whose characters do not make up an
identifier has none.
-/

namespace Wiregen.Target

/-- An identifier as it stands in emitted code. -/
inductive Ident where
  /-- The name itself. -/
  | plain (name : String)
  /-- A keyword marked so that it reads as a name. -/
  | raw (keyword : String)
  deriving DecidableEq, Repr

/-- The source text of an identifier. -/
def Ident.text : Ident → String
  | .plain name => name
  | .raw keyword => "r#" ++ keyword

/-- Words that no plain identifier may be. -/
def keywords : List String :=
  ["as", "break", "const", "continue", "crate", "else", "enum", "extern", "false", "fn", "for",
   "if", "impl", "in", "let", "loop", "match", "mod", "move", "mut", "pub", "ref", "return",
   "self", "Self", "static", "struct", "super", "trait", "true", "type", "unsafe", "use", "where",
   "while", "async", "await", "dyn", "abstract", "become", "box", "do", "final", "gen", "macro",
   "override", "priv", "try", "typeof", "unsized", "virtual", "yield"]

/-- Keywords that name a place in the module tree or a type, and have no raw form. -/
def pathKeywords : List String := ["self", "Self", "super", "crate"]

namespace Ident

/-- The name as a plain identifier, if its characters are one. -/
def plain? (name : String) : Option Ident :=
  if Text.isIdentifier name.toList then some (.plain name) else none

/-- Whether a digit of the ten ASCII ones comes first. -/
def startsWithDigit (name : String) : Bool := name.toList.head?.any Char.isDigit

/-- The identifier of a name: no name and the lone underscore become two underscores, and a name
with a digit in front gets one. -/
def ofName? (name : String) : Option Ident :=
  if name = "" ∨ name = "_" then some (.plain "__")
  else if startsWithDigit name then plain? ("_" ++ name)
  else if name ∈ pathKeywords then plain? (name ++ "_")
  else if name ∈ keywords then some (.raw name)
  else plain? name

end Ident

end Wiregen.Target
