import Wiregen.Target.Identifier
import Wiregen.Text.Pieces
import Wiregen.Text.Uppercase

/-!
# Names of members, types, codecs and units

How the names of a schema become those of the emitted code.
-/

namespace Wiregen.Naming

open Target (Ident)

/-! ## Letter case -/

/-- The text with its first character in upper case. -/
def capitalized : List Char → List Char
  | [] => []
  | c :: cs => Text.upper c ++ cs

/-- Words joined without their underscores, each but the first capitalized. `started` says whether
a character has been written, `raise` whether the next one begins a later word. -/
def camelFrom (started raise : Bool) : List Char → List Char
  | [] => []
  | c :: cs =>
    if c = '_' then camelFrom started started cs
    else if raise then Text.upper c ++ camelFrom true false cs
    else c :: camelFrom true false cs

/-- Words between underscores as one word: `display_name` becomes `displayName`. -/
def camelCase (name : String) : String := String.ofList (camelFrom false false name.toList)

/-- Words between underscores, each capitalized: `my_file` becomes `MyFile`. -/
def pascalCase (name : String) : String :=
  String.ofList ((Text.pieces '_' name.toList).flatMap capitalized)

/-! ## Identifiers -/

/-- The member of a field. -/
def fieldIdent? (field : String) : Option Ident := Ident.ofName? (camelCase field)

/-- The member that holds the keys of a map field. -/
def mapKeysIdent? (field : String) : Option Ident := Ident.ofName? (camelCase field ++ "Keys")

/-- The member that holds the values of a map field. -/
def mapValuesIdent? (field : String) : Option Ident := Ident.ofName? (camelCase field ++ "Values")

/-- The type of a message. -/
def messageIdent? (message : String) : Option Ident := Ident.ofName? message

/-- The codec of a message. -/
def codecIdent? (message : String) : Option Ident := Ident.plain? (message ++ "Codec")

/-- The name of the message that a type name refers to: its last segment, `Inner` for
`.pkg.Outer.Inner`. Nothing, where that is empty. -/
def localName? (typeName : String) : Option String :=
  match Text.lastPiece '.' typeName.toList with
  | [] => none
  | name => some (String.ofList name)

/-! ## Units -/

/-- What the name of a unit ends with. -/
def unitSuffix : String := ".pb.rs"

/-- The text without the given ending, where it has it. -/
def withoutSuffix (suffix cs : List Char) : List Char :=
  if suffix.isSuffixOf cs then cs.take (cs.length - suffix.length) else cs

/-- The path of the unit of a schema file: a directory for each segment of the package that is not
empty, then the file's own name in capitalized words. `dir/my_file.proto` in the package `a.b` gives
`a/b/MyFile.pb.rs`. -/
def unitPath (file package : String) : String :=
  let base := withoutSuffix ".proto".toList (Text.lastPiece '/' file.toList)
  let name := pascalCase (String.ofList base) ++ unitSuffix
  let directories := (Text.pieces '.' package.toList).filter (!·.isEmpty)
  String.ofList (Text.joined '/' (directories ++ [name.toList]))

end Wiregen.Naming
