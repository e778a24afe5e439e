import Wiregen.Descriptor.Basic
import Wiregen.Text.Pieces

/-!
# Comments of a schema file

Comments by the path of the element they stand at. A location's comment is the one before the
element, or else the one behind it. Of several comments at one path the last counts; blank comments
and those of the file itself do not.
-/

namespace Wiregen.Schema

/-- A comment without white space around its lines and around itself. -/
def cleanComment (cs : List Char) : List Char :=
  Text.trim (Text.joined '\n' ((Text.lines cs).map Text.trim))

/-- Comments with the paths of their elements, in the order of the file. -/
structure Comments where
  entries : List (List Int32 × String)

namespace Comments

/-- The comment that a location puts at its path, if any. -/
def entry? (location : Descriptor.Location) : Option (List Int32 × String) :=
  match location.leading <|> location.trailing with
  | none => none
  | some comment =>
    let cleaned := cleanComment comment.toList
    if cleaned.isEmpty || location.path.isEmpty then none
    else some (location.path, String.ofList cleaned)

/-- The comments of a file. -/
def ofFile (file : Descriptor.File) : Comments := ⟨(file.info.getD []).filterMap entry?⟩

/-- The comment at a path. -/
def get? (comments : Comments) (path : List Int32) : Option String :=
  comments.entries.reverse.lookup path

end Comments

end Wiregen.Schema
