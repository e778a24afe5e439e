import Wiregen.Text.Pieces

/-!
# Paths

A path is names with slashes between them. An empty name and a lone dot lead nowhere, two dots lead
to the directory above, and a path that starts with a slash starts at the root.
-/

namespace Wiregen.Run

/-- Whether the path starts at the root. -/
def isRooted (path : String) : Bool := path.toList.head? = some '/'

/-- A path below a directory. A rooted path stands for itself. -/
def joinPath (directory path : String) : String :=
  if isRooted path || directory = "" then path
  else if directory.toList.getLast? = some '/' then directory ++ path
  else directory ++ "/" ++ path

/-- Whether a piece between slashes leads nowhere. -/
def leadsNowhere (piece : List Char) : Bool := piece = [] || piece = ['.']

/-- The names of a path that lead somewhere. -/
def pathNames (path : String) : List String :=
  ((Text.pieces '/' path.toList).filter fun piece => !leadsNowhere piece).map String.ofList

/-- Whether the path ends in a way that only the path of a directory may. -/
def endsAsDirectory (path : String) : Bool :=
  let last := Text.lastPiece '/' path.toList
  leadsNowhere last || last = ['.', '.']

/-- The paths of a first piece and the pieces below it, the longest first. The pieces below come
last one first; a path ends in one that leads somewhere. -/
def pathsDown (first : List Char) : List (List Char) → List (List Char)
  | [] => [if first = [] then ['/'] else first]
  | piece :: above =>
    if leadsNowhere piece then pathsDown first above
    else Text.joined '/' (first :: (piece :: above).reverse) :: pathsDown first above

/-- The paths of the directories above a path, the nearest first. Each is a beginning of the path as
it is written; a path of one name has none, since the working directory needs no path. -/
def parentPaths (path : String) : List String :=
  match Text.pieces '/' path.toList with
  | [] => []
  | first :: below =>
    match below.reverse.dropWhile leadsNowhere with
    | [] => []
    | _ :: above => (pathsDown first above).map String.ofList

end Wiregen.Run
