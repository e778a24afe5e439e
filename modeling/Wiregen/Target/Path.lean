/-!
# Paths of emitted code

A path names a module, a type or a function by segments. A segment may carry a generic argument;
such a path can stand for a type, but no function is called through it.
-/

namespace Wiregen.Target

/-- One name of a path, with a generic argument if it carries one. -/
structure Segment where
  name : String
  argument : Option String := none
  deriving DecidableEq, Repr

/-- A sequence of segments, with a separator in front if it is rooted. -/
structure Path where
  rooted : Bool
  segments : List Segment
  deriving DecidableEq, Repr

namespace Path

/-- The path of plain names. -/
def ofNames (names : List String) : Path := ⟨false, names.map ({ name := · })⟩

/-- What the path's last segment holds under the given name. -/
def child (path : Path) (name : String) : Path :=
  ⟨path.rooted, path.segments ++ [{ name := name }]⟩

/-- Whether items below the path can be named in expressions and in types. A generic argument would
read as two comparisons, and `try` opens no type. -/
def isUsable (path : Path) : Bool :=
  path.segments.all (·.argument.isNone)
    && (path.rooted || path.segments.head?.all (·.name != "try"))

end Path

end Wiregen.Target
