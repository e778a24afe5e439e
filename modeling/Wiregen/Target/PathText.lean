import Wiregen.Target.Path
import Wiregen.Text.CharacterClass
import Wiregen.Text.Pieces

/-!
# Paths written by hand

A path given as text: names joined by `::`, with white space and comments between them as one likes.
Documentation comments are not comments here, they would attach to something. A name may carry one
generic argument, a plain name; paths with other generic arguments are not read.
-/

namespace Wiregen.Target.PathText

/-! ## Comments -/

/-- Where in a text a character stands. -/
inductive Place where
  | code
  | lineComment
  /-- In a block comment, with this many more open around it. -/
  | blockComment (around : Nat)

/-- Whether what follows `//` makes the comment documentation. Four slashes do not. -/
def opensLineDoc : List Char → Bool
  | '!' :: _ => true
  | '/' :: cs => cs.head? != some '/'
  | _ => false

/-- Whether what follows `/*` makes the comment documentation. Three stars do not. -/
def opensBlockDoc : List Char → Bool
  | '!' :: _ => true
  | '*' :: cs => cs.head? != some '*'
  | _ => false

/-- The text with a blank for each comment. Block comments nest, and one that is not closed is an
error, as is documentation. -/
def withoutComments? : Place → List Char → Option (List Char)
  | .code, '/' :: '/' :: cs =>
    if opensLineDoc cs then none else (withoutComments? .lineComment cs).map (' ' :: ·)
  | .code, '/' :: '*' :: '*' :: '/' :: cs => (withoutComments? .code cs).map (' ' :: ·)
  | .code, '/' :: '*' :: cs =>
    if opensBlockDoc cs then none else (withoutComments? (.blockComment 0) cs).map (' ' :: ·)
  | .code, c :: cs => (withoutComments? .code cs).map (c :: ·)
  | .lineComment, c :: cs => withoutComments? (if c = '\n' then .code else .lineComment) cs
  | .blockComment around, '/' :: '*' :: cs => withoutComments? (.blockComment (around + 1)) cs
  | .blockComment 0, '*' :: '/' :: cs => withoutComments? .code cs
  | .blockComment (around + 1), '*' :: '/' :: cs => withoutComments? (.blockComment around) cs
  | .blockComment around, _ :: cs => withoutComments? (.blockComment around) cs
  | .blockComment _, [] => none
  | .code, [] | .lineComment, [] => some []

/-! ## Lexemes -/

/-- What a path is written with. -/
inductive Lexeme where
  | name (text : String)
  | separator
  | opening
  | closing
  deriving DecidableEq

/-- White space in code: blanks and the two marks of writing direction. -/
def isSpace (c : Char) : Bool := Text.isBlank c || c = '\u200E' || c = '\u200F'

/-- Names that have no raw form. -/
def withoutRawForm : List String := ["_", "self", "Self", "super", "crate"]

/-- The lexemes of a text without comments. -/
def lexemes? : List Char → Option (List Lexeme)
  | [] => some []
  | ':' :: ':' :: cs => (lexemes? cs).map (.separator :: ·)
  | '<' :: cs => (lexemes? cs).map (.opening :: ·)
  | '>' :: cs => (lexemes? cs).map (.closing :: ·)
  | 'r' :: '#' :: c :: cs =>
    let name := String.ofList (c :: cs.takeWhile Text.isIdentifierContinue)
    if Text.isIdentifierStart c ∧ name ∉ withoutRawForm then
      (lexemes? (cs.dropWhile Text.isIdentifierContinue)).map (.name ("r#" ++ name) :: ·)
    else none
  | c :: cs =>
    if isSpace c then lexemes? cs
    else if Text.isIdentifierStart c then
      let name := String.ofList (c :: cs.takeWhile Text.isIdentifierContinue)
      (lexemes? (cs.dropWhile Text.isIdentifierContinue)).map (.name name :: ·)
    else none
termination_by cs => cs.length
decreasing_by
  all_goals
    have := (List.dropWhile_suffix (p := Text.isIdentifierContinue) (l := cs)).length_le
    simp only [List.length_cons]
    omega

/-! ## Segments -/

/-- Words that are no names in a path. -/
def reserved : List String :=
  ["_", "abstract", "as", "async", "await", "become", "box", "break", "const", "continue", "do",
   "dyn", "else", "enum", "extern", "false", "final", "fn", "for", "if", "impl", "in", "let",
   "loop", "macro", "match", "mod", "move", "mut", "override", "priv", "pub", "ref", "return",
   "static", "struct", "trait", "true", "type", "typeof", "unsafe", "unsized", "use", "virtual",
   "where", "while", "yield"]

/-- Keywords that stand in a path for a module. -/
def places : List String := ["self", "super", "crate", "try"]

/-- Whether the name can be a generic argument by itself. -/
def isArgument (name : String) : Bool := name ∉ reserved && name ≠ "try"

/-- The segments that the lexemes write, a separator between each two. A segment takes one generic
argument, a plain name. Several arguments, nested ones, or a separator before the bracket, as in
`a::<b>`, are paths of code as well, and are refused here. -/
def segments? : List Lexeme → Option (List Segment)
  | [.name n] => if n ∈ reserved then none else some [{ name := n }]
  | .name n :: .separator :: others =>
    if n ∈ reserved then none else (segments? others).map ({ name := n } :: ·)
  | [.name n, .opening, .name a, .closing] =>
    if n ∈ reserved ++ places ∨ !isArgument a then none
    else some [{ name := n, argument := some a }]
  | .name n :: .opening :: .name a :: .closing :: .separator :: others =>
    if n ∈ reserved ++ places ∨ !isArgument a then none
    else (segments? others).map ({ name := n, argument := some a } :: ·)
  | _ => none

/-- The path that the lexemes write. -/
def ofLexemes? : List Lexeme → Option Path
  | .separator :: lexemes => (segments? lexemes).map (⟨true, ·⟩)
  | lexemes => (segments? lexemes).map (⟨false, ·⟩)

/-- The text without a byte order mark in front. -/
def withoutByteOrderMark : List Char → List Char
  | '\uFEFF' :: cs => cs
  | cs => cs

/-- The path that a text writes. -/
def parse? (text : String) : Option Path :=
  (withoutComments? .code (withoutByteOrderMark text.toList)).bind lexemes? |>.bind ofLexemes?

end Wiregen.Target.PathText
