/-!
# Text cut at a separator and at its ends

`n` separators cut a text into `n + 1` pieces, any of which may be empty, and joined they are the
text again. Lines are the pieces at line feeds, with two exceptions: a line feed at the end of the
text starts no line, and a carriage return just before a line feed belongs to neither line. What is
cut off at the ends of a text is its white space, the Unicode property `White_Space`.
-/

namespace Wiregen.Text

/-- The piece before the first separator, and the pieces after it. -/
def cutFirst (sep : Char) : List Char → List Char × List (List Char)
  | [] => ([], [])
  | c :: cs =>
    let (piece, others) := cutFirst sep cs
    if c = sep then ([], piece :: others) else (c :: piece, others)

/-- The pieces of a text between its separators. -/
def pieces (sep : Char) (cs : List Char) : List (List Char) :=
  (cutFirst sep cs).1 :: (cutFirst sep cs).2

/-- The last piece of a text: all that follows its last separator. -/
def lastPiece (sep : Char) (cs : List Char) : List Char :=
  (cs.reverse.takeWhile (· ≠ sep)).reverse

/-- The texts with a separator between each two. -/
def joined (sep : Char) : List (List Char) → List Char
  | [] => []
  | [piece] => piece
  | piece :: next :: others => piece ++ sep :: joined sep (next :: others)

/-- Nothing is lost in cutting. -/
theorem joined_pieces (sep : Char) (cs : List Char) : joined sep (pieces sep cs) = cs := by
  unfold pieces
  induction cs with
  | nil => rfl
  | cons c cs ih =>
    simp only [cutFirst]
    generalize cutFirst sep cs = cut at ih ⊢
    obtain ⟨piece, others⟩ := cut
    by_cases h : c = sep
    · subst h
      simpa [joined] using ih
    · cases others <;> simpa [h, joined] using ih

/-- The text without a carriage return at its end. -/
def dropReturn (cs : List Char) : List Char :=
  if cs.getLast? = some '\r' then cs.dropLast else cs

/-- Lines from the pieces at line feeds: only the last piece has no line feed after it. -/
def closeLines : List (List Char) → List (List Char)
  | [] => []
  | [last] => if last.isEmpty then [] else [last]
  | piece :: next :: others => dropReturn piece :: closeLines (next :: others)

/-- The lines of a text. -/
def lines (cs : List Char) : List (List Char) := closeLines (pieces '\n' cs)

/-! ## White space -/

/-- Whether the character is white space: 25 characters in all. -/
def isBlank (c : Char) : Bool :=
  let n := c.toNat
  (0x09 ≤ n && n ≤ 0x0D) || n = 0x20 || n = 0x85 || n = 0xA0 || n = 0x1680
    || (0x2000 ≤ n && n ≤ 0x200A) || n = 0x2028 || n = 0x2029 || n = 0x202F || n = 0x205F
    || n = 0x3000

/-- The text up to its last character that fails the test. -/
def dropEnd (p : Char → Bool) (cs : List Char) : List Char := (cs.reverse.dropWhile p).reverse

/-- The text without white space at its ends. -/
def trim (cs : List Char) : List Char := dropEnd isBlank (cs.dropWhile isBlank)

end Wiregen.Text
