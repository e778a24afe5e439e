import Wiregen.Text.CharacterClass

/-!
# Quoted text

Text between double quotes, with a backslash form for what would not stand there by itself: quotes,
backslashes, line ends and tabs, and by its code point any character that has no glyph of its own or
joins the one before it.
-/

namespace Wiregen.Text

/-- A digit in base 16, letters in lower case. -/
def hexDigit (n : Nat) : Char := if n < 10 then Char.ofNat (48 + n) else Char.ofNat (87 + n)

/-- A number in base 16, without leading zeros. -/
def hex (n : Nat) : List Char :=
  if n < 16 then [hexDigit n] else hex (n / 16) ++ [hexDigit (n % 16)]
termination_by n
decreasing_by omega

/-- Whether the character has a glyph and takes a place of its own. -/
def standsAlone (c : Char) : Bool :=
  if c.toNat < 128 then 0x20 ≤ c.toNat && c.toNat < 0x7F
  else !joiningMarks.contains c && !unprintable.contains c

/-- A character as it stands between double quotes. -/
def escape (c : Char) : List Char :=
  match c with
  | '\x00' => ['\\', '0']
  | '\t' => ['\\', 't']
  | '\n' => ['\\', 'n']
  | '\r' => ['\\', 'r']
  | '\\' => ['\\', '\\']
  | '"' => ['\\', '"']
  | c => if standsAlone c then [c] else ['\\', 'u', '\x7b'] ++ hex c.toNat ++ ['\x7d']

/-- A text in double quotes. -/
def quoted (s : String) : String := String.ofList ('"' :: s.toList.flatMap escape ++ ['"'])

/-- A text as the source of a string literal. It differs from the quoted text in one character: a
null before an octal digit is `\x00`, so that nobody reads an octal escape there. -/
def literalChars : List Char → List Char
  | [] => []
  | '\x00' :: c :: cs =>
    (if '0' ≤ c && c ≤ '7' then ['\\', 'x', '0', '0'] else ['\\', '0']) ++ literalChars (c :: cs)
  | c :: cs => escape c ++ literalChars cs

/-- The source of a string literal with the given content. -/
def literal (s : String) : String := String.ofList ('"' :: literalChars s.toList ++ ['"'])

end Wiregen.Text
