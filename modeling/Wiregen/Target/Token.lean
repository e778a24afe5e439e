/-!
# Token text

Emitted code as a tree of tokens, and its one-line text: tokens with a space between each two,
parentheses and brackets close around what they hold, braces with a space at each end.
-/

namespace Wiregen.Target

/-- The brackets around a group of tokens. -/
inductive Delimiter where
  | parentheses
  | brackets
  | braces
  deriving DecidableEq, Repr

/-- A token that stands by itself (a name, a literal, a punctuation of one or more characters) or a
group between brackets. -/
inductive Token where
  | word (text : String)
  | group (delimiter : Delimiter) (content : List Token)

mutual

/-- The text of a token. -/
def Token.text : Token → String
  | .word text => text
  | .group .parentheses content => "(" ++ Token.textOf content ++ ")"
  | .group .brackets content => "[" ++ Token.textOf content ++ "]"
  | .group .braces [] => "\x7b \x7d"
  | .group .braces content => "\x7b " ++ Token.textOf content ++ " \x7d"

/-- The text of tokens in a row. -/
def Token.textOf : List Token → String
  | [] => ""
  | [token] => token.text
  | token :: next :: others => token.text ++ " " ++ Token.textOf (next :: others)

end

/-- Tokens that stand by themselves. -/
def words (texts : List String) : List Token := texts.map .word

end Wiregen.Target
