import Wiregen.Target.Syntax
import Wiregen.Target.Token
import Wiregen.Text.Quoted

/-!
# The tokens of emitted code

Each form of the syntax as tokens. A punctuation that is written as one keeps its characters
together.
-/

namespace Wiregen.Target

/-- The items with the separator's tokens between each two. -/
def separated (separator : List Token) (items : List (List Token)) : List Token :=
  (items.intersperse separator).flatten

/-- Statements end with this. -/
def semicolon : Token := .word ";"

/-- Items are separated by this. -/
def comma : Token := .word ","

/-- A group in parentheses with commas between its items. -/
def parenthesized (items : List (List Token)) : Token :=
  .group .parentheses (separated [comma] items)

/-! ## Paths and types -/

/-- The tokens of a segment. -/
def Segment.tokens (segment : Segment) : List Token :=
  match segment.argument with
  | none => words [segment.name]
  | some argument => words [segment.name, "<", argument, ">"]

/-- The tokens of a path. -/
def Path.tokens (path : Path) : List Token :=
  (if path.rooted then words ["::"] else [])
    ++ separated (words ["::"]) (path.segments.map Segment.tokens)

/-- The tokens of a borrow. -/
def borrowTokens (mutable : Bool) : List Token := words (if mutable then ["&", "mut"] else ["&"])

mutual

/-- The tokens of a type. -/
def Ty.tokens : Ty → List Token
  | .path p => p.tokens
  | .generic name arguments => words [name, "<"] ++ Ty.listTokens arguments ++ words [">"]
  | .optionalBox content => words ["Option", "<", "Box", "<"] ++ content.tokens ++ words [">>"]
  | .borrow mutable referent => borrowTokens mutable ++ referent.tokens
  | .slice element => [.group .brackets element.tokens]

/-- The tokens of types with commas between them. -/
def Ty.listTokens : List Ty → List Token
  | [] => []
  | [type] => type.tokens
  | type :: next :: others => type.tokens ++ comma :: Ty.listTokens (next :: others)

end

/-! ## Expressions and patterns -/

mutual

/-- The tokens of an expression. -/
def Expr.tokens : Expr → List Token
  | .path p => p.tokens
  | .literal text => words [text]
  | .member base name => base.tokens ++ words [".", name]
  | .call callee arguments =>
    callee.tokens ++ [.group .parentheses (Expr.listTokens arguments)]
  | .method receiver name arguments =>
    receiver.tokens ++ words [".", name] ++ [.group .parentheses (Expr.listTokens arguments)]
  | .borrow mutable referent => borrowTokens mutable ++ referent.tokens
  | .deref pointer => .word "*" :: pointer.tokens
  | .propagate result => result.tokens ++ words ["?"]
  | .assign place value => place.tokens ++ .word "=" :: value.tokens
  | .binary left operator right => left.tokens ++ .word operator :: right.tokens
  | .giveBack value => .word "return" :: value.tokens

/-- The tokens of expressions with commas between them. -/
def Expr.listTokens : List Expr → List Token
  | [] => []
  | [e] => e.tokens
  | e :: next :: others => e.tokens ++ comma :: Expr.listTokens (next :: others)

end

/-- The tokens of a pattern. -/
def Pattern.tokens : Pattern → List Token
  | .name mutable bound => words (if mutable then ["mut", bound] else [bound])
  | .pair first second => [parenthesized [words [first], words [second]]]

/-! ## Statements -/

/-- What an assertion on lengths says. -/
def sameLengthText : String := Text.literal "map keys and values must have the same length"

/-- The length of a member of the message. -/
def lengthOf (member : String) : Expr := .method (.member (.var "msg") member) "len" []

mutual

/-- The tokens of a statement. -/
def Stmt.tokens : Stmt → List Token
  | .bind pattern type value =>
    .word "let" :: pattern.tokens
      ++ (match type with
        | some type => .word ":" :: type.tokens
        | none => [])
      ++ .word "=" :: value.tokens ++ [semicolon]
  | .run effect => effect.tokens ++ [semicolon]
  | .result value => value.tokens
  | .whileLoop condition body =>
    .word "while" :: condition.tokens ++ [.group .braces (Stmt.listTokens body)]
  | .forLoop pattern elements body =>
    .word "for" :: pattern.tokens ++ .word "in" :: elements.tokens
      ++ [.group .braces (Stmt.listTokens body)]
  | .ifSome name value body =>
    words ["if", "let", "Some"] ++ parenthesized [words [name]] :: .word "=" :: value.tokens
      ++ [.group .braces (Stmt.listTokens body)]
  | .select scrutinee arms otherwise =>
    .word "match" :: scrutinee.tokens
      ++ [.group .braces (Arm.listTokens arms ++ words ["_", "=>"] ++ otherwise.tokens ++ [comma])]
  | .assertSameLength first second =>
    words ["debug_assert_eq", "!"]
      ++ [.group .parentheses ((lengthOf first).tokens ++ comma :: (lengthOf second).tokens
        ++ comma :: words [sameLengthText] ++ [comma]), semicolon]

/-- The tokens of statements in a row. -/
def Stmt.listTokens : List Stmt → List Token
  | [] => []
  | stmt :: others => stmt.tokens ++ Stmt.listTokens others

/-- The tokens of an arm. -/
def Arm.tokens : Arm → List Token
  | .mk key body => words [toString key.toNat, "=>"] ++ [.group .braces (Stmt.listTokens body)]

/-- The tokens of arms in a row. -/
def Arm.listTokens : List Arm → List Token
  | [] => []
  | arm :: others => arm.tokens ++ Arm.listTokens others

end

/-! ## Items -/

/-- The tokens of a line of documentation. -/
def docTokens (line : String) : List Token :=
  [.word "#", .group .brackets (words ["doc", "=", Text.literal line])]

/-- The tokens of an attribute. -/
def Attribute.tokens (a : Attribute) : List Token :=
  [.word "#", .group .brackets [.word a.name, parenthesized (a.items.map Path.tokens)]]

/-- The tokens of a member. -/
def Member.tokens (member : Member) : List Token :=
  member.docs.flatMap docTokens ++ words ["pub", member.name, ":"] ++ member.type.tokens ++ [comma]

/-- The tokens of a function. -/
def Function.tokens (function : Function) : List Token :=
  function.attributes.flatMap Attribute.tokens ++ words ["pub", "fn", function.name]
    ++ [parenthesized (function.parameters.map fun parameter =>
      words [parameter.1, ":"] ++ parameter.2.tokens)]
    ++ (match function.returns with
      | some type => .word "->" :: type.tokens
      | none => [])
    ++ [.group .braces (Stmt.listTokens function.body)]

/-- The tokens of an item. -/
def Item.tokens : Item → List Token
  | .struct docs attributes name members =>
    docs.flatMap docTokens ++ attributes.flatMap Attribute.tokens ++ words ["pub", "struct", name]
      ++ [.group .braces (members.flatMap Member.tokens)]
  | .unitStruct name => words ["pub", "struct", name] ++ [semicolon]
  | .implementation name functions =>
    words ["impl", name] ++ [.group .braces (functions.flatMap Function.tokens)]

end Wiregen.Target
