import Wiregen.Target.Layout
import Wiregen.Target.Spelling
import Wiregen.Text.Pieces

/-!
# The lines of emitted code

Each form of the syntax as a document. Blocks are indented by four; lists in brackets stay on the
line or stand one item to a line with a comma behind each; chains of members and calls break before
their dots.
-/

namespace Wiregen.Target

open Doc

/-! ## Shared shapes -/

/-- The step of indentation. -/
def indentation : Int := 4

/-- The items with the separator between each two. -/
def joinedBy (separator : List Doc) (items : List (List Doc)) : List Doc :=
  (items.intersperse separator).flatten

/-- Texts in a row. -/
def texts (words : List String) : List Doc := words.map .text

/-- A comma list between brackets, without the brackets: on one line, or one item to a line with a
comma behind the last as well. Nothing at all for no items. -/
def commaList (items : List (List Doc)) : List Doc :=
  if items.isEmpty then []
  else
    [consistent indentation
      (zero :: joinedBy [.text ",", space] items
        ++ [.linebreak { before := ",", offset := -indentation }])]

/-- Lines between braces, each indented, without the braces. No lines at all only end the measure of
what stands before them. -/
def indented (lines : List (List Doc)) : List Doc :=
  if lines.isEmpty then [never]
  else
    hard :: joinedBy [hard] lines ++ [.linebreak { blank := unfitting, offset := -indentation }]

/-- What follows the opening brace of a nested block, up to its closing brace. -/
def blockRest (lines : List (List Doc)) : List Doc :=
  [never, consistent indentation (indented lines), .text "\x7d"]

/-! ## Paths and types -/

/-- The document of a segment. -/
def Segment.doc (segment : Segment) : List Doc :=
  match segment.argument with
  | none => texts [segment.name]
  | some argument => texts [segment.name, "<"] ++ commaList [texts [argument]] ++ texts [">"]

/-- The document of a path. -/
def Path.doc (path : Path) : List Doc :=
  (if path.rooted then [.text "::"] else [])
    ++ joinedBy [.text "::"] (path.segments.map Segment.doc)

/-- The document of a borrow. -/
def borrowDoc (mutable : Bool) : List Doc := texts (if mutable then ["&", "mut "] else ["&"])

mutual

/-- The document of a type. -/
def Ty.doc : Ty → List Doc
  | .path p => p.doc
  | .generic name arguments =>
    texts [name, "<"] ++ commaList (Ty.docs arguments) ++ [.text ">"]
  | .optionalBox content =>
    texts ["Option", "<"]
      ++ commaList [texts ["Box", "<"] ++ commaList [content.doc] ++ [.text ">"]]
      ++ [.text ">"]
  | .borrow mutable referent => borrowDoc mutable ++ referent.doc
  | .slice element => .text "[" :: element.doc ++ [.text "]"]

/-- The documents of types. -/
def Ty.docs : List Ty → List (List Doc)
  | [] => []
  | type :: others => type.doc :: Ty.docs others

end

/-- The text of a type on one line. -/
def Ty.text (type : Ty) : String := flatAll type.doc

/-! ## Expressions -/

/-- Whether the expression is a lone name no longer than the indentation. -/
def Expr.isShort : Expr → Bool
  | .path ⟨false, [⟨name, none⟩]⟩ => name.utf8ByteSize ≤ indentation.toNat
  | _ => false

mutual

/-- The document of an expression. `opens` says that it opens a statement: a chain that starts with
a short name then keeps its first dot on the line. -/
def Expr.doc (opens : Bool) : Expr → List Doc
  | .path p => p.doc
  | .literal spelling => [.text spelling]
  | .member base name =>
    [consistent indentation
      (base.chain opens ++ (if opens && base.isShort then [] else [zero]) ++ texts [".", name])]
  | .method receiver name arguments =>
    let short := opens && receiver.isShort
    [consistent indentation
      (receiver.chain opens ++ (if short then [] else [zero]) ++ texts [".", name]
        ++ [consistent (if short then -indentation else 0)
          (.text "(" :: commaList (Expr.docs arguments) ++ [.text ")"])])]
  | .call callee arguments =>
    callee.doc opens ++ .text "(" :: commaList (Expr.docs arguments) ++ [.text ")"]
  | .borrow mutable referent => borrowDoc mutable ++ referent.doc false
  | .deref pointer => .text "*" :: pointer.doc false
  | .propagate result => result.doc opens ++ [.text "?"]
  | .assign place value =>
    [inconsistent 0 (place.doc false ++ [.text " = ", never] ++ value.doc false)]
  | .binary left operator right =>
    [inconsistent indentation
      (inconsistent (-indentation) (left.doc false)
        :: space :: texts [operator, " "] ++ right.doc false)]
  | .giveBack value => texts ["return", " "] ++ value.doc false

/-- The document of an expression as what a chain continues from. -/
def Expr.chain (opens : Bool) : Expr → List Doc
  | .member base name =>
    base.chain opens ++ (if opens && base.isShort then [] else [zero]) ++ texts [".", name]
  | .method receiver name arguments =>
    receiver.chain opens ++ (if opens && receiver.isShort then [] else [zero]) ++ texts [".", name]
      ++ [consistent 0 (.text "(" :: commaList (Expr.docs arguments) ++ [.text ")"])]
  | e => [consistent (-indentation) (e.doc false)]

/-- The documents of expressions. -/
def Expr.docs : List Expr → List (List Doc)
  | [] => []
  | e :: others => e.doc false :: Expr.docs others

end

/-- Whether the brace after a head with this expression goes on a line of its own where the head is
broken. -/
def Expr.isChain : Expr → Bool
  | .member .. | .method .. | .binary .. | .assign .. => true
  | .borrow _ e | .call e _ | .propagate e | .deref e => e.isChain
  | .path _ | .literal _ | .giveBack _ => false

/-- The head of a block: a condition, the elements of a loop, what a choice looks at. -/
def headDoc (content : List Doc) (isChain : Bool) : Doc :=
  consistent 0 (content ++ [if isChain then space else .text " "])

/-- An expression as the head of a block. -/
def Expr.head (e : Expr) : Doc := headDoc (e.doc false) e.isChain

/-! ## Patterns and statements -/

/-- The document of a pattern. -/
def Pattern.doc : Pattern → List Doc
  | .name mutable bound => texts (if mutable then ["mut ", bound] else [bound])
  | .pair first second => .text "(" :: commaList [texts [first], texts [second]] ++ [.text ")"]

/-- The document of a binding of the content of an optional value. -/
def someHead (name : String) (value : Expr) : Doc :=
  headDoc
    [inconsistent 0
      [.text "let ",
        inconsistent 0 (texts ["Some", "("] ++ commaList [texts [name]] ++ [.text ")"]),
        .text " = ", never,
        inconsistent 0 (value.doc false)]]
    value.isChain

/-- The document of a member's length in an assertion. -/
def lengthDoc (member : String) : List Doc :=
  [.text "msg", zero, .text ".", .text member, zero] ++ texts [".", "len", "(", ")", ","]

mutual

/-- The document of a statement. -/
def Stmt.doc : Stmt → List Doc
  | .bind pattern type value =>
    [inconsistent 0
      (.text "let " :: pattern.doc
        ++ (match type with
          | some type => .text ": " :: type.doc
          | none => [])
        ++ [.text " = ", never] ++ value.doc false),
      .text ";"]
  | .run effect => [inconsistent 0 (effect.doc true ++ [.text ";"])]
  | .result value => [inconsistent 0 (value.doc true)]
  | .whileLoop condition body =>
    [inconsistent 0
      ([.text "while ", condition.head, .text "\x7b"] ++ blockRest (Stmt.docs body))]
  | .forLoop pattern elements body =>
    [inconsistent 0
      [inconsistent 0
        (.text "for " :: pattern.doc ++ [.text " in ", never, elements.head, .text "\x7b"]
          ++ blockRest (Stmt.docs body))]]
  | .ifSome name value body =>
    [inconsistent 0
      [consistent indentation
        ([.text "if ", consistent (-indentation) [someHead name value], .text "\x7b"]
          ++ indented (Stmt.docs body) ++ [.text "\x7d"])]]
  | .select scrutinee arms otherwise =>
    [inconsistent 0
      [inconsistent 0
        ([.text "match ", scrutinee.head, .text "\x7b"]
          ++ blockRest (Arm.docs arms ++ [otherArm otherwise]))]]
  | .assertSameLength first second =>
    texts ["debug_assert_eq", "!", "("]
      ++ [consistent indentation
        [zero,
          inconsistent 0
            (lengthDoc first ++ space :: lengthDoc second
              ++ [space, .text sameLengthText, .text ","]),
          .linebreak { offset := -indentation }]]
      ++ texts [")", ";"]
where
  /-- The arm for every other number: its expression, in braces where it takes a line of its own. -/
  otherArm (e : Expr) : List Doc :=
    [inconsistent 0
      [.text "_", .text " => ", never,
        consistent indentation
          (.linebreak { before := "\x7b" } :: e.doc true
            ++ [.linebreak
              { offset := -indentation, before := ";", after := "\x7d", unbroken := "," }])]]

/-- The documents of statements. -/
def Stmt.docs : List Stmt → List (List Doc)
  | [] => []
  | stmt :: others => stmt.doc :: Stmt.docs others

/-- The document of an arm. -/
def Arm.doc : Arm → List Doc
  | .mk key body =>
    [inconsistent 0
      ([.text (toString key.toNat), .text " => ", .text "\x7b"] ++ blockRest (Stmt.docs body))]

/-- The documents of arms. -/
def Arm.docs : List Arm → List (List Doc)
  | [] => []
  | arm :: others => arm.doc :: Arm.docs others

end

/-! ## Documentation and attributes -/

/-- The text without blanks at its end. -/
def withoutTrailingBlanks (cs : List Char) : List Char := Text.dropEnd (· = ' ') cs

/-- Whether the delimiters of block comments in the text pair up, `depth` of them being open. -/
def commentsPair : (depth : Nat) → List Char → Bool
  | depth, '/' :: '*' :: cs => commentsPair (depth + 1) cs
  | 0, '*' :: '/' :: _ => false
  | depth + 1, '*' :: '/' :: cs => commentsPair depth cs
  | depth, _ :: cs => commentsPair depth cs
  | depth, [] => depth = 0

/-- Whether the text can stand in a block comment. -/
def fitsBlockComment (cs : List Char) : Bool := commentsPair 0 cs && cs.getLast? != some '/'

/-- The lines of a text without blanks at the end of any but the last. -/
def trimmedInside (cs : List Char) : List Char :=
  let all := Text.pieces '\n' cs
  Text.joined '\n' (all.dropLast.map withoutTrailingBlanks ++ all.getLast?.toList)

/-- Documentation as a comment: of one line, or a block of several; text that would end the block
before its time is an attribute. -/
def docComment (line : String) : List Doc :=
  let cs := line.toList
  if !cs.contains '\n' then
    texts ["///", String.ofList (withoutTrailingBlanks cs)] ++ [hard]
  else if fitsBlockComment cs then
    texts ["/**", String.ofList (trimmedInside cs), "*/"] ++ [hard]
  else texts ["#", "[", "doc", " = ", Text.literal line, "]"] ++ [space]

/-- The document of an attribute. -/
def Attribute.doc (a : Attribute) : List Doc :=
  texts ["#", "[", a.name, "("]
    ++ [consistent indentation
      (zero :: joinedBy [.text ",", space] (a.items.map Path.doc)
        ++ [.linebreak { offset := -indentation }])]
    ++ texts [")", "]"] ++ [space]

/-! ## Items -/

/-- The document of a member. -/
def Member.doc (member : Member) : List Doc :=
  member.docs.flatMap docComment ++ texts ["pub ", member.name, ": "] ++ member.type.doc
    ++ [.text ","]

/-- The document of a function. -/
def Function.doc (function : Function) : List Doc :=
  function.attributes.flatMap Attribute.doc
    ++ [consistent indentation
      (texts ["pub ", "fn ", function.name, "("]
        ++ [never, consistent 0 (parameterDocs function.parameters), .text ")",
          consistent (-indentation)
            (match function.returns with
            | some type => .text " -> " :: type.doc
            | none => []),
          .text " ", .text "\x7b"]
        ++ indented (Stmt.docs function.body)),
      .text "\x7d"]
where
  /-- The parameters between the parentheses. -/
  parameterDocs (parameters : List (String × Ty)) : List Doc :=
    zero ::
      joinedBy [.text ",", space]
        (parameters.map fun parameter => texts [parameter.1, ": "] ++ parameter.2.doc)
      ++ [.linebreak { before := ",", offset := -indentation }]

/-- The document of an item, the end of its last line included. -/
def Item.doc : Item → List Doc
  | .struct docs attributes name members =>
    docs.flatMap docComment ++ attributes.flatMap Attribute.doc
      ++ [consistent indentation
          (texts ["pub ", "struct ", name, " ", "\x7b"] ++ indented (members.map Member.doc)),
        .text "\x7d", hard]
  | .unitStruct name =>
    [consistent indentation (texts ["pub ", "struct ", name, ";"]), hard]
  | .implementation name functions =>
    [consistent indentation
        (inconsistent (-indentation)
            [consistent indentation (texts ["impl"]), .text " ", .text name]
          :: texts [" ", "\x7b"] ++ indented (functions.map Function.doc)),
      .text "\x7d", hard]

/-- The lines of a unit's items. -/
def pretty (items : List Item) : String := layout (consistent 0 (items.flatMap Item.doc))

end Wiregen.Target
