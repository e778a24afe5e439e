import Wiregen.Target.Path

/-!
# Emitted code

The part of the target language that codecs are written in: types, expressions, patterns,
statements and items. Every definition has one place where a form is spelled as tokens and one
where it is laid out in lines; what is emitted is decided on these trees.
-/

namespace Wiregen.Target

/-- A type. -/
inductive Ty where
  | path (path : Path)
  /-- A generic type applied to arguments. -/
  | generic (name : String) (arguments : List Ty)
  /-- An optional value behind a pointer. Its two closing brackets are one token. -/
  | optionalBox (content : Ty)
  | borrow (mutable : Bool) (referent : Ty)
  | slice (element : Ty)

/-- The type of a name. -/
abbrev Ty.named (name : String) : Ty := .path (.ofNames [name])

/-- A list of elements of one type. -/
abbrev Ty.vec (element : Ty) : Ty := .generic "Vec" [element]

/-- An expression. -/
inductive Expr where
  | path (path : Path)
  | literal (text : String)
  | member (base : Expr) (name : String)
  | call (callee : Expr) (arguments : List Expr)
  | method (receiver : Expr) (name : String) (arguments : List Expr)
  | borrow (mutable : Bool) (referent : Expr)
  | deref (pointer : Expr)
  /-- The value of a result, or the function's end with its error. -/
  | propagate (result : Expr)
  | assign (place value : Expr)
  | binary (left : Expr) (operator : String) (right : Expr)
  | giveBack (value : Expr)

namespace Expr

/-- A local name. -/
abbrev var (name : String) : Expr := .path (.ofNames [name])

/-- A call of a function by its path. -/
abbrev callPath (path : Path) (arguments : List Expr) : Expr := .call (.path path) arguments

/-- A number. -/
abbrev number (n : Nat) : Expr := .literal (toString n)

end Expr

/-- A pattern that binds names. -/
inductive Pattern where
  | name (mutable : Bool) (name : String)
  | pair (first second : String)

mutual

/-- A statement. -/
inductive Stmt where
  | bind (pattern : Pattern) (type : Option Ty) (value : Expr)
  | run (effect : Expr)
  /-- The value of the enclosing block. -/
  | result (value : Expr)
  | whileLoop (condition : Expr) (body : List Stmt)
  | forLoop (pattern : Pattern) (elements : Expr) (body : List Stmt)
  | ifSome (name : String) (value : Expr) (body : List Stmt)
  /-- A choice by number, with an expression for every other one. -/
  | select (scrutinee : Expr) (arms : List Arm) (otherwise : Expr)
  /-- The check, in debug builds, that two members of the message are equally long. -/
  | assertSameLength (first second : String)

/-- What is done for one number. -/
inductive Arm where
  | mk (key : UInt32) (body : List Stmt)

end

/-- The number an arm stands for. -/
def Arm.key : Arm → UInt32
  | .mk key _ => key

/-- The statements of an arm. -/
def Arm.body : Arm → List Stmt
  | .mk _ body => body

/-- An attribute with a list of names. -/
structure Attribute where
  name : String
  items : List Path

/-- A member of a type, under the lines of its documentation. -/
structure Member where
  docs : List String
  name : String
  type : Ty

/-- A function of a codec. -/
structure Function where
  attributes : List Attribute
  name : String
  parameters : List (String × Ty)
  returns : Option Ty
  body : List Stmt

/-- An item of a unit. -/
inductive Item where
  | struct (docs : List String) (attributes : List Attribute) (name : String)
      (members : List Member)
  | unitStruct (name : String)
  | implementation (name : String) (functions : List Function)

end Wiregen.Target
