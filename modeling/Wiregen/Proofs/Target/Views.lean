import Wiregen.Target.Syntax

/-!
# What stands in emitted code

Views that say what code does without how it is laid out: the arms that a number is looked for
among, the types that items declare, and the calls of functions with their arguments, in the order
of the text.
-/

namespace Wiregen.Target

/-! ## Choices by number -/

mutual

/-- The arms of the choices by number that a statement makes. Those inside of an arm are not among
them. -/
def Stmt.arms : Stmt → List Arm
  | .whileLoop _ body | .forLoop _ _ body | .ifSome _ _ body => armsOf body
  | .select _ arms _ => arms
  | .bind .. | .run _ | .result _ | .assertSameLength .. => []

/-- The arms of the choices by number that statements make. -/
def armsOf : List Stmt → List Arm
  | [] => []
  | statement :: others => statement.arms ++ armsOf others

end

/-- The arms that the decoder in an item looks for a key among; an item without one has none. -/
def Item.decodeArms : Item → List Arm
  | .implementation _ functions =>
    (functions.filter (·.name = "decode")).flatMap fun f => armsOf f.body
  | .struct .. | .unitStruct _ => []

/-! ## Declared names -/

/-- The name of the type that an item declares. -/
def Item.declared? : Item → Option String
  | .struct _ _ name _ | .unitStruct name => some name
  | .implementation .. => none

/-- The type that an item declares, with the names of its members. -/
def Item.struct? : Item → Option (String × List String)
  | .struct _ _ name members => some (name, members.map (·.name))
  | .unitStruct name => some (name, [])
  | .implementation .. => none

/-! ## Documentation -/

/-- The documentation of the type that an item declares; that of a codec has none. -/
def Item.docs? : Item → Option (List String)
  | .struct docs _ _ _ => some docs
  | .unitStruct _ | .implementation .. => none

/-- An item with lines behind its documentation, if it has a place for that. -/
def Item.document (lines : List String) : Item → Item
  | .struct docs attributes name members => .struct (docs ++ lines) attributes name members
  | .unitStruct name => .unitStruct name
  | .implementation name functions => .implementation name functions

/-! ## Calls -/

mutual

/-- The calls of functions in an expression, each before those in its arguments. -/
def Expr.calls : Expr → List (Path × List Expr)
  | .path _ | .literal _ => []
  | .member base _ => base.calls
  | .call (.path path) arguments => (path, arguments) :: callsIn arguments
  | .call callee arguments => callee.calls ++ callsIn arguments
  | .method receiver _ arguments => receiver.calls ++ callsIn arguments
  | .borrow _ inner | .deref inner | .propagate inner | .giveBack inner => inner.calls
  | .assign place value => place.calls ++ value.calls
  | .binary left _ right => left.calls ++ right.calls

/-- The calls of functions in expressions. -/
def callsIn : List Expr → List (Path × List Expr)
  | [] => []
  | expression :: others => expression.calls ++ callsIn others

end

mutual

/-- The calls of functions in a statement. -/
def Stmt.calls : Stmt → List (Path × List Expr)
  | .bind _ _ value | .run value | .result value => value.calls
  | .whileLoop head body | .forLoop _ head body | .ifSome _ head body => head.calls ++ callsOf body
  | .select scrutinee arms otherwise => scrutinee.calls ++ callsOfArms arms ++ otherwise.calls
  | .assertSameLength .. => []

/-- The calls of functions in statements. -/
def callsOf : List Stmt → List (Path × List Expr)
  | [] => []
  | statement :: others => statement.calls ++ callsOf others

/-- The calls of functions in arms. -/
def callsOfArms : List Arm → List (Path × List Expr)
  | [] => []
  | .mk _ body :: others => callsOf body ++ callsOfArms others

end

/-- The functions that statements call. -/
def calleesOf (statements : List Stmt) : List Path := (callsOf statements).map Prod.fst

@[simp] theorem callsOf_append (first second : List Stmt) :
    callsOf (first ++ second) = callsOf first ++ callsOf second := by
  induction first with
  | nil => rfl
  | cons statement others ih => simp only [List.cons_append, callsOf, ih, List.append_assoc]

@[simp] theorem calleesOf_append (first second : List Stmt) :
    calleesOf (first ++ second) = calleesOf first ++ calleesOf second := by
  simp only [calleesOf, callsOf_append, List.map_append]

end Wiregen.Target
