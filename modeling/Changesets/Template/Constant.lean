import Changesets.Template.Operation

/-!
Expressions that are built from literals are literals again. An operation whose operands are literals
is carried out when it is read, unless it fails; then it is left to the rendering, which reports it.
The literal has the line on which its expression starts. An `and` of literals that does not hold is
`False`, whatever its left operand is.
-/
namespace Changesets.Template.Expr

/-- The value of a literal. -/
def constant? : Expr → Option Value
  | .literal value _ => some value
  | _ => none

/-- The literal of a result, or else the expression that has it. -/
def ofResult (line : Nat) (result : Except Cause Value) (e : Expr) : Expr :=
  match result with
  | .ok value => .literal value line
  | .error _ => e

def foldBinary (line : Nat) (operator : Operator) (left right : Expr) : Expr :=
  match left.constant?, right.constant? with
  | some a, some b => ofResult line (operator.apply a b) (.binary operator left right)
  | _, _ => .binary operator left right

def foldBoth (line : Nat) (left right : Expr) : Expr :=
  match left.constant?, right.constant? with
  | some a, some b => .literal (if a.isTrue then b else .bool false) line
  | _, _ => .both left right

def foldEither (line : Nat) (left right : Expr) : Expr :=
  match left.constant?, right.constant? with
  | some a, some b => .literal (if a.isTrue then a else b) line
  | _, _ => .either left right

def foldNot (line : Nat) (e : Expr) : Expr :=
  match e.constant? with
  | some a => .literal (.bool !a.isTrue) line
  | none => .not e

def foldNegative (line : Nat) (e : Expr) : Expr :=
  match e.constant? with
  | some a => ofResult line (negate a) (.negative e line)
  | none => .negative e line

def foldList (line : Nat) (items : List Expr) : Expr :=
  match items.mapM constant? with
  | some values => .literal (.list values) line
  | none => .list items line

end Changesets.Template.Expr
