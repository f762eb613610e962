import Changesets.Template.Value

/-!
Expressions and templates. An operation that fails is reported on the line of its last operand, which
`Expr.line` gives; only names, literals, brackets and signs have a line of their own.
-/
namespace Changesets.Template

inductive Operator
  | add
  | subtract
  | multiply
  | divide
  | floorDivide
  | remainder
  | power
  | concat
  | equal
  | different
  | less
  | atMost
  | greater
  | atLeast
  /-- Whether the left value is contained in the right one. -/
  | isIn
  deriving DecidableEq

inductive Expr
  | literal (value : Value) (line : Nat)
  | name (name : String) (line : Nat)
  | list (items : List Expr) (line : Nat)
  | field (value : Expr) (name : String)
  | item (value index : Expr)
  | negative (value : Expr) (line : Nat)
  | not (value : Expr)
  | binary (operator : Operator) (left right : Expr)
  | both (left right : Expr)
  | either (left right : Expr)
  | conditional (condition value : Expr) (otherwise : Option Expr)
  | filter (value : Expr) (name : String) (arguments : List Expr)
  | test (value : Expr) (name : String) (arguments : List Expr)
  | call (name : String) (arguments : List Expr) (line : Nat)
  /-- A call of a value that is no name. -/
  | apply (value : Expr) (arguments : List Expr)
  | method (value : Expr) (name : String) (arguments : List Expr)

mutual

/-- The line of the last operand. -/
def Expr.line : Expr → Nat
  | .literal _ line | .name _ line => line
  | .list items line | .call _ items line => lastLine line items
  | .field value _ | .negative value _ | .not value => value.line
  | .item _ index => index.line
  | .binary _ _ right | .both _ right | .either _ right => right.line
  | .conditional _ value none => value.line
  | .conditional _ _ (some otherwise) => otherwise.line
  | .filter value _ arguments | .test value _ arguments | .method value _ arguments
  | .apply value arguments => lastLine value.line arguments

/-- The line of the last expression, or the given one without any. -/
def lastLine (line : Nat) : List Expr → Nat
  | [] => line
  | e :: es => lastLine e.line es

end

/-- What a value is assigned to. -/
inductive Target
  | name (name : String)
  /-- A member, which no value lets a template set. -/
  | field (owner : Expr) (name : String)
  /-- Targets for the items of the value, with the line on which they start. -/
  | unpack (targets : List Target) (line : Nat)

inductive Node
  | text (s : String)
  | print (value : Expr)
  | choose (condition : Expr) (body otherwise : List Node)
  /-- A loop over the items that meet the condition; `otherwise` stands for no item. -/
  | loop (target : Target) (items : Expr) (condition : Option Expr) (body otherwise : List Node)
  | set (target : Target) (value : Expr)
  /-- Sets the target to the output of the body. -/
  | capture (target : Target) (body : List Node)

end Changesets.Template
