import Changesets.Template.Filter

/-!
The values of expressions. A frame holds the names that statements have set; a name is looked for
from the innermost frame to the context.
-/
namespace Changesets.Template

abbrev Frame := List (String × Value)

/-- A frame with a name set. -/
def Frame.set (frame : Frame) (name : String) (value : Value) : Frame :=
  (name, value) :: frame

/-- The value of a name, from the innermost frame that has it. -/
def lookupName? (frames : List Frame) (name : String) : Option Value :=
  frames.findSome? fun frame => frame.lookup name

/-- A member or an item of a value, which the undefined values do not have. -/
def access (value : Value) (result : Value) : Except Cause Value :=
  match value with
  | .undefined | .absent => .error .undefinedValue
  | _ => .ok result

/-- A call of a method, which no value has; a member of that name cannot be called. -/
def callMethod (value : Value) (name : String) : Cause :=
  match value with
  | .loop .. => .unknownLoopMethod name
  | value =>
    match value.members?.bind (·.lookup name) with
    | none => .unknownMethod value.kind name
    | some member => .notCallable member.kind

/-- A call of a name, which is never a function. The name `loop` is one in some other templates. -/
def callName (frames : List Frame) (name : String) (arguments : List Value) : Cause :=
  let bound := lookupName? frames name
  if name = "loop" then
    if arguments.length = 1 then .loopCall bound.isSome else .loopArguments
  else match bound with
    | none => .unknownFunction name
    | some value => .notCallable value.kind

mutual

def evalExpr (frames : List Frame) : Expr → Except Failure Value
  | .literal value _ => .ok value
  | .name name _ => .ok ((lookupName? frames name).getD .undefined)
  | .list items _ => (evalAll frames items).map .list
  | .field e name => do
    let value ← evalExpr frames e
    onLine e.line (access value (value.member name))
  | .item e i => do
    let value ← evalExpr frames e
    let index ← evalExpr frames i
    onLine i.line (access value (value.item index))
  | .negative e line => do onLine line (negate (← evalExpr frames e))
  | .not e => do return .bool !(← onLine e.line (holds (← evalExpr frames e)))
  | .binary operator l r => do
    let left ← evalExpr frames l
    let right ← evalExpr frames r
    onLine r.line (operator.apply left right)
  | .both l r => do
    let left ← evalExpr frames l
    if ← onLine l.line (holds left) then evalExpr frames r else return left
  | .either l r => do
    let left ← evalExpr frames l
    if ← onLine l.line (holds left) then return left else evalExpr frames r
  | .conditional c e otherwise => do
    if ← onLine c.line (holds (← evalExpr frames c)) then evalExpr frames e
    else match otherwise with
      | some e => evalExpr frames e
      | none => return .absent
  | .filter e name arguments => do
    let value ← evalExpr frames e
    let values ← evalAll frames arguments
    onLine (lastLine e.line arguments) (applyFilter name value values)
  | .test e name arguments => do
    let value ← evalExpr frames e
    let values ← evalAll frames arguments
    return .bool (← onLine (lastLine e.line arguments) (applyTest name value values))
  | .call name arguments line => do
    let values ← evalAll frames arguments
    .error ⟨callName frames name values, lastLine line arguments⟩
  | .apply e arguments => do
    let value ← evalExpr frames e
    let _ ← evalAll frames arguments
    .error ⟨.notCallable value.kind, lastLine e.line arguments⟩
  | .method e name arguments => do
    let value ← evalExpr frames e
    let _ ← evalAll frames arguments
    .error ⟨callMethod value name, lastLine e.line arguments⟩

def evalAll (frames : List Frame) : List Expr → Except Failure (List Value)
  | [] => .ok []
  | e :: es => do return (← evalExpr frames e) :: (← evalAll frames es)

end

end Changesets.Template
