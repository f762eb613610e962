import Changesets.Template.Context
import Changesets.Template.Evaluate
import Changesets.Template.Parse

/-!
Rendering templates. Every item of a loop has a frame of its own, so that a name that is set in the
body of a loop is forgotten before the next item.
-/
namespace Changesets.Template

/-- The items of a value for this number of targets. -/
def unpack (value : Value) (count : Nat) : Except Cause (List Value) :=
  match value.contents? with
  | none => .error .notUnpackable
  | some items =>
    if items.length = count then .ok items else .error (.wrongLength count items.length)

mutual

/-- The frame after a value has been assigned to a target. -/
def assign (outer : List Frame) (frame : Frame) : Target → Value → Except Failure Frame
  | .name name, value => .ok (frame.set name value)
  | .field owner _, _ => do
    let value ← evalExpr (frame :: outer) owner
    .error ⟨.notANamespace value.kind, owner.line⟩
  | .unpack targets line, value => do
    assignAll outer frame targets (← onLine line (unpack value targets.length))

/-- Assigns values to targets in turn. -/
def assignAll (outer : List Frame) (frame : Frame) : List Target → List Value →
    Except Failure Frame
  | target :: targets, value :: values => do
    assignAll outer (← assign outer frame target value) targets values
  | _, _ => .ok frame

end

/-- The values that a loop runs over; none has no items, as an absent value has. -/
def loopItems (value : Value) : Except Cause (List Value) :=
  match value with
  | .undefined => .error .undefinedValue
  | .absent | .none => .ok []
  | value =>
    match value.items? with
    | some items => .ok items
    | none => .error (.notIterable value.kind)

/-- The items of a loop that meet its condition. -/
def keepItems (frames : List Frame) (target : Target) (condition : Option Expr)
    (items : List Value) : Except Failure (List Value) :=
  match condition with
  | none => .ok items
  | some c =>
    items.filterM fun item => do
      let frame ← assign frames [] target item
      onLine c.line (holds (← evalExpr (frame :: frames) c))

/-- The output of a part of a template, and the frame after it. -/
abbrev Output := Except Failure (String × Frame)

/-- Runs the body of a loop for each item in turn, in the frame that only knows its state. -/
def runLoop (length : Nat) (body : Frame → Value → Except Failure String) :
    (index : Nat) → (previous : Value) → List Value → Except Failure String
  | _, _, [] => .ok ""
  | index, previous, item :: items => do
    let state := Value.loop index length previous (items.head?.getD .undefined)
    let output ← body [("loop", state)] item
    return output ++ (← runLoop length body (index + 1) item items)

mutual

def renderNode (outer : List Frame) (frame : Frame) : Node → Output
  | .text s => .ok (s, frame)
  | .print e => do
    match ← evalExpr (frame :: outer) e with
    | .undefined => .error ⟨.undefinedValue, e.line⟩
    | value => return (value.display, frame)
  | .choose condition body otherwise => do
    if ← onLine condition.line (holds (← evalExpr (frame :: outer) condition)) then
      renderNodes outer frame body
    else renderNodes outer frame otherwise
  | .loop target e condition body otherwise => do
    let items ← onLine e.line (loopItems (← evalExpr (frame :: outer) e))
    let kept ← keepItems (frame :: outer) target condition items
    if kept.isEmpty then renderNodes outer frame otherwise
    else
      let renderItem (inner : Frame) (item : Value) : Except Failure String := do
        let inner ← assign (frame :: outer) inner target item
        let (output, _) ← renderNodes (frame :: outer) inner body
        return output
      return (← runLoop kept.length renderItem 0 .undefined kept, frame)
  | .set target e => do
    let value ← evalExpr (frame :: outer) e
    return ("", ← assign outer frame target value)
  | .capture target body => do
    let (output, frame) ← renderNodes outer frame body
    return ("", ← assign outer frame target (.string output))

def renderNodes (outer : List Frame) (frame : Frame) : List Node → Output
  | [] => .ok ("", frame)
  | node :: nodes => do
    let (output, frame) ← renderNode outer frame node
    let (rest, frame) ← renderNodes outer frame nodes
    return (output ++ rest, frame)

end

/-- The template rendered in a context. -/
def render (template : String) (context : Context) : Except Failure String := do
  let nodes ← parse template
  let globals : Frame := Value.ofMembers context.names
  let (output, _) ← renderNodes [globals] [] nodes
  return output

end Changesets.Template
