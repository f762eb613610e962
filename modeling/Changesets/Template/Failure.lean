import Changesets.Template.Token
import Changesets.Template.Value

/-!
Why a template cannot be rendered, and on which line.
-/
namespace Changesets.Template

inductive Cause
  | scan (fault : ScanFault)
  /-- A token that cannot stand where it does, with what could. -/
  | unexpected (found : Token) (expected : Option String)
  | unknownStatement (name : String)
  /-- A statement that does not start with a name. -/
  | notAStatement (found : Token)
  | reservedName (name : String)
  | nestingTooDeep
  | undefinedValue
  | unknownFilter (name : String)
  | unknownTest (name : String)
  | unknownFunction (name : String)
  | unknownMethod (kind : Value.Kind) (name : String)
  | unknownLoopMethod (name : String)
  | notCallable (kind : Value.Kind)
  /-- A call of `loop` with some other number of arguments than one. -/
  | loopArguments
  /-- A call of `loop`; `inLoop` says whether it stands in one. -/
  | loopCall (inLoop : Bool)
  | invalidOperation
  /-- A whole number whose opposite has more than 128 bits. -/
  | overflow
  | notIterable (kind : Value.Kind)
  | unsupportedOperands (operator : String) (left right : Value.Kind)
  /-- Whole numbers without a result, or with one of more than 128 bits. -/
  | outOfRange (operator : String) (left right : Value)
  | invalidTextCount
  | invalidItemCount
  | noContainment
  | noLength (kind : Value.Kind)
  | notJoinable (kind : Value.Kind)
  | noFirstItem
  | noLastItem
  | noPairs
  | missingArgument
  | tooManyArguments
  /-- A sequence whose length is not the number of names that it is spread over. -/
  | wrongLength (expected actual : Nat)
  | notUnpackable
  /-- A member that a statement cannot set. -/
  | notANamespace (kind : Value.Kind)

def Cause.message : Cause → String
  | scan fault => fault.message
  | unexpected found none => "syntax error: unexpected " ++ found.describe
  | unexpected found (some expected) =>
    "syntax error: unexpected " ++ found.describe ++ ", expected " ++ expected
  | unknownStatement name => s!"syntax error: unknown statement {name}"
  | notAStatement found => "syntax error: unknown " ++ found.describe ++ ", expected statement"
  | reservedName name => s!"syntax error: cannot assign to reserved variable name {name}"
  | nestingTooDeep => "syntax error: template exceeds maximum recursion limits"
  | undefinedValue => "undefined value"
  | unknownFilter name => s!"unknown filter: filter {name} is unknown"
  | unknownTest name => s!"unknown test: test {name} is unknown"
  | unknownFunction name => s!"unknown function: {name} is unknown"
  | unknownMethod kind name => s!"unknown method: {kind.name} has no method named {name}"
  | unknownLoopMethod name => s!"unknown method: loop object has no method named {name}"
  | notCallable .sequence | notCallable .map | notCallable .iterator =>
    "invalid operation: object is not callable"
  | notCallable kind => s!"invalid operation: value of type {kind.name} is not callable"
  | loopArguments => "invalid operation: loop() takes one argument"
  | loopCall true => "invalid operation: cannot recurse outside of recursive loop"
  | loopCall false => "invalid operation: cannot recurse outside of loop"
  | invalidOperation => "invalid operation"
  | overflow => "invalid operation: overflow"
  | notIterable kind => s!"invalid operation: {kind.name} is not iterable"
  | unsupportedOperands operator left right =>
    s!"invalid operation: tried to use {operator} operator on unsupported types " ++
      s!"{left.name} and {right.name}"
  | outOfRange operator left right =>
    s!"invalid operation: unable to calculate {left.display} {operator} {right.display}"
  | invalidTextCount => "invalid operation: strings can only be multiplied with integers"
  | invalidItemCount =>
    "invalid operation: sequences and iterables can only be multiplied with integers"
  | noContainment => "invalid operation: cannot perform a containment check on this value"
  | noLength kind => s!"invalid operation: cannot calculate length of value of type {kind.name}"
  | notJoinable kind => s!"invalid operation: cannot join value of type {kind.name}"
  | noFirstItem => "invalid operation: cannot get first item from value"
  | noLastItem => "invalid operation: cannot get last item from value"
  | noPairs => "invalid operation: cannot convert value into pairs"
  | missingArgument => "missing argument"
  | tooManyArguments => "too many arguments"
  | wrongLength expected actual =>
    s!"cannot unpack: sequence of wrong length (expected {expected}, got {actual})"
  | notUnpackable => "cannot unpack: value is not iterable"
  | notANamespace kind =>
    s!"invalid operation: can only assign to namespaces, not {kind.name}"

structure Failure where
  cause : Cause
  line : Nat

/-- The failure with its place; a template has no name of its own. -/
def Failure.message (failure : Failure) : String :=
  failure.cause.message ++ s!" (in <string>:{failure.line})"

/-- A failure of an operation on this line. -/
def onLine {α : Type} (line : Nat) (result : Except Cause α) : Except Failure α :=
  result.mapError (⟨·, line⟩)

end Changesets.Template
