import Changesets.Template.Failure

/-!
Taking tokens in turn. A parser fails at the first token that it cannot use, on the line of that
token; where the input ends it fails on the line of the token before.
-/
namespace Changesets.Template

/-- The tokens left, and the line of the last one taken. -/
structure Stream where
  rest : List Located
  line : Nat

/-- A parser, which knows how many statements and expressions are open around it. -/
abbrev Parser := ReaderT Nat (StateT Stream (Except Failure))

namespace Parser

def fail {α : Type} (cause : Cause) (line : Nat) : Parser α := fun _ _ =>
  .error ⟨cause, line⟩

/-- Fails on the line of the last token taken. -/
def failHere {α : Type} (cause : Cause) : Parser α := do
  fail cause (← get).line

/-- The next token, which is the end when none is left. A faulty escape is reported on the line of
the token before. -/
def peek : Parser Located := do
  let stream ← get
  match stream.rest with
  | [] => return ⟨.endOfInput, stream.line⟩
  | ⟨.fault .badEscape, _⟩ :: _ => failHere (.scan .badEscape)
  | ⟨.fault fault, line⟩ :: _ => fail (.scan fault) line
  | t :: _ => return t

/-- The line on which an expression starts that comes next. -/
def nextLine : Parser Nat := do
  let stream ← get
  match stream.rest with
  | [] | ⟨.fault _, _⟩ :: _ => return stream.line
  | t :: _ => return t.line

/-- The line of the last token taken. -/
def lastLine : Parser Nat := do
  return (← get).line

/-- Goes past the next token, if one is left. -/
def advance : Parser Unit :=
  modify fun stream =>
    match stream.rest with
    | [] => stream
    | t :: rest => ⟨rest, t.line⟩

/-- Fails at the next token, which cannot stand here. -/
def unexpected {α : Type} (expected : Option String) : Parser α := do
  let t ← peek
  fail (.unexpected t.token expected) t.line

/-- Takes the next token if `accepts` accepts it. -/
def take? {α : Type} (accepts : Token → Option α) : Parser (Option α) := do
  match accepts (← peek).token with
  | some a => do
    advance
    return some a
  | none => return none

def take {α : Type} (expected : String) (accepts : Token → Option α) : Parser α := do
  match ← take? accepts with
  | some a => return a
  | none => unexpected (some expected)

/-- Takes the next token if it is this symbol, and says whether it was. -/
def symbol? (s : String) : Parser Bool := do
  return (← take? fun | .symbol t => if s = t then some () else none | _ => none).isSome

def keyword? (s : String) : Parser Bool := do
  return (← take? fun | .name t => if s = t then some () else none | _ => none).isSome

def symbol (s : String) : Parser Unit :=
  take ("`" ++ s ++ "`") fun | .symbol t => if s = t then some () else none | _ => none

def keyword (s : String) : Parser Unit :=
  take s fun | .name t => if s = t then some () else none | _ => none

def name : Parser String :=
  take "identifier" fun | .name s => some s | _ => none

def blockEnd : Parser Unit :=
  take "end of block" fun | .blockEnd => some () | _ => none

def variableEnd : Parser Unit :=
  take "end of variable block" fun | .variableEnd => some () | _ => none

/-- How many statements and expressions may be open at once. -/
def nestingLimit : Nat := 150

/-- Reads something that may contain itself. -/
def nested {α : Type} (inner : Parser α) : Parser α := do
  if (← read) = nestingLimit then failHere .nestingTooDeep
  else withReader (· + 1) inner

/-- The strings at the front of some tokens. -/
def leadingStrings : List Located → List String
  | ⟨.string s _, _⟩ :: ts => s :: leadingStrings ts
  | _ => []

/-- Takes the strings that follow a string; all of them are one text. A fault that follows the first
string, if that has no escapes, is taken for the end of the input. -/
def stringsAfter (escaped : Bool) : Parser (List String) := do
  let more := leadingStrings (← get).rest
  more.forM fun _ => advance
  if more.isEmpty && !escaped then
    modify fun stream =>
      match stream.rest with
      | ⟨.fault _, _⟩ :: _ => { stream with rest := [] }
      | _ => stream
  return more

end Changesets.Template.Parser
