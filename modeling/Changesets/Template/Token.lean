/-!
The tokens of a template. Outside of the delimiters there is only text; inside them a template is
made of names, literals and symbols. A fault is where the characters form no token; it is the last
token of its template.
-/
namespace Changesets.Template

/-- Why characters form no token. -/
inductive ScanFault
  | unclosedComment
  | unclosedRaw
  | unclosedString
  | unexpectedCharacter
  | integerTooLarge
  | invalidFloat
  | underscoreAtEnd
  | badEscape
  deriving DecidableEq

def ScanFault.message : ScanFault → String
  | unclosedComment => "syntax error: unexpected end of comment"
  | unclosedRaw => "syntax error: unexpected end of raw block"
  | unclosedString => "syntax error: unexpected end of string"
  | unexpectedCharacter => "syntax error: unexpected character"
  | integerTooLarge => "syntax error: invalid integer (too large)"
  | invalidFloat => "syntax error: invalid float"
  | underscoreAtEnd => "syntax error: '_' may not occur at end of number"
  | badEscape => "bad string escape"

inductive Token
  | text (s : String)
  | variableStart
  | variableEnd
  | blockStart
  | blockEnd
  | name (s : String)
  /-- A string; `escaped` says whether it is written with a backslash. -/
  | string (s : String) (escaped : Bool)
  | int (n : Nat)
  | float (x : Float)
  | symbol (s : String)
  | endOfInput
  | fault (fault : ScanFault)

/-- A token as messages call it. -/
def Token.describe : Token → String
  | text _ => "template-data"
  | variableStart => "start of variable block"
  | variableEnd => "end of variable block"
  | blockStart => "start of block"
  | blockEnd => "end of block"
  | name _ => "identifier"
  | string _ _ => "string"
  | int n => if n < Nat.pow 2 64 then "integer" else "128bit integer"
  | float _ => "float"
  | symbol s => "`" ++ s ++ "`"
  | endOfInput => "end of input"
  | fault f => f.message

/-- A token with the number of a line, counted from one: that on which it starts, or for a fault that
on which the scan stops. -/
structure Located where
  token : Token
  line : Nat

end Changesets.Template
