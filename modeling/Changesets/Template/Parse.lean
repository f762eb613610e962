import Changesets.Template.Constant
import Changesets.Template.Scan
import Changesets.Template.Stream

/-!
Reading a template from its tokens. Operators bind, from loosest to tightest: `if … else`, `or`,
`and`, `not`, comparisons and `in`, `+` and `-`, `~`, products and quotients, `**`, a sign, members,
and last filters and tests, which apply to what stands just before them. Comparisons in a row all
have to hold. `fuel` bounds the depth of the calls; `parse` gives more of it than its tokens can use
up.
-/
namespace Changesets.Template

open Changesets.Template.Parser

/-- What a binary operator on a level makes of its operands: from `or` on level 0 to `**` on level 7.
Level 2 has `not` alone, and level 3 the comparisons. The line is that on which the whole starts. -/
def binaryAt? (level : Nat) (token : Token) : Option (Nat → Expr → Expr → Expr) :=
  match level, token with
  | 0, .name "or" => some Expr.foldEither
  | 1, .name "and" => some Expr.foldBoth
  | 4, .symbol "+" => some (Expr.foldBinary · .add)
  | 4, .symbol "-" => some (Expr.foldBinary · .subtract)
  | 5, .symbol "~" => some (Expr.foldBinary · .concat)
  | 6, .symbol "*" => some (Expr.foldBinary · .multiply)
  | 6, .symbol "/" => some (Expr.foldBinary · .divide)
  | 6, .symbol "//" => some (Expr.foldBinary · .floorDivide)
  | 6, .symbol "%" => some (Expr.foldBinary · .remainder)
  | 7, .symbol "**" => some (Expr.foldBinary · .power)
  | _, _ => none

def comparison? : Token → Option Operator
  | .symbol "==" => some .equal
  | .symbol "!=" => some .different
  | .symbol "<" => some .less
  | .symbol "<=" => some .atMost
  | .symbol ">" => some .greater
  | .symbol ">=" => some .atLeast
  | .name "in" => some .isIn
  | _ => none

/-- Takes a comparison, with what it makes of its operands. -/
def takeComparison? : Parser (Option (Nat → Expr → Expr → Expr)) := do
  if ← keyword? "not" then
    keyword "in"
    return some fun line left right => .foldNot line (.foldBinary line .isIn left right)
  else return (← take? comparison?).map fun operator => (Expr.foldBinary · operator)

/-- The value that a name or a number is by itself. -/
def constant? : Token → Option Value
  | .name "true" | .name "True" => some (.bool true)
  | .name "false" | .name "False" => some (.bool false)
  | .name "none" | .name "None" => some .none
  | .int n => some (if n < Nat.pow 2 64 then .int n else .wide n)
  | .float x => some (.float x)
  | _ => none

/-- Whether a token starts the argument that a test has without parentheses. -/
def startsArgument : Token → Bool
  | .name s => s ∉ ["and", "or", "else", "is"]
  | .string _ _ | .int _ | .float _ => true
  | .symbol s => s ∈ ["+", "-", "[", "\x7b"]
  | _ => false

/-- Names with points between them. -/
def parseDottedName : (fuel : Nat) → Parser String
  | 0 => failHere .nestingTooDeep
  | fuel + 1 => do
    let first ← name
    if ← symbol? "." then return first ++ "." ++ (← parseDottedName fuel) else return first

mutual

def parseExpr : (fuel : Nat) → Parser Expr
  | 0 => failHere .nestingTooDeep
  | fuel + 1 => nested (parseConditional fuel)

def parseConditional : (fuel : Nat) → Parser Expr
  | 0 => failHere .nestingTooDeep
  | fuel + 1 => do parseConditions fuel (← parseLevel fuel 0)

/-- Goes on with `if … else` after a value. -/
def parseConditions : (fuel : Nat) → Expr → Parser Expr
  | 0, _ => failHere .nestingTooDeep
  | fuel + 1, value => do
    if ← keyword? "if" then
      let condition ← parseLevel fuel 0
      let otherwise ← if ← keyword? "else" then some <$> parseConditional fuel else pure none
      parseConditions fuel (.conditional condition value otherwise)
    else return value

/-- An expression without operators of looser levels. -/
def parseLevel : (fuel level : Nat) → Parser Expr
  | 0, _ => failHere .nestingTooDeep
  | fuel + 1, level => do
    if level = 2 then
      let line ← nextLine
      if ← keyword? "not" then return .foldNot line (← parseLevel fuel 2)
      else parseLevel fuel 3
    else if level = 3 then
      let line ← Parser.lastLine
      parseComparisons fuel line none (← parseLevel fuel 4)
    else if level < 8 then
      let line ← nextLine
      parseOperators fuel level line (← parseLevel fuel (level + 1))
    else parseFilters fuel (← parseSigned fuel)

/-- Goes on with the operators of a level after a left operand. -/
def parseOperators : (fuel level line : Nat) → Expr → Parser Expr
  | 0, _, _, _ => failHere .nestingTooDeep
  | fuel + 1, level, line, left => do
    match ← take? (binaryAt? level) with
    | some combine =>
      let right ← parseLevel fuel (level + 1)
      parseOperators fuel level line (combine line left right)
    | none => return left

/-- Goes on with comparisons after an operand; `before` says that the comparisons up to there
hold. -/
def parseComparisons : (fuel line : Nat) → (before : Option Expr) → (left : Expr) → Parser Expr
  | 0, _, _, _ => failHere .nestingTooDeep
  | fuel + 1, line, before, left => do
    match ← takeComparison? with
    | some combine =>
      let right ← parseLevel fuel 4
      let here := combine line left right
      parseComparisons fuel line (some (before.elim here (Expr.foldBoth line · here))) right
    | none => return before.getD left

/-- A value with its members, maybe after a sign that belongs to the value alone. -/
def parseSigned : (fuel : Nat) → Parser Expr
  | 0 => failHere .nestingTooDeep
  | fuel + 1 => do parseMembers fuel (← parseSign fuel)

def parseSign : (fuel : Nat) → Parser Expr
  | 0 => failHere .nestingTooDeep
  | fuel + 1 => do
    let line ← nextLine
    if ← symbol? "-" then return .foldNegative line (← parseSign fuel)
    else nested (parsePrimary fuel)

/-- A name, a literal, or an expression or a list in brackets. -/
def parsePrimary : (fuel : Nat) → Parser Expr
  | 0 => failHere .nestingTooDeep
  | fuel + 1 => do
    let t ← peek
    match constant? t.token with
    | some value =>
      advance
      return .literal value t.line
    | none =>
      match t.token with
      | .string s escaped =>
        advance
        return .literal (.string (String.join (s :: (← stringsAfter escaped)))) t.line
      | .symbol "(" =>
        advance
        if ← symbol? ")" then return .foldList t.line []
        let first ← parseExpr fuel
        match (← peek).token with
        | .symbol "," => return .foldList t.line (first :: (← parseItems fuel ")" true))
        | _ =>
          symbol ")"
          return first
      | .symbol "[" =>
        advance
        return .foldList t.line (← parseItems fuel "]" false)
      | .name s =>
        advance
        return .name s t.line
      | .endOfInput => unexpected (some "expression")
      | _ => unexpected none

/-- The expressions up to a closing symbol, with commas between them and maybe one after the
last. -/
def parseItems : (fuel : Nat) → (close : String) → (started : Bool) → Parser (List Expr)
  | 0, _, _ => failHere .nestingTooDeep
  | fuel + 1, close, started => do
    if ← symbol? close then return []
    if started then
      symbol ","
      if ← symbol? close then return []
    let item ← parseExpr fuel
    return item :: (← parseItems fuel close true)

/-- Goes on with members, indices and calls after a value. -/
def parseMembers : (fuel : Nat) → Expr → Parser Expr
  | 0, _ => failHere .nestingTooDeep
  | fuel + 1, value => do
    if ← symbol? "." then
      let t ← peek
      match t.token with
      | .name s =>
        advance
        parseMembers fuel (.field value s)
      | .int n =>
        if n < Nat.pow 2 64 then
          advance
          parseMembers fuel (.item value (.literal (.int n) t.line))
        else unexpected (some "identifier or integer")
      | _ => unexpected (some "identifier or integer")
    else if ← symbol? "[" then
      let index ← parseExpr fuel
      symbol "]"
      parseMembers fuel (.item value index)
    else if ← symbol? "(" then
      let arguments ← parseItems fuel ")" false
      parseMembers fuel <|
        match value with
        | .name s line => .call s arguments line
        | .field value s => .method value s arguments
        | value => .apply value arguments
    else return value

/-- Goes on with filters and tests after a value. -/
def parseFilters : (fuel : Nat) → Expr → Parser Expr
  | 0, _ => failHere .nestingTooDeep
  | fuel + 1, value => do
    if ← symbol? "|" then
      let filter ← parseDottedName fuel
      let arguments ← if ← symbol? "(" then parseItems fuel ")" false else pure []
      parseFilters fuel (.filter value filter arguments)
    else if ← keyword? "is" then
      let negated ← keyword? "not"
      let test ← parseDottedName fuel
      let arguments ← parseTestArguments fuel
      let result := Expr.test value test arguments
      parseFilters fuel (if negated then .not result else result)
    else return value

/-- The arguments of a test: some in parentheses, or one without them. -/
def parseTestArguments : (fuel : Nat) → Parser (List Expr)
  | 0 => failHere .nestingTooDeep
  | fuel + 1 => do
    if ← symbol? "(" then parseItems fuel ")" false
    else if startsArgument (← peek).token then return [← parseSigned fuel]
    else return []

end

/-- The names that no statement may set. -/
def reservedNames : List String :=
  ["true", "True", "false", "False", "none", "None", "loop", "self"]

/-- Goes on with the members of a target. -/
def parseTargetMembers : (fuel : Nat) → Target → Expr → Parser Target
  | 0, _, _ => failHere .nestingTooDeep
  | fuel + 1, target, value => do
    if ← symbol? "." then
      let member ← name
      parseTargetMembers fuel (.field value member) (.field value member)
    else return target

/-- A name that a statement sets, or with `dotted` a member. -/
def parseTargetName (fuel : Nat) (dotted : Bool) : Parser Target := do
  let t ← peek
  let target ← name
  if target ∈ reservedNames then failHere (.reservedName target)
  else if dotted then parseTargetMembers fuel (.name target) (.name target t.line)
  else return .name target

/-- Whether no target can follow before this token. -/
def endsTargets : Token → Bool
  | .symbol ")" | .variableEnd | .blockEnd | .name "in" => true
  | _ => false

mutual

/-- What a statement sets; with commas there are several targets. -/
def parseTarget : (fuel : Nat) → (dotted : Bool) → Parser Target
  | 0, _ => failHere .nestingTooDeep
  | fuel + 1, dotted => do
    let line ← nextLine
    match ← parseTargets fuel dotted with
    | ([target], false) => return target
    | (targets, _) => return .unpack targets line

/-- The targets that come next, and whether there is a comma after one. -/
def parseTargets : (fuel : Nat) → (dotted : Bool) → Parser (List Target × Bool)
  | 0, _ => failHere .nestingTooDeep
  | fuel + 1, dotted => do
    if endsTargets (← peek).token then return ([], false)
    let target ← if ← symbol? "(" then do
        let target ← parseTarget fuel dotted
        symbol ")"
        pure target
      else parseTargetName fuel dotted
    if ← symbol? "," then
      let (more, _) ← parseTargets fuel dotted
      return (target :: more, true)
    else return ([target], false)

end

mutual

/-- The nodes up to a statement with one of the names `ends`, which is left to the caller, or up to
the end. -/
def parseNodes : (fuel : Nat) → (ends : List String) → Parser (List Node)
  | 0, _ => failHere .nestingTooDeep
  | fuel + 1, ends => do
    match (← peek).token with
    | .endOfInput => return []
    | .text s =>
      advance
      return .text s :: (← parseNodes fuel ends)
    | .variableStart =>
      advance
      let value ← parseExpr fuel
      variableEnd
      return .print value :: (← parseNodes fuel ends)
    | .blockStart =>
      advance
      match (← peek).token with
      | .endOfInput => unexpected (some "keyword")
      | .name s =>
        if s ∈ ends then return []
        else parseStatementFirst fuel ends
      | _ => parseStatementFirst fuel ends
    | _ => unexpected none

/-- A statement and the nodes after it. -/
def parseStatementFirst : (fuel : Nat) → (ends : List String) → Parser (List Node)
  | 0, _ => failHere .nestingTooDeep
  | fuel + 1, ends => do
    let node ← nested (parseStatement fuel)
    blockEnd
    return node :: (← parseNodes fuel ends)

def parseStatement : (fuel : Nat) → Parser Node
  | 0 => failHere .nestingTooDeep
  | fuel + 1 => do
    let t ← peek
    advance
    match t.token with
    | .name "if" => parseChoice fuel
    | .name "for" => parseLoop fuel
    | .name "set" => parseSet fuel
    | .name s => failHere (.unknownStatement s)
    | token => failHere (.notAStatement token)

/-- The rest of a statement after `for`. -/
def parseLoop : (fuel : Nat) → Parser Node
  | 0 => failHere .nestingTooDeep
  | fuel + 1 => do
    let target ← parseTarget fuel false
    keyword "in"
    let items ← parseLevel fuel 0
    let condition ← if ← keyword? "if" then some <$> parseExpr fuel else pure none
    blockEnd
    let body ← parseNodes fuel ["endfor", "else"]
    if ← keyword? "else" then
      blockEnd
      let otherwise ← parseNodes fuel ["endfor"]
      advance
      return .loop target items condition body otherwise
    else
      advance
      return .loop target items condition body []

/-- The rest of a statement after `set`. -/
def parseSet : (fuel : Nat) → Parser Node
  | 0 => failHere .nestingTooDeep
  | fuel + 1 => do
    let target ← parseTarget fuel true
    match (← peek).token with
    | .blockEnd =>
      advance
      let body ← parseNodes fuel ["endset"]
      advance
      return .capture target body
    | _ =>
      take "assignment operator" fun | .symbol "=" => some () | _ => none
      return .set target (← parseExpr fuel)

/-- The rest of a statement after `if` or `elif`. -/
def parseChoice : (fuel : Nat) → Parser Node
  | 0 => failHere .nestingTooDeep
  | fuel + 1 => do
    let condition ← parseLevel fuel 0
    blockEnd
    let body ← parseNodes fuel ["endif", "else", "elif"]
    if ← keyword? "else" then
      blockEnd
      let otherwise ← parseNodes fuel ["endif"]
      advance
      return .choose condition body otherwise
    else if ← keyword? "elif" then
      return .choose condition body [← parseChoice fuel]
    else
      advance
      return .choose condition body []

end

/-- The nodes of a template. -/
def parse (template : String) : Except Failure (List Node) :=
  let tokens := scan template
  (parseNodes (20 * (tokens.length + 1)) [] 0).run' ⟨tokens, 1⟩

end Changesets.Template
