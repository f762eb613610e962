import Changesets.Template.Numeral
import Changesets.Text.Blank

/-!
Splitting a template into tokens. Variables stand in `${{ }}`, statements in `${% %}` and comments in
`${# #}`. A hyphen inside a delimiter takes away the white space outside of it, and a line break at
the end of the template is no part of it. What is never closed is missed at the end of the input.
-/
namespace Changesets.Template

/-- What an opening delimiter opens. -/
inductive Marker
  | variable
  | block
  | comment
  deriving DecidableEq

/-- What a sign inside a delimiter says about the white space outside of it. -/
inductive Control
  | keep
  | remove
  deriving DecidableEq

def markerAt? : List Char → Option (Marker × List Char)
  | '$' :: '\x7b' :: c :: rest =>
    if c = '\x7b' then some (.variable, rest)
    else if c = '%' then some (.block, rest)
    else if c = '#' then some (.comment, rest)
    else none
  | _ => none

/-- The text up to the first opening delimiter, and what follows that. -/
def splitAtMarker : List Char → List Char × Option (Marker × List Char)
  | [] => ([], none)
  | c :: cs =>
    match markerAt? (c :: cs) with
    | some found => ([], some found)
    | none =>
      let (text, found) := splitAtMarker cs
      (c :: text, found)

/-- The sign after an opening delimiter. -/
def takeControl : List Char → Control × List Char
  | '-' :: rest => (.remove, rest)
  | '+' :: rest => (.keep, rest)
  | cs => (.keep, cs)

/-- White space between the tokens of a statement or variable. -/
def isGap (c : Char) : Bool :=
  c = ' ' || c = '\t' || c = '\n' || c = '\x0c' || c = '\r'

def newlines (cs : List Char) : Nat :=
  cs.count '\n'

/-- Takes the rest of a statement that is only this word, up to its closing delimiter. -/
def takeBareTag? (word : String) (cs : List Char) : Option (Control × List Char) := do
  let rest ← Text.afterPrefix? word.toList (cs.dropWhile isGap)
  let (control, rest) := takeControl (rest.dropWhile isGap)
  let rest ← Text.afterPrefix? ['%', '\x7d'] rest
  return (control, rest)

/-- The content of a raw block: the text before the first `endraw` statement, the signs at its two
delimiters and what follows it. -/
def takeRaw? : List Char → Option (List Char × Control × Control × List Char)
  | [] => none
  | c :: cs =>
    let found := do
      let (marker, rest) ← markerAt? (c :: cs)
      if marker = Marker.block then
        let (before, rest) := takeControl rest
        let (after, rest) ← takeBareTag? "endraw" rest
        return (([] : List Char), before, after, rest)
      else none
    found.or ((takeRaw? cs).map fun (text, found) => (c :: text, found))

def trimFor (control : Control) (trim : List Char → List Char) (cs : List Char) : List Char :=
  match control with
  | .keep => cs
  | .remove => trim cs

/-- Where the scan stands: in text, or in a variable or statement with some open brackets. -/
inductive Mode
  | text (leading : Control)
  | code (marker : Marker) (depth : Int)

/-- One step of the scan: its tokens with the lines from here to each, the mode after it and the
characters left. -/
structure Step where
  tokens : List (Token × Nat)
  mode : Mode
  rest : List Char

def Step.fault (fault : ScanFault) (lines : Nat) : Step :=
  ⟨[(.fault fault, lines)], .text .keep, []⟩

/-- The token of a text, unless it is empty. -/
def textToken (cs : List Char) (lines : Nat) : List (Token × Nat) :=
  if cs.isEmpty then [] else [(.text (String.ofList cs), lines)]

/-- Scans text with the delimiter that ends it, if one does. -/
def scanText (leading : Control) (cs : List Char) : Step :=
  let trimmed := trimFor leading Text.trimLeft cs
  let skipped := newlines cs - newlines trimmed
  let (raw, found) := splitAtMarker trimmed
  match found with
  | none => ⟨textToken raw skipped, .text .keep, []⟩
  | some (marker, inside) =>
    let (control, rest) := takeControl inside
    let before := textToken (trimFor control Text.trimRight raw) skipped
    let here := skipped + newlines raw
    let step : Step :=
      match marker with
      | .variable => ⟨[(.variableStart, here)], .code .variable 0, rest⟩
      | .block =>
        match takeBareTag? "raw" rest with
        | none => ⟨[(.blockStart, here)], .code .block 0, rest⟩
        | some (first, inner) =>
          let start := here + (newlines rest - newlines inner)
          match takeRaw? inner with
          | none => .fault .unclosedRaw (newlines cs)
          | some (text, last, after, left) =>
            let text := trimFor last Text.trimRight (trimFor first Text.trimLeft text)
            ⟨[(.text (String.ofList text), start)], .text after, left⟩
      | .comment =>
        match (Text.cuts ['#', '\x7d'] inside).head? with
        | none => .fault .unclosedComment (newlines cs)
        | some (comment, left) =>
          ⟨[], .text (if comment.getLast? = some '-' then .remove else .keep), left⟩
    { step with tokens := before ++ step.tokens }

/-- The closing delimiter at the front. -/
def closing? (marker : Marker) (cs : List Char) : Option (Control × List Char) :=
  let (control, rest) := takeControl cs
  let last := if marker = .block then ['%', '\x7d'] else ['\x7d', '\x7d']
  (Text.afterPrefix? last rest).map (control, ·)

/-- The characters of a string up to its closing quote, escapes and all, and what follows it. -/
def takeQuoted? (quote : Char) : List Char → Option (List Char × List Char)
  | [] => none
  | '\\' :: c :: rest =>
    (takeQuoted? quote rest).map fun (inner, left) => ('\\' :: c :: inner, left)
  | c :: rest =>
    if c = quote then some ([], rest)
    else (takeQuoted? quote rest).map fun (inner, left) => (c :: inner, left)

def isNameStart (c : Char) : Bool :=
  c.isAlpha || c = '_'

def isNamePart (c : Char) : Bool :=
  c.isAlphanum || c = '_'

/-- The symbols, those of two characters before those of one. -/
def symbols : List String :=
  ["==", "!=", "<=", ">=", "//", "**", "+", "-", "*", "/", "%", ".", ",", ":", "~", "|", "=", "<",
    ">", "(", ")", "[", "]", "\x7b", "\x7d"]

/-- The symbol at the front, and what follows it. -/
def scanSymbol? (cs : List Char) : Option (String × List Char) :=
  symbols.findSome? fun s => (Text.afterPrefix? s.toList cs).map (s, ·)

/-- How many brackets a symbol opens. -/
def bracketDepth (symbol : String) : Int :=
  if symbol ∈ ["(", "[", "\x7b"] then 1
  else if symbol ∈ [")", "]", "\x7d"] then -1
  else 0

/-- Scans one token of a variable or statement, with the white space before it. A closing delimiter
counts only outside of brackets. -/
def scanCode (marker : Marker) (depth : Int) (all : List Char) : Step :=
  let cs := all.dropWhile isGap
  let here := newlines all - newlines cs
  let closing := if depth = 0 then closing? marker cs else none
  match closing with
  | some (control, rest) =>
    ⟨[(if marker = .block then .blockEnd else .variableEnd, here)], .text control, rest⟩
  | none =>
    match scanSymbol? cs with
    | some (s, rest) => ⟨[(.symbol s, here)], .code marker (depth + bracketDepth s), rest⟩
    | none =>
      match cs with
      | [] => ⟨[], .text .keep, []⟩
      | c :: rest =>
        if c = '"' || c = '\'' then
          match takeQuoted? c rest with
          | none => .fault .unclosedString (newlines all)
          | some (inner, left) =>
            match unescape? inner with
            | some s =>
              ⟨[(.string (String.ofList s) (inner.contains '\\'), here)], .code marker depth, left⟩
            | none => .fault .badEscape here
        else if c.isDigit then
          let (token, left) := takeNumber cs
          ⟨[(token, here)], .code marker depth, left⟩
        else if isNameStart c then
          let name := String.ofList (cs.takeWhile isNamePart)
          ⟨[(.name name, here)], .code marker depth, cs.dropWhile isNamePart⟩
        else .fault .unexpectedCharacter here

def scanStep : Mode → List Char → Step
  | .text leading, cs => scanText leading cs
  | .code marker depth, cs => scanCode marker depth cs

/-- The tokens from here on. Every step uses up a character, so that `fuel` need not exceed the
number of characters. -/
def scanFrom (line : Nat) (mode : Mode) (cs : List Char) : (fuel : Nat) → List Located
  | 0 => []
  | fuel + 1 =>
    if cs.isEmpty then []
    else
      let step := scanStep mode cs
      step.tokens.map (fun (token, lines) => ⟨token, line + lines⟩) ++
        scanFrom (line + (newlines cs - newlines step.rest)) step.mode step.rest fuel

/-- The template without a line feed at its end, and then without a carriage return there. -/
def dropFinalBreak (cs : List Char) : List Char :=
  let drop (c : Char) (reversed : List Char) : List Char :=
    if reversed.head? = some c then reversed.tail else reversed
  (drop '\r' (drop '\n' cs.reverse)).reverse

/-- The tokens of a template. -/
def scan (template : String) : List Located :=
  let cs := dropFinalBreak template.toList
  scanFrom 1 (.text .keep) cs cs.length

end Changesets.Template
