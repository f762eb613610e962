import Changesets.Text.Search

/-!
Backslash escapes in the strings of templates. A backslash before a character without a meaning of
its own stands for itself. `unescape?_of_not_mem` says that a text without a backslash is kept.
-/
namespace Changesets.Template

/-- The digit that a character is in a base of at most 16. -/
def digit? (base : Nat) (c : Char) : Option Nat :=
  let value : Option Nat :=
    if c.isDigit then some (c.toNat - '0'.toNat)
    else if 'a' ≤ c && c ≤ 'f' then some (c.toNat - 'a'.toNat + 10)
    else if 'A' ≤ c && c ≤ 'F' then some (c.toNat - 'A'.toNat + 10)
    else none
  value.filter (· < base)

/-- The number that some digits write in a base; there has to be one. -/
def numeral? (base : Nat) (cs : List Char) : Option Nat :=
  if cs.isEmpty then none else cs.foldlM (fun n c => (digit? base c).map (base * n + ·)) 0

/-- The number that the first `count` characters write in hexadecimal, maybe after a plus sign. -/
def fixedNumeral? (count : Nat) (cs : List Char) : Option Nat :=
  let written := cs.take count
  if written.length < count then none
  else match written with
    | '+' :: digits => numeral? 16 digits
    | digits => numeral? 16 digits

/-- The character of an escape of one letter. -/
def shortEscape? : Char → Option Char
  | '"' => some '"'
  | '\'' => some '\''
  | '\\' => some '\\'
  | '/' => some '/'
  | 'b' => some '\x08'
  | 'f' => some '\x0c'
  | 'n' => some '\n'
  | 'r' => some '\r'
  | 't' => some '\t'
  | _ => none

/-- An escape after its `\u`. Two of them may stand for one character beyond the first plane. -/
def unitEscape? (cs : List Char) : Option (List Char × Nat) := do
  let unit ← fixedNumeral? 4 cs
  if 0xD800 ≤ unit ∧ unit < 0xDC00 then
    let low ← fixedNumeral? 4 (← Text.afterPrefix? ['\\', 'u'] (cs.drop 4))
    if 0xDC00 ≤ low ∧ low < 0xE000 then
      return ([Char.ofNat (0x10000 + (unit - 0xD800) * 0x400 + (low - 0xDC00))], 11)
    else none
  else if 0xDC00 ≤ unit ∧ unit < 0xE000 then none
  else return ([Char.ofNat unit], 5)

/-- What an escape stands for, and of how many characters it is made after its backslash. -/
def escape? : List Char → Option (List Char × Nat)
  | [] => none
  | c :: rest =>
    match shortEscape? c with
    | some d => some ([d], 1)
    | none =>
      if c = 'u' then unitEscape? rest
      else if c = 'x' then (fixedNumeral? 2 rest).map fun n => ([Char.ofNat n], 3)
      else
        let octal := ((c :: rest).take 3).takeWhile fun d => (digit? 8 d).isSome
        match numeral? 8 octal with
        | none => some (['\\', c], 1)
        | some n => if n < 256 then some ([Char.ofNat n], octal.length) else none

/-- The text without its escapes; `skip` characters belong to an escape that is done. -/
def unescapeFrom? : (skip : Nat) → List Char → Option (List Char)
  | _, [] => some []
  | skip + 1, _ :: cs => unescapeFrom? skip cs
  | 0, c :: cs =>
    if c = '\\' then do
      let (meaning, taken) ← escape? cs
      return meaning ++ (← unescapeFrom? taken cs)
    else (unescapeFrom? 0 cs).map (c :: ·)

/-- The text without its escapes, unless one is faulty. -/
def unescape? (cs : List Char) : Option (List Char) :=
  unescapeFrom? 0 cs

theorem unescape?_of_not_mem {cs : List Char} (h : '\\' ∉ cs) : unescape? cs = some cs := by
  unfold unescape?
  induction cs with
  | nil => rfl
  | cons c cs ih =>
    rw [List.mem_cons, not_or] at h
    simp [unescapeFrom?, Ne.symm h.1, ih h.2]

end Changesets.Template
