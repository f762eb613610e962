/-!
White space: the characters with the Unicode property `White_Space`, which is wider than the class of
`Char.isWhitespace` and holds neither U+200B nor U+FEFF.
-/
namespace Changesets.Text

/-- The Unicode property `White_Space`. -/
def isBlank (c : Char) : Bool :=
  let n := c.toNat
  (9 ≤ n && n ≤ 13) || n == 0x20 || n == 0x85 || n == 0xA0 || n == 0x1680 ||
    (0x2000 ≤ n && n ≤ 0x200A) || n == 0x2028 || n == 0x2029 || n == 0x202F || n == 0x205F ||
    n == 0x3000

/-- Whether the text has white space only, as an empty one does. -/
def isBlankText (text : String) : Bool :=
  text.toList.all isBlank

def trimLeft (cs : List Char) : List Char :=
  cs.dropWhile isBlank

def trimRight (cs : List Char) : List Char :=
  (cs.reverse.dropWhile isBlank).reverse

/-- The text without white space at its two ends. -/
def trim (text : String) : String :=
  String.ofList (trimRight (trimLeft text.toList))

end Changesets.Text
