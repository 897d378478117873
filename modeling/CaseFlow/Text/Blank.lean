/-!
# Blank characters

Trimming removes every character that Unicode counts as white space, together with the four
information separators U+001C to U+001F. The zero-width characters U+200B and U+FEFF are not
blank.
-/

namespace CaseFlow.Text

/-- A blank: a character that trimming removes at either end of a text. -/
def isBlank (c : Char) : Bool :=
  let n := c.toNat
  (0x09 ≤ n && n ≤ 0x0D) || (0x1C ≤ n && n ≤ 0x20) || n == 0x85 || n == 0xA0 || n == 0x1680 ||
    (0x2000 ≤ n && n ≤ 0x200A) || n == 0x2028 || n == 0x2029 || n == 0x202F || n == 0x205F ||
    n == 0x3000

/-- White space proper: a blank other than the four information separators. -/
def isSpace (c : Char) : Bool :=
  isBlank c && !(0x1C ≤ c.toNat && c.toNat ≤ 0x1F)

/-- The characters between the first and the last one that `p` does not hold of. -/
def trimList (p : Char → Bool) (cs : List Char) : List Char :=
  ((cs.dropWhile p).reverse.dropWhile p).reverse

/-- A text without the blanks at its ends. -/
def trim (s : String) : String := String.ofList (trimList isBlank s.toList)

/-- A text is blank when trimming leaves nothing of it. -/
def blank (s : String) : Bool := (trim s).isEmpty

end CaseFlow.Text
