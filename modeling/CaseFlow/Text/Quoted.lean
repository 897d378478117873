import CaseFlow.Text.Printable

/-!
# Quoted text

A text inside a list or an object is written between quotation marks: single ones, unless the
text holds a single and no double one. The mark, the backslash, tab, line feed and carriage
return are escaped by a backslash; a character without a visible form is written by its code
point in hexadecimal, with two, four or eight digits.
-/

namespace CaseFlow.Text

/-- The hexadecimal digit of a number below sixteen. -/
def hexDigit (n : Nat) : Char := Nat.digitChar n

/-- The last `width` hexadecimal digits of a number, in lower case. -/
def hex : Nat → Nat → List Char
  | 0, _ => []
  | width + 1, n => hex width (n / 16) ++ [hexDigit (n % 16)]

namespace Quoted

/-- The mark around a text: a double one only where that saves an escape. -/
def mark (cs : List Char) : Char :=
  if cs.contains '\'' && !cs.contains '"' then '"' else '\''

/-- The written form of one character inside the mark `q`. -/
def encodeChar (q c : Char) : List Char :=
  if c == q || c == '\\' then ['\\', c]
  else if c == '\t' then ['\\', 't']
  else if c == '\n' then ['\\', 'n']
  else if c == '\r' then ['\\', 'r']
  else if isPrintable c then [c]
  else if c.toNat ≤ 0xFF then '\\' :: 'x' :: hex 2 c.toNat
  else if c.toNat ≤ 0xFFFF then '\\' :: 'u' :: hex 4 c.toNat
  else '\\' :: 'U' :: hex 8 c.toNat

/-- A text between marks, escapes included. -/
def encode (cs : List Char) : List Char :=
  let q := mark cs
  q :: cs.flatMap (encodeChar q) ++ [q]

end Quoted

/-- The quoted form of a text. -/
def quote (s : String) : String := String.ofList (Quoted.encode s.toList)

end CaseFlow.Text
