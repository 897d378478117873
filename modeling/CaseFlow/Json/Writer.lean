import CaseFlow.Value.Display

/-!
# Writing JSON texts

Values are written on one line in ASCII, with a space after each comma and colon. Dates and
timestamps, which JSON does not have, are written as their texts.
-/

namespace CaseFlow.Json

open CaseFlow.Text

/-- The escape of one unit. -/
def unitEscape (n : Nat) : List Char := '\\' :: 'u' :: hex 4 n

/-- The written form of a character inside a text. -/
def writtenChar (c : Char) : List Char :=
  match c with
  | '"' => ['\\', '"']
  | '\\' => ['\\', '\\']
  | '\n' => ['\\', 'n']
  | '\r' => ['\\', 'r']
  | '\t' => ['\\', 't']
  | '\x08' => ['\\', 'b']
  | '\x0c' => ['\\', 'f']
  | c =>
    let n := c.toNat
    if 0x20 ≤ n && n ≤ 0x7e then [c]
    else if n < 0x10000 then unitEscape n
    else unitEscape (0xD800 + (n - 0x10000) / 0x400) ++ unitEscape (0xDC00 + (n - 0x10000) % 0x400)

/-- A text in quotes. -/
def writtenText (s : String) : String :=
  String.ofList ('"' :: s.toList.flatMap writtenChar ++ ['"'])

/-- A binary number. -/
def writtenFloat (x : Float) : String :=
  if x.isNaN then "NaN"
  else if x.isInf then (if x < 0 then "-Infinity" else "Infinity")
  else Decimal.floatText x

mutual

/-- A value as a JSON text. -/
def write : Value → String
  | .null => "null"
  | .bool b => if b then "true" else "false"
  | .int n => toString n
  | .float x => writtenFloat x
  | .text s => writtenText s
  | .date d => writtenText d.text
  | .timestamp t => writtenText t.displayText
  | .list vs => "[" ++ writeItems vs ++ "]"
  | .object fs => "\x7b" ++ writeMembers fs ++ "\x7d"

/-- Items with commas between them. -/
def writeItems : List Value → String
  | [] => ""
  | [v] => write v
  | v :: w :: vs => write v ++ ", " ++ writeItems (w :: vs)

/-- Fields with commas between them. -/
def writeMembers : List (String × Value) → String
  | [] => ""
  | [(name, v)] => writtenText name ++ ": " ++ write v
  | (name, v) :: f :: fs => writtenText name ++ ": " ++ write v ++ ", " ++ writeMembers (f :: fs)

end

end CaseFlow.Json
