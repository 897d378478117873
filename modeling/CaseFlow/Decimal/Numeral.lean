import CaseFlow.Decimal.Shortest
import CaseFlow.Text.Blank
import CaseFlow.Text.Digit

/-!
# Numerals

Reads whole and decimal numbers. Two notations are in use: the one of form values, which takes
the digits of every script and single underscores between digits, and the stricter one of
documents and settings, which takes ASCII digits only.
-/

namespace CaseFlow.Decimal

open CaseFlow.Text

/-- The value of a sequence of ASCII digits. -/
def digitsValue (cs : List Char) : Nat := cs.foldl (fun n c => 10 * n + (c.toNat - 48)) 0

/-- The binary number nearest to `m * 10 ^ e`. Decimals beyond either end of the range are
settled by their size, so that no huge power is computed. -/
def ofDecimal (m : Nat) (e : Int) : Float :=
  if m = 0 then 0
  else
    let size := digitCount m + e
    -- No number of more than 310 digits is finite, none below 10 ^ -330 differs from zero.
    if 310 < size then 1 / 0
    else if size < -330 then 0
    else Float.ofScientific m (e < 0) e.natAbs

/-- Splits a sign off: whether it is a minus, and what follows. -/
def takeSign : List Char → Bool × List Char
  | '-' :: rest => (true, rest)
  | '+' :: rest => (false, rest)
  | cs => (false, cs)

/-- The exponent at the end of a decimal number; no text is the exponent zero. -/
def exponent? : List Char → Option Int
  | [] => some 0
  | c :: rest =>
    if c == 'e' || c == 'E' then
      let (negative, digits) := takeSign rest
      if digits.isEmpty || !digits.all Char.isDigit then none
      else some (if negative then -(digitsValue digits : Int) else digitsValue digits)
    else none

/-- An unsigned decimal number: digits on at least one side of the point, then an exponent. -/
def decimal? (cs : List Char) : Option Float :=
  let whole := cs.takeWhile Char.isDigit
  let rest := cs.dropWhile Char.isDigit
  let (fraction, rest) := match rest with
    | '.' :: r => (r.takeWhile Char.isDigit, r.dropWhile Char.isDigit)
    | r => ([], r)
  if whole.isEmpty && fraction.isEmpty then none
  else (exponent? rest).map fun e =>
    ofDecimal (digitsValue (whole ++ fraction)) (e - fraction.length)

/-- The words for the special values, in any case. -/
def specialWord? (cs : List Char) : Option Float :=
  match String.ofList (cs.map Char.toLower) with
  | "inf" | "infinity" => some (1 / 0)
  | "nan" => some (0 / 0)
  | _ => none

/-- A decimal number with an optional sign, or a special value. -/
def float? (cs : List Char) : Option Float :=
  let (negative, rest) := takeSign cs
  (specialWord? rest <|> decimal? rest).map fun x => if negative then -x else x

/-- Removes underscores, each of which has to stand between two digits. -/
def joinDigits : Option Char → List Char → Option (List Char)
  | _, [] => some []
  | before, '_' :: rest =>
    match before, rest with
    | some b, d :: _ => if b.isDigit && d.isDigit then joinDigits none rest else none
    | _, _ => none
  | _, c :: rest => (joinDigits (some c) rest).map (c :: ·)

/-- A sequence of digits, single underscores between them allowed. -/
def digits? (cs : List Char) : Option (List Char) :=
  match joinDigits none cs with
  | some ds => if ds.isEmpty || !ds.all Char.isDigit then none else some ds
  | none => none

/-- The most digits a whole number of a form may have. -/
def maxDigits : Nat := 4300

/-- The characters of a numeral in a form: without spaces around it and in ASCII digits. -/
def numeralChars (s : String) : List Char := trimList isSpace (s.toList.map asciiDigit)

/-- Reads a whole number of a form. -/
def readInt? (s : String) : Option Int :=
  let (negative, rest) := takeSign (numeralChars s)
  match digits? rest with
  | some ds =>
    if maxDigits < ds.length then none
    else some (if negative then -(digitsValue ds : Int) else digitsValue ds)
  | none => none

/-- Reads a decimal number of a form. -/
def readFloat? (s : String) : Option Float := (joinDigits none (numeralChars s)).bind float?

/-- Removes underscores that stand inside a text, no two of them side by side. -/
def dropUnderscores? (cs : List Char) : Option (List Char) :=
  let doubled := (cs.zip (cs.drop 1)).any fun p => p.1 == '_' && p.2 == '_'
  if cs.head? == some '_' || cs.getLast? == some '_' || !cs.contains '_' || doubled then none
  else some (cs.filter (· != '_'))

/-- Reads a decimal number of a document or a setting. -/
def parseFloat? (s : String) : Option Float :=
  float? (trimList isSpace s.toList) <|>
    (dropUnderscores? s.toList).bind fun cs => float? (trimList isSpace cs)

/-- A whole number without superfluous zeros. -/
def canonicalInt? : List Char → Option Int
  | '-' :: cs => (unsigned? cs).map fun n => -(n : Int)
  | cs => (unsigned? cs).map fun n => (n : Int)
where
  /-- Digits without a zero before them. -/
  unsigned? (cs : List Char) : Option Nat :=
    if cs.isEmpty || !cs.all Char.isDigit || (cs.head? == some '0' && 1 < cs.length) then none
    else some (digitsValue cs)

/-- Drops the zeros, and underscores between them, before the first other digit. One character
stays when nothing or a point follows them. -/
def dropLeadingZeros? (cs : List Char) : Option (List Char) :=
  match cs with
  | '0' :: rest =>
    let passed := '0' :: rest.takeWhile fun c => c == '0' || c == '_'
    let last := passed.getLast?.getD '0'
    match rest.dropWhile fun c => c == '0' || c == '_' with
    | [] => some [last]
    | '.' :: tail => some (last :: '.' :: tail)
    | c :: tail => if c.isDigit then some (c :: tail) else none
  | c :: _ => if c.isDigit || c == '-' then some cs else none
  | [] => none

/-- Drops a point that only zeros follow. -/
def dropZeroFraction (cs : List Char) : List Char :=
  match cs.dropWhile (· != '.') with
  | '.' :: tail => if tail.all (· == '0') then cs.takeWhile (· != '.') else cs
  | _ => cs

/-- Reads a whole number of a document or a setting: spaces around it, a plus sign, zeros
before it, a fraction of zeros and single underscores are passed over. -/
def parseInt? (s : String) : Option Int :=
  let cs := trimList isSpace s.toList
  let cs := match cs with
    | '+' :: rest => rest
    | cs => cs
  (dropLeadingZeros? cs).bind fun cs =>
    -- Zeros go before underscores: an underscore at the front would not count as inside.
    let cs := dropZeroFraction cs
    canonicalInt? ((dropUnderscores? cs).getD cs)

end CaseFlow.Decimal
