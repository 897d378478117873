import CaseFlow.Decimal.Scientific
import CaseFlow.Error.Cause

/-!
# Message templates

A message is a text with slots for arguments. A slot begins with a percent sign; it may name its
argument in parentheses, ask for a sign, for zeros before a number, for the mark of a number's
base, for a least width and a precision, and it ends with a letter that says how the argument is
shown. A second percent sign right after the first one stands for itself.
-/

namespace CaseFlow

open CaseFlow.Text

/-- How a slot names its argument. -/
inductive SlotName where
  /-- Not at all: it takes the next one. -/
  | next
  /-- By a name. -/
  | named (name : String)
  /-- By a name that the text does not end. -/
  | unclosed
  deriving DecidableEq, Repr, Inhabited

/-- A number in a slot. -/
inductive SlotCount where
  /-- None. -/
  | none
  /-- One that is written there. -/
  | fixed (n : Nat)
  /-- One that is taken from the arguments. -/
  | argument
  deriving DecidableEq, Repr, Inhabited

/-- A slot for an argument. -/
structure Slot where
  /-- How the argument is named. -/
  name : SlotName := .next
  /-- The marks before the width. -/
  marks : List Char := []
  /-- The least width. -/
  width : SlotCount := .none
  /-- The precision. -/
  precision : SlotCount := .none
  /-- The letter that ends the slot; a slot that is cut short has none. -/
  letter : Option Char := none
  deriving DecidableEq, Repr, Inhabited

namespace Slot

/-- The name up to the parenthesis that closes it, pairs of them inside included. -/
def takeName (depth : Nat) : List Char → Option (List Char × List Char)
  | [] => none
  | ')' :: rest =>
    match depth with
    | 0 => some ([], rest)
    | d + 1 => (takeName d rest).map fun p => (')' :: p.1, p.2)
  | '(' :: rest => (takeName (depth + 1) rest).map fun p => ('(' :: p.1, p.2)
  | c :: rest => (takeName depth rest).map fun p => (c :: p.1, p.2)

/-- A number at the front of a text. -/
def takeCount : List Char → SlotCount × List Char
  | '*' :: rest => (.argument, rest)
  | cs =>
    match cs.takeWhile Char.isDigit with
    | [] => (.none, cs)
    | digits => (.fixed (Decimal.digitsValue digits), cs.dropWhile Char.isDigit)

/-- A precision at the front of a text: a point, and a number that counts as zero when it is not
there. -/
def takePrecision : List Char → SlotCount × List Char
  | '.' :: rest =>
    match takeCount rest with
    | (.none, rest) => (.fixed 0, rest)
    | p => p
  | cs => (.none, cs)

/-- The greatest width. -/
def maxWidth : Nat := Nat.pow 2 63 - 1

/-- The greatest precision. -/
def maxPrecision : Nat := Nat.pow 2 31 - 1

/-- Whether a number in a slot is too great. -/
def SlotCount.exceeds (bound : Nat) : SlotCount → Bool
  | .fixed n => bound < n
  | _ => false

/-- Reads what follows the name of a slot. A letter for a size may stand before the last one. A
slot with too great a number counts as cut short. -/
def readRest (name : SlotName) (cs : List Char) : Slot × List Char :=
  let isMark (c : Char) : Bool := ['-', '+', ' ', '#', '0'].contains c
  let marks := cs.takeWhile isMark
  let (width, rest) := takeCount (cs.dropWhile isMark)
  let (precision, rest) := takePrecision rest
  if SlotCount.exceeds maxWidth width then ({ name, marks }, rest)
  else if SlotCount.exceeds maxPrecision precision then ({ name, marks, width }, rest)
  else
    let rest := match rest with
      | c :: r => if ['h', 'l', 'L'].contains c then r else rest
      | [] => []
    match rest with
    | [] => ({ name, marks, width, precision }, [])
    | c :: r => ({ name, marks, width, precision, letter := some c }, r)

/-- Reads a slot after its percent sign, and what follows it. -/
def read : List Char → Slot × List Char
  | '(' :: cs =>
    match takeName 0 cs with
    | some (name, rest) => readRest (.named (String.ofList name)) rest
    | none => ({ name := .unclosed }, [])
  | cs => readRest .next cs

end Slot

/-- A piece of a template. -/
inductive Piece where
  /-- A character that stands for itself. -/
  | plain (c : Char)
  /-- A slot for an argument. -/
  | slot (p : Slot)
  deriving DecidableEq, Repr, Inhabited

/-- A message with slots for arguments. -/
abbrev Template := List Piece

namespace Template

/-- Reads a template. -/
def ofChars : List Char → Template
  | [] => []
  | '%' :: '%' :: rest => .plain '%' :: ofChars rest
  | '%' :: rest =>
    let (p, after) := Slot.read rest
    .slot p :: (if _h : after.length ≤ rest.length then ofChars after else [])
  | c :: rest => .plain c :: ofChars rest
termination_by cs => cs.length

/-- Reads a template. -/
def ofText (s : String) : Template := ofChars s.toList

end Template

/-! ## Arguments -/

/-- The arguments of a message. -/
inductive Arguments where
  /-- A list of values, each of which is used once, in order. -/
  | listed (values : List Value)
  /-- Named values. -/
  | named (fields : Fields)
  deriving Repr, BEq, Inhabited

/-- The arguments that slots have not used yet. -/
structure Supply where
  /-- The named values, if there are any. -/
  fields : Option Fields
  /-- The values to be taken next. -/
  left : List Value

/-- All arguments, unused. Named ones taken without a name are taken all at once. -/
def Arguments.supply : Arguments → Supply
  | .listed values => ⟨none, values⟩
  | .named fields => ⟨some fields, [.object fields]⟩

namespace Supply

/-- Takes the next value. -/
def next (s : Supply) : Except Fault (Value × Supply) :=
  match s.left with
  | v :: rest => .ok (v, { s with left := rest })
  | [] => .error .messageArguments

/-- Turns to the value that a slot names; it becomes the only one to be taken. -/
def select (s : Supply) : SlotName → Except Fault Supply
  | .next => .ok s
  | .unclosed => .error (if s.fields.isSome then .messagePlace else .messageArguments)
  | .named name =>
    match s.fields with
    | none => .error .messageArguments
    | some fs =>
      match fs.get? name with
      | some v => .ok { s with left := [v] }
      | none => .error .messageName

/-- The number in a slot, taken from the arguments where it is not written. -/
def count (s : Supply) (bound : Nat) : SlotCount → Except Fault (Option Int × Supply)
  | .none => .ok (none, s)
  | .fixed n => .ok (some (n : Int), s)
  | .argument => do
    let (v, s) ← s.next
    let n ← match v with
      | .int n => .ok n
      | .bool b => .ok (if b then 1 else 0)
      | _ => .error .messageArguments
    if bound < n.natAbs then .error .messageRange else .ok (some n, s)

/-- Whether every listed value has been used. -/
def isUsedUp (s : Supply) : Bool := s.fields.isSome || s.left.isEmpty

end Supply

/-! ## Showing arguments -/

/-- A shown argument before it is laid into its slot. -/
structure Shown where
  /-- Whether it is a number, which may get a sign and zeros. -/
  isNumber : Bool := false
  /-- Whether it is below zero. -/
  negative : Bool := false
  /-- The mark of its base. -/
  mark : List Char := []
  /-- Its characters or digits. -/
  body : List Char
  deriving DecidableEq, Repr

namespace Shown

/-- A text, cut to the precision. -/
def ofText (precision : Option Nat) (s : String) : Shown :=
  { body := (precision.map fun n => s.toList.take n).getD s.toList }

/-- A character in ASCII; any other is escaped by its code point. -/
def asciiChar (c : Char) : List Char :=
  let n := c.toNat
  if n < 0x80 then [c]
  else if n < 0x100 then '\\' :: 'x' :: hex 2 n
  else if n < 0x10000 then '\\' :: 'u' :: hex 4 n
  else '\\' :: 'U' :: hex 8 n

/-- The whole number of a value; a binary number loses its fraction. -/
def whole : Value → Except Fault Int
  | .int n => .ok n
  | .bool b => .ok (if b then 1 else 0)
  | .float x =>
    match Decimal.parts x with
    | .nan => .error .messagePlace
    | .infinite _ => .error .messageRange
    | .finite negative m e =>
      let n : Nat := m * Nat.pow 2 e.toNat / Nat.pow 2 (-e).toNat
      .ok (if negative then -(n : Int) else n)
  | _ => .error .messageArguments

/-- The whole number of a value that is one. -/
def exactWhole : Value → Except Fault Int
  | .float _ => .error .messageArguments
  | v => whole v

/-- A whole number in a base with at least as many digits as the precision. -/
def ofWhole (base : Nat) (mark : List Char) (capitals : Bool) (precision : Option Nat) (n : Int) :
    Shown :=
  let digits := Decimal.padZeros (precision.getD 0) (Nat.toDigits base n.natAbs)
  let shape (cs : List Char) := if capitals then cs.map Char.toUpper else cs
  { isNumber := true, negative := decide (n < 0), mark := shape mark, body := shape digits }

/-- The binary number of a value. -/
def number : Value → Except Fault Float
  | .int n =>
    let x := Float.ofInt n
    if x.isInf then .error .messageRange else .ok x
  | .bool b => .ok (if b then 1 else 0)
  | .float x => .ok x
  | _ => .error .messageArguments

/-- A binary number in a notation; six places unless the precision says otherwise. -/
def ofFloat (style : Decimal.Notation) (keepPoint capitals : Bool) (precision : Option Nat)
    (x : Float) : Shown :=
  let shape (cs : List Char) := if capitals then cs.map Char.toUpper else cs
  match Decimal.parts x with
  | .nan => { isNumber := true, body := shape ['n', 'a', 'n'] }
  | .infinite negative => { isNumber := true, negative, body := shape ['i', 'n', 'f'] }
  | .finite negative m e =>
    { isNumber := true, negative
      body := shape (style.write (precision.getD 6) keepPoint m e) }

/-- A character, given as such or by its code point. -/
def ofCharacter : Value → Except Fault Shown
  | .text s =>
    match s.toList with
    | [c] => .ok { body := [c] }
    | _ => .error .messageArguments
  | v => do
    let n ← exactWhole v
    if 0 ≤ n ∧ n < 0x110000 then .ok { body := [Char.ofNat n.toNat] } else .error .messageRange

/-- A value as a letter asks for it. A mark for the base, or for a point without digits after it,
is put where `marked` asks for it. -/
def ofValue (letter : Char) (marked : Bool) (precision : Option Nat) (v : Value) :
    Except Fault Shown :=
  let base (n : Nat) (mark : List Char) (capitals : Bool) : Except Fault Shown :=
    (exactWhole v).map (ofWhole n (if marked then mark else []) capitals precision)
  let float (n : Decimal.Notation) (capitals : Bool) : Except Fault Shown :=
    (number v).map (ofFloat n marked capitals precision)
  match letter with
  | 's' => .ok (ofText precision v.shown)
  | 'r' => .ok (ofText precision v.written)
  | 'a' => .ok (ofText precision (String.ofList (v.written.toList.flatMap asciiChar)))
  | 'd' | 'i' | 'u' => (whole v).map (ofWhole 10 [] false precision)
  | 'o' => base 8 ['0', 'o'] false
  | 'x' => base 16 ['0', 'x'] false
  | 'X' => base 16 ['0', 'x'] true
  | 'e' => float .exponent false
  | 'E' => float .exponent true
  | 'f' => float .fixed false
  | 'F' => float .fixed true
  | 'g' => float .general false
  | 'G' => float .general true
  | 'c' => ofCharacter v
  | _ => .error .messagePlace

/-- Lays a shown argument into a slot of a least width: at its left end, behind zeros, or at its
right end. -/
def lay (s : Shown) (marks : List Char) (atLeft : Bool) (width : Nat) : List Char :=
  let sign :=
    if !s.isNumber then []
    else if s.negative then ['-']
    else if marks.contains '+' then ['+']
    else if marks.contains ' ' then [' ']
    else []
  let missing := width - (sign.length + s.mark.length + s.body.length)
  if atLeft then sign ++ s.mark ++ s.body ++ List.replicate missing ' '
  else if s.isNumber && marks.contains '0' then
    sign ++ s.mark ++ List.replicate missing '0' ++ s.body
  else List.replicate missing ' ' ++ sign ++ s.mark ++ s.body

end Shown

/-! ## Filling templates -/

/-- Fills one slot: the argument is looked up, the width and the precision are settled, and the
argument is taken and shown. A width below zero turns to the left end; a precision below zero is
zero. -/
def Slot.fill (p : Slot) (s : Supply) : Except Fault (List Char × Supply) := do
  let s ← s.select p.name
  let (width, s) ← s.count maxWidth p.width
  let (precision, s) ← s.count maxPrecision p.precision
  match p.letter with
  | none => throw .messagePlace
  | some letter =>
    let (v, s) ← s.next
    let shown ← Shown.ofValue letter (p.marks.contains '#') (precision.map Int.toNat) v
    let w := width.getD 0
    return (shown.lay p.marks (p.marks.contains '-' || w < 0) w.natAbs, s)

/-- Fills one piece. -/
def Piece.fill (s : Supply) : Piece → Except Fault (List Char × Supply)
  | .plain c => .ok ([c], s)
  | .slot p => p.fill s

namespace Template

/-- Fills the pieces one after the other. -/
def fillFrom (s : Supply) : Template → Except Fault (List Char × Supply)
  | [] => .ok ([], s)
  | p :: rest => do
    let (front, s) ← p.fill s
    let (back, s) ← fillFrom s rest
    return (front ++ back, s)

/-- Fills a template with its arguments; listed ones have to be used up. -/
def fill (t : Template) (a : Arguments) : Except Fault String := do
  let (cs, s) ← fillFrom a.supply t
  if s.isUsedUp then return String.ofList cs else throw .messageArguments

end Template

end CaseFlow
