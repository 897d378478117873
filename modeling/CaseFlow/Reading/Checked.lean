import CaseFlow.Reading.Problem
import CaseFlow.Value.Basic

/-!
# Reading values

A reader turns a value into typed data or lists all that is wrong with it. Readers of several
fields report the problems of each of them, in order.
-/

namespace CaseFlow

/-- The outcome of reading: data, or what is wrong. -/
inductive Checked (α : Type) where
  /-- The data is in order. -/
  | ok (value : α)
  /-- The problems found. -/
  | bad (problems : List Problem)
  deriving Repr

namespace Checked

/-- Applies a function to data in order. -/
def map {α β : Type} (f : α → β) : Checked α → Checked β
  | ok a => ok (f a)
  | bad ps => bad ps

/-- Joins two outcomes; the problems of both are reported. -/
def seq {α β : Type} : Checked (α → β) → Checked α → Checked β
  | ok f, ok a => ok (f a)
  | ok _, bad ps => bad ps
  | bad ps, ok _ => bad ps
  | bad ps, bad qs => bad (ps ++ qs)

instance : Applicative Checked where
  pure := ok
  map := map
  seq f a := seq f (a ())

/-- A further check, made only on data in order. -/
def andThen {α β : Type} : Checked α → (α → Checked β) → Checked β
  | ok a, f => f a
  | bad ps, _ => bad ps

/-- A single complaint about the whole. -/
def refuse {α : Type} (c : Complaint) : Checked α := bad [⟨[], c⟩]

/-- The outcome as seen from one step further out. -/
def under {α : Type} (place : Place) : Checked α → Checked α
  | ok a => ok a
  | bad ps => bad (ps.map fun p => { p with path := place :: p.path })

/-- The data, if it is in order. -/
def toOption {α : Type} : Checked α → Option α
  | ok a => some a
  | bad _ => none

/-- The data, or its rejection as a record of the given name. -/
def toExcept {α : Type} (record : String) : Checked α → Except Rejection α
  | ok a => .ok a
  | bad ps => .error ⟨record, ps⟩

end Checked

/-- A type whose elements are written as fixed words. -/
class Worded (α : Type) where
  /-- All elements, in the order in which they are listed. -/
  all : List α
  /-- The word of an element. -/
  word : α → String

namespace Worded

/-- The element of a word. -/
def ofWord? {α : Type} [Worded α] (s : String) : Option α :=
  (all (α := α)).find? fun a => word a == s

end Worded

/-- Reads one value. -/
abbrev Reader (α : Type) := Value → Checked α

namespace Reader

open Checked

/-- A text. -/
def text : Reader String
  | .text s => ok s
  | _ => refuse .text

/-- One of the words of a type. -/
def choice {α : Type} [Worded α] : Reader α := fun v =>
  match v.text?.bind Worded.ofWord? with
  | some a => ok a
  | none => refuse (.choice ((Worded.all (α := α)).map Worded.word))

/-- A truth value, also as a text or as the number zero or one. -/
def bool : Reader Bool
  | .bool b => ok b
  | .int n => ofInt n
  | .float x =>
    match Decimal.toWhole? x with
    | some n => ofInt n
    | none => refuse .boolean
  | .text s =>
    let word := String.ofList (s.toList.map Char.toLower)
    if ["0", "off", "f", "false", "n", "no"].contains word then ok false
    else if ["1", "on", "t", "true", "y", "yes"].contains word then ok true
    else refuse .unreadableBoolean
  | _ => refuse .boolean
where
  /-- Zero and one stand for truth values; a number beyond 64 bits is not even considered. -/
  ofInt (n : Int) : Checked Bool :=
    if n = 0 then ok false
    else if n = 1 then ok true
    else if n.natAbs < Nat.pow 2 63 then refuse .unreadableBoolean
    else refuse .boolean

/-- A binary number: a number, a truth value or a numeral. -/
def float : Reader Float
  | .float x => ok x
  | .bool b => ok (if b then 1 else 0)
  | .int n =>
    let x := Float.ofInt n
    if Decimal.isFinite x then ok x else refuse .number
  | .text s =>
    match Decimal.parseFloat? s with
    | some x => ok x
    | none => refuse .unreadableNumber
  | _ => refuse .number

/-- A whole number: a number without a fraction, a truth value or a numeral. -/
def int : Reader Int
  | .int n => ok n
  | .bool b => ok (if b then 1 else 0)
  | .float x =>
    if !Decimal.isFinite x then refuse .infinite
    else
      match Decimal.toWhole? x with
      | some n => if n.natAbs < Nat.pow 2 63 then ok n else refuse .oversizedWhole
      | none => refuse .fractional
  | .text s =>
    match Decimal.parseInt? s with
    | some n =>
      if Decimal.digitCount n.natAbs ≤ Decimal.maxDigits then ok n else refuse .oversizedWhole
    | none => refuse .unreadableWhole
  | _ => refuse .whole

/-- A timestamp: a text, a count of seconds since 1970, or a timestamp. -/
def timestamp : Reader Timestamp
  | .timestamp t => ok t
  | .date d => ok (Timestamp.midnight d)
  | .text s =>
    match Timestamp.ofDocument s with
    | .ok t => ok t
    | .error fault => refuse (.unreadableTimestamp fault)
  | .int n => ofCount n 0
  | .float x =>
    if Decimal.isFinite x then
      let millions := Decimal.roundDiv (scaled x).natAbs (Nat.pow 2 1074)
      let micros : Int := if scaled x < 0 then -(millions : Int) else millions
      ofCount (micros.fdiv 1000000) (micros.fmod 1000000).toNat
    else if Decimal.orderKey x = Decimal.orderKey (1 / 0) then
      refuse (.unixTimestamp Timestamp.DateFault.afterCalendar.text)
    else if Decimal.orderKey x = Decimal.orderKey (-1 / 0) then
      refuse (.unixTimestamp Timestamp.DateFault.beforeCalendar.text)
    else refuse (.unixTimestamp "NaN values not permitted")
  | _ => refuse .timestamp
where
  /-- A count of seconds and microseconds since 1970. -/
  ofCount (n : Int) (micros : Nat) : Checked Timestamp :=
    match Timestamp.ofUnix n micros with
    | .ok t => ok t
    | .error fault => refuse (.unixTimestamp fault.text)
  /-- A million times a finite number, over the least positive number. -/
  scaled (x : Float) : Int :=
    match Decimal.parts x with
    | .finite negative m e =>
      let n : Int := m * Nat.pow 2 (e + 1074).toNat * 1000000
      if negative then -n else n
    | _ => 0

/-- An object whose values are taken as they are. -/
def fields : Reader Fields
  | .object fs => ok fs
  | _ => refuse .object

/-- An absent value, or one that the reader accepts. -/
def nullable {α : Type} (read : Reader α) : Reader (Option α)
  | .null => ok none
  | v => (read v).map some

/-- Reads the items of a list from a given index on. -/
def items {α : Type} (read : Reader α) : Nat → List Value → Checked (List α)
  | _, [] => ok []
  | i, v :: vs => List.cons <$> (read v).under (.item i) <*> items read (i + 1) vs

/-- A list. -/
def list {α : Type} (read : Reader α) : Reader (List α)
  | .list vs => items read 0 vs
  | _ => refuse .list

/-- A record, read from the fields of an object. -/
def record {α : Type} (name : String) (read : Fields → Checked α) : Reader α
  | .object fs => read fs
  | _ => refuse (.record name)

/-- Adds a check of the domain to a reader. -/
def checking {α β : Type} (read : Reader α) (check : α → Except Rule β) : Reader β := fun v =>
  (read v).andThen fun a =>
    match check a with
    | .ok b => ok b
    | .error r => refuse (.rule r)

/-- Adds a bound to a reader. -/
def bounded {α : Type} (read : Reader α) (bounds : List ((α → Bool) × Complaint)) : Reader α :=
  fun v => (read v).andThen fun a =>
    match bounds.find? fun b => !b.1 a with
    | some b => refuse b.2
    | none => ok a

end Reader

namespace Fields

/-- Reads a field that has to be present. -/
def require {α : Type} (fs : Fields) (name : String) (read : Reader α) : Checked α :=
  match fs.get? name with
  | some v => (read v).under (.field name)
  | none => (Checked.refuse .missing : Checked α).under (.field name)

/-- Reads a field, or takes its default value where it is absent. -/
def optional {α : Type} (fs : Fields) (name : String) (read : Reader α) (default : α) : Checked α :=
  match fs.get? name with
  | some v => (read v).under (.field name)
  | none => .ok default

end Fields

end CaseFlow
