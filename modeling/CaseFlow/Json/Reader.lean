import CaseFlow.Decimal.Numeral
import CaseFlow.Value.Basic

/-!
# Reading JSON texts

A JSON text is read from left to right. Every step returns what it read together with a rest that
is shorter than what it was given, so reading ends. A fault is told by the number of characters
that are left where it shows; the reader of a whole text turns that into an offset.
-/

namespace CaseFlow.Json

open CaseFlow.Decimal

/-- Why a text is not read. -/
inductive Fault where
  /-- It is no JSON text; so many characters are left where this shows. -/
  | malformed (left : Nat)
  /-- A whole number has too many digits. -/
  | oversized
  deriving DecidableEq, Repr

/-- What a step reads from characters, and the shorter rest. -/
structure Taken (α : Type) (cs : List Char) where
  /-- What was read. -/
  value : α
  /-- The characters that follow. -/
  rest : List Char
  /-- Something was read. -/
  shorter : rest.length < cs.length

namespace Taken

/-- The same step seen from a longer sequence of characters. -/
def widen {α : Type} {cs ds : List Char} (t : Taken α cs) (h : cs.length ≤ ds.length) :
    Taken α ds :=
  ⟨t.value, t.rest, Nat.lt_of_lt_of_le t.shorter h⟩

/-- Applies a function to what was read. -/
def map {α β : Type} {cs : List Char} (f : α → β) (t : Taken α cs) : Taken β cs :=
  ⟨f t.value, t.rest, t.shorter⟩

end Taken

/-- The spaces between the parts of a JSON text. -/
def isGap (c : Char) : Bool := c == ' ' || c == '\t' || c == '\n' || c == '\r'

/-- The characters after the spaces at the front. -/
def skipGap (cs : List Char) : List Char := cs.dropWhile isGap

theorem length_dropWhile_le {α : Type} (p : α → Bool) (xs : List α) :
    (xs.dropWhile p).length ≤ xs.length := (List.dropWhile_suffix p).length_le

theorem length_skipGap_le (cs : List Char) : (skipGap cs).length ≤ cs.length :=
  length_dropWhile_le isGap cs

/-! ## Texts -/

/-- The value of a hexadecimal digit. -/
def hexDigit? (c : Char) : Option Nat :=
  if c.isDigit then some (c.toNat - 48)
  else if 'a' ≤ c && c ≤ 'f' then some (c.toNat - 87)
  else if 'A' ≤ c && c ≤ 'F' then some (c.toNat - 55)
  else none

/-- The value of hexadecimal digits. -/
def hexValue? (cs : List Char) : Option Nat :=
  cs.foldl (fun n c => n.bind fun n => (hexDigit? c).map (16 * n + ·)) (some 0)

/-- The first unit of a pair of units that stands for one character. -/
def isHighUnit (n : Nat) : Bool := 0xD800 ≤ n && n < 0xDC00

/-- The second unit of a pair. -/
def isLowUnit (n : Nat) : Bool := 0xDC00 ≤ n && n < 0xE000

/-- The character of a unit; the replacement character for half a pair. -/
def unitChar (n : Nat) : Char :=
  if isHighUnit n || isLowUnit n then Char.ofNat 0xFFFD else Char.ofNat n

/-- The character of a pair of units. -/
def pairChar (high low : Nat) : Char :=
  Char.ofNat (0x10000 + (high - 0xD800) * 0x400 + (low - 0xDC00))

/-- Reads the second unit of a pair, where one is escaped right here and is not the last thing in
the text. -/
def secondUnit (cs : List Char) : Except Fault (Option (Taken Nat cs)) :=
  match cs with
  | '\\' :: 'u' :: a :: b :: c :: d :: e :: rest =>
    match hexValue? [a, b, c, d] with
    | none => .error (.malformed (rest.length + 6))
    | some n => .ok (if isLowUnit n then some ⟨n, e :: rest, by simp⟩ else none)
  | _ => .ok none

/-- Reads the digits of an escaped unit, which must not be the last characters of the text. A
second unit that completes a pair belongs to the same character. -/
def escapedUnit (left : Nat) (cs : List Char) : Except Fault (Taken Char cs) :=
  match cs with
  | a :: b :: c :: d :: e :: rest =>
    match hexValue? [a, b, c, d] with
    | none => .error (.malformed left)
    | some n =>
      if isHighUnit n then
        (secondUnit (e :: rest)).map fun
          | some t => (t.map (pairChar n)).widen (by simp)
          | none => ⟨unitChar n, e :: rest, by simp⟩
      else .ok ⟨unitChar n, e :: rest, by simp⟩
  | _ => .error (.malformed left)

/-- The characters that are escaped by one letter. -/
def escapedChar? : Char → Option Char
  | '"' => some '"'
  | '\\' => some '\\'
  | '/' => some '/'
  | 'b' => some '\x08'
  | 'f' => some '\x0c'
  | 'n' => some '\n'
  | 'r' => some '\r'
  | 't' => some '\t'
  | _ => none

/-- Reads what follows a backslash; `start` characters were left where the text began. -/
def escape (start : Nat) (cs : List Char) : Except Fault (Taken Char cs) :=
  match cs with
  | [] => .error (.malformed start)
  | 'u' :: rest => (escapedUnit (rest.length + 1) rest).map (·.widen (by simp))
  | c :: rest =>
    match escapedChar? c with
    | some e => .ok ⟨e, rest, by simp⟩
    | none => .error (.malformed (rest.length + 2))

/-- Reads the characters of a text up to its closing quote. -/
def textChars (start : Nat) (before : List Char) (cs : List Char) :
    Except Fault (Taken String cs) :=
  match cs with
  | [] => .error (.malformed start)
  | '"' :: rest => .ok ⟨String.ofList before.reverse, rest, by simp⟩
  | '\\' :: rest =>
    match escape start rest with
    | .error f => .error f
    | .ok t =>
      have := t.shorter
      (textChars start (t.value :: before) t.rest).map (·.widen (by simp; omega))
  | c :: rest =>
    if c.toNat < 0x20 then .error (.malformed (rest.length + 1))
    else (textChars start (c :: before) rest).map (·.widen (by simp))
termination_by cs.length

/-! ## Numbers -/

/-- Splits off the digits after a point, the point included. -/
def takeFraction (cs : List Char) : List Char × List Char :=
  match cs with
  | '.' :: rest =>
    let digits := rest.takeWhile Char.isDigit
    if digits.isEmpty then ([], cs) else ('.' :: digits, rest.dropWhile Char.isDigit)
  | _ => ([], cs)

/-- Splits off an exponent. -/
def takeExponent (cs : List Char) : List Char × List Char :=
  match cs with
  | [] => ([], [])
  | c :: rest =>
    if c == 'e' || c == 'E' then
      let (sign, rest) := match rest with
        | '+' :: r => (['+'], r)
        | '-' :: r => (['-'], r)
        | r => ([], r)
      let digits := rest.takeWhile Char.isDigit
      if digits.isEmpty then ([], cs)
      else (c :: (sign ++ digits), rest.dropWhile Char.isDigit)
    else ([], cs)

/-- Splits off the digits before a point; a leading zero stands alone. -/
def takeWhole : List Char → Option (List Char × List Char)
  | '0' :: rest => some (['0'], rest)
  | c :: rest =>
    if c.isDigit then some (c :: rest.takeWhile Char.isDigit, rest.dropWhile Char.isDigit) else none
  | [] => none

/-- A number: whole without a fraction and an exponent, binary with one. -/
def numberValue (negative : Bool) (whole fraction exponent : List Char) : Except Fault Value :=
  if fraction.isEmpty && exponent.isEmpty then
    -- The limit is one of whole numbers; the binary ones may have any number of digits.
    if maxDigits < whole.length then .error .oversized
    else
      let n : Int := digitsValue whole
      .ok (.int (if negative then -n else n))
  else
    let x := (decimal? (whole ++ fraction ++ exponent)).getD 0
    .ok (.float (if negative then -x else x))

theorem length_takeFraction_le (cs : List Char) : (takeFraction cs).2.length ≤ cs.length := by
  unfold takeFraction
  split
  · rename_i rest
    dsimp only
    split
    · simp
    · have := length_dropWhile_le Char.isDigit rest
      simp; omega
  · simp

theorem length_takeExponent_le (cs : List Char) : (takeExponent cs).2.length ≤ cs.length := by
  unfold takeExponent
  split
  · simp
  · rename_i c rest
    split
    · split
      rename_i sign r h
      have hr : r.length ≤ rest.length := by
        split at h <;> simp_all
      dsimp only
      split
      · simp
      · have := length_dropWhile_le Char.isDigit r
        simp; omega
    · simp

theorem length_takeWhole_lt {cs : List Char} {p : List Char × List Char}
    (h : takeWhole cs = some p) : p.2.length < cs.length := by
  unfold takeWhole at h
  split at h
  · simp only [Option.some.injEq] at h
    subst h; simp
  · rename_i c rest _
    split at h
    · simp only [Option.some.injEq] at h
      have := length_dropWhile_le Char.isDigit rest
      subst h; simp; omega
    · simp at h
  · simp at h

/-- Reads a number; a minus without digits is reported where the minus stands. -/
def number (cs : List Char) : Except Fault (Taken Value cs) :=
  let negative := cs.head? == some '-'
  let digits := if negative then cs.tail else cs
  have hs : digits.length ≤ cs.length := by dsimp only [digits]; split <;> simp
  match h : takeWhole digits with
  | none => .error (.malformed cs.length)
  | some (whole, rest) =>
    let fraction := takeFraction rest
    let exponent := takeExponent fraction.2
    match numberValue negative whole fraction.1 exponent.1 with
    | .error f => .error f
    | .ok v =>
      .ok ⟨v, exponent.2, by
        have h1 := length_takeWhole_lt h
        have h2 : fraction.2.length ≤ rest.length := length_takeFraction_le rest
        have h3 : exponent.2.length ≤ fraction.2.length := length_takeExponent_le fraction.2
        dsimp only at h1
        omega⟩

/-! ## Values -/

/-- The words that stand for values. -/
def words : List (List Char × Value) :=
  [("null".toList, .null), ("true".toList, .bool true), ("false".toList, .bool false),
    ("NaN".toList, .float (0 / 0)), ("Infinity".toList, .float (1 / 0)),
    ("-Infinity".toList, .float (-1 / 0))]

/-- The characters after a word at the front. -/
def dropWord? : List Char → List Char → Option (List Char)
  | [], cs => some cs
  | w :: ws, c :: cs => if w == c then dropWord? ws cs else none
  | _ :: _, [] => none

theorem length_dropWord? {ws cs r : List Char} (h : dropWord? ws cs = some r) :
    cs.length = ws.length + r.length := by
  induction ws generalizing cs with
  | nil => simp [dropWord?] at h; simp [h]
  | cons w ws ih =>
    cases cs with
    | nil => simp [dropWord?] at h
    | cons c cs =>
      simp only [dropWord?] at h
      split at h
      · have := ih h
        simp; omega
      · simp at h

/-- Reads one of the words, or a number. -/
def wordOrNumber (cs : List Char) : List (List Char × Value) → Except Fault (Taken Value cs)
  | [] => number cs
  | (w, v) :: others =>
    match h : dropWord? w cs with
    | some rest =>
      if hw : w.length = 0 then wordOrNumber cs others
      else .ok ⟨v, rest, by have := length_dropWord? h; omega⟩
    | none => wordOrNumber cs others

mutual

/-- Reads one value. -/
def value (cs : List Char) : Except Fault (Taken Value cs) :=
  match cs with
  | '"' :: rest =>
    (textChars (rest.length + 1) [] rest).map fun t => (t.map Value.text).widen (by simp)
  | '[' :: rest =>
    have h := length_skipGap_le rest
    match hr : skipGap rest with
    | ']' :: after => .ok ⟨.list [], after, by rw [hr] at h; simp at h ⊢; omega⟩
    -- An empty list was settled above, so from here on a comma calls for an item.
    | inner =>
      (items [] inner).map fun t =>
        (t.map Value.list).widen (by rw [hr] at h; simp; omega)
  | '{' :: rest =>
    have h := length_skipGap_le rest
    match hr : skipGap rest with
    | '}' :: after => .ok ⟨.object [], after, by rw [hr] at h; simp at h ⊢; omega⟩
    | inner =>
      (members [] inner).map fun t =>
        (t.map Value.object).widen (by rw [hr] at h; simp; omega)
  | cs => wordOrNumber cs words
termination_by (cs.length, 0)
decreasing_by all_goals (simp_wf; rw [hr] at h; omega)

/-- Reads the items of a list up to its closing bracket. -/
def items (before : List Value) (cs : List Char) : Except Fault (Taken (List Value) cs) :=
  match value cs with
  | .error f => .error f
  | .ok t =>
    have ht := t.shorter
    have h := length_skipGap_le t.rest
    match hr : skipGap t.rest with
    | ']' :: after =>
      .ok ⟨(t.value :: before).reverse, after, by rw [hr] at h; simp at h; omega⟩
    | ',' :: after =>
      have ha := length_skipGap_le after
      (items (t.value :: before) (skipGap after)).map
        (·.widen (by rw [hr] at h; simp at h; omega))
    | other => .error (.malformed other.length)
termination_by (cs.length, 1)
decreasing_by
  · exact Prod.Lex.right _ (by decide)
  · rw [hr] at h; simp at h; omega

/-- Reads the fields of an object up to its closing brace. Of two fields with one name the later
gives the value. -/
def members (before : Fields) (cs : List Char) : Except Fault (Taken Fields cs) :=
  match cs with
  | '"' :: rest =>
    match textChars (rest.length + 1) [] rest with
    | .error f => .error f
    | .ok name =>
      have hn := name.shorter
      have h := length_skipGap_le name.rest
      match hr : skipGap name.rest with
      | ':' :: after =>
        have ha := length_skipGap_le after
        match value (skipGap after) with
        | .error f => .error f
        | .ok t =>
          have ht := t.shorter
          have h' := length_skipGap_le t.rest
          match hr' : skipGap t.rest with
          | '}' :: last =>
            .ok ⟨before.set name.value t.value, last, by
              rw [hr] at h; rw [hr'] at h'; simp at h h' ⊢; omega⟩
          | ',' :: next =>
            have hx := length_skipGap_le next
            (members (before.set name.value t.value) (skipGap next)).map
              (·.widen (by rw [hr] at h; rw [hr'] at h'; simp at h h' ⊢; omega))
          | other => .error (.malformed other.length)
      | other => .error (.malformed other.length)
  | other => .error (.malformed other.length)
termination_by (cs.length, 1)
decreasing_by
  · simp_wf; rw [hr] at h; simp at h; omega
  · simp_wf; rw [hr] at h; rw [hr'] at h'; simp at h h'; omega

end

/-- Why a whole text is not read. -/
inductive TextFault where
  /-- It is no JSON text, as shows at an offset. -/
  | malformed (offset : Nat)
  /-- A whole number has too many digits. -/
  | oversized
  deriving DecidableEq, Repr

/-- Reads a whole text: one value with spaces around it. -/
def read (s : String) : Except TextFault Value :=
  let cs := s.toList
  let outcome : Except Fault Value := match value (skipGap cs) with
    | .error f => .error f
    | .ok t =>
      match skipGap t.rest with
      | [] => .ok t.value
      | other => .error (.malformed other.length)
  outcome.mapError fun
    | .malformed left => .malformed (cs.length - left)
    | .oversized => .oversized

end CaseFlow.Json
