import CaseFlow.Text.Quoted

/-!
# New ids

New ids are made from a sequence of random texts, each of which is drawn once. An id takes the
head of a drawn text behind a word; where the id has to be new to a set, texts are drawn until one
gives an id outside of it.
-/

namespace CaseFlow

/-- A sequence of random texts and how many of them were drawn. -/
structure IdSource where
  /-- The texts, in the order in which they are drawn. -/
  texts : Nat → String
  /-- How many were drawn. -/
  drawn : Nat := 0

namespace IdSource

/-- A text from the hexadecimal digits of a number, eight at least, and zeros up to 32 digits. -/
def counterText (n : Nat) : String :=
  let digits := Nat.toDigits 16 n
  let head := List.replicate (8 - digits.length) '0' ++ digits
  String.ofList (head ++ List.replicate (32 - head.length) '0')

/-- The sequence that counts from one. -/
def counter : IdSource := { texts := fun n => counterText (n + 1) }

instance : Inhabited IdSource := ⟨counter⟩

/-- The first `size` characters of the text to be drawn next but `k`. -/
def head (s : IdSource) (size k : Nat) : String :=
  String.ofList ((s.texts (s.drawn + k)).toList.take size)

/-- The source after drawing `k` texts. -/
def skip (s : IdSource) (k : Nat) : IdSource := { s with drawn := s.drawn + k }

/-- Draws one id, whatever ids are in use. -/
def draw (s : IdSource) (kind : String) (size : Nat) : String × IdSource :=
  (s!"{kind}-{s.head size 0}", s.skip 1)

/-- How many of the next texts give ids in use, up to a bound. -/
def misses (s : IdSource) (kind : String) (taken : List String) : Nat → Nat → Nat
  | 0, k => k
  | bound + 1, k =>
    if taken.contains s!"{kind}-{s.head 8 k}" then misses s kind taken bound (k + 1) else k

/-- Draws an id that is not in use. Among one more texts with distinct heads than there are ids in
use, one has to give such an id, so the search is bounded. -/
def drawNew (s : IdSource) (kind : String) (taken : List String) : String × IdSource :=
  let k := s.misses kind taken taken.length 0
  (s!"{kind}-{s.head 8 k}", s.skip (k + 1))

end IdSource

end CaseFlow
