import CaseFlow.Json.Reader
import CaseFlow.Text.Utf8

/-!
# Targets of requests

The target of a request names a path and, after a question mark, parameters. Both may write any
byte as a percent sign with two hexadecimal digits.
-/

namespace CaseFlow.Http

open CaseFlow.Text

/-- Characters as bytes, with every percent sign before two hexadecimal digits resolved. -/
def percentBytes : List Char → List Nat
  | [] => []
  | '%' :: a :: b :: cs =>
    match Json.hexValue? [a, b] with
    | some n => n :: percentBytes cs
    | none => Utf8.encodeChar '%' ++ percentBytes (a :: b :: cs)
  | c :: cs => Utf8.encodeChar c ++ percentBytes cs

/-- A text with every percent sign before two hexadecimal digits resolved. -/
def percentDecoded (cs : List Char) : String := String.ofList (Utf8.decode (percentBytes cs))

/-- A name or a value among parameters, where a plus sign stands for a space. -/
def parameterText (cs : List Char) : String :=
  percentDecoded (cs.map fun c => if c == '+' then ' ' else c)

/-- The parameters of a query, in order. A name without a value has an empty one. -/
def parameters (query : String) : List (String × String) :=
  ((query.splitOn "&").filter (!·.isEmpty)).map fun p =>
    let cs := p.toList
    let name := cs.takeWhile (· != '=')
    (parameterText name, parameterText (cs.drop (name.length + 1)))

/-- Components of a path without single dots; two dots take back the component before them. -/
def withoutDots (parts : List String) : List String :=
  parts.foldl (fun kept part =>
    if part == "." then kept
    else if part == ".." then (if kept.isEmpty || kept == [""] then kept else kept.dropLast)
    else kept ++ [part]) []

/-- Where a request goes. -/
structure Target where
  /-- The path, resolved. -/
  path : String
  /-- The parameters. -/
  query : List (String × String) := []
  deriving DecidableEq, Repr, Inhabited

namespace Target

/-- The target of a text; a part after a number sign is not sent. -/
def ofText (s : String) : Target :=
  let cs := s.toList.takeWhile (· != '#')
  let path := cs.takeWhile (· != '?')
  let rooted := '/' :: path.dropWhile (· == '/')
  let parts := withoutDots ((String.ofList rooted).splitOn "/")
  { path := percentDecoded (String.intercalate "/" parts).toList
    query := parameters (String.ofList (cs.drop (path.length + 1))) }

/-- The components of the path. -/
def segments (t : Target) : List String := ((t.path.toList.splitOn '/').map String.ofList).drop 1

/-- The path as the log shows it: it ends where a resolved mark would begin a query. -/
def shownPath (t : Target) : String :=
  String.ofList ((t.path.toList.takeWhile fun c => c != '?' && c != '#').filter fun c =>
    c != '\t' && c != '\n' && c != '\r')

/-- The target without the slashes at the end of its path, where it has any. -/
def withoutSlash? (t : Target) : Option Target :=
  if t.path.endsWith "/" && t.path != "/" then
    some { t with path := String.ofList (t.path.toList.reverse.dropWhile (· == '/')).reverse }
  else none

/-- The last value of a parameter. -/
def parameter? (t : Target) (name : String) : Option String :=
  (t.query.reverse.find? (·.1 == name)).map (·.2)

end Target

end CaseFlow.Http
