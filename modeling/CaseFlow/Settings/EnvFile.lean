import CaseFlow.Text.Blank

/-!
# Files of variables

A file of variables holds one binding a line: a name, an equals sign and a value. A name may stand
after the word `export`; a value may stand between quotation marks and then go on over several
lines; what follows a number sign is a comment. A line that is none of this is skipped.

A value may refer to variables that are bound before it, as `${NAME}` or, with a value to take
where there is none, as `${NAME:-value}`.
-/

namespace CaseFlow.EnvFile

open CaseFlow.Text

/-- A name with its value, if the line gives it one. -/
structure Binding where
  /-- The name. -/
  name : String
  /-- The value as it is written, without quotation marks. -/
  value : Option String
  deriving DecidableEq, Repr, Inhabited

/-- Characters with a line feed at the end of every line. -/
def withLineFeeds : List Char → List Char
  | [] => []
  | '\r' :: '\n' :: cs => '\n' :: withLineFeeds cs
  | '\r' :: cs => '\n' :: withLineFeeds cs
  | c :: cs => c :: withLineFeeds cs

/-- A blank inside a line. -/
def isGap (c : Char) : Bool := isBlank c && c != '\n' && c != '\r'

/-! ## Quoted values -/

/-- The characters before the first mark that no backslash precedes, and those after it. -/
def untilMark (mark : Char) : List Char → Option (List Char × List Char)
  | [] => none
  | '\\' :: c :: cs =>
    -- The backslash stays; what it stands for is settled once the value is known.
    if c == mark then (untilMark mark cs).map fun p => ('\\' :: c :: p.1, p.2)
    else (untilMark mark (c :: cs)).map fun p => ('\\' :: p.1, p.2)
  | c :: cs =>
    if c == mark then some ([], cs) else (untilMark mark cs).map fun p => (c :: p.1, p.2)

/-- The characters before the last mark, and those after it. -/
def untilLastMark (mark : Char) : List Char → Option (List Char × List Char)
  | [] => none
  | c :: cs =>
    match untilLastMark mark cs with
    | some p => some (c :: p.1, p.2)
    | none => if c == mark then some ([], cs) else none

/-- What stands before the closing mark, and what follows it. Where every mark has a backslash
before it, the last one closes. -/
def quoted (mark : Char) (cs : List Char) : Option (List Char × List Char) :=
  (untilMark mark cs).or (untilLastMark mark cs)

/-- The characters that a backslash stands before in single quotation marks. -/
def singleEscape : Char → Option Char
  | '\\' => some '\\'
  | '\'' => some '\''
  | _ => none

/-- The characters that a backslash and a letter stand for in double quotation marks. -/
def doubleEscape : Char → Option Char
  | '\\' => some '\\'
  | '\'' => some '\''
  | '"' => some '"'
  | 'a' => some '\x07'
  | 'b' => some '\x08'
  | 'f' => some '\x0c'
  | 'n' => some '\n'
  | 'r' => some '\r'
  | 't' => some '\t'
  | 'v' => some '\x0b'
  | _ => none

/-- Resolves escapes; a backslash before any other character stands for itself. -/
def unescape (escapes : Char → Option Char) : List Char → List Char
  | [] => []
  | '\\' :: c :: cs =>
    match escapes c with
    | some e => e :: unescape escapes cs
    | none => '\\' :: unescape escapes (c :: cs)
  | c :: cs => c :: unescape escapes cs

/-! ## Bindings -/

/-- The characters before a comment: one begins at a number sign that follows a blank. -/
def withoutComment : List Char → List Char
  | [] => []
  | c :: '#' :: cs => if isBlank c then [] else c :: withoutComment ('#' :: cs)
  | c :: cs => c :: withoutComment cs

/-- Reads a value; none is read where a quotation mark is never closed. -/
def value? (cs : List Char) : Option (List Char × List Char) :=
  match cs with
  | '\'' :: rest => (quoted '\'' rest).map fun p => (unescape singleEscape p.1, p.2)
  | '"' :: rest => (quoted '"' rest).map fun p => (unescape doubleEscape p.1, p.2)
  | _ =>
    let line := cs.takeWhile (· != '\n')
    some (trimList isBlank (withoutComment line), cs.drop line.length)

/-- Reads a name: between single quotation marks, or up to a blank, an equals or a number sign. A
line that begins with a number sign has none. -/
def name? (cs : List Char) : Option (Option String × List Char) :=
  match cs with
  | '#' :: _ => some (none, cs)
  | '\'' :: rest =>
    let name := rest.takeWhile (· != '\'')
    match rest.drop name.length with
    | _ :: after => if name.isEmpty then none else some (some (String.ofList name), after)
    | [] => none
  | _ =>
    let name := cs.takeWhile fun c => !(c == '=' || c == '#' || isBlank c)
    if name.isEmpty then none else some (some (String.ofList name), cs.drop name.length)

/-- The characters after the word `export` and the blanks that follow it. -/
def skipExport (cs : List Char) : List Char :=
  match cs with
  | 'e' :: 'x' :: 'p' :: 'o' :: 'r' :: 't' :: c :: rest =>
    if isGap c then rest.dropWhile isGap else cs
  | _ => cs

/-- The characters after a comment, if one stands here. -/
def skipComment (cs : List Char) : List Char :=
  match cs.dropWhile isGap with
  | '#' :: rest => rest.dropWhile (· != '\n')
  | _ => cs

/-- Whether only blanks are left before the end of the line. -/
def atLineEnd (cs : List Char) : Bool :=
  match cs.dropWhile isGap with
  | [] => true
  | c :: _ => c == '\n'

/-- The characters after the end of the line. -/
def skipLine (cs : List Char) : List Char := (cs.dropWhile (· != '\n')).drop 1

/-- Reads one line that is not blank; its binding, if it has one, and the characters after it. -/
def entry (cs : List Char) : Option Binding × List Char :=
  match name? (skipExport cs) with
  | none => (none, skipLine (skipExport cs))
  | some (name, rest) =>
    let rest := rest.dropWhile isGap
    let value : Option (Option (List Char) × List Char) := match rest with
      | '=' :: after => (value? (after.dropWhile isGap)).map fun p => (some p.1, p.2)
      | _ => some (none, rest)
    match value with
    | none => (none, skipLine rest)
    | some (value, rest) =>
      -- Anything else behind a value spoils the whole line.
      let rest := skipComment rest
      if atLineEnd rest then
        (name.map fun n => { name := n, value := value.map String.ofList }, skipLine rest)
      else (none, skipLine rest)

/-- The bindings of a file, in order; at most `fuel` lines are read. -/
def entries : Nat → List Char → List Binding
  | 0, _ => []
  | fuel + 1, cs =>
    match cs.dropWhile isBlank with
    | [] => []
    | c :: rest =>
      let (binding, after) := entry (c :: rest)
      binding.toList ++ entries fuel after

/-- The bindings of a file, in order. Every line takes a character, so no line is left out. -/
def bindings (s : String) : List Binding :=
  let cs := withLineFeeds s.toList
  entries cs.length cs

/-! ## References -/

/-- A reference to a variable. -/
structure Reference where
  /-- The name of the variable. -/
  name : String
  /-- What to take where the variable has no value. -/
  default : String
  /-- How many characters the reference has. -/
  size : Nat

/-- The reference at the front, if there is one. -/
def reference? (cs : List Char) : Option Reference :=
  match cs with
  | '$' :: '\x7b' :: rest =>
    let name := rest.takeWhile fun c => c != '\x7d' && c != ':'
    match rest.drop name.length with
    | '\x7d' :: _ => some ⟨String.ofList name, "", name.length + 3⟩
    | ':' :: '-' :: after =>
      let default := after.takeWhile (· != '\x7d')
      if default.length < after.length then
        some ⟨String.ofList name, String.ofList default, name.length + default.length + 5⟩
      else none
    | _ => none
  | _ => none

/-- Characters with the values of variables in the place of references to them; the first `skip`
characters belong to a reference that has been replaced. -/
def expandFrom (lookup : String → Option String) : Nat → List Char → List Char
  | _, [] => []
  | skip + 1, _ :: cs => expandFrom lookup skip cs
  | 0, c :: cs =>
    match reference? (c :: cs) with
    | some r => ((lookup r.name).getD r.default).toList ++ expandFrom lookup (r.size - 1) cs
    | none => c :: expandFrom lookup 0 cs

/-- A text with the values of variables in the place of references to them. -/
def expand (lookup : String → Option String) (s : String) : String :=
  String.ofList (expandFrom lookup 0 s.toList)

/-- What a file says about variables: the last binding of a name counts, a name without a value has
none. A reference is looked up outside first, then among the bindings above it; a name that is
bound there without a value gives nothing. -/
def resolve (outside : String → Option String) (bs : List Binding) : List Binding :=
  bs.foldl (fun known b =>
    let lookup (name : String) : Option String :=
      (outside name).or ((known.find? (·.name == name)).map (·.value.getD ""))
    let b' := { b with value := b.value.map (expand lookup) }
    if known.any (·.name == b.name) then known.map fun k => if k.name == b.name then b' else k
    else known ++ [b']) []

end CaseFlow.EnvFile
