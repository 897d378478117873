import CaseFlow.Text.Digit

/-!
# Options of the installer

The installer is told by options which file of variables to read, whether to drop what is there,
and whether to leave the database empty. A long option may be cut short as long as it is still
told from the others, and its value may follow an equals sign. Anything else on the command line
is a mistake.
-/

namespace CaseFlow.Install

open CaseFlow.Text

/-- What the installer is told to do. -/
structure Options where
  /-- The file of variables to read. -/
  envFile : Option String := none
  /-- Whether to drop the tables first. -/
  reset : Bool := false
  /-- Whether to fill the store. -/
  seed : Bool := true
  deriving DecidableEq, Repr, Inhabited

/-- The long options. -/
inductive Flag where
  /-- Explains the options. -/
  | help
  /-- Names a file of variables. -/
  | envFile
  /-- Drops the tables first. -/
  | reset
  /-- Leaves the store empty. -/
  | noSeed
  deriving DecidableEq, Repr

namespace Flag

/-- All long options. -/
def all : List Flag := [.help, .envFile, .reset, .noSeed]

/-- The word of a long option. -/
def word : Flag → String
  | .help => "--help"
  | .envFile => "--env-file"
  | .reset => "--reset"
  | .noSeed => "--no-seed"

/-- The long options that begin with a text. -/
def matching (s : String) : List Flag := all.filter fun f => f.word.startsWith s

end Flag

/-- What an argument is. -/
inductive Argument where
  /-- A value. -/
  | plain
  /-- A long option, with a value where one follows an equals sign. -/
  | flag (f : Flag) (value : Option String)
  /-- The short option that explains the options, and the letters after it. -/
  | shortHelp (tail : List Char)
  /-- The beginning of several options. -/
  | ambiguous
  /-- No known option. -/
  | unknown
  deriving DecidableEq, Repr

/-- Whether a text is a negative number: digits after a minus sign, with a point before the last
of them at most. -/
def isNegativeNumber (s : String) : Bool :=
  match s.toList with
  | '-' :: cs =>
    let isDigit (c : Char) := (asciiDigit c).isDigit
    let rest := cs.dropWhile isDigit
    match rest with
    | [] => !cs.isEmpty
    | '.' :: fraction => !fraction.isEmpty && fraction.all isDigit
    | _ => false
  | _ => false

/-- The argument of a text that begins with two dashes and is no option as it stands. -/
def shortened (s : String) : Argument :=
  let cs := s.toList
  let name := cs.takeWhile (· != '=')
  let value := if name.length < cs.length then some (String.ofList (cs.drop (name.length + 1)))
    else none
  match Flag.matching (String.ofList name) with
  | [f] => .flag f value
  | [] => if cs.contains ' ' then .plain else .unknown
  | _ => .ambiguous

/-- What a text on the command line is. -/
def Argument.ofText (s : String) : Argument :=
  match s.toList with
  | [] | ['-'] => .plain
  | '-' :: '-' :: _ =>
    match Flag.all.find? (·.word == s) with
    | some f => .flag f none
    | none => shortened s
  | '-' :: 'h' :: tail => .shortHelp tail
  | '-' :: cs => if isNegativeNumber s || cs.contains ' ' then .plain else .unknown
  | _ => .plain

/-- Whether letters after the short option for help can follow it. -/
def helpTail : List Char → Bool
  | 'h' :: cs => helpTail cs
  | '=' :: _ | '-' :: _ => false
  | _ => true

/-- What a command line asks for. -/
inductive Usage where
  /-- To explain the options. -/
  | help
  /-- Nothing that makes sense. -/
  | mistake
  /-- To install. -/
  | run (o : Options)
  deriving DecidableEq, Repr

/-- Reads arguments from left to right; `stray` tells whether one of them already had no place. -/
def readFrom (o : Options) (stray : Bool) : List String → Usage
  | [] => if stray then .mistake else .run o
  | "--" :: _ => .mistake
  | a :: rest =>
    match Argument.ofText a with
    | .plain | .unknown => readFrom o true rest
    | .ambiguous => .mistake
    | .shortHelp tail => if helpTail tail then .help else .mistake
    | .flag .help none => .help
    | .flag .reset none => readFrom { o with reset := true } stray rest
    | .flag .noSeed none => readFrom { o with seed := false } stray rest
    | .flag .envFile (some file) => readFrom { o with envFile := some file } stray rest
    | .flag .envFile none =>
      match rest with
      | [] => .mistake
      | file :: rest =>
        if file != "--" && Argument.ofText file == .plain then
          readFrom { o with envFile := some file } stray rest
        else .mistake
    | .flag _ (some _) => .mistake

/-- What a command line asks for. An argument that could be several options spoils all of it. -/
def Usage.read (arguments : List String) : Usage :=
  if (arguments.takeWhile (· != "--")).any (Argument.ofText · == .ambiguous) then .mistake
  else readFrom {} false arguments

end CaseFlow.Install
