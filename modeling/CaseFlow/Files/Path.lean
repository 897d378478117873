import CaseFlow.Text.Quoted

/-!
# Paths of files

A path names its directories from the root, or from where one stands. Empty components and those
that are a single dot say nothing and are dropped.
-/

namespace CaseFlow

/-- A path of a file or a directory. -/
structure Path where
  /-- The root: one slash, two slashes, or nothing. -/
  root : String
  /-- The components. -/
  parts : List String
  deriving DecidableEq, Repr, Inhabited

namespace Path

/-- The root of a path: two slashes are a root of their own, any other number counts as one. -/
def rootOf (s : String) : String :=
  match (s.toList.takeWhile (· == '/')).length with
  | 0 => ""
  | 2 => "//"
  | _ => "/"

/-- The path of a text. -/
def ofText (s : String) : Path :=
  { root := rootOf s, parts := (s.splitOn "/").filter fun part => part != "" && part != "." }

/-- The directory that a path lies in; a root lies in itself. -/
def parent (p : Path) : Path := { p with parts := p.parts.dropLast }

/-- The text of a path. -/
def text (p : Path) : String :=
  if p.root.isEmpty && p.parts.isEmpty then "." else p.root ++ String.intercalate "/" p.parts

/-- Whether a path starts at a root. -/
def isAbsolute (p : Path) : Bool := !p.root.isEmpty

/-- The device that swallows what is written to it: a file, and no directory. -/
def nullDevice : Path := { root := "/", parts := ["dev", "null"] }

/-- Whether a path leads through the null device, which holds no files. -/
def isBelowNullDevice (p : Path) : Bool :=
  p.isAbsolute && nullDevice.parts.isPrefixOf p.parts &&
    nullDevice.parts.length < p.parts.length

/-- Directories that every system has. -/
def systemDirectories : List (List String) :=
  [[], ["bin"], ["dev"], ["etc"], ["home"], ["lib"], ["proc"], ["root"], ["sys"], ["tmp"], ["usr"],
    ["var"]]

/-- Whether a path cannot be a regular file, being a directory or a device or lying below one. -/
def isNoRegularFile (p : Path) : Bool :=
  if p.isAbsolute then nullDevice.parts.isPrefixOf p.parts || systemDirectories.contains p.parts
  else p.parts.isEmpty

/-- Whether a file can be made at a path, given which directories there are besides those of the
system and the one where one stands. -/
def admitsFile (directories : List Path) (p : Path) : Bool :=
  let isThere (d : Path) : Bool :=
    directories.contains d || (if d.isAbsolute then systemDirectories.contains d.parts
      else d.parts.isEmpty)
  !p.isNoRegularFile && !directories.contains p && isThere p.parent

/-- Why a directory cannot be made, if it cannot. -/
def creationFault? (p : Path) : Option String :=
  if p.isBelowNullDevice then some s!"[Errno 20] Not a directory: {Text.quote p.text}" else none

end Path

end CaseFlow
