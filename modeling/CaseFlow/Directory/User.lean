import CaseFlow.Reading.Checked

/-!
# Users

The people who act on cases, and their roles.
-/

namespace CaseFlow

/-- What a user may do besides working on cases. -/
inductive Role where
  /-- May change the directory of users. -/
  | admin
  /-- May work on cases. -/
  | member
  deriving DecidableEq, Repr, Inhabited

instance : Worded Role where
  all := [.admin, .member]
  word
    | .admin => "Admin"
    | .member => "Member"

/-- A person who can act on cases. -/
structure User where
  /-- The id. -/
  id : String
  /-- The name shown. -/
  name : String
  /-- The email address. -/
  email : String
  /-- The role. -/
  role : Role := .member
  /-- The address of a picture. -/
  avatarUrl : Option String := none
  deriving DecidableEq, Repr, Inhabited

namespace User

/-- Reads the fields of a user. -/
def readFields (fs : Fields) : Checked User :=
  User.mk <$> fs.require "id" Reader.text
    <*> fs.require "name" Reader.text
    <*> fs.require "email" Reader.text
    <*> fs.optional "role" Reader.choice Role.member
    <*> fs.optional "avatar_url" (Reader.nullable Reader.text) none

/-- The name under which users are refused. -/
def recordName : String := "User"

/-- Reads a user. -/
def read : Reader User := Reader.record recordName readFields

/-- A user as a value. -/
def toValue (u : User) : Value :=
  .object [("id", .text u.id), ("name", .text u.name), ("email", .text u.email),
    ("role", .text (Worded.word u.role)), ("avatar_url", .ofText? u.avatarUrl)]

end User

end CaseFlow
