import CaseFlow.Seed.Demo
import CaseFlow.Service.Basic
import CaseFlow.Text.Lowercase

/-!
# The user directory

Looks up the people who can act on cases, and changes who they are. Two users never share an email
address, whatever its case; the store compares stored addresses without regard to ASCII case.
-/

namespace CaseFlow.Directory

open CaseFlow.Text Service

/-- Adding the first users. -/
def seeding : StoreAction := ⟨.user, "seed", "seed users", "seeding users"⟩

/-- Listing users. -/
def listing : StoreAction := ⟨.user, "list", "list users", "listing users"⟩

/-- Looking up a user. -/
def resolving (id : String) : StoreAction := ⟨.user, "get", "resolve user", s!"resolving user {id}"⟩

/-- Adding a user. -/
def inviting : StoreAction := ⟨.user, "create", "store user", "inviting user"⟩

/-- Changing a user. -/
def updating : StoreAction := ⟨.user, "update", "update user", "updating user"⟩

/-- Removing a user. -/
def deleting : StoreAction := ⟨.user, "delete", "delete user", "deleting user"⟩

/-- Adds the users that are not stored yet, and tells how many there were. -/
def seed (us : List User) : Service Nat := do
  if us.isEmpty then return 0
  let s ← query seeding
  let fresh := us.filter fun u => (s.user? u.id).isNone
  if (Document.firstRepeated? [] (fresh.map (·.id))).isSome then storageFails seeding
  commit (·.addUsers fresh)
  if !fresh.isEmpty then note .directory .info s!"Seeded {fresh.length} users"
  return fresh.length

/-- All users by id. -/
def list : Service (List User) := return (← query listing).listUsers

/-- The user with an id, if there is one. -/
def resolve? (id : Option String) : Service (Option User) :=
  match id.filter (!·.isEmpty) with
  | none => return none
  | some id => return (← query (resolving id)).user? id

/-- The user with an id. -/
def find (id : Option String) : Service User := do
  match ← resolve? id with
  | some u => return u
  | none => refuse (.notFound .user id)

/-- What a value of any kind says about the id of a user. -/
inductive Naming where
  /-- An id, which a user may have. -/
  | id (id : String)
  /-- A value that is no id of anybody. -/
  | nobody
  /-- A value that the store cannot look up. -/
  | unusable
  /-- A value that cannot even be compared. -/
  | incomparable
  deriving DecidableEq, Repr

/-- What a single value says about an id. -/
def namingOf : Value → Naming
  | .text s => .id s
  | .list _ | .object _ => .incomparable
  | _ => .nobody

/-- What a value of any kind says about the id of a user: a list of just one value and an object
with just an id say what that value says. -/
def naming : Value → Naming
  | .list [v] => namingOf v
  | .object [("id", v)] => namingOf v
  | .list _ | .object _ => .unusable
  | v => namingOf v

/-- Whether a value names a user. -/
def knows (v : Value) : Service Bool := do
  let action := resolving v.shown
  let s ← query action
  match naming v with
  | .id id => return (s.user? id).isSome
  | .nobody => return false
  | .unusable => storageFails action
  | .incomparable => throw (.fault .shape)

/-- The part of an email address before the first at sign. -/
def localPart (email : String) : String := String.ofList (email.toList.takeWhile (· != '@'))

/-- The name of a user who is invited: the one given, or else the local part of the address. -/
def invitedName (email : String) (name : Option String) : String :=
  let given := trim (name.getD "")
  if given.isEmpty then localPart email else given

/-- Whether an address is taken by a user. -/
def holdsEmail (email : String) (u : User) : Bool := lowerAscii u.email == lower email

/-- Adds a user by email address. -/
def invite (email : Option String) (role : Value) (name : Option String) : Service User := do
  let email := trim (email.getD "")
  if !email.toList.contains '@' then refuse (.invalidEmail email)
  let id ← drawId "user" 8
  let fs : Fields :=
    [("id", .text id), ("name", .text (invitedName email name)), ("email", .text email),
      ("role", role), ("avatar_url", .text ("https://i.pravatar.cc/150?u=" ++ lower email))]
  let u ← settle (((User.readFields fs).toExcept User.recordName).mapError .rejected)
  let s ← query inviting
  if s.users.any (holdsEmail email) then refuse .takenEmail
  if (s.user? u.id).isSome then storageFails inviting
  commit (·.addUsers [u])
  note .directory .info s!"Invited user {u.id} as {Worded.word u.role}"
  return u

/-- The role that a value names, where it is given. -/
def roleGiven (role : Value) : Except Failure (Option Role) :=
  match role with
  | .null => .ok none
  | v =>
    match v.text?.bind Worded.ofWord? with
    | some r => .ok (some r)
    | none => .error (.fault .unknownRole)

/-- Changes the name and the role of a user, each where it is given. -/
def update (id : Option String) (name : Option String) (role : Value) : Service User := do
  if name.any blank then refuse .emptyUserName
  let s ← query updating
  match id.bind s.user? with
  | none => refuse (.notFound .user id)
  | some u =>
    let r ← settle (roleGiven role)
    let u := { u with name := (name.map trim).getD u.name, role := r.getD u.role }
    commit (·.replaceUser u)
    note .directory .info s!"Updated user {u.id}"
    return u

/-- Removes a user, and tells whether there was one. Nobody may remove themselves. -/
def remove (id actingUser : Option String) : Service Bool := do
  if actingUser.isSome && actingUser == id then refuse (.selfDeletion (id.getD ""))
  let s ← query deleting
  match id.bind s.user? with
  | none =>
    note .directory .warning s!"User with ID '{Error.idText id}' not found for deletion"
    return false
  | some u =>
    commit (·.removeUser u.id)
    note .directory .info s!"Deleted user {u.id}"
    return true

/-- The acting user, if they are an admin. -/
def requireAdmin (id : Option String) : Service User := do
  match ← resolve? id with
  | some u => if u.role == .admin then return u else refuse (.adminOnly id)
  | none => refuse (.adminOnly id)

end CaseFlow.Directory
