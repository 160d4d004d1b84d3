import Tenancy.Database.Namespaces
import Tenancy.World

/-! The tables beside the namespaces: users, grants and workload references. With them the database
is a store. -/

namespace Tenancy.Database

/-- A statement that changes the database or fails with nothing changed. -/
def execute (database : Database) (context : String) (outcome : Except Failure Database) :
    Except StoreError Unit × Database :=
  match outcome with
  | .ok changed => (.ok (), changed)
  | .error failure => (.error (failure.during context), database)

def query (context : String) (outcome : Except Failure α) : Except StoreError α :=
  match outcome with
  | .ok value => .ok value
  | .error failure => .error (failure.during context)

/-! ## Users -/

def UserRow.principal (row : UserRow) : Principal :=
  ⟨row.id, row.username, Role.parse row.role⟩

/-- The id is checked before the name. -/
def userClash? (users : List UserRow) (user : Principal) : Option UniqueKey :=
  if users.any (·.id == user.id) then some .userId
  else if users.any (·.username == user.username) then some .username
  else none

def insertUser (database : Database) (user : Principal) : Except Failure Database := do
  let users ← present .users database.users
  match userClash? users user with
  | some key => throw (.duplicate key)
  | none =>
      pure { database with users := some (users ++ [⟨user.id, user.username, user.role.name⟩]) }

def addUser (database : Database) (user : Principal) : Except StoreError Unit × Database :=
  database.execute "Failed to create user" (database.insertUser user)

def findUser (database : Database) (id : Int64) : Except StoreError (Option Principal) :=
  query "Failed to query user" do
    let users ← present .users database.users
    pure ((users.find? (·.id == id)).map UserRow.principal)

def countUsers (database : Database) : Except StoreError Nat :=
  query "Failed to count users" do
    let users ← present .users database.users
    pure users.length

/-- Sets the text of a user's role, whatever it is. -/
def writeRole (database : Database) (id : Int64) (role : String) : Except Failure Database := do
  let users ← present .users database.users
  pure { database with
    users := some (users.map fun user => if user.id == id then { user with role := role } else user) }

/-! ## Grants -/

def grant (database : Database) (user id : Int64) : Except StoreError Unit × Database :=
  database.execute "Failed to grant namespace" do
    let grants ← present .grants database.grants
    pure { database with grants := some (insertNew ⟨user, id⟩ grants) }

def revoke (database : Database) (user id : Int64) : Except StoreError Unit × Database :=
  database.execute "Failed to revoke namespace" do
    let grants ← present .grants database.grants
    pure { database with grants := some (remove ⟨user, id⟩ grants) }

def grantsOf (database : Database) (user : Int64) : Except StoreError (List Int64) :=
  query "Failed to list grants" do
    let grants ← present .grants database.grants
    pure (grants.filterMap fun row => if row.user = user then some row.namespaceId else none)

/-! ## Workload references -/

/-- One row for each namespace and workload: a later setting takes the place of the earlier. -/
def setReference (rows : List WorkloadRow) (setting : WorkloadRow) : List WorkloadRow :=
  match rows with
  | [] => [setting]
  | row :: rest =>
      if row.namespaceId = setting.namespaceId ∧ row.workload = setting.workload then setting :: rest
      else row :: setReference rest setting

def setWorkload (database : Database) (id : Int64) (workload : String) (active : Bool) :
    Except StoreError Unit × Database :=
  database.execute "Failed to record workload reference" do
    let rows ← present .workloads database.workloads
    pure { database with workloads := some (setReference rows ⟨id, workload, active⟩) }

def countActive (database : Database) (id : Int64) : Except StoreError Nat :=
  query "Failed to count workload references" do
    let rows ← present .workloads database.workloads
    pure (rows.countP fun row => row.namespaceId == id && row.active)

def hasActive (database : Database) (id : Int64) : Except StoreError Bool :=
  (database.countActive id).map (0 < ·)

instance : Store Database where
  findByPair := findByPair
  findById := findById
  listAll := listAll
  insert := insert
  delete := delete
  grantsOf := grantsOf
  grant := grant
  revoke := revoke
  findUser := findUser
  addUser := addUser
  hasActive := hasActive
  setWorkload := setWorkload

end Tenancy.Database
