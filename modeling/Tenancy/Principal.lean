/-! Who asks: a user with a role. -/

namespace Tenancy

/-- An admin sees and manages every namespace; a general user sees those owned or granted. -/
inductive Role where
  | admin
  | general
  deriving DecidableEq, Repr, Inhabited

namespace Role

def name : Role → String
  | .admin => "admin"
  | .general => "general"

/-- Roles are recognised whatever the case of their ASCII letters, and an unknown one counts as
general. -/
def parse (text : String) : Role :=
  let lowered := String.ofList (text.toList.map Char.toLower)
  if lowered = "admin" ∨ lowered = "administrator" then .admin else .general

/-- The role of a user for whom none is recorded. -/
def fallback : Role := .general

def ofName? (text : String) : Option Role :=
  if text = Role.admin.name then some .admin
  else if text = Role.general.name then some .general
  else none

theorem ofName?_name (role : Role) : ofName? role.name = some role := by
  cases role <;> decide

theorem parse_name (role : Role) : parse role.name = role := by
  cases role <;> decide

end Role

structure Principal where
  id : Int64
  username : String
  role : Role
  deriving DecidableEq, Repr, Inhabited

namespace Principal

def isAdmin (principal : Principal) : Bool :=
  principal.role == .admin

end Principal

end Tenancy
