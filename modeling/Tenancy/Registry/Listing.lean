import Tenancy.Procedure
import Tenancy.Registry.Access
import Tenancy.Text.Blank
import Tenancy.Text.Lowercase
import Tenancy.Validation

/-! The listings: all registrations split by permission, those a user may choose from, and pages of
those a user may see. Grants are looked up for general users only, since an admin needs none. -/

namespace Tenancy.Registry

open Tenancy.Text

/-! ## Orders

By time of registration, and by id among registrations of one instant. -/

def earlier (left right : Registration) : Bool :=
  ((left.createdAt.compare right.createdAt).then (compare left.id right.id)).isLE

def oldestFirst (registrations : List Registration) : List Registration :=
  registrations.mergeSort earlier

def newestFirst (registrations : List Registration) : List Registration :=
  registrations.mergeSort fun left right => earlier right left

def inIdOrder (registrations : List Registration) : List Registration :=
  registrations.mergeSort fun left right => (compare left.id right.id).isLE

/-! ## What a user may see -/

def withGrants (user : Principal) (next : List Int64 → Attempt α) : Attempt α :=
  if user.isAdmin then next []
  else
    .ask (.grantsOf user.id) fun
      | .error error => .fail error.toRegistry
      | .ok grants => next grants

def withAll (next : List Registration → Attempt α) : Attempt α :=
  .ask .listAll fun
    | .error error => .fail error.toRegistry
    | .ok registrations => next registrations

def partition (user : Principal) : Attempt Partition :=
  withAll fun registrations =>
    withGrants user fun grants =>
      .succeed (.of user grants (inIdOrder registrations))

def withVisible (user : Principal) (next : List Registration → Attempt α) : Attempt α :=
  withAll fun registrations =>
    withGrants user fun grants =>
      next (registrations.filter (isAuthorized user · grants))

/-! ## Questions about another user

Only an admin may ask, and that is checked before the user is looked up. -/

def mayNotAsk (caller : Principal) : RegistryError :=
  .forbidden ("User " ++ caller.username ++ " may not query other users' namespace grants")

def unknownUser (user : Int64) : RegistryError :=
  .notFound ("User " ++ decimal user.toInt ++ " not found")

def withSubject (caller : Principal) (user : Int64) (next : Principal → Attempt α) : Attempt α :=
  if caller.isAdmin then
    .ask (.findUser user) fun
      | .error error => .fail error.toRegistry
      | .ok none => .fail (unknownUser user)
      | .ok (some subject) => next subject
  else .fail (mayNotAsk caller)

def authorizedFor (caller : Principal) (user : Int64) : Attempt (List Registration) :=
  withSubject caller user fun subject =>
    (partition subject).map (Except.map Partition.authorized)

def unauthorizedFor (caller : Principal) (user : Int64) : Attempt (List Registration) :=
  withSubject caller user fun subject =>
    (partition subject).map (Except.map Partition.unauthorized)

/-! ## Choosing a namespace -/

/-- The first registration of each name and cluster, leaving out the pairs already seen. -/
def firstPerPair (seen : List (String × Int64)) : List Registration → List Registration
  | [] => []
  | registration :: rest =>
      if registration.pair ∈ seen then firstPerPair seen rest
      else registration :: firstPerPair (registration.pair :: seen) rest

def available (user : Principal) : Attempt (List Registration) :=
  withVisible user fun visible => .succeed (firstPerPair [] (oldestFirst visible))

/-! ## Pages -/

/-- A search term counts without the white space around it, and a blank one does not count. -/
def matching (search : Option String) (registrations : List Registration) : List Registration :=
  match search with
  | none => registrations
  | some term =>
      match trim term.toList with
      | [] => registrations
      | needle =>
          registrations.filter fun registration =>
            occursIn (lowercase needle) (lowercase registration.name.toList)

def page (number size : UInt32) (registrations : List Registration) : Page Registration where
  items := (registrations.drop ((number.toNat - 1) * size.toNat)).take size.toNat
  total := .ofNat registrations.length
  number := number
  size := size

/-- The limit on page sizes where none is set. -/
def defaultPageLimit : UInt32 := 1000

def pagedList (limit : UInt32) (user : Principal) (search : Option String) (number size : UInt32) :
    Attempt (Page Registration) :=
  match checkPage number size limit with
  | .error fault => .fail fault.toRegistry
  | .ok () =>
      withVisible user fun visible =>
        .succeed (page number size (newestFirst (matching search visible)))

end Tenancy.Registry
