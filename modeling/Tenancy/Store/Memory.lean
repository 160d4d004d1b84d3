import Tenancy.World

/-! A store that keeps everything in lists. Registrations stand in the order of their ids, and an id
is given once only, so a grant or a mark left behind by a deleted registration never meets a later
one. -/

namespace Tenancy

structure Memory where
  /-- The last id given; zero before any was. -/
  lastId : Int64
  rows : List Registration
  /-- User and namespace ids, each pair once. -/
  grants : List (Int64 × Int64)
  users : List Principal
  active : List Int64
  deriving DecidableEq

/-! Sets as lists without repetition. -/

def insertNew [DecidableEq α] (value : α) (values : List α) : List α :=
  if value ∈ values then values else values ++ [value]

def remove [DecidableEq α] (value : α) (values : List α) : List α :=
  values.filter (· ≠ value)

/-- The id after the last one given, while there is one. -/
def nextId? (last : Int64) : Option Int64 :=
  if last = Int64.maxValue then none else some (last + 1)

namespace Memory

def empty : Memory := ⟨0, [], [], [], []⟩

instance : Inhabited Memory := ⟨empty⟩

def findByPair (memory : Memory) (name : String) (cluster : Int64) : Option Registration :=
  memory.rows.find? (·.isFor name cluster)

def findById (memory : Memory) (id : Int64) : Option Registration :=
  memory.rows.find? (·.id == id)

def insert (memory : Memory) (draft : Draft) : Except StoreError Registration × Memory :=
  if memory.rows.any (·.isFor draft.name draft.cluster) then
    (.error (.conflict (draft.name ++ " on cluster " ++ Text.decimal draft.cluster.toInt)), memory)
  else
    match nextId? memory.lastId with
    -- Counting on stops the call before anything has changed, and its caller gets no record.
    | none => (.error (.backend "attempt to add with overflow"), memory)
    | some id =>
        let record := draft.enter id
        (.ok record, { memory with lastId := id, rows := memory.rows ++ [record] })

def delete (memory : Memory) (id : Int64) : Except StoreError Unit × Memory :=
  if memory.rows.any (·.id == id) then
    (.ok (), { memory with rows := memory.rows.filter (·.id != id) })
  else (.error (.notFound id), memory)

def grantsOf (memory : Memory) (user : Int64) : List Int64 :=
  memory.grants.filterMap fun grant => if grant.1 = user then some grant.2 else none

def grant (memory : Memory) (user id : Int64) : Memory :=
  { memory with grants := insertNew (user, id) memory.grants }

def revoke (memory : Memory) (user id : Int64) : Memory :=
  { memory with grants := remove (user, id) memory.grants }

def findUser (memory : Memory) (id : Int64) : Option Principal :=
  memory.users.find? (·.id == id)

/-- A user added again replaces the earlier one with that id. -/
def addUser (memory : Memory) (user : Principal) : Memory :=
  { memory with users := memory.users.filter (·.id != user.id) ++ [user] }

def hasActive (memory : Memory) (id : Int64) : Bool :=
  memory.active.contains id

def markActive (memory : Memory) (id : Int64) : Memory :=
  { memory with active := insertNew id memory.active }

def clearActive (memory : Memory) (id : Int64) : Memory :=
  { memory with active := remove id memory.active }

/-- Marks do not tell workloads apart: a namespace is in use or not. -/
instance : Store Memory where
  findByPair memory name cluster := .ok (memory.findByPair name cluster)
  findById memory id := .ok (memory.findById id)
  listAll memory := .ok memory.rows
  insert := insert
  delete := delete
  grantsOf memory user := .ok (memory.grantsOf user)
  grant memory user id := (.ok (), memory.grant user id)
  revoke memory user id := (.ok (), memory.revoke user id)
  findUser memory id := .ok (memory.findUser id)
  addUser memory user := (.ok (), memory.addUser user)
  hasActive memory id := .ok (memory.hasActive id)
  setWorkload memory id _ active :=
    (.ok (), if active then memory.markActive id else memory.clearActive id)

end Memory

end Tenancy
