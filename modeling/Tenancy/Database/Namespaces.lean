import Tenancy.Database.Tables
import Tenancy.Text.Lowercase

/-! The table of registered namespaces. -/

namespace Tenancy.Database

namespace NamespaceRow

def registration (row : NamespaceRow) : Registration where
  id := row.id
  code := row.code
  name := row.name
  cluster := row.cluster
  owner := row.owner
  createdAt := .ofStoredMillis row.created.toInt
  updatedAt := .ofStoredMillis row.updated.toInt

def isFor (row : NamespaceRow) (name : String) (cluster : Int64) : Bool :=
  row.name == name && row.cluster == cluster

end NamespaceRow

/-! ## Inserting

A row that clashes in both unique keys is reported for its name and cluster. -/

/-- The values of a row that gets its id when it is inserted. -/
structure NewRow where
  code : Int64
  name : String
  cluster : Int64
  owner : Int64
  created : Int64
  updated : Int64

def NewRow.ofDraft (draft : Draft) : NewRow where
  code := draft.code
  name := draft.name
  cluster := draft.cluster
  owner := draft.owner
  created := .ofInt draft.createdAt.millis
  updated := .ofInt draft.createdAt.millis

def NewRow.withId (row : NewRow) (id : Int64) : NamespaceRow :=
  ⟨id, row.code, row.name, row.cluster, row.owner, row.created, row.updated⟩

namespace NamespaceTable

def clash? (table : NamespaceTable) (row : NewRow) : Option UniqueKey :=
  if table.rows.any (·.isFor row.name row.cluster) then some .pair
  else if table.rows.any (·.code == row.code) then some .code
  else none

def insert (table : NamespaceTable) (row : NewRow) : Except Failure (NamespaceRow × NamespaceTable) :=
  match table.clash? row with
  | some key => .error (.duplicate key)
  | none =>
      match nextId? table.sequence with
      | none => .error .full
      | some id => .ok (row.withId id, ⟨table.rows ++ [row.withId id], id⟩)

/-- The number of rows removed comes with the table that is left. -/
def delete (table : NamespaceTable) (id : Int64) : Nat × NamespaceTable :=
  (table.rows.countP (·.id == id), { table with rows := table.rows.filter (·.id != id) })

end NamespaceTable

def insertRow (database : Database) (row : NewRow) : Except Failure (NamespaceRow × Database) := do
  let table ← present .namespaces database.namespaces
  let (inserted, table) ← table.insert row
  pure (inserted, { database with namespaces := some table })

def codeColumn : String := "k8s_namespaces.code"

def codeInUse (draft : Draft) : StoreError :=
  .backend ("Namespace code " ++ Text.decimal draft.code.toInt ++ " already in use")

def pairInUse (draft : Draft) : StoreError :=
  .conflict ("Namespace '" ++ draft.name ++ "' is already registered on cluster "
    ++ Text.decimal draft.cluster.toInt)

/-- A clash on the name and cluster is a conflict; one on the code is not the caller's fault. Only
the wording tells the two apart. -/
def insertError (draft : Draft) : Failure → StoreError
  | .duplicate key =>
      if Text.occursIn codeColumn.toList key.violation.toList then codeInUse draft
      else pairInUse draft
  | failure => failure.during "Failed to insert namespace"

/-- The column of the cluster begins like that of the code, and no further. -/
theorem occursIn_violation (key : UniqueKey) :
    Text.occursIn codeColumn.toList key.violation.toList = decide (key = .code) := by
  cases key <;> decide

theorem insertError_code (draft : Draft) :
    insertError draft (.duplicate .code) = codeInUse draft := by
  rw [insertError, occursIn_violation, if_pos (by decide)]

theorem insertError_pair (draft : Draft) :
    insertError draft (.duplicate .pair) = pairInUse draft := by
  rw [insertError, occursIn_violation, if_neg (by decide)]

def insert (database : Database) (draft : Draft) : Except StoreError Registration × Database :=
  match database.insertRow (.ofDraft draft) with
  | .ok (row, database) => (.ok row.registration, database)
  | .error failure => (.error (insertError draft failure), database)

/-! ## Queries -/

def queryNamespaces (database : Database) (context : String) (select : List NamespaceRow → α) :
    Except StoreError α :=
  match present .namespaces database.namespaces with
  | .ok table => .ok (select table.rows)
  | .error failure => .error (failure.during context)

def findByPair (database : Database) (name : String) (cluster : Int64) :
    Except StoreError (Option Registration) :=
  database.queryNamespaces "Failed to query namespace" fun rows =>
    (rows.find? (·.isFor name cluster)).map NamespaceRow.registration

def findById (database : Database) (id : Int64) : Except StoreError (Option Registration) :=
  database.queryNamespaces "Failed to query namespace" fun rows =>
    (rows.find? (·.id == id)).map NamespaceRow.registration

def listAll (database : Database) : Except StoreError (List Registration) :=
  database.queryNamespaces "Failed to list namespaces" fun rows =>
    rows.map NamespaceRow.registration

/-! ## Deleting

The row goes together with the grants and workload references that name it, in one transaction: the
statements act on a copy, which takes the place of the database when the transaction is committed and
is dropped otherwise. -/

inductive DeleteStage where
  | start
  | namespaces
  | grants
  | workloads
  | commit
  deriving DecidableEq, Repr

def DeleteStage.context : DeleteStage → String
  | start => "Failed to start transaction"
  | namespaces => "Failed to delete namespace"
  | grants => "Failed to delete namespace grants"
  | workloads => "Failed to delete workload references"
  | commit => "Failed to commit namespace delete"

/-- Where the transaction is made to fail, if anywhere, and how. -/
abbrev Disturbance := DeleteStage → Option Failure

def undisturbed : Disturbance := fun _ => none

/-- The outcome of one stage, unless it is disturbed. -/
def atStage (disturbance : Disturbance) (stage : DeleteStage) (outcome : Except Failure α) :
    Except StoreError α :=
  match disturbance stage with
  | some failure => .error (failure.during stage.context)
  | none =>
      match outcome with
      | .ok value => .ok value
      | .error failure => .error (failure.during stage.context)

def deleteRow (database : Database) (id : Int64) : Except Failure (Nat × Database) := do
  let table ← present .namespaces database.namespaces
  let (removed, table) := table.delete id
  pure (removed, { database with namespaces := some table })

def deleteGrants (database : Database) (id : Int64) : Except Failure Database := do
  let grants ← present .grants database.grants
  pure { database with grants := some (grants.filter (·.namespaceId != id)) }

def deleteWorkloads (database : Database) (id : Int64) : Except Failure Database := do
  let workloads ← present .workloads database.workloads
  pure { database with workloads := some (workloads.filter (·.namespaceId != id)) }

/-- The database as the transaction would leave it. -/
def deleteInside (disturbance : Disturbance) (database : Database) (id : Int64) :
    Except StoreError Database := do
  atStage disturbance .start (.ok ())
  let (removed, working) ← atStage disturbance .namespaces (database.deleteRow id)
  if removed = 0 then throw (.notFound id)
  let working ← atStage disturbance .grants (working.deleteGrants id)
  let working ← atStage disturbance .workloads (working.deleteWorkloads id)
  atStage disturbance .commit (.ok working)

def deleteDisturbed (disturbance : Disturbance) (database : Database) (id : Int64) :
    Except StoreError Unit × Database :=
  match deleteInside disturbance database id with
  | .ok committed => (.ok (), committed)
  | .error error => (.error error, database)

def delete (database : Database) (id : Int64) : Except StoreError Unit × Database :=
  deleteDisturbed undisturbed database id

end Tenancy.Database
