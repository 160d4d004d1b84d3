import Tenancy.Error
import Tenancy.Registration
import Tenancy.Store.Memory

/-! The tables of the relational store, and how a statement on them fails. A table is absent until a
migration creates it. -/

namespace Tenancy

namespace Database

inductive Table where
  | ledger
  | users
  | namespaces
  | grants
  | workloads
  deriving DecidableEq, Repr

def Table.name : Table → String
  | ledger => "migrations"
  | users => "users"
  | namespaces => "k8s_namespaces"
  | grants => "namespace_grants"
  | workloads => "namespace_workload_refs"

/-- The uniqueness constraints that an insert can run into. -/
inductive UniqueKey where
  | userId
  | username
  | code
  | pair
  deriving DecidableEq, Repr

namespace UniqueKey

def columns : UniqueKey → String
  | userId => "users.id"
  | username => "users.username"
  | code => "k8s_namespaces.code"
  | pair => "k8s_namespaces.name, k8s_namespaces.cluster_code"

/-- A row that violates a key is refused with the columns of the key. -/
def violation (key : UniqueKey) : String :=
  "UNIQUE constraint failed: " ++ key.columns

/-- The result code tells a primary key from another unique key. -/
def resultCode : UniqueKey → Nat
  | userId => 1555
  | username | code | pair => 2067

end UniqueKey

inductive Failure where
  | noSuchTable (table : Table)
  | tableExists (table : Table)
  | indexExists (index : String)
  | duplicate (key : UniqueKey)
  | full
  | readOnly
  | notDatabase
  | cannotOpen
  | connectionClosed
  | noConnectionFree
  | invalidAddress (text : String)
  deriving DecidableEq, Repr

namespace Failure

def returned (code : Nat) (text : String) : String :=
  "error returned from database: (code: " ++ toString code ++ ") " ++ text

def text : Failure → String
  | noSuchTable table => returned 1 ("no such table: " ++ table.name)
  | tableExists table => returned 1 ("table " ++ table.name ++ " already exists")
  | indexExists index => returned 1 ("index " ++ index ++ " already exists")
  | duplicate key => returned key.resultCode key.violation
  | full => returned 13 "database or disk is full"
  | readOnly => returned 8 "attempt to write a readonly database"
  | notDatabase => returned 26 "file is not a database"
  | cannotOpen => returned 14 "unable to open database file"
  | connectionClosed => "attempted to acquire a connection on a closed pool"
  | noConnectionFree => "pool timed out while waiting for an open connection"
  | invalidAddress text => "error with configuration: " ++ text

/-- The error of a statement that had no other meaning than to succeed. -/
def during (failure : Failure) (context : String) : StoreError :=
  .backend (context ++ ": " ++ failure.text)

end Failure

/-! ## Rows -/

/-- The role is kept as the text it was written with. -/
structure UserRow where
  id : Int64
  username : String
  role : String
  deriving DecidableEq, Repr

/-- Times are kept in milliseconds since the epoch. -/
structure NamespaceRow where
  id : Int64
  code : Int64
  name : String
  cluster : Int64
  owner : Int64
  created : Int64
  updated : Int64
  deriving DecidableEq, Repr

structure GrantRow where
  user : Int64
  namespaceId : Int64
  deriving DecidableEq, Repr

structure WorkloadRow where
  namespaceId : Int64
  workload : String
  active : Bool
  deriving DecidableEq, Repr

/-- Rows stand in the order of their ids. The sequence is the highest id ever given, so none is given
again after its row is gone. -/
structure NamespaceTable where
  rows : List NamespaceRow
  sequence : Int64
  deriving DecidableEq, Repr

end Database

/-- The ledger lists the migrations that were recorded as done. -/
structure Database where
  ledger : Option (List String)
  users : Option (List Database.UserRow)
  namespaces : Option Database.NamespaceTable
  grants : Option (List Database.GrantRow)
  workloads : Option (List Database.WorkloadRow)
  indexes : List String
  deriving DecidableEq, Repr

namespace Database

def empty : Database := ⟨none, none, none, none, none, []⟩

instance : Inhabited Database := ⟨empty⟩

def present (table : Table) : Option α → Except Failure α
  | some rows => .ok rows
  | none => .error (.noSuchTable table)

end Database

end Tenancy
