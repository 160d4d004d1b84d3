import Tenancy.Error
import Tenancy.Json.Codec
import Tenancy.Registration

/-! The wire forms of registrations and of pages of them. -/

namespace Tenancy.Wire

open Tenancy.Json

def writeInstant (instant : Instant) : List Char :=
  writeString (.ofList instant.write)

def readInstant : Reader Instant :=
  readVia fun text => Instant.read? text.toList

/-- A registration of which only some fields have been read. -/
structure PartialRegistration where
  id : Option Int64
  code : Option Int64
  name : Option String
  cluster : Option Int64
  owner : Option Int64
  createdAt : Option Instant
  updatedAt : Option Instant

namespace PartialRegistration

def blank : PartialRegistration := ⟨none, none, none, none, none, none, none⟩

def finish (state : PartialRegistration) : Option Registration := do
  some ⟨← state.id, ← state.code, ← state.name, ← state.cluster, ← state.owner,
    ← state.createdAt, ← state.updatedAt⟩

end PartialRegistration

def registrationShape : Shape PartialRegistration Registration where
  blank := .blank
  fields := [
    .of "id" (·.id) (fun state value => { state with id := some value }) readInt64,
    .of "code" (·.code) (fun state value => { state with code := some value }) readInt64,
    .of "namespace" (·.name) (fun state value => { state with name := some value }) readString,
    .of "clusterCode" (·.cluster) (fun state value => { state with cluster := some value })
      readInt64,
    .of "ownerId" (·.owner) (fun state value => { state with owner := some value }) readInt64,
    .of "createdAt" (·.createdAt) (fun state value => { state with createdAt := some value })
      readInstant,
    .of "updatedAt" (·.updatedAt) (fun state value => { state with updatedAt := some value })
      readInstant]
  finish := PartialRegistration.finish

def registration : Codec Registration where
  write value := writeObject [
    ("id", writeInteger value.id.toInt),
    ("code", writeInteger value.code.toInt),
    ("namespace", writeString value.name),
    ("clusterCode", writeInteger value.cluster.toInt),
    ("ownerId", writeInteger value.owner.toInt),
    ("createdAt", writeInstant value.createdAt),
    ("updatedAt", writeInstant value.updatedAt)]
  read := registrationShape.read

/-! ## Pages -/

structure PartialPage (α : Type) where
  items : Option (List α)
  total : Option UInt64
  number : Option UInt32
  size : Option UInt32

namespace PartialPage

def blank : PartialPage α := ⟨none, none, none, none⟩

def finish (state : PartialPage α) : Option (Page α) := do
  some ⟨← state.items, ← state.total, ← state.number, ← state.size⟩

end PartialPage

def pageShape (item : Codec α) : Shape (PartialPage α) (Page α) where
  blank := .blank
  fields := [
    .of "items" (·.items) (fun state value => { state with items := some value })
      (readArray item.read),
    .of "total" (·.total) (fun state value => { state with total := some value }) readUInt64,
    .of "pageNo" (·.number) (fun state value => { state with number := some value }) readUInt32,
    .of "pageSize" (·.size) (fun state value => { state with size := some value }) readUInt32]
  finish := PartialPage.finish

def page (item : Codec α) : Codec (Page α) where
  write value := writeObject [
    ("items", writeArray (value.items.map item.write)),
    ("total", writeInteger value.total.toNat),
    ("pageNo", writeInteger value.number.toNat),
    ("pageSize", writeInteger value.size.toNat)]
  read := (pageShape item).read

def registrationPage : Codec (Page Registration) := page registration

end Tenancy.Wire
