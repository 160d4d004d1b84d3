import Tenancy.Json.Codec

/-! What callers send: the name and cluster of a namespace, and the queries of the listings. The
answer to whether a name is free is here as well. -/

namespace Tenancy

/-- A name on a cluster, to be registered or verified. -/
structure Placement where
  name : String
  cluster : Int64
  deriving DecidableEq, Repr

structure ListingQuery where
  search : Option String
  number : UInt32
  size : UInt32
  deriving DecidableEq, Repr

/-- The user whose namespaces an admin asks about. -/
structure SubjectQuery where
  user : Int64
  deriving DecidableEq, Repr

structure Availability where
  unique : Bool
  deriving DecidableEq, Repr

namespace Wire

open Tenancy.Json

structure PartialPlacement where
  name : Option String
  cluster : Option Int64

def placementShape : Shape PartialPlacement Placement where
  blank := ⟨none, none⟩
  fields := [
    .of "namespace" (·.name) (fun state value => { state with name := some value }) readString,
    .of "clusterCode" (·.cluster) (fun state value => { state with cluster := some value })
      readInt64]
  finish state := do some ⟨← state.name, ← state.cluster⟩

def placement : Codec Placement where
  write value := writeObject [
    ("namespace", writeString value.name),
    ("clusterCode", writeInteger value.cluster.toInt)]
  read := placementShape.read

/-- The search term may be missing, which is the same as null. -/
structure PartialListingQuery where
  search : Option (Option String)
  number : Option UInt32
  size : Option UInt32

def listingQueryShape : Shape PartialListingQuery ListingQuery where
  blank := ⟨none, none, none⟩
  fields := [
    .of "searchVal" (·.search) (fun state value => { state with search := some value })
      (readOptional readString),
    .of "pageNo" (·.number) (fun state value => { state with number := some value }) readUInt32,
    .of "pageSize" (·.size) (fun state value => { state with size := some value }) readUInt32]
  finish state := do some ⟨state.search.getD none, ← state.number, ← state.size⟩

def listingQuery : Codec ListingQuery where
  write value := writeObject [
    ("searchVal", writeOptional writeString value.search),
    ("pageNo", writeInteger value.number.toNat),
    ("pageSize", writeInteger value.size.toNat)]
  read := listingQueryShape.read

structure PartialSubjectQuery where
  user : Option Int64

def subjectQueryShape : Shape PartialSubjectQuery SubjectQuery where
  blank := ⟨none⟩
  fields := [
    .of "userId" (·.user) (fun state value => { state with user := some value }) readInt64]
  finish state := do some ⟨← state.user⟩

def subjectQuery : Codec SubjectQuery where
  write value := writeObject [("userId", writeInteger value.user.toInt)]
  read := subjectQueryShape.read

structure PartialAvailability where
  unique : Option Bool

def availabilityShape : Shape PartialAvailability Availability where
  blank := ⟨none⟩
  fields := [
    .of "unique" (·.unique) (fun state value => { state with unique := some value }) readBool]
  finish state := do some ⟨← state.unique⟩

def availability : Codec Availability where
  write value := writeObject [("unique", writeBool value.unique)]
  read := availabilityShape.read

end Wire

end Tenancy
