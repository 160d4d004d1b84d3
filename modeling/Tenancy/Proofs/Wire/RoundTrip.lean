import Tenancy.Proofs.Instant.Text
import Tenancy.Proofs.Json.Array
import Tenancy.Proofs.Wire.Identity
import Tenancy.Wire.Registration
import Tenancy.Wire.Report
import Tenancy.Wire.Request

/-! Whatever goes over the wire comes back from its wire form. A text that is read has one form that
it would be written in, and that form is written as it stands. -/

namespace Tenancy

open Json

/-! ## Registrations -/

namespace Wire

theorem readInstant_writeInstant (instant : Instant) (rest : List Char) :
    readInstant (writeInstant instant ++ rest) = .ok (instant, rest) := by
  rw [readInstant, readVia, writeInstant, readString_writeString]
  simp only [bind, Except.bind, String.toList_ofList, Instant.read?_write]
  rfl

theorem registration_faithful : registration.Faithful := by
  intro value rest
  let final : PartialRegistration := ⟨some value.id, some value.code, some value.name,
    some value.cluster, some value.owner, some value.createdAt, some value.updatedAt⟩
  have finished : registrationShape.finish final = some value := rfl
  refine Shape.read_writeObject ?_ finished rest
  refine .field rfl rfl (fun _ ends => readInt64_writeInteger value.id ends.endsNumber) ?_
  refine .field rfl rfl (fun _ ends => readInt64_writeInteger value.code ends.endsNumber) ?_
  refine .field rfl rfl (fun _ _ => readString_writeString value.name _) ?_
  refine .field rfl rfl (fun _ ends => readInt64_writeInteger value.cluster ends.endsNumber) ?_
  refine .field rfl rfl (fun _ ends => readInt64_writeInteger value.owner ends.endsNumber) ?_
  refine .field rfl rfl (fun _ _ => readInstant_writeInstant value.createdAt _) ?_
  refine .field rfl rfl (fun _ _ => readInstant_writeInstant value.updatedAt _) ?_
  exact .nothing

theorem page_faithful {item : Codec α} (faithful : item.Faithful)
    (starts : ∀ value, StartsItem (item.write value)) : (page item).Faithful := by
  intro value rest
  let final : PartialPage α := ⟨some value.items, some value.total, some value.number,
    some value.size⟩
  have finished : (pageShape item).finish final = some value := rfl
  refine Shape.read_writeObject ?_ finished rest
  refine .field rfl rfl (fun _ _ => Codec.list_faithful faithful starts value.items _) ?_
  refine .field rfl rfl (fun _ ends => readUInt64_writeInteger value.total ends.endsNumber) ?_
  refine .field rfl rfl (fun _ ends => readUInt32_writeInteger value.number ends.endsNumber) ?_
  refine .field rfl rfl (fun _ ends => readUInt32_writeInteger value.size ends.endsNumber) ?_
  exact .nothing

theorem registrationPage_faithful : registrationPage.Faithful :=
  page_faithful registration_faithful fun _ => startsItem_writeObject _

/-! ## Requests and reports -/

theorem placement_faithful : placement.Faithful := by
  intro value rest
  let final : PartialPlacement := ⟨some value.name, some value.cluster⟩
  have finished : placementShape.finish final = some value := rfl
  refine Shape.read_writeObject ?_ finished rest
  refine .field rfl rfl (fun _ _ => readString_writeString value.name _) ?_
  refine .field rfl rfl (fun _ ends => readInt64_writeInteger value.cluster ends.endsNumber) ?_
  exact .nothing

theorem listingQuery_faithful : listingQuery.Faithful := by
  intro value rest
  let final : PartialListingQuery := ⟨some value.search, some value.number, some value.size⟩
  have finished : listingQueryShape.finish final = some value := rfl
  refine Shape.read_writeObject ?_ finished rest
  refine .field rfl rfl (fun _ _ => readOptional_writeString value.search _) ?_
  refine .field rfl rfl (fun _ ends => readUInt32_writeInteger value.number ends.endsNumber) ?_
  refine .field rfl rfl (fun _ ends => readUInt32_writeInteger value.size ends.endsNumber) ?_
  exact .nothing

theorem subjectQuery_faithful : subjectQuery.Faithful := by
  intro value rest
  have finished : subjectQueryShape.finish ⟨some value.user⟩ = some value := rfl
  refine Shape.read_writeObject ?_ finished rest
  refine .field rfl rfl (fun _ ends => readInt64_writeInteger value.user ends.endsNumber) ?_
  exact .nothing

theorem availability_faithful : availability.Faithful := by
  intro value rest
  have finished : availabilityShape.finish ⟨some value.unique⟩ = some value := rfl
  refine Shape.read_writeObject ?_ finished rest
  refine .field rfl rfl (fun _ _ => readBool_writeBool value.unique _) ?_
  exact .nothing

/-- Details that are left out are read as none. -/
theorem report_faithful : report.Faithful := by
  intro value rest
  rcases value with ⟨status, error, message, details, timestamp⟩
  let final : PartialReport := ⟨some status, some error, some message, details.map some,
    some timestamp⟩
  have finished : reportShape.finish final = some ⟨status, error, message, details, timestamp⟩ := by
    cases details <;> rfl
  refine Shape.read_writeObject ?_ finished rest
  refine .field rfl rfl (fun _ ends => readUInt16_writeInteger status ends.endsNumber) ?_
  refine .field rfl rfl (fun _ _ => readString_writeString error _) ?_
  refine .field rfl rfl (fun _ _ => readString_writeString message _) ?_
  cases details with
  | none =>
      refine .field rfl rfl (fun _ _ => readString_writeString timestamp _) ?_
      exact .nothing
  | some text =>
      refine .field rfl rfl (fun _ _ => readOptional_writeString (some text) _) ?_
      refine .field rfl rfl (fun _ _ => readString_writeString timestamp _) ?_
      exact .nothing

end Wire

/-! ## Every wire form -/

namespace Json.Codec

/-- The form in which the value of a text would be written. -/
def normalize (codec : Codec α) (text : String) : Except Fault String :=
  (codec.decode text).map codec.encode

/-- Values come back from their texts. Other texts may stand for the same value, and each of them
leads to the one that is written, which leads to itself. -/
structure RoundTrips (codec : Codec α) : Prop where
  decode_encode : ∀ value, codec.decode (codec.encode value) = .ok value
  decode_again : ∀ text value, codec.decode text = .ok value →
    codec.decode (codec.encode value) = .ok value
  normalize_normal : ∀ text normal, codec.normalize text = .ok normal →
    codec.normalize normal = .ok normal

theorem Faithful.roundTrips {codec : Codec α} (faithful : codec.Faithful) : codec.RoundTrips := by
  constructor
  · exact decode_encode faithful
  · intro text value _
    exact decode_encode faithful value
  · intro text normal normalized
    cases decoded : codec.decode text with
    | error fault =>
        rw [normalize, decoded] at normalized
        cases normalized
    | ok value =>
        rw [normalize, decoded] at normalized
        cases normalized
        rw [normalize, decode_encode faithful value]
        rfl

end Json.Codec

open Wire in
theorem wire_forms_round_trip :
    registration.RoundTrips ∧ registrationPage.RoundTrips ∧ placement.RoundTrips ∧
      listingQuery.RoundTrips ∧ subjectQuery.RoundTrips ∧ availability.RoundTrips ∧
      principal.RoundTrips ∧ role.RoundTrips ∧ claims.RoundTrips ∧ report.RoundTrips :=
  ⟨registration_faithful.roundTrips, registrationPage_faithful.roundTrips,
    placement_faithful.roundTrips, listingQuery_faithful.roundTrips,
    subjectQuery_faithful.roundTrips, availability_faithful.roundTrips,
    principal_faithful.roundTrips, role_faithful.roundTrips, claims_faithful.roundTrips,
    report_faithful.roundTrips⟩

end Tenancy
