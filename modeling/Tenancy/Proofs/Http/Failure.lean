import Tenancy.Proofs.Http.Authentication

/-! A failure of the registry is answered with the status and the code of its kind, and its cause is
told. -/

namespace Tenancy

/-- The kinds of failure, whatever the cause. -/
inductive FailureKind where
  | notFound
  | conflict
  | forbidden
  | inUse
  | externalCreateFailure
  | invalidArgument
  | store
  deriving DecidableEq

namespace FailureKind

def status : FailureKind → UInt16
  | notFound => 404
  | conflict | inUse => 409
  | forbidden => 403
  | externalCreateFailure => 502
  | invalidArgument => 400
  | store => 500

def code : FailureKind → String
  | notFound => "NOT_FOUND"
  | conflict => "CONFLICT"
  | forbidden => "FORBIDDEN"
  | inUse => "IN_USE"
  | externalCreateFailure => "EXTERNAL_CREATE_FAILED"
  | invalidArgument => "BAD_REQUEST"
  | store => "INTERNAL_ERROR"

/-- No two kinds are answered alike. -/
theorem eq_of_status_of_code {left right : FailureKind} (status : left.status = right.status)
    (code : left.code = right.code) : left = right := by
  revert status code
  cases left <;> cases right <;> decide

theorem status_ne_created (kind : FailureKind) : kind.status ≠ 201 ∧ kind.status ≠ 204 := by
  cases kind <;> decide

end FailureKind

namespace RegistryError

def kind : RegistryError → FailureKind
  | notFound _ => .notFound
  | conflict _ => .conflict
  | forbidden _ => .forbidden
  | inUse _ => .inUse
  | externalCreateFailure _ => .externalCreateFailure
  | invalidArgument _ => .invalidArgument
  | store _ => .store

end RegistryError

/-- The report of a failure. A cause inside the server or on a cluster stands in the details, where
nothing else does. -/
structure ErrorReport.Tells (report : ErrorReport) (error : RegistryError) : Prop where
  status : report.status = error.kind.status
  code : report.error = error.kind.code
  cause : if report.status = 500 ∨ report.status = 502 then report.details = some error.text
    else report.message = error.text ∧ report.details = none

theorem report_tells (error : RegistryError) (now : Instant) :
    (error.toApi.report now).Tells error := by
  cases error with
  | store text | externalCreateFailure text => exact ⟨rfl, rfl, rfl⟩
  | notFound text | conflict text | forbidden text | inUse text | invalidArgument text =>
      exact ⟨rfl, rfl, rfl, rfl⟩

namespace Http

/-- The response to a failure. HEAD is not told more than the status. -/
structure AnswersFailure (request : Request) (response : Response) (error : RegistryError) :
    Prop where
  status : response.status = error.kind.status
  type : response.contentType = some "application/json"
  body : ∃ report : ErrorReport, report.Tells error ∧
    response.body = if request.method = "HEAD" then "" else .ofList (Wire.report.write report)

variable {service : Service} {moment : Moment} {request : Request} {caller : Principal}

theorem answersFailure_reply (success : α → Response) (error : RegistryError) :
    AnswersFailure request (trimmedFor request.method (reply moment success (.error error)))
      error := by
  have tells := report_tells error moment.now
  by_cases head : request.method = "HEAD"
  · rw [trimmedFor, if_pos head]
    exact ⟨tells.status, rfl, _, tells, (if_pos head).symm⟩
  · rw [trimmedFor, if_neg head]
    exact ⟨tells.status, rfl, _, tells, (if_neg head).symm⟩

theorem answersFailure_of_asks {attempt : Attempt α} {success : α → Response}
    (tells : Tells service moment request.authorization caller)
    (asks : Asks service moment request caller attempt success) {answering : Answering ω}
    {world : ω} {error : RegistryError}
    (fails : (attempt.run answering world).1 = .error error) :
    AnswersFailure request ((respond service moment request).run answering world).1 error := by
  rw [respond_of_asks (authenticate_of_tells tells) asks, Procedure.run_map, run_reporting, fails]
  exact answersFailure_reply success error

end Http

end Tenancy
