import Tenancy.Http.Extraction
import Tenancy.Http.Route
import Tenancy.Registry.Listing
import Tenancy.Registry.Placing
import Tenancy.Token.Bearer
import Tenancy.Wire.Registration

/-! The service: every request but the one for its health is authenticated before anything else, and
then answered by the endpoint it leads to. -/

namespace Tenancy.Http

open Tenancy.Json

structure Service where
  /-- The secret that tokens are signed with. -/
  secret : String
  pageLimit : UInt32
  tokens : Token.Reading

/-- The time of a request, and the random bits for a code it may need. -/
structure Moment where
  now : Instant
  salt : UInt16

/-! ## Authentication -/

def bearerToken? (authorization : Option String) : Option String := do
  let value ← visibleText? (← authorization)
  if "Bearer ".toList.isPrefixOf value.toList then
    some (.ofList (value.toList.drop "Bearer ".length))
  else none

def noToken : Response :=
  .unauthenticated "unauthorized" "Authentication required. Provide a Bearer token."

def badToken (message : String) : Response :=
  .unauthenticated "invalid_token" message

def authenticate (service : Service) (moment : Moment) (request : Request) :
    Except Response Principal :=
  match bearerToken? request.authorization with
  | none => .error noToken
  | some token =>
      match Token.check service.tokens service.secret token moment.now.seconds with
      | .error fault => .error (badToken ("Invalid JWT token: " ++ fault.message))
      | .ok claims =>
          match claims.principal? with
          | none => .error (badToken "Token subject is not a user id")
          | some principal => .ok principal

/-! ## Endpoints -/

/-- The response of an attempt: its value, or a report of why it failed. -/
def reporting (moment : Moment) (attempt : Attempt α) (success : α → Response) :
    Procedure Response :=
  attempt.map fun
    | .ok value => success value
    | .error error => .failure error.toApi moment.now

def extracting (extract : Extract α) (next : α → Procedure Response) : Procedure Response :=
  match extract with
  | .ok value => next value
  | .error refusal => .done refusal

def registrationsResponse (registrations : List Registration) : Response :=
  .encoded 200 Wire.registration.list registrations

def healthy : Response :=
  .json 200 (writeObject [("status", writeString "ok")])

def answer (service : Service) (moment : Moment) (caller : Principal) (request : Request) :
    Endpoint → Procedure Response
  | .health => .done healthy
  | .list =>
      extracting (listingQuery request) fun query =>
        reporting moment
          (Registry.pagedList service.pageLimit caller query.search query.number query.size)
          (.encoded 200 Wire.registrationPage)
  | .register =>
      extracting (jsonBody Wire.placement request) fun placement =>
        reporting moment
          (Registry.register caller placement.name placement.cluster (.draw moment.now moment.salt))
          (.encoded 201 Wire.registration)
  | .verify =>
      extracting (jsonBody Wire.placement request) fun placement =>
        reporting moment (Registry.verifyUnique placement.name placement.cluster)
          fun unique => .encoded 200 Wire.availability ⟨unique⟩
  | .available => reporting moment (Registry.available caller) registrationsResponse
  | .unauthorized =>
      extracting (subjectQuery request) fun query =>
        reporting moment (Registry.unauthorizedFor caller query.user) registrationsResponse
  | .authorized =>
      extracting (subjectQuery request) fun query =>
        reporting moment (Registry.authorizedFor caller query.user) registrationsResponse
  | .deregister segment =>
      extracting (segmentId segment) fun id =>
        reporting moment (Registry.deregister caller id) fun () => .empty 204

/-! ## Requests -/

def guarded (service : Service) (moment : Moment) (request : Request)
    (next : Principal → Procedure Response) : Procedure Response :=
  match authenticate service moment request with
  | .ok caller => next caller
  | .error refusal => .done refusal

def trimmedFor (method : String) (response : Response) : Response :=
  if method = "HEAD" then response.withoutBody else response

/-- A request that leads nowhere is authenticated all the same. -/
def respond (service : Service) (moment : Moment) (request : Request) : Procedure Response :=
  match destination request.method request.path with
  | .nowhere => guarded service moment request fun _ => .done (.empty 404)
  | .endpoint .health => .done (trimmedFor request.method healthy)
  | .endpoint endpoint =>
      (guarded service moment request fun caller =>
        answer service moment caller request endpoint).map (trimmedFor request.method)
  | .wrongMethod methods =>
      if Resource.ofPath? request.path = some .health then .done ((Response.empty 405).allowing methods)
      else (guarded service moment request fun _ => .done (.empty 405)).map (·.allowing methods)

end Tenancy.Http
