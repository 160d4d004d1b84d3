import Tenancy.Gateway.Clusters
import Tenancy.Http.Service
import Tenancy.Proofs.Http.Route
import Tenancy.Proofs.Token.Lifetime
import Tenancy.Store.Memory

/-! Nothing is done for a request that does not tell who asks, and what is done for any other is
done for the principal its token tells of. -/

namespace Tenancy.Http

open Tenancy.Json

/-! ## Credentials -/

/-- A character that can stand in the text of a header. -/
def IsLegible (character : Char) : Prop :=
  (' ' ≤ character ∧ character ≤ '~') ∨ character = '\t'

def isPlain (character : Char) : Bool :=
  0x20 ≤ character.toNat && character.toNat ≤ 0x7E

theorem isLegible_of_isPlain {character : Char} (plain : isPlain character = true) :
    IsLegible character := by
  rw [isPlain, Bool.and_eq_true, decide_eq_true_eq, decide_eq_true_eq] at plain
  exact .inl ⟨UInt32.le_iff_toNat_le.mpr plain.1, UInt32.le_iff_toNat_le.mpr plain.2⟩

/-- The header presents a token. -/
structure Carries (authorization : Option String) (token : String) : Prop where
  given : authorization = some ("Bearer " ++ token)
  legible : ∀ character ∈ token.toList, IsLegible character

/-- Why a header tells nobody, with the error that is reported. -/
inductive Rejected (service : Service) (moment : Moment) (authorization : Option String) :
    String → Prop
  | absent (none : authorization = none) : Rejected service moment authorization "unauthorized"
  | illegible {value : String} {character : Char} (given : authorization = some value)
      (member : character ∈ value.toList) (odd : ¬IsLegible character) :
      Rejected service moment authorization "unauthorized"
  | otherScheme {value : String} (given : authorization = some value)
      (other : ¬"Bearer ".toList <+: value.toList) :
      Rejected service moment authorization "unauthorized"
  | refused {token : String} {fault : Token.Fault} (carries : Carries authorization token)
      (refused : Token.check service.tokens service.secret token moment.now.seconds = .error fault) :
      Rejected service moment authorization "invalid_token"
  | nobody {token : String} {claims : Claims} {fault : Text.DecimalFault}
      (carries : Carries authorization token)
      (valid : Token.check service.tokens service.secret token moment.now.seconds = .ok claims)
      (unread : Text.readInt64 claims.subject = .error fault) :
      Rejected service moment authorization "invalid_token"

/-- The header tells of this principal. -/
inductive Tells (service : Service) (moment : Moment) (authorization : Option String) :
    Principal → Prop
  | of {token : String} {claims : Claims} {id : Int64} (carries : Carries authorization token)
      (valid : Token.check service.tokens service.secret token moment.now.seconds = .ok claims)
      (subject : Text.readInt64 claims.subject = .ok id) :
      Tells service moment authorization ⟨id, claims.username, Role.parse claims.role⟩

theorem visibleText?_of_legible {value : String}
    (legible : ∀ character ∈ value.toList, IsLegible character) :
    visibleText? value = some value := by
  apply if_pos
  rw [List.all_eq_true]
  intro character member
  simpa [IsLegible] using legible character member

theorem visibleText?_of_illegible {value : String} {character : Char}
    (member : character ∈ value.toList) (odd : ¬IsLegible character) :
    visibleText? value = none := by
  apply if_neg
  rw [List.all_eq_true]
  intro all
  exact odd (by simpa [IsLegible] using all character member)

theorem bearerToken?_of_carries {authorization : Option String} {token : String}
    (carries : Carries authorization token) : bearerToken? authorization = some token := by
  have legible : ∀ character ∈ ("Bearer " ++ token).toList, IsLegible character := by
    intro character member
    rw [String.toList_append, List.mem_append] at member
    rcases member with scheme | member
    · have plain : "Bearer ".toList.all isPlain = true := by decide
      exact isLegible_of_isPlain (List.all_eq_true.mp plain character scheme)
    · exact carries.legible character member
  have scheme : "Bearer ".toList.isPrefixOf ("Bearer " ++ token).toList = true := by
    rw [String.toList_append, List.isPrefixOf_iff_prefix]
    exact List.prefix_append _ _
  have rest : ("Bearer " ++ token).toList.drop "Bearer ".length = token.toList := by
    rw [String.toList_append]
    exact List.drop_left
  simp only [bearerToken?, carries.given, visibleText?_of_legible legible, scheme, rest,
    Option.bind_eq_bind, Option.bind_some, if_true, String.ofList_toList]

theorem carries_of_legible {value : String}
    (legible : ∀ character ∈ value.toList, IsLegible character)
    (scheme : "Bearer ".toList <+: value.toList) : ∃ token, Carries (some value) token := by
  rcases scheme with ⟨rest, split⟩
  refine ⟨.ofList rest, ?_, ?_⟩
  · have same : value = "Bearer " ++ .ofList rest := by
      rw [← String.toList_inj, String.toList_append, ← split]
      exact congrArg ("Bearer ".toList ++ ·) String.toList_ofList.symm
    rw [same]
  · intro character member
    rw [String.toList_ofList] at member
    exact legible character (split ▸ List.mem_append_right _ member)

section

variable {service : Service} {moment : Moment} {request : Request}

theorem authenticate_of_rejected {error : String}
    (rejected : Rejected service moment request.authorization error) :
    ∃ message, authenticate service moment request = .error (.unauthenticated error message) := by
  have withoutToken (none : bearerToken? request.authorization = none) :
      authenticate service moment request = .error noToken := by
    rw [authenticate, none]
  cases rejected with
  | absent absent =>
      exact ⟨_, withoutToken (by rw [absent]; rfl)⟩
  | illegible given member odd =>
      refine ⟨_, withoutToken ?_⟩
      simp only [bearerToken?, given, visibleText?_of_illegible member odd, Option.bind_eq_bind,
        Option.bind_some, Option.bind_none]
  | @otherScheme value given other =>
      refine ⟨_, withoutToken ?_⟩
      rw [← List.isPrefixOf_iff_prefix, Bool.not_eq_true] at other
      simp only [bearerToken?, given, Option.bind_eq_bind, Option.bind_some]
      by_cases legible : ∀ character ∈ value.toList, IsLegible character
      · simp only [visibleText?_of_legible legible, Option.bind_some, other, Bool.false_eq_true,
          if_false]
      · push Not at legible
        rcases legible with ⟨character, member, odd⟩
        rw [visibleText?_of_illegible member odd, Option.bind_none]
  | refused carries refused =>
      exact ⟨_, by rw [authenticate, bearerToken?_of_carries carries]; simp only [refused]; rfl⟩
  | @nobody token claims fault carries valid unread =>
      have none : claims.principal? = none := by
        rw [Claims.principal?, unread]
      exact ⟨_, by
        rw [authenticate, bearerToken?_of_carries carries]
        simp only [valid, none]
        rfl⟩

theorem authenticate_of_tells {caller : Principal}
    (tells : Tells service moment request.authorization caller) :
    authenticate service moment request = .ok caller := by
  cases tells with
  | @of token claims id carries valid subject =>
      have bearer : claims.principal? = some ⟨id, claims.username, Role.parse claims.role⟩ := by
        rw [Claims.principal?, subject]
      rw [authenticate, bearerToken?_of_carries carries]
      simp only [valid, bearer]

theorem rejected_or_tells (service : Service) (moment : Moment) (authorization : Option String) :
    (∃ error, Rejected service moment authorization error) ∨
      ∃ caller, Tells service moment authorization caller := by
  cases authorization with
  | none => exact .inl ⟨_, .absent rfl⟩
  | some value =>
      by_cases legible : ∀ character ∈ value.toList, IsLegible character
      · by_cases scheme : "Bearer ".toList <+: value.toList
        · rcases carries_of_legible legible scheme with ⟨token, carries⟩
          cases valid : Token.check service.tokens service.secret token moment.now.seconds with
          | error fault => exact .inl ⟨_, .refused carries valid⟩
          | ok claims =>
              cases subject : Text.readInt64 claims.subject with
              | error fault => exact .inl ⟨_, .nobody carries valid subject⟩
              | ok id => exact .inr ⟨_, .of carries valid subject⟩
        · exact .inl ⟨_, .otherScheme rfl scheme⟩
      · push Not at legible
        rcases legible with ⟨character, member, odd⟩
        exact .inl ⟨_, .illegible rfl member odd⟩

end

/-! ## The gate -/

/-- The part of the service that asks for a token, the paths of no resource included. -/
def Guarded (path : List Char) : Prop :=
  path = "/api/k8s-namespaces".toList ∨ "/api/k8s-namespaces/".toList <+: path

/-- The paths that can be fetched. -/
def fetchedPaths : List (List Char) :=
  ["/api/k8s-namespaces".toList, "/api/k8s-namespaces/available-list".toList,
    "/api/k8s-namespaces/unauth-namespace".toList, "/api/k8s-namespaces/authed-namespace".toList]

/-- HEAD asks for what GET would answer, less the body. -/
def Bodiless (request : Request) : Prop :=
  request.method = "HEAD" ∧ request.path ∈ fetchedPaths

instance (request : Request) : Decidable (Bodiless request) :=
  inferInstanceAs (Decidable (_ ∧ _))

/-- The response turns the caller away with this error. -/
structure TurnsAway (request : Request) (error : String) (response : Response) : Prop where
  status : response.status = 401
  type : response.contentType = some "application/json"
  bodiless : Bodiless request → response.body = ""
  body : ¬Bodiless request → ∃ message, response.body =
    .ofList (writeObject [("error", writeString error), ("message", writeString message)])

theorem ofPath?_of_guarded {path : List Char} (guarded : Guarded path) :
    Resource.ofPath? path ≠ some .health := by
  intro leads
  have health : path = "/health".toList := (Resource.of_ofPath? leads).1
  subst health
  rcases guarded with equal | ⟨rest, equal⟩
  · exact absurd equal (by decide)
  · have second : some 'a' = some 'h' := congrArg (·[1]?) equal
    exact absurd second (by decide)

theorem destination_of_guarded {method : String} {path : List Char} (guarded : Guarded path) :
    destination method path ≠ .endpoint .health := by
  rw [destination]
  cases found : Resource.ofPath? path with
  | none => nofun
  | some resource =>
      cases resource with
      | health => exact absurd found (ofPath?_of_guarded guarded)
      | collection | verification | available | unauthorized | authorized | item segment =>
          simp only [Resource.endpoint?]
          grind

/-- A HEAD request gets to an endpoint just where there is something to fetch. -/
theorem bodiless_iff {request : Request} (guarded : Guarded request.path) :
    Bodiless request ↔ request.method = "HEAD" ∧
      ∃ endpoint, destination request.method request.path = .endpoint endpoint := by
  constructor
  · rintro ⟨head, fetched⟩
    refine ⟨head, ?_⟩
    rw [head]
    simp only [fetchedPaths, List.mem_cons, List.not_mem_nil, or_false] at fetched
    rcases fetched with path | path | path | path
    · exact ⟨.list, by rw [path]; decide⟩
    · exact ⟨.available, by rw [path]; decide⟩
    · exact ⟨.unauthorized, by rw [path]; decide⟩
    · exact ⟨.authorized, by rw [path]; decide⟩
  · rintro ⟨head, endpoint, leads⟩
    refine ⟨head, ?_⟩
    rw [destination, head] at leads
    cases found : Resource.ofPath? request.path with
    | none => simp [found] at leads
    | some resource =>
        rw [(Resource.of_ofPath? found).1]
        cases resource with
        | health => exact absurd found (ofPath?_of_guarded guarded)
        | collection | available | unauthorized | authorized => decide
        | verification | item segment => simp [found, Resource.endpoint?] at leads

section

variable {service : Service} {moment : Moment} {request : Request}

theorem turnsAway_of_body {error message : String} {response : Response}
    (bodied : ¬Bodiless request) (status : response.status = 401)
    (type : response.contentType = some "application/json")
    (body : response.body = (Response.unauthenticated error message).body) :
    TurnsAway request error response :=
  ⟨status, type, fun bodiless => absurd bodiless bodied, fun _ => ⟨message, body⟩⟩

theorem respond_of_refused {endpoint : Endpoint} {refusal : Response}
    (refused : authenticate service moment request = .error refusal)
    (leads : destination request.method request.path = .endpoint endpoint)
    (other : endpoint ≠ .health) :
    respond service moment request = .done (trimmedFor request.method refusal) := by
  cases endpoint with
  | health => exact absurd rfl other
  | list | register | verify | available | unauthorized | authorized | deregister =>
      simp only [respond, leads, Http.guarded, refused]
      rfl

/-- The request is answered before anything is asked of the store or the clusters. -/
theorem respond_of_rejected {error : String} (guarded : Guarded request.path)
    (rejected : Rejected service moment request.authorization error) :
    ∃ response, respond service moment request = .done response ∧
      TurnsAway request error response := by
  rcases authenticate_of_rejected rejected with ⟨message, refused⟩
  have bodied (elsewhere : ∀ endpoint,
      destination request.method request.path ≠ .endpoint endpoint) : ¬Bodiless request := by
    intro bodiless
    rcases ((bodiless_iff guarded).mp bodiless).2 with ⟨endpoint, leads⟩
    exact elsewhere endpoint leads
  cases leads : destination request.method request.path with
  | nowhere =>
      refine ⟨.unauthenticated error message, ?_, ?_⟩
      · simp only [respond, leads, Http.guarded, refused]
      · exact turnsAway_of_body (bodied fun _ => leads ▸ nofun) rfl rfl rfl
  | wrongMethod methods =>
      refine ⟨(Response.unauthenticated error message).allowing methods, ?_, ?_⟩
      · simp only [respond, leads, if_neg (ofPath?_of_guarded guarded), Http.guarded, refused]
        rfl
      · exact turnsAway_of_body (bodied fun _ => leads ▸ nofun) rfl rfl rfl
  | endpoint endpoint =>
      refine ⟨trimmedFor request.method (.unauthenticated error message), ?_, ?_⟩
      · refine respond_of_refused refused leads ?_
        rintro rfl
        exact destination_of_guarded guarded leads
      · by_cases head : request.method = "HEAD"
        · have bodiless : Bodiless request := (bodiless_iff guarded).mpr ⟨head, endpoint, leads⟩
          rw [trimmedFor, if_pos head]
          exact ⟨rfl, rfl, fun _ => rfl, fun bodied => absurd bodiless bodied⟩
        · rw [trimmedFor, if_neg head]
          exact turnsAway_of_body (fun bodiless => head bodiless.1) rfl rfl rfl

end

/-! ## What a request asks for -/

/-- What a request asks of the registry on behalf of a caller, and the response to success. -/
inductive Asks (service : Service) (moment : Moment) (request : Request) (caller : Principal) :
    {α : Type} → Attempt α → (α → Response) → Prop
  | list {query : ListingQuery} (method : request.method = "GET" ∨ request.method = "HEAD")
      (path : request.path = "/api/k8s-namespaces".toList)
      (read : listingQuery request = .ok query) :
      Asks service moment request caller
        (Registry.pagedList service.pageLimit caller query.search query.number query.size)
        (.encoded 200 Wire.registrationPage)
  | register {placement : Placement} (method : request.method = "POST")
      (path : request.path = "/api/k8s-namespaces".toList)
      (read : jsonBody Wire.placement request = .ok placement) :
      Asks service moment request caller
        (Registry.register caller placement.name placement.cluster (.draw moment.now moment.salt))
        (.encoded 201 Wire.registration)
  | verify {placement : Placement} (method : request.method = "POST")
      (path : request.path = "/api/k8s-namespaces/verify".toList)
      (read : jsonBody Wire.placement request = .ok placement) :
      Asks service moment request caller
        (Registry.verifyUnique placement.name placement.cluster)
        fun unique => .encoded 200 Wire.availability ⟨unique⟩
  | available (method : request.method = "GET" ∨ request.method = "HEAD")
      (path : request.path = "/api/k8s-namespaces/available-list".toList) :
      Asks service moment request caller (Registry.available caller)
        (.encoded 200 Wire.registration.list)
  | unauthorized {query : SubjectQuery} (method : request.method = "GET" ∨ request.method = "HEAD")
      (path : request.path = "/api/k8s-namespaces/unauth-namespace".toList)
      (read : subjectQuery request = .ok query) :
      Asks service moment request caller (Registry.unauthorizedFor caller query.user)
        (.encoded 200 Wire.registration.list)
  | authorized {query : SubjectQuery} (method : request.method = "GET" ∨ request.method = "HEAD")
      (path : request.path = "/api/k8s-namespaces/authed-namespace".toList)
      (read : subjectQuery request = .ok query) :
      Asks service moment request caller (Registry.authorizedFor caller query.user)
        (.encoded 200 Wire.registration.list)
  | deregister {segment : List Char} {id : Int64} (method : request.method = "DELETE")
      (path : request.path = "/api/k8s-namespaces".toList ++ '/' :: segment)
      (names : Resource.Names segment) (read : segmentId segment = .ok id) :
      Asks service moment request caller (Registry.deregister caller id) fun () => .empty 204

/-- The response to the outcome of an attempt. -/
def reply (moment : Moment) (success : α → Response) : Except RegistryError α → Response
  | .ok value => success value
  | .error error => .failure error.toApi moment.now

section

variable {service : Service} {moment : Moment} {request : Request} {caller : Principal}

theorem run_reporting (answering : Answering ω) (attempt : Attempt α) (success : α → Response)
    (world : ω) :
    (reporting moment attempt success).run answering world =
      (reply moment success (attempt.run answering world).1, (attempt.run answering world).2) := by
  rw [reporting, Procedure.run_map]
  cases (attempt.run answering world).1 <;> rfl

theorem destination_of_path (resource : Resource) {endpoint : Endpoint}
    (path : request.path = resource.path) (found : Resource.ofPath? resource.path = some resource)
    (has : resource.endpoint? request.method = some endpoint) :
    destination request.method request.path = .endpoint endpoint := by
  simp only [destination, path, found, has]

theorem endpoint?_of_fetched {resource : Resource} {endpoint : Endpoint} {method : String}
    (fetched : method = "GET" ∨ method = "HEAD")
    (has : resource.endpoint? "GET" = some endpoint ∧ resource.endpoint? "HEAD" = some endpoint) :
    resource.endpoint? method = some endpoint := by
  rcases fetched with rfl | rfl
  · exact has.1
  · exact has.2

theorem respond_of_endpoint {endpoint : Endpoint}
    (authenticated : authenticate service moment request = .ok caller)
    (leads : destination request.method request.path = .endpoint endpoint)
    (other : endpoint ≠ .health) :
    respond service moment request =
      (answer service moment caller request endpoint).map (trimmedFor request.method) := by
  cases endpoint with
  | health => exact absurd rfl other
  | list | register | verify | available | unauthorized | authorized | deregister =>
      simp only [respond, leads, Http.guarded, authenticated]

/-- The caller of the operation is the principal of the request. -/
theorem respond_of_asks {attempt : Attempt α} {success : α → Response}
    (authenticated : authenticate service moment request = .ok caller)
    (asks : Asks service moment request caller attempt success) :
    respond service moment request =
      (reporting moment attempt success).map (trimmedFor request.method) := by
  cases asks with
  | list method path read =>
      have has : Resource.endpoint? .collection request.method = some .list :=
        endpoint?_of_fetched method ⟨rfl, rfl⟩
      have leads := destination_of_path .collection path (Resource.ofPath?_path nofun) has
      rw [respond_of_endpoint authenticated leads nofun, answer, read]
      rfl
  | register method path read =>
      have has : Resource.endpoint? .collection request.method = some .register := by
        rw [method]
        rfl
      have leads := destination_of_path .collection path (Resource.ofPath?_path nofun) has
      rw [respond_of_endpoint authenticated leads nofun, answer, read]
      rfl
  | verify method path read =>
      have has : Resource.endpoint? .verification request.method = some .verify := by
        rw [method]
        rfl
      have leads := destination_of_path .verification path (Resource.ofPath?_path nofun) has
      rw [respond_of_endpoint authenticated leads nofun, answer, read]
      rfl
  | available method path =>
      have has : Resource.endpoint? .available request.method = some .available :=
        endpoint?_of_fetched method ⟨rfl, rfl⟩
      have leads := destination_of_path .available path (Resource.ofPath?_path nofun) has
      rw [respond_of_endpoint authenticated leads nofun, answer]
      rfl
  | unauthorized method path read =>
      have has : Resource.endpoint? .unauthorized request.method = some .unauthorized :=
        endpoint?_of_fetched method ⟨rfl, rfl⟩
      have leads := destination_of_path .unauthorized path (Resource.ofPath?_path nofun) has
      rw [respond_of_endpoint authenticated leads nofun, answer, read]
      rfl
  | authorized method path read =>
      have has : Resource.endpoint? .authorized request.method = some .authorized :=
        endpoint?_of_fetched method ⟨rfl, rfl⟩
      have leads := destination_of_path .authorized path (Resource.ofPath?_path nofun) has
      rw [respond_of_endpoint authenticated leads nofun, answer, read]
      rfl
  | @deregister segment id method path names read =>
      have has : Resource.endpoint? (.item segment) request.method =
          some (.deregister segment) := by
        rw [method]
        rfl
      have leads := destination_of_path (.item segment) path (Resource.ofPath?_item names) has
      rw [respond_of_endpoint authenticated leads nofun, answer, read]
      rfl

end

/-- A request either tells of nobody, and is turned away before anything is asked of the store or
the clusters, or tells of a principal, and what it asks for is attempted for that principal. -/
theorem requests_act_for_their_bearers (service : Service) (moment : Moment) (request : Request)
    (guarded : Guarded request.path) :
    (∀ error, Rejected service moment request.authorization error →
      ∃ response, TurnsAway request error response ∧
        ∀ {ω : Type} (answering : Answering ω) (world : ω),
          (respond service moment request).run answering world = (response, world) ∧
            (respond service moment request).calls answering world = []) ∧
    (∀ caller, Tells service moment request.authorization caller →
      ∀ {α : Type} (attempt : Attempt α) (success : α → Response),
        Asks service moment request caller attempt success →
          ∀ {ω : Type} (answering : Answering ω) (world : ω),
            (respond service moment request).run answering world =
              (trimmedFor request.method
                (reply moment success (attempt.run answering world).1),
                (attempt.run answering world).2)) ∧
    ((∃ error, Rejected service moment request.authorization error) ∨
      ∃ caller, Tells service moment request.authorization caller) := by
  refine ⟨?_, ?_, rejected_or_tells service moment request.authorization⟩
  · intro error rejected
    rcases respond_of_rejected guarded rejected with ⟨response, done, turned⟩
    refine ⟨response, turned, fun answering world => ?_⟩
    rw [done]
    exact ⟨rfl, rfl⟩
  · intro caller tells α attempt success asks ω answering world
    rw [respond_of_asks (authenticate_of_tells tells) asks, Procedure.run_map, run_reporting]

/-! Alice asks for what is available to her, with a token for an hour and without one. -/

theorem isLegible_of_mem_ofClaims {secret : String} {claims : Claims} :
    ∀ character ∈ (Token.ofClaims secret claims).toList, IsLegible character := by
  intro character member
  have plain : Text.Base64Url.alphabet.all isPlain = true := by decide +kernel
  rcases Token.mem_ofClaims member with letter | rfl
  · exact isLegible_of_isPlain (List.all_eq_true.mp plain character letter)
  · exact isLegible_of_isPlain (by decide)

/-- A token tells of the principal it was issued for as long as it is good. -/
theorem tells_of_issued (service : Service) (moment : Moment) (principal : Principal)
    {hours issued : Int64}
    (live : moment.now.seconds ≤ Token.lastSecond hours issued % UInt64.size + Token.leeway) :
    Tells service moment
      (some ("Bearer " ++ Token.issue service.secret principal hours issued)) principal := by
  have valid := Token.check_issue service.tokens service.secret principal hours issued
    moment.now.seconds
  rw [if_pos live] at valid
  have tells := Tells.of ⟨rfl, isLegible_of_mem_ofClaims⟩ valid
    (Text.readInt64_decimal principal.id)
  have role : Role.parse (Claims.ofPrincipal principal issued.toUInt64
      (Token.expiryOf hours issued)).role = principal.role := Role.parse_name principal.role
  rw [role] at tells
  exact tells

namespace Sample

def service : Service := ⟨"secret", 100, .standard⟩

def moment : Moment := ⟨⟨1767225600, 0, by decide⟩, 0⟩

def world : World Memory Clusters := ⟨.empty, .withCodes [100]⟩

def alice : Principal := ⟨7, "alice", .general⟩

def authorization : Option String :=
  some ("Bearer " ++ Token.issue service.secret alice 1 1767225600)

def request (method : String) (authorization : Option String) : Request :=
  ⟨method, "/api/k8s-namespaces/available-list".toList, [], authorization, none, []⟩

end Sample

open Sample in
theorem requests_act_for_alice :
    Guarded (request "GET" none).path ∧
    (∃ response, TurnsAway (request "GET" none) "unauthorized" response ∧
      (respond service moment (request "GET" none)).run World.answering world =
        (response, world)) ∧
    (respond service moment (request "GET" authorization)).run World.answering world =
      (.encoded 200 Wire.registration.list [], world) := by
  have guarded : Guarded (request "GET" none).path := .inr ⟨"available-list".toList, rfl⟩
  refine ⟨guarded, ?_, ?_⟩
  · rcases (requests_act_for_their_bearers service moment (request "GET" none) guarded).1
      "unauthorized" (.absent rfl) with ⟨response, turned, idle⟩
    exact ⟨response, turned, (idle World.answering world).1⟩
  · have tells : Tells service moment authorization alice :=
      tells_of_issued service moment alice (by decide)
    have acts := (requests_act_for_their_bearers service moment (request "GET" authorization)
      guarded).2.1 alice tells _ _ (.available (.inl rfl) rfl) World.answering world
    have found : (Registry.available alice).run World.answering world =
        (.ok (Registry.firstPerPair [] (Registry.oldestFirst [])), world) := rfl
    rw [Registry.oldestFirst, List.mergeSort_nil] at found
    rw [acts, found]
    rfl

open Sample in
/-- The response to HEAD has no body to put an error in. -/
theorem head_is_turned_away_without_error :
    Guarded (request "HEAD" none).path ∧
    Rejected service moment (request "HEAD" none).authorization "unauthorized" ∧
    ∃ response, respond service moment (request "HEAD" none) = .done response ∧
      response.status = 401 ∧
      ∀ message, response.body ≠
        .ofList (writeObject [("error", writeString "unauthorized"), ("message", message)]) := by
  refine ⟨.inr ⟨"available-list".toList, rfl⟩, .absent rfl, _, rfl, rfl, ?_⟩
  intro message body
  have characters := congrArg String.toList body
  rw [String.toList_ofList] at characters
  cases characters

end Tenancy.Http
