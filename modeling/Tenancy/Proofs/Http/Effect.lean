import Tenancy.Proofs.Http.Failure
import Tenancy.Proofs.Registry.Effect

/-! The status of a response tells what became of the records: one more with 201, one less with 204,
and the same ones with any other. -/

namespace Tenancy.Http

open Tenancy.Json
open Readable

/-! ## Refusals -/

/-- A response that reports no change. -/
def Idle (response : Response) : Prop :=
  response.status ≠ 201 ∧ response.status ≠ 204

instance (response : Response) : Decidable (Idle response) :=
  inferInstanceAs (Decidable (_ ∧ _))

@[simp]
theorem status_trimmedFor (method : String) (response : Response) :
    (trimmedFor method response).status = response.status := by
  unfold trimmedFor
  split <;> rfl

theorem idle_trimmedFor {response : Response} (idle : Idle response) (method : String) :
    Idle (trimmedFor method response) := by
  rw [Idle, status_trimmedFor]
  exact idle

theorem idle_allowing {response : Response} (idle : Idle response) (methods : String) :
    Idle (response.allowing methods) :=
  idle

/-- Whatever this finds wrong, it says only that the query cannot be read. -/
def BlamesQuery (extract : Extract α) : Prop :=
  ∀ refusal, extract = .error refusal → refusal = badQuery

namespace BlamesQuery

theorem ok (value : α) : BlamesQuery (.ok value) :=
  nofun

theorem bind {first : Extract α} {next : α → Extract β} (blames : BlamesQuery first)
    (others : ∀ value, BlamesQuery (next value)) : BlamesQuery (first >>= next) := by
  intro refusal refused
  rcases bind_eq_error.mp refused with refused | ⟨value, -, refused⟩
  · exact blames refusal refused
  · exact others value refusal refused

theorem lookupOnce (key : String) (pairs : List (String × String)) :
    BlamesQuery (lookupOnce key pairs) := by
  intro refusal refused
  unfold Http.lookupOnce at refused
  split at refused <;> cases refused
  rfl

theorem required (read : String → Except Text.DecimalFault α) (value : Option String) :
    BlamesQuery (required read value) := by
  intro refusal refused
  unfold Http.required at refused
  split at refused
  · cases refused
    rfl
  · split at refused <;> cases refused
    rfl

theorem idle {extract : Extract α} (blames : BlamesQuery extract) (refusal : Response)
    (refused : extract = .error refusal) : Idle refusal := by
  rw [blames refusal refused]
  decide

end BlamesQuery

section

variable {request : Request} {refusal : Response}

theorem blamesQuery_subjectQuery : BlamesQuery (subjectQuery request) :=
  .bind (.lookupOnce _ _) fun _ => .bind (.required _ _) fun _ => .ok _

theorem blamesQuery_listingQuery : BlamesQuery (listingQuery request) :=
  .bind (.lookupOnce _ _) fun _ =>
    .bind (.lookupOnce _ _) fun _ =>
      .bind (.required _ _) fun _ =>
        .bind (.lookupOnce _ _) fun _ => .bind (.required _ _) fun _ => .ok _

theorem segmentId_refusal {segment : List Char} (refused : segmentId segment = .error refusal) :
    Idle refusal := by
  unfold segmentId at refused
  split at refused
  · cases refused
    decide
  · split at refused <;> cases refused
    decide

theorem idle_badJson (fault : Fault) : Idle (badJson fault) := by
  cases fault <;> decide

theorem jsonBody_refusal {codec : Codec α} (refused : jsonBody codec request = .error refusal) :
    Idle refusal := by
  unfold jsonBody at refused
  split at refused
  · cases refused
    decide
  · split at refused
    · cases refused
      decide
    · rcases mapError_eq_error.mp refused with ⟨fault, -, rfl⟩
      exact idle_badJson fault

theorem authenticate_refusal {service : Service} {moment : Moment}
    (refused : authenticate service moment request = .error refusal) : Idle refusal := by
  have status : refusal.status = 401 := by
    unfold authenticate at refused
    split at refused
    · cases refused
      rfl
    · split at refused
      · cases refused
        rfl
      · split at refused <;> cases refused
        rfl
  rw [Idle, status]
  decide

end

/-! ## What is asked for -/

section

variable {service : Service} {moment : Moment} {request : Request} {caller : Principal}

/-- An endpoint refuses a request it cannot read. -/
theorem extracting_cases {extract : Extract α} (next : α → Procedure Response)
    (idle : ∀ refusal, extract = .error refusal → Idle refusal) :
    (∃ refusal, extracting extract next = .done refusal ∧ Idle refusal) ∨
      ∃ value, extract = .ok value := by
  cases extract with
  | error refusal => exact .inl ⟨refusal, rfl, idle refusal rfl⟩
  | ok value => exact .inr ⟨value, rfl⟩

theorem tells_of_authenticate (authenticated : authenticate service moment request = .ok caller) :
    Tells service moment request.authorization caller := by
  rcases rejected_or_tells service moment request.authorization with
    ⟨error, rejected⟩ | ⟨other, tells⟩
  · rcases authenticate_of_rejected rejected with ⟨message, refused⟩
    rw [refused] at authenticated
    cases authenticated
  · rw [authenticate_of_tells tells] at authenticated
    cases authenticated
    exact tells

theorem isFetched_iff (method : String) :
    Resource.isFetched method = true ↔ method = "GET" ∨ method = "HEAD" := by
  simp [Resource.isFetched]

theorem of_destination {endpoint : Endpoint}
    (leads : destination request.method request.path = .endpoint endpoint) :
    ∃ resource : Resource, request.path = resource.path ∧
      (∀ segment, resource = .item segment → Resource.Names segment) ∧
      resource.endpoint? request.method = some endpoint := by
  unfold destination at leads
  split at leads
  · cases leads
  · next resource found =>
      split at leads
      · cases leads
      · next has =>
          cases leads
          exact ⟨resource, (Resource.of_ofPath? found).1, (Resource.of_ofPath? found).2, has⟩

/-- What an endpoint can read is one attempt to make. -/
theorem answer_cases {endpoint : Endpoint}
    (leads : destination request.method request.path = .endpoint endpoint)
    (other : endpoint ≠ .health) :
    (∃ refusal, answer service moment caller request endpoint = .done refusal ∧ Idle refusal) ∨
    ∃ (α : Type) (attempt : Attempt α) (success : α → Response),
      Asks service moment request caller attempt success := by
  rcases of_destination leads with ⟨resource, path, named, has⟩
  cases resource with
  | health =>
      simp only [Resource.endpoint?] at has
      split at has <;> cases has
      exact absurd rfl other
  | collection =>
      simp only [Resource.endpoint?] at has
      split at has
      · next fetched =>
          cases has
          rcases extracting_cases _ blamesQuery_listingQuery.idle with refused | ⟨query, read⟩
          · exact .inl refused
          · exact .inr ⟨_, _, _, .list ((isFetched_iff _).mp fetched) path read⟩
      · split at has <;> cases has
        next method =>
          rcases extracting_cases _ fun _ => jsonBody_refusal with refused | ⟨placement, read⟩
          · exact .inl refused
          · exact .inr ⟨_, _, _, .register method path read⟩
  | verification =>
      simp only [Resource.endpoint?] at has
      split at has <;> cases has
      next method =>
        rcases extracting_cases _ fun _ => jsonBody_refusal with refused | ⟨placement, read⟩
        · exact .inl refused
        · exact .inr ⟨_, _, _, .verify method path read⟩
  | available =>
      simp only [Resource.endpoint?] at has
      split at has <;> cases has
      next fetched => exact .inr ⟨_, _, _, .available ((isFetched_iff _).mp fetched) path⟩
  | unauthorized =>
      simp only [Resource.endpoint?] at has
      split at has <;> cases has
      next fetched =>
        rcases extracting_cases _ blamesQuery_subjectQuery.idle with refused | ⟨query, read⟩
        · exact .inl refused
        · exact .inr ⟨_, _, _, .unauthorized ((isFetched_iff _).mp fetched) path read⟩
  | authorized =>
      simp only [Resource.endpoint?] at has
      split at has <;> cases has
      next fetched =>
        rcases extracting_cases _ blamesQuery_subjectQuery.idle with refused | ⟨query, read⟩
        · exact .inl refused
        · exact .inr ⟨_, _, _, .authorized ((isFetched_iff _).mp fetched) path read⟩
  | item segment =>
      simp only [Resource.endpoint?] at has
      split at has <;> cases has
      next method =>
        rcases extracting_cases _ fun _ => segmentId_refusal with refused | ⟨id, read⟩
        · exact .inl refused
        · exact .inr ⟨_, _, _, .deregister method path (named segment rfl) read⟩

/-- Every request is refused at once, or asks for one attempt on behalf of its bearer. -/
theorem respond_cases (service : Service) (moment : Moment) (request : Request) :
    (∃ response, respond service moment request = .done response ∧ Idle response) ∨
    ∃ (caller : Principal) (α : Type) (attempt : Attempt α) (success : α → Response),
      Tells service moment request.authorization caller ∧
        Asks service moment request caller attempt success := by
  cases leads : destination request.method request.path with
  | nowhere =>
      left
      cases authenticated : authenticate service moment request with
      | error refusal =>
          refine ⟨refusal, ?_, authenticate_refusal authenticated⟩
          simp only [respond, leads, Http.guarded, authenticated]
      | ok caller =>
          refine ⟨.empty 404, ?_, by decide⟩
          simp only [respond, leads, Http.guarded, authenticated]
  | wrongMethod methods =>
      left
      by_cases health : Resource.ofPath? request.path = some .health
      · refine ⟨(Response.empty 405).allowing methods, ?_, idle_allowing (by decide) _⟩
        simp only [respond, leads, if_pos health]
      · cases authenticated : authenticate service moment request with
        | error refusal =>
            refine ⟨refusal.allowing methods, ?_,
              idle_allowing (authenticate_refusal authenticated) _⟩
            simp only [respond, leads, if_neg health, Http.guarded, authenticated]
            rfl
        | ok caller =>
            refine ⟨(Response.empty 405).allowing methods, ?_, idle_allowing (by decide) _⟩
            simp only [respond, leads, if_neg health, Http.guarded, authenticated]
            rfl
  | endpoint endpoint =>
      by_cases health : endpoint = .health
      · refine .inl ⟨trimmedFor request.method healthy, ?_, idle_trimmedFor (by decide) _⟩
        simp only [respond, leads, health]
      · cases authenticated : authenticate service moment request with
        | error refusal =>
            exact .inl ⟨trimmedFor request.method refusal,
              respond_of_refused authenticated leads health,
              idle_trimmedFor (authenticate_refusal authenticated) _⟩
        | ok caller =>
            have tells := tells_of_authenticate authenticated
            have same := respond_of_endpoint authenticated leads health
            rcases answer_cases leads health with
              ⟨refusal, refused, idle⟩ | ⟨α, attempt, success, asks⟩
            · refine .inl ⟨trimmedFor request.method refusal, ?_, idle_trimmedFor idle _⟩
              rw [same, refused]
              rfl
            · exact .inr ⟨caller, α, attempt, success, tells, asks⟩

end

/-! ## Effects -/

/-- A record is entered for the caller, and it is the body of the response. -/
structure Created (service : Service) (moment : Moment) (request : Request)
    (before after : List Registration) (response : Response) : Prop where
  method : request.method = "POST"
  path : request.path = "/api/k8s-namespaces".toList
  entered : ∃ caller record, Tells service moment request.authorization caller ∧
    record.owner = caller.id ∧ after = before ++ [record] ∧
    response.body = .ofList (Wire.registration.write record)

/-- The record that the path names is gone, and the caller could dispose of it. -/
structure Deleted (service : Service) (moment : Moment) (request : Request)
    (before after : List Registration) : Prop where
  method : request.method = "DELETE"
  dropped : ∃ caller segment record, Tells service moment request.authorization caller ∧
    request.path = "/api/k8s-namespaces".toList ++ '/' :: segment ∧
    segmentId segment = .ok record.id ∧ (caller.isAdmin = true ∨ record.owner = caller.id) ∧
    Drops before after record

/-- The status of a response tells what became of the records. -/
structure Tallies (service : Service) (moment : Moment) (request : Request)
    (before after : List Registration) (response : Response) : Prop where
  created : response.status = 201 → Created service moment request before after response
  deleted : response.status = 204 → Deleted service moment request before after
  unchanged : response.status ≠ 201 → response.status ≠ 204 → after = before

section

variable {service : Service} {moment : Moment} {request : Request} {caller : Principal}
  {before after : List Registration} {response : Response}

theorem Tallies.of_idle (idle : Idle response) (same : after = before) :
    Tallies service moment request before after response :=
  ⟨fun created => absurd created idle.1, fun deleted => absurd deleted idle.2, fun _ _ => same⟩

theorem idle_failure (success : α → Response) (error : RegistryError) :
    Idle (reply moment success (.error error)) := by
  rw [Idle, reply, Response.failure]
  simp only [Response.encoded, Response.json, (report_tells error moment.now).status]
  exact error.kind.status_ne_created

theorem Tallies.of_registers {outcome : Except RegistryError Registration}
    (tells : Tells service moment request.authorization caller) (method : request.method = "POST")
    (path : request.path = "/api/k8s-namespaces".toList)
    (registers : Registers caller.id before after outcome) :
    Tallies service moment request before after
      (trimmedFor request.method (reply moment (.encoded 201 Wire.registration) outcome)) := by
  cases registers with
  | failed same => exact .of_idle (idle_trimmedFor (idle_failure _ _) _) same
  | @entered record owned added =>
      rw [trimmedFor, if_neg (by rw [method]; decide)]
      have status : (reply moment (.encoded 201 Wire.registration) (.ok record)).status ≠ 204 :=
        (by decide : (201 : UInt16) ≠ 204)
      exact {
        created := fun _ => ⟨method, path, caller, record, tells, owned, added, rfl⟩
        deleted := fun deleted => absurd deleted status
        unchanged := fun notCreated => absurd rfl notCreated }

theorem Tallies.of_deregisters {segment : List Char} {id : Int64}
    {outcome : Except RegistryError Unit}
    (tells : Tells service moment request.authorization caller) (method : request.method = "DELETE")
    (path : request.path = "/api/k8s-namespaces".toList ++ '/' :: segment)
    (read : segmentId segment = .ok id) (deregisters : Deregisters caller id before after outcome) :
    Tallies service moment request before after
      (trimmedFor request.method (reply moment (fun () => .empty 204) outcome)) := by
  cases deregisters with
  | failed same => exact .of_idle (idle_trimmedFor (idle_failure _ _) _) same
  | @dropped record named entitled drops =>
      rw [trimmedFor, if_neg (by rw [method]; decide)]
      have status : (reply moment (fun () => .empty 204) (.ok ())).status ≠ 201 :=
        (by decide : (204 : UInt16) ≠ 201)
      exact {
        created := fun created => absurd created status
        deleted := fun _ =>
          ⟨method, caller, segment, record, tells, path, named ▸ read, entitled, drops⟩
        unchanged := fun _ notDeleted => absurd rfl notDeleted }

theorem Tallies.of_reading {success : α → Response} {outcome : Except RegistryError α}
    (idle : ∀ value, Idle (success value)) (same : after = before) :
    Tallies service moment request before after
      (trimmedFor request.method (reply moment success outcome)) := by
  cases outcome with
  | ok value => exact .of_idle (idle_trimmedFor (idle value) _) same
  | error error => exact .of_idle (idle_trimmedFor (idle_failure success error) _) same

theorem idle_encoded (codec : Codec α) (value : α) : Idle (.encoded 200 codec value) :=
  (by decide : (200 : UInt16) ≠ 201 ∧ (200 : UInt16) ≠ 204)

variable {answering : Answering ω} {records : ω → List Registration} {fit : ω → Prop} {world : ω}

theorem tallies_of_asks {attempt : Attempt α} {success : α → Response}
    (keeps : KeepsWord answering records fit) (fits : fit world)
    (tells : Tells service moment request.authorization caller)
    (asks : Asks service moment request caller attempt success) :
    Tallies service moment request (records world) (records (attempt.run answering world).2)
      (trimmedFor request.method (reply moment success (attempt.run answering world).1)) := by
  cases asks with
  | @list query method path read =>
      have reads := Procedure.Reads.pagedList service.pageLimit caller query.search query.number
        query.size
      exact .of_reading (idle_encoded Wire.registrationPage) (keeps.run_reads reads fits)
  | @register placement method path read =>
      have registers := keeps.run_register fits caller placement.name placement.cluster
        (.draw moment.now moment.salt)
      exact .of_registers tells method path registers
  | @verify placement method path read =>
      have reads := Procedure.Reads.verifyUnique placement.name placement.cluster
      exact .of_reading (fun unique => idle_encoded Wire.availability ⟨unique⟩)
        (keeps.run_reads reads fits)
  | available method path =>
      have reads := Procedure.Reads.available caller
      exact .of_reading (idle_encoded Wire.registration.list) (keeps.run_reads reads fits)
  | @unauthorized query method path read =>
      have reads := Procedure.Reads.unauthorizedFor caller query.user
      exact .of_reading (idle_encoded Wire.registration.list) (keeps.run_reads reads fits)
  | @authorized query method path read =>
      have reads := Procedure.Reads.authorizedFor caller query.user
      exact .of_reading (idle_encoded Wire.registration.list) (keeps.run_reads reads fits)
  | @deregister segment id method path names read =>
      exact .of_deregisters tells method path read (keeps.run_deregister fits caller id)

theorem tallies_of_run (keeps : KeepsWord answering records fit) (fits : fit world) :
    Tallies service moment request (records world)
      (records ((respond service moment request).run answering world).2)
      ((respond service moment request).run answering world).1 := by
  rcases respond_cases service moment request with
    ⟨response, done, idle⟩ | ⟨caller, α, attempt, success, tells, asks⟩
  · rw [done]
    exact .of_idle idle rfl
  · rw [respond_of_asks (authenticate_of_tells tells) asks, Procedure.run_map, run_reporting]
    exact tallies_of_asks keeps fits tells asks

end

/-- On either back end, beside any gateway and whatever call fails, the status tells what became of
the records. Whatever makes an attempt fail, its kind and its cause can be told from the
response. -/
theorem status_tells_the_effect (backEnd : BackEnd) {γ : Type} [Gateway γ]
    (world : World backEnd.State γ) (sound : Sound world.store)
    (planned : List (CallKind × Outcome)) (honest : Honest planned) (service : Service)
    (moment : Moment) (request : Request) :
    Tallies service moment request (contents world.store).records
      (contents (world.runFaulty planned (respond service moment request)).2.store).records
      (world.runFaulty planned (respond service moment request)).1 ∧
    (∀ caller, Tells service moment request.authorization caller →
      ∀ {α : Type} (attempt : Attempt α) (success : α → Response),
        Asks service moment request caller attempt success →
          ∀ {ω : Type} (answering : Answering ω) (state : ω) (error : RegistryError),
            (attempt.run answering state).1 = .error error →
              AnswersFailure request ((respond service moment request).run answering state).1
                error) ∧
    ∀ left right : RegistryError, left.kind.status = right.kind.status →
      left.kind.code = right.kind.code → left.kind = right.kind := by
  refine ⟨?_, ?_, fun left right => FailureKind.eq_of_status_of_code⟩
  · have fit : Faulty.Fit ⟨world, planned⟩ := ⟨sound, honest⟩
    exact tallies_of_run keepsWord_faulty fit
  · intro caller tells α attempt success asks ω answering state error fails
    exact answersFailure_of_asks tells asks fails

namespace Sample

/-- Alice registers a namespace. -/
def entry : Request where
  method := "POST"
  path := "/api/k8s-namespaces".toList
  query := []
  authorization := authorization
  contentType := some "application/json"
  body := Text.Utf8.encode "\x7b\"namespace\":\"team-a\",\"clusterCode\":100\x7d".toList

/-- Alice asks for a page there is not. -/
def noPage : Request where
  method := "HEAD"
  path := "/api/k8s-namespaces".toList
  query := "pageNo=0&pageSize=10".toList
  authorization := authorization
  contentType := none
  body := []

theorem tells_alice : Tells service moment authorization alice :=
  tells_of_issued service moment alice (by decide)

theorem asks_entry : Asks service moment entry alice
    (Registry.register alice "team-a" 100 (.draw moment.now moment.salt))
    (.encoded 201 Wire.registration) :=
  have read : jsonBody Wire.placement entry = .ok ⟨"team-a", 100⟩ := by decide +kernel
  .register rfl rfl read

theorem asks_noPage : Asks service moment noPage alice (Registry.pagedList 100 alice none 0 10)
    (.encoded 200 Wire.registrationPage) :=
  have read : listingQuery noPage = .ok ⟨none, 0, 10⟩ := by decide +kernel
  .list (.inr rfl) rfl read

end Sample

namespace Sample

/-- Nothing is registered on the back end yet. -/
def start (backEnd : BackEnd) : World backEnd.State Clusters :=
  backEnd.start (.withCodes [100])

def diskFull : List (CallKind × Outcome) :=
  [(.insert, .storeFails (.backend "disk full"))]

theorem honest_diskFull : Honest diskFull := by
  unfold Honest
  decide

def reaction (backEnd : BackEnd) (planned : List (CallKind × Outcome)) :
    Response × World backEnd.State Clusters :=
  (start backEnd).runFaulty planned (respond service moment entry)

def registered {backEnd : BackEnd} (world : World backEnd.State Clusters) : List Registration :=
  (contents world.store).records

theorem status_reaction : (reaction .memory []).1.status = 201 := by
  rw [reaction, World.runFaulty, respond_of_asks (authenticate_of_tells tells_alice) asks_entry]
  rfl

theorem register_fails (backEnd : BackEnd) :
    ((Registry.register alice "team-a" 100 (.draw moment.now moment.salt)).run
      (Faulty.answering World.answering) ⟨start backEnd, diskFull⟩).1 =
        .error (.store "disk full") := by
  cases backEnd <;> rfl

end Sample

open Sample in
theorem status_tells_of_alices_entry :
    ((reaction .memory []).1.status = 201 ∧
      Created service moment entry (registered (start .memory)) (registered (reaction .memory []).2)
        (reaction .memory []).1) ∧
    registered (reaction .memory diskFull).2 = registered (start .memory) ∧
      AnswersFailure entry (reaction .memory diskFull).1 (.store "disk full") := by
  have told {planned : List (CallKind × Outcome)} (honest : Honest planned) :=
    status_tells_the_effect .memory (start .memory) (BackEnd.sound_fresh .memory) planned honest
      service moment entry
  have entered := (told List.not_mem_nil).1
  have unchanged := (told honest_diskFull).1
  have failure := (told honest_diskFull).2.1 alice tells_alice _ _ asks_entry _ _
    (.store "disk full") (register_fails .memory)
  rw [← World.runFaulty_fst] at failure
  rw [← reaction, ← registered, ← registered] at entered unchanged
  rw [← reaction] at failure
  refine ⟨⟨status_reaction, entered.created status_reaction⟩, unchanged.unchanged ?_ ?_, failure⟩
  · rw [failure.status]
    decide
  · rw [failure.status]
    decide

open Sample in
/-- The response to HEAD has no body to put a code in. -/
theorem head_fails_without_code :
    Tells service moment noPage.authorization alice ∧
    Asks service moment noPage alice (Registry.pagedList 100 alice none 0 10)
      (.encoded 200 Wire.registrationPage) ∧
    (Registry.pagedList 100 alice none 0 10).run World.answering world =
      (.error (.invalidArgument "pageNo must be at least 1"), world) ∧
    ((respond service moment noPage).run World.answering world).1.status = 400 ∧
    ∀ report : ErrorReport, ((respond service moment noPage).run World.answering world).1.body ≠
      .ofList (Wire.report.write report) := by
  have fails : (Registry.pagedList 100 alice none 0 10).run World.answering world =
      (.error (.invalidArgument "pageNo must be at least 1"), world) := rfl
  have failure := answersFailure_of_asks tells_alice asks_noPage (congrArg Prod.fst fails)
  refine ⟨tells_alice, asks_noPage, fails, failure.status, ?_⟩
  rcases failure.body with ⟨told, -, body⟩
  intro report written
  have head : noPage.method = "HEAD" := rfl
  rw [body, if_pos head] at written
  have characters := congrArg String.toList written
  rw [String.toList_ofList] at characters
  simp [Wire.report, writeObject] at characters

end Tenancy.Http
