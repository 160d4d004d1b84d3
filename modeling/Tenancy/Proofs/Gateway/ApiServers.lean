import Tenancy.Cluster.Verdict
import Tenancy.Gateway.ApiServers
import Tenancy.Proofs.Registry.Placing
import Tenancy.Proofs.Store.Memory
import Tenancy.Proofs.Validation

/-! A registration asks the API server of the cluster whether the namespace is there and, where the
server says that it is not, to create it. What comes of it is told by the two replies. -/

namespace Tenancy

open Tenancy.Cluster

/-! ## Replies -/

namespace Cluster

/-- The request has got to the server. -/
def Reply.arrived : Reply → Bool
  | .answered .. | .silent => true
  | .unreached _ => false

namespace Reading

variable (reading : Reading)

/-- What the server has said, where it has answered. -/
def verdict? : Reply → Option Verdict
  | .answered status body => some (reading.judge status body)
  | .silent | .unreached _ => none

/-- The reply is a namespace. -/
def saysPresent (reply : Reply) : Bool :=
  reading.verdict? reply = some .present

def saysMissing (reply : Reply) : Bool :=
  match reading.verdict? reply with
  | some (.refused refusal) => refusal.reason = "NotFound"
  | _ => false

/-- A refusal with the code for what is there already, whatever the reason given. -/
def saysConflict (reply : Reply) : Bool :=
  match reading.verdict? reply with
  | some (.refused refusal) => refusal.code = 409
  | _ => false

/-- The refusal to create what is there already. -/
def saysExists (reply : Reply) : Bool :=
  match reading.verdict? reply with
  | some (.refused refusal) => refusal.code = 409 && refusal.reason = "AlreadyExists"
  | _ => false

/-- What a reply that does not help is reported as. -/
def fault (reply : Reply) (cluster : Int64) (seconds : UInt64) : ClusterFault :=
  match reply with
  | .silent => .timeout cluster seconds
  | .unreached cause => .api cause
  | .answered status body =>
      match reading.judge status body with
      | .refused refusal => .api refusal.text
      | .present | .unreadable => ApiServers.unreadableReply

end Reading

end Cluster

/-! ## Requests -/

namespace ApiServers

variable {reading : Reading} {servers : ApiServers reading} {client : Client} {request : Request}
  {cluster : Int64} {name : String}

/-- The reply to a request of a client, before which it makes so many others. -/
def reply (servers : ApiServers reading) (client : Client) (earlier : Nat) : Reply :=
  if client.destination.isAbsolute then
    servers.pending.getD earlier (.unreached exchange.noServer)
  else .unreached exchange.noUrl

/-- The replies still to come after so many requests of a client. -/
def left (servers : ApiServers reading) (client : Client) (count : Nat) : List Reply :=
  if client.destination.isAbsolute then servers.pending.drop count else servers.pending

def sending (cluster : Int64) (server : Location) (request : Request) (reply : Reply) :
    List SentRequest :=
  if reply.arrived then [⟨cluster, server.url request.path, request⟩] else []

/-- The servers after a request, which gets the first of the replies to come. -/
def after (servers : ApiServers reading) (client : Client) (request : Request) :
    ApiServers reading :=
  { servers with
    pending := servers.left client 1
    sent := servers.sent ++
      sending client.code client.destination request (servers.reply client 0) }

theorem exchange_eq (servers : ApiServers reading) (client : Client) (request : Request) :
    servers.exchange client request =
      (match reading.verdict? (servers.reply client 0) with
        | some verdict => .ok verdict
        | none => .error (reading.fault (servers.reply client 0) client.code servers.seconds),
        servers.after client request) := by
  rcases servers with ⟨clients, timeout, pending, sent⟩
  unfold exchange after reply left sending
  by_cases absolute : client.destination.isAbsolute = true
  · simp only [absolute, Bool.not_true, Bool.false_eq_true, if_false, if_true]
    cases pending with
    | nil => simp [Reading.verdict?, Reading.fault, Reply.arrived]
    | cons reply rest =>
        cases reply <;> simp [Reading.verdict?, Reading.fault, Reply.arrived, record, seconds]
  · simp [absolute, Reading.verdict?, Reading.fault, Reply.arrived]

theorem reply_after (servers : ApiServers reading) (client : Client) (request : Request)
    (earlier : Nat) :
    (servers.after client request).reply client earlier = servers.reply client (earlier + 1) := by
  unfold reply after left
  by_cases absolute : client.destination.isAbsolute = true
  · simp only [if_pos absolute, List.getD_eq_getElem?_getD, List.getElem?_drop, Nat.add_comm]
  · simp only [if_neg absolute]

theorem left_after (servers : ApiServers reading) (client : Client) (request : Request)
    (count : Nat) :
    (servers.after client request).left client count = servers.left client (count + 1) := by
  unfold left after left
  by_cases absolute : client.destination.isAbsolute = true
  · simp only [if_pos absolute, List.drop_drop, Nat.add_comm]
  · simp only [if_neg absolute]

theorem code_of_client? (found : servers.client? cluster = some client) :
    client.code = cluster := by
  have passes := List.find?_some found
  exact of_decide_eq_true passes

theorem isPresent_eq (found : servers.client? cluster = some client)
    (asks : lookup? name = some request) :
    servers.isPresent cluster name =
      (if reading.saysPresent (servers.reply client 0) then .ok true
        else if reading.saysMissing (servers.reply client 0) then .ok false
        else .error (.unreachable cluster
          (reading.fault (servers.reply client 0) cluster servers.seconds).message),
        servers.after client request) := by
  have code := code_of_client? found
  subst cluster
  simp only [isPresent, lookup, found, asks, exchange_eq]
  generalize servers.reply client 0 = reply
  cases reply with
  | silent | unreached cause => rfl
  | answered status body =>
      cases judged : reading.judge status body with
      | present | unreadable =>
          simp only [Reading.saysPresent, Reading.saysMissing, Reading.verdict?, Reading.fault,
            judged]
          rfl
      | refused refusal =>
          simp only [Reading.saysPresent, Reading.saysMissing, Reading.verdict?, Reading.fault,
            judged, Except.bind, presence]
          by_cases missing : refusal.reason = "NotFound" <;> simp [missing] <;> rfl

theorem create_eq (found : servers.client? cluster = some client) (name : String) :
    servers.create cluster name =
      (if reading.saysPresent (servers.reply client 0) ∨
          reading.saysConflict (servers.reply client 0) then .ok ()
        else .error (.createFailed
          (reading.fault (servers.reply client 0) cluster servers.seconds).message),
        servers.after client (creation name)) := by
  have code := code_of_client? found
  subst cluster
  simp only [create, createNamespace, found, exchange_eq]
  generalize servers.reply client 0 = reply
  cases reply with
  | silent | unreached cause => rfl
  | answered status body =>
      cases judged : reading.judge status body with
      | present | unreadable =>
          simp only [Reading.saysPresent, Reading.saysConflict, Reading.verdict?, Reading.fault,
            judged]
          rfl
      | refused refusal =>
          simp only [Reading.saysPresent, Reading.saysConflict, Reading.verdict?, Reading.fault,
            judged, Except.bind, creationResult, conflictCode]
          by_cases conflict : refusal.code = 409 <;> simp [conflict] <;> rfl

/-! ## Names and bodies -/

theorem isPathChar_of_isInner : ∀ character, Name.isInner character = true →
    Location.isPathChar character = true :=
  Name.forall_isInner (by decide +kernel)

theorem escapeChar_of_isInner : ∀ character, Name.isInner character = true →
    Json.escapeChar character = [character] :=
  Name.forall_isInner (by decide +kernel)

theorem lookup?_of_check (valid : Name.check name = .ok ()) :
    lookup? name = some ⟨.get, "/api/v1/namespaces/" ++ name, none⟩ := by
  have usable : isUsableName name = true := by
    rw [isUsableName, Bool.and_eq_true, List.all_eq_true, Bool.not_eq_true',
      String.isEmpty_eq_false_iff]
    refine ⟨Name.ne_empty_of_check valid, ?_⟩
    intro character member
    exact isPathChar_of_isInner character (Name.isInner_of_check valid character member)
  rw [lookup?, if_pos usable]
  rfl

/-- A valid name stands in a body as it is. -/
theorem writeString_of_check (valid : Name.check name = .ok ()) :
    Json.writeString name = '"' :: (name.toList ++ ['"']) := by
  have plain : ∀ character ∈ name.toList, Json.escapeChar character = [character] := by
    intro character member
    exact escapeChar_of_isInner character (Name.isInner_of_check valid character member)
  rw [Json.writeString, List.flatMap_congr plain, List.flatMap_singleton']

theorem write_creation (valid : Name.check name = .ok ()) :
    (creation name).body.map NamespaceObject.write =
      some ("\x7b\"apiVersion\":\"v1\",\"kind\":\"Namespace\",\"metadata\":".toList ++
        "\x7b\"labels\":\x7b\"app.kubernetes.io/managed-by\":\"nsregistry\"\x7d,".toList ++
        "\"name\":\"".toList ++ name.toList ++ "\"\x7d\x7d".toList) := by
  simp only [creation, NamespaceObject.write, Option.map_some, writeString_of_check valid,
    Json.writeObject, Json.writeMember, Json.joined, List.map_cons, List.map_nil,
    List.append_assoc, List.cons_append, List.nil_append]
  rfl

/-! ## Registering -/

open Registry

def looking (name : String) : Request :=
  ⟨.get, "/api/v1/namespaces/" ++ name, none⟩

/-- The servers after a registration. Only where the namespace is said to be missing is there a
second request. -/
def afterRegistering (servers : ApiServers reading) (client : Client) (name : String) :
    ApiServers reading :=
  if reading.saysMissing (servers.reply client 0) then
    (servers.after client (looking name)).after client (creation name)
  else servers.after client (looking name)

theorem afterRegistering_eq (servers : ApiServers reading) (client : Client) (name : String) :
    servers.afterRegistering client name =
      { servers with
        pending := servers.left client
          (if reading.saysMissing (servers.reply client 0) then 2 else 1)
        sent := servers.sent ++
          sending client.code client.destination (looking name) (servers.reply client 0) ++
          if reading.saysMissing (servers.reply client 0) then
            sending client.code client.destination (creation name) (servers.reply client 1)
          else [] } := by
  unfold afterRegistering
  by_cases missing : reading.saysMissing (servers.reply client 0) = true
  · simp only [if_pos missing]
    rw [after, reply_after, left_after, after]
  · simp only [if_neg missing, List.append_nil]
    rfl

variable (reading) in
/-- The two replies to a registration say that the namespace is on the cluster by now. -/
def Confirmed (looked made : Reply) : Prop :=
  reading.saysPresent looked ∨
    reading.saysMissing looked ∧ (reading.saysPresent made ∨ reading.saysConflict made)

instance (looked made : Reply) : Decidable (Confirmed reading looked made) :=
  inferInstanceAs (Decidable (_ ∨ _))

variable (reading) in
/-- What keeps a registration that is not confirmed from going on. -/
def obstacle (looked made : Reply) (cluster : Int64) (seconds : UInt64) : GatewayError :=
  if reading.saysMissing looked then .createFailed (reading.fault made cluster seconds).message
  else .unreachable cluster (reading.fault looked cluster seconds).message

theorem not_saysMissing_of_saysPresent {reply : Reply}
    (present : reading.saysPresent reply = true) : reading.saysMissing reply = false := by
  rw [Reading.saysMissing, of_decide_eq_true present]

theorem not_saysPresent_of_saysMissing {reply : Reply}
    (missing : reading.saysMissing reply = true) : reading.saysPresent reply = false := by
  rw [← Bool.not_eq_true]
  intro present
  rw [not_saysMissing_of_saysPresent present] at missing
  cases missing

theorem provide_eq (valid : Name.check name = .ok ())
    (found : servers.client? cluster = some client) :
    provide servers cluster name =
      (if Confirmed reading (servers.reply client 0) (servers.reply client 1) then .ok ()
        else .error (obstacle reading (servers.reply client 0) (servers.reply client 1) cluster
          servers.seconds),
        servers.afterRegistering client name) := by
  have foundAgain : (servers.after client (looking name)).client? cluster = some client := found
  have looks := isPresent_eq found (lookup?_of_check valid)
  have makes := create_eq foundAgain name
  simp only [provide, Gateway.isPresent, Gateway.create, looks, afterRegistering, Confirmed,
    obstacle]
  by_cases present : reading.saysPresent (servers.reply client 0) = true
  · simp [present, not_saysMissing_of_saysPresent present, looking]
  by_cases missing : reading.saysMissing (servers.reply client 0) = true
  · -- the first reply is used up, so the second request gets the one after it
    simp only [present, missing, Bool.false_eq_true, if_false, if_true, true_and, false_or]
    rw [← looking, makes, reply_after]
    rfl
  · simp [present, missing, looking]

section

variable [Store σ] [Readable σ] [LawfulStore σ] {world : World σ (ApiServers reading)}

open Readable

theorem run_register_of_registered (sound : Sound world.store) (valid : Name.check name = .ok ())
    (registered : (contents world.store).Registered name cluster) (caller : Principal)
    (stamp : Stamp) :
    world.run (register caller name cluster stamp) =
      (.error (alreadyRegistered name cluster), world) := by
  rcases Option.isSome_iff_exists.mp (List.find?_isSome.mpr registered) with ⟨record, found⟩
  simp only [run_register, valid, LawfulStore.findByPair sound, found]

theorem run_register_of_unknown (sound : Sound world.store) (valid : Name.check name = .ok ())
    (free : ¬(contents world.store).Registered name cluster)
    (unknown : world.gateway.client? cluster = none) (caller : Principal) (stamp : Stamp) :
    world.run (register caller name cluster stamp) =
      (.error (GatewayError.clusterNotFound cluster).toRegistry, world) := by
  have fails : provide world.gateway cluster name =
      (.error (.clusterNotFound cluster), world.gateway) := by
    simp only [provide, Gateway.isPresent, isPresent, lookup, unknown]
    rfl
  simp only [run_register, valid, findByPair_of_free sound free, fails]

theorem run_register_of_client (sound : Sound world.store) (valid : Name.check name = .ok ())
    (free : ¬(contents world.store).Registered name cluster)
    (found : world.gateway.client? cluster = some client) (caller : Principal) (stamp : Stamp) :
    let looked := world.gateway.reply client 0
    let made := world.gateway.reply client 1
    let next := { world with gateway := world.gateway.afterRegistering client name }
    world.run (register caller name cluster stamp) =
      if Confirmed reading looked made then next.run (enter caller name cluster stamp)
      else (.error (obstacle reading looked made cluster world.gateway.seconds).toRegistry, next) := by
  intro looked made next
  simp only [run_register, valid, findByPair_of_free sound free, provide_eq valid found]
  by_cases confirmed : Confirmed reading looked made
  · rw [if_pos confirmed, if_pos confirmed]
  · rw [if_neg confirmed, if_neg confirmed]

/-- What the two replies make of the registration of a free name, where the cluster has a client. -/
structure FollowsReplies (world : World σ (ApiServers reading)) (client : Client) (draft : Draft)
    (outcome : Except RegistryError Registration × World σ (ApiServers reading))
    (looked made : Reply) : Prop where
  gateway : outcome.2.gateway =
    { world.gateway with
      pending := world.gateway.left client (if reading.saysMissing looked then 2 else 1)
      sent := world.gateway.sent ++
        sending draft.cluster client.destination
          ⟨.get, "/api/v1/namespaces/" ++ draft.name, none⟩ looked ++
        if reading.saysMissing looked then
          sending draft.cluster client.destination ⟨.post, "/api/v1/namespaces?",
            some ⟨draft.name, [("app.kubernetes.io/managed-by", "nsregistry")]⟩⟩ made
        else [] }
  entered : Accepts world.store draft → Confirmed reading looked made →
    ∃ record, outcome.1 = .ok record ∧
      (contents world.store).Enters (contents outcome.2.store) draft record
  notFound : ¬reading.saysPresent looked → ¬reading.saysMissing looked →
    outcome.2.store = world.store ∧
    outcome.1 = .error (.notFound ("Cluster " ++ Text.decimal draft.cluster.toInt ++
      " is not reachable: " ++
      (reading.fault looked draft.cluster world.gateway.seconds).message))
  notCreated : reading.saysMissing looked → ¬reading.saysPresent made →
    ¬reading.saysConflict made →
    outcome.2.store = world.store ∧
    outcome.1 = .error
      (.externalCreateFailure (reading.fault made draft.cluster world.gateway.seconds).message)

theorem followsReplies_register (sound : Sound world.store) (valid : Name.check name = .ok ())
    (free : ¬(contents world.store).Registered name cluster)
    (found : world.gateway.client? cluster = some client) (caller : Principal) (stamp : Stamp) :
    FollowsReplies world client (draft caller name cluster stamp)
      (world.run (register caller name cluster stamp)) (world.gateway.reply client 0)
      (world.gateway.reply client 1) := by
  have runs := run_register_of_client sound valid free found caller stamp
  have code := code_of_client? found
  have gatewayAfter : (world.run (register caller name cluster stamp)).2.gateway =
      world.gateway.afterRegistering client name := by
    rw [runs]
    split
    · rw [run_enter]
    · rfl
  have fails (unconfirmed : ¬Confirmed reading (world.gateway.reply client 0)
      (world.gateway.reply client 1)) :
      (world.run (register caller name cluster stamp)).2.store = world.store ∧
      (world.run (register caller name cluster stamp)).1 =
        .error (obstacle reading (world.gateway.reply client 0) (world.gateway.reply client 1)
          cluster world.gateway.seconds).toRegistry := by
    rw [runs, if_neg unconfirmed]
    exact ⟨rfl, rfl⟩
  constructor
  · rw [gatewayAfter, afterRegistering_eq, code]
    rfl
  · intro accepts confirmed
    rw [runs, if_pos confirmed, run_enter]
    have outcome := LawfulStore.insert sound (draft caller name cluster stamp)
    rw [Accepts] at accepts
    generalize Store.insert world.store (draft caller name cluster stamp) = result
      at outcome accepts
    cases outcome with
    | conflict text taken => exact absurd taken free
    | failed text => exact absurd rfl (accepts text)
    | entered record next nextSound enters => exact ⟨record, rfl, enters⟩
  · intro notPresent notMissing
    have failed := fails (by simp [Confirmed, notPresent, notMissing])
    rw [obstacle, if_neg notMissing] at failed
    exact failed
  · intro missing notPresent noConflict
    have looked := not_saysPresent_of_saysMissing missing
    have failed := fails (by simp [Confirmed, looked, notPresent, noConflict])
    rw [obstacle, if_pos missing] at failed
    exact failed

/-- Where a name is invalid or registered, or there is no client for the cluster, nothing is sent.
Otherwise the replies of the API server decide. -/
theorem registration_follows_replies (sound : Sound world.store) (caller : Principal)
    (name : String) (cluster : Int64) (stamp : Stamp) :
    let outcome := world.run (register caller name cluster stamp)
    (∀ fault, Name.check name = .error fault → outcome = (.error fault.toRegistry, world)) ∧
    (Name.check name = .ok () →
      ((contents world.store).Registered name cluster →
        outcome = (.error (alreadyRegistered name cluster), world)) ∧
      (¬(contents world.store).Registered name cluster →
        (world.gateway.client? cluster = none →
          outcome = (.error (GatewayError.clusterNotFound cluster).toRegistry, world)) ∧
        ∀ client, world.gateway.client? cluster = some client →
          FollowsReplies world client (draft caller name cluster stamp) outcome
            (world.gateway.reply client 0) (world.gateway.reply client 1))) ∧
    (Name.check name = .ok () →
      (creation name).body.map NamespaceObject.write =
        some ("\x7b\"apiVersion\":\"v1\",\"kind\":\"Namespace\",\"metadata\":".toList ++
          "\x7b\"labels\":\x7b\"app.kubernetes.io/managed-by\":\"nsregistry\"\x7d,".toList ++
          "\"name\":\"".toList ++ name.toList ++ "\"\x7d\x7d".toList)) := by
  intro outcome
  refine ⟨?_, ?_, write_creation⟩
  · intro fault invalid
    simp only [outcome, run_register, invalid]
  · intro valid
    refine ⟨fun registered => run_register_of_registered sound valid registered caller stamp, ?_⟩
    intro free
    exact ⟨fun unknown => run_register_of_unknown sound valid free unknown caller stamp,
      fun client found => followsReplies_register sound valid free found caller stamp⟩

end

/-! A server that is about to answer as told. -/

def scripted (replies : List Reply) : World Memory (ApiServers .typed) :=
  ⟨.empty, ⟨[⟨100, "dev", "https://10.0.0.1:6443", ⟨some "https", "10.0.0.1:6443", ""⟩⟩], 5000,
    replies, []⟩⟩

def answering (code : Nat) (body : String) : Reply :=
  .answered code (Text.Utf8.encode body.toList)

def refusing (code : Nat) (reason : String) : Reply :=
  answering code ("\x7b\"status\":\"Failure\",\"reason\":\"" ++ reason ++
    "\",\"code\":" ++ Text.decimal code ++ "\x7d")

def providing (code : Nat) : Reply :=
  answering code "\x7b\"kind\":\"Namespace\",\"apiVersion\":\"v1\",\"metadata\":\x7b\x7d\x7d"

theorem missing_name_is_created :
    let world := scripted [refusing 404 "NotFound", providing 201]
    let outcome := world.run (register ⟨7, "alice", .general⟩ "team-x" 100 ⟨1, .epoch⟩)
    let url := "https://10.0.0.1:6443/api/v1/namespaces"
    (∃ record, outcome.1 = .ok record ∧ record.pair = ("team-x", 100)) ∧
    outcome.2.gateway.sent.map (fun sent => (sent.request.method, sent.url)) =
      [(.get, url ++ "/team-x"), (.post, url ++ "?")] := by
  intro world outcome url
  have sound : Readable.Sound world.store := Memory.sound_empty
  have decided := (registration_follows_replies sound ⟨7, "alice", .general⟩ "team-x" 100
    ⟨1, .epoch⟩).2.1 (by decide +kernel)
  have follows := (decided.2 (by decide)).2 _ rfl
  refine ⟨?_, ?_⟩
  · rcases follows.entered (accepts_of_faultless sound (by decide)) (by decide +kernel) with
      ⟨record, registered, enters⟩
    exact ⟨record, registered, enters.pair⟩
  · simp only [outcome, follows.gateway]
    decide +kernel

/-! ## Presence

The server has to report the namespace before it is registered. Its refusal to create it counts as a
report by the code alone, which other refusals may have, too. -/

theorem refusal_of_saysConflict {reply : Reply} (conflict : reading.saysConflict reply = true) :
    ∃ refusal, reading.verdict? reply = some (.refused refusal) ∧ refusal.code = 409 := by
  unfold Reading.saysConflict at conflict
  split at conflict
  · next refusal judged => exact ⟨refusal, judged, of_decide_eq_true conflict⟩
  · cases conflict

variable (reading) in
/-- The server has reported the namespace, or it has refused to create it with the code for what
exists, and another reason. -/
def Reported (looked made : Reply) : Prop :=
  reading.saysPresent looked ∨
    reading.saysMissing looked ∧
      (reading.saysPresent made ∨ reading.saysExists made ∨
        ∃ refusal, reading.verdict? made = some (.refused refusal) ∧
          refusal.code = 409 ∧ refusal.reason ≠ "AlreadyExists")

theorem reported_of_confirmed {looked made : Reply} (confirmed : Confirmed reading looked made) :
    Reported reading looked made := by
  rcases confirmed with present | ⟨missing, present | conflict⟩
  · exact .inl present
  · exact .inr ⟨missing, .inl present⟩
  · rcases refusal_of_saysConflict conflict with ⟨refusal, judged, code⟩
    by_cases taken : refusal.reason = "AlreadyExists"
    · refine .inr ⟨missing, .inr (.inl ?_)⟩
      simp [Reading.saysExists, judged, code, taken]
    · exact .inr ⟨missing, .inr (.inr ⟨refusal, judged, code, taken⟩)⟩

/-- Where a registration succeeds, or changes the store at all, the server has reported the
namespace, or it has refused to create it with the code for what exists, and another reason. -/
theorem registered_name_is_reported [Store σ] [Readable σ] [LawfulStore σ]
    {world : World σ (ApiServers reading)} (sound : Readable.Sound world.store)
    (caller : Principal) (name : String) (cluster : Int64) (stamp : Stamp)
    (registered :
      (∃ record, (world.run (register caller name cluster stamp)).1 = .ok record) ∨
        (world.run (register caller name cluster stamp)).2.store ≠ world.store) :
    ∃ client, world.gateway.client? cluster = some client ∧
      Reported reading (world.gateway.reply client 0) (world.gateway.reply client 1) := by
  -- every way to end before the insert fails and leaves the store
  have notLeft (error : RegistryError) (gateway : ApiServers reading) :
      world.run (register caller name cluster stamp) ≠ (.error error, { world with gateway }) := by
    intro left
    rw [left] at registered
    rcases registered with ⟨record, equal⟩ | changed
    · cases equal
    · exact changed rfl
  cases valid : Name.check name with
  | error fault =>
      refine absurd ?_ (notLeft fault.toRegistry world.gateway)
      simp only [run_register, valid]
  | ok _ =>
      by_cases taken : (Readable.contents world.store).Registered name cluster
      · exact absurd (run_register_of_registered sound valid taken caller stamp) (notLeft _ _)
      cases found : world.gateway.client? cluster with
      | none =>
          exact absurd (run_register_of_unknown sound valid taken found caller stamp) (notLeft _ _)
      | some client =>
          have runs := run_register_of_client sound valid taken found caller stamp
          by_cases confirmed : Confirmed reading (world.gateway.reply client 0)
              (world.gateway.reply client 1)
          · exact ⟨client, rfl, reported_of_confirmed confirmed⟩
          · exact absurd (runs.trans (if_neg confirmed)) (notLeft _ _)

theorem name_that_exists_is_reported :
    let world := scripted [refusing 404 "NotFound", refusing 409 "AlreadyExists"]
    let outcome := world.run (register ⟨7, "alice", .general⟩ "team-x" 100 ⟨1, .epoch⟩)
    (∃ record, outcome.1 = .ok record) ∧
    (∃ client, world.gateway.client? 100 = some client ∧
      Reported .typed (world.gateway.reply client 0) (world.gateway.reply client 1) ∧
      Reading.typed.saysExists (world.gateway.reply client 1)) := by
  intro world outcome
  have sound : Readable.Sound world.store := Memory.sound_empty
  have registered : ∃ record, outcome.1 = .ok record :=
    ⟨⟨1, 1, "team-x", 100, 7, .epoch, .epoch⟩, by decide +kernel⟩
  rcases registered_name_is_reported sound ⟨7, "alice", .general⟩ "team-x" 100 ⟨1, .epoch⟩
    (.inl registered) with ⟨client, found, reported⟩
  cases found
  exact ⟨registered, _, rfl, reported, by decide +kernel⟩

/-- The server tells of a conflict, and not that it has the namespace. -/
theorem conflict_of_another_kind_registers :
    let world := scripted [refusing 404 "NotFound", refusing 409 "Conflict"]
    let outcome := world.run (register ⟨7, "alice", .general⟩ "team-x" 100 ⟨1, .epoch⟩)
    (∃ record, outcome.1 = .ok record) ∧
    ∃ client, world.gateway.client? 100 = some client ∧
      ¬Reading.typed.saysPresent (world.gateway.reply client 0) ∧
      ¬Reading.typed.saysPresent (world.gateway.reply client 1) ∧
      ¬Reading.typed.saysExists (world.gateway.reply client 1) := by
  intro world outcome
  refine ⟨⟨⟨1, 1, "team-x", 100, 7, .epoch, .epoch⟩, ?_⟩, _, rfl, ?_⟩
  · decide +kernel
  · decide +kernel

end ApiServers

end Tenancy
