import Tenancy.Instant.Text
import Tenancy.Text.Decimal
import Tenancy.Validation

/-! What can go wrong, level by level: in a store or a cluster gateway, in the registry above them,
and in the answer to an HTTP request. Each level has its own causes, one wording per cause, and a map
to the level above. -/

namespace Tenancy

open Tenancy.Text

/-! ## Stores, gateways and the system around them -/

inductive StoreError where
  /-- The name and cluster are registered already. -/
  | conflict (text : String)
  | notFound (id : Int64)
  | backend (text : String)
  deriving DecidableEq, Repr

namespace StoreError

def message : StoreError → String
  | .conflict text => "Conflict: " ++ text
  | .notFound id => "Namespace " ++ decimal id.toInt ++ " not found"
  | .backend text => "Store backend error: " ++ text

end StoreError

inductive GatewayError where
  | clusterNotFound (cluster : Int64)
  | unreachable (cluster : Int64) (reason : String)
  | createFailed (text : String)
  deriving DecidableEq, Repr

namespace GatewayError

def message : GatewayError → String
  | .clusterNotFound cluster => "Cluster not found: " ++ decimal cluster.toInt
  | .unreachable cluster reason => "Cluster " ++ decimal cluster.toInt ++ " unreachable: " ++ reason
  | .createFailed text => "Failed to create namespace on cluster: " ++ text

end GatewayError

inductive SystemError where
  | invalidConfig (text : String)
  | validation (text : String)
  | system (text : String)
  /-- The wording of the operating system. -/
  | io (text : String)
  deriving DecidableEq, Repr

namespace SystemError

def message : SystemError → String
  | .invalidConfig text => "Invalid configuration: " ++ text
  | .validation text => "Validation error: " ++ text
  | .system text => "System error: " ++ text
  | .io text => "IO error: " ++ text

end SystemError

namespace ValidationFault

def toSystem (fault : ValidationFault) : SystemError :=
  .validation fault.message

end ValidationFault

/-! ## The registry -/

inductive RegistryError where
  | notFound (text : String)
  | conflict (text : String)
  | forbidden (text : String)
  | inUse (text : String)
  | externalCreateFailure (text : String)
  | invalidArgument (text : String)
  | store (text : String)
  deriving DecidableEq, Repr

namespace RegistryError

def message : RegistryError → String
  | .notFound text => "Not found: " ++ text
  | .conflict text => "Conflict: " ++ text
  | .forbidden text => "Forbidden: " ++ text
  | .inUse text => "Namespace in use: " ++ text
  | .externalCreateFailure text => "External create failed: " ++ text
  | .invalidArgument text => "Invalid argument: " ++ text
  | .store text => "Store error: " ++ text

/-- The part of the wording that tells the cause. -/
def text : RegistryError → String
  | .notFound text | .conflict text | .forbidden text | .inUse text | .externalCreateFailure text
  | .invalidArgument text | .store text => text

end RegistryError

namespace StoreError

def toRegistry : StoreError → RegistryError
  | .conflict text => .conflict text
  | .notFound id => .notFound ("Namespace " ++ decimal id.toInt ++ " not found")
  | .backend text => .store text

end StoreError

namespace GatewayError

def toRegistry : GatewayError → RegistryError
  | .clusterNotFound cluster => .notFound ("Cluster " ++ decimal cluster.toInt ++ " not found")
  | .unreachable cluster reason =>
      .notFound ("Cluster " ++ decimal cluster.toInt ++ " is not reachable: " ++ reason)
  | .createFailed text => .externalCreateFailure text

end GatewayError

namespace SystemError

/-- A failed validation is the caller's fault; anything else is reported with its full wording. -/
def toRegistry : SystemError → RegistryError
  | .validation text => .invalidArgument text
  | other => .store other.message

end SystemError

namespace ValidationFault

def toRegistry (fault : ValidationFault) : RegistryError :=
  fault.toSystem.toRegistry

end ValidationFault

/-! ## Answers to requests -/

inductive ApiError where
  | internal (text : String)
  | notFound (text : String)
  | forbidden (text : String)
  | badRequest (text : String)
  | conflict (text : String)
  | inUse (text : String)
  | badGateway (text : String)
  deriving DecidableEq, Repr

namespace RegistryError

def toApi : RegistryError → ApiError
  | .notFound text => .notFound text
  | .conflict text => .conflict text
  | .forbidden text => .forbidden text
  | .inUse text => .inUse text
  | .externalCreateFailure text => .badGateway text
  | .invalidArgument text => .badRequest text
  | .store text => .internal text

end RegistryError

namespace SystemError

def toApi : SystemError → ApiError
  | .invalidConfig text => .badRequest text
  | .validation text => .badRequest text
  | .system text => .internal text
  | .io text => .internal ("I/O error: " ++ text)

end SystemError

/-- The body of an answer that reports a failure. -/
structure ErrorReport where
  status : UInt16
  error : String
  message : String
  details : Option String
  timestamp : String
  deriving DecidableEq, Repr

namespace ErrorReport

def new (status : UInt16) (error message : String) (now : Instant) : ErrorReport where
  status := status
  error := error
  message := message
  details := none
  timestamp := .ofList now.writeOffset

def withDetails (report : ErrorReport) (details : String) : ErrorReport :=
  { report with details := some details }

end ErrorReport

namespace ApiError

/-- The cause of a fault inside the server or on a cluster goes to the details. -/
def report (error : ApiError) (now : Instant) : ErrorReport :=
  match error with
  | .internal text =>
      (ErrorReport.new 500 "INTERNAL_ERROR" "An internal server error occurred" now).withDetails text
  | .notFound text => .new 404 "NOT_FOUND" text now
  | .forbidden text => .new 403 "FORBIDDEN" text now
  | .badRequest text => .new 400 "BAD_REQUEST" text now
  | .conflict text => .new 409 "CONFLICT" text now
  | .inUse text => .new 409 "IN_USE" text now
  | .badGateway text =>
      (ErrorReport.new 502 "EXTERNAL_CREATE_FAILED" "Cluster operation failed" now).withDetails text

end ApiError

end Tenancy
