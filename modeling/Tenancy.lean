import Tenancy.Cluster.Connector
import Tenancy.Cluster.Verdict
import Tenancy.Fault
import Tenancy.Gateway.ApiServers
import Tenancy.Gateway.Clusters
import Tenancy.Http.Service
import Tenancy.Main
import Tenancy.Store.Memory
import Tenancy.Proofs.Store.Contents
import Tenancy.Proofs.Store.Lawful
import Tenancy.Proofs.Store.Database
import Tenancy.Proofs.Store.Memory
import Tenancy.Proofs.Store.Migration
import Tenancy.Proofs.History.Operation
import Tenancy.Proofs.Registry.Listing
import Tenancy.Proofs.Registry.Placing
import Tenancy.Proofs.History.Change
import Tenancy.Proofs.History.Consistency
import Tenancy.Proofs.History.Interleaving
import Tenancy.Proofs.History.Privacy
import Tenancy.Proofs.History.Race
import Tenancy.Proofs.History.Guard
import Tenancy.Proofs.History.Agreement
import Tenancy.Proofs.History.Isolation
import Tenancy.Proofs.History.Sharing
import Tenancy.Proofs.History.Listings
import Tenancy.Proofs.Gateway.Clusters
import Tenancy.Proofs.Validation
import Tenancy.Proofs.Gateway.ApiServers
import Tenancy.Proofs.History.Presence
import Tenancy.Proofs.History.Retry
import Tenancy.Proofs.History.Resumption
import Tenancy.Proofs.Http.Authentication
import Tenancy.Proofs.Text.Base64Url
import Tenancy.Proofs.Text.Decimal
import Tenancy.Proofs.Text.Utf8
import Tenancy.Proofs.Json.Scalar
import Tenancy.Proofs.Json.Record
import Tenancy.Proofs.Wire.Identity
import Tenancy.Proofs.Token.Bearer
import Tenancy.Proofs.Token.Lifetime
import Tenancy.Proofs.Http.Failure
import Tenancy.Proofs.Registry.Effect
import Tenancy.Proofs.Http.Effect
import Tenancy.Proofs.Calendar
import Tenancy.Proofs.Instant.Text
import Tenancy.Proofs.Json.Array
import Tenancy.Proofs.Wire.RoundTrip
import Tenancy.Proofs.History.Pages
import Tenancy.Proofs.Registry.Registering
import Tenancy.Proofs.History.Deregistering
import Tenancy.Proofs.Label
import Tenancy.Proofs.Token.Issuing
import Tenancy.Proofs.Token.Acceptance
import Tenancy.Proofs.History.Prediction
import Tenancy.Proofs.History.Searching
import Tenancy.Proofs.Store.Deletion
import Tenancy.Proofs.History.Clashing
import Tenancy.Proofs.History.Timestamps
import Tenancy.Proofs.History.References
import Tenancy.Proofs.Settings.Resolution
import Tenancy.Proofs.Settings.Sample
import Tenancy.Proofs.Gateway.Destination
import Tenancy.Proofs.Gateway.Routing
import Tenancy.Proofs.Code
