import Webhook.Deadline
import Webhook.Http.RequestLog
import Webhook.Main
import Webhook.Proofs.Json.Grammar
import Webhook.Proofs.Utf8
import Webhook.Proofs.Json.Phases
import Webhook.Proofs.Json.Tokens
import Webhook.Proofs.Json.Documents
import Webhook.Proofs.Json.Scalars
import Webhook.Proofs.Json.Values
import Webhook.Proofs.Json.Readings
import Webhook.Proofs.Json.RoundTrip
import Webhook.Proofs.Review.Codec
import Webhook.Proofs.Handler
import Webhook.Proofs.Json.Fields
import Webhook.Proofs.Review.WireFormat
import Webhook.Proofs.Http.LiteralRoutes
import Webhook.Proofs.Policy.Scope
import Webhook.Proofs.Routes
import Webhook.Proofs.Daemon.Wiring
import Webhook.Proofs.Policy.Annotations
import Webhook.Proofs.Daemon.Requirements
import Webhook.Proofs.Server.Moves
import Webhook.Proofs.Server.Owner
import Webhook.Proofs.Server.Stopped
import Webhook.Proofs.Http.ClosedRoutes
import Webhook.Proofs.Dispatch
import Webhook.Proofs.Audit
import Webhook.Proofs.Json.Spelling
import Webhook.Proofs.Json.Respelling
import Webhook.Proofs.Json.Widening
import Webhook.Proofs.Review.Spelling
import Webhook.Proofs.Policy.Objects
import Webhook.Proofs.Policy.Governed
import Webhook.Proofs.Json.Relaxed
import Webhook.Proofs.Review.Readers
import Webhook.Proofs.Policy.Assignments
import Webhook.Proofs.Policy.LoadBalancers
import Webhook.Proofs.Pattern.Matching
import Webhook.Proofs.Pattern.Bare
import Webhook.Proofs.Pattern.Steady
import Webhook.Proofs.Pattern.Escapes
import Webhook.Proofs.Pattern.Openings
import Webhook.Proofs.Pattern.Sets
import Webhook.Proofs.Pattern.Moves
import Webhook.Proofs.Pattern.Fates
import Webhook.Proofs.Pattern.Counts
import Webhook.Proofs.Pattern.Wrapping
import Webhook.Proofs.Policy.WholeValues
import Webhook.Proofs.Json.Repeats
import Webhook.Proofs.Deadlines
import Webhook.Proofs.Review.Ambiguity
import Webhook.Proofs.Policy.ClusterScope
import Webhook.Proofs.Server.Listening
import Webhook.Proofs.Server.Serving
import Webhook.Proofs.RequestLog
import Webhook.Proofs.Daemon.Startup
import Webhook.Proofs.CommandLine.ListOptions
import Webhook.Proofs.Tls.Asides
import Webhook.Proofs.Tls.Stages
import Webhook.Proofs.Http.MediaTypes
import Webhook.Proofs.Index
import Webhook.Proofs.Gate
import Webhook.Proofs.LogFilter
import Webhook.Proofs.Policy.RequirementTexts
