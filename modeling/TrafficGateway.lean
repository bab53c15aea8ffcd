import TrafficGateway.Balance.Split
import TrafficGateway.Config.CommandLine
import TrafficGateway.Config.File
import TrafficGateway.Dict
import TrafficGateway.Discovery.Cache
import TrafficGateway.Discovery.Flight
import TrafficGateway.Discovery.Flight.Clock
import TrafficGateway.Discovery.Loads
import TrafficGateway.Discovery.Notifier
import TrafficGateway.Discovery.Registry
import TrafficGateway.Discovery.System
import TrafficGateway.Discovery.Watcher
import TrafficGateway.Document.Decode
import TrafficGateway.Forward.Endpoint
import TrafficGateway.Forward.Exchange
import TrafficGateway.Forward.Hop
import TrafficGateway.Forward.Path
import TrafficGateway.Forward.Retry
import TrafficGateway.Gateway.Handling
import TrafficGateway.Gateway.Registration
import TrafficGateway.Gateway.Service
import TrafficGateway.Gateway.Transport
import TrafficGateway.Http.Address
import TrafficGateway.Http.Request
import TrafficGateway.Http.Response
import TrafficGateway.Http.Written
import TrafficGateway.Json.Reader
import TrafficGateway.Json.Writer
import TrafficGateway.Main
import TrafficGateway.Partition.ServiceTable
import TrafficGateway.Regex.Engine
import TrafficGateway.Regex.Reader
import TrafficGateway.Route.Report
import TrafficGateway.Route.Spec
import TrafficGateway.Route.Table
import TrafficGateway.Scenario.Config
import TrafficGateway.Scenario.Discovery
import TrafficGateway.Scenario.Gateway
import TrafficGateway.Scenario.Hooks
import TrafficGateway.Scenario.Stream
import TrafficGateway.Schema.Route
import TrafficGateway.Stream.Channel
import TrafficGateway.Stream.Pump
import TrafficGateway.Stream.Turns
import TrafficGateway.Text.Blank
import TrafficGateway.Text.Fold
import TrafficGateway.Text.Property
import TrafficGateway.Text.Quoted
import TrafficGateway.Text.Script
import TrafficGateway.Yaml.Reader
import TrafficGateway.Proofs.Route.Expression
import TrafficGateway.Proofs.Route.Table
import TrafficGateway.Proofs.Gateway.Lookup
import TrafficGateway.Proofs.Gateway.Registration
import TrafficGateway.Proofs.Stream.Channel
import TrafficGateway.Proofs.Discovery.Subscribers
import TrafficGateway.Proofs.Discovery.Cache
import TrafficGateway.Proofs.Balance.Proportion
import TrafficGateway.Proofs.Balance.Selector
import TrafficGateway.Proofs.Route.Evaluation
import TrafficGateway.Proofs.Discovery.ServeStale
import TrafficGateway.Proofs.Partition.Version
import TrafficGateway.Proofs.Partition.Nearby
import TrafficGateway.Proofs.Discovery.Flight
import TrafficGateway.Proofs.Partition.Preference
import TrafficGateway.Proofs.Discovery.Flight.History
import TrafficGateway.Proofs.Discovery.Flight.Handover
import TrafficGateway.Proofs.Discovery.Flight.Sharing
import TrafficGateway.Proofs.Forward.Attempts
import TrafficGateway.Proofs.Stream.Pump
import TrafficGateway.Proofs.Gateway.Refusal
import TrafficGateway.Proofs.Gateway.Acceptance
import TrafficGateway.Proofs.Partition.Sticky
import TrafficGateway.Proofs.Stream.Turns
import TrafficGateway.Proofs.Text.Pieces
import TrafficGateway.Proofs.Forward.Hop
import TrafficGateway.Proofs.Forward.Target
import TrafficGateway.Proofs.Discovery.Loads
import TrafficGateway.Proofs.Discovery.Loads.Step
import TrafficGateway.Proofs.Discovery.Loads.Values
import TrafficGateway.Proofs.Discovery.Loads.Fetches
import TrafficGateway.Proofs.Discovery.Loads.WriteBack
import TrafficGateway.Proofs.Discovery.Changes
import TrafficGateway.Proofs.Http.Headers
import TrafficGateway.Proofs.Forward.Chain
import TrafficGateway.Proofs.Balance.Interleaving
import TrafficGateway.Proofs.Balance.Cycle
import TrafficGateway.Proofs.Partition.Independence
import TrafficGateway.Proofs.Discovery.Notifier
import TrafficGateway.Proofs.Discovery.Publishing
import TrafficGateway.Proofs.Discovery.Atomicity
import TrafficGateway.Proofs.Route.Buckets
import TrafficGateway.Proofs.Route.Acceptance
import TrafficGateway.Proofs.Regex.Cache
import TrafficGateway.Proofs.Middleware.Chain
import TrafficGateway.Proofs.Gateway.Service
import TrafficGateway.Proofs.Http.Readable
import TrafficGateway.Proofs.Gateway.Later
import TrafficGateway.Proofs.Gateway.Promises
import TrafficGateway.Proofs.Forward.Host
import TrafficGateway.Proofs.Http.Authority
import TrafficGateway.Proofs.Forward.Endpoint
import TrafficGateway.Proofs.Gateway.Accounting
import TrafficGateway.Proofs.Gateway.Following
import TrafficGateway.Proofs.Gateway.Sharing
import TrafficGateway.Proofs.Route.Insertions
import TrafficGateway.Proofs.Balance.Fairness
import TrafficGateway.Proofs.Balance.Split
import TrafficGateway.Proofs.Text.Numeral
import TrafficGateway.Proofs.Http.Address
import TrafficGateway.Proofs.Document.Decode
import TrafficGateway.Proofs.Document.Depth
import TrafficGateway.Proofs.Json.Written
import TrafficGateway.Proofs.Json.Read
import TrafficGateway.Proofs.Config.Written
import TrafficGateway.Proofs.Config.RoundTrip
import TrafficGateway.Proofs.Hash
import TrafficGateway.Proofs.Forward.Backoff
import TrafficGateway.Proofs.Balance.Loop
