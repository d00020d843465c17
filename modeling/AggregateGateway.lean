import AggregateGateway.Cli.Arguments
import AggregateGateway.Cli.LogFilter
import AggregateGateway.Cli.Run
import AggregateGateway.Config.Document
import AggregateGateway.Config.Environment
import AggregateGateway.Config.Load
import AggregateGateway.Config.Settings
import AggregateGateway.Context
import AggregateGateway.Files.Access
import AggregateGateway.Files.Tree
import AggregateGateway.Gateway.Endpoint
import AggregateGateway.Gateway.Exchange
import AggregateGateway.Gateway.Interface
import AggregateGateway.Gateway.RequestContext
import AggregateGateway.Gateway.Service
import AggregateGateway.Http.Address
import AggregateGateway.Http.Authority
import AggregateGateway.Http.Cookie
import AggregateGateway.Http.Form
import AggregateGateway.Http.MediaType
import AggregateGateway.Http.Message
import AggregateGateway.Http.Percent
import AggregateGateway.Http.Target
import AggregateGateway.Json.Decode
import AggregateGateway.Json.Numeral
import AggregateGateway.Json.Reader
import AggregateGateway.Json.Shape
import AggregateGateway.Json.Value
import AggregateGateway.Json.Writer
import AggregateGateway.Map.OrderedMap
import AggregateGateway.Map.SortedMap
import AggregateGateway.Model.Aggregate
import AggregateGateway.Model.Field
import AggregateGateway.Number.Binary64
import AggregateGateway.Number.Digits
import AggregateGateway.Number.Shortest
import AggregateGateway.Resolver.Envelope
import AggregateGateway.Resolver.Graph
import AggregateGateway.Resolver.Receiver
import AggregateGateway.Resolver.Resolve
import AggregateGateway.Resolver.Transport
import AggregateGateway.Routing.Cache
import AggregateGateway.Routing.Forward
import AggregateGateway.Routing.Reroute
import AggregateGateway.Routing.Table
import AggregateGateway.Schema.Compile
import AggregateGateway.Schema.Overlay
import AggregateGateway.Schema.Surface
import AggregateGateway.Schema.Text
import AggregateGateway.Store.Directory
import AggregateGateway.Store.Document
import AggregateGateway.Store.Memory
import AggregateGateway.Text.Alphanumeric
import AggregateGateway.Text.CodeRanges
import AggregateGateway.Text.Printable
import AggregateGateway.Text.Quoted
import AggregateGateway.Text.Split
import AggregateGateway.Text.Utf8
import AggregateGateway.Text.WhiteSpace
import AggregateGateway.Transaction
import AggregateGateway.Uuid
import AggregateGateway.Yaml.Cursor
import AggregateGateway.Yaml.Json
import AggregateGateway.Yaml.Node
import AggregateGateway.Yaml.Scalar
import AggregateGateway.Yaml.Token
import AggregateGateway.Yaml.Token.Lexer
import AggregateGateway.Yaml.Token.Scalar
import AggregateGateway.Yaml.Writer
import AggregateGateway.Main
import AggregateGateway.Proofs.List.First
import AggregateGateway.Proofs.Map.OrderedMap
import AggregateGateway.Proofs.Resolver.Precedence
import AggregateGateway.Proofs.Gateway.Exchange
import AggregateGateway.Proofs.Resolver.Resolve
import AggregateGateway.Proofs.Resolver.Agreement
import AggregateGateway.Proofs.Json.Record
import AggregateGateway.Proofs.Transaction
import AggregateGateway.Proofs.Resolver.Receiver
import AggregateGateway.Proofs.Resolver.Confinement
import AggregateGateway.Proofs.Resolver.RemoteCall
import AggregateGateway.Proofs.Resolver.TransactionRun
import AggregateGateway.Proofs.Routing.Reroute
import AggregateGateway.Proofs.Routing.Recency
import AggregateGateway.Proofs.Routing.Uncached
import AggregateGateway.Proofs.Map.SortedMap
import AggregateGateway.Proofs.Json.Path
import AggregateGateway.Proofs.Model.Addressed
import AggregateGateway.Proofs.Gateway.Interface
import AggregateGateway.Proofs.Gateway.Rerouting
import AggregateGateway.Proofs.Gateway.Endpoints
import AggregateGateway.Proofs.Gateway.Failures
import AggregateGateway.Proofs.Gateway.ContextOrigin
import AggregateGateway.Proofs.Model.PartialDecoding
import AggregateGateway.Proofs.Gateway.Answer
import AggregateGateway.Proofs.Resolver.ContextFlow
import AggregateGateway.Proofs.Text.SplitOn
import AggregateGateway.Proofs.Json.RoundTrip
import AggregateGateway.Proofs.Schema.Overlay
import AggregateGateway.Proofs.Schema.Privacy
import AggregateGateway.Proofs.Schema.Headings
import AggregateGateway.Proofs.Schema.Layout
import AggregateGateway.Proofs.Schema.Outline
import AggregateGateway.Proofs.Model.Encoding
import AggregateGateway.Proofs.Model.DeclaredField
import AggregateGateway.Proofs.Routing.Interleaving
import AggregateGateway.Proofs.Routing.Concurrent
import AggregateGateway.Proofs.Routing.Versions
import AggregateGateway.Proofs.Routing.Matching
import AggregateGateway.Proofs.Routing.Passthrough
import AggregateGateway.Proofs.Files.Location
import AggregateGateway.Proofs.Store.Directory
import AggregateGateway.Proofs.Http.Cookie
import AggregateGateway.Proofs.Map.History
import AggregateGateway.Proofs.Map.Decoding
