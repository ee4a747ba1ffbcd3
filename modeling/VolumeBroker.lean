import VolumeBroker.Api.Demand
import VolumeBroker.Api.MediaType
import VolumeBroker.Api.Request
import VolumeBroker.Api.Response
import VolumeBroker.Api.Status
import VolumeBroker.Broker.ContainerPath
import VolumeBroker.Broker.Details
import VolumeBroker.Broker.Error
import VolumeBroker.Broker.Lifecycle
import VolumeBroker.Broker.MountMode
import VolumeBroker.Broker.Operation
import VolumeBroker.Broker.Parameters
import VolumeBroker.Broker.ProbeGate
import VolumeBroker.Broker.Transaction
import VolumeBroker.Catalog.Registry
import VolumeBroker.Catalog.Service
import VolumeBroker.Catalog.SpecFile
import VolumeBroker.Codec.Basic
import VolumeBroker.Codec.Record
import VolumeBroker.Codec.Variant
import VolumeBroker.CommandLine.Command
import VolumeBroker.CommandLine.Outcome
import VolumeBroker.CommandLine.SocketAddress
import VolumeBroker.Dict
import VolumeBroker.Files.FileSystem
import VolumeBroker.Files.Path
import VolumeBroker.Json.Basic
import VolumeBroker.Json.Numeral
import VolumeBroker.Json.Printer
import VolumeBroker.Json.Reader
import VolumeBroker.Json.Source
import VolumeBroker.Main
import VolumeBroker.Number.Binary64
import VolumeBroker.Number.Power
import VolumeBroker.Number.Shortest
import VolumeBroker.Plugin.AccessMode
import VolumeBroker.Plugin.Client
import VolumeBroker.Plugin.Endpoint
import VolumeBroker.Plugin.Message
import VolumeBroker.Plugin.Volume
import VolumeBroker.Records.Basic
import VolumeBroker.Records.Slot
import VolumeBroker.Store.Basic
import VolumeBroker.Store.Error
import VolumeBroker.Text.Blank
import VolumeBroker.Text.Content
import VolumeBroker.Text.Percent
import VolumeBroker.Text.Quoted
import VolumeBroker.Text.Split
import VolumeBroker.Text.Utf8
import VolumeBroker.Text.Visible
import VolumeBroker.Yaml.Reader
import VolumeBroker.Yaml.Scalar
import VolumeBroker.Proofs.Session.Basic
import VolumeBroker.Proofs.Session.Serial
import VolumeBroker.Proofs.Files.Path
import VolumeBroker.Proofs.Files.Replace
import VolumeBroker.Proofs.Session.Durability
import VolumeBroker.Proofs.Dict
import VolumeBroker.Proofs.Json.Canonical
import VolumeBroker.Proofs.Json.Numerals
import VolumeBroker.Proofs.Json.Strings
import VolumeBroker.Proofs.Json.Text
import VolumeBroker.Proofs.Number.Range
import VolumeBroker.Proofs.Number.Reread
import VolumeBroker.Proofs.Codec.Laws
import VolumeBroker.Proofs.Codec.Plain
import VolumeBroker.Proofs.Json.Legible
import VolumeBroker.Proofs.Records.Laws
import VolumeBroker.Proofs.Store.Restore
import VolumeBroker.Proofs.Session.Restart
import VolumeBroker.Proofs.Session.Mirror
import VolumeBroker.Proofs.Session.Serving
import VolumeBroker.Proofs.Session.Transparency
import VolumeBroker.Proofs.Files.Unhindered
import VolumeBroker.Proofs.Session.Saving
import VolumeBroker.Proofs.Session.Stability
import VolumeBroker.Proofs.Session.Course
import VolumeBroker.Proofs.Session.Apart
import VolumeBroker.Proofs.Session.Independence
import VolumeBroker.Proofs.Session.Inverse
import VolumeBroker.Proofs.Session.Belonging
import VolumeBroker.Proofs.Session.Exchange
import VolumeBroker.Proofs.Session.Removal
import VolumeBroker.Proofs.Session.Routing
import VolumeBroker.Proofs.Broker.Lookups
import VolumeBroker.Proofs.Session.Gate
import VolumeBroker.Proofs.Session.Ledger
import VolumeBroker.Proofs.Session.Accounting
import VolumeBroker.Proofs.Plugin.Messages
import VolumeBroker.Proofs.Records.Documents
import VolumeBroker.Proofs.Session.Discipline
import VolumeBroker.Proofs.Files.Node
import VolumeBroker.Proofs.Store.TwoMaps
import VolumeBroker.Proofs.Store.FileStore
import VolumeBroker.Proofs.Api.Responses
import VolumeBroker.Proofs.Api.Targets
import VolumeBroker.Proofs.Session.Replies
import VolumeBroker.Proofs.Api.Gateway
import VolumeBroker.Proofs.Api.Refusals
import VolumeBroker.Proofs.Plugin.Wire
import VolumeBroker.Proofs.Broker.Bind
import VolumeBroker.Proofs.Session.Binding
import VolumeBroker.Proofs.Catalog.Acceptance
import VolumeBroker.Proofs.Catalog.Publication
import VolumeBroker.Proofs.Codec.Spellings
import VolumeBroker.Proofs.Plugin.Spellings
import VolumeBroker.Proofs.Plugin.ProtoJson
import VolumeBroker.Proofs.Codec.Exact
import VolumeBroker.Proofs.Plugin.NumberOrText
import VolumeBroker.Proofs.Broker.ContainerPath
import VolumeBroker.Proofs.Codec.Layout
import VolumeBroker.Proofs.Plugin.Keys
import VolumeBroker.Proofs.Codec.Surplus
import VolumeBroker.Proofs.Catalog.SpecFile
import VolumeBroker.Proofs.Catalog.Legible
import VolumeBroker.Proofs.Text.ByteOrder
import VolumeBroker.Proofs.CommandLine.Startup
