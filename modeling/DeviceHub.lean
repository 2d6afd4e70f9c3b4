import DeviceHub.Assets.Asset
import DeviceHub.Assets.Cache
import DeviceHub.Assets.Error
import DeviceHub.Assets.Federation
import DeviceHub.Assets.Matcher
import DeviceHub.Assets.Module
import DeviceHub.Assets.Session
import DeviceHub.Assets.Source
import DeviceHub.Batch.Action
import DeviceHub.Batch.Engine
import DeviceHub.Batch.Error
import DeviceHub.Batch.Operation
import DeviceHub.Batch.Request
import DeviceHub.Batch.Session
import DeviceHub.Codec.CommandFrame
import DeviceHub.Codec.Context
import DeviceHub.Codec.Envelope
import DeviceHub.Codec.Error
import DeviceHub.Codec.JsonBatch
import DeviceHub.Codec.Parameters
import DeviceHub.Codec.Registry
import DeviceHub.Codec.Wire
import DeviceHub.CommandLine.Arguments
import DeviceHub.CommandLine.Run
import DeviceHub.Config.Hub
import DeviceHub.Config.Sections
import DeviceHub.Delivery.Destination
import DeviceHub.Delivery.Error
import DeviceHub.Delivery.Router
import DeviceHub.Delivery.Topics
import DeviceHub.Delivery.Transport
import DeviceHub.Dict
import DeviceHub.Files.Path
import DeviceHub.Files.View
import DeviceHub.Hub.Assembly
import DeviceHub.Hub.Basic
import DeviceHub.Hub.Calls
import DeviceHub.Hub.Configured
import DeviceHub.Hub.Equipment
import DeviceHub.Hub.Federation
import DeviceHub.Hub.Report
import DeviceHub.Hub.Session
import DeviceHub.Inbound.Pipeline
import DeviceHub.Inbound.Session
import DeviceHub.Instant.Basic
import DeviceHub.Instant.Parser
import DeviceHub.Instant.Printer
import DeviceHub.Json.Document
import DeviceHub.Json.Printer
import DeviceHub.Json.Reader
import DeviceHub.Json.Token
import DeviceHub.Json.Value
import DeviceHub.KeyMap
import DeviceHub.Lifecycle.Address
import DeviceHub.Lifecycle.Component
import DeviceHub.Lifecycle.Error
import DeviceHub.Lifecycle.Session
import DeviceHub.Lifecycle.Status
import DeviceHub.Lifecycle.Tree
import DeviceHub.Main
import DeviceHub.Model.Command
import DeviceHub.Model.Device
import DeviceHub.Model.Event
import DeviceHub.Model.Search
import DeviceHub.Numeric.Binary64
import DeviceHub.Numeric.Literal
import DeviceHub.Numeric.Shortest
import DeviceHub.Numeric.Word
import DeviceHub.Problem
import DeviceHub.Proofs.Assets.Cache
import DeviceHub.Proofs.Assets.Federation
import DeviceHub.Proofs.Assets.FreeText
import DeviceHub.Proofs.Assets.Order
import DeviceHub.Proofs.Assets.Refresh
import DeviceHub.Proofs.Assets.Session
import DeviceHub.Proofs.Assets.Source
import DeviceHub.Proofs.Batch.Elements
import DeviceHub.Proofs.Batch.Engine
import DeviceHub.Proofs.Batch.Halting
import DeviceHub.Proofs.Batch.Keeping
import DeviceHub.Proofs.Batch.Operation
import DeviceHub.Proofs.Batch.Progress
import DeviceHub.Proofs.Batch.Resolution
import DeviceHub.Proofs.Batch.Session
import DeviceHub.Proofs.Codec.CommandFrame
import DeviceHub.Proofs.Codec.CommandReadings
import DeviceHub.Proofs.Codec.Envelope
import DeviceHub.Proofs.Codec.JsonBatch
import DeviceHub.Proofs.Codec.Parameters
import DeviceHub.Proofs.Codec.Wire
import DeviceHub.Proofs.CommandLine.Check
import DeviceHub.Proofs.Delivery.Router
import DeviceHub.Proofs.Delivery.Stages
import DeviceHub.Proofs.Delivery.Topics
import DeviceHub.Proofs.Dict
import DeviceHub.Proofs.Hub.CommandAnswer
import DeviceHub.Proofs.Hub.CommandBatch
import DeviceHub.Proofs.Hub.CommandRun
import DeviceHub.Proofs.Hub.Configured
import DeviceHub.Proofs.Hub.Control
import DeviceHub.Proofs.Hub.Delivery
import DeviceHub.Proofs.Hub.Dispatch
import DeviceHub.Proofs.Hub.Elements
import DeviceHub.Proofs.Hub.Federation
import DeviceHub.Proofs.Hub.LoneRun
import DeviceHub.Proofs.Hub.NeverSent
import DeviceHub.Proofs.Hub.Routing
import DeviceHub.Proofs.Hub.Selection
import DeviceHub.Proofs.Hub.Session
import DeviceHub.Proofs.Hub.StateBatch
import DeviceHub.Proofs.Hub.Verdicts
import DeviceHub.Proofs.Hub.Wiring
import DeviceHub.Proofs.Inbound.Decoder
import DeviceHub.Proofs.Inbound.Independence
import DeviceHub.Proofs.Inbound.Routing
import DeviceHub.Proofs.Inbound.Session
import DeviceHub.Proofs.Json.Members
import DeviceHub.Proofs.Lifecycle.Address
import DeviceHub.Proofs.Lifecycle.Answers
import DeviceHub.Proofs.Lifecycle.Calls
import DeviceHub.Proofs.Lifecycle.ColdStart
import DeviceHub.Proofs.Lifecycle.History
import DeviceHub.Proofs.Lifecycle.Keeping
import DeviceHub.Proofs.Lifecycle.Launch
import DeviceHub.Proofs.Lifecycle.Launching
import DeviceHub.Proofs.Lifecycle.Recovery
import DeviceHub.Proofs.Lifecycle.Stopping
import DeviceHub.Proofs.Lifecycle.Verdicts
import DeviceHub.Proofs.Store.Effects
import DeviceHub.Proofs.Store.Paging
import DeviceHub.Proofs.Store.Updates
import DeviceHub.Proofs.Text.ByteOrder
import DeviceHub.Rehearsal.Probes
import DeviceHub.Rehearsal.Script
import DeviceHub.Run
import DeviceHub.Store.Backend
import DeviceHub.Store.Devices
import DeviceHub.Store.Error
import DeviceHub.Store.Session
import DeviceHub.Text.Blank
import DeviceHub.Text.CaseTable
import DeviceHub.Text.LowerCase
import DeviceHub.Text.PrintTable
import DeviceHub.Text.Quoted
import DeviceHub.Text.Search
import DeviceHub.Toml.Document
import DeviceHub.Toml.Draft
import DeviceHub.Toml.Line
import DeviceHub.Toml.Scalar
import DeviceHub.Toml.Text
import DeviceHub.Toml.Value
