import FileBridge.Text.Blank
import FileBridge.Text.Quoted
import FileBridge.Text.Decimal
import FileBridge.Text.Utf8
import FileBridge.OrderedMap
import FileBridge.Number.Shortest
import FileBridge.Json.Parser
import FileBridge.Json.Printer
import FileBridge.Codec.Record
import FileBridge.Rpc.Frame
import FileBridge.Guard
import FileBridge.Host.Basic
import FileBridge.Wire.Envelope
import FileBridge.Wire.Event
import FileBridge.Wire.Params
import FileBridge.Config.Basic
import FileBridge.Text.Base64
import FileBridge.Tree.Basic
import FileBridge.Service.Methods
import FileBridge.Bridge.Basic
import FileBridge.Yaml.Pairs
import FileBridge.Yaml.Writer
import FileBridge.Disk.Calls
import FileBridge.Local
import FileBridge.Config.File
import FileBridge.CommandLine
import FileBridge.Server
import FileBridge.Main
import FileBridge.Proofs.Tree.Run
import FileBridge.Proofs.Rpc.RoundTrip
import FileBridge.Proofs.Json.Parts
import FileBridge.Proofs.Json.Scanner
import FileBridge.Proofs.Codec.Stable
import FileBridge.Proofs.Json.RoundTrip
import FileBridge.Proofs.Service.Guarded
import FileBridge.Proofs.Service.Contents
import FileBridge.Proofs.Watch
import FileBridge.Proofs.Bridge.Move
import FileBridge.Proofs.Bridge.Session
import FileBridge.Proofs.Bridge.Watches
import FileBridge.Proofs.Bridge.Replies
import FileBridge.Proofs.Bridge.Account
import FileBridge.Proofs.Bridge.Closing
import FileBridge.Proofs.Tree.Exchange
import FileBridge.Proofs.Bridge.Relay
import FileBridge.Proofs.Bridge.Occurrence
import FileBridge.Proofs.Bridge.Notices
import FileBridge.Proofs.Disk.Leads
import FileBridge.Proofs.Disk.Spelling
import FileBridge.Proofs.Disk.Locate
import FileBridge.Proofs.Disk.Shape
import FileBridge.Proofs.Local.Resolve
import FileBridge.Proofs.Local.Stays
import FileBridge.Proofs.Local.Confined
import FileBridge.Proofs.Tree.Times
import FileBridge.Proofs.Bridge.Host
import FileBridge.Proofs.Wire.Envelope
import FileBridge.Proofs.Service.Answers
import FileBridge.Proofs.Service.Modes
import FileBridge.Proofs.Bridge.Modes
import FileBridge.Proofs.Client
import FileBridge.Proofs.Rpc.Whole
import FileBridge.Proofs.Bridge.Rest
import FileBridge.Proofs.Service.Sendable
import FileBridge.Proofs.Bridge.Direct
import FileBridge.Proofs.Server
import FileBridge.Proofs.Net.Address
import FileBridge.Proofs.Codec.Forms
import FileBridge.Proofs.Wire.Types
import FileBridge.Proofs.Tree.Relocation
import FileBridge.Proofs.Tree.Addressed
import FileBridge.Proofs.Tree.Listing
import FileBridge.Proofs.Tree.Parts
import FileBridge.Proofs.Tree.Query
import FileBridge.Proofs.Bridge.Location
import FileBridge.Proofs.Tree.Deletion
import FileBridge.Proofs.Rpc.Grammar
import FileBridge.Proofs.Yaml.Scalar
import FileBridge.Proofs.Yaml.Lexer
import FileBridge.Proofs.Yaml.Mapping
import FileBridge.Proofs.Yaml.Document
import FileBridge.Proofs.Config.File
import FileBridge.Proofs.CommandLine
import FileBridge.Proofs.Guard.History
import FileBridge.Proofs.Guard.Local
import FileBridge.Proofs.Local.Points
import FileBridge.Proofs.Local.Destination
import FileBridge.Proofs.Local.Obstacle
import FileBridge.Proofs.Local.Outside
import FileBridge.Proofs.Local.Canonical
import FileBridge.Proofs.Rpc.Progress
import FileBridge.Proofs.Text.Order
import FileBridge.Proofs.Tree.Range
