import LiveTopology.Backoff
import LiveTopology.Command
import LiveTopology.CommandLine.Program
import LiveTopology.Decimal.Layout
import LiveTopology.Decimal.Numeral
import LiveTopology.Feed.Subscription
import LiveTopology.Frame.Binary
import LiveTopology.Frame.Text
import LiveTopology.Json.Printer
import LiveTopology.Json.Record
import LiveTopology.Main
import LiveTopology.Proofs.Feed.Delivery
import LiveTopology.Proofs.Feed.Lifecycle
import LiveTopology.Proofs.Frame.Binary
import LiveTopology.Proofs.Topology.Replay
import LiveTopology.Scene.Keymap
import LiveTopology.Scene.Layer
import LiveTopology.Scene.Panels
import LiveTopology.Socket.Handshake
import LiveTopology.Socket.Receiver
import LiveTopology.Text.Blank
import LiveTopology.Text.Quoted
import LiveTopology.Topology.Board
import LiveTopology.View
import LiveTopology.Viewport.Controller
import LiveTopology.Proofs.Scene.Layer
import LiveTopology.Proofs.View.Life
import LiveTopology.Proofs.View.Sync
import LiveTopology.Proofs.Backoff
import LiveTopology.Proofs.CommandLine.Reconnect
import LiveTopology.Proofs.Feed.Abandoned
import LiveTopology.Proofs.Decimal.Shortest
import LiveTopology.Proofs.Decimal.Digits
import LiveTopology.Proofs.Json.Number
import LiveTopology.Proofs.Json.Strings
import LiveTopology.Proofs.Json.RoundTrip
import LiveTopology.Proofs.Json.Accepted
import LiveTopology.Proofs.Frame.Text
import LiveTopology.Proofs.Wire.Nesting
import LiveTopology.Proofs.Frame.Carried
import LiveTopology.Proofs.Topology.Rounded
import LiveTopology.Proofs.Feed.Drained
import LiveTopology.Proofs.Topology.Received
import LiveTopology.Proofs.View.Teardown
import LiveTopology.Proofs.View.Outlived
import LiveTopology.Proofs.CommandLine.Options
import LiveTopology.Proofs.Topology.Summary
import LiveTopology.Proofs.Viewport.Controller
import LiveTopology.Proofs.Decimal.Order
import LiveTopology.Proofs.Viewport.Extent
import LiveTopology.Proofs.Viewport.Reported
import LiveTopology.Proofs.Topology.Revision
import LiveTopology.Proofs.Feed.Accounts
import LiveTopology.Proofs.CommandLine.Separate
import LiveTopology.Proofs.Frame.Canonical
import LiveTopology.Proofs.Topology.Lost
import LiveTopology.Proofs.Viewport.Anchor
import LiveTopology.Proofs.Topology.Identity
import LiveTopology.Proofs.Bytes
import LiveTopology.Proofs.Scene.Isolation
import LiveTopology.Proofs.Feed.Routed
import LiveTopology.Proofs.Json.Spelling
import LiveTopology.Proofs.Json.Scalars
import LiveTopology.Proofs.Json.Spelled
import LiveTopology.Proofs.Json.Members
import LiveTopology.Proofs.Frame.Spelled
import LiveTopology.Proofs.Settings
import LiveTopology.Proofs.View.Bounds
import LiveTopology.Proofs.Delays
import LiveTopology.Proofs.Scene.Tree
import LiveTopology.Proofs.Text.Runs
import LiveTopology.Proofs.Decimal.Numeral
import LiveTopology.Proofs.Command.Modifiers
import LiveTopology.Proofs.Command.Cursor
import LiveTopology.Proofs.Command.Grammar
import LiveTopology.Proofs.Viewport.Clamp
