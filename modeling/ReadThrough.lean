import ReadThrough.Agenda
import ReadThrough.Average
import ReadThrough.Average.Word
import ReadThrough.Cache.Basic
import ReadThrough.Cache.Word
import ReadThrough.Cluster.Basic
import ReadThrough.Cluster.Simulation
import ReadThrough.Cluster.Step
import ReadThrough.Cluster.Timeline
import ReadThrough.Config.Basic
import ReadThrough.Config.Document
import ReadThrough.Config.File
import ReadThrough.Config.Reload
import ReadThrough.Config.Setting
import ReadThrough.Flight.Basic
import ReadThrough.Flight.Calls
import ReadThrough.Flight.Timeline
import ReadThrough.Group.Basic
import ReadThrough.Group.Hosted
import ReadThrough.Group.LoadError
import ReadThrough.Group.Step
import ReadThrough.Http.Path
import ReadThrough.Http.Response
import ReadThrough.Http.Uri
import ReadThrough.Log
import ReadThrough.Node.Basic
import ReadThrough.Node.Build
import ReadThrough.Node.Listing
import ReadThrough.Node.Platform
import ReadThrough.Node.Timeline
import ReadThrough.Numeric.Binary32
import ReadThrough.Numeric.Decimal
import ReadThrough.Ordered
import ReadThrough.Peer.Client
import ReadThrough.Peer.Following
import ReadThrough.Peer.Picker
import ReadThrough.Peer.Pool
import ReadThrough.Peer.Ring
import ReadThrough.Peer.Settings
import ReadThrough.Peer.Table
import ReadThrough.Proofs.Agenda
import ReadThrough.Proofs.Average.Bounds
import ReadThrough.Proofs.Average.Forgetting
import ReadThrough.Proofs.Average.Word
import ReadThrough.Proofs.Cache.Accounting
import ReadThrough.Proofs.Cache.Balance
import ReadThrough.Proofs.Cache.Contents
import ReadThrough.Proofs.Cache.Eviction
import ReadThrough.Proofs.Cache.Faultless
import ReadThrough.Proofs.Cache.History
import ReadThrough.Proofs.Cache.Operation
import ReadThrough.Proofs.Cluster.Advance
import ReadThrough.Proofs.Cluster.Attended
import ReadThrough.Proofs.Cluster.Coherent
import ReadThrough.Proofs.Cluster.Endings
import ReadThrough.Proofs.Cluster.Handling
import ReadThrough.Proofs.Cluster.Hops
import ReadThrough.Proofs.Cluster.Liveness
import ReadThrough.Proofs.Cluster.Moves
import ReadThrough.Proofs.Cluster.Occurrence
import ReadThrough.Proofs.Cluster.Owners
import ReadThrough.Proofs.Cluster.Placement
import ReadThrough.Proofs.Cluster.Reaction
import ReadThrough.Proofs.Cluster.Solitary
import ReadThrough.Proofs.Cluster.Timeline
import ReadThrough.Proofs.Cluster.Transparency
import ReadThrough.Proofs.Cluster.Uniform
import ReadThrough.Proofs.Config.Reading
import ReadThrough.Proofs.Config.Texts
import ReadThrough.Proofs.Flight.Delivery
import ReadThrough.Proofs.Flight.Exclusive
import ReadThrough.Proofs.Flight.Independence
import ReadThrough.Proofs.Flight.Tickets
import ReadThrough.Proofs.Flight.Transition
import ReadThrough.Proofs.Flight.Withdrawal
import ReadThrough.Proofs.Group.Answers
import ReadThrough.Proofs.Group.Changes
import ReadThrough.Proofs.Group.Confined
import ReadThrough.Proofs.Group.History
import ReadThrough.Proofs.Group.Leaders
import ReadThrough.Proofs.Group.Ledger
import ReadThrough.Proofs.Group.Metrics
import ReadThrough.Proofs.Group.Outlook
import ReadThrough.Proofs.Group.Provenance
import ReadThrough.Proofs.Group.Questions
import ReadThrough.Proofs.Group.Reloading
import ReadThrough.Proofs.Group.Transition
import ReadThrough.Proofs.Http.Path
import ReadThrough.Proofs.Http.Uri
import ReadThrough.Proofs.Node.Listing
import ReadThrough.Proofs.Node.Relocation
import ReadThrough.Proofs.Node.Transition
import ReadThrough.Proofs.Numeric.Binary32
import ReadThrough.Proofs.Numeric.Decimal
import ReadThrough.Proofs.Ordered
import ReadThrough.Proofs.Peer.Address
import ReadThrough.Proofs.Peer.Following
import ReadThrough.Proofs.Peer.Handover
import ReadThrough.Proofs.Peer.Membership
import ReadThrough.Proofs.Peer.Operation
import ReadThrough.Proofs.Peer.Ownership
import ReadThrough.Proofs.Peer.Placement
import ReadThrough.Proofs.Peer.Pool
import ReadThrough.Proofs.Peer.Republication
import ReadThrough.Proofs.Peer.Ring
import ReadThrough.Proofs.Peer.Settings
import ReadThrough.Proofs.Peer.Shares
import ReadThrough.Proofs.Peer.Table
import ReadThrough.Proofs.Quantity
import ReadThrough.Proofs.Server.Answering
import ReadThrough.Proofs.Server.Endpoint
import ReadThrough.Proofs.Server.Hop
import ReadThrough.Proofs.Server.PeerRequest
import ReadThrough.Proofs.Server.PeerUrl
import ReadThrough.Proofs.Server.Port
import ReadThrough.Proofs.Server.Statistics
import ReadThrough.Proofs.Server.Transition
import ReadThrough.Proofs.Since
import ReadThrough.Proofs.Size
import ReadThrough.Proofs.Span
import ReadThrough.Proofs.Text.Blank
import ReadThrough.Proofs.Text.Percent
import ReadThrough.Proofs.Text.Utf8
import ReadThrough.Proofs.Yaml.Distinct
import ReadThrough.Quantity
import ReadThrough.Server.Basic
import ReadThrough.Server.Dispatch
import ReadThrough.Server.Exchange
import ReadThrough.Server.Host
import ReadThrough.Server.Socket
import ReadThrough.Server.Statistics
import ReadThrough.Server.Step
import ReadThrough.Size
import ReadThrough.Span
import ReadThrough.Text.Blank
import ReadThrough.Text.Percent
import ReadThrough.Text.Quoted
import ReadThrough.Text.Utf8
import ReadThrough.Yaml.Character
import ReadThrough.Yaml.Document
import ReadThrough.Yaml.Gap
import ReadThrough.Yaml.Layout
import ReadThrough.Yaml.Position
import ReadThrough.Yaml.Resolution
import ReadThrough.Yaml.Scalar
import ReadThrough.Yaml.Token
import ReadThrough.Yaml.Value
