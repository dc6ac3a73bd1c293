import CustomModels.Lib.BigEndian
import CustomModels.Lib.Wire
import CustomModels.Lib.Run
import CustomModels.Lib.Refinement
import CustomModels.Lib.Progress
import CustomModels.Lib.Origin
import CustomModels.Lib.Unwinding
import CustomModels.Lib.Latest
import CustomModels.Lib.Search
import CustomModels.Lib.Blocks
import CustomModels.Lib.Digits
import CustomModels.Lib.Holding
import CustomModels.Lib.Regions
import CustomModels.Shared.Version
import CustomModels.Shared.Assets
import CustomModels.Shared.Sha256
import CustomModels.Shared.Hasher
import CustomModels.Shared.Protocol
import CustomModels.Shared.TransportFrame
import CustomModels.Shared.Layout
import CustomModels.Shared.ManifestStream
import CustomModels.Shared.Reports
import CustomModels.Shared.Names
import CustomModels.Shared.PeImage
import CustomModels.Shared.Lemmas.Writers
import CustomModels.Shared.Lemmas.Readers
import CustomModels.Shared.Lemmas.Codec
import CustomModels.Shared.Lemmas.Frames
import CustomModels.Shared.Lemmas.Manifests
import CustomModels.Shared.Lemmas.Hex
import CustomModels.Shared.Lemmas.Names
import CustomModels.Shared.Lemmas.Truncation
import CustomModels.Shared.Lemmas.PeImage
import CustomModels.Shared.Lemmas.Hasher
import CustomModels.Shared.Theorems
import CustomModels.Server.PlayerCapabilities
import CustomModels.Server.HandshakeEndpoint
import CustomModels.Server.Registry
import CustomModels.Server.ManifestConfig
import CustomModels.Server.AssetPublication
import CustomModels.Server.Component
import CustomModels.Server.Session
import CustomModels.Server.Standing
import CustomModels.Server.Lemmas.Tracker
import CustomModels.Server.Lemmas.Endpoint
import CustomModels.Server.Lemmas.Registry
import CustomModels.Server.Contents
import CustomModels.Server.ConfigGrammar
import CustomModels.Server.Lemmas.Contents
import CustomModels.Server.Lemmas.Loading
import CustomModels.Server.Lemmas.Revisions
import CustomModels.Server.Lemmas.ConfigGrammar
import CustomModels.Server.Lemmas.Publication
import CustomModels.Server.Lemmas.Reports
import CustomModels.Server.Lemmas.Readiness
import CustomModels.Server.Lemmas.Component
import CustomModels.Server.Theorems
import CustomModels.Client.Handshake
import CustomModels.Client.Negotiation
import CustomModels.Client.Receiver
import CustomModels.Client.Cache
import CustomModels.Client.Manager
import CustomModels.Client.Stored
import CustomModels.Client.Runtime
import CustomModels.Client.RakNetTransport
import CustomModels.Client.Traffic
import CustomModels.Client.ReceiveSlot
import CustomModels.Client.Sessions
import CustomModels.Client.Fetch
import CustomModels.Client.Requests
import CustomModels.Client.Module
import CustomModels.Client.Resolution
import CustomModels.Client.Accounts
import CustomModels.Client.Lemmas.Negotiation
import CustomModels.Client.Lemmas.Receiver
import CustomModels.Client.Lemmas.Streams
import CustomModels.Client.Lemmas.Cache
import CustomModels.Client.Lemmas.Manager
import CustomModels.Client.Lemmas.Worker
import CustomModels.Client.Lemmas.Stored
import CustomModels.Client.Lemmas.Integrity
import CustomModels.Client.Lemmas.Ledger
import CustomModels.Client.Lemmas.Progress
import CustomModels.Client.Lemmas.Runtime
import CustomModels.Client.Lemmas.Hook
import CustomModels.Client.Lemmas.ReceiveSlot
import CustomModels.Client.Lemmas.Connections
import CustomModels.Client.Lemmas.Deliveries
import CustomModels.Client.Lemmas.Introductions
import CustomModels.Client.Lemmas.Callbacks
import CustomModels.Client.Lemmas.Isolation
import CustomModels.Client.Lemmas.Grounds
import CustomModels.Client.Lemmas.Courses
import CustomModels.Client.Lemmas.Fetch
import CustomModels.Client.Lemmas.Requests
import CustomModels.Client.Lemmas.Module
import CustomModels.Client.Lemmas.Resolution
import CustomModels.Client.Lemmas.Accounts
import CustomModels.Client.Theorems
import CustomModels.System.Delivery
import CustomModels.System.Connection
import CustomModels.System.Publishing
import CustomModels.System.Separation
import CustomModels.System.Exchange
import CustomModels.System.Visit
import CustomModels.System.Lemmas.Connection
import CustomModels.System.Lemmas.Exchange
import CustomModels.System.Lemmas.Publishing
import CustomModels.System.Lemmas.Separation
import CustomModels.System.Lemmas.Reception
import CustomModels.System.Lemmas.Visit
import CustomModels.System.Lemmas.Phases
import CustomModels.System.Lemmas.Completion
import CustomModels.System.Theorems
