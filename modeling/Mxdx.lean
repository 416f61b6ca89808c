import Mxdx.Foundations.Automaton
import Mxdx.Foundations.Base64
import Mxdx.P2P.Transport.Lifecycle
import Mxdx.P2P.Transport.DriverInvariant
import Mxdx.P2P.Transport.Delivery
import Mxdx.P2P.Transport.MatrixSigner
import Mxdx.P2P.Transport.Handshake
import Mxdx.Worker.BatchedSender
import Mxdx.Core.BatchedSender
import Mxdx.Core.TerminalSocket
import Mxdx.Core.SentEvents
import Mxdx.Core.TerminalStream
import Mxdx.Worker.StateRoomLock
import Mxdx.Fabric.Claim
import Mxdx.Core.Signaling
import Mxdx.Matrix.MultiHs
import Mxdx.Core.Verify
import Mxdx.Worker.LoopInvariant
import Mxdx.Core.P2PDelivery
import Mxdx.Core.P2PHandshake
import Mxdx.Core.P2PIsolation
import Mxdx.Policy.Engine
import Mxdx.Core.Credentials
import Mxdx.Core.MultiHsClient
import Mxdx.Core.PersistentIndexedDB
import Mxdx.Launcher.Executor
import Mxdx.Runtime.SessionSlots
import Mxdx.Runtime.RoomTransports
import Mxdx.Runtime.Attempts
import Mxdx.Runtime.TerminalLink
import Mxdx.P2P.Turn
import Mxdx.Worker.SessionMux
import Mxdx.Matrix.Trust
import Mxdx.Coordinator.Router
import Mxdx.Types.KeychainFile
import Mxdx.Core.P2PVerify
import Mxdx.Core.P2PCrypto
import Mxdx.Client.Liveness
import Mxdx.Fabric.Retries
import Mxdx.Core.RoomEvents
import Mxdx.P2P.Transport.Waiting
import Mxdx.CoreWasm.Timeline
import Mxdx.Runtime.SignalPolls
import Mxdx.Runtime.Commands
import Mxdx.Runtime.Recovery
import Mxdx.Runtime.ChannelRace
import Mxdx.Core.SocketRoom
import Mxdx.Runtime.SizeGuard
import Mxdx.Launcher.Compression
import Mxdx.Runtime.TaskEvents
import Mxdx.Worker.Recovery
import Mxdx.Fabric.WorkerClient
import Mxdx.Fabric.Rooms
import Mxdx.Matrix.Strangers
import Mxdx.Matrix.Reencrypt
import Mxdx.Matrix.Session
import Mxdx.Client.Run
import Mxdx.Fabric.Redelivery
import Mxdx.Core.Cleanup
import Mxdx.Launcher.Spelling
import Mxdx.Launcher.Capture
import Mxdx.Types.KeychainChain
import Mxdx.Policy.Influence
import Mxdx.Worker.BatchWindow
import Mxdx.Core.FlushPromise
import Mxdx.Client.TailTask
import Mxdx.Secrets.Coordinator
import Mxdx.P2P.Transport.Limits
import Mxdx.P2P.Transport.Lockout
import Mxdx.Worker.Gate
import Mxdx.P2P.Signaling.Parse
import Mxdx.Core.P2PInbox
import Mxdx.Client.Totality
import Mxdx.Fabric.CapabilityRooms
import Mxdx.Fabric.Respawn
import Mxdx.Client.Sessions
import Mxdx.Launcher.Chunks
import Mxdx.Client.Subscriptions
import Mxdx.Matrix.KeychainKeys
import Mxdx.Fabric.ProcessStream
import Mxdx.Fabric.RoutingLoop
import Mxdx.P2P.Transport.IdleTeardown
import Mxdx.Core.TerminalDelivery
import Mxdx.Client.SocketConnection
import Mxdx.Launcher.Failover
import Mxdx.Foundations.JsonText
import Mxdx.Foundations.SharedLines
import Mxdx.Worker.NumberText
import Mxdx.Client.Protocol
import Mxdx.Client.Handler
import Mxdx.Client.Connection
import Mxdx.Client.ConnectionDelivery
import Mxdx.Client.ViaDaemon
import Mxdx.Worker.StateRoomStore
import Mxdx.Worker.StateRoomNames
import Mxdx.P2P.BackendCandidates
import Mxdx.P2P.BackendAgreement
import Mxdx.P2P.BackendEvents
