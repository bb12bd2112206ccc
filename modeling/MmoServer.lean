import MmoServer.Protocol.MessageBounds
import MmoServer.Protocol.HandlerRegistry
import MmoServer.Protocol.JsonFrames
import MmoServer.Protocol.ProtobufFrames
import MmoServer.Aoi.PlayerCount
import MmoServer.Sync.Subscriptions
import MmoServer.Sync.ConcurrentMoves
import MmoServer.Redis.LockLease
import MmoServer.Redis.LockGenerations
import MmoServer.Db.WriteBehind
import MmoServer.Db.FlushOnce
import MmoServer.Db.FlushRetry
import MmoServer.Db.LastWriteWins
import MmoServer.Db.ReadMiss
import MmoServer.Db.BulkSet
import MmoServer.Db.GetMulti
import MmoServer.Db.Batching
import MmoServer.Db.FlushedRows
import MmoServer.Db.CloseDurability
import MmoServer.Db.AsyncWait
import MmoServer.Db.AsyncClosedQueue
import MmoServer.Gateway.SessionKeys
import MmoServer.Gateway.HandshakeAgreement
import MmoServer.Gateway.SessionMessages
import MmoServer.Gateway.HandshakeRotation
import MmoServer.Gateway.SessionTransports
import MmoServer.Gateway.UserIndex
import MmoServer.Gateway.QuicHandler
import MmoServer.Rpc.Standing
import MmoServer.Protocol.Discovery
import MmoServer.Rpc.ConnLocks
import MmoServer.Rpc.ConnPlaceholders
import MmoServer.Rpc.CallCompletion
import MmoServer.Rpc.SimpleMatching
import MmoServer.Redis.PubSubLifecycle
import MmoServer.Network.Boundaries
import MmoServer.Network.Reentry
import MmoServer.Protocol.Fairness
import MmoServer.Rpc.Selectors
import MmoServer.Protocol.TextFrames
import MmoServer.Rpc.Wire
import MmoServer.Redis.Retries
import MmoServer.Gateway.Heartbeats
import MmoServer.Gateway.StreamMessages
import MmoServer.Rpc.ServiceNames
import MmoServer.Aoi.Neighbourhood
import MmoServer.Rpc.StandaloneFrames
import MmoServer.Rpc.StandaloneReplies
import MmoServer.Sync.WorldRefinement
import MmoServer.Gateway.ChannelDelivery
