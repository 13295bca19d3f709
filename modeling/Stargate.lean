import Stargate.Lib.SortedMap
import Stargate.Lib.ByteOrder
import Stargate.Lib.OrderedStore
import Stargate.Lib.Transition
import Stargate.Lib.ExceptState
import Stargate.Storage.ChannelDb
import Stargate.Types.Channel
import Stargate.Types.PendingTxn
import Stargate.Storage.Stores
import Stargate.Storage.ChannelStore
import Stargate.Wallet.TxApplier
import Stargate.Wallet.Recovery
import Stargate.Wallet.ChannelStm
import Stargate.Wallet.Channel
import Stargate.Wallet.ChannelSpec
import Stargate.Wallet.ChannelRun
import Stargate.Lib.Codec
import Stargate.Types.Message
import Stargate.Wire.Proto
import Stargate.Wire.RoundTrip
import Stargate.Wire.Frame
import Stargate.Lib.AssocMap
import Stargate.Router.Ant
import Stargate.Lib.SimplePaths
import Stargate.Router.AntFlood
import Stargate.Lib.PetGraph
import Stargate.Router.GraphStore
import Stargate.Router.Table
import Stargate.Router.Stats
import Stargate.Node.MultiHop
import Stargate.Node.Invoice
import Stargate.Wallet.ChannelPair
import Stargate.Wallet.ParticipantKeys
import Stargate.Wallet.Commit
import Stargate.Storage.WriteSets
import Stargate.Wallet.DataStream
import Stargate.Lib.Counting
import Stargate.Network.PeersState
import Stargate.Network.Peerset
import Stargate.Network.PeersetCalls
import Stargate.Network.PeersetNetwork
import Stargate.Network.PeersetFuzz
import Stargate.Lib.Schedule
import Stargate.Router.SeedConcurrency
import Stargate.Wallet.ChannelActor
