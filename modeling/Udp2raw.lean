import Udp2raw.Data.ReplayFilter
import Udp2raw.Misc
import Udp2raw.AntiReplay
import Udp2raw.Data.BlockModes
import Udp2raw.Data.BigEndian
import Udp2raw.Data.Program
import Udp2raw.Data.Recency
import Udp2raw.Data.Table
import Udp2raw.Fault
import Udp2raw.Encrypt
import Udp2raw.EncryptRoundTrip
import Udp2raw.Data.OnesComplement
import Udp2raw.Network.Packet
import Udp2raw.Network.Receive
import Udp2raw.Network.Send
import Udp2raw.Network.WellFormed
import Udp2raw.Network.RoundTrip
import Udp2raw.Network.Peer
import Udp2raw.Process
import Udp2raw.Effects
import Udp2raw.Connection.Lru
import Udp2raw.Connection.Conversation
import Udp2raw.Connection.Linked
import Udp2raw.Connection.Info
import Udp2raw.Connection.Transfer
import Udp2raw.Connection.Effects
import Udp2raw.Connection.Messages
import Udp2raw.Connection.GroFraming
import Udp2raw.Connection.Rejection
import Udp2raw.Connection.ConvTable
import Udp2raw.Connection.Limits
import Udp2raw.Connection.Session
import Udp2raw.Connection.Wire
import Udp2raw.Connection.EchoNumbers
import Udp2raw.Server.State
import Udp2raw.Server.Manager
import Udp2raw.Server.Handlers
import Udp2raw.Server.Steps
import Udp2raw.Server.Effects
import Udp2raw.Server.Erasing
import Udp2raw.Server.Loop
import Udp2raw.Server.Tables
import Udp2raw.Server.Descriptors
import Udp2raw.Server.Custody
import Udp2raw.Server.Faults
import Udp2raw.Server.Safety
import Udp2raw.Server.Unauthenticated
import Udp2raw.Server.EchoNumbers
import Udp2raw.Server.EchoReplies
import Udp2raw.Server.Assertions
import Udp2raw.Server.Batch
import Udp2raw.Server.ConvCreation
import Udp2raw.Server.Recovery
import Udp2raw.Client.State
import Udp2raw.Client.Handlers
import Udp2raw.Client.Steps
import Udp2raw.Client.Effects
import Udp2raw.Client.Loop
import Udp2raw.Network.Numbers
import Udp2raw.Network.TcpOptions
import Udp2raw.Data.InternetChecksum
import Udp2raw.Network.Checksum
import Udp2raw.Data.RingQueue
import Udp2raw.Client.PacketQueue
import Udp2raw.Client.AsyncCb
import Udp2raw.Data.PacketFilter
import Udp2raw.Network.Filter
import Udp2raw.Data.SteadyClock
import Udp2raw.Connection.Clock
import Udp2raw.Data.BoundedBuffer
import Udp2raw.Data.Refinement
import Udp2raw.SendFault
import Udp2raw.Connection.EncryptBuffers
import Udp2raw.Network.SendBuffers
import Udp2raw.Connection.SendBuffers
import Udp2raw.Client.Uplink
import Udp2raw.Client.FirstBlocks
import Udp2raw.Server.FirstBlocks
import Udp2raw.System.FirstBlocks
import Udp2raw.Client.HandshakeNumbers
import Udp2raw.Client.PacketBuffer
import Udp2raw.Config
import Udp2raw.Data.Routing
import Udp2raw.Network.Routes
import Udp2raw.Server.DescriptorHistory
import Udp2raw.System.PacketBuffer
import Udp2raw.Client.Attempts
import Udp2raw.Server.HandshakeReplies
import Udp2raw.System.HandshakeNumbers
import Udp2raw.Data.Correspondence
import Udp2raw.Server.Arrivals
import Udp2raw.System.Handshakes
import Udp2raw.Client.Acceptance
import Udp2raw.Client.Conversations
import Udp2raw.Server.Acceptance
import Udp2raw.Server.Sockets
import Udp2raw.System.Delivery
import Udp2raw.System.EndToEnd
import Udp2raw.Crc32
import Udp2raw.Data.BlockHash
import Udp2raw.Data.KeyDerivation
import Udp2raw.Data.MessageDigest
import Udp2raw.Data.Rijndael
import Udp2raw.Data.SecureHash
import Udp2raw.Lib.Aes
import Udp2raw.Lib.AesCipher
import Udp2raw.Lib.AesModes
import Udp2raw.Lib.Hashing
import Udp2raw.Lib.KeyDerivation
import Udp2raw.Lib.Primitives
import Udp2raw.Connection.OnePacket
import Udp2raw.Server.Answers
import Udp2raw.System.Answers
import Udp2raw.Server.Accounts
import Udp2raw.Connection.KeySchedules
import Udp2raw.Server.KeySchedules
import Udp2raw.Client.KeySchedules
import Udp2raw.System.KeySchedules
import Udp2raw.Connection.Passage
import Udp2raw.System.Passage
import Udp2raw.System.Downloads
