import Mathlib.Init

/-!
# Limits, timeouts and modes

The constants and enumerations of `misc.h` and `common.h`, under their names there.
Times are milliseconds.
-/
namespace Udp2raw

/-- A string of bytes. -/
abbrev Bytes := List UInt8

/-- Longest payload the program handles. -/
def maxDataLen : Nat := 1800
/-- Size of the working buffers of the send path. -/
def bufLen : Nat := maxDataLen + 400
/-- Longest captured packet, link level header included. -/
def hugeDataLen : Nat := 65535 + 100

/-- Most entries of the server's connection table. -/
def maxHandshakeConnNum : Nat := 10000
/-- Most ready connections of the server. -/
def maxReadyConnNum : Nat := 1000
/-- Width of the anti-replay window. -/
def antiReplayWindowSize : Nat := 4000
/-- Most conversations of one connection. -/
def maxConvNum : Nat := 10000

/-- A client gives up a handshake state after this time. -/
def clientHandshakeTimeout : Nat := 5000
/-- A client repeats a handshake packet after this time. -/
def clientRetryInterval : Nat := 1000
/-- A server entry that is not ready is erased after this time. -/
def serverHandshakeTimeout : Nat := clientHandshakeTimeout + 5000
/-- One sweep visits one part in this many of the conversations. -/
def convClearRatio : Nat := 30
/-- One sweep visits one part in this many of the connections. -/
def connClearRatio : Nat := 50
/-- Fewest conversations one sweep visits. -/
def convClearMin : Nat := 1
/-- Fewest connections one sweep visits. -/
def connClearMin : Nat := 1
/-- Time between two sweeps of a conversation table. -/
def convClearInterval : Nat := 1000
/-- Time between two sweeps of the connection table. -/
def connClearInterval : Nat := 1000
/-- A quiet connection sends a heartbeat after this time. -/
def heartbeatInterval : Nat := 600
/-- An idle conversation is closed after this time. -/
def convTimeout : Nat := 180000
/-- The client reconnects when it has heard nothing for this time. -/
def clientConnTimeout : Nat := 10000
/-- The client reconnects when its uplink shows no progress for this time. -/
def clientConnUplinkTimeout : Nat := clientConnTimeout + 2000
/-- A ready connection without heartbeats is erased after this time. -/
def serverConnTimeout : Nat := convTimeout + 60000

/-- `raw_mode_t`: what the tunnel's packets pretend to be. -/
inductive RawMode where
  | faketcp
  | udp
  | icmp
  deriving DecidableEq, Repr

/-- `raw_ip_version`: the address family of the raw packets. -/
inductive IpVersion where
  | ipv4
  | ipv6
  deriving DecidableEq, Repr

/-- `program_mode_t`, once it is set. -/
inductive ProgramMode where
  | client
  | server
  deriving DecidableEq, Repr

/-- `hb_mode`: whether data counts as a heartbeat (`0`) or only heartbeats do (`1`). -/
inductive HbMode where
  | data
  | heartbeat
  deriving DecidableEq, Repr

/-- `auth_mode_t`: the tag appended to a message. -/
inductive AuthMode where
  | none
  | md5
  | crc32
  | simple
  | hmacSha1
  deriving DecidableEq, Repr

/-- `cipher_mode_t`: the encryption of a message. -/
inductive CipherMode where
  | none
  | aes128cbc
  | xor
  | aes128cfb
  deriving DecidableEq, Repr

/-- `server_current_state_t`. -/
inductive ServerState where
  | idle
  | handshake1
  | ready
  deriving DecidableEq, Repr

/-- `client_current_state_t`. -/
inductive ClientState where
  | idle
  | tcpHandshake
  | handshake1
  | handshake2
  | ready
  | tcpHandshakeDummy
  deriving DecidableEq, Repr

end Udp2raw
