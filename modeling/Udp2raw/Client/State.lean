import Udp2raw.Connection.ConvTable

/-!
# The state of the client

The client has a single connection. It leads to the remote address, from an address and a port
that are chosen anew whenever it connects.
-/
namespace Udp2raw

open Proc

variable {v : IpVersion} {α : Type}

/-- The options that only the client reads. -/
structure ClientOptions (v : IpVersion) where
  /-- `remote_addr`. -/
  remoteAddr : Address v
  /-- `source_addr`, when `force_source_ip` is set. -/
  sourceAddr : Option (Ip v)
  /-- `source_port`, when `force_source_port` is set. -/
  sourcePort : Option UInt16
  /-- `max_fail_time`; not positive for no limit. -/
  maxFailTime : Int
  /-- `disable_bpf_filter`. -/
  disableBpfFilter : Bool

/-- `conn_info_t` at the client: a conversation belongs to a local address. -/
abbrev ClientConn (options : Options v) := ConnInfo options ClientState LocalAddress

/-- The state of a client. -/
structure Client (options : Options v) where
  /-- The connection. -/
  conn : ClientConn options
  /-- `fail_time_counter`, which would need 2^31 attempts in a row to overflow. -/
  failTimeCounter : Nat

variable {options : Options v}

/-- A function of the client. -/
abbrev ClientProc (options : Options v) := Program Fault (Machine v × Client options)

namespace ClientProc

/-- Call a pure function. -/
def run (computation : Exec α) : ClientProc options α := liftM computation

/-- Call a function of the shared layers. -/
def call (proc : Proc v α) : ClientProc options α := onFirst proc

/-- The state of the client. -/
def theClient : ClientProc options (Client options) := onSecond get

/-- Change the state of the client. -/
def update (change : Client options → Client options) : ClientProc options Unit :=
  onSecond (modify change)

/-- The connection. -/
def theConn : ClientProc options (ClientConn options) := do
  return (← theClient).conn

/-- Store the connection. -/
def store (conn : ClientConn options) : ClientProc options Unit :=
  update fun client => { client with conn }

/-- The connection gets into a state. -/
def enter (state : ClientState) : ClientProc options Unit := do
  store { (← theConn) with state }
  call (record (.entered state))

end ClientProc

end Udp2raw
