import Udp2raw.Client.State

/-!
# The client

The callbacks of `client.cpp`: the timer drives the connection through its states and is also
called when a packet moved it on, captured packets are read as the state expects, a datagram
of a local peer goes into its conversation, and the fifo may ask for a reconnection. What a
system call returned is a part of the event or the next answer of the system. No caller looks
at the return codes, so they are left out.
-/
namespace Udp2raw

open Proc ClientProc

variable {v : IpVersion} {options : Options v}

/-! ### The local end -/

/-- `get_src_adress2`: the address that a socket connected to the remote address gets; `none` for
an error return. -/
def getSrcAdress2 : Proc v (Option (Ip v)) := do
  if (← ask).ok = false then return none
  else do
    let answer ← ask
    return if answer.ok then some answer.sockname else none

/-- `client_bind_to_a_new_port2`, with the number of tries that are left. -/
def clientBindToANewPort2 : Nat → Proc v UInt16
  | 0 => throw (.exit "bind port fail")
  | tries + 1 => do
    let rawSendPort := 10000 + (← getTrueRandomNumber).toNat % (65535 - 10000)
    if (← ask).ok then return UInt16.ofNat rawSendPort else clientBindToANewPort2 tries

/-- The parsers of a mode with ports compare them with `filter_port`. -/
def setFilterPort (options : Options v) (port : UInt16) : Proc v Unit :=
  match options.raw.rawMode with
  | .faketcp | .udp => modify fun machine => { machine with filterPort := port }
  | .icmp => return

/-- `init_filter`. -/
def initFilter (options : Options v) (route : ClientOptions v) (port : UInt16) : Proc v Unit := do
  setFilterPort options port
  if route.disableBpfFilter then return
  else if (← ask).ok then return
  else throw (.exit "error set fiter")

/-! ### The timer -/

/-- `additional_clear_function` is not set: a local address needs no release. -/
def clientClearFunction (_ : LocalAddress) (_ : Unit) : Exec Unit := .ok ()

/-- Idle conversations are forgotten. -/
def clientSweep : ClientProc options Unit := do
  let conn ← theConn
  let blob ← run conn.theBlob
  let (convManager, _) ← call (blob.convManager.clearInactive clientClearFunction ())
  store (conn.withConvs blob convManager)

/-- The connection gets a new identifier. -/
def redrawMyId : ClientProc options Unit := do
  let myId ← call drawMyId
  store { (← theConn) with myId }

/-- The connection is given up. -/
def backToIdle : ClientProc options Unit := do
  enter .idle
  redrawMyId

/-- The connection sends from an address and a port. -/
def RawInfo.sendingFrom {config : RawConfig v} (raw : RawInfo config) (ip : Ip v)
    (port : UInt16) : RawInfo config :=
  let sendInfo := { raw.sendInfo with newSrcIp := ip, srcPort := port }
  match config.rawMode with
  | .icmp => { raw with sendInfo := { sendInfo with dstPort := port } }
  | .faketcp | .udp => { raw with sendInfo }

/-- The state that a connection starts in. -/
def Options.firstState (options : Options v) : ClientState :=
  match options.raw.rawMode with
  | .faketcp => if options.useTcpDummySocket then .tcpHandshakeDummy else .tcpHandshake
  | .udp | .icmp => .handshake1

/-- The address that the connection sends from; `none` for an error return. -/
def chooseSourceIp (route : ClientOptions v) : Proc v (Option (Ip v)) :=
  match route.sourceAddr with
  | some sourceAddr => return some sourceAddr
  | none => getSrcAdress2

/-- The port that the connection sends from. -/
def chooseSourcePort (route : ClientOptions v) : Proc v UInt16 :=
  match route.sourcePort with
  | some sourcePort => return sourcePort
  | none => clientBindToANewPort2 1000

/-- Another attempt is counted and what the last one left is forgotten. -/
def clientForget (route : ClientOptions v) : ClientProc options Unit := do
  update fun client => { client with
    conn := { client.conn with
      rawInfo := { client.conn.rawInfo with
        rstReceived := 0, disabled := false, disabledAllowed := options.enabledAllowed } }
    failTimeCounter := client.failTimeCounter + 1 }
  if 0 < route.maxFailTime ∧ route.maxFailTime < (← theClient).failTimeCounter then
    throw (.exit "max_fail_time exceed")
  else do
    let conn ← theConn
    let blob ← run conn.theBlob
    store (conn.withAntiReplay blob blob.antiReplay.reInit)
    redrawMyId

/-- The connection begins from an address. -/
def clientBegin (route : ClientOptions v) (ip : Ip v) : ClientProc options Unit := do
  let srcPort ← call (chooseSourcePort route)
  let conn ← theConn
  store { conn with rawInfo := conn.rawInfo.sendingFrom ip srcPort }
  call (initFilter options route srcPort)
  enter options.firstState
  let lastStateTime ← call getCurrentTime
  store { (← theConn) with lastStateTime, lastHbSentTime := 0 }

/-- The part of `client_on_timer` that leaves `client_idle`. The result is false where the timer
returns. -/
def clientConnect (route : ClientOptions v) : ClientProc options Bool := do
  clientForget route
  match ← call (chooseSourceIp route) with
  | none => return false
  | some ip => do
    clientBegin route ip
    return true

/-- The first `SYN` of a connection. -/
def RawInfo.openingSyn {config : RawConfig v} (raw : RawInfo config) (seq ackSeq : UInt32) :
    RawInfo config :=
  { raw with sendInfo := { raw.sendInfo with
      psh := false, syn := true, ack := false, tsAck := 0, seq, ackSeq } }

/-- The numbers of a `SYN` are drawn when it is sent for the first time. -/
def synNumbers (conn : ClientConn options) : Proc v (RawInfo options.raw) :=
  if conn.lastHbSentTime = 0 then do
    let seq ← getTrueRandomNumber
    let ackSeq ← getTrueRandomNumber
    return conn.rawInfo.openingSyn seq ackSeq
  else return conn.rawInfo

/-- `client_on_timer` in `client_tcp_handshake`: send and resend syn. -/
def clientSendSyn : ClientProc options Unit := do
  call (check (options.raw.rawMode = .faketcp) "raw_mode == mode_faketcp")
  let conn ← theConn
  if clientHandshakeTimeout < elapsed (← call getCurrentTime) conn.lastStateTime then enter .idle
  else if clientRetryInterval < elapsed (← call getCurrentTime) conn.lastHbSentTime then do
    let raw ← call (synNumbers conn)
    let (rawInfo, _) ← call (sendRawPayload options raw [])
    let lastHbSentTime ← call getCurrentTime
    store { conn with rawInfo, lastHbSentTime }
  else return

/-- `client_on_timer` in `client_tcp_handshake_dummy`. -/
def clientAwaitDummy : ClientProc options Unit := do
  call (check (options.raw.rawMode = .faketcp) "raw_mode == mode_faketcp")
  let conn ← theConn
  if clientHandshakeTimeout < elapsed (← call getCurrentTime) conn.lastStateTime then enter .idle
  else return

/-- The numbers of the first handshake, which stay the same when it is sent again. -/
def RawInfo.openingHandshake1 {config : RawConfig v} (raw : RawInfo config) : RawInfo config :=
  let seq := raw.sendInfo.seq + 1
  { raw with
    reservedSendSeq := seq
    sendInfo := { raw.sendInfo with
      seq, ackSeq := raw.recvInfo.seq + 1, tsAck := raw.recvInfo.ts } }

/-- The numbers of the second handshake, which stay the same when it is sent again. -/
def RawInfo.openingHandshake2 {config : RawConfig v} (raw : RawInfo config) : RawInfo config :=
  { raw with
    reservedSendSeq := raw.sendInfo.seq
    sendInfo := { raw.sendInfo with
      ackSeq := raw.recvInfo.seq + UInt32.ofNat raw.recvInfo.dataLen, tsAck := raw.recvInfo.ts } }

/-- The sequence number goes back to the reserved one. -/
def RawInfo.rewound {config : RawConfig v} (raw : RawInfo config) : RawInfo config :=
  { raw with sendInfo := { raw.sendInfo with seq := raw.reservedSendSeq } }

/-- The flags of the first handshake. -/
def RawInfo.acking {config : RawConfig v} (raw : RawInfo config) : RawInfo config :=
  { raw with sendInfo := { raw.sendInfo with psh := false, syn := false, ack := true } }

/-- The sequence number goes on behind what was sent last. -/
def RawInfo.advanced {config : RawConfig v} (raw : RawInfo config) : RawInfo config :=
  { raw with sendInfo := { raw.sendInfo with
      seq := raw.sendInfo.seq + UInt32.ofNat raw.sendInfo.dataLen } }

/-- The echo number goes on. -/
def RawInfo.nextEcho {config : RawConfig v} (raw : RawInfo config) : RawInfo config :=
  { raw with sendInfo := { raw.sendInfo with myIcmpSeq := raw.sendInfo.myIcmpSeq + 1 } }

/-- The bare acknowledgement before the first handshake. -/
def sendBareAck (options : Options v) (raw : RawInfo options.raw) : Proc v (RawInfo options.raw) :=
  if options.useTcpDummySocket then return raw
  else do return (← sendRawPayload options raw []).1

/-- The packets of the first handshake, for the first time or again. -/
def sendHandshake1 (conn : ClientConn options) : Proc v (RawInfo options.raw) :=
  match options.raw.rawMode with
  | .faketcp => do
    let raw :=
      if conn.lastHbSentTime = 0 then conn.rawInfo.openingHandshake1 else conn.rawInfo
    let raw ← sendBareAck options raw.rewound.acking
    return (← sendHandshake options raw conn.myId 0 options.constId).advanced
  | .udp => sendHandshake options conn.rawInfo conn.myId 0 options.constId
  | .icmp => do
    return (← sendHandshake options conn.rawInfo conn.myId 0 options.constId).nextEcho

/-- `client_on_timer` in `client_handshake1`: send and resend handshake1. -/
def clientSendHandshake1 : ClientProc options Unit := do
  let conn ← theConn
  if clientHandshakeTimeout < elapsed (← call getCurrentTime) conn.lastStateTime then enter .idle
  else if clientRetryInterval < elapsed (← call getCurrentTime) conn.lastHbSentTime then do
    let rawInfo ← call (sendHandshake1 conn)
    let lastHbSentTime ← call getCurrentTime
    store { conn with rawInfo, lastHbSentTime }
  else return

/-- The packet of the second handshake, for the first time or again. -/
def sendHandshake2 (conn : ClientConn options) : Proc v (RawInfo options.raw) :=
  match options.raw.rawMode with
  | .faketcp => do
    let raw :=
      if conn.lastHbSentTime = 0 then conn.rawInfo.openingHandshake2 else conn.rawInfo
    return (← sendHandshake options raw.rewound conn.myId conn.oppsiteId options.constId).advanced
  | .udp => sendHandshake options conn.rawInfo conn.myId conn.oppsiteId options.constId
  | .icmp => do
    return (← sendHandshake options conn.rawInfo conn.myId conn.oppsiteId options.constId).nextEcho

/-- `client_on_timer` in `client_handshake2`. -/
def clientSendHandshake2 : ClientProc options Unit := do
  let conn ← theConn
  if clientHandshakeTimeout < elapsed (← call getCurrentTime) conn.lastStateTime then enter .idle
  else if clientRetryInterval < elapsed (← call getCurrentTime) conn.lastHbSentTime then do
    call (record (.handshake2 conn.myId conn.oppsiteId))
    let rawInfo ← call (sendHandshake2 conn)
    let lastHbSentTime ← call getCurrentTime
    store { conn with rawInfo, lastHbSentTime }
  else return

/-- A quiet connection sends a heartbeat. -/
def clientHeartbeat : ClientProc options Unit := do
  let conn ← theConn
  if elapsed (← call getCurrentTime) conn.lastHbSentTime < heartbeatInterval then return
  else do
    let conn ← call (sendHeartbeat conn)
    let lastHbSentTime ← call getCurrentTime
    store { conn with lastHbSentTime }

/-- The connection is given up when its uplink shows no progress. The timer goes on to the
heartbeat all the same. -/
def clientCheckUplink : ClientProc options Unit := do
  let conn ← theConn
  if clientConnUplinkTimeout < elapsed (← call getCurrentTime) conn.lastOppsiteRollerTime then
    backToIdle
  else return

/-- `client_on_timer` in `client_ready`. -/
def clientKeepAlive : ClientProc options Unit := do
  update fun client => { client with failTimeCounter := 0 }
  let conn ← theConn
  -- the time that a trace line prints
  let _ ← call getCurrentTime
  if clientConnTimeout < elapsed (← call getCurrentTime) conn.lastHbRecvTime then backToIdle
  else do
    clientCheckUplink
    clientHeartbeat

/-- `client_on_timer` behind the state `client_idle`. -/
def clientOnState : ClientProc options Unit := do
  match (← theConn).state with
  | .tcpHandshake => clientSendSyn
  | .tcpHandshakeDummy => clientAwaitDummy
  | .handshake1 => clientSendHandshake1
  | .handshake2 => clientSendHandshake2
  | .ready => clientKeepAlive
  | .idle => throw (.exit "unknown state,this shouldnt happen.")

/-- The connection is given up after too many resets. -/
def clientCheckResets : ClientProc options Unit := do
  if (← theConn).rawInfo.disabled then backToIdle else return

/-- `client_on_timer`. -/
def clientOnTimer (route : ClientOptions v) : ClientProc options Unit := do
  clientSweep
  clientCheckResets
  if (← theConn).state = .idle then do
    if ← clientConnect route then clientOnState else return
  else clientOnState

/-! ### Messages of the session -/

/-- A message shows that the other end is alive. -/
def clientNoteHeartbeat : ClientProc options Unit := do
  let lastHbRecvTime ← call getCurrentTime
  store { (← theConn) with lastHbRecvTime }

/-- With `hb_mode` zero data shows that the other end is alive. -/
def clientNoteData : ClientProc options Unit :=
  match options.hbMode with
  | .data => clientNoteHeartbeat
  | .heartbeat => return

/-- A message of a conversation goes to its local address, if the conversation is known. The
identifier of the session is there for the record only. -/
def clientDeliver (myId : UInt32) (frame : Frame) : ClientProc options Unit := do
  let tmpConvId := idAt frame.data 0
  let conn ← theConn
  let blob ← run conn.theBlob
  if blob.convManager.isConvUsed tmpConvId = false then return
  else do
    let convManager ← call (blob.convManager.updateActiveTime tmpConvId)
    store (conn.withConvs blob convManager)
    let tmpAddr := convManager.findDataByConv tmpConvId
    call (record (.sentTo tmpAddr (frame.data.drop 4) myId frame.seq))

/-- The connection becomes ready. -/
def clientBecomeReady : ClientProc options Unit := do
  enter .ready
  let lastHbRecvTime ← call getCurrentTime
  store { (← theConn) with
    lastHbSentTime := 0, lastHbRecvTime, lastOppsiteRollerTime := lastHbRecvTime }

/-- The first message of the other end completes the handshake. -/
def clientCompleteHandshake (route : ClientOptions v) : ClientProc options Unit := do
  if (← theConn).state = .handshake2 then do
    clientBecomeReady
    clientOnTimer route
  else return

/-- What a message of the session is for. -/
def clientOnFrame (myId : UInt32) (frame : Frame) : ClientProc options Unit :=
  if frame.type = typeHeartbeat then clientNoteHeartbeat
  else if frame.type = typeData ∧ 4 ≤ frame.data.length then do
    clientNoteData
    clientDeliver myId frame
  else return

/-- `client_on_raw_recv_hs2_or_ready`. -/
def clientOnRawRecvHs2OrReady (route : ClientOptions v) (myId : UInt32) (frame : Frame) :
    ClientProc options Unit := do
  let conn ← theConn
  if conn.rawInfo.source ≠ conn.rawInfo.destination then return
  else do
    clientCompleteHandshake route
    clientOnFrame myId frame

/-- The messages of one packet, one after the other. -/
def clientOnFrames (route : ClientOptions v) (myId : UInt32) : List Frame → ClientProc options Unit
  | [] => return
  | frame :: frames => do
    clientOnRawRecvHs2OrReady route myId frame
    clientOnFrames route myId frames

/-! ### Captured packets -/

/-- The client goes on to the first handshake. -/
def clientBeginHandshake1 (route : ClientOptions v) : ClientProc options Unit := do
  enter .handshake1
  let lastStateTime ← call getCurrentTime
  store { (← theConn) with lastStateTime, lastHbSentTime := 0 }
  clientOnTimer route

/-- `client_on_raw_recv` in the states that wait for a `SYN-ACK`. -/
def clientOnSynAck (route : ClientOptions v) : ClientProc options Unit := do
  call (check (options.raw.rawMode = .faketcp) "raw_mode == mode_faketcp")
  let conn ← theConn
  let (raw, data) ← call (recvRawPayload options conn.rawInfo)
  store { conn with rawInfo := raw }
  match data with
  | none => return
  | some data =>
    if maxDataLen + 1 ≤ data.length then return
    else if raw.source ≠ raw.destination then return
    else if data.length = 0 ∧ raw.recvInfo.syn = true ∧ raw.recvInfo.ack = true then
      if conn.state = .tcpHandshake then
        if raw.recvInfo.ackSeq ≠ raw.sendInfo.seq + 1 then return
        else clientBeginHandshake1 route
      else do
        store { conn with rawInfo := { raw with
          sendInfo := { raw.sendInfo with seq := raw.recvInfo.ackSeq - 1 }
          disabledAllowed := options.stillAllowed raw } }
        clientBeginHandshake1 route
    else return

/-- The checks of the TCP numbers in a response to the first handshake. -/
def RawInfo.numbersMatch {config : RawConfig v} (raw : RawInfo config) : Bool :=
  match config.rawMode with
  | .faketcp =>
    raw.recvInfo.ackSeq = raw.sendInfo.seq ∧ raw.recvInfo.seq = raw.sendInfo.ackSeq
  | .udp | .icmp => true

/-- The client goes on to the second handshake. -/
def clientBeginHandshake2 (route : ClientOptions v) (tmpOppsiteId : UInt32) :
    ClientProc options Unit := do
  let conn ← theConn
  store { conn with oppsiteId := tmpOppsiteId }
  call (record (.answered conn.myId tmpOppsiteId))
  enter .handshake2
  let lastStateTime ← call getCurrentTime
  store { (← theConn) with lastStateTime, lastHbSentTime := 0 }
  clientOnTimer route

/-- `client_on_raw_recv` in `client_handshake1`: received respond of handshake1. -/
def clientOnHandshake1 (route : ClientOptions v) : ClientProc options Unit := do
  let conn ← theConn
  let (raw, data) ← call (recvBare options conn.rawInfo)
  store { conn with rawInfo := raw }
  match data with
  | none => return
  | some data =>
    if raw.source ≠ raw.destination then return
    else if data.length < 12 then return
    else if idAt data 4 ≠ conn.myId then return
    else if raw.numbersMatch = false then return
    else clientBeginHandshake2 route (idAt data 0)

/-- `client_on_raw_recv` in `client_handshake2` and `client_ready`: received heartbeat or data. -/
def clientOnSafer (route : ClientOptions v) : ClientProc options Unit := do
  let (conn, frames) ← call (recvSaferMulti (← theConn))
  store conn
  clientOnFrames route conn.myId frames

/-- `client_on_raw_recv` with a packet in the buffer. -/
def clientOnBuffered (route : ClientOptions v) : ClientProc options Unit := do
  match (← theConn).state with
  | .idle => call discardRawPacket
  | .tcpHandshake | .tcpHandshakeDummy => clientOnSynAck route
  | .handshake1 => clientOnHandshake1 route
  | .handshake2 | .ready => clientOnSafer route

/-- `client_on_raw_recv`, with the result of its `recvfrom`. -/
def clientOnRawRecv (route : ClientOptions v) (received : Option Capture) :
    ClientProc options Unit := do
  if (← call (preRecvRawPacket options received)) < 0 then return
  else clientOnBuffered route

/-! ### Datagrams and commands -/

/-- A conversation that was not in use before is new. -/
def noteConv (manager : ConvManager LocalAddress) (conv : UInt32) (addr : LocalAddress) :
    Proc v Unit :=
  if manager.isDataUsed addr then return else record (.createdConv conv addr)

/-- A datagram is sent in an established session only. -/
def clientSendData (bytes : Bytes) (conv : UInt32) : ClientProc options Unit := do
  let conn ← theConn
  if conn.state = .ready then do
    store (← call (sendDataSafer conn bytes conv))
  else return

/-- A datagram goes into the conversation of its local address. -/
def clientForward (addr : LocalAddress) (bytes : Bytes) : ClientProc options Unit := do
  let conn ← theConn
  let blob ← run conn.theBlob
  match ← call (blob.convManager.convOf addr) with
  | none => return
  | some (conv, convManager) => do
    call (noteConv blob.convManager conv addr)
    let convManager ← call (convManager.updateActiveTime conv)
    store (conn.withConvs blob convManager)
    clientSendData bytes conv

/-- `client_on_udp_recv`, with the result of its `recvfrom`. -/
def clientOnUdpRecv (received : Option (LocalAddress × Bytes)) : ClientProc options Unit :=
  match received with
  | none => return
  | some (addr, bytes) =>
    if maxDataLen + 1 ≤ bytes.length then return
    else do
      call (record (.received addr bytes))
      clientForward addr bytes

/-- `reconnect`. -/
def reconnectCommand : Bytes := [114, 101, 99, 111, 110, 110, 101, 99, 116]

/-- The string that `fifo_cb` reads: one newline at the end is cut. -/
def fifoString (bytes : Bytes) : Bytes :=
  let line := if bytes.getLast? = some 10 then bytes.dropLast else bytes
  line.takeWhile fun byte => byte ≠ 0

/-- `fifo_cb`. The byte behind what was read is set, so a full buffer is overrun. -/
def fifoCb (bytes : Option Bytes) : ClientProc options Unit :=
  match bytes with
  | none => return
  | some bytes =>
    if bufLen ≤ bytes.length then throw (.undefined "buf[len]")
    else if fifoString bytes = reconnectCommand then backToIdle
    else return

/-! ### The event loop -/

/-- A callback of the event loop, with what its system calls return. -/
inductive ClientEvent where
  /-- `clear_timer_cb`. -/
  | timer
  /-- `raw_recv_cb`. -/
  | raw (received : Option Capture)
  /-- `udp_accept_cb`. -/
  | udp (received : Option (LocalAddress × Bytes))
  /-- `fifo_cb`. -/
  | fifo (bytes : Option Bytes)

/-- One callback. -/
def clientOnEvent (route : ClientOptions v) : ClientEvent → ClientProc options Unit
  | .timer => clientOnTimer route
  | .raw received => clientOnRawRecv route received
  | .udp received => clientOnUdpRecv received
  | .fifo bytes => fifoCb bytes

/-- What `client_event_loop` does before it waits for events. -/
def clientStart (options : Options v) (route : ClientOptions v) : Proc v (Client options) := do
  let conn ← newConnInfo options ClientState.idle
  let myId ← drawMyId
  let conn ← ConnInfo.prepare { conn with myId }
  let sendInfo := { conn.rawInfo.sendInfo with
    srcPort := 0
    newSrcIp := Vector.replicate _ 0
    newDstIp := route.remoteAddr.ip
    dstPort := route.remoteAddr.port }
  return ⟨{ conn with rawInfo := { conn.rawInfo with sendInfo } }, 0⟩

end Udp2raw
