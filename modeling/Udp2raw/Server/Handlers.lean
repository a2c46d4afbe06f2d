import Udp2raw.Server.Manager

/-!
# The server

The handlers of `server.cpp`: what the server does when a packet is captured, when a socket
of a conversation has a datagram and when a timer fires, and the loop that handles the
events of one `epoll_wait`. What a system call returned is a part of the event or the next
answer of the system. The return codes that no caller looks at are left out.
-/
namespace Udp2raw

open Proc ServerProc

variable {v : IpVersion} {options : Options v}

/-! ### Sockets and timers -/

/-- `remote_addr.new_connected_udp_fd()`; `none` for a negative return. -/
def newConnectedUdpFd : ServerProc options (Option Nat) := do
  let answer ← call ask
  let descriptors := (← theServer).descriptors
  match answer.ok, answer.descriptor descriptors.opened.keys with
  | true, some fd => do
    update fun server => server.withDescriptors (descriptors.sockOpen fd.val)
    return some fd.val
  | _, _ => return none

/-- `fd_manager.create` for a descriptor of a connection, with `get_info` for its owner. -/
def registerFd (fd : Nat) (p : Ptr) : ServerProc options Nat := do
  let fd64 ← onDescriptors fun descriptors => descriptors.create fd
  onDescriptors fun descriptors => return ((), ← descriptors.setInfo fd64 p)
  return fd64

/-- `set_timer_server`, for a connection that then owns the timer. -/
def setTimerServer (p : Ptr) : ServerProc options Nat := do
  let answer ← call ask
  let descriptors := (← theServer).descriptors
  match answer.descriptor descriptors.opened.keys with
  | none => throw (.exit "timer_fd create error")
  | some fd => do
    update fun server => server.withDescriptors (descriptors.sockOpen fd.val)
    let fd64 ← registerFd fd.val p
    if (← call ask).ok then return fd64 else throw (.exit "epoll_ctl return")

/-! ### The handshake -/

/-- The metadata of an answer goes back to where the packet came from. -/
def RawInfo.turnedBack {config : RawConfig v} (raw : RawInfo config) : RawInfo config :=
  { raw with sendInfo := { raw.sendInfo with
      newSrcIp := raw.recvInfo.newDstIp
      srcPort := raw.recvInfo.dstPort
      dstPort := raw.recvInfo.srcPort
      newDstIp := raw.recvInfo.newSrcIp } }

/-- The metadata of an answer continues what was received. -/
def RawInfo.continuing {config : RawConfig v} (raw : RawInfo config) : RawInfo config :=
  match config.rawMode with
  | .faketcp =>
    { raw with sendInfo := { raw.sendInfo with
        seq := raw.recvInfo.ackSeq
        ackSeq := raw.recvInfo.seq + UInt32.ofNat raw.recvInfo.dataLen
        tsAck := raw.recvInfo.ts } }
  | .icmp => { raw with sendInfo := { raw.sendInfo with myIcmpSeq := raw.recvInfo.myIcmpSeq } }
  | .udp => raw

/-- The connection becomes ready: the first branch of `server_on_raw_recv_pre_ready`. -/
def promote (p : Ptr) (tmpOppsiteConstId : UInt32) : ServerProc options Unit := do
  let conn ← call (← deref p).prepare
  update fun server => { server with
    readyNum := server.readyNum + 1
    constIdMp := server.constIdMp.insert tmpOppsiteConstId p }
  call (record (.becameReady tmpOppsiteConstId conn.rawInfo.source conn.myId conn.oppsiteId))
  let now ← call getCurrentTime
  let conn ← call (sendHeartbeat { conn with
    state := .ready, oppsiteConstId := tmpOppsiteConstId
    lastHbRecvTime := now, lastHbSentTime := now })
  let blob ← run conn.theBlob
  let timerFd64 ← setTimerServer p
  store p { conn.withAntiReplay blob blob.antiReplay.reInit with timerFd64 }

/-- A ready connection of the same client moves to the address of a new one: the second branch of
`server_on_raw_recv_pre_ready`. -/
def grab (p q : Ptr) (tmpOppsiteConstId : UInt32) : ServerProc options Unit := do
  let conn ← deref p
  let ori ← deref q
  if ori.state ≠ .ready then throw (.exit "this should never happen")
  else if conn.lastStateTime < ori.lastStateTime then
    store p { conn with state := .idle, oppsiteConstId := 0 }
  else do
    let server ← theServer
    let addr1 := ori.rawInfo.source
    if server.exist addr1 = false then throw (.exit "this shouldnt happen")
    else do
      let addr2 := conn.rawInfo.source
      if server.exist addr2 = false then throw (.exit "this shouldnt happen2")
      else do
        let pOri ← run (server.find addr1)
        let pNew ← run (server.find addr2)
        update fun server =>
          { server with mp := (server.mp.replace addr2 pOri).replace addr1 pNew }
        let ori ← run (ori.recover conn)
        call (record (.moved tmpOppsiteConstId ori.rawInfo.source ori.myId ori.oppsiteId))
        let ori ← call (sendHeartbeat ori)
        let now ← call getCurrentTime
        store q { ori with lastHbRecvTime := now }
        store p { conn with state := .idle, oppsiteConstId := 0 }

/-- `server_on_raw_recv_pre_ready`. -/
def serverOnRawRecvPreReady (p : Ptr) (tmpOppsiteConstId : UInt32) :
    ServerProc options Unit := do
  let server ← theServer
  match server.constIdMp.lookup tmpOppsiteConstId with
  | none =>
    if maxReadyConnNum ≤ server.readyNum.toNat then do
      store p { (← deref p) with state := .idle }
    else promote p tmpOppsiteConstId
  | some q => grab p q tmpOppsiteConstId

/-- `server_on_raw_recv_handshake1`. -/
def serverOnRawRecvHandshake1 (p : Ptr) (data : Bytes) : ServerProc options Unit :=
  if data.length < 12 then return
  else do
    let tmpOppsiteId := idAt data 0
    let tmpMyId := idAt data 4
    let conn ← deref p
    if tmpMyId = 0 then do
      let rawInfo ← call (sendHandshake options conn.rawInfo.continuing conn.myId tmpOppsiteId
        options.constId)
      store p { conn with rawInfo }
    else if tmpMyId = conn.myId then do
      store p { conn with oppsiteId := tmpOppsiteId, rawInfo := conn.rawInfo.continuing }
      serverOnRawRecvPreReady p (idAt data 8)
    else return

/-! ### Messages of a ready connection -/

/-- `send` on a descriptor: the datagram goes to the socket it stands for. -/
def sendSocket (fd : Nat) (bytes : Bytes) (myId : UInt32) (seq : UInt64) :
    ServerProc options Unit := do
  match (← theServer).descriptors.opened.lookup fd with
  | none => return
  | some socket => call (record (.wroteSocket socket bytes myId seq))

/-- A message of a conversation in use goes to its socket. -/
def deliver (p : Ptr) (frame : Frame) (tmpConvId : UInt32) : ServerProc options Unit := do
  let conn ← deref p
  let blob ← run conn.theBlob
  let fd64 := blob.convManager.findDataByConv tmpConvId
  let convManager ← call (blob.convManager.updateActiveTime tmpConvId)
  store p (conn.withConvs blob convManager)
  let fd ← run ((← theServer).descriptors.toFd fd64)
  sendSocket fd (frame.data.drop 4) conn.myId frame.seq

/-- A new conversation gets a socket of its own. The result is what the handler returns if it does
not. -/
def openConv (p : Ptr) (tmpConvId : UInt32) : ServerProc options (Option Int) := do
  match ← newConnectedUdpFd with
  | none => return some (-1)
  | some newUdpFd => do
    let socket := (← theServer).descriptors.opened.lookup newUdpFd
    let newUdpFd64 ← registerFd newUdpFd p
    -- the number stays known to `fd_manager` when `epoll_ctl` fails
    if (← call ask).ok = false then do
      update fun server => server.withDescriptors (server.descriptors.sockClose newUdpFd)
      return some (-1)
    else do
      let conn ← deref p
      let blob ← run conn.theBlob
      let convManager ← call (blob.convManager.insertConv tmpConvId newUdpFd64)
      store p (conn.withConvs blob convManager)
      call (record (.openedSocket conn.oppsiteConstId tmpConvId (socket.getD 0)))
      return none

/-- A conversation is in use, or now is. The result is what the handler returns if neither. -/
def ensureConv (p : Ptr) (tmpConvId : UInt32) : ServerProc options (Option Int) := do
  let blob ← run (← deref p).theBlob
  if blob.convManager.isConvUsed tmpConvId then return none
  else if maxConvNum ≤ blob.convManager.getSize then return some 0
  else openConv p tmpConvId

/-- A message shows that the other end is alive. -/
def noteHeartbeat (p : Ptr) : ServerProc options Unit := do
  let conn ← deref p
  let lastHbRecvTime ← call getCurrentTime
  store p { conn with lastHbRecvTime }

/-- With `hb_mode` zero data shows that the other end is alive. -/
def noteData (p : Ptr) : ServerProc options Unit :=
  match options.hbMode with
  | .data => noteHeartbeat p
  | .heartbeat => return

/-- `server_on_raw_recv_ready`, with the value it returns. -/
def serverOnRawRecvReady (p : Ptr) (frame : Frame) : ServerProc options Int :=
  if frame.type = typeHeartbeat then do
    noteHeartbeat p
    return 0
  else if frame.type = typeData ∧ 4 ≤ frame.data.length then do
    let tmpConvId := idAt frame.data 0
    noteData p
    match ← ensureConv p tmpConvId with
    | some ret => return ret
    | none => do
      deliver p frame tmpConvId
      return 0
  else return 0

/-- The messages of one packet, one after the other. -/
def serverOnFrames (p : Ptr) : List Frame → ServerProc options Unit
  | [] => return
  | frame :: frames => do
    let _ ← serverOnRawRecvReady p frame
    serverOnFrames p frames

/-! ### Captured packets -/

/-- The answer to a `SYN` packet. -/
def RawInfo.synAck {config : RawConfig v} (raw : RawInfo config) : RawInfo config :=
  { raw with sendInfo := { raw.sendInfo with
      ackSeq := raw.recvInfo.seq + 1, psh := false, syn := true, ack := true
      tsAck := raw.recvInfo.ts } }

/-- Any `SYN` packet is answered before a connection becomes ready. -/
def replySyn (options : Options v) : Proc v Unit := do
  let (raw, data) ← recvRawPayload options (← newRawInfo options)
  match data with
  | none => return
  | some data =>
    if maxDataLen + 1 ≤ data.length then return
    else if options.useTcpDummySocket then return
    else if data.length = 0 ∧ raw.recvInfo.syn = true ∧ raw.recvInfo.ack = false then do
      let _ ← sendRawPayload options raw.turnedBack.synAck []
    else return

/-- The identifier of an echo packet has to be known before the packet is parsed. -/
def RawInfo.expecting {config : RawConfig v} (raw : RawInfo config) (port : UInt16) :
    RawInfo config :=
  match config.rawMode with
  | .icmp => { raw with sendInfo := { raw.sendInfo with dstPort := port, srcPort := port } }
  | .faketcp | .udp => raw

/-- An entry for a new address, in the state that waits for the second handshake. -/
def newEntry (addr : Address v) (raw : RawInfo options.raw) : ServerProc options Ptr := do
  let conn ← call (newConnInfo options ServerState.idle)
  let position := (← call ask).position
  let p := (← theServer).allocated
  update fun server => { server with
    allocated := server.allocated + 1
    mp := server.mp.insertAt position addr p }
  let myId ← call drawMyId
  let lastStateTime ← call getCurrentTime
  call (record (.created addr myId))
  store p { conn with rawInfo := raw.turnedBack, myId, state := .handshake1, lastStateTime }
  return p

/-- A packet from a new address. -/
def serverOnNewAddress (addr : Address v) : ServerProc options Unit := do
  if maxHandshakeConnNum ≤ (← theServer).mp.size then call discardRawPacket
  else do
    let tmpRawInfo ← call (newRawInfo options)
    let (raw, data) ← call (recvBare options (tmpRawInfo.expecting addr.port))
    match data with
    | none => return
    | some data =>
      if data.length < 12 then return
      else if idAt data 4 ≠ 0 then return
      else do
        let p ← newEntry addr raw
        serverOnRawRecvHandshake1 p data

/-- A packet from an address with an entry. -/
def serverOnKnownAddress (p : Ptr) : ServerProc options Unit := do
  let conn ← deref p
  match conn.state with
  | .handshake1 => do
    let (rawInfo, data) ← call (recvBare options conn.rawInfo)
    store p { conn with rawInfo }
    match data with
    | none => return
    | some data => serverOnRawRecvHandshake1 p data
  | .ready => do
    let (conn, frames) ← call (recvSaferMulti conn)
    store p conn
    serverOnFrames p frames
  | .idle => call discardRawPacket

/-- Whether an address has a ready connection. -/
def Server.isReady (server : Server options) (addr : Address v) : Exec Bool :=
  match server.mp.lookup addr with
  | none => .ok false
  | some p => do return (← server.deref p).state = .ready

/-- A packet whose source is known. -/
def serverOnPeeked (peeked : RawInfo options.raw) : ServerProc options Unit := do
  let addr := peeked.source
  let server ← theServer
  if options.raw.rawMode = .faketcp ∧ peeked.recvInfo.syn = true then do
    if ← run (server.isReady addr) then call discardRawPacket else call (replySyn options)
  else
    match server.mp.lookup addr with
    | none => serverOnNewAddress addr
    | some p => serverOnKnownAddress p

/-- `server_on_raw_recv_multi`, with the result of its `recvfrom`. -/
def serverOnRawRecvMulti (received : Option Capture) : ServerProc options Unit := do
  let peekRawInfo ← call (newRawInfo options)
  if (← call (preRecvRawPacket options received)) < 0 then return
  else do
    let (peeked, seen) ← call (peekRawPacket options { peekRawInfo with
      peek := true, disabledAllowed := options.stillAllowed peekRawInfo })
    if seen then serverOnPeeked peeked else call discardRawPacket

/-! ### Timers and datagrams -/

/-- `server_on_timer_multi`. -/
def serverOnTimerMulti (p : Ptr) : ServerProc options Unit := do
  let conn ← deref p
  call (check (conn.state = .ready) "state == server_ready")
  let blob ← run conn.theBlob
  let descriptors := (← theServer).descriptors
  let (convManager, descriptors) ←
    call (blob.convManager.clearInactive serverClearFunction descriptors)
  update fun server => server.withDescriptors descriptors
  let conn := conn.withConvs blob convManager
  store p conn
  let now ← call getCurrentTime
  if elapsed now conn.lastHbSentTime < heartbeatInterval then return
  else do
    let conn ← call (sendHeartbeat conn)
    let lastHbSentTime ← call getCurrentTime
    store p { conn with lastHbSentTime }

/-- `server_on_udp_recv`, with what its `recv` returned. -/
def serverOnUdpRecv (p : Ptr) (fd64 : Nat) (received : Option Bytes) :
    ServerProc options Unit := do
  let conn ← deref p
  if conn.state ≠ .ready then throw (.exit "this shouldnt happen")
  else do
    let blob ← run conn.theBlob
    call (check (blob.convManager.isDataUsed fd64) "is_data_used(fd64)")
    let convId := blob.convManager.findConvByData fd64
    let descriptors := (← theServer).descriptors
    let fd ← run (descriptors.toFd fd64)
    match descriptors.opened.lookup fd, received with
    | some socket, some bytes =>
      if maxDataLen + 1 ≤ bytes.length then return
      else do
        call (record (.readSocket socket bytes))
        let conn ← call (sendDataSafer conn bytes convId)
        store p conn
    | _, _ => return

/-! ### The event loop -/

/-- What the event loop opened before it waits for events. -/
structure Standing where
  /-- `timer_fd`. -/
  timerFd : Nat
  /-- `raw_recv_fd`. -/
  rawRecvFd : Nat
  /-- `fifo_fd`, if there is one. -/
  fifoFd : Option Nat
  /-- They are descriptors, not numbers of `fd_manager`. -/
  small : ∀ fd, fd = timerFd ∨ fd = rawRecvFd ∨ some fd = fifoFd → fd ≤ 2 ^ 32 - 1

/-- An event of `epoll_wait`, with what the system calls of its handler return. -/
structure EpollEvent where
  /-- `data.u64`. -/
  data : Nat
  /-- The captured packet, for an event of `raw_recv_fd`. -/
  capture : Option Capture
  /-- The bytes read, for an event of a socket or of `fifo_fd`. -/
  bytes : Option Bytes

/-- A line from the fifo. The byte behind what was read is set, so a full buffer is overrun. -/
def onFifo (bytes : Option Bytes) : ServerProc options Unit :=
  match bytes with
  | none => return
  | some bytes => if bufLen ≤ bytes.length then throw (.undefined "buf[len]") else return

/-- An event of a descriptor that `fd_manager` knows. -/
def serverOnFd64 (fd64 : Nat) (bytes : Option Bytes) : ServerProc options Unit := do
  let descriptors := (← theServer).descriptors
  call (check (descriptors.existInfo fd64) "fd_manager.exist_info(fd64)")
  let p ← run (descriptors.getInfo fd64)
  let conn ← deref p
  if fd64 = conn.timerFd64 then do
    let _ ← run (descriptors.toFd fd64)
    call (check (conn.state = .ready) "state == server_ready")
    serverOnTimerMulti p
  else serverOnUdpRecv p fd64 bytes

/-- One event of `server_event_loop`. The result is false where the loop returns. -/
def serverOnEvent (standing : Standing) (event : EpollEvent) : ServerProc options Bool := do
  if event.data = standing.timerFd then do
    clearInactive
    return true
  else if event.data = standing.rawRecvFd then do
    serverOnRawRecvMulti event.capture
    return true
  else if some event.data = standing.fifoFd then do
    onFifo event.bytes
    return true
  else if 2 ^ 32 - 1 < event.data then do
    if (← theServer).descriptors.exist event.data = false then return false
    else do
      serverOnFd64 event.data event.bytes
      return true
  else throw (.exit "unknown fd,this should never happen")

/-- The events of one `epoll_wait` in `server_event_loop`. The result is false when the loop
returned. -/
def serverEventLoop (standing : Standing) : List EpollEvent → ServerProc options Bool
  | [] => return true
  | event :: events => do
    if ← serverOnEvent standing event then serverEventLoop standing events else return false

end Udp2raw
