import Udp2raw.Connection.Session
import Udp2raw.Server.Handlers

/-!
# Steps of the server

Every handler of the server is a sequence of the steps below. Each step changes the tables
in one way that makes sense for itself: an entry is created, promoted, refused, moved or
erased, a conversation gets a socket or loses it, a connection exchanges a message. A step
says what it found, what it changed and what it recorded, so a property of every run is
proved once for each step.
-/
namespace Udp2raw

variable {v : IpVersion} {options : Options v}

/-- The server in the middle of a handler. -/
structure Stage (options : Options v) where
  /-- The shared state of the process. -/
  machine : Machine v
  /-- The tables. -/
  server : Server options
  /-- The accepted messages that are not handled yet. -/
  inbox : List Pending

/-- The descriptors with a new one of a connection. -/
def Descriptors.registered (descriptors : Descriptors) (fd : Nat) (p : Ptr) : Descriptors :=
  let opened := descriptors.sockOpen fd
  { opened with
    counter := opened.counter + 1
    fdToFd64 := opened.fdToFd64.insert fd opened.counter
    fd64ToFd := opened.fd64ToFd.insert opened.counter fd
    fdInfo := opened.fdInfo.insert opened.counter p }

/-- A descriptor that the kernel may give out and that `fd_manager` does not know. -/
def Descriptors.Unused (descriptors : Descriptors) (fd : Nat) : Prop :=
  fd ∉ descriptors.opened ∧ fd ∉ descriptors.fdToFd64

namespace Server

/-- The server with a connection moved between two addresses. -/
def swapped (server : Server options) (addr1 addr2 : Address v) (pOri pNew : Ptr) :
    Server options :=
  { server with mp := (server.mp.replace addr2 pOri).replace addr1 pNew }

/-- A connection in memory goes on; what it heard came from its own address. -/
structure Touches (server : Server options) (p : Ptr) (conn next : ServerConn options)
    (now later : Nat) : Prop where
  /-- It is in memory. -/
  found : server.heap p = some conn
  /-- It goes on with the same identifier and the same conversations. -/
  like : conn.Like now later next
  /-- It has the same peer, or its source was read again. -/
  peer : SamePeer conn.rawInfo next.rawInfo ∨
    ∃ addr, server.mp.lookup addr = some p ∧ HeardFrom addr conn.rawInfo next.rawInfo

/-- The place of the sweep is an entry of the table. -/
def Cursor (server : Server options) : Prop :=
  ∀ addr, server.clearIt = some addr → addr ∈ server.mp

/-- A new entry, waiting for the second handshake. -/
structure Fresh (addr : Address v) (conn : ServerConn options) : Prop where
  /-- It waits for the second handshake. -/
  state : conn.state = .handshake1
  /-- It has no conversations, -/
  blob : conn.blob = none
  /-- no timer -/
  timerFd64 : conn.timerFd64 = 0
  /-- and no client yet. -/
  oppsiteConstId : conn.oppsiteConstId = 0
  /-- It receives from its address -/
  source : conn.rawInfo.source = addr
  /-- and sends there. -/
  destination : conn.rawInfo.destination = addr
  /-- It is there to receive packets. -/
  peek : conn.rawInfo.peek = false
  /-- It has an identifier. -/
  myId : conn.myId ≠ 0

/-- A connection that became ready for a client, and sent a message with a number. -/
structure Promoted (constId : UInt32) (timer : Nat) (seq : UInt64)
    (before after : ServerConn options) : Prop where
  /-- It is ready. -/
  state : after.state = .ready
  /-- It has the same identifier. -/
  myId : after.myId = before.myId
  /-- The other end has the same identifier. -/
  oppsiteId : after.oppsiteId = before.oppsiteId
  /-- It belongs to the client. -/
  oppsiteConstId : after.oppsiteConstId = constId
  /-- It has a timer. -/
  timerFd64 : after.timerFd64 = timer
  /-- It has the same peer. -/
  peer : SamePeer before.rawInfo after.rawInfo
  /-- It has no conversation yet, and an empty window. -/
  blob : ∃ blob, after.blob = some blob ∧ blob.convManager.convToData = ∅ ∧
    blob.convManager.dataToConv = ∅ ∧ blob.convManager.lru = .empty ∧
    blob.antiReplay.maxPacketReceived = 0 ∧ blob.antiReplay.antiReplaySeq = seq + 1

/-- A ready connection that goes on with the session of a new one, and sent a message with a
number. -/
structure Recovered (now later : Nat) (seq : UInt64) (conn ori after : ServerConn options) :
    Prop where
  /-- It is in the same state. -/
  state : after.state = ori.state
  /-- It has the same timer. -/
  timerFd64 : after.timerFd64 = ori.timerFd64
  /-- It belongs to the same client. -/
  oppsiteConstId : after.oppsiteConstId = ori.oppsiteConstId
  /-- It has the identifier of the new one. -/
  myId : after.myId = conn.myId
  /-- The other end has the identifier of the new one. -/
  oppsiteId : after.oppsiteId = conn.oppsiteId
  /-- It has the peer of the new one. -/
  peer : SamePeer conn.rawInfo after.rawInfo
  /-- Its session began no earlier than before. -/
  lastStateTime : ori.lastStateTime ≤ after.lastStateTime
  /-- It keeps its conversations and starts an empty window. -/
  blob : ∃ old new, ori.blob = some old ∧ after.blob = some new ∧ Blob.Like now later old new ∧
    new.antiReplay.maxPacketReceived = 0 ∧ old.antiReplay.antiReplaySeq = seq ∧
    new.antiReplay.antiReplaySeq = seq + 1

/-- A connection that is not used any more. -/
structure Idled (before after : ServerConn options) : Prop where
  /-- It is idle. -/
  state : after.state = .idle
  /-- It has the same identifier. -/
  myId : after.myId = before.myId
  /-- It has the same conversations. -/
  blob : after.blob = before.blob
  /-- It has the same timer. -/
  timerFd64 : after.timerFd64 = before.timerFd64
  /-- It belongs to the same client, or to none. -/
  oppsiteConstId : after.oppsiteConstId = before.oppsiteConstId ∨ after.oppsiteConstId = 0
  /-- It has the same peer. -/
  peer : SamePeer before.rawInfo after.rawInfo

/-- A conversation is in use with a socket of its own. -/
structure Serves (server : Server options) (conn : ServerConn options) (conv : UInt32)
    (socket : Nat) : Prop where
  /-- The conversation is known by a number, the number stands for a descriptor, and this for the
  socket. -/
  chain : ∃ blob fd64 fd, conn.blob = some blob ∧
    blob.convManager.convToData.lookup conv = some fd64 ∧
    server.descriptors.fd64ToFd.lookup fd64 = some fd ∧
    server.descriptors.opened.lookup fd = some socket

end Server

open Server in
/-- One step of the server. -/
inductive Step : Stage options → Stage options → Prop
  /-- A packet was looked at, dropped or answered without a connection. -/
  | quiet {m m' : Machine v} {s : Server options} {inbox : List Pending}
      {events : List (Event v)} :
      Minor events → Went events m m' → Step ⟨m, s, inbox⟩ ⟨m', s, inbox⟩
  /-- A connection made a step of its session. -/
  | exchanged {m m' : Machine v} {s : Server options} {inbox arrived : List Pending} {p : Ptr}
      {conn next : ServerConn options} {events : List (Event v)} :
      s.Touches p conn next m.now m'.now → conn.Exchanged events arrived next →
      Went events m m' → Step ⟨m, s, inbox⟩ ⟨m', s.put p next, inbox ++ arrived⟩
  /-- The first handshake was answered. -/
  | replied {m m' : Machine v} {s : Server options} {inbox : List Pending} {p : Ptr}
      {conn next : ServerConn options} {id1 id3 : UInt32} {events : List (Event v)} :
      s.Touches p conn next m.now m'.now → conn.SameSession next → conn.state = .handshake1 →
      HeardHandshake m.log m.self id1 0 id3 →
      BareEvents conn.myId id1 options.constId events →
      Went events m m' → Step ⟨m, s, inbox⟩ ⟨m', s.put p next, inbox⟩
  /-- The second handshake named the other end. -/
  | introduced {m : Machine v} {s : Server options} {inbox : List Pending} {p : Ptr}
      {conn next : ServerConn options} :
      s.Touches p conn next m.now m.now → conn.state = .handshake1 →
      Step ⟨m, s, inbox⟩ ⟨m, s.put p next, inbox⟩
  /-- A datagram of a socket was sent to the client. -/
  | forwarded {m m' : Machine v} {s : Server options} {inbox : List Pending} {p : Ptr}
      {conn next : ServerConn options} {fd64 socket : Nat} {conv : UInt32} {blob : Blob Nat}
      {bytes : Bytes} {seq : UInt64} {events : List (Event v)} :
      s.Touches p conn next m.now m'.now → conn.Numbered seq next → conn.state = .ready →
      conn.blob = some blob → blob.convManager.dataToConv.lookup fd64 = some conv →
      (∃ fd, s.descriptors.fd64ToFd.lookup fd64 = some fd ∧
        s.descriptors.opened.lookup fd = some socket) →
      SaferEvents conn.myId conn.oppsiteId seq typeData (BigEndian.encode 4 conv.toNat ++ bytes)
        events →
      Went (.readSocket socket bytes :: .sendDataSafer conn.myId conn.oppsiteId conv bytes ::
        events) m m' →
      Step ⟨m, s, inbox⟩ ⟨m', s.put p next, inbox⟩
  /-- An accepted message was handled without a delivery. -/
  | skipped {m : Machine v} {s : Server options} {inbox : List Pending} {pending : Pending} :
      Step ⟨m, s, pending :: inbox⟩ ⟨m, s, inbox⟩
  /-- An accepted message was delivered. -/
  | delivered {m m' : Machine v} {s : Server options} {inbox : List Pending} {pending : Pending}
      {p : Ptr} {conn : ServerConn options} {socket : Nat} :
      s.heap p = some conn → conn.myId = pending.myId → conn.oppsiteId = pending.oppsiteId →
      pending.frame.type = typeData → 4 ≤ pending.frame.data.length →
      s.Serves conn (idAt pending.frame.data 0) socket →
      Went [.wroteSocket socket (pending.frame.data.drop 4) pending.myId pending.frame.seq] m m' →
      Step ⟨m, s, pending :: inbox⟩ ⟨m', s, inbox⟩
  /-- An entry was created for a new address. -/
  | created {m m' : Machine v} {s : Server options} {inbox : List Pending} {addr : Address v}
      {conn : ServerConn options} {position : Nat} {id1 id3 : UInt32} :
      addr ∉ s.mp → s.mp.size < maxHandshakeConnNum → Fresh addr conn →
      HeardHandshake m.log m.self id1 0 id3 →
      Went [.drewMyId conn.myId, .created addr conn.myId] m m' →
      Step ⟨m, s, inbox⟩
        ⟨m', { s with
          allocated := s.allocated + 1, mp := s.mp.insertAt position addr s.allocated
          }.put s.allocated conn, inbox⟩
  /-- An entry was refused and is not used any more. -/
  | refused {m : Machine v} {s : Server options} {inbox : List Pending} {p : Ptr}
      {conn next : ServerConn options} :
      s.heap p = some conn → conn.state = .handshake1 → Idled conn next →
      Step ⟨m, s, inbox⟩ ⟨m, s.put p next, inbox⟩
  /-- An entry became a ready connection of a client that had none. -/
  | promoted {m m' : Machine v} {s : Server options} {inbox : List Pending} {p : Ptr}
      {conn next : ServerConn options} {constId : UInt32} {fd : Nat} {data : Bytes} {seq : UInt64}
      {events : List (Event v)} :
      s.heap p = some conn → conn.state = .handshake1 →
      s.constIdMp.lookup constId = none → s.readyNum.toNat < maxReadyConnNum →
      HeardHandshake m.log m.self conn.oppsiteId conn.myId constId →
      s.descriptors.Unused fd → Promoted constId s.descriptors.counter seq conn next →
      SaferEvents conn.myId conn.oppsiteId seq typeHeartbeat data events →
      Went (.becameReady constId conn.rawInfo.source conn.myId conn.oppsiteId :: events) m m' →
      Step ⟨m, s, inbox⟩
        ⟨m', { s with
          readyNum := s.readyNum + 1, constIdMp := s.constIdMp.insert constId p
          descriptors := s.descriptors.registered fd p }.put p next, inbox⟩
  /-- The ready connection of a client moved to the address of an entry. -/
  | moved {m m' : Machine v} {s : Server options} {inbox : List Pending} {p q pOri pNew : Ptr}
      {conn ori next idle : ServerConn options} {constId : UInt32} {data : Bytes} {seq : UInt64}
      {events : List (Event v)} :
      s.heap p = some conn → conn.state = .handshake1 →
      s.constIdMp.lookup constId = some q → s.heap q = some ori → ori.state = .ready →
      s.mp.lookup ori.rawInfo.source = some pOri → s.mp.lookup conn.rawInfo.source = some pNew →
      HeardHandshake m.log m.self conn.oppsiteId conn.myId constId →
      Recovered m.now m'.now seq conn ori next → Idled conn idle →
      SaferEvents conn.myId conn.oppsiteId seq typeHeartbeat data events →
      Went (.moved constId conn.rawInfo.source conn.myId conn.oppsiteId :: events) m m' →
      Step ⟨m, s, inbox⟩
        ⟨m', ((s.swapped ori.rawInfo.source conn.rawInfo.source pOri pNew).put q next).put p idle,
          inbox⟩
  /-- A conversation got a socket. -/
  | openedConv {m m' : Machine v} {s : Server options} {inbox : List Pending} {p : Ptr}
      {conn : ServerConn options} {blob : Blob Nat} {convs : ConvManager Nat} {conv : UInt32}
      {fd : Nat} :
      s.heap p = some conn → conn.blob = some blob → conv ∉ blob.convManager.convToData →
      s.descriptors.Unused fd →
      convs.dataToConv = blob.convManager.dataToConv.insert s.descriptors.counter conv →
      convs.convToData = blob.convManager.convToData.insert conv s.descriptors.counter →
      convs.lru.keys = conv :: blob.convManager.lru.keys →
      (blob.convManager.lru.NotAfter m.now → convs.lru.NotAfter m'.now) →
      Went [.openedSocket conn.oppsiteConstId conv s.descriptors.serials] m m' →
      Step ⟨m, s, inbox⟩
        ⟨m', (s.withDescriptors (s.descriptors.registered fd p)).put p (conn.withConvs blob convs),
          inbox⟩
  /-- A socket that `epoll` refused was closed; `fd_manager` keeps its number. -/
  | lostSocket {m m' : Machine v} {s : Server options} {inbox : List Pending} {p : Ptr} {fd : Nat} :
      (∃ position, (m.answers position).ok = false) → s.descriptors.Unused fd → Went [] m m' →
      Step ⟨m, s, inbox⟩
        ⟨m', s.withDescriptors ((s.descriptors.registered fd p).sockClose fd), inbox⟩
  /-- An idle conversation was closed. -/
  | evicted {m : Machine v} {s : Server options} {inbox : List Pending} {p : Ptr}
      {conn : ServerConn options} {blob : Blob Nat} {convs : ConvManager Nat}
      {descriptors : Descriptors} :
      s.heap p = some conn → conn.blob = some blob →
      ConvManager.Erased serverClearFunction (blob.convManager, s.descriptors)
        (convs, descriptors) →
      Step ⟨m, s, inbox⟩
        ⟨m, (s.withDescriptors descriptors).put p (conn.withConvs blob convs), inbox⟩
  /-- An entry was erased in the middle of a sweep. -/
  | erased {m : Machine v} {s s' : Server options} {inbox : List Pending} {addr : Address v} :
      s.clearIt = none → s.erase addr = .ok s' → Step ⟨m, s, inbox⟩ ⟨m, s', inbox⟩
  /-- The sweep noted where it stands. -/
  | swept {m : Machine v} {s : Server options} {inbox : List Pending} {clearIt : Option (Address v)}
      {lastClearTime : Nat} :
      Cursor { s with clearIt, lastClearTime } →
      Step ⟨m, s, inbox⟩ ⟨m, { s with clearIt, lastClearTime }, inbox⟩

/-- A connection made a step of its session, and no message has to wait. -/
theorem Step.alone {m m' : Machine v} {s : Server options} {p : Ptr}
    {conn next : ServerConn options} {events : List (Event v)} (inbox : List Pending)
    (touches : s.Touches p conn next m.now m'.now) (exchanged : conn.Exchanged events [] next)
    (went : Went events m m') : Step ⟨m, s, inbox⟩ ⟨m', s.put p next, inbox⟩ := by
  have step : Step ⟨m, s, inbox⟩ ⟨m', s.put p next, inbox ++ []⟩ :=
    .exchanged touches exchanged went
  rwa [List.append_nil] at step

/-- Every step moves the process forward. -/
theorem Step.went {one two : Stage options} (step : Step one two) :
    ∃ events, Went events one.machine two.machine := by
  cases step with
  | skipped | introduced | refused | evicted | erased | swept => exact ⟨[], .refl _⟩
  | quiet _ went => exact ⟨_, went⟩
  | exchanged _ _ went => exact ⟨_, went⟩
  | replied _ _ _ _ _ went => exact ⟨_, went⟩
  | forwarded _ _ _ _ _ _ _ went => exact ⟨_, went⟩
  | delivered _ _ _ _ _ _ went => exact ⟨_, went⟩
  | created _ _ _ _ went => exact ⟨_, went⟩
  | promoted _ _ _ _ _ _ _ _ went => exact ⟨_, went⟩
  | moved _ _ _ _ _ _ _ _ _ _ _ went => exact ⟨_, went⟩
  | openedConv _ _ _ _ _ _ _ _ went => exact ⟨_, went⟩
  | lostSocket _ _ went => exact ⟨_, went⟩

/-- A sequence of steps of the server. -/
abbrev Steps (before after : Stage options) : Prop := Relation.ReflTransGen Step before after

/-- Every sequence of steps moves the process forward. -/
theorem Steps.went {one two : Stage options} (steps : Steps one two) :
    ∃ events, Went events one.machine two.machine := by
  induction steps with
  | refl => exact ⟨[], .refl _⟩
  | tail _ last ih =>
    obtain ⟨first, before⟩ := ih
    obtain ⟨second, after⟩ := last.went
    exact ⟨first ++ second, before.trans after⟩

end Udp2raw
