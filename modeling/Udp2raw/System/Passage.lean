import Udp2raw.Connection.Passage
import Udp2raw.Server.KeySchedules
import Udp2raw.Client.KeySchedules
import Udp2raw.System.EndToEnd

/-!
# Datagrams that reach their socket

A client sends datagrams of a conversation, each in one packet. A reachable server that captures
these packets as they went on the wire, and has the session ready under their source with a socket
for the conversation, goes through all its handlers and writes the datagrams to the socket, in the
order in which they were sent.
-/
namespace Udp2raw

open Proc ServerProc Server

variable {v : IpVersion} {options sender receiver : Options v} {m m' : Machine v}
  {s s' : Server options} {σ τ : Type} [DecidableEq τ]

/-! ### The packet -/

/-- A look at a packet that a connection sends sees its flag. -/
theorem RawInfo.SendsPayload.peeked {config peer : RawConfig v} {raw : RawInfo config}
    {payload packet : Bytes} (sends : raw.SendsPayload payload packet)
    (mode : peer.rawMode = config.rawMode)
    (protocol : raw.sendInfo.protocol = config.rawMode.protocol v)
    (bound : ∀ addr, peer.bindAddr = some addr → raw.sendInfo.newDstIp = addr) {capture : Capture}
    (arrived : capture.packet = onWire config packet)
    (short : capture.packet.length ≤ maxDataLen) (look : RawInfo peer) :
    ∃ seen, peekRaw peer capture look = (seen, true) ∧
      (config.rawMode = .faketcp → seen.recvInfo.syn = raw.sendInfo.syn) := by
  obtain ⟨env, rfl⟩ := sends
  have size := sentSegment_length config env raw.sendInfo payload
  have limit : maxDataLen = 1800 := rfl
  have total : capture.packet.length = v.headerSize +
      (config.rawMode.sentHeaderSize raw.sendInfo.syn + payload.length) := by
    rw [arrived, onWire_ipPacket, List.length_append, wireHeader_length, size]
  have wire := wire_onWire config raw.sendInfo env.ipId
    (sentSegment config env raw.sendInfo payload) capture.stale (by omega)
  rw [← onWire_ipPacket, ← arrived] at wire
  have read := wire.recvRawIp look bound
  cases sending : config.rawMode with
  | faketcp =>
    rw [sending] at size protocol
    simp only [sentSegment, sending] at wire
    have long : ¬(sentSegment config env raw.sendInfo payload).length < tcpHeaderSize := by
      rw [size, RawMode.sentHeaderSize, tcpDoff, tcpHeaderSize]
      split <;> omega
    have flags : capture.read (v.headerSize + 13) = tcpFlags raw.sendInfo :=
      wire.read_at 13 rfl (by simp [tcpSegment, List.drop_append, List.drop_of_length_le])
    have flag : tcpFlag capture v.headerSize 1 = raw.sendInfo.syn := by
      rw [tcpFlag, flags]
      cases syn : raw.sendInfo.syn <;> cases ack : raw.sendInfo.ack <;>
        cases psh : raw.sendInfo.psh <;> simp only [tcpFlags, syn, ack, psh] <;> decide
    have known : ¬(look.recvInfo.withIp raw.sendInfo).protocol ≠ ipprotoTcp := by
      rw [not_not]
      exact protocol
    simp only [peekRaw, read, mode, sending, if_neg known, if_neg long]
    exact ⟨_, rfl, fun _ => flag⟩
  | udp =>
    rw [sending] at size protocol
    have long : ¬(sentSegment config env raw.sendInfo payload).length < udpHeaderSize := by
      rw [size, RawMode.sentHeaderSize]
      omega
    have known : ¬(look.recvInfo.withIp raw.sendInfo).protocol ≠ ipprotoUdp := by
      rw [not_not]
      exact protocol
    simp only [peekRaw, read, mode, sending, if_neg known, if_neg long]
    exact ⟨_, rfl, by simp⟩
  | icmp =>
    rw [sending] at size protocol
    have long : ¬(sentSegment config env raw.sendInfo payload).length < udpHeaderSize := by
      rw [size, RawMode.sentHeaderSize, icmpHeaderSize, udpHeaderSize]
      omega
    have known : ¬(look.recvInfo.withIp raw.sendInfo).protocol ≠ v.icmpProtocol := by
      rw [not_not]
      exact protocol
    simp only [peekRaw, read, mode, sending, if_neg known, if_neg long]
    exact ⟨_, rfl, by simp⟩

/-- A captured packet that is short enough is buffered as it is. -/
theorem Capture.buffered_packet {capture : Capture} (short : capture.packet.length ≤ maxDataLen) :
    capture.buffered.packet = capture.packet := by
  have limit : maxDataLen = 1800 := rfl
  have huge : hugeDataLen = 65635 := rfl
  exact List.take_of_length_le (by omega)

/-- A captured packet that is short enough is taken. -/
theorem preRecvRawPacket_short {capture : Capture} (empty : m.packetBufCnt = 0)
    (short : capture.packet.length ≤ maxDataLen) :
    Returns (preRecvRawPacket options (some capture)) m 0
      { m with packetBuf := capture.buffered, packetBufCnt := 1 } := by
  have limit : maxDataLen = 1800 := rfl
  have huge : hugeDataLen = 65635 := rfl
  have kept : ¬(maxDataLen + 1 ≤ capture.buffered.packet.length ∧ options.fixGro = false) := by
    rw [Capture.buffered_packet short]
    omega
  simp only [preRecvRawPacket, Returns.bind_iff, Returns.get_iff, check_iff, decide_eq_true_eq]
  refine ⟨m, m, ⟨rfl, rfl⟩, (), m, ⟨empty, rfl⟩, ?_⟩
  rw [if_neg (by omega)]
  refine (if_neg kept).symm ▸ ?_
  simp only [Returns.bind_iff, Returns.modify_iff, Returns.pure_iff]
  exact ⟨(), _, rfl, trivial, rfl⟩

/-! ### The session -/

/-- A connection in the same session, with the same window and the same conversations. -/
structure ConnInfo.SameTables (before after : ConnInfo options σ τ) : Prop where
  /-- It is in the same state. -/
  state : after.state = before.state
  /-- It has the same identifier. -/
  myId : after.myId = before.myId
  /-- The other end has the same identifier. -/
  oppsiteId : after.oppsiteId = before.oppsiteId
  /-- It sends and receives packets as before. -/
  rawInfo : after.rawInfo = before.rawInfo
  /-- It has the same window. -/
  antiReplay : after.blob.map Blob.antiReplay = before.blob.map Blob.antiReplay
  /-- The data of each conversation is the same. -/
  convs : after.blob.map (fun blob => blob.convManager.convToData) =
    before.blob.map fun blob => blob.convManager.convToData

/-- One after the other. -/
theorem ConnInfo.SameTables.trans {a b c : ConnInfo options σ τ} (one : a.SameTables b)
    (two : b.SameTables c) : a.SameTables c :=
  ⟨two.state.trans one.state, two.myId.trans one.myId, two.oppsiteId.trans one.oppsiteId,
    two.rawInfo.trans one.rawInfo, two.antiReplay.trans one.antiReplay, two.convs.trans one.convs⟩

/-- A connection with the same conversations is served by the same sockets. -/
theorem Server.Serves.same {conn next : ServerConn options} {conv : UInt32} {socket : Nat}
    (serves : s.Serves conn conv socket)
    (convs : next.blob.map (fun blob => blob.convManager.convToData) =
      conn.blob.map fun blob => blob.convManager.convToData) : s.Serves next conv socket := by
  obtain ⟨blob, fd64, fd, allocated, known, leads, opened⟩ := serves.chain
  rw [allocated, Option.map_some, Option.map_eq_some_iff] at convs
  obtain ⟨other, there, same⟩ := convs
  exact ⟨other, fd64, fd, there, by rw [same, known], leads, opened⟩

/-- What an event writes to a socket. -/
def Event.writtenTo (socket : Nat) : Event v → Option Bytes
  | .wroteSocket other bytes _ _ => if other = socket then some bytes else none
  | _ => none

/-- Noting the time of data is recorded nowhere and keeps the session. -/
theorem noteData_logged {p : Ptr} {conn : ServerConn options} {value : Unit}
    (found : s.heap p = some conn) (returned : Returns (noteData p) (m, s) value (m', s')) :
    Logged [] m m' ∧ ∃ next, s' = s.put p next ∧ conn.SameTables next := by
  unfold noteData at returned
  split at returned
  · simp only [noteHeartbeat, Returns.bind_iff, deref_iff, call_iff, store_iff] at returned
    obtain ⟨_, _, ⟨same, rfl⟩, now, ⟨m1, _⟩, ⟨timed, rfl⟩, returned⟩ := returned
    obtain rfl := Option.some.inj (found.symm.trans same)
    obtain ⟨rfl, rfl⟩ := Prod.mk.inj returned
    exact ⟨(getCurrentTime_ran timed).1.toLogged, _, rfl, ⟨rfl, rfl, rfl, rfl, rfl, rfl⟩⟩
  · obtain ⟨-, same⟩ := Returns.pure_iff.mp returned
    obtain ⟨rfl, rfl⟩ := Prod.mk.inj same
    exact ⟨.refl _, conn, (put_self found).symm, ⟨rfl, rfl, rfl, rfl, rfl, rfl⟩⟩

/-- A message of a conversation with a socket is written to that socket. -/
theorem deliver_wrote {p : Ptr} {frame : Frame} {conv : UInt32} {conn : ServerConn options}
    {socket : Nat} (intact : Intact m s) (found : s.heap p = some conn)
    (serves : s.Serves conn conv socket) :
    ∃ m' next, Returns (deliver p frame conv) (m, s) () (m', s.put p next) ∧
      Logged [.wroteSocket socket (frame.data.drop 4) conn.myId frame.seq] m m' ∧
      conn.SameTables next := by
  obtain ⟨blob, fd64, fd, allocated, known, leads, opened⟩ := serves.chain
  have uses : s.Uses p conv :=
    ⟨conn, blob, found, allocated, Table.mem_iff_lookup.mpr ⟨fd64, known⟩⟩
  have stops : Stops (deliver p frame conv) (m, s) fun _ => False := deliver_stops intact uses
  obtain ⟨value, ⟨m', s'⟩, returned, -⟩ := stops.succeeds
  have done := returned
  simp only [deliver, Returns.bind_iff, deref_iff, call_iff, run_iff, store_iff, theServer_iff,
    theBlob_iff, toFd_iff] at returned
  obtain ⟨_, _, ⟨same, rfl⟩, _, _, ⟨again, rfl⟩, convs, ⟨m1, _⟩, ⟨updated, rfl⟩, _, _, rfl, _, _,
    ⟨rfl, rfl⟩, number, _, ⟨stands, rfl⟩, returned⟩ := returned
  obtain rfl := Option.some.inj (found.symm.trans same)
  obtain rfl := Option.some.inj (allocated.symm.trans again)
  obtain ⟨ran, kept, -⟩ := ConvManager.updateActiveTime_ran updated
  rw [ConvManager.findDataByConv, known, Option.getD_some] at stands
  obtain rfl := Option.some.inj (leads.symm.trans stands)
  simp only [sendSocket, Returns.bind_iff, theServer_iff] at returned
  obtain ⟨_, _, ⟨rfl, rfl⟩, returned⟩ := returned
  have there : (s.put p (conn.withConvs blob convs)).descriptors.opened.lookup fd = some socket :=
    opened
  rw [there] at returned
  obtain ⟨recorded, rfl⟩ := call_iff.mp returned
  refine ⟨m', conn.withConvs blob convs, done, ran.toLogged.trans (record_ran recorded).toLogged,
    ⟨rfl, rfl, rfl, rfl, ?_, ?_⟩⟩
  · rw [allocated]
    rfl
  · rw [allocated]
    exact congrArg some kept.convToData

/-- A message with a datagram of a conversation with a socket is written to that socket. -/
theorem serverOnRawRecvReady_wrote {p : Ptr} {conv : UInt32} {seq : UInt64} {bytes : Bytes}
    {conn : ServerConn options} {socket : Nat} (intact : Intact m s)
    (found : s.heap p = some conn) (ready : conn.state = .ready)
    (serves : s.Serves conn conv socket) :
    ∃ m' next, Returns (serverOnRawRecvReady p
        ⟨seq, typeData, BigEndian.encode 4 conv.toNat ++ bytes⟩) (m, s) 0 (m', s.put p next) ∧
      Logged [.wroteSocket socket bytes conn.myId seq] m m' ∧ conn.SameTables next := by
  have held : s.Holds p conn.myId conn.oppsiteId := ⟨conn, found, ready, rfl, rfl⟩
  have goes : Stops (noteData p) (m, s) fun _ => False := noteData_stops found
  obtain ⟨value, ⟨m1, s1⟩, noted, -⟩ := goes.succeeds
  obtain ⟨steps, -⟩ : Steps ⟨m, s, []⟩ ⟨m1, s1, []⟩ ∧ _ := noteData_steps held noted
  have intact1 : Intact m1 s1 := intact.steps steps
  obtain ⟨logged, timed, rfl, same⟩ := noteData_logged found noted
  have there : (s.put p timed).heap p = some timed := heap_put
  have kept := serves.same same.convs
  have served : (s.put p timed).Serves timed conv socket := ⟨kept.chain⟩
  obtain ⟨blob, fd64, fd, allocated, known, -⟩ := served.chain
  have used : blob.convManager.isConvUsed conv = true := by
    simp [ConvManager.isConvUsed, Table.mem_iff_lookup, known]
  have ensured : Returns (ensureConv p conv) (m1, s.put p timed) none (m1, s.put p timed) := by
    simp only [ensureConv, Returns.bind_iff, deref_iff, run_iff, theBlob_iff]
    refine ⟨_, _, ⟨there, rfl⟩, blob, _, ⟨allocated, rfl⟩, ?_⟩
    rw [if_pos used]
    exact Returns.pure_iff.mpr ⟨rfl, rfl⟩
  obtain ⟨m2, next, delivered, wrote, last⟩ := @deliver_wrote _ _ _ _ p
    ⟨seq, typeData, BigEndian.encode 4 conv.toNat ++ bytes⟩ conv _ socket intact1 there served
  have front : (BigEndian.encode 4 conv.toNat).length = 4 := BigEndian.encode_length 4 _
  have behind : (BigEndian.encode 4 conv.toNat ++ bytes).drop 4 = bytes := List.drop_left' front
  rw [behind, same.myId] at wrote
  rw [put_put] at delivered
  refine ⟨m2, next, ?_, logged.trans wrote, same.trans last⟩
  rw [serverOnRawRecvReady, if_neg (by decide : ¬typeData = typeHeartbeat),
    if_pos ⟨rfl, by rw [List.length_append, front]; omega⟩]
  simp only [idAt_encode, Returns.bind_iff]
  refine ⟨_, _, noted, none, _, ensured, ?_⟩
  simp only [Returns.bind_iff, Returns.pure_iff]
  exact ⟨_, _, delivered, trivial, rfl⟩

/-- A packet with a datagram from the address of a ready connection is written to the socket. -/
theorem serverOnKnownAddress_wrote {addr : Address v} {p : Ptr} {conn next : ServerConn options}
    {window : Blob Nat} {conv : UInt32} {seq : UInt64} {bytes : Bytes} {socket : Nat}
    {m1 : Machine v} (intact : Intact m s) (known : s.mp.lookup addr = some p)
    (source : m.packetBuf.source options.raw = addr) (found : s.heap p = some conn)
    (ready : conn.state = .ready) (waiting : conn.blob = some window)
    (serves : s.Serves conn conv socket)
    (received : Returns (recvSaferMulti conn) m
      (next, [⟨seq, typeData, BigEndian.encode 4 conv.toNat ++ bytes⟩]) m1)
    (took : conn.Took window seq next) :
    ∃ m' final events, Returns (serverOnKnownAddress p) (m, s) () (m', s.put p final) ∧
      Logged (events ++ [.wroteSocket socket bytes conn.myId seq]) m m' ∧
      events.filterMap (Event.writtenTo socket) = [] ∧ next.SameTables final := by
  obtain ⟨steps, -, -⟩ := recvSaferMulti_steps found ready known source received
  have intact1 : Intact m1 (s.put p next) := intact.steps steps
  obtain ⟨rawInfo, middle, parsed, -, -, -, receives⟩ := recvSaferMulti_receives received
  obtain ⟨events, later, unwritten⟩ := @Receives.unread _ _ _ _ _ _ _ _ _ receives
    (Event.writtenTo socket) (fun _ => rfl) (fun _ _ => rfl) fun _ _ _ => rfl
  have kept : s.Serves next conv socket := serves.same (by rw [took.blob, waiting]; rfl)
  have served : (s.put p next).Serves next conv socket := ⟨kept.chain⟩
  obtain ⟨m2, final, handled, wrote, same⟩ := @serverOnRawRecvReady_wrote _ _ _ _ p conv seq bytes
    next socket intact1 heap_put (took.state.trans ready) served
  rw [took.myId] at wrote
  rw [put_put] at handled
  refine ⟨m2, final, events, ?_, (parsed.trans later).trans wrote, unwritten, same⟩
  simp only [serverOnKnownAddress, Returns.bind_iff, deref_iff]
  refine ⟨conn, _, ⟨found, rfl⟩, ?_⟩
  rw [ready]
  simp only [Returns.bind_iff, call_iff, store_iff]
  refine ⟨_, (m1, s), ⟨received, rfl⟩, (), _, rfl, ?_⟩
  simp only [serverOnFrames, Returns.bind_iff]
  exact ⟨_, _, handled, Returns.pure_iff.mpr ⟨rfl, rfl⟩⟩

/-- A packet without a `SYN` from the address of a ready connection is handled there. -/
theorem serverOnPeeked_known {peeked : RawInfo options.raw} {p : Ptr}
    (flag : options.raw.rawMode = .faketcp → peeked.recvInfo.syn = false)
    (known : s.mp.lookup peeked.source = some p)
    (handled : Returns (serverOnKnownAddress p) (m, s) () (m', s')) :
    Returns (serverOnPeeked peeked) (m, s) () (m', s') := by
  simp only [serverOnPeeked, Returns.bind_iff, theServer_iff]
  refine ⟨s, _, ⟨rfl, rfl⟩, ?_⟩
  rw [if_neg fun syn => by rw [flag syn.1] at syn; exact absurd syn.2 (by decide), known]
  exact handled

/-- A captured packet without a `SYN` from the address of a ready connection is handled there. -/
theorem serverOnRawRecvMulti_known {capture : Capture} {look peeked : RawInfo options.raw}
    {m1 : Machine v} {p : Ptr} (created : Returns (newRawInfo options) m look m1)
    (empty : m1.packetBufCnt = 0) (short : capture.packet.length ≤ maxDataLen)
    (looked : peekRaw options.raw capture.buffered { look with
      peek := true, disabledAllowed := options.stillAllowed look } = (peeked, true))
    (flag : options.raw.rawMode = .faketcp → peeked.recvInfo.syn = false)
    (known : s.mp.lookup (capture.buffered.source options.raw) = some p)
    (handled : Returns (serverOnKnownAddress p)
      ({ m1 with packetBuf := capture.buffered, packetBufCnt := 1 }, s) () (m', s')) :
    Returns (serverOnRawRecvMulti (some capture)) (m, s) () (m', s') := by
  have goes := serverOnPeeked_known flag (peekRaw_source looked ▸ known) handled
  simp only [serverOnRawRecvMulti, Returns.bind_iff, call_iff]
  refine ⟨look, (m1, s), ⟨created, rfl⟩, 0, (_, s), ⟨preRecvRawPacket_short empty short, rfl⟩, ?_⟩
  rw [if_neg (by decide)]
  simp only [Returns.bind_iff, call_iff, peekRawPacket_iff]
  refine ⟨(peeked, true), (_, s), ⟨⟨trivial, looked.symm, rfl⟩, rfl⟩, ?_⟩
  rw [if_pos rfl]
  exact goes

/-! ### The event -/

/-- The session of a client's connection is ready at the server behind an address, with a socket
for a conversation. -/
structure Server.Attends (s : Server receiver) (conn : ConnInfo sender σ τ) (filterPort : UInt16)
    (addr : Address v) (conv : UInt32) (socket : Nat) (p : Ptr) (remote : ServerConn receiver) :
    Prop where
  /-- The server finds it under the address. -/
  known : s.mp.lookup addr = some p
  /-- It is allocated. -/
  found : s.heap p = some remote
  /-- It is ready. -/
  ready : remote.state = .ready
  /-- The server has the identifier of the client. -/
  mine : remote.oppsiteId = conn.myId
  /-- The client has the identifier of the server. -/
  theirs : remote.myId = conn.oppsiteId
  /-- The packets of the client are aimed at it. -/
  aimed : Aimed conn.rawInfo filterPort remote.rawInfo
  /-- Its window is behind the next number of the client. -/
  behind : ∃ window blob, remote.blob = some window ∧ conn.blob = some blob ∧
    window.antiReplay.Behind receiver.disableAntiReplay blob.antiReplay.antiReplaySeq
  /-- The conversation has the socket. -/
  serves : s.Serves remote conv socket

/-- The server attends the session as before when its connection took the number that the client
sent. -/
theorem Server.Attends.keep {filterPort : UInt16} {conn next : ConnInfo sender σ τ}
    {addr : Address v} {conv : UInt32} {socket : Nat} {p : Ptr} {s : Server receiver}
    {remote taken final : ServerConn receiver} {window : Blob Nat} {blob : Blob τ}
    (attends : s.Attends conn filterPort addr conv socket p remote)
    (waiting : remote.blob = some window)
    (behind : window.antiReplay.Behind receiver.disableAntiReplay blob.antiReplay.antiReplaySeq)
    (room : blob.antiReplay.antiReplaySeq.toNat + 1 < 2 ^ 64)
    (took : remote.Took window blob.antiReplay.antiReplaySeq taken)
    (same : taken.SameTables final) (mine : next.myId = conn.myId)
    (theirs : next.oppsiteId = conn.oppsiteId)
    (went : next.blob = some { blob with antiReplay := blob.antiReplay.getNewSeqForSend.2 })
    (aim : conn.rawInfo.SameAim next.rawInfo) :
    (s.put p final).Attends next filterPort addr conv socket p final := by
  have seen := same.antiReplay
  rw [took.blob, Option.map_some, Option.map_eq_some_iff] at seen
  obtain ⟨window', there, marked⟩ := seen
  have later : blob.antiReplay.antiReplaySeq.toNat <
      blob.antiReplay.getNewSeqForSend.2.antiReplaySeq.toNat := by
    rw [AntiReplay.getNewSeqForSend_toNat room]
    omega
  have served := (attends.serves.same (by rw [took.blob, waiting]; rfl)).same same.convs
  exact {
    known := attends.known
    found := heap_put
    ready := same.state.trans (took.state.trans attends.ready)
    mine := same.oppsiteId.trans (took.oppsiteId.trans (attends.mine.trans mine.symm))
    theirs := same.myId.trans (took.myId.trans (attends.theirs.trans theirs.symm))
    aimed := attends.aimed.keep aim (by rw [same.rawInfo]; exact took.srcPort)
    behind := ⟨window', _, there, went, marked ▸ behind.takes_next later⟩
    serves := ⟨served.chain⟩ }

/-- A datagram of the conversation that the client sends in one packet is written to the socket
when the server captures the packet, and the server attends the session as before. -/
theorem Server.Attends.event {standing : Standing} {answers : Nat → Answer v} {filterPort : UInt16}
    {conn next : ConnInfo sender σ τ} {addr : Address v} {conv : UInt32} {socket : Nat} {p : Ptr}
    {remote : ServerConn receiver} {s : Server receiver} {bytes packet : Bytes}
    {before after : Machine v} {event : EpollEvent} {capture : Capture}
    (attends : s.Attends conn filterPort addr conv socket p remote)
    (peers : TunnelPeers sender receiver)
    (reachable : Reachable receiver standing answers filterPort (m, s))
    (scheduled : Scheduled sender before)
    (returned : Returns (sendDataSafer conn bytes conv) before next after)
    (wire : after.wire = before.wire ++ [packet])
    (steady : sender.raw.rawMode = .faketcp → conn.rawInfo.sendInfo.syn = false)
    (room : ∀ blob ∈ conn.blob, blob.antiReplay.antiReplaySeq.toNat + 1 < 2 ^ 64)
    (captured : event.capture = some capture) (raw : event.data = standing.rawRecvFd)
    (other : standing.rawRecvFd ≠ standing.timerFd)
    (arrived : capture.packet = onWire sender.raw packet)
    (short : capture.packet.length ≤ maxDataLen)
    (source : capture.buffered.source receiver.raw = addr) :
    ∃ m' s' remote' events, Returns (serverOnEvent standing event) (m, s) true (m', s') ∧
      Logged events m m' ∧ events.filterMap (Event.writtenTo socket) = [bytes] ∧
      s'.Attends next filterPort addr conv socket p remote' := by
  obtain ⟨window, blob, waiting, allocated, behind⟩ := attends.behind
  obtain ⟨mine, theirs, went, aim⟩ := sendDataSafer_next allocated returned
  obtain ⟨first, ret, unsent, holds, sent⟩ := sendDataSafer_safer returned
  have holds := holds scheduled
  rw [← unsent] at wire
  have valid := behind.takes
  -- What the server does before it looks at the connection.
  obtain ⟨look, m1, created, -⟩ := newRawInfo_total receiver m
  have ran := newRawInfo_ran created
  have empty : m1.packetBufCnt = 0 := ran.packetBufCnt.trans reachable.empty
  have taken := @preRecvRawPacket_short _ receiver _ _ empty short
  have logged := ran.toLogged.trans (preRecvRawPacket_logged taken).1
  have intact := reachable.intact.logged logged
  have kept := ((newRawInfo_keyed _ _ _ created).run reachable.scheduled).1
  have keyed := ((preRecvRawPacket_keyed (some capture) _ _ _ taken).run kept).1
  have port : m1.filterPort = filterPort := ran.filterPort.trans reachable.filterPort_eq
  have arrives : capture.buffered.packet = onWire sender.raw packet :=
    (Capture.buffered_packet short).trans arrived
  have fits : capture.buffered.packet.length ≤ maxDataLen := by
    rw [Capture.buffered_packet short]
    exact short
  -- What the connection makes of the packet.
  obtain ⟨frames, met, m2, received, one, took⟩ := sendSafer_recvSaferMulti peers conn _ blob
    allocated typeData _ ret first _ packet holds sent wire remote window waiting attends.mine
    attends.theirs { m1 with packetBuf := capture.buffered, packetBufCnt := 1 } keyed arrives rfl
    fits (by rw [show _ = filterPort from port]; exact attends.aimed)
  rw [if_pos valid] at one
  subst one
  obtain ⟨took, -⟩ := took valid
  obtain ⟨m3, final, events, handled, wrote, unwritten, same⟩ := serverOnKnownAddress_wrote intact
    attends.known source attends.found attends.ready waiting attends.serves received took
  -- What the look at the packet says.
  obtain ⟨-, junk, output, -, sends⟩ := sendSafer_packet allocated holds sent wire
  obtain ⟨peeked, looked, flag⟩ := sends.peeked peers.mode attends.aimed.protocol
    attends.aimed.bound arrives fits
    { look with peek := true, disabledAllowed := receiver.stillAllowed look }
  have goes := serverOnRawRecvMulti_known created empty short looked
    (fun mode => (flag (peers.mode ▸ mode)).trans (steady (peers.mode ▸ mode)))
    (source ▸ attends.known) handled
  refine ⟨m3, s.put p final, final, _, ?_, logged.trans wrote, ?_, attends.keep waiting behind
    (room blob allocated) took same mine theirs went aim⟩
  · rw [serverOnEvent, if_neg (raw ▸ other), if_pos raw, captured]
    simp only [Returns.bind_iff, Returns.pure_iff]
    exact ⟨(), _, goes, trivial, rfl⟩
  · simp [List.filterMap_append, unwritten, Event.writtenTo]

/-! ### Datagrams one after the other -/

/-- A connection sends datagrams of a conversation, each in one packet, and each packet is captured
as it went on the wire. -/
inductive Sends (receiver : Options v) (source : Address v) (conv : UInt32) :
    ConnInfo sender σ τ × Machine v → List (Bytes × Capture) → Prop
  /-- Nothing more is sent. -/
  | done {state : ConnInfo sender σ τ × Machine v} : Sends receiver source conv state []
  /-- One datagram is sent, then the others. -/
  | next {conn next : ConnInfo sender σ τ} {before after : Machine v} {bytes packet : Bytes}
      {capture : Capture} {rest : List (Bytes × Capture)} :
      Returns (sendDataSafer conn bytes conv) before next after →
      after.wire = before.wire ++ [packet] → capture.packet = onWire sender.raw packet →
      capture.packet.length ≤ maxDataLen → capture.buffered.source receiver.raw = source →
      Sends receiver source conv (next, after) rest →
      Sends receiver source conv (conn, before) ((bytes, capture) :: rest)

/-- The datagrams of a conversation that a client sends, each in one packet, and that a reachable
server captures as they went on the wire are written to the socket of the conversation, in their
order and each once: the event loop handles all these events, and it writes nothing else to the
socket. -/
theorem Reachable.uploads {standing : Standing} {answers : Nat → Answer v} {filterPort : UInt16}
    {σ τ : Type} [DecidableEq τ] (peers : TunnelPeers sender receiver)
    (other : standing.rawRecvFd ≠ standing.timerFd) (addr : Address v) (conv : UInt32)
    (socket : Nat) (p : Ptr) (conn : ConnInfo sender σ τ) (before : Machine v)
    (sent : List (Bytes × Capture)) (sends : Sends receiver addr conv (conn, before) sent)
    (scheduled : Scheduled sender before)
    (steady : sender.raw.rawMode = .faketcp → conn.rawInfo.sendInfo.syn = false)
    (room : ∀ blob ∈ conn.blob, blob.antiReplay.antiReplaySeq.toNat + sent.length < 2 ^ 64)
    (m : Machine v) (s : Server receiver)
    (reachable : Reachable receiver standing answers filterPort (m, s))
    (remote : ServerConn receiver)
    (attends : s.Attends conn filterPort addr conv socket p remote) :
    ∃ m' s' events,
      Returns (serverEventLoop standing
        (sent.map fun one => ⟨standing.rawRecvFd, some one.2, none⟩)) (m, s) true (m', s') ∧
      Logged events m m' ∧ events.filterMap (Event.writtenTo socket) = sent.map Prod.fst := by
  generalize start : (conn, before) = state at sends
  induction sends generalizing conn before m s remote with
  | done => exact ⟨m, s, [], Returns.pure_iff.mpr ⟨rfl, rfl⟩, .refl _, rfl⟩
  | @next conn' next before' after bytes packet capture rest returned wire arrived short source
      later ih =>
    obtain ⟨rfl, rfl⟩ := Prod.mk.inj start
    rw [List.length_cons] at room
    obtain ⟨m1, s1, remote1, events, handled, logged, wrote, attended⟩ :=
      attends.event peers reachable scheduled returned wire steady
        (fun blob inside => by have := room blob inside; omega)
        (show EpollEvent.capture ⟨standing.rawRecvFd, some capture, none⟩ = some capture from rfl)
        rfl other arrived short source
    have holds := ((sendDataSafer_keyed _ _ _ _ _ _ returned).run scheduled).1
    obtain ⟨_, old, -, allocated, -⟩ := attends.behind
    obtain ⟨-, -, went, aim⟩ := sendDataSafer_next allocated returned
    have limit := room old allocated
    obtain ⟨m2, s2, more, looped, grown, all⟩ := ih next after holds
      (fun mode => aim.syn.trans (steady mode))
      (fun new inside => by
        obtain rfl := Option.some.inj (went.symm.trans inside)
        have number := old.antiReplay.getNewSeqForSend_toNat (by omega)
        dsimp only
        omega) m1 s1 (.event reachable handled) remote1 attended rfl
    refine ⟨m2, s2, events ++ more, ?_, logged.trans grown, ?_⟩
    · simp only [List.map_cons, serverEventLoop, Returns.bind_iff]
      exact ⟨true, _, handled, looped⟩
    · rw [List.filterMap_append, wrote, all]
      rfl

/-! ### Two more datagrams -/

/-- The connection of the client. -/
abbrev TalkConn := ClientConn (talkDeployment.clientOptions ())

/-- It sends a datagram of its conversation. -/
def talkSends (conn : TalkConn) (bytes : Bytes) : Proc .ipv4 TalkConn := sendDataSafer conn bytes 3

/-- The server captures the packet. -/
def talkCapture (conn : TalkConn) (bytes : Bytes) (machine : Machine .ipv4) : Capture :=
  lastCapture plainClient (leaves (talkSends conn bytes) machine)

/-- The datagram went on the wire in one packet. -/
def TalkSent (conn : TalkConn) (bytes : Bytes) (machine : Machine .ipv4) : Prop :=
  (leaves (talkSends conn bytes) machine).wire =
      machine.wire ++ [(leaves (talkSends conn bytes) machine).wire.getLastD []] ∧
    (talkCapture conn bytes machine).packet.length ≤ maxDataLen ∧
    (talkCapture conn bytes machine).buffered.source plainServer = metPeer

instance (conn : TalkConn) (bytes : Bytes) (machine : Machine .ipv4) :
    Decidable (TalkSent conn bytes machine) := inferInstanceAs (Decidable (_ ∧ _))

/-- The server attends the session of the client. -/
def TalkAttends (w : World talkDeployment) (conn : TalkConn) (blob : Blob LocalAddress)
    (remote : ServerConn talkDeployment.options) (window : Blob Nat) : Prop :=
  w.server.2.mp.lookup metPeer = some 0 ∧ remote.state = .ready ∧
    remote.oppsiteId = conn.myId ∧ remote.myId = conn.oppsiteId ∧
    conn.rawInfo.sendInfo.syn = false ∧ conn.rawInfo.sendInfo.protocol = 6 ∧
    conn.rawInfo.sendInfo.dstPort = 4096 ∧
    window.antiReplay.maxPacketReceived.toNat < blob.antiReplay.antiReplaySeq.toNat ∧
    blob.antiReplay.antiReplaySeq.toNat + 2 < 2 ^ 64 ∧
    window.convManager.convToData.lookup 3 = some 4294967396 ∧
    w.server.2.descriptors.fd64ToFd.lookup 4294967396 = some 2 ∧
    w.server.2.descriptors.opened.lookup 2 = some 1

instance (w : World talkDeployment) (conn : TalkConn) (blob : Blob LocalAddress)
    (remote : ServerConn talkDeployment.options) (window : Blob Nat) :
    Decidable (TalkAttends w conn blob remote window) := inferInstanceAs (Decidable (_ ∧ _))

/-- The client sends two datagrams one after the other. -/
def talkBurst (state : Machine .ipv4 × Client (talkDeployment.clientOptions ())) : Bool :=
  (resultOf (talkSends state.2.conn [45]) state.1).any fun next =>
    (resultOf (talkSends next [46]) (leaves (talkSends state.2.conn [45]) state.1)).any fun _ =>
      decide (TalkSent state.2.conn [45] state.1 ∧
        TalkSent next [46] (leaves (talkSends state.2.conn [45]) state.1))

/-- The server attends the client, and the client sends two datagrams. -/
theorem talkWorld_burst : (talkWorld.any fun w => (w.client ()).any fun state =>
    state.2.conn.blob.any fun blob => (w.server.2.heap 0).any fun remote =>
      remote.blob.any fun window =>
        decide (TalkAttends w state.2.conn blob remote window) && talkBurst state) = true := by
  decide +kernel

/-- Both datagrams are written to the socket of the conversation. -/
theorem uploads_talk : ∃ w first second, talkWorld = some w ∧ ∃ m' s' events,
    Returns (serverEventLoop talkDeployment.standing [first, second]) w.server true (m', s') ∧
      Logged events w.server.1 m' ∧
      events.filterMap (Event.writtenTo 1) = [[45], [46]] := by
  have goes := talkWorld_burst
  simp only [talkBurst, Option.any_eq_true, Bool.and_eq_true, decide_eq_true_eq] at goes
  obtain ⟨w, talk, state, started, blob, allocated, remote, found, window, waiting,
    ⟨known, ready, mine, theirs, syn, protocol, port, behind, room, conv, fd, opened⟩,
    next, sent, last, again, ⟨wire, short, source⟩, wire2, short2, source2⟩ := goes
  have run := talkWorld_run talk
  have peers : TunnelPeers (talkDeployment.clientOptions ()) talkDeployment.options :=
    ⟨rfl, rfl, ⟨[1], true, rfl, rfl⟩, rfl, rfl, by decide⟩
  have aimed : Aimed state.2.conn.rawInfo talkDeployment.filterPort remote.rawInfo :=
    ⟨protocol, fun _ bound => (nomatch bound), fun _ => port.symm, fun icmp => (nomatch icmp)⟩
  have attends : w.server.2.Attends state.2.conn talkDeployment.filterPort metPeer 3 1 0 remote :=
    ⟨known, found, ready, mine, theirs, aimed, ⟨window, blob, waiting, allocated, fun _ => behind⟩,
      ⟨window, 4294967396, 2, waiting, conv, fd, opened⟩⟩
  let second := talkCapture next [46] (leaves (talkSends state.2.conn [45]) state.1)
  exact ⟨w, _, _, talk, Reachable.uploads peers (show 4 ≠ 3 by decide) metPeer 3 1 0 state.2.conn
    state.1 [([45], talkCapture state.2.conn [45] state.1), ([46], second)]
    (.next (returns_of_resultOf sent) wire rfl short source
      (.next (returns_of_resultOf again) wire2 rfl short2 source2 .done))
    (run.client_reachable started).scheduled (fun _ => syn)
    (fun other inside => by
      obtain rfl := Option.some.inj (allocated.symm.trans inside)
      exact room)
    w.server.1 w.server.2 run.server_reachable remote attends⟩

end Udp2raw
