import Udp2raw.System.PacketBuffer
import Udp2raw.System.Passage

/-!
# Datagrams that come back

The server sends datagrams of a conversation, each in one packet. A reachable client that captures
these packets as they went on the wire in its ready session sends the datagrams to the local address
of the conversation, in the order in which they were sent.
-/
namespace Udp2raw

open Proc ClientProc

variable {v : IpVersion} {options sender receiver : Options v} {route : ClientOptions v}
  {m m' : Machine v} {c c' : Client options} {σ τ : Type} [DecidableEq τ]

/-! ### The handlers -/

/-- What an event sends to a local address. -/
def Event.sentBackTo (addr : LocalAddress) : Event v → Option Bytes
  | .sentTo other bytes _ _ => if other = addr then some bytes else none
  | _ => none

/-- Noting the time of data is recorded nowhere and changes nothing else. -/
theorem clientNoteData_goes (m : Machine v) (c : Client options) :
    ∃ m' lastHbRecvTime, Returns clientNoteData (m, c) ()
        (m', c.withConn { c.conn with lastHbRecvTime }) ∧ Logged [] m m' := by
  unfold clientNoteData
  split
  · obtain ⟨time, m1, timed, -⟩ := getCurrentTime_total m
    refine ⟨m1, time, ?_, (getCurrentTime_ran timed).1.toLogged⟩
    simp only [clientNoteHeartbeat, Returns.bind_iff, call_iff, theConn_iff, store_iff]
    exact ⟨time, (m1, c), ⟨timed, rfl⟩, c.conn, _, ⟨rfl, rfl⟩, rfl⟩
  · exact ⟨m, c.conn.lastHbRecvTime, Returns.pure_iff.mpr ⟨rfl, rfl⟩, .refl _⟩

/-- A message of a known conversation is sent to its local address. -/
theorem clientDeliver_sent {myId : UInt32} {frame : Frame} {window : Blob LocalAddress}
    {addr : LocalAddress} (allocated : c.conn.blob = some window)
    (listed : idAt frame.data 0 ∈ window.convManager.lru.keys)
    (early : window.convManager.lru.NotAfter m.now)
    (known : window.convManager.convToData.lookup (idAt frame.data 0) = some addr) :
    ∃ m' convs, Returns (clientDeliver myId frame) (m, c) ()
        (m', c.withConn (c.conn.withConvs window convs)) ∧
      Logged [.sentTo addr (frame.data.drop 4) myId frame.seq] m m' ∧
      window.convManager.SameConvs convs ∧ convs.lru.NotAfter m'.now := by
  obtain ⟨convs, m1, updated, -⟩ := ConvManager.updateActiveTime_succeeds listed early
  obtain ⟨ran, same, later⟩ := ConvManager.updateActiveTime_ran updated
  obtain ⟨_, m2, recorded, -⟩ :=
    record_total (Event.sentTo addr (frame.data.drop 4) myId frame.seq) m1
  have noted := record_ran recorded
  have used : ¬window.convManager.isConvUsed (idAt frame.data 0) = false := by
    simp [ConvManager.isConvUsed, Table.mem_iff_lookup, known]
  have leads : convs.findDataByConv (idAt frame.data 0) = addr := by
    rw [ConvManager.findDataByConv, same.convToData, known, Option.getD_some]
  refine ⟨m2, convs, ?_, ran.toLogged.trans noted.toLogged, same, (later early).mono noted.now⟩
  simp only [clientDeliver, Returns.bind_iff, theConn_iff, run_iff, theBlob_iff]
  refine ⟨c.conn, _, ⟨rfl, rfl⟩, window, _, ⟨allocated, rfl⟩, ?_⟩
  rw [if_neg used]
  simp only [Returns.bind_iff, call_iff, store_iff]
  refine ⟨convs, (m1, c), ⟨updated, rfl⟩, (), _, rfl, ?_, rfl⟩
  rw [leads]
  exact recorded

/-- A message of a known conversation in a ready session, from the server's address, is sent to its
local address. -/
theorem clientOnFrames_sent {myId conv : UInt32} {seq : UInt64} {bytes : Bytes}
    {window : Blob LocalAddress} {addr : LocalAddress}
    (peer : c.conn.rawInfo.source = c.conn.rawInfo.destination) (ready : c.conn.state = .ready)
    (allocated : c.conn.blob = some window) (listed : conv ∈ window.convManager.lru.keys)
    (early : window.convManager.lru.NotAfter m.now)
    (known : window.convManager.convToData.lookup conv = some addr) :
    ∃ m' lastHbRecvTime convs,
      Returns (clientOnFrames route myId
        [⟨seq, typeData, BigEndian.encode 4 conv.toNat ++ bytes⟩]) (m, c) ()
        (m', c.withConn { c.conn.withConvs window convs with lastHbRecvTime }) ∧
      Logged [.sentTo addr bytes myId seq] m m' ∧ window.convManager.SameConvs convs ∧
      convs.lru.NotAfter m'.now := by
  obtain ⟨m1, time, noted, quiet⟩ := clientNoteData_goes m c
  have front : (BigEndian.encode 4 conv.toNat).length = 4 := BigEndian.encode_length 4 _
  have behind : (BigEndian.encode 4 conv.toNat ++ bytes).drop 4 = bytes := List.drop_left' front
  obtain ⟨m2, convs, delivered, sent, same, late⟩ := @clientDeliver_sent _ _ m1
    (c.withConn { c.conn with lastHbRecvTime := time }) myId
    ⟨seq, typeData, BigEndian.encode 4 conv.toNat ++ bytes⟩ window addr allocated
    (by rw [idAt_encode]; exact listed) (early.mono quiet.now) (by rw [idAt_encode]; exact known)
  rw [behind] at sent
  refine ⟨m2, time, convs, ?_, quiet.trans sent, same, late⟩
  simp only [clientOnFrames, clientOnRawRecvHs2OrReady, Returns.bind_iff, theConn_iff]
  refine ⟨(), _, ⟨c.conn, _, ⟨rfl, rfl⟩, ?_⟩, Returns.pure_iff.mpr ⟨rfl, rfl⟩⟩
  rw [if_neg (not_not.mpr peer)]
  simp only [Returns.bind_iff]
  refine ⟨(), (m, c), ?_, ?_⟩
  · simp only [clientCompleteHandshake, Returns.bind_iff, theConn_iff]
    refine ⟨c.conn, _, ⟨rfl, rfl⟩, ?_⟩
    rw [if_neg (by rw [ready]; decide)]
    exact Returns.pure_iff.mpr ⟨rfl, rfl⟩
  · rw [clientOnFrame, if_neg (by decide : ¬typeData = typeHeartbeat),
      if_pos ⟨rfl, by rw [List.length_append, front]; omega⟩]
    simp only [Returns.bind_iff]
    exact ⟨(), _, noted, delivered⟩

/-! ### The event -/

/-- The session of a server's connection is ready at the client, which knows the local address of a
conversation. -/
structure Client.Attends (c : Client receiver) (m : Machine v) (conn : ConnInfo sender σ τ)
    (conv : UInt32) (addr : LocalAddress) : Prop where
  /-- It is ready. -/
  ready : c.conn.state = .ready
  /-- The client has the identifier of the server. -/
  mine : c.conn.oppsiteId = conn.myId
  /-- The server has the identifier of the client. -/
  theirs : c.conn.myId = conn.oppsiteId
  /-- The packets of the server are aimed at it. -/
  aimed : Aimed conn.rawInfo m.filterPort c.conn.rawInfo
  /-- They come from the address that it sends to. -/
  origin : c.conn.rawInfo.destination = conn.rawInfo.origin
  /-- Its window is behind the next number of the server, the conversation has the local address,
  the collector knows it, and no conversation was used in the future. -/
  behind : ∃ window blob, c.conn.blob = some window ∧ conn.blob = some blob ∧
    window.antiReplay.Behind receiver.disableAntiReplay blob.antiReplay.antiReplaySeq ∧
    window.convManager.convToData.lookup conv = some addr ∧
    conv ∈ window.convManager.lru.keys ∧ window.convManager.lru.NotAfter m.now

/-- A datagram of the conversation that the server sends in one packet is sent to the local address
when the client captures the packet, and the client attends the session as before. -/
theorem Client.Attends.event {conn next : ConnInfo sender σ τ} {conv : UInt32}
    {addr : LocalAddress} {c : Client receiver} {bytes packet : Bytes} {before after : Machine v}
    {capture : Capture} (attends : c.Attends m conn conv addr)
    (peers : TunnelPeers sender receiver) (free : ClientFree (m, c))
    (keyed : Scheduled receiver m) (scheduled : Scheduled sender before)
    (returned : Returns (sendDataSafer conn bytes conv) before next after)
    (wire : after.wire = before.wire ++ [packet])
    (room : ∀ blob ∈ conn.blob, blob.antiReplay.antiReplaySeq.toNat + 1 < 2 ^ 64)
    (arrived : capture.packet = onWire sender.raw packet)
    (short : capture.packet.length ≤ maxDataLen) :
    ∃ m' c' events, Returns (clientOnEvent route (.raw (some capture))) (m, c) () (m', c') ∧
      Logged events m m' ∧ events.filterMap (Event.sentBackTo addr) = [bytes] ∧
      c'.Attends m' next conv addr := by
  obtain ⟨window, blob, waiting, allocated, behind, known, listed, early⟩ := attends.behind
  obtain ⟨mine, theirs, went, aim⟩ := sendDataSafer_next allocated returned
  have number : blob.antiReplay.antiReplaySeq.toNat <
      blob.antiReplay.getNewSeqForSend.2.antiReplaySeq.toNat := by
    rw [AntiReplay.getNewSeqForSend_toNat (room blob allocated)]
    omega
  obtain ⟨first, ret, still, holds, sent⟩ := sendDataSafer_safer returned
  have holds := holds scheduled
  rw [← still] at wire
  have valid := behind.takes
  have taken := @preRecvRawPacket_short _ receiver _ _ free.empty short
  have logged := (preRecvRawPacket_logged taken).1
  have ready := ((preRecvRawPacket_keyed (some capture) _ _ _ taken).run keyed).1
  have fits : capture.buffered.packet.length ≤ maxDataLen := by
    rw [Capture.buffered_packet short]
    exact short
  obtain ⟨frames, met, m2, received, one, took⟩ := sendSafer_recvSaferMulti peers conn _ blob
    allocated typeData _ ret first _ packet holds sent wire c.conn window waiting attends.mine
    attends.theirs { m with packetBuf := capture.buffered, packetBufCnt := 1 } ready
    ((Capture.buffered_packet short).trans arrived) rfl fits attends.aimed
  rw [if_pos valid] at one
  subst one
  obtain ⟨took, source⟩ := took valid
  obtain ⟨rawInfo, middle, parsed, -, -, -, receives⟩ := recvSaferMulti_receives received
  obtain ⟨events, later, unsent⟩ := @Receives.unread _ _ _ _ _ _ _ _ _ receives
    (Event.sentBackTo addr) (fun _ => rfl) (fun _ _ => rfl) fun _ _ _ => rfl
  have heard := (logged.trans parsed).trans later
  obtain ⟨m3, time, convs, handled, wrote, same, late⟩ := @clientOnFrames_sent _ _ route m2
    (c.withConn met) met.myId conv blob.antiReplay.antiReplaySeq bytes _ addr
    (source.trans (attends.origin.symm.trans took.destination.symm))
    (took.state.trans attends.ready) took.blob listed (early.mono heard.now) known
  refine ⟨m3, c.withConn { met.withConvs { window with antiReplay := (window.antiReplay.isVaild
    receiver.disableAntiReplay blob.antiReplay.antiReplaySeq).2 } convs with
      lastHbRecvTime := time }, _, ?_, heard.trans wrote, ?_, ?_⟩
  · simp only [clientOnEvent, clientOnRawRecv, Returns.bind_iff, call_iff]
    refine ⟨0, (_, c), ⟨taken, rfl⟩, ?_⟩
    rw [if_neg (by decide)]
    simp only [clientOnBuffered, Returns.bind_iff, theConn_iff]
    refine ⟨c.conn, _, ⟨rfl, rfl⟩, ?_⟩
    rw [attends.ready]
    simp only [clientOnSafer, Returns.bind_iff, theConn_iff, call_iff, store_iff]
    exact ⟨c.conn, _, ⟨rfl, rfl⟩, _, (m2, c), ⟨received, rfl⟩, (), _, rfl, handled⟩
  · simp [List.filterMap_append, unsent, Event.sentBackTo]
  · exact {
      ready := took.state.trans attends.ready
      mine := took.oppsiteId.trans (attends.mine.trans mine.symm)
      theirs := took.myId.trans (attends.theirs.trans theirs.symm)
      aimed := by
        rw [(heard.trans wrote).filterPort]
        exact attends.aimed.keep aim took.srcPort
      origin := took.destination.trans (attends.origin.trans aim.origin.symm)
      behind := ⟨_, _, rfl, went, behind.takes_next number,
        (congrArg (AList.lookup conv) same.convToData).trans known,
        (same.nodes conv).mpr listed, late⟩ }

/-! ### A run of events -/

/-- The client handles events one after the other. -/
inductive ClientHandles (route : ClientOptions v) :
    Machine v × Client options → List ClientEvent → Machine v × Client options → Prop
  /-- Nothing more happens. -/
  | done {state : Machine v × Client options} : ClientHandles route state [] state
  /-- One event is handled, then the others. -/
  | next {before middle after : Machine v × Client options} {event : ClientEvent}
      {events : List ClientEvent} : Returns (clientOnEvent route event) before () middle →
      ClientHandles route middle events after → ClientHandles route before (event :: events) after

/-- Between two events of a reachable client no packet is buffered. -/
theorem ClientReachable.free {answers : Nat → Answer v} {filterPort : UInt16}
    {state : Machine v × Client options}
    (reachable : ClientReachable options route answers filterPort state) : ClientFree state := by
  induction reachable with
  | start returned => exact clientStart_free returned
  | logged log _ ih => exact ⟨ih.empty, ih.conn⟩
  | event _ returned ih => exact ((clientOnEvent_keepsFree _ _ ih).2 _ _ returned).2

/-- The datagrams of a conversation that a server sends, each in one packet, and that a reachable
client captures as they went on the wire are sent to the local address of the conversation, in
their order and each once: the client handles all these events, and it sends nothing else to the
local address. -/
theorem ClientReachable.downloads {answers : Nat → Answer v} {filterPort : UInt16}
    (peers : TunnelPeers sender receiver) (source : Address v) (conv : UInt32)
    (addr : LocalAddress) (conn : ConnInfo sender σ τ) (before : Machine v)
    (sent : List (Bytes × Capture)) (sends : Sends receiver source conv (conn, before) sent)
    (scheduled : Scheduled sender before)
    (room : ∀ blob ∈ conn.blob, blob.antiReplay.antiReplaySeq.toNat + sent.length < 2 ^ 64)
    (m : Machine v) (c : Client receiver)
    (reachable : ClientReachable receiver route answers filterPort (m, c))
    (attends : c.Attends m conn conv addr) :
    ∃ m' c' events,
      ClientHandles route (m, c) (sent.map fun one => .raw (some one.2)) (m', c') ∧
      Logged events m m' ∧ events.filterMap (Event.sentBackTo addr) = sent.map Prod.fst := by
  generalize start : (conn, before) = state at sends
  induction sends generalizing conn before m c with
  | done => exact ⟨m, c, [], .done, .refl _, rfl⟩
  | @next conn' next before' after bytes packet capture rest returned wire arrived short _ later
      ih =>
    obtain ⟨rfl, rfl⟩ := Prod.mk.inj start
    rw [List.length_cons] at room
    obtain ⟨m1, c1, events, handled, logged, wrote, attended⟩ :=
      @Client.Attends.event _ _ _ route _ _ _ _ _ _ _ _ _ _ _ _ _ _ attends peers reachable.free
        reachable.scheduled scheduled returned wire
        (fun blob inside => by have := room blob inside; omega) arrived short
    have holds := ((sendDataSafer_keyed _ _ _ _ _ _ returned).run scheduled).1
    obtain ⟨_, old, -, allocated, -⟩ := attends.behind
    obtain ⟨-, -, went, -⟩ := sendDataSafer_next allocated returned
    have limit := room old allocated
    obtain ⟨m2, c2, more, looped, grown, all⟩ := ih next after holds
      (fun new inside => by
        obtain rfl := Option.some.inj (went.symm.trans inside)
        have number := old.antiReplay.getNewSeqForSend_toNat (by omega)
        dsimp only
        omega) m1 c1 (.event reachable handled) attended rfl
    refine ⟨m2, c2, events ++ more, .next handled looped, logged.trans grown, ?_⟩
    rw [List.filterMap_append, wrote, all]
    rfl

/-! ### Two more datagrams -/

/-- The connection of the server. -/
abbrev ReplyConn := ServerConn talkDeployment.options

/-- It sends a datagram of the conversation. -/
def replySends (conn : ReplyConn) (bytes : Bytes) : Proc .ipv4 ReplyConn :=
  sendDataSafer conn bytes 3

/-- The client captures the packet. -/
def replyCapture (conn : ReplyConn) (bytes : Bytes) (machine : Machine .ipv4) : Capture :=
  lastCapture plainServer (leaves (replySends conn bytes) machine)

/-- The datagram went on the wire in one packet. -/
def ReplySent (conn : ReplyConn) (bytes : Bytes) (machine : Machine .ipv4) : Prop :=
  (leaves (replySends conn bytes) machine).wire =
      machine.wire ++ [(leaves (replySends conn bytes) machine).wire.getLastD []] ∧
    (replyCapture conn bytes machine).packet.length ≤ maxDataLen ∧
    (replyCapture conn bytes machine).buffered.source plainClient = conn.rawInfo.origin

instance (conn : ReplyConn) (bytes : Bytes) (machine : Machine .ipv4) :
    Decidable (ReplySent conn bytes machine) := inferInstanceAs (Decidable (_ ∧ _))

/-- The client attends the session of the server. -/
def ReplyAttends (state : Machine .ipv4 × Client (talkDeployment.clientOptions ()))
    (window : Blob LocalAddress) (remote : ReplyConn) (blob : Blob Nat) : Prop :=
  state.2.conn.state = .ready ∧ state.2.conn.oppsiteId = remote.myId ∧
    state.2.conn.myId = remote.oppsiteId ∧ remote.rawInfo.sendInfo.protocol = 6 ∧
    state.1.filterPort = remote.rawInfo.sendInfo.dstPort ∧
    state.2.conn.rawInfo.destination = remote.rawInfo.origin ∧
    window.antiReplay.maxPacketReceived.toNat < blob.antiReplay.antiReplaySeq.toNat ∧
    blob.antiReplay.antiReplaySeq.toNat + 2 < 2 ^ 64 ∧
    window.convManager.convToData.lookup 3 = some [1, 2] ∧
    3 ∈ window.convManager.lru.keys ∧ ∀ node ∈ window.convManager.lru.q, node.ts ≤ state.1.now

instance (state : Machine .ipv4 × Client (talkDeployment.clientOptions ()))
    (window : Blob LocalAddress) (remote : ReplyConn) (blob : Blob Nat) :
    Decidable (ReplyAttends state window remote blob) := inferInstanceAs (Decidable (_ ∧ _))

/-- The server sends two datagrams one after the other. -/
def replyBurst (machine : Machine .ipv4) (remote : ReplyConn) : Bool :=
  (resultOf (replySends remote [47]) machine).any fun next =>
    (resultOf (replySends next [48]) (leaves (replySends remote [47]) machine)).any fun _ =>
      decide (ReplySent remote [47] machine ∧
        ReplySent next [48] (leaves (replySends remote [47]) machine) ∧
        next.rawInfo.origin = remote.rawInfo.origin)

/-- The client attends the server, and the server sends two datagrams. -/
theorem talkWorld_replies : (talkWorld.any fun w => (w.client ()).any fun state =>
    state.2.conn.blob.any fun window => (w.server.2.heap 0).any fun remote =>
      remote.blob.any fun blob =>
        decide (ReplyAttends state window remote blob) && replyBurst w.server.1 remote) = true := by
  decide +kernel

/-- Both datagrams are sent to the local address of the conversation. -/
theorem downloads_talk : ∃ w state first second, talkWorld = some w ∧ w.client () = some state ∧
    ∃ m' c' events,
      ClientHandles (talkDeployment.route ()) state [.raw (some first), .raw (some second)]
        (m', c') ∧
      Logged events state.1 m' ∧
      events.filterMap (Event.sentBackTo [1, 2]) = [[47], [48]] := by
  have goes := talkWorld_replies
  simp only [replyBurst, Option.any_eq_true, Bool.and_eq_true, decide_eq_true_eq] at goes
  obtain ⟨w, talk, state, started, window, waiting, remote, found, blob, allocated,
    ⟨ready, mine, theirs, protocol, port, origin, behind, room, known, listed, early⟩,
    next, sent, last, again, ⟨wire, short, source⟩, ⟨wire2, short2, source2⟩, same⟩ := goes
  have run := talkWorld_run talk
  have peers : TunnelPeers talkDeployment.options (talkDeployment.clientOptions ()) :=
    ⟨rfl, rfl, ⟨[1], false, rfl, rfl⟩, rfl, rfl, by decide⟩
  have aimed : Aimed remote.rawInfo state.1.filterPort state.2.conn.rawInfo :=
    ⟨protocol, fun _ bound => (nomatch bound), fun _ => port, fun icmp => (nomatch icmp)⟩
  have attends : state.2.Attends state.1 remote 3 [1, 2] :=
    ⟨ready, mine, theirs, aimed, origin,
      ⟨window, blob, waiting, allocated, fun _ => behind, known, listed, early⟩⟩
  let second := replyCapture next [48] (leaves (replySends remote [47]) w.server.1)
  exact ⟨w, state, _, _, talk, started, ClientReachable.downloads peers remote.rawInfo.origin 3
    [1, 2] remote w.server.1 [([47], replyCapture remote [47] w.server.1), ([48], second)]
    (.next (returns_of_resultOf sent) wire rfl short source
      (.next (returns_of_resultOf again) wire2 rfl short2 (source2.trans same) .done))
    run.server_reachable.scheduled
    (fun other inside => by
      obtain rfl := Option.some.inj (allocated.symm.trans inside)
      exact room)
    state.1 state.2 (run.client_reachable started) attends⟩

end Udp2raw
