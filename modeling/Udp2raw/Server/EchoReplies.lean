import Udp2raw.Server.Assertions
import Udp2raw.Server.EchoNumbers

/-!
# Echo replies over a run

The handlers of captured packets, every event and every run: the requests that were
authenticated for the session of each connection are collected on the way, and every reply
carries the numbers of one of them.
-/
namespace Udp2raw

open Proc ServerProc Server

variable {v : IpVersion} {options : Options v} {m m' : Machine v} {s s' : Server options}

/-! ### Captured packets -/

/-- A waiting connection and a ready one have different peers. -/
theorem Server.Tables.apart (tables : s.Tables) {addr : Address v} {p q : Ptr}
    {conn ori : ServerConn options} (known : s.mp.lookup addr = some p)
    (found : s.heap p = some conn) (waiting : conn.state = .handshake1)
    (there : s.heap q = some ori) (ready : ori.state = .ready) :
    conn.rawInfo.destination ≠ ori.rawInfo.destination := by
  intro same
  obtain ⟨other, elsewhere⟩ := tables.filed q ori there
  have first := (tables.peer addr p conn known found (by rw [waiting]; nofun)).2
  have second := (tables.peer other q ori elsewhere there (by rw [ready]; nofun)).2
  obtain rfl : addr = other := first.symm.trans (same.trans second)
  obtain rfl := Option.some.inj (known.symm.trans elsewhere)
  obtain rfl := Option.some.inj (found.symm.trans there)
  rw [waiting] at ready
  contradiction

/-- Metadata that is turned back answers the packet that was received. -/
theorem HeardEcho.turnedBack {capture : Capture} {raw : RawInfo options.raw}
    (heard : HeardEcho capture raw) : HeardEcho capture raw.turnedBack :=
  ⟨heard.dstPort, heard.dstPort, heard.myIcmpSeq⟩

/-- A new entry waits at its address, and the others are left alone. -/
theorem newEntry_echo {addr : Address v} {raw : RawInfo options.raw} {p : Ptr}
    (absent : addr ∉ s.mp) (returned : Returns (newEntry addr raw) (m, s) p (m', s')) :
    Unsent m m' ∧ (∃ events, Logged events m m') ∧ p = s.allocated ∧
      s'.mp.lookup addr = some p ∧ (∀ r, r ≠ p → s'.heap r = s.heap r) ∧
      ∃ conn, s'.heap p = some conn ∧ conn.state = .handshake1 ∧
        conn.rawInfo = raw.turnedBack := by
  simp only [newEntry, Returns.bind_iff, call_iff, theServer_iff, update_iff, store_iff,
    Returns.pure_iff] at returned
  obtain ⟨conn, ⟨m1, _⟩, ⟨one, rfl⟩, answer, ⟨m2, _⟩, ⟨two, rfl⟩, _, _, ⟨rfl, rfl⟩, _, _, rfl, myId,
    ⟨m3, _⟩, ⟨three, rfl⟩, time, ⟨m4, _⟩, ⟨four, rfl⟩, _, ⟨m5, _⟩, ⟨five, rfl⟩, _, _, rfl, rfl,
    final⟩ := returned
  obtain ⟨rfl, rfl⟩ := Prod.mk.inj final
  have unsent := ((((newConnInfo_unsent _ _ _ _ one).trans (ask_unsent _ _ _ two)).trans
    (drawMyId_unsent _ _ _ three)).trans (getCurrentTime_unsent _ _ _ four)).trans
    (record_unsent _ _ _ _ five)
  have whole := ((((newConnInfo_ran one).1.trans (ask_ran two).1).trans
    (drawMyId_ran three).1).trans (getCurrentTime_ran four).1).trans (record_ran five)
  refine ⟨unsent, ⟨_, whole.toLogged⟩, rfl, ?_, fun r different => ?_, _, heap_put, rfl, rfl⟩
  · show (s.mp.insertAt answer.position addr s.allocated).lookup addr = _
    rw [Table.lookup_insertAt absent, if_pos rfl]
  · rw [heap_put_apply, if_neg different]

section Icmp

variable (mode : options.raw.rawMode = .icmp) (role : options.raw.programMode = .server)

include mode

/-- Metadata that continues has the numbers of the packet that was received. -/
theorem HeardEcho.continuing {capture : Capture} {raw : RawInfo options.raw}
    (heard : HeardEcho capture raw) : raw.continuing.echoNumbers = capture.echoNumbers v := by
  simp only [RawInfo.continuing, mode, RawInfo.echoNumbers, heard.srcPort, heard.myIcmpSeq]

/-- An initial handshake is answered with the numbers of its packet. -/
theorem serverOnRawRecvHandshake1_reply {p : Ptr} {data : Bytes} {conn : ServerConn options}
    {value : Unit} (found : s.heap p = some conn) (long : ¬data.length < 12)
    (initial : idAt data 4 = 0)
    (returned : Returns (serverOnRawRecvHandshake1 p data) (m, s) value (m', s')) :
    s' = s.put p { conn with rawInfo := conn.rawInfo.continuing } ∧
      SentBy conn.rawInfo.continuing m m' ∧ ∃ events, Logged events m m' := by
  unfold serverOnRawRecvHandshake1 at returned
  rw [if_neg long] at returned
  simp only [Returns.bind_iff, deref_iff] at returned
  obtain ⟨_, _, ⟨same, rfl⟩, returned⟩ := returned
  obtain rfl := Option.some.inj (found.symm.trans same)
  rw [if_pos initial] at returned
  simp only [Returns.bind_iff, call_iff, store_iff] at returned
  obtain ⟨rawInfo, ⟨m1, _⟩, ⟨replied, rfl⟩, returned⟩ := returned
  obtain ⟨rfl, rfl⟩ := Prod.mk.inj returned
  obtain ⟨rfl, sent⟩ := sendHandshake_icmp mode replied
  obtain ⟨-, events, -, ran⟩ := sendHandshake_events replied
  exact ⟨rfl, sent, events, ran.toLogged⟩

omit mode in
/-- An entry that waits answered the packet from its address with the numbers of that packet. -/
theorem EchoEvent.of_reply {p : Ptr} {next : ServerConn options} {id : UInt32}
    (others : ∀ r, r ≠ p → s'.heap r = s.heap r) (found : s'.heap p = some next)
    (waiting : next.state = .handshake1)
    (unready : ∀ old, s.heap p = some old → old.state ≠ .ready)
    (known : s'.mp.lookup (m'.packetBuf.source options.raw) = some p)
    (numbers : next.rawInfo.echoNumbers = m'.packetBuf.echoNumbers v) (shook : Shook m m' id 0)
    (sent : SentBy next.rawInfo m m') : EchoEvent (m, s) (m', s') := by
  refine .of_sent (fun r other there inUse => ?_) sent found (by rw [waiting]; nofun) rfl
  by_cases here : r = p
  · subst here
    obtain rfl := Option.some.inj (found.symm.trans there)
    refine .inr ⟨?_, numbers, fun old before ready => absurd ready (unready old before)⟩
    unfold Authenticated
    simp only [waiting]
    exact ⟨known, id, shook⟩
  · rw [others r here] at there
    exact .inl ⟨other, there, (Alike.refl other).oneSession, rfl⟩

omit mode in
/-- The second handshake of a waiting entry either ends it or hands its numbers to a connection
that is ready then, and was not in this session before. -/
theorem Resolves.echoEvent {p : Ptr} {conn : ServerConn options} {id : UInt32}
    {rawInfo : RawInfo options.raw} {m1 : Machine v} {addr : Address v} (tables : s.Tables)
    (found : s.heap p = some conn) (waiting : conn.state = .handshake1)
    (known : s.mp.lookup addr = some p)
    (destination : rawInfo.destination = conn.rawInfo.destination)
    (numbers : rawInfo.echoNumbers = m.packetBuf.echoNumbers v) (unsent : Unsent m m1)
    (shook : Shook m m' id conn.myId)
    (resolves : Resolves p { conn with oppsiteId := id, rawInfo }
      (m1, s.put p { conn with oppsiteId := id, rawInfo }) (m', s')) :
    EchoEvent (m, s) (m', s') := by
  have untouched {except : Ptr → Prop} {r : Ptr} {other : ServerConn options}
      (alone : LeftAlone p except (s.put p { conn with oppsiteId := id, rawInfo }) s')
      (apart : ¬except r) (there : s'.heap r = some other) (inUse : other.state ≠ .idle) :
      Renumbered (m, s) (m', s') r other := by
    obtain ⟨different, before⟩ := alone r other apart there inUse
    rw [heap_put_apply, if_neg different] at before
    exact .inl ⟨other, before, (Alike.refl other).oneSession, rfl⟩
  cases resolves with
  | refused silent alone =>
    exact ⟨fun r other there inUse => untouched alone not_false there inUse,
      [], by rw [silent.wire, unsent.wire, List.append_nil], nofun⟩
  | @opened q next opens alone =>
    refine .of_sent (fun r other there inUse => ?_) (opens.sent.after unsent) opens.found
      (by rw [opens.state]; nofun) opens.sendInfo
    by_cases here : r = q
    · subst here
      obtain rfl := Option.some.inj (opens.found.symm.trans there)
      refine .inr ⟨?_, ?_, fun old before ready one => ?_⟩
      · unfold Authenticated
        simp only [opens.state, opens.myId, opens.oppsiteId]
        exact .inl shook
      · show next.rawInfo.echoNumbers = m'.packetBuf.echoNumbers v
        rw [opens.sent.packetBuf, unsent.packetBuf, ← numbers, RawInfo.echoNumbers, opens.sendInfo]
        rfl
      · have reached : next.rawInfo.destination = conn.rawInfo.destination := by
          rw [← destination, RawInfo.destination, opens.sendInfo]
          rfl
        exact absurd (reached.symm.trans one.destination)
          (tables.apart known found waiting before ready)
    · exact untouched alone here there inUse

include role

/-- A packet from the address of a waiting entry. -/
theorem serverOnRawRecvHandshake1_echo {p : Ptr} {data : Bytes} {conn : ServerConn options}
    {rawInfo : RawInfo options.raw} {m1 : Machine v} {value : Unit} (tables : s.Tables)
    (found : s.heap p = some conn) (waiting : conn.state = .handshake1)
    (known : s.mp.lookup (m.packetBuf.source options.raw) = some p)
    (received : Returns (recvBare options conn.rawInfo) m (rawInfo, some data) m1)
    (returned : Returns (serverOnRawRecvHandshake1 p data)
      (m1, s.put p { conn with rawInfo }) value (m', s')) : EchoEvent (m, s) (m', s') := by
  have unsent := recvBare_unsent _ _ _ _ received
  have numbers := (recvBare_heard mode received).continuing mode
  obtain ⟨-, -, heardFrom, ⟨_, -, -, absurd_⟩ |
    ⟨from_, input, message, _, same, content, logged⟩⟩ := recvBare_logged received
  · contradiction
  obtain rfl := Option.some.inj same
  have decrypted : Recorded (.decrypted input message) m m1 :=
    ⟨_, logged, List.mem_singleton.mpr rfl⟩
  have quiet (final : (m1, s.put p { conn with rawInfo }) = (m', s')) :
      EchoEvent (m, s) (m', s') := by
    obtain ⟨rfl, rfl⟩ := Prod.mk.inj final
    exact Calm.echoEvent ⟨unsent, .put found fun _ => ⟨rfl, rfl, rfl, heardFrom.sendInfo⟩⟩
  by_cases short : data.length < 12
  · unfold serverOnRawRecvHandshake1 at returned
    rw [if_pos short] at returned
    exact quiet (Returns.pure_iff.mp returned).2
  by_cases initial : idAt data 4 = 0
  · obtain ⟨rfl, sent, events, rest⟩ :=
      serverOnRawRecvHandshake1_reply mode heap_put short initial returned
    have buffered : m'.packetBuf = m.packetBuf := sent.packetBuf.trans unsent.packetBuf
    refine .of_reply (fun r different => ?_) heap_put waiting (fun old before ready => ?_) ?_ ?_
      ⟨input, message, data, decrypted.followed rest, content, Nat.not_lt.mp short, rfl, initial⟩
      (sent.after unsent)
    · rw [heap_put_apply, if_neg different, heap_put_apply, if_neg different]
    · obtain rfl := Option.some.inj (found.symm.trans before)
      rw [waiting] at ready
      contradiction
    · rw [buffered]
      exact known
    · rw [buffered]
      exact numbers
  have still : ({ conn with rawInfo } : ServerConn options).state = .handshake1 := waiting
  obtain ⟨_, rest⟩ := serverOnRawRecvHandshake1_logged heap_put still
    (logged.heard_decrypted content) returned
  unfold serverOnRawRecvHandshake1 at returned
  rw [if_neg short] at returned
  simp only [Returns.bind_iff, deref_iff] at returned
  obtain ⟨_, _, ⟨same, rfl⟩, returned⟩ := returned
  obtain rfl := Option.some.inj (heap_put.symm.trans same)
  rw [if_neg initial] at returned
  split at returned
  · rename_i mine
    simp only [Returns.bind_iff, store_iff, put_put] at returned
    obtain ⟨_, _, rfl, returned⟩ := returned
    have stands : ({ conn with
        oppsiteId := idAt data 0, rawInfo := rawInfo.continuing } : ServerConn options).state =
        .handshake1 := waiting
    have destination : rawInfo.continuing.destination = conn.rawInfo.destination := by
      rw [(RawInfo.continuing_peer rawInfo).destination, heardFrom.destination]
    exact (serverOnRawRecvPreReady_echo mode role heap_put stands returned).echoEvent tables found
      waiting known destination numbers unsent
      ⟨input, message, data, decrypted.followed rest, content, Nat.not_lt.mp short, rfl, mine⟩
  · exact quiet (Returns.pure_iff.mp returned).2

/-- A packet from the address of a ready entry. -/
theorem recvSaferMulti_echo {p : Ptr} {conn next : ServerConn options} {frames : List Frame}
    {m1 : Machine v} {value : Unit} (found : s.heap p = some conn) (ready : conn.state = .ready)
    (known : s.mp.lookup (m.packetBuf.source options.raw) = some p)
    (received : Returns (recvSaferMulti conn) m (next, frames) m1)
    (returned : Returns (serverOnFrames p frames) (m1, s.put p next) value (m', s')) :
    EchoEvent (m, s) (m', s') := by
  have unsent := recvSaferMulti_unsent _ _ _ _ received
  have advances := recvSaferMulti_advances mode role received
  obtain ⟨-, holds, -⟩ := recvSaferMulti_steps found ready known rfl received
  obtain ⟨_, rest⟩ := serverOnFrames_logged holds returned
  have calm := serverOnFrames_calm p frames _ _ _ returned
  refine ⟨fun r other there inUse => ?_,
    [], by rw [calm.unsent.wire, unsent.wire, List.append_nil], nofun⟩
  obtain ⟨middle, between, alike⟩ := calm.conns r other there inUse
  rw [heap_put_apply] at between
  split at between
  · rename_i here
    obtain rfl := Option.some.inj between
    subst here
    have one : OneSession conn other :=
      ⟨alike.state.trans advances.state, alike.myId.trans advances.myId,
        alike.oppsiteId.trans advances.oppsiteId,
        alike.oneSession.destination.trans advances.destination⟩
    obtain same | ⟨numbers, larger, seq, accepted⟩ := advances.numbers
    · exact .inl ⟨conn, found, one, alike.echoNumbers.trans same⟩
    · refine .inr ⟨?_, ?_, fun old before _ _ => ?_⟩
      · unfold Authenticated
        simp only [one.state, ready, one.myId, one.oppsiteId]
        exact .inr ⟨seq, accepted.followed rest⟩
      · show other.rawInfo.echoNumbers = m'.packetBuf.echoNumbers v
        rw [alike.echoNumbers, numbers, calm.unsent.packetBuf, unsent.packetBuf]
      · obtain rfl := Option.some.inj (found.symm.trans before)
        rw [alike.echoNumbers]
        exact larger
  · exact .inl ⟨middle, between, alike.oneSession, alike.echoNumbers⟩

/-- A packet from an address with an entry. -/
theorem serverOnKnownAddress_echo {p : Ptr} {value : Unit} (tables : s.Tables)
    (known : s.mp.lookup (m.packetBuf.source options.raw) = some p)
    (returned : Returns (serverOnKnownAddress p) (m, s) value (m', s')) :
    EchoEvent (m, s) (m', s') := by
  simp only [serverOnKnownAddress, Returns.bind_iff, deref_iff] at returned
  obtain ⟨conn, _, ⟨found, rfl⟩, returned⟩ := returned
  split at returned
  · rename_i waiting
    simp only [Returns.bind_iff, call_iff, store_iff] at returned
    obtain ⟨⟨rawInfo, data⟩, ⟨m1, _⟩, ⟨one, rfl⟩, _, _, rfl, returned⟩ := returned
    cases data with
    | none =>
      obtain ⟨-, same⟩ := Returns.pure_iff.mp returned
      obtain ⟨rfl, rfl⟩ := Prod.mk.inj same
      have heardFrom := (recvBare_logged one).2.2.1
      exact Calm.echoEvent ⟨recvBare_unsent _ _ _ _ one,
        .put found fun _ => ⟨rfl, rfl, rfl, heardFrom.sendInfo⟩⟩
    | some data =>
      exact serverOnRawRecvHandshake1_echo mode role tables found waiting known one returned
  · rename_i ready
    simp only [Returns.bind_iff, call_iff, store_iff] at returned
    obtain ⟨⟨next, frames⟩, ⟨m1, _⟩, ⟨one, rfl⟩, _, _, rfl, returned⟩ := returned
    exact recvSaferMulti_echo mode role found ready known one returned
  · exact (calm_call discardRawPacket_unsent _ _ _ returned).echoEvent

omit role

/-- A packet from a new address. -/
theorem serverOnNewAddress_echo {addr : Address v} {value : Unit} (tables : s.Tables)
    (absent : addr ∉ s.mp) (source : m.packetBuf.source options.raw = addr)
    (returned : Returns (serverOnNewAddress addr) (m, s) value (m', s')) :
    EchoEvent (m, s) (m', s') := by
  simp only [serverOnNewAddress, Returns.bind_iff, theServer_iff] at returned
  obtain ⟨_, _, ⟨rfl, rfl⟩, returned⟩ := returned
  split at returned
  · exact (calm_call discardRawPacket_unsent _ _ _ returned).echoEvent
  simp only [Returns.bind_iff, call_iff] at returned
  obtain ⟨look, ⟨m1, _⟩, ⟨one, rfl⟩, ⟨raw, data⟩, ⟨m2, _⟩, ⟨two, rfl⟩, returned⟩ := returned
  have unsent := (newRawInfo_unsent _ _ _ one).trans (recvBare_unsent _ _ _ _ two)
  have quiet (final : (m2, s) = (m', s')) : EchoEvent (m, s) (m', s') := by
    obtain ⟨rfl, rfl⟩ := Prod.mk.inj final
    exact Calm.echoEvent ⟨unsent, .of_heap rfl⟩
  cases data with
  | none => exact quiet (Returns.pure_iff.mp returned).2
  | some data =>
    have heardEcho := recvBare_heard mode two
    have ran := newRawInfo_ran one
    obtain ⟨-, -, -, ⟨_, -, -, absurd_⟩ | ⟨-, input, message, _, same, content, logged⟩⟩ :=
      recvBare_logged two
    · contradiction
    obtain rfl := Option.some.inj same
    dsimp only at returned
    split at returned
    · exact quiet (Returns.pure_iff.mp returned).2
    rename_i long
    split at returned
    · exact quiet (Returns.pure_iff.mp returned).2
    rename_i initial
    rw [not_not] at initial
    simp only [Returns.bind_iff] at returned
    obtain ⟨p, ⟨m3, s3⟩, entered, returned⟩ := returned
    obtain ⟨created, ⟨_, kept⟩, rfl, filed, others, conn, found, waiting, turned⟩ :=
      newEntry_echo absent entered
    have silent := unsent.trans created
    have buffered : m3.packetBuf = m.packetBuf := silent.packetBuf
    obtain ⟨rfl, sent, events, rest⟩ :=
      serverOnRawRecvHandshake1_reply mode found long initial returned
    have decrypted : Recorded (.decrypted input message) m m' :=
      (Recorded.followed ⟨_, logged, List.mem_singleton.mpr rfl⟩ (kept.trans rest)).preceded
        ran.toLogged
    refine .of_reply (fun r different => ?_) heap_put waiting (fun old before => ?_) ?_ ?_
      ⟨input, message, data, decrypted, content, Nat.not_lt.mp long, rfl, initial⟩
      (sent.after silent)
    · rw [heap_put_apply, if_neg different, others r different]
    · exact absurd (tables.bound _ old before) (Nat.lt_irrefl _)
    · show s3.mp.lookup _ = _
      rw [sent.packetBuf, buffered, source, filed]
    · show conn.rawInfo.continuing.echoNumbers = _
      rw [sent.packetBuf, buffered, ← (newRawInfo_unsent _ _ _ one).packetBuf, turned]
      exact heardEcho.turnedBack.continuing mode

include role

/-- A packet whose source is known. -/
theorem serverOnPeeked_echo {peeked : RawInfo options.raw} {value : Unit} (tables : s.Tables)
    (source : m.packetBuf.source options.raw = peeked.source)
    (returned : Returns (serverOnPeeked peeked) (m, s) value (m', s')) :
    EchoEvent (m, s) (m', s') := by
  simp only [serverOnPeeked, Returns.bind_iff, theServer_iff] at returned
  obtain ⟨_, _, ⟨rfl, rfl⟩, returned⟩ := returned
  split at returned
  · rename_i syn
    exact absurd (mode.symm.trans syn.1) (by simp)
  split at returned
  · rename_i absent
    exact serverOnNewAddress_echo mode tables (AList.lookup_eq_none.mp absent) source returned
  · rename_i p known
    exact serverOnKnownAddress_echo mode role tables (source ▸ known) returned

omit mode role in
/-- An event may start earlier. -/
theorem EchoEvent.preceded {m1 : Machine v} {events : List (Event v)}
    (echo : EchoEvent (m1, s) (m', s')) (logged : Logged events m m1) (wire : m1.wire = m.wire) :
    EchoEvent (m, s) (m', s') where
  conns := by
    have shook {id1 id2 : UInt32} : Shook m1 m' id1 id2 → Shook m m' id1 id2 := by
      rintro ⟨input, message, data, decrypted, content⟩
      exact ⟨input, message, data, decrypted.preceded logged, content⟩
    intro p next there inUse
    refine (echo.conns p next there inUse).imp id fun ⟨authenticated, numbers, larger⟩ =>
      ⟨?_, numbers, larger⟩
    unfold Authenticated at authenticated ⊢
    cases state : next.state with
    | idle => exact absurd state inUse
    | handshake1 =>
      simp only [state] at authenticated
      exact ⟨authenticated.1, authenticated.2.imp fun _ => shook⟩
    | ready =>
      simp only [state] at authenticated
      exact authenticated.imp shook fun ⟨seq, accepted⟩ => ⟨seq, accepted.preceded logged⟩
  wire := by
    obtain ⟨packets, sent, each⟩ := echo.wire
    exact ⟨packets, by rw [sent, wire], each⟩

/-- A captured packet. -/
theorem serverOnRawRecvMulti_echo {received : Option Capture} {value : Unit} (tables : s.Tables)
    (returned : Returns (serverOnRawRecvMulti received) (m, s) value (m', s')) :
    EchoEvent (m, s) (m', s') := by
  simp only [serverOnRawRecvMulti, Returns.bind_iff, call_iff] at returned
  obtain ⟨look, ⟨m1, _⟩, ⟨one, rfl⟩, ret, ⟨m2, _⟩, ⟨two, rfl⟩, returned⟩ := returned
  have captured := (newRawInfo_ran one).toLogged.trans (preRecvRawPacket_logged two).1
  have wire : m2.wire = m.wire :=
    (preRecvRawPacket_wire two).trans (newRawInfo_unsent _ _ _ one).wire
  refine EchoEvent.preceded ?_ captured wire
  split at returned
  · obtain ⟨-, same⟩ := Returns.pure_iff.mp returned
    obtain ⟨rfl, rfl⟩ := Prod.mk.inj same
    exact (Calm.refl _).echoEvent
  · simp only [Returns.bind_iff, call_iff, peekRawPacket_iff] at returned
    obtain ⟨⟨peeked, seen⟩, ⟨m3, _⟩, ⟨⟨-, looked, rfl⟩, rfl⟩, returned⟩ := returned
    cases seen with
    | true =>
      exact serverOnPeeked_echo mode role tables (peekRaw_source looked.symm).symm returned
    | false => exact (calm_call discardRawPacket_unsent _ _ _ returned).echoEvent

/-- An event. -/
theorem serverOnEvent_echo {standing : Standing} {event : EpollEvent} {going : Bool}
    (tables : s.Tables) (returned : Returns (serverOnEvent standing event) (m, s) going (m', s')) :
    EchoEvent (m, s) (m', s') := by
  unfold serverOnEvent at returned
  split at returned
  · simp only [Returns.bind_iff, Returns.pure_iff] at returned
    obtain ⟨_, _, cleared, -, rfl⟩ := returned
    exact (clearInactive_calm _ _ _ cleared).echoEvent
  split at returned
  · simp only [Returns.bind_iff, Returns.pure_iff] at returned
    obtain ⟨_, _, received, -, rfl⟩ := returned
    exact serverOnRawRecvMulti_echo mode role tables received
  split at returned
  · have fifo : Keeps Calm (onFifo event.bytes : ServerProc options Unit) := by
      unfold onFifo
      split
      · exact calm_pure _
      · exact calm_ite (calm_throw _) (calm_pure _)
    simp only [Returns.bind_iff, Returns.pure_iff] at returned
    obtain ⟨_, _, read, -, rfl⟩ := returned
    exact (fifo _ _ _ read).echoEvent
  split at returned
  · simp only [Returns.bind_iff, theServer_iff] at returned
    obtain ⟨_, _, ⟨rfl, rfl⟩, returned⟩ := returned
    split at returned
    · obtain ⟨-, same⟩ := Returns.pure_iff.mp returned
      obtain ⟨rfl, rfl⟩ := Prod.mk.inj same
      exact (Calm.refl _).echoEvent
    simp only [serverOnFd64, Returns.bind_iff, theServer_iff, call_iff, check_iff, run_iff,
      deref_iff, Returns.pure_iff] at returned
    obtain ⟨_, _, ⟨_, _, ⟨rfl, rfl⟩, _, ⟨_, _⟩, ⟨⟨-, rfl⟩, rfl⟩, p, _, ⟨-, rfl⟩, conn, _, ⟨-, rfl⟩,
      handled⟩, -, rfl⟩ := returned
    split at handled
    · simp only [Returns.bind_iff, run_iff, call_iff, check_iff] at handled
      obtain ⟨_, _, ⟨-, rfl⟩, _, ⟨_, _⟩, ⟨⟨-, rfl⟩, rfl⟩, handled⟩ := handled
      exact serverOnTimerMulti_echo mode role handled
    · exact serverOnUdpRecv_echo mode role handled
  · exact absurd returned Returns.throw_iff

end Icmp

/-! ### Runs -/

/-- The numbers of the requests that were authenticated for the session each connection is in. -/
abbrev Requests := Ptr → EchoNumbers → Prop

/-- The requests after an event: those of a session that goes on, and the packet of the event for
the session that it was authenticated for. -/
def Requests.after (requests : Requests) (before after : Machine v × Server options) : Requests :=
  fun p numbers => ∃ next, after.2.heap p = some next ∧
    ((∃ conn, before.2.heap p = some conn ∧ OneSession conn next ∧ requests p numbers) ∨
      (Authenticated before after p next ∧ numbers = after.1.packetBuf.echoNumbers v))

/-- A run of the server with the requests it authenticated. The record may grow meanwhile, by what
the other parties do. -/
inductive EchoRun (options : Options v) (standing : Standing) (answers : Nat → Answer v)
    (filterPort : UInt16) : Requests → Machine v × Server options → Prop
  /-- The server starts. -/
  | start : EchoRun options standing answers filterPort (fun _ _ => False)
      (.start .server answers filterPort, .start)
  /-- The record grew. -/
  | logged {requests : Requests} {machine : Machine v} {server : Server options} (log : Log v) :
      EchoRun options standing answers filterPort requests (machine, server) →
      EchoRun options standing answers filterPort requests ({ machine with log }, server)
  /-- An event was handled. -/
  | event {requests : Requests} {before after : Machine v × Server options} {event : EpollEvent}
      {going : Bool} : EchoRun options standing answers filterPort requests before →
      Returns (serverOnEvent standing event) before going after →
      EchoRun options standing answers filterPort (requests.after before after) after

section Runs

variable {standing : Standing} {answers : Nat → Answer v} {filterPort : UInt16}
  {requests : Requests} {state before after : Machine v × Server options}

/-- A run with its requests is a run. -/
theorem EchoRun.reachable (run : EchoRun options standing answers filterPort requests state) :
    Reachable options standing answers filterPort state := by
  induction run with
  | start => exact .start
  | logged log _ ih => exact .logged log ih
  | event _ returned ih => exact .event ih returned

/-- Every run has its requests. -/
theorem Reachable.echoRun (reachable : Reachable options standing answers filterPort state) :
    ∃ requests, EchoRun options standing answers filterPort requests state := by
  induction reachable with
  | start => exact ⟨_, .start⟩
  | logged log _ ih =>
    obtain ⟨requests, run⟩ := ih
    exact ⟨requests, .logged log run⟩
  | event _ returned ih =>
    obtain ⟨requests, run⟩ := ih
    exact ⟨_, .event run returned⟩

/-- An event leaves every connection in use with the numbers of a request. -/
theorem EchoEvent.requested (echo : EchoEvent before after)
    (matched : ∀ p conn, before.2.heap p = some conn → conn.state ≠ .idle →
      requests p conn.rawInfo.echoNumbers)
    {p : Ptr} {next : ServerConn options} (there : after.2.heap p = some next)
    (inUse : next.state ≠ .idle) : requests.after before after p next.rawInfo.echoNumbers := by
  refine ⟨next, there, ?_⟩
  obtain ⟨conn, found, one, numbers⟩ | ⟨authenticated, numbers, -⟩ := echo.conns p next there inUse
  · refine .inl ⟨conn, found, one, ?_⟩
    rw [numbers]
    exact matched p conn found (one.state ▸ inUse)
  · exact .inr ⟨authenticated, numbers⟩

/-- Every connection in use has the numbers of a request. -/
theorem EchoRun.matched (mode : options.raw.rawMode = .icmp)
    (role : options.raw.programMode = .server)
    (run : EchoRun options standing answers filterPort requests state) :
    ∀ p conn, state.2.heap p = some conn → conn.state ≠ .idle →
      requests p conn.rawInfo.echoNumbers := by
  induction run with
  | start => exact fun _ _ => nofun
  | logged log _ ih => exact ih
  | event earlier returned ih =>
    intro p conn there inUse
    exact (serverOnEvent_echo mode role earlier.reachable.tables returned).requested ih there inUse

/-- In icmp mode every packet that the server sends is an echo reply of one connection, with an
identifier and a sequence number that came together in a request which was authenticated for the
session of that connection. While a session is ready, its sequence number stays or moves forward
in the circular order. -/
theorem EchoRun.replies_match (mode : options.raw.rawMode = .icmp)
    (role : options.raw.programMode = .server) {event : EpollEvent} {going : Bool}
    (run : EchoRun options standing answers filterPort requests before)
    (returned : Returns (serverOnEvent standing event) before going after) :
    (∃ packets, after.1.wire = before.1.wire ++ packets ∧ ∀ packet ∈ packets,
      ∃ p conn, after.2.heap p = some conn ∧ conn.rawInfo.Sends packet ∧
        (⟨packet, fun _ => 0⟩ : Capture).echoNumbers v = conn.rawInfo.echoNumbers ∧
        requests.after before after p conn.rawInfo.echoNumbers) ∧
    ∀ p conn next, before.2.heap p = some conn → after.2.heap p = some next →
      conn.state = .ready → OneSession conn next →
      next.rawInfo.echoNumbers.seq = conn.rawInfo.echoNumbers.seq ∨
        largerThanU16 next.rawInfo.echoNumbers.seq conn.rawInfo.echoNumbers.seq := by
  have echo := serverOnEvent_echo mode role run.reachable.tables returned
  constructor
  · obtain ⟨packets, wire, each⟩ := echo.wire
    refine ⟨packets, wire, fun packet inside => ?_⟩
    obtain ⟨p, conn, found, inUse, sends⟩ := each packet inside
    exact ⟨p, conn, found, sends, sends.echoNumbers mode _,
      echo.requested (run.matched mode role) found inUse⟩
  · intro p conn next found there ready one
    have inUse : next.state ≠ .idle := by
      rw [one.state, ready]
      nofun
    obtain ⟨old, before, -, numbers⟩ | ⟨-, -, larger⟩ := echo.conns p next there inUse
    · obtain rfl := Option.some.inj (found.symm.trans before)
      exact .inl (congrArg EchoNumbers.seq numbers)
    · exact .inr (larger conn found ready one)

end Runs

/-- Options of a server in icmp mode. -/
def echoOptions : Options .ipv4 :=
  { plainOptions with raw := { plainServer with rawMode := .icmp } }

/-- An echo request of 10.0.0.1 with the identifier seven and the sequence number three, which
carries the first handshake of a client. -/
def echoCapture : Capture where
  packet := [0x45, 0, 0, 57, 0, 0, 0x40, 0, 64, 1, 0x26, 0xc2, 10, 0, 0, 1, 10, 0, 0, 2] ++
    [8, 0, 0x8d, 0xf5, 0, 7, 0, 3] ++ bareMessage 0 0 (numbersToChar 8 0 0)
  stale := fun _ => 0

/-- The reply to that request. -/
theorem replies_match_first :
    ∃ after, Returns (serverOnEvent plainStanding (captured echoCapture))
        (.start .server clockAnswers 4096, (Server.start : Server echoOptions)) true after ∧
      after.1.wire.length = 1 ∧
      ∃ packets, after.1.wire = [] ++ packets ∧ ∀ packet ∈ packets,
        ∃ p conn, after.2.heap p = some conn ∧ conn.rawInfo.Sends packet ∧
          (⟨packet, fun _ => 0⟩ : Capture).echoNumbers .ipv4 = conn.rawInfo.echoNumbers ∧
          Requests.after (fun _ _ => False)
            (.start .server clockAnswers 4096, (Server.start : Server echoOptions)) after p
            conn.rawInfo.echoNumbers := by
  have goes : resultOf (serverOnEvent plainStanding (captured echoCapture))
      (.start .server clockAnswers 4096, (Server.start : Server echoOptions)) = some true := by
    decide +kernel
  have sent : (leaves (serverOnEvent plainStanding (captured echoCapture))
      (.start .server clockAnswers 4096, (Server.start : Server echoOptions))).1.wire.length =
        1 := by
    decide +kernel
  have returned := returns_of_resultOf goes
  exact ⟨_, returned, sent, (EchoRun.replies_match rfl rfl .start returned).1⟩

end Udp2raw
