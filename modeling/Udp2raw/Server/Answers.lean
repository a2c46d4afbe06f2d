import Udp2raw.Connection.OnePacket
import Udp2raw.Server.Arrivals
import Udp2raw.Server.HandshakeReplies

/-!
# Whom the server answers

Every event makes the server send at most one packet. What it sends for a captured packet goes
back to the source of that packet, and every packet goes to an address of the connection table,
except for the answer to a `SYN`, which carries nothing.
-/
namespace Udp2raw

open Proc ServerProc Server

variable {v : IpVersion} {options : Options v} {m m' : Machine v} {s s' : Server options}
  {asked : Option (Address v)}

/-- A packet goes to an address with an entry, or it is an answer without a payload to the address
that asked. -/
structure Addressed (asked : Option (Address v)) (before after : Machine v × Server options)
    (addr : Address v) (packet : Bytes) : Prop where
  /-- It goes there. -/
  goes : GoesTo options.raw packet addr
  /-- Who asked is answered. -/
  back : ∀ source ∈ asked, addr = source
  /-- The address has an entry, or asked with a `SYN`. -/
  known : addr ∈ before.2.mp ∨ addr ∈ after.2.mp ∨
    asked = some addr ∧ packet.length = v.headerSize + RawMode.sentHeaderSize .faketcp true

/-- At most one packet was sent, to such an address. -/
def AnswersOnce (asked : Option (Address v)) (before after : Machine v × Server options) : Prop :=
  ∃ packet : Option Bytes, after.1.wire = before.1.wire ++ packet.toList ∧
    ∀ sent ∈ packet, ∃ addr, Addressed asked before after addr sent

/-- Nothing was sent. -/
theorem answersOnce_of_wire (wire : m'.wire = m.wire) : AnswersOnce asked (m, s) (m', s') :=
  ⟨none, by rw [wire]; exact (List.append_nil _).symm, by simp⟩

/-- A calm event sends nothing. -/
theorem Calm.answersOnce (calm : Calm (m, s) (m', s')) : AnswersOnce asked (m, s) (m', s') :=
  answersOnce_of_wire calm.unsent.wire

/-- One packet of a connection that sends to an entry. -/
theorem SendsOne.answersOnce {raw : RawInfo options.raw} (sent : SendsOne raw m m')
    (asks : ∀ source ∈ asked, raw.destination = source)
    (known : raw.destination ∈ s.mp ∨ raw.destination ∈ s'.mp) :
    AnswersOnce asked (m, s) (m', s') := by
  obtain ⟨packet, wire, each⟩ := sent.wire
  refine ⟨packet, wire, fun bytes inside => ⟨raw.destination, (each bytes inside).goesTo, asks, ?_⟩⟩
  rcases known with earlier | later
  · exact .inl earlier
  · exact .inr (.inl later)

/-- Nothing was sent before. -/
theorem AnswersOnce.after {m1 : Machine v} (answers : AnswersOnce asked (m1, s) (m', s'))
    (wire : m1.wire = m.wire) : AnswersOnce asked (m, s) (m', s') := by
  obtain ⟨packet, sent, each⟩ := answers
  refine ⟨packet, by rw [sent, wire], fun bytes inside => ?_⟩
  obtain ⟨addr, goes, asks, known⟩ := each bytes inside
  exact ⟨addr, goes, asks, known⟩

/-- A ready or waiting connection sends to its entry. -/
theorem Server.Tables.sendsTo (tables : s.Tables) {p : Ptr} {conn : ServerConn options}
    (found : s.heap p = some conn) (used : conn.state ≠ .idle) :
    conn.rawInfo.destination ∈ s.mp := by
  obtain ⟨addr, filed⟩ := tables.filed p conn found
  have there := (tables.peer addr p conn filed found used).2
  rw [there]
  exact Table.mem_iff_lookup.mpr ⟨p, filed⟩

/-! ### Timers and datagrams -/

/-- A connection's timer sends at most a heartbeat to its entry. -/
theorem serverOnTimerMulti_answers {p : Ptr} {value : Unit} (tables : s.Tables)
    (returned : Returns (serverOnTimerMulti p) (m, s) value (m', s')) :
    AnswersOnce none (m, s) (m', s') := by
  simp only [serverOnTimerMulti, Returns.bind_iff, deref_iff, call_iff, check_iff, run_iff,
    theServer_iff, update_iff, store_iff, decide_eq_true_eq] at returned
  obtain ⟨conn, _, ⟨found, rfl⟩, _, ⟨_, _⟩, ⟨⟨ready, rfl⟩, rfl⟩, blob, _, ⟨-, rfl⟩, _, _,
    ⟨rfl, rfl⟩, ⟨convs, descriptors⟩, ⟨m1, _⟩, ⟨cleared, rfl⟩, _, _, rfl, _, _, rfl, now,
    ⟨m2, _⟩, ⟨timed, rfl⟩, returned⟩ := returned
  have quiet := (clearInactive_unsent _ _ _ _ _ _ cleared).trans (getCurrentTime_unsent _ _ _ timed)
  split at returned
  · obtain ⟨-, same⟩ := Returns.pure_iff.mp returned
    obtain ⟨rfl, rfl⟩ := Prod.mk.inj same
    exact answersOnce_of_wire quiet.wire
  · simp only [Returns.bind_iff, call_iff, store_iff] at returned
    obtain ⟨next, ⟨m3, _⟩, ⟨three, rfl⟩, time, ⟨m4, _⟩, ⟨four, rfl⟩, final⟩ := returned
    obtain ⟨rfl, rfl⟩ := Prod.mk.inj final
    have sent : SendsOne conn.rawInfo m m' :=
      ((sendHeartbeat_sendsOne three).after quiet).unsent (getCurrentTime_unsent _ _ _ four)
    have inUse : conn.state ≠ .idle := by rw [ready]; decide
    exact sent.answersOnce (by simp) (.inl (tables.sendsTo found inUse))

/-- A datagram of a conversation's socket is sent to the entry of its connection. -/
theorem serverOnUdpRecv_answers {p : Ptr} {fd64 : Nat} {received : Option Bytes} {value : Unit}
    (tables : s.Tables)
    (returned : Returns (serverOnUdpRecv p fd64 received) (m, s) value (m', s')) :
    AnswersOnce none (m, s) (m', s') := by
  simp only [serverOnUdpRecv, Returns.bind_iff, deref_iff] at returned
  obtain ⟨conn, _, ⟨found, rfl⟩, returned⟩ := returned
  split at returned
  · exact absurd returned Returns.throw_iff
  rename_i ready
  rw [ne_eq, not_not] at ready
  simp only [Returns.bind_iff, run_iff, call_iff, check_iff, theServer_iff] at returned
  obtain ⟨blob, _, ⟨-, rfl⟩, _, ⟨_, _⟩, ⟨⟨-, rfl⟩, rfl⟩, _, _, ⟨rfl, rfl⟩, fd, _, ⟨-, rfl⟩,
    returned⟩ := returned
  split at returned
  · split at returned
    · obtain ⟨-, same⟩ := Returns.pure_iff.mp returned
      obtain ⟨rfl, rfl⟩ := Prod.mk.inj same
      exact answersOnce_of_wire rfl
    · simp only [Returns.bind_iff, call_iff, store_iff] at returned
      obtain ⟨_, ⟨m1, _⟩, ⟨one, rfl⟩, next, ⟨m2, _⟩, ⟨two, rfl⟩, final⟩ := returned
      obtain ⟨rfl, rfl⟩ := Prod.mk.inj final
      have sent := (sendDataSafer_sendsOne two).after (record_unsent _ _ _ _ one)
      have inUse : conn.state ≠ .idle := by rw [ready]; decide
      exact sent.answersOnce (by simp) (.inl (tables.sendsTo found inUse))
  · obtain ⟨-, same⟩ := Returns.pure_iff.mp returned
    obtain ⟨rfl, rfl⟩ := Prod.mk.inj same
    exact answersOnce_of_wire rfl

/-! ### Handshakes -/

/-- A promotion sends at most one packet of the waiting connection. -/
theorem promote_sendsOne {p : Ptr} {constId : UInt32} {conn : ServerConn options} {value : Unit}
    (found : s.heap p = some conn) (returned : Returns (promote p constId) (m, s) value (m', s')) :
    SendsOne conn.rawInfo m m' := by
  simp only [promote, Returns.bind_iff, deref_iff, call_iff, update_iff, run_iff, store_iff]
    at returned
  obtain ⟨_, _, ⟨same, rfl⟩, prepared, ⟨m1, _⟩, ⟨one, rfl⟩, _, _, rfl, _, ⟨m2, _⟩, ⟨two, rfl⟩, now,
    ⟨m3, _⟩, ⟨three, rfl⟩, sent, ⟨m4, _⟩, ⟨four, rfl⟩, blob, _, ⟨-, rfl⟩, timer, ⟨m5, s5⟩, five,
    returned⟩ := returned
  obtain rfl := Option.some.inj (found.symm.trans same)
  obtain ⟨rfl, rfl⟩ := Prod.mk.inj returned
  obtain ⟨-, -, contents, rfl, -⟩ := prepare_ran one
  have early := ((prepare_unsent _ _ _ _ one).trans (record_unsent _ _ _ _ two)).trans
    (getCurrentTime_unsent _ _ _ three)
  have late : Unsent m4 m' := (setTimerServer_calm p _ _ _ five).unsent
  have heartbeat := sendHeartbeat_sendsOne four
  exact (heartbeat.after early).unsent late

/-- A recovery sends at most one packet, as the waiting connection would. -/
theorem grab_sendsOne {p q : Ptr} {constId : UInt32} {conn : ServerConn options} {value : Unit}
    (found : s.heap p = some conn) (returned : Returns (grab p q constId) (m, s) value (m', s')) :
    SendsOne conn.rawInfo m m' := by
  simp only [grab, Returns.bind_iff, deref_iff] at returned
  obtain ⟨_, _, ⟨same, rfl⟩, ori, _, ⟨other, rfl⟩, returned⟩ := returned
  obtain rfl := Option.some.inj (found.symm.trans same)
  split at returned
  · exact absurd returned Returns.throw_iff
  split at returned
  · rw [store_iff] at returned
    obtain ⟨rfl, rfl⟩ := Prod.mk.inj returned
    exact (Unsent.refl _).sendsOne _
  simp only [Returns.bind_iff, theServer_iff] at returned
  obtain ⟨_, _, ⟨rfl, rfl⟩, returned⟩ := returned
  split at returned
  · exact absurd returned Returns.throw_iff
  split at returned
  · exact absurd returned Returns.throw_iff
  simp only [Returns.bind_iff, call_iff, run_iff, update_iff, store_iff] at returned
  obtain ⟨pOri, _, ⟨-, rfl⟩, pNew, _, ⟨-, rfl⟩, _, _, rfl, recovered, _, ⟨ran, rfl⟩, _, ⟨m1, _⟩,
    ⟨one, rfl⟩, sent, ⟨m2, _⟩, ⟨two, rfl⟩, now, ⟨m3, _⟩, ⟨three, rfl⟩, _, _, rfl, returned⟩ :=
    returned
  obtain ⟨rfl, rfl⟩ := Prod.mk.inj returned
  have taken : recovered.rawInfo.sendInfo = conn.rawInfo.sendInfo := by
    simp only [ConnInfo.recover, exec_bind_iff, exec_pure_iff] at ran
    obtain ⟨_, -, rfl⟩ := ran
    rfl
  have heartbeat := (sendHeartbeat_sendsOne two).of_sendInfo taken
  exact (heartbeat.after (record_unsent _ _ _ _ one)).unsent (getCurrentTime_unsent _ _ _ three)

/-- The second handshake makes the waiting connection send at most one packet. -/
theorem serverOnRawRecvPreReady_sendsOne {p : Ptr} {constId : UInt32} {conn : ServerConn options}
    {value : Unit} (found : s.heap p = some conn)
    (returned : Returns (serverOnRawRecvPreReady p constId) (m, s) value (m', s')) :
    SendsOne conn.rawInfo m m' := by
  simp only [serverOnRawRecvPreReady, Returns.bind_iff, theServer_iff] at returned
  obtain ⟨_, _, ⟨rfl, rfl⟩, returned⟩ := returned
  split at returned
  · split at returned
    · simp only [Returns.bind_iff, deref_iff, store_iff] at returned
      obtain ⟨_, _, ⟨-, rfl⟩, returned⟩ := returned
      obtain ⟨rfl, rfl⟩ := Prod.mk.inj returned
      exact (Unsent.refl _).sendsOne _
    · exact promote_sendsOne found returned
  · exact grab_sendsOne found returned

/-- A handshake makes a waiting connection send at most one packet, which continues what it
received. -/
theorem serverOnRawRecvHandshake1_sendsOne {p : Ptr} {data : Bytes} {conn : ServerConn options}
    {value : Unit} (found : s.heap p = some conn)
    (returned : Returns (serverOnRawRecvHandshake1 p data) (m, s) value (m', s')) :
    SendsOne conn.rawInfo.continuing m m' ∧ (idAt data 4 = 0 → s'.mp = s.mp) := by
  have silent (same : Returns (pure () : ServerProc options Unit) (m, s) value (m', s')) :
      SendsOne conn.rawInfo.continuing m m' ∧ (idAt data 4 = 0 → s'.mp = s.mp) := by
    obtain ⟨-, same⟩ := Returns.pure_iff.mp same
    obtain ⟨rfl, rfl⟩ := Prod.mk.inj same
    exact ⟨(Unsent.refl _).sendsOne _, fun _ => rfl⟩
  unfold serverOnRawRecvHandshake1 at returned
  split at returned
  · exact silent returned
  simp only [Returns.bind_iff, deref_iff] at returned
  obtain ⟨_, _, ⟨same, rfl⟩, returned⟩ := returned
  obtain rfl := Option.some.inj (found.symm.trans same)
  split at returned
  · simp only [Returns.bind_iff, call_iff, store_iff] at returned
    obtain ⟨rawInfo, ⟨m1, _⟩, ⟨replied, rfl⟩, returned⟩ := returned
    obtain ⟨rfl, rfl⟩ := Prod.mk.inj returned
    exact ⟨sendHandshake_sendsOne replied, fun _ => rfl⟩
  rename_i later
  split at returned
  · simp only [Returns.bind_iff, store_iff] at returned
    obtain ⟨_, _, rfl, returned⟩ := returned
    exact ⟨serverOnRawRecvPreReady_sendsOne heap_put returned, fun initial => absurd initial later⟩
  · exact silent returned

/-! ### Captured packets -/

/-- A packet from an address with an entry. -/
theorem serverOnKnownAddress_answers {addr : Address v} {p : Ptr} {value : Unit} (tables : s.Tables)
    (known : s.mp.lookup addr = some p)
    (returned : Returns (serverOnKnownAddress p) (m, s) value (m', s')) :
    AnswersOnce (some addr) (m, s) (m', s') := by
  simp only [serverOnKnownAddress, Returns.bind_iff, deref_iff] at returned
  obtain ⟨conn, _, ⟨found, rfl⟩, returned⟩ := returned
  split at returned
  · rename_i waiting
    simp only [Returns.bind_iff, call_iff, store_iff] at returned
    obtain ⟨⟨rawInfo, data⟩, ⟨m1, _⟩, ⟨one, rfl⟩, _, _, rfl, returned⟩ := returned
    have unsent := recvBare_unsent _ _ _ _ one
    cases data with
    | none =>
      obtain ⟨-, same⟩ := Returns.pure_iff.mp returned
      obtain ⟨rfl, rfl⟩ := Prod.mk.inj same
      exact answersOnce_of_wire unsent.wire
    | some data =>
      have sent : SendsOne rawInfo.continuing m1 m' :=
        (serverOnRawRecvHandshake1_sendsOne heap_put returned).1
      have heardFrom := (recvBare_logged one).2.2.1
      have inUse : conn.state ≠ .idle := by rw [waiting]; decide
      have destination : rawInfo.continuing.destination = addr := by
        rw [(RawInfo.continuing_peer rawInfo).destination, heardFrom.destination]
        exact (tables.peer addr p conn known found inUse).2
      have filed : rawInfo.continuing.destination ∈ s.mp := by
        rw [destination]
        exact Table.mem_iff_lookup.mpr ⟨p, known⟩
      exact (sent.after unsent).answersOnce (by simpa using destination) (.inl filed)
  · simp only [Returns.bind_iff, call_iff, store_iff] at returned
    obtain ⟨⟨next, frames⟩, ⟨m1, _⟩, ⟨one, rfl⟩, _, _, rfl, returned⟩ := returned
    have unsent := recvSaferMulti_unsent _ _ _ _ one
    have calm := serverOnFrames_calm p frames _ _ _ returned
    exact answersOnce_of_wire (calm.unsent.wire.trans unsent.wire)
  · exact (calm_call discardRawPacket_unsent _ _ _ returned).answersOnce

/-- A packet from a new address. -/
theorem serverOnNewAddress_answers {addr : Address v} {value : Unit} (absent : addr ∉ s.mp)
    (source : m.packetBuf.source options.raw = addr)
    (returned : Returns (serverOnNewAddress addr) (m, s) value (m', s')) :
    AnswersOnce (some addr) (m, s) (m', s') := by
  simp only [serverOnNewAddress, Returns.bind_iff, theServer_iff] at returned
  obtain ⟨_, _, ⟨rfl, rfl⟩, returned⟩ := returned
  split at returned
  · exact (calm_call discardRawPacket_unsent _ _ _ returned).answersOnce
  simp only [Returns.bind_iff, call_iff] at returned
  obtain ⟨look, ⟨m1, _⟩, ⟨one, rfl⟩, ⟨raw, data⟩, ⟨m2, _⟩, ⟨two, rfl⟩, returned⟩ := returned
  have created := newRawInfo_unsent _ _ _ one
  have unsent := created.trans (recvBare_unsent _ _ _ _ two)
  have silent (final : (m2, s) = (m', s')) : AnswersOnce (some addr) (m, s) (m', s') := by
    obtain ⟨rfl, rfl⟩ := Prod.mk.inj final
    exact answersOnce_of_wire unsent.wire
  cases data with
  | none => exact silent (Returns.pure_iff.mp returned).2
  | some data =>
    dsimp only at returned
    split at returned
    · exact silent (Returns.pure_iff.mp returned).2
    split at returned
    · exact silent (Returns.pure_iff.mp returned).2
    rename_i initial
    rw [not_not] at initial
    simp only [Returns.bind_iff] at returned
    obtain ⟨p, ⟨m3, s3⟩, entered, returned⟩ := returned
    obtain ⟨entry, -, -, filed, -, conn, found, -, turned⟩ := newEntry_echo absent entered
    obtain ⟨sent, kept⟩ := serverOnRawRecvHandshake1_sendsOne found returned
    have heard : raw.source = addr := by
      obtain ⟨-, -, -, ⟨_, -, -, absurd_⟩ | ⟨heard, -⟩⟩ := recvBare_logged two
      · contradiction
      · rw [heard, created.packetBuf, source]
    have destination : conn.rawInfo.continuing.destination = addr := by
      rw [(RawInfo.continuing_peer conn.rawInfo).destination, turned]
      exact heard
    have entered : conn.rawInfo.continuing.destination ∈ s'.mp := by
      rw [kept initial, destination]
      exact Table.mem_iff_lookup.mpr ⟨p, filed⟩
    exact (sent.after (unsent.trans entry)).answersOnce (by simpa using destination) (.inr entered)

/-- The answer to a `SYN` goes back to where it came from and carries nothing. -/
theorem replySyn_answers {value : Unit} (mode : options.raw.rawMode = .faketcp)
    (returned : Returns (replySyn options) m value m') :
    AnswersOnce (some (m.packetBuf.source options.raw)) (m, s) (m', s) := by
  simp only [replySyn, Returns.bind_iff] at returned
  obtain ⟨look, m1, one, ⟨raw, data⟩, m2, two, returned⟩ := returned
  have created := newRawInfo_unsent _ _ _ one
  have unsent := created.trans (recvRawPayload_unsent _ _ _ _ two)
  have silent (same : m2 = m') :
      AnswersOnce (some (m.packetBuf.source options.raw)) (m, s) (m', s) := by
    subst same
    exact answersOnce_of_wire unsent.wire
  cases data with
  | none => exact silent (Returns.pure_iff.mp returned).2
  | some data =>
    dsimp only at returned
    split at returned
    · exact silent (Returns.pure_iff.mp returned).2
    split at returned
    · exact silent (Returns.pure_iff.mp returned).2
    split at returned
    case isFalse => exact silent (Returns.pure_iff.mp returned).2
    simp only [Returns.bind_iff, Returns.pure_iff] at returned
    obtain ⟨⟨_, _⟩, _, three, -, rfl⟩ := returned
    obtain ⟨-, -, -, -, heard⟩ := recvRawPayload_logged two
    have source : raw.source = m.packetBuf.source options.raw := by
      rw [heard rfl, created.packetBuf]
    obtain ⟨⟨packet, wire, each⟩, -⟩ := sendRawPayload_one three
    refine AnswersOnce.after ⟨packet, wire, fun sent inside => ?_⟩ unsent.wire
    have sends := each sent inside
    have goes : GoesTo options.raw sent (m.packetBuf.source options.raw) :=
      source ▸ sends.sends.goesTo
    refine ⟨_, goes, by simp, .inr (.inr ⟨rfl, ?_⟩)⟩
    obtain ⟨env, rfl⟩ := sends
    rw [ipPacket_length, sentSegment_length, mode]
    rfl

/-- A packet whose source is known. -/
theorem serverOnPeeked_answers {peeked : RawInfo options.raw} {value : Unit} (tables : s.Tables)
    (source : m.packetBuf.source options.raw = peeked.source)
    (returned : Returns (serverOnPeeked peeked) (m, s) value (m', s')) :
    AnswersOnce (some (m.packetBuf.source options.raw)) (m, s) (m', s') := by
  simp only [serverOnPeeked, Returns.bind_iff, theServer_iff] at returned
  obtain ⟨_, _, ⟨rfl, rfl⟩, returned⟩ := returned
  split at returned
  · rename_i syn
    simp only [Returns.bind_iff, run_iff] at returned
    obtain ⟨ready, _, ⟨-, rfl⟩, returned⟩ := returned
    split at returned
    · exact (calm_call discardRawPacket_unsent _ _ _ returned).answersOnce
    · obtain ⟨replied, rfl⟩ := call_iff.mp returned
      exact replySyn_answers syn.1 replied
  · rw [source]
    split at returned
    · rename_i absent
      exact serverOnNewAddress_answers (AList.lookup_eq_none.mp absent) source returned
    · rename_i p known
      exact serverOnKnownAddress_answers tables known returned

/-- What is read of a packet does not depend on where it was cut. -/
theorem Capture.buffered_source (config : RawConfig v) (capture : Capture) :
    capture.buffered.source config = capture.source config := by
  have bytes : capture.buffered.bytes = capture.bytes := by
    funext offset size
    rw [Capture.bytes, Capture.bytes, Capture.buffered, Capture.truncate_read]
  have first : capture.buffered.read 0 = capture.read 0 := by
    rw [Capture.buffered, Capture.truncate_read]
  cases v with
  | ipv4 =>
    simp only [Capture.source, Capture.sourceIp, Capture.ip, Capture.u16, ipHeaderLen, bytes, first]
  | ipv6 =>
    simp only [Capture.source, Capture.sourceIp, Capture.ip, Capture.u16, ipHeaderLen, bytes]

/-- A captured packet makes the server send at most one packet, back to where it came from. -/
theorem serverOnRawRecvMulti_answers {received : Option Capture} {value : Unit} (tables : s.Tables)
    (returned : Returns (serverOnRawRecvMulti received) (m, s) value (m', s')) :
    AnswersOnce (received.map (Capture.source options.raw)) (m, s) (m', s') := by
  simp only [serverOnRawRecvMulti, Returns.bind_iff, call_iff] at returned
  obtain ⟨look, ⟨m1, _⟩, ⟨one, rfl⟩, ret, ⟨m2, _⟩, ⟨two, rfl⟩, returned⟩ := returned
  have wire : m2.wire = m.wire :=
    (preRecvRawPacket_wire two).trans (newRawInfo_unsent _ _ _ one).wire
  split at returned
  · obtain ⟨-, same⟩ := Returns.pure_iff.mp returned
    obtain ⟨rfl, rfl⟩ := Prod.mk.inj same
    exact answersOnce_of_wire wire
  rename_i took
  obtain ⟨capture, rfl, buffered⟩ := preRecvRawPacket_buffered two took
  simp only [Returns.bind_iff, call_iff, peekRawPacket_iff] at returned
  obtain ⟨⟨peeked, seen⟩, ⟨m3, _⟩, ⟨⟨-, looked, rfl⟩, rfl⟩, returned⟩ := returned
  have source : (some capture).map (Capture.source options.raw) =
      some (m3.packetBuf.source options.raw) := by
    rw [buffered, Capture.buffered_source, Option.map_some]
  rw [source]
  refine AnswersOnce.after ?_ wire
  cases seen with
  | false => exact (calm_call discardRawPacket_unsent _ _ _ returned).answersOnce
  | true => exact serverOnPeeked_answers tables (peekRaw_source looked.symm).symm returned

/-- An event makes the server send at most one packet. -/
theorem serverOnEvent_answers {standing : Standing} {event : EpollEvent} {going : Bool}
    (tables : s.Tables) (returned : Returns (serverOnEvent standing event) (m, s) going (m', s')) :
    AnswersOnce ((event.captured standing).map (Capture.source options.raw)) (m, s) (m', s') := by
  unfold serverOnEvent at returned
  split at returned
  · simp only [Returns.bind_iff, Returns.pure_iff] at returned
    obtain ⟨_, _, cleared, -, rfl⟩ := returned
    exact (clearInactive_calm _ _ _ cleared).answersOnce
  split at returned
  · rename_i here
    simp only [Returns.bind_iff, Returns.pure_iff] at returned
    obtain ⟨_, _, received, -, rfl⟩ := returned
    rw [EpollEvent.captured, if_pos here]
    exact serverOnRawRecvMulti_answers tables received
  rename_i elsewhere
  rw [EpollEvent.captured, if_neg elsewhere]
  split at returned
  · have fifo : Keeps Calm (onFifo event.bytes : ServerProc options Unit) := by
      unfold onFifo
      split
      · exact calm_pure _
      · exact calm_ite (calm_throw _) (calm_pure _)
    simp only [Returns.bind_iff, Returns.pure_iff] at returned
    obtain ⟨_, _, read, -, rfl⟩ := returned
    exact (fifo _ _ _ read).answersOnce
  split at returned
  · simp only [Returns.bind_iff, theServer_iff] at returned
    obtain ⟨_, _, ⟨rfl, rfl⟩, returned⟩ := returned
    split at returned
    · obtain ⟨-, same⟩ := Returns.pure_iff.mp returned
      obtain ⟨rfl, rfl⟩ := Prod.mk.inj same
      exact answersOnce_of_wire rfl
    simp only [serverOnFd64, Returns.bind_iff, theServer_iff, call_iff, check_iff, run_iff,
      deref_iff, Returns.pure_iff] at returned
    obtain ⟨_, _, ⟨_, _, ⟨rfl, rfl⟩, _, ⟨_, _⟩, ⟨⟨-, rfl⟩, rfl⟩, p, _, ⟨-, rfl⟩, conn, _, ⟨-, rfl⟩,
      handled⟩, -, rfl⟩ := returned
    split at handled
    · simp only [Returns.bind_iff, run_iff, call_iff, check_iff] at handled
      obtain ⟨_, _, ⟨-, rfl⟩, _, ⟨_, _⟩, ⟨⟨-, rfl⟩, rfl⟩, handled⟩ := handled
      exact serverOnTimerMulti_answers tables handled
    · exact serverOnUdpRecv_answers tables handled
  · exact absurd returned Returns.throw_iff

end Udp2raw
