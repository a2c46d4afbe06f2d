import Udp2raw.Connection.TcpNumbers
import Udp2raw.Server.EchoReplies

/-!
# Replies to segments

In faketcp mode the server keeps no numbers of its own. Whatever it sends for a captured segment
goes on where that segment acknowledged and acknowledges what it carried, in every state of
every connection, however often the segment arrives.
-/
namespace Udp2raw

open Proc ServerProc Server

variable {v : IpVersion} {config : RawConfig v} {options : Options v} {m m' : Machine v}
  {s s' : Server options}

/-- A segment answers another one: it goes on where that one acknowledged, and acknowledges it. -/
structure TcpNumbers.Answers (reply request : TcpNumbers) : Prop where
  /-- It goes on there. -/
  seq : reply.seq = request.ackSeq
  /-- It acknowledges what the other one carried. -/
  ackSeq : reply.ackSeq = request.seq + UInt32.ofNat request.dataLen

/-- Every packet that was handed to the system answers a segment. -/
def RepliesTo (config : RawConfig v) (request : TcpNumbers) (before after : Machine v) : Prop :=
  ∃ packets, after.wire = before.wire ++ packets ∧ ∀ packet ∈ packets, ∀ stale,
    (Capture.tcpNumbers v ⟨onWire config packet, stale⟩).Answers request

/-- Nothing was sent. -/
theorem repliesTo_of_wire {request : TcpNumbers} (wire : m'.wire = m.wire) :
    RepliesTo config request m m' := ⟨[], by rw [wire, List.append_nil], nofun⟩

/-- Nothing was sent before. -/
theorem RepliesTo.after {request : TcpNumbers} {m1 : Machine v}
    (replies : RepliesTo config request m1 m') (wire : m1.wire = m.wire) :
    RepliesTo config request m m' := by
  obtain ⟨packets, sent, each⟩ := replies
  exact ⟨packets, by rw [sent, wire], each⟩

/-- A connection continues what it received last. -/
theorem SentBy.repliesTo {raw : RawInfo config} (mode : config.rawMode = .faketcp)
    (sent : SentBy raw.continuing m m') : RepliesTo config raw.recvInfo.tcpNumbers m m' := by
  obtain ⟨packets, wire, each⟩ := sent.wire
  refine ⟨packets, wire, fun packet inside stale => ?_⟩
  obtain ⟨env, payload, sends⟩ := each packet inside
  have carries : raw.continuing.SendsPayload payload packet := ⟨env, sends⟩
  obtain ⟨seq, ackSeq, -⟩ := carries.tcpNumbers mode stale
  constructor
  · rw [seq]
    simp only [RawInfo.continuing, mode]
    rfl
  · rw [ackSeq]
    simp only [RawInfo.continuing, mode]
    rfl

/-! ### Handshakes -/

/-- A promotion sends packets of the waiting connection. -/
theorem promote_sentBy {p : Ptr} {constId : UInt32} {conn : ServerConn options} {value : Unit}
    (found : s.heap p = some conn) (returned : Returns (promote p constId) (m, s) value (m', s')) :
    SentBy conn.rawInfo m m' := by
  simp only [promote, Returns.bind_iff, deref_iff, call_iff, update_iff, run_iff, store_iff]
    at returned
  obtain ⟨_, _, ⟨same, rfl⟩, prepared, ⟨m1, _⟩, ⟨one, rfl⟩, _, _, rfl, _, ⟨m2, _⟩, ⟨two, rfl⟩, now,
    ⟨m3, _⟩, ⟨three, rfl⟩, sent, ⟨m4, _⟩, ⟨four, rfl⟩, blob, _, ⟨-, rfl⟩, timer, ⟨m5, s5⟩, five,
    returned⟩ := returned
  obtain rfl := Option.some.inj (found.symm.trans same)
  obtain ⟨rfl, rfl⟩ := Prod.mk.inj returned
  obtain ⟨-, -, contents, rfl, -⟩ := prepare_ran one
  have early := ((prepare_unsent _ _ _ _ one).trans (record_unsent _ _ _ _ two)).trans
    (getCurrentTime_unsent _ _ _ three)
  have late : Unsent m4 m' := (setTimerServer_calm p _ _ _ five).unsent
  have heartbeat := sendHeartbeat_sentBy four
  exact (heartbeat.after early).unsent late

/-- A recovery sends packets with the numbers of the waiting connection. -/
theorem grab_sentBy {p q : Ptr} {constId : UInt32} {conn : ServerConn options} {value : Unit}
    (found : s.heap p = some conn) (returned : Returns (grab p q constId) (m, s) value (m', s')) :
    SentBy conn.rawInfo m m' := by
  simp only [grab, Returns.bind_iff, deref_iff] at returned
  obtain ⟨_, _, ⟨same, rfl⟩, ori, _, ⟨other, rfl⟩, returned⟩ := returned
  obtain rfl := Option.some.inj (found.symm.trans same)
  split at returned
  · exact absurd returned Returns.throw_iff
  split at returned
  · rw [store_iff] at returned
    obtain ⟨rfl, rfl⟩ := Prod.mk.inj returned
    exact (Unsent.refl _).sentBy _
  simp only [Returns.bind_iff, theServer_iff] at returned
  obtain ⟨_, _, ⟨rfl, rfl⟩, returned⟩ := returned
  split at returned
  · exact absurd returned Returns.throw_iff
  split at returned
  · exact absurd returned Returns.throw_iff
  simp only [Returns.bind_iff, call_iff, run_iff, update_iff, store_iff] at returned
  obtain ⟨pOri, _, ⟨-, rfl⟩, pNew, _, ⟨-, rfl⟩, _, _, rfl, recovered, _, ⟨ran, rfl⟩, _, ⟨m1, _⟩,
    ⟨one, rfl⟩, sent, ⟨m2, _⟩, ⟨two, rfl⟩, now, ⟨m3, _⟩, ⟨three, rfl⟩, _, _, rfl, returned⟩ :=
    returned
  obtain ⟨rfl, rfl⟩ := Prod.mk.inj returned
  have taken : recovered.rawInfo.sendInfo = conn.rawInfo.sendInfo := by
    simp only [ConnInfo.recover, exec_bind_iff, exec_pure_iff] at ran
    obtain ⟨_, -, rfl⟩ := ran
    rfl
  have heartbeat := (sendHeartbeat_sentBy two).of_sendInfo taken
  exact (heartbeat.after (record_unsent _ _ _ _ one)).unsent (getCurrentTime_unsent _ _ _ three)

/-- The preparation of a ready connection sends packets with the numbers of the waiting one. -/
theorem serverOnRawRecvPreReady_sentBy {p : Ptr} {constId : UInt32} {conn : ServerConn options}
    {value : Unit} (found : s.heap p = some conn)
    (returned : Returns (serverOnRawRecvPreReady p constId) (m, s) value (m', s')) :
    SentBy conn.rawInfo m m' := by
  simp only [serverOnRawRecvPreReady, Returns.bind_iff, theServer_iff] at returned
  obtain ⟨_, _, ⟨rfl, rfl⟩, returned⟩ := returned
  split at returned
  · split at returned
    · simp only [Returns.bind_iff, deref_iff, store_iff] at returned
      obtain ⟨_, _, ⟨-, rfl⟩, returned⟩ := returned
      obtain ⟨rfl, rfl⟩ := Prod.mk.inj returned
      exact (Unsent.refl _).sentBy _
    · exact promote_sentBy found returned
  · exact grab_sentBy found returned

/-- Everything that a waiting connection sends for a handshake continues what it received. -/
theorem serverOnRawRecvHandshake1_sentBy {p : Ptr} {data : Bytes} {conn : ServerConn options}
    {value : Unit} (found : s.heap p = some conn)
    (returned : Returns (serverOnRawRecvHandshake1 p data) (m, s) value (m', s')) :
    SentBy conn.rawInfo.continuing m m' := by
  have silent (same : Returns (pure () : ServerProc options Unit) (m, s) value (m', s')) :
      SentBy conn.rawInfo.continuing m m' := by
    obtain ⟨-, same⟩ := Returns.pure_iff.mp same
    obtain ⟨rfl, rfl⟩ := Prod.mk.inj same
    exact (Unsent.refl _).sentBy _
  unfold serverOnRawRecvHandshake1 at returned
  split at returned
  · exact silent returned
  simp only [Returns.bind_iff, deref_iff] at returned
  obtain ⟨_, _, ⟨same, rfl⟩, returned⟩ := returned
  obtain rfl := Option.some.inj (found.symm.trans same)
  split at returned
  · simp only [Returns.bind_iff, call_iff, store_iff] at returned
    obtain ⟨rawInfo, ⟨m1, _⟩, ⟨replied, rfl⟩, returned⟩ := returned
    obtain ⟨rfl, rfl⟩ := Prod.mk.inj returned
    exact sendHandshake_sentBy replied
  split at returned
  · simp only [Returns.bind_iff, store_iff] at returned
    obtain ⟨_, _, rfl, returned⟩ := returned
    exact serverOnRawRecvPreReady_sentBy heap_put returned
  · exact silent returned

/-! ### Captured packets -/

section Faketcp

variable (mode : options.raw.rawMode = .faketcp)

include mode

/-- A packet from an address with an entry. -/
theorem serverOnKnownAddress_repliesTo {p : Ptr} {value : Unit}
    (returned : Returns (serverOnKnownAddress p) (m, s) value (m', s')) :
    RepliesTo options.raw (m.packetBuf.tcpNumbers v) m m' := by
  simp only [serverOnKnownAddress, Returns.bind_iff, deref_iff] at returned
  obtain ⟨conn, _, ⟨-, rfl⟩, returned⟩ := returned
  split at returned
  · simp only [Returns.bind_iff, call_iff, store_iff] at returned
    obtain ⟨⟨rawInfo, data⟩, ⟨m1, _⟩, ⟨one, rfl⟩, _, _, rfl, returned⟩ := returned
    have unsent := recvBare_unsent _ _ _ _ one
    cases data with
    | none =>
      obtain ⟨-, same⟩ := Returns.pure_iff.mp returned
      obtain ⟨rfl, rfl⟩ := Prod.mk.inj same
      exact repliesTo_of_wire unsent.wire
    | some data =>
      have sent : SentBy rawInfo.continuing m1 m' :=
        serverOnRawRecvHandshake1_sentBy heap_put returned
      rw [← (recvBare_numbers mode one).1]
      exact (sent.repliesTo mode).after unsent.wire
  · simp only [Returns.bind_iff, call_iff, store_iff] at returned
    obtain ⟨⟨next, frames⟩, ⟨m1, _⟩, ⟨one, rfl⟩, _, _, rfl, returned⟩ := returned
    have unsent := recvSaferMulti_unsent _ _ _ _ one
    have calm := serverOnFrames_calm p frames _ _ _ returned
    exact repliesTo_of_wire (calm.unsent.wire.trans unsent.wire)
  · obtain ⟨discarded, -⟩ := call_iff.mp returned
    exact repliesTo_of_wire (discardRawPacket_unsent _ _ _ discarded).wire

/-- A packet from a new address. -/
theorem serverOnNewAddress_repliesTo {addr : Address v} {value : Unit} (absent : addr ∉ s.mp)
    (returned : Returns (serverOnNewAddress addr) (m, s) value (m', s')) :
    RepliesTo options.raw (m.packetBuf.tcpNumbers v) m m' := by
  simp only [serverOnNewAddress, Returns.bind_iff, theServer_iff] at returned
  obtain ⟨_, _, ⟨rfl, rfl⟩, returned⟩ := returned
  split at returned
  · obtain ⟨discarded, -⟩ := call_iff.mp returned
    exact repliesTo_of_wire (discardRawPacket_unsent _ _ _ discarded).wire
  simp only [Returns.bind_iff, call_iff] at returned
  obtain ⟨look, ⟨m1, _⟩, ⟨one, rfl⟩, ⟨raw, data⟩, ⟨m2, _⟩, ⟨two, rfl⟩, returned⟩ := returned
  have created := newRawInfo_unsent _ _ _ one
  have unsent := created.trans (recvBare_unsent _ _ _ _ two)
  have silent (final : (m2, s) = (m', s')) :
      RepliesTo options.raw (m.packetBuf.tcpNumbers v) m m' := by
    obtain ⟨rfl, rfl⟩ := Prod.mk.inj final
    exact repliesTo_of_wire unsent.wire
  cases data with
  | none => exact silent (Returns.pure_iff.mp returned).2
  | some data =>
    dsimp only at returned
    split at returned
    · exact silent (Returns.pure_iff.mp returned).2
    split at returned
    · exact silent (Returns.pure_iff.mp returned).2
    simp only [Returns.bind_iff] at returned
    obtain ⟨p, ⟨m3, s3⟩, entered, returned⟩ := returned
    obtain ⟨entry, -, -, -, -, conn, found, -, turned⟩ := newEntry_echo absent entered
    have sent := serverOnRawRecvHandshake1_sentBy found returned
    have heard : conn.rawInfo.recvInfo.tcpNumbers = m.packetBuf.tcpNumbers v := by
      rw [← created.packetBuf, turned]
      exact (recvBare_numbers mode two).1
    rw [← heard]
    exact (sent.repliesTo mode).after (entry.wire.trans unsent.wire)

/-- Whatever the server sends for a captured segment that is no `SYN` answers that segment. -/
theorem serverOnRawRecvMulti_repliesTo {capture : Capture} {value : Unit}
    (plain : (capture.tcpNumbers v).syn = false)
    (returned : Returns (serverOnRawRecvMulti (some capture)) (m, s) value (m', s')) :
    RepliesTo options.raw (capture.tcpNumbers v) m m' := by
  simp only [serverOnRawRecvMulti, Returns.bind_iff, call_iff] at returned
  obtain ⟨look, ⟨m1, _⟩, ⟨one, rfl⟩, ret, ⟨m2, _⟩, ⟨two, rfl⟩, returned⟩ := returned
  have wire : m2.wire = m.wire :=
    (preRecvRawPacket_wire two).trans (newRawInfo_unsent _ _ _ one).wire
  split at returned
  · obtain ⟨-, same⟩ := Returns.pure_iff.mp returned
    obtain ⟨rfl, rfl⟩ := Prod.mk.inj same
    exact repliesTo_of_wire wire
  rename_i took
  have numbers := preRecvRawPacket_numbers took two
  simp only [Returns.bind_iff, call_iff, peekRawPacket_iff] at returned
  obtain ⟨⟨peeked, seen⟩, ⟨m3, _⟩, ⟨⟨-, looked, rfl⟩, rfl⟩, returned⟩ := returned
  cases seen with
  | false =>
    obtain ⟨discarded, -⟩ := call_iff.mp returned
    exact repliesTo_of_wire ((discardRawPacket_unsent _ _ _ discarded).wire.trans wire)
  | true =>
    have flag : peeked.recvInfo.syn = false := by
      rw [peekRaw_syn mode looked.symm, numbers, plain]
    simp only [serverOnPeeked, if_true, Returns.bind_iff, theServer_iff] at returned
    obtain ⟨_, _, ⟨rfl, rfl⟩, returned⟩ := returned
    rw [if_neg (fun syn => by rw [flag] at syn; exact absurd syn.2 (by simp))] at returned
    rw [← numbers]
    refine RepliesTo.after ?_ wire
    split at returned
    · rename_i absent
      exact serverOnNewAddress_repliesTo mode (AList.lookup_eq_none.mp absent) returned
    · exact serverOnKnownAddress_repliesTo mode returned

end Faketcp

end Udp2raw
