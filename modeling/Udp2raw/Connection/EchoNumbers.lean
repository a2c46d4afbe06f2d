import Udp2raw.Connection.Wire
import Udp2raw.Network.Numbers

/-!
# The numbers of echo packets

An echo packet carries an identifier and a sequence number. A client chooses them, and the
server answers with the numbers of what it received: the identifier is checked by the parser
before anything is stored, and the sequence number moves from what was received to what is
sent only after a message was accepted.
-/
namespace Udp2raw

open Proc

variable {v : IpVersion} {config : RawConfig v} {options : Options v}

/-- The identifier and the sequence number of an echo packet. -/
structure EchoNumbers where
  /-- The identifier. -/
  id : UInt16
  /-- The sequence number. -/
  seq : UInt16
  deriving DecidableEq

/-- The numbers of a captured echo packet. -/
def Capture.echoNumbers (v : IpVersion) (capture : Capture) : EchoNumbers :=
  ⟨capture.u16 (ipHeaderLen v capture + 4), capture.u16 (ipHeaderLen v capture + 6)⟩

/-- The numbers that the next echo packet of a connection carries. -/
def RawInfo.echoNumbers (raw : RawInfo config) : EchoNumbers :=
  ⟨raw.sendInfo.srcPort, raw.sendInfo.myIcmpSeq⟩

/-! ### On the wire -/

/-- The header of a packet is followed by its segment. -/
theorem ipPacket_drop (info : PacketInfo v) (ipId : UInt16) (segment : Bytes) :
    (ipPacket config info ipId segment).drop v.headerSize = segment := by
  cases v with
  | ipv4 =>
    simp only [ipPacket]
    split
    · exact List.drop_left' (ipv4Header_length config info ipId _ _)
    · exact List.drop_left' (ipv4Header_length config info ipId _ _)
  | ipv6 => exact List.drop_left' (ipv6Header_length config info segment.length)

/-- A packet shows the length of its header. -/
theorem ipPacket_headerLen (info : PacketInfo v) (ipId : UInt16) (segment : Bytes)
    (stale : Nat → UInt8) :
    ipHeaderLen v ⟨ipPacket config info ipId segment, stale⟩ = v.headerSize := by
  cases v with
  | ipv4 =>
    have first : (⟨ipPacket config info ipId segment, stale⟩ : Capture).read 0 = 0x45 := by
      simp only [ipPacket]
      split <;> rfl
    rw [ipHeaderLen, first]
    rfl
  | ipv6 => rfl

/-- A sent echo packet carries the numbers of its connection. -/
theorem RawInfo.Sends.echoNumbers {raw : RawInfo config} {packet : Bytes}
    (sends : raw.Sends packet) (mode : config.rawMode = .icmp) (stale : Nat → UInt8) :
    (⟨packet, stale⟩ : Capture).echoNumbers v = raw.echoNumbers := by
  obtain ⟨env, payload, rfl⟩ := sends
  simp only [Capture.echoNumbers, RawInfo.echoNumbers, ipPacket_headerLen, EchoNumbers.mk.injEq,
    sentSegment, mode]
  constructor
  · apply Capture.u16_field
    rw [← List.drop_drop, ipPacket_drop]
    simp [icmpSegment, OnesComplement.word, List.drop_append]
  · apply Capture.u16_field
    rw [← List.drop_drop, ipPacket_drop]
    simp [icmpSegment, OnesComplement.word]

/-! ### Sending -/

section Icmp

variable {σ τ : Type} [DecidableEq τ] {before after : Machine v}

/-- The send of an echo packet leaves the connection alone. -/
theorem sendRaw0_icmp {env : SendEnv} {raw : RawInfo config} {payload : Bytes}
    {sent : Sent config} (mode : config.rawMode = .icmp)
    (ran : sendRaw0 config env raw payload = .ok sent) : sent.raw = raw := by
  unfold sendRaw0 at ran
  split at ran
  · obtain rfl := Except.ok.inj ran
    rfl
  · simp only [mode, sendRawIcmp, bind, Except.bind] at ran
    split at ran
    · contradiction
    · rename_i middle inner
      have same := sendRawIp_raw inner
      split at ran <;> obtain rfl := Except.ok.inj ran <;> exact same

/-- `send_raw0` sends an echo packet of the connection. -/
theorem sendRawPayload_icmp {raw next : RawInfo options.raw} {payload : Bytes} {ret : Int}
    (mode : options.raw.rawMode = .icmp)
    (returned : Returns (sendRawPayload options raw payload) before (next, ret) after) :
    next = raw ∧ SentBy raw before after := by
  refine ⟨?_, sendRawPayload_sentBy returned⟩
  simp only [sendRawPayload, Returns.bind_iff, Returns.lift_iff, Returns.pure_iff, Prod.mk.injEq]
    at returned
  obtain ⟨_, _, -, _, _, -, _, _, -, sent, _, ⟨ran, -⟩, _, _, -, ⟨rfl, -⟩, -⟩ := returned
  exact sendRaw0_icmp mode ran

/-- `send_handshake` sends an echo packet of the connection. -/
theorem sendHandshake_icmp {raw next : RawInfo options.raw} {id1 id2 id3 : UInt32}
    (mode : options.raw.rawMode = .icmp)
    (returned : Returns (sendHandshake options raw id1 id2 id3) before next after) :
    next = raw ∧ SentBy raw before after := by
  refine ⟨?_, sendHandshake_sentBy returned⟩
  simp only [sendHandshake, sendBare, Returns.bind_iff, Returns.pure_iff] at returned
  obtain ⟨⟨other, _⟩, _, ⟨_, _, -, _, _, -, output, _, -, returned⟩, rfl, -⟩ := returned
  cases output with
  | none => exact (Prod.mk.inj (Returns.pure_iff.mp returned).1).1.symm
  | some output =>
    simp only [Returns.bind_iff, Returns.pure_iff, Prod.mk.injEq] at returned
    obtain ⟨⟨_, _⟩, _, four, ⟨rfl, -⟩, -⟩ := returned
    exact (sendRawPayload_icmp mode four).1

/-- At the server, the bookkeeping after a send leaves an echo connection alone. -/
theorem afterSendRaw0_icmp {env : SendEnv} {raw : RawInfo config} (mode : config.rawMode = .icmp)
    (role : config.programMode = .server) : afterSendRaw0 env raw = raw := by
  simp only [afterSendRaw0, mode, role]

/-- At the server, `send_safer` sends an echo packet of the connection. -/
theorem sendSafer_icmp {conn next : ConnInfo options σ τ} {type : UInt8} {data : Bytes} {ret : Int}
    (mode : options.raw.rawMode = .icmp) (role : options.raw.programMode = .server)
    (returned : Returns (sendSafer conn type data) before (next, ret) after) :
    next.rawInfo = conn.rawInfo ∧ SentBy conn.rawInfo before after := by
  refine ⟨?_, sendSafer_sentBy returned⟩
  unfold sendSafer at returned
  split at returned
  · obtain ⟨rfl, -⟩ := Prod.mk.inj (Returns.pure_iff.mp returned).1
    rfl
  simp only [Returns.bind_iff, Returns.lift_iff] at returned
  obtain ⟨blob, _, ⟨-, rfl⟩, output, _, -, returned⟩ := returned
  cases output with
  | none =>
    obtain ⟨rfl, -⟩ := Prod.mk.inj (Returns.pure_iff.mp returned).1
    rfl
  | some bytes =>
    simp only [Returns.bind_iff] at returned
    obtain ⟨frame, _, -, ⟨rawInfo, sent⟩, _, three, returned⟩ := returned
    obtain ⟨rfl, -⟩ := sendRawPayload_icmp mode three
    dsimp only at returned
    split at returned
    · obtain ⟨rfl, -⟩ := Prod.mk.inj (Returns.pure_iff.mp returned).1
      rfl
    · simp only [Returns.bind_iff, Returns.pure_iff] at returned
      obtain ⟨_, _, -, same, -⟩ := returned
      obtain ⟨rfl, -⟩ := Prod.mk.inj same
      exact afterSendRaw0_icmp mode role

/-- At the server, a heartbeat is an echo packet of the connection. -/
theorem sendHeartbeat_icmp {conn next : ConnInfo options σ τ}
    (mode : options.raw.rawMode = .icmp) (role : options.raw.programMode = .server)
    (returned : Returns (sendHeartbeat conn) before next after) :
    next.rawInfo = conn.rawInfo ∧ SentBy conn.rawInfo before after := by
  simp only [sendHeartbeat, Returns.bind_iff, Returns.pure_iff] at returned
  obtain ⟨⟨_, _⟩, _, sent, rfl, rfl⟩ := returned
  exact sendSafer_icmp mode role sent

/-- At the server, a datagram is an echo packet of the connection. -/
theorem sendDataSafer_icmp {conn next : ConnInfo options σ τ} {data : Bytes} {convNum : UInt32}
    (mode : options.raw.rawMode = .icmp) (role : options.raw.programMode = .server)
    (returned : Returns (sendDataSafer conn data convNum) before next after) :
    next.rawInfo = conn.rawInfo ∧ SentBy conn.rawInfo before after := by
  refine ⟨?_, sendDataSafer_sentBy returned⟩
  simp only [sendDataSafer, Returns.bind_iff, Returns.pure_iff] at returned
  obtain ⟨_, _, -, ⟨_, _⟩, _, sent, rfl, rfl⟩ := returned
  exact (sendSafer_icmp mode role sent).1

/-! ### Receiving -/

/-- A connection received an echo packet: the identifiers are those of the packet on both sides,
and its sequence number is known. -/
structure HeardEcho (capture : Capture) (raw : RawInfo config) : Prop where
  /-- The identifier to answer with. -/
  srcPort : raw.sendInfo.srcPort = (capture.echoNumbers v).id
  /-- The identifier of the packet. -/
  dstPort : raw.recvInfo.dstPort = (capture.echoNumbers v).id
  /-- The sequence number of the packet. -/
  myIcmpSeq : raw.recvInfo.myIcmpSeq = (capture.echoNumbers v).seq

/-- `recv_raw_icmp` accepts packets with the identifier of the connection. -/
theorem recvRawIcmp_heard {capture : Capture} {raw next : RawInfo config} {segment : Segment}
    (received : recvRawIcmp config capture raw = (next, .payload segment)) :
    HeardEcho capture next := by
  unfold recvRawIcmp at received
  cases inner : recvRawIp config capture raw with
  | mk middle ip =>
    cases ip with
    | none => simp [inner] at received
    | some ip =>
      obtain ⟨-, rfl, rfl⟩ := recvRawIp_eq_some_iff.mp inner
      simp only [inner] at received
      split_ifs at received with protocol short other code type check
      all_goals simp only [Prod.mk.injEq, reduceCtorEq, and_false] at received
      obtain ⟨rfl, -⟩ := received
      exact ⟨(not_not.mp other).symm, rfl, rfl⟩

/-- A received payload of an echo packet has the identifier of the connection. -/
theorem recvRawPayload_heard {raw next : RawInfo options.raw} {payload : Bytes}
    (mode : options.raw.rawMode = .icmp)
    (returned : Returns (recvRawPayload options raw) before (next, some payload) after) :
    HeardEcho before.packetBuf next := by
  simp only [recvRawPayload, Returns.bind_iff, Returns.get_iff, check_iff, Returns.modify_iff,
    recvRaw0, mode] at returned
  obtain ⟨_, _, ⟨rfl, rfl⟩, _, _, ⟨-, rfl⟩, _, _, rfl, returned⟩ := returned
  cases result : recvRawIcmp options.raw before.packetBuf raw with
  | mk parsed received =>
    cases received with
    | failed =>
      simp only [result, Returns.pure_iff, Prod.mk.injEq, reduceCtorEq, and_false, false_and]
        at returned
    | untouched =>
      simp only [result] at returned
      exact absurd returned Returns.throw_iff
    | payload segment =>
      simp only [result, Returns.pure_iff, Prod.mk.injEq] at returned
      obtain ⟨⟨rfl, -⟩, -⟩ := returned
      exact recvRawIcmp_heard result

/-- The data of a bare message came with the identifier of the connection. -/
theorem recvBare_heard {raw next : RawInfo options.raw} {data : Bytes}
    (mode : options.raw.rawMode = .icmp)
    (returned : Returns (recvBare options raw) before (next, some data) after) :
    HeardEcho before.packetBuf next := by
  simp only [recvBare, Returns.bind_iff] at returned
  obtain ⟨⟨parsed, payload⟩, _, one, returned⟩ := returned
  cases payload with
  | none =>
    obtain ⟨same, -⟩ := Returns.pure_iff.mp returned
    exact absurd (Prod.mk.inj same).2 (by simp)
  | some payload =>
    dsimp only at returned
    split_ifs at returned
    · obtain ⟨same, -⟩ := Returns.pure_iff.mp returned
      exact absurd (Prod.mk.inj same).2 (by simp)
    · obtain ⟨same, -⟩ := Returns.pure_iff.mp returned
      exact absurd (Prod.mk.inj same).2 (by simp)
    · simp only [Returns.bind_iff, Returns.pure_iff, Prod.mk.injEq] at returned
      obtain ⟨_, _, -, ⟨rfl, -⟩, -⟩ := returned
      exact recvRawPayload_heard mode one

/-- An event was recorded in between. -/
def Recorded (event : Event v) (before after : Machine v) : Prop :=
  ∃ events, Logged events before after ∧ event ∈ events

namespace Recorded

variable {event : Event v} {events : List (Event v)} {a b c : Machine v}

/-- Recorded in the second part. -/
theorem preceded (recorded : Recorded event b c) (logged : Logged events a b) :
    Recorded event a c := by
  obtain ⟨later, rest, inside⟩ := recorded
  exact ⟨_, logged.trans rest, List.mem_append_right _ inside⟩

/-- Recorded in the first part. -/
theorem followed (recorded : Recorded event a b) (logged : Logged events b c) :
    Recorded event a c := by
  obtain ⟨earlier, first, inside⟩ := recorded
  exact ⟨_, first.trans logged, List.mem_append_left _ inside⟩

end Recorded

/-- A connection in a session kept its numbers, or accepted a message of the session and moved
forward to the sequence number of the buffered packet. -/
structure Advances (conn next : ConnInfo options σ τ) (before after : Machine v) : Prop where
  /-- It is in the same state. -/
  state : next.state = conn.state
  /-- It has the same identifier. -/
  myId : next.myId = conn.myId
  /-- The other end has the same identifier. -/
  oppsiteId : next.oppsiteId = conn.oppsiteId
  /-- It has the same peer. -/
  destination : next.rawInfo.destination = conn.rawInfo.destination
  /-- The numbers are the same, or those of an accepted packet. -/
  numbers : next.rawInfo.echoNumbers = conn.rawInfo.echoNumbers ∨
    next.rawInfo.echoNumbers = before.packetBuf.echoNumbers v ∧
      largerThanU16 next.rawInfo.echoNumbers.seq conn.rawInfo.echoNumbers.seq ∧
      ∃ seq, Recorded (.accepted conn.myId conn.oppsiteId seq) before after

/-- Nothing moved. -/
theorem Advances.refl (conn : ConnInfo options σ τ) (before after : Machine v) :
    Advances conn conn before after := ⟨rfl, rfl, rfl, rfl, .inl rfl⟩

/-- `reserved_parse_safer` only touches the raw connection when it accepts a message. -/
theorem reservedParseSafer_rawInfo {conn next : ConnInfo options σ τ} {input : Bytes}
    {frame : Option Frame}
    (returned : Returns (reservedParseSafer conn input) before (next, frame) after) :
    next.rawInfo = conn.rawInfo ∨ next.rawInfo = afterRecvRaw0 conn.rawInfo := by
  simp only [reservedParseSafer, Returns.bind_iff] at returned
  obtain ⟨_, _, -, ⟨buffer, len⟩, _, -, _, _, -, returned⟩ := returned
  cases len with
  | none =>
    obtain ⟨same, -⟩ := Returns.pure_iff.mp returned
    exact .inl (congrArg ConnInfo.rawInfo (Prod.mk.inj same).1).symm
  | some len =>
    dsimp only at returned
    split at returned
    · obtain ⟨same, -⟩ := Returns.pure_iff.mp returned
      exact .inl (congrArg ConnInfo.rawInfo (Prod.mk.inj same).1).symm
    simp only [Returns.bind_iff] at returned
    obtain ⟨blob, _, -, returned⟩ := returned
    split at returned
    · obtain ⟨same, -⟩ := Returns.pure_iff.mp returned
      exact .inl (congrArg ConnInfo.rawInfo (Prod.mk.inj same).1).symm
    simp only [Returns.bind_iff] at returned
    obtain ⟨_, _, -, returned⟩ := returned
    split at returned
    · obtain ⟨same, -⟩ := Returns.pure_iff.mp returned
      exact .inl (congrArg ConnInfo.rawInfo (Prod.mk.inj same).1).symm
    split at returned
    · obtain ⟨same, -⟩ := Returns.pure_iff.mp returned
      exact .inl (congrArg ConnInfo.rawInfo (Prod.mk.inj same).1).symm
    simp only [Returns.bind_iff, Returns.pure_iff] at returned
    obtain ⟨noted, _, moved, same, -⟩ := returned
    have kept : noted.rawInfo = conn.rawInfo := by
      unfold ConnInfo.noteRoller at moved
      split at moved
      · simp only [Returns.bind_iff, Returns.pure_iff] at moved
        obtain ⟨_, _, -, rfl, -⟩ := moved
        rfl
      · obtain ⟨rfl, -⟩ := Returns.pure_iff.mp moved
        rfl
    right
    rw [← (Prod.mk.inj same).1, ← kept]
    rfl

/-- The bookkeeping after a receipt takes the later sequence number. -/
theorem afterRecvRaw0_icmp (raw : RawInfo config) (mode : config.rawMode = .icmp)
    (role : config.programMode = .server) :
    (afterRecvRaw0 raw).recvInfo = raw.recvInfo ∧
      (afterRecvRaw0 raw).sendInfo.srcPort = raw.sendInfo.srcPort ∧
      ((afterRecvRaw0 raw).sendInfo.myIcmpSeq = raw.sendInfo.myIcmpSeq ∨
        (afterRecvRaw0 raw).sendInfo.myIcmpSeq = raw.recvInfo.myIcmpSeq ∧
          largerThanU16 raw.recvInfo.myIcmpSeq raw.sendInfo.myIcmpSeq) := by
  simp only [afterRecvRaw0, mode, role]
  split
  · rename_i larger
    exact ⟨rfl, rfl, .inr ⟨rfl, larger⟩⟩
  · exact ⟨rfl, rfl, .inl rfl⟩

/-- One message of a packet moves the numbers forward or leaves them. -/
theorem reservedParseSafer_advances {conn next : ConnInfo options σ τ} {input : Bytes}
    {frame : Option Frame} (mode : options.raw.rawMode = .icmp)
    (role : options.raw.programMode = .server)
    (returned : Returns (reservedParseSafer conn input) before (next, frame) after)
    (heard : HeardEcho before.packetBuf conn.rawInfo) :
    Advances conn next before after ∧ HeardEcho before.packetBuf next.rawInfo := by
  have raw := reservedParseSafer_rawInfo returned
  have receipt := reservedParseSafer_receipt returned
  cases receipt with
  | dropped => exact ⟨.refl conn before after, heard⟩
  | @accepted _ _ _ _ _ _ seq _ _ _ _ _ kept _ ran =>
    have recorded : Recorded (.accepted conn.myId conn.oppsiteId seq) before after :=
      ⟨_, ran.toLogged, by simp⟩
    obtain ⟨recv, srcPort, numbers⟩ := afterRecvRaw0_icmp conn.rawInfo mode role
    obtain same | same := raw
    · refine ⟨⟨kept.state, kept.myId, kept.oppsiteId, kept.peer.destination, .inl ?_⟩, ?_⟩
      · rw [same]
      · rw [same]
        exact heard
    · refine ⟨⟨kept.state, kept.myId, kept.oppsiteId, kept.peer.destination, ?_⟩, ?_⟩
      · obtain still | ⟨moved, larger⟩ := numbers
        · left
          rw [same, RawInfo.echoNumbers, srcPort, still, RawInfo.echoNumbers]
        · right
          refine ⟨?_, ?_, seq, recorded⟩
          · rw [same, RawInfo.echoNumbers, srcPort, moved, heard.srcPort, heard.myIcmpSeq]
          · rw [same, RawInfo.echoNumbers, moved]
            exact larger
      · rw [same]
        exact ⟨srcPort.trans heard.srcPort, by rw [recv]; exact heard.dstPort,
          by rw [recv]; exact heard.myIcmpSeq⟩

/-- Two messages of the same packet. -/
theorem Advances.trans {a b c : ConnInfo options σ τ} {start middle final : Machine v}
    {first second : List (Event v)} (one : Advances a b start middle)
    (two : Advances b c middle final) (before : Logged first start middle)
    (after : Logged second middle final) (buffered : middle.packetBuf = start.packetBuf) :
    Advances a c start final where
  state := two.state.trans one.state
  myId := two.myId.trans one.myId
  oppsiteId := two.oppsiteId.trans one.oppsiteId
  destination := two.destination.trans one.destination
  numbers := by
    obtain still | ⟨numbers, larger, seq, recorded⟩ := one.numbers
    · obtain same | ⟨numbers, larger, seq, recorded⟩ := two.numbers
      · exact .inl (same.trans still)
      · rw [buffered] at numbers
        rw [still] at larger
        rw [one.myId, one.oppsiteId] at recorded
        exact .inr ⟨numbers, larger, seq, recorded.preceded before⟩
    · obtain same | ⟨again, later, -⟩ := two.numbers
      · rw [same]
        exact .inr ⟨numbers, larger, seq, recorded.followed after⟩
      · rw [again, numbers, buffered, largerThanU16_self] at later
        contradiction

/-- The messages of one payload move the numbers forward or leave them. -/
theorem recvFrames_advances {conn next : ConnInfo options σ τ} {recvData : Bytes}
    {frames : List Frame} (mode : options.raw.rawMode = .icmp)
    (role : options.raw.programMode = .server)
    (returned : Returns (recvFrames conn recvData) before (next, frames) after)
    (heard : HeardEcho before.packetBuf conn.rawInfo) : Advances conn next before after := by
  induction size : recvData.length using Nat.strong_induction_on
    generalizing conn recvData before frames with
  | _ size ih =>
  rw [recvFrames] at returned
  split at returned
  · simp only [Returns.bind_iff] at returned
    obtain ⟨block, opened, uncovered, returned⟩ := returned
    have unsent := groOpen_unsent _ _ _ _ uncovered
    have ran := groOpen_ran uncovered
    rw [← unsent.packetBuf] at heard
    split at returned
    · obtain ⟨same, -⟩ := Returns.pure_iff.mp returned
      obtain ⟨rfl, -⟩ := Prod.mk.inj same
      exact .refl conn before after
    split at returned
    · obtain ⟨same, -⟩ := Returns.pure_iff.mp returned
      obtain ⟨rfl, -⟩ := Prod.mk.inj same
      exact .refl conn before after
    simp only [Returns.bind_iff, Returns.pure_iff, Prod.mk.injEq] at returned
    obtain ⟨⟨parsed, frame⟩, middle, one, ⟨_, later⟩, _, two, ⟨rfl, rfl⟩, rfl⟩ := returned
    have buffered := (reservedParseSafer_unsent _ _ _ _ _ one).packetBuf
    obtain ⟨first, still⟩ := reservedParseSafer_advances mode role one heard
    obtain ⟨sooner, logged⟩ := (reservedParseSafer_receipt one).logged
    obtain ⟨rest, more⟩ := (recvFrames_receives two).logged
    rw [← buffered] at still
    have second := ih _ (by
      simp only [List.length_drop, List.length_append, Vector.length_toList]
      omega) two still rfl
    have begun : Advances conn conn before opened := .refl conn before opened
    exact begun.trans (first.trans second logged more buffered) ran.toLogged (logged.trans more)
      unsent.packetBuf
  · obtain ⟨same, -⟩ := Returns.pure_iff.mp returned
    obtain ⟨rfl, -⟩ := Prod.mk.inj same
    exact .refl conn before after

/-- The messages of a packet move the numbers of a connection forward or leave them. -/
theorem recvSaferMulti_advances {conn next : ConnInfo options σ τ} {frames : List Frame}
    (mode : options.raw.rawMode = .icmp) (role : options.raw.programMode = .server)
    (returned : Returns (recvSaferMulti conn) before (next, frames) after) :
    Advances conn next before after := by
  simp only [recvSaferMulti, Returns.bind_iff] at returned
  obtain ⟨⟨rawInfo, payload⟩, middle, one, returned⟩ := returned
  obtain ⟨logged, -, -, heardFrom, -⟩ := recvRawPayload_logged one
  have buffered := (recvRawPayload_unsent _ _ _ _ one).packetBuf
  have kept : Advances conn { conn with rawInfo } before middle :=
    ⟨rfl, rfl, rfl, heardFrom.destination, .inl (by
      rw [RawInfo.echoNumbers, heardFrom.sendInfo, RawInfo.echoNumbers])⟩
  cases payload with
  | none =>
    obtain ⟨same, rfl⟩ := Returns.pure_iff.mp returned
    obtain ⟨rfl, rfl⟩ := Prod.mk.inj same
    exact kept
  | some payload =>
    have heard := recvRawPayload_heard mode one
    rw [← buffered] at heard
    dsimp only at returned
    split at returned
    · simp only [Returns.bind_iff, Returns.pure_iff, Prod.mk.injEq] at returned
      obtain ⟨⟨parsed, frame⟩, _, two, ⟨rfl, rfl⟩, rfl⟩ := returned
      obtain ⟨events, more⟩ := (reservedParseSafer_receipt two).logged
      exact kept.trans (reservedParseSafer_advances mode role two heard).1 logged more buffered
    · obtain ⟨events, more⟩ := (recvFrames_receives returned).logged
      exact kept.trans (recvFrames_advances mode role returned heard) logged more buffered

end Icmp

end Udp2raw
