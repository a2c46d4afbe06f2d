import Udp2raw.Network.Send
import Udp2raw.Network.Receive

/-!
# The peer of a connection

The server files a connection under the address that its packets come from. A look at a
packet reads the address that the parsers then store, and no other function of the packet
layer changes where a connection receives from or sends to.
-/
namespace Udp2raw

variable {v : IpVersion} {config : RawConfig v}

/-- `address_t` for the peers of a raw connection. -/
structure Address (v : IpVersion) where
  /-- The address. -/
  ip : Ip v
  /-- The port, or the identifier of an echo packet. -/
  port : UInt16

/-- Addresses are compared byte by byte. -/
instance : DecidableEq (Address v) := fun one other =>
  decidable_of_iff (one.ip.toList = other.ip.toList ∧ one.port = other.port) (by
    cases one
    cases other
    simp [Vector.toList_inj])

/-- The address that the last packet came from. -/
def RawInfo.source (raw : RawInfo config) : Address v :=
  ⟨raw.recvInfo.newSrcIp, raw.recvInfo.srcPort⟩

/-- The address that the next packet goes to. -/
def RawInfo.destination (raw : RawInfo config) : Address v :=
  ⟨raw.sendInfo.newDstIp, raw.sendInfo.dstPort⟩

/-- Two states of a connection with the same peer. -/
structure SamePeer (before after : RawInfo config) : Prop where
  /-- It receives from the same address. -/
  source : after.source = before.source
  /-- It sends to the same address. -/
  destination : after.destination = before.destination
  /-- It looks at packets as before. -/
  peek : after.peek = before.peek

/-- A connection that receives from an address still does, and sends to the same one. -/
structure HeardFrom (addr : Address v) (before after : RawInfo config) : Prop where
  /-- Each part of the source is the old one or the address's. -/
  ip : after.recvInfo.newSrcIp = before.recvInfo.newSrcIp ∨ after.recvInfo.newSrcIp = addr.ip
  /-- Each part of the source is the old one or the address's. -/
  port : after.recvInfo.srcPort = before.recvInfo.srcPort ∨ after.recvInfo.srcPort = addr.port
  /-- The side that sends is untouched. -/
  sendInfo : after.sendInfo = before.sendInfo
  /-- It looks at packets as before. -/
  peek : after.peek = before.peek

namespace SamePeer

/-- Every connection has its own peer. -/
theorem refl (raw : RawInfo config) : SamePeer raw raw := ⟨rfl, rfl, rfl⟩

/-- Two steps that keep the peer. -/
theorem trans {a b c : RawInfo config} (one : SamePeer a b) (two : SamePeer b c) : SamePeer a c :=
  ⟨two.source.trans one.source, two.destination.trans one.destination, two.peek.trans one.peek⟩

end SamePeer

namespace HeardFrom

variable {addr : Address v} {before after : RawInfo config}

/-- Nothing was heard. -/
theorem refl (raw : RawInfo config) : HeardFrom addr raw raw := ⟨.inl rfl, .inl rfl, rfl, rfl⟩

/-- A connection whose source is the address keeps it. -/
theorem source (heard : HeardFrom addr before after) (same : before.source = addr) :
    after.source = addr := by
  have ip := congrArg Address.ip same
  have port := congrArg Address.port same
  simp only [RawInfo.source] at ip port ⊢
  rw [heard.ip.elim (·.trans ip) id, heard.port.elim (·.trans port) id]

/-- The destination is untouched. -/
theorem destination (heard : HeardFrom addr before after) :
    after.destination = before.destination := by
  rw [RawInfo.destination, heard.sendInfo, RawInfo.destination]

end HeardFrom

section Sending

variable {env : SendEnv} {raw : RawInfo config} {payload : Bytes} {sent : Sent config}

/-- The network layer sends without touching the connection. -/
theorem sendRawIp_raw (ran : sendRawIp config env raw payload = .ok sent) : sent.raw = raw := by
  unfold sendRawIp at ran
  split at ran
  · cases allowed : assert (0 ≤ config.maxRstAllowed) "max_rst_allowed >= 0" with
    | error fault => simp [allowed, bind, Except.bind] at ran
    | ok _ =>
      simp only [allowed, bind, Except.bind, Except.ok.injEq] at ran
      rw [← ran]
  · simp only [Except.ok.injEq] at ran
    rw [← ran]

/-- A disabled connection has a limit of resets, so that sending never stops the process. -/
theorem sendRawIp_runs (env : SendEnv) (raw : RawInfo config) (payload : Bytes) :
    ∃ sent, sendRawIp config env raw payload = .ok sent := by
  unfold sendRawIp
  split
  case isTrue disabled =>
    exact ⟨⟨raw, none, 0⟩, by simp [assert, raw.disabledAllowed disabled, bind, Except.bind]⟩
  case isFalse => exact ⟨_, rfl⟩

/-- Sending keeps the peer. -/
theorem sendRaw0_peer (ran : sendRaw0 config env raw payload = .ok sent) :
    SamePeer raw sent.raw := by
  unfold sendRaw0 at ran
  split at ran
  · obtain rfl := Except.ok.inj ran
    exact .refl _
  · cases mode : config.rawMode <;> simp only [mode] at ran
    case faketcp =>
      simp only [sendRawTcp, bind, Except.bind] at ran
      split at ran
      · contradiction
      · rename_i middle inner
        have same := sendRawIp_raw inner
        split at ran <;> obtain rfl := Except.ok.inj ran <;> rw [← same] <;> exact ⟨rfl, rfl, rfl⟩
    case udp =>
      simp only [sendRawUdp, bind, Except.bind] at ran
      split at ran
      · obtain rfl := Except.ok.inj ran
        exact .refl _
      · split at ran
        · contradiction
        · rename_i middle inner
          have same := sendRawIp_raw inner
          split at ran <;> obtain rfl := Except.ok.inj ran <;> rw [← same] <;> exact ⟨rfl, rfl, rfl⟩
    case icmp =>
      simp only [sendRawIcmp, bind, Except.bind] at ran
      split at ran
      · contradiction
      · rename_i middle inner
        have same := sendRawIp_raw inner
        split at ran <;> obtain rfl := Except.ok.inj ran <;> rw [← same] <;> exact ⟨rfl, rfl, rfl⟩

/-- Sending never stops the process. -/
theorem sendRaw0_runs (env : SendEnv) (raw : RawInfo config) (payload : Bytes) :
    ∃ sent, sendRaw0 config env raw payload = .ok sent := by
  unfold sendRaw0
  split
  · exact ⟨_, rfl⟩
  · cases config.rawMode
    case faketcp =>
      obtain ⟨sent, ran⟩ := sendRawIp_runs env raw (tcpSegment raw.sendInfo env payload
        (segmentChecksum raw.sendInfo ipprotoTcp (tcpSegment raw.sendInfo env payload)))
      simp only [sendRawTcp, ran, bind, Except.bind]
      split <;> exact ⟨_, rfl⟩
    case udp =>
      obtain ⟨sent, ran⟩ := sendRawIp_runs env raw (udpSegment raw.sendInfo payload
        (segmentChecksum raw.sendInfo ipprotoUdp (udpSegment raw.sendInfo payload)))
      simp only [sendRawUdp, ran, bind, Except.bind]
      split
      · exact ⟨_, rfl⟩
      · split <;> exact ⟨_, rfl⟩
    case icmp =>
      obtain ⟨sent, ran⟩ := sendRawIp_runs env raw (icmpSegment config raw.sendInfo payload
        (icmpSegmentChecksum raw.sendInfo (icmpSegment config raw.sendInfo payload)))
      simp only [sendRawIcmp, ran, bind, Except.bind]
      split <;> exact ⟨_, rfl⟩

/-- The bookkeeping after a send keeps the peer. -/
theorem afterSendRaw0_peer (env : SendEnv) (raw : RawInfo config) :
    SamePeer raw (afterSendRaw0 env raw) := by
  unfold afterSendRaw0
  dsimp only
  repeat' split
  all_goals exact ⟨rfl, rfl, rfl⟩

/-- The bookkeeping after a receipt keeps the peer. -/
theorem afterRecvRaw0_peer (raw : RawInfo config) : SamePeer raw (afterRecvRaw0 raw) := by
  unfold afterRecvRaw0
  dsimp only
  repeat' split
  all_goals exact ⟨rfl, rfl, rfl⟩

end Sending

section Receiving

variable {filterPort : UInt16} {capture : Capture} {raw next look seen : RawInfo config}
  {received : Received}

/-- The address that a packet claims to come from. -/
def Capture.sourceIp (v : IpVersion) (capture : Capture) : Ip v :=
  match v with
  | .ipv4 => capture.ip .ipv4 12
  | .ipv6 => capture.ip .ipv6 8

/-- The network layer stores the claimed address. -/
theorem readIp_newSrcIp (capture : Capture) (info : PacketInfo v) :
    (info.readIp capture).newSrcIp = capture.sourceIp v := by
  cases v <;> rfl

/-- The network layer stores no port. -/
theorem readIp_srcPort (capture : Capture) (info : PacketInfo v) :
    (info.readIp capture).srcPort = info.srcPort := by
  cases v <;> rfl

/-- The network layer stores the claimed address or nothing. -/
theorem recvRawIp_heard {ip : Option Segment} (port : UInt16)
    (ran : recvRawIp config capture raw = (next, ip)) :
    HeardFrom ⟨capture.sourceIp v, port⟩ raw next ∧
      (ip.isSome → next.recvInfo.newSrcIp = capture.sourceIp v) := by
  have read : HeardFrom ⟨capture.sourceIp v, port⟩ raw
      { raw with recvInfo := raw.recvInfo.readIp capture } :=
    ⟨.inr (readIp_newSrcIp capture _), .inl (readIp_srcPort capture _), rfl, rfl⟩
  cases ip with
  | some segment =>
    obtain ⟨-, rfl, -⟩ := recvRawIp_eq_some_iff.mp ran
    exact ⟨read, fun _ => readIp_newSrcIp capture _⟩
  | none =>
    refine ⟨?_, nofun⟩
    unfold recvRawIp at ran
    dsimp only at ran
    repeat' split at ran
    all_goals
      simp only [Prod.mk.injEq, reduceCtorEq, and_true, and_false] at ran
      try subst ran
    all_goals first | exact .refl _ | exact read

/-- Where a transport packet of a mode has the port of its sender. -/
def RawMode.portOffset : RawMode → Nat
  | .faketcp | .udp => 0
  | .icmp => 4

/-- The address that a packet comes from. -/
def Capture.source (config : RawConfig v) (capture : Capture) : Address v :=
  ⟨capture.sourceIp v, capture.u16 (ipHeaderLen v capture + config.rawMode.portOffset)⟩

/-- The options of a TCP header do not name an address. -/
theorem parseTcpOptions_newSrcIp (capture : Capture) (ptr optionEnd : Nat) (info : PacketInfo v) :
    (parseTcpOptions capture ptr optionEnd info).2.newSrcIp = info.newSrcIp := by
  fun_induction parseTcpOptions capture ptr optionEnd info <;> simp_all

/-- Storing a TCP packet leaves the side that sends alone. -/
theorem RawInfo.storeTcp_sendInfo (raw : RawInfo config) (info : PacketInfo v) (dataLen : Nat) :
    (raw.storeTcp info dataLen).sendInfo = raw.sendInfo := by
  simp only [RawInfo.storeTcp, RawInfo.receiveRst]
  repeat' split
  all_goals rfl

/-- Storing a TCP packet keeps the way packets are looked at. -/
theorem RawInfo.storeTcp_peek (raw : RawInfo config) (info : PacketInfo v) (dataLen : Nat) :
    (raw.storeTcp info dataLen).peek = raw.peek := by
  simp only [RawInfo.storeTcp, RawInfo.receiveRst]
  repeat' split
  all_goals rfl

/-- What a parser may do with the source of a connection. -/
def SourceKept (config : RawConfig v) (capture : Capture) (raw : RawInfo config)
    (result : RawInfo config × Received) : Prop :=
  HeardFrom (capture.source config) raw result.1 ∧
    ∀ payload, result.2 = .payload payload → result.1.source = capture.source config

/-- A dropped packet may leave its address behind. -/
theorem sourceKept_of_dropped (heard : HeardFrom (capture.source config) raw next)
    (dropped : ∀ payload, received ≠ .payload payload) :
    SourceKept config capture raw (next, received) :=
  ⟨heard, fun payload same => absurd same (dropped payload)⟩

/-- A payload comes from the address of its packet. -/
theorem sourceKept_of_payload {segment : Segment} (sendInfo : next.sendInfo = raw.sendInfo)
    (peek : next.peek = raw.peek) (source : next.source = capture.source config) :
    SourceKept config capture raw (next, .payload segment) :=
  ⟨⟨.inr (congrArg Address.ip source), .inr (congrArg Address.port source), sendInfo, peek⟩,
    fun _ _ => source⟩

/-- `recv_raw_tcp` stores the address of the packet. -/
theorem recvRawTcp_source (mode : config.rawMode = .faketcp) :
    SourceKept config capture raw (recvRawTcp config filterPort capture raw) := by
  unfold recvRawTcp
  cases inner : recvRawIp config capture raw with
  | mk middle ip =>
    obtain ⟨heard, ipSource⟩ := recvRawIp_heard (capture.source config).port inner
    cases ip with
    | none => exact sourceKept_of_dropped heard nofun
    | some ip =>
      dsimp only
      split_ifs
      all_goals try exact sourceKept_of_dropped heard nofun
      obtain ⟨-, -, place⟩ := recvRawIp_eq_some_iff.mp inner
      apply sourceKept_of_payload
      · rw [RawInfo.storeTcp_sendInfo]
        exact heard.sendInfo
      · rw [RawInfo.storeTcp_peek]
        exact heard.peek
      · have address := ipSource rfl
        simp only [RawInfo.source, RawInfo.storeTcp_recvInfo, PacketInfo.readTcp, parseTcpOption,
          parseTcpOptions_newSrcIp, address, Capture.source, mode, RawMode.portOffset, place,
          Nat.add_zero]

/-- `recv_raw_udp` stores the address of the packet. -/
theorem recvRawUdp_source (mode : config.rawMode = .udp) :
    SourceKept config capture raw (recvRawUdp config filterPort capture raw) := by
  unfold recvRawUdp
  cases inner : recvRawIp config capture raw with
  | mk middle ip =>
    obtain ⟨heard, ipSource⟩ := recvRawIp_heard (capture.source config).port inner
    cases ip with
    | none => exact sourceKept_of_dropped heard nofun
    | some ip =>
      dsimp only
      split_ifs
      all_goals try exact sourceKept_of_dropped heard nofun
      obtain ⟨-, -, place⟩ := recvRawIp_eq_some_iff.mp inner
      have address := ipSource rfl
      apply sourceKept_of_payload
      · exact heard.sendInfo
      · exact heard.peek
      · simp only [RawInfo.source, address, Capture.source, mode, RawMode.portOffset, place,
          Nat.add_zero]

/-- `recv_raw_icmp` stores the address of the packet. -/
theorem recvRawIcmp_source (mode : config.rawMode = .icmp) :
    SourceKept config capture raw (recvRawIcmp config capture raw) := by
  unfold recvRawIcmp
  cases inner : recvRawIp config capture raw with
  | mk middle ip =>
    obtain ⟨heard, ipSource⟩ := recvRawIp_heard (capture.source config).port inner
    cases ip with
    | none => exact sourceKept_of_dropped heard nofun
    | some ip =>
      obtain ⟨-, -, place⟩ := recvRawIp_eq_some_iff.mp inner
      have address := ipSource rfl
      have port : capture.u16 (ip.offset + 4) = (capture.source config).port := by
        simp only [Capture.source, mode, RawMode.portOffset, place]
      have stored : HeardFrom (capture.source config) raw { middle with
          recvInfo := { middle.recvInfo with
            srcPort := capture.u16 (ip.offset + 4), dstPort := capture.u16 (ip.offset + 4)
            myIcmpSeq := capture.u16 (ip.offset + 6) } } :=
        ⟨.inr address, .inr port, heard.sendInfo, heard.peek⟩
      dsimp only
      split_ifs
      · exact sourceKept_of_dropped heard nofun
      · exact sourceKept_of_dropped heard nofun
      · exact sourceKept_of_dropped heard nofun
      · exact sourceKept_of_dropped stored nofun
      · exact sourceKept_of_dropped stored nofun
      · exact sourceKept_of_dropped stored nofun
      · apply sourceKept_of_payload
        · exact heard.sendInfo
        · exact heard.peek
        · simp only [RawInfo.source, address, port]
          rfl

/-- `recv_raw0` stores the address of the packet. -/
theorem recvRaw0_source (config : RawConfig v) (filterPort : UInt16) (capture : Capture)
    (raw : RawInfo config) :
    SourceKept config capture raw (recvRaw0 config filterPort capture raw) := by
  unfold recvRaw0
  cases mode : config.rawMode with
  | faketcp => exact recvRawTcp_source mode
  | udp => exact recvRawUdp_source mode
  | icmp => exact recvRawIcmp_source mode

/-- A successful look at a packet sees where it comes from. -/
theorem peekRaw_source (looked : peekRaw config capture look = (seen, true)) :
    seen.source = capture.source config := by
  unfold peekRaw at looked
  cases inner : recvRawIp config capture look with
  | mk middle ip =>
    obtain ⟨-, ipSource⟩ := recvRawIp_heard (capture.source config).port inner
    cases ip with
    | none => simp [inner] at looked
    | some ip =>
      obtain ⟨-, -, place⟩ := recvRawIp_eq_some_iff.mp inner
      have address := ipSource rfl
      cases mode : config.rawMode <;>
        simp only [inner, mode] at looked <;> split_ifs at looked <;>
        simp only [Prod.mk.injEq, reduceCtorEq, and_false, and_true] at looked <;>
        subst looked <;>
        simp [RawInfo.source, address, Capture.source, mode, RawMode.portOffset, place]

end Receiving

end Udp2raw
