import Udp2raw.Network.RoundTrip

/-!
# The numbers of TCP segments

A segment says where it begins, what it acknowledges, whether it is a `SYN` and how much it
carries. The parser stores exactly that, whatever else the buffer holds, and a segment on the
wire says what its sender put into it.
-/
namespace Udp2raw

variable {v : IpVersion} {config : RawConfig v}

/-- What a TCP segment says about its place in the stream. -/
structure TcpNumbers where
  /-- Where it begins. -/
  seq : UInt32
  /-- What it acknowledges. -/
  ackSeq : UInt32
  /-- Whether it is a `SYN`. -/
  syn : Bool
  /-- How many bytes it carries. -/
  dataLen : Nat
  deriving DecidableEq

/-- The numbers of a captured segment. -/
def Capture.tcpNumbers (v : IpVersion) (capture : Capture) : TcpNumbers :=
  let header := ipHeaderLen v capture
  ⟨capture.u32 (header + 4), capture.u32 (header + 8), tcpFlag capture header 1,
    ipTotalLen v capture - header - (capture.read (header + 12)).toNat / 16 * 4⟩

/-- The numbers that were stored of a segment. -/
def PacketInfo.tcpNumbers (info : PacketInfo v) : TcpNumbers :=
  ⟨info.seq, info.ackSeq, info.syn, info.dataLen⟩

/-! ### Receiving -/

/-- The rest of a packet is still in the buffer. -/
theorem Capture.truncate_read (capture : Capture) (length : Nat) :
    (capture.truncate length).read = capture.read := by
  funext offset
  show (capture.packet.take length).getD offset (capture.read offset) = capture.read offset
  simp only [List.getD, List.getElem?_take]
  split
  · cases byte : capture.packet[offset]? with
    | none => rfl
    | some byte => simp [Capture.read, byte]
  · rfl

/-- What is read of a packet does not depend on where it was cut. -/
theorem Capture.truncate_tcpNumbers (capture : Capture) (length : Nat) :
    (capture.truncate length).tcpNumbers v = capture.tcpNumbers v := by
  have bytes : (capture.truncate length).bytes = capture.bytes := by
    funext offset size
    rw [Capture.bytes, Capture.bytes, Capture.truncate_read]
  have short (offset : Nat) : (capture.truncate length).u16 offset = capture.u16 offset := by
    rw [Capture.u16, Capture.u16, bytes]
  have long (offset : Nat) : (capture.truncate length).u32 offset = capture.u32 offset := by
    rw [Capture.u32, Capture.u32, bytes]
  have header : ipHeaderLen v (capture.truncate length) = ipHeaderLen v capture := by
    cases v with
    | ipv4 => rw [ipHeaderLen, ipHeaderLen, Capture.truncate_read]
    | ipv6 => rfl
  have total : ipTotalLen v (capture.truncate length) = ipTotalLen v capture := by
    cases v with
    | ipv4 => rw [ipTotalLen, ipTotalLen, short]
    | ipv6 => rw [ipTotalLen, ipTotalLen, short, header]
  simp only [Capture.tcpNumbers, header, total, long, tcpFlag, Capture.truncate_read]

/-- `recv_raw_tcp` stores the numbers of the segment. -/
theorem recvRawTcp_numbers {filterPort : UInt16} {capture : Capture} {raw next : RawInfo config}
    {segment : Segment}
    (received : recvRawTcp config filterPort capture raw = (next, .payload segment)) :
    next.recvInfo.tcpNumbers = capture.tcpNumbers v ∧ next.sendInfo = raw.sendInfo := by
  unfold recvRawTcp at received
  cases inner : recvRawIp config capture raw with
  | mk middle ip =>
    cases ip with
    | none => simp [inner] at received
    | some ip =>
      obtain ⟨-, rfl, rfl⟩ := recvRawIp_eq_some_iff.mp inner
      simp only [inner] at received
      split_ifs at received
      all_goals simp only [Prod.mk.injEq, reduceCtorEq, and_false] at received
      obtain ⟨rfl, -⟩ := received
      refine ⟨?_, ?_⟩
      · rw [PacketInfo.tcpNumbers, RawInfo.storeTcp_recvInfo]
        rfl
      · simp only [RawInfo.storeTcp, RawInfo.receiveRst]
        split_ifs <;> rfl

/-- A look at a segment tells whether it is a `SYN`. -/
theorem peekRaw_syn {capture : Capture} {raw peeked : RawInfo config}
    (mode : config.rawMode = .faketcp) (looked : peekRaw config capture raw = (peeked, true)) :
    peeked.recvInfo.syn = (capture.tcpNumbers v).syn := by
  unfold peekRaw at looked
  cases inner : recvRawIp config capture raw with
  | mk middle ip =>
    cases ip with
    | none => simp [inner] at looked
    | some ip =>
      obtain ⟨-, rfl, rfl⟩ := recvRawIp_eq_some_iff.mp inner
      simp only [inner, mode] at looked
      split_ifs at looked
      all_goals simp only [Prod.mk.injEq, Bool.false_eq_true, and_false] at looked
      obtain ⟨rfl, -⟩ := looked
      rfl

/-- `recv_raw_ip` leaves the reserved number alone. -/
theorem recvRawIp_reserved (capture : Capture) (raw : RawInfo config) :
    (recvRawIp config capture raw).1.reservedSendSeq = raw.reservedSendSeq := by
  unfold recvRawIp
  dsimp only
  split_ifs <;> rfl

/-- `recv_raw_tcp` leaves the reserved number alone. -/
theorem recvRawTcp_reserved (filterPort : UInt16) (capture : Capture) (raw : RawInfo config) :
    (recvRawTcp config filterPort capture raw).1.reservedSendSeq = raw.reservedSendSeq := by
  rw [← recvRawIp_reserved capture raw]
  unfold recvRawTcp
  split
  · rename_i inner
    rw [inner]
  · rename_i inner
    rw [inner]
    dsimp only
    split_ifs
    all_goals first | rfl | (simp only [RawInfo.storeTcp, RawInfo.receiveRst]; split_ifs <;> rfl)

/-! ### Sending -/

section Sent

variable {info : PacketInfo v} {ipId : UInt16} {env : SendEnv} {payload : Bytes} {check : Nat}
  {stale : Nat → UInt8}

/-- The length of the network header of a packet on the wire can be read from it. -/
theorem wireHeader_headerLen (segment : Bytes) :
    ipHeaderLen v ⟨wireHeader config info ipId segment.length ++ segment, stale⟩ =
      v.headerSize := by
  cases v with
  | ipv4 =>
    have first : (⟨wireHeader config info ipId segment.length ++ segment, stale⟩ :
        Capture).read 0 = 0x45 := rfl
    rw [ipHeaderLen, first]
    rfl
  | ipv6 => rfl

/-- The segment of a packet on the wire lies behind its network header. -/
theorem wireHeader_drop (segment : Bytes) (place : Nat) :
    (wireHeader config info ipId segment.length ++ segment).drop (v.headerSize + place) =
      segment.drop place := by
  rw [← List.drop_drop, List.drop_left' (wireHeader_length ..)]

/-- The flag of a `SYN` in the flag byte. -/
theorem tcpFlags_syn (info : PacketInfo v) : (tcpFlags info).toNat.testBit 1 = info.syn := by
  cases syn : info.syn <;> cases ack : info.ack <;> cases psh : info.psh <;>
    simp only [tcpFlags, syn, ack, psh] <;> decide

/-- A sent segment on the wire says where it begins, what it acknowledges and whether it is a
`SYN`, and unless it is too long for an IP packet also how much it carries. -/
theorem wire_tcpNumbers (config : RawConfig v) (info : PacketInfo v) (ipId : UInt16) (env : SendEnv)
    (payload : Bytes) (check : Nat) (stale : Nat → UInt8) :
    let segment := tcpSegment info env payload check
    let numbers :=
      Capture.tcpNumbers v ⟨wireHeader config info ipId segment.length ++ segment, stale⟩
    numbers.seq = info.seq ∧ numbers.ackSeq = info.ackSeq ∧ numbers.syn = info.syn ∧
      (v.headerSize + segment.length < 65536 → numbers.dataLen = payload.length) := by
  intro segment numbers
  have header : ipHeaderLen v ⟨wireHeader config info ipId segment.length ++ segment, stale⟩ =
      v.headerSize := wireHeader_headerLen segment
  have drop (place : Nat) : (wireHeader config info ipId segment.length ++ segment).drop
      (v.headerSize + place) = segment.drop place := wireHeader_drop segment place
  have doff : (⟨wireHeader config info ipId segment.length ++ segment, stale⟩ : Capture).read
      (v.headerSize + 12) = UInt8.ofNat (16 * tcpDoff info.syn) :=
    Capture.read_field _ (by
      rw [drop]
      simp [segment, tcpSegment, List.drop_append, List.drop_of_length_le])
  have flags : (⟨wireHeader config info ipId segment.length ++ segment, stale⟩ : Capture).read
      (v.headerSize + 13) = tcpFlags info :=
    Capture.read_field _ (by
      rw [drop]
      simp [segment, tcpSegment, List.drop_append, List.drop_of_length_le])
  simp only [numbers, Capture.tcpNumbers, header, tcpFlag, flags, doff]
  refine ⟨Capture.u32_field ?_, Capture.u32_field ?_, tcpFlags_syn info, fun fits => ?_⟩
  · rw [drop]
    simp [segment, tcpSegment, List.drop_append, List.drop_of_length_le]
  · rw [drop]
    simp [segment, tcpSegment, List.drop_append, List.drop_of_length_le]
  · rw [(wire_onWire config info ipId segment stale fits).totalLen]
    have length : segment.length = tcpDoff info.syn * 4 + payload.length := by
      rw [show segment = _ from tcpSegment_eq info env payload check, List.length_append,
        tcpHeader_length]
    have words : (UInt8.ofNat (16 * tcpDoff info.syn)).toNat / 16 = tcpDoff info.syn := by
      cases info.syn <;> rfl
    rw [words, length]
    omega

end Sent

end Udp2raw
