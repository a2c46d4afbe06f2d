import Udp2raw.Data.PacketFilter
import Udp2raw.Network.Receive

/-!
# The packet filters

The programs that `init_filter` attaches to the capture socket, and how they agree with the
parsers: a filter accepts what the parser of its mode accepts, as far as its IP header says, and a
filter with a port accepts nothing of another protocol or for another port.
-/
namespace Udp2raw

open PacketFilter

variable {v : IpVersion} {config : RawConfig v}

/-! ### The programs -/

/-- `code_tcp`. -/
def codeTcp : Filter :=
  [⟨0x30, 0, 0, 0x00000009⟩,
    ⟨0x15, 0, 6, 0x00000006⟩,
    ⟨0x28, 0, 0, 0x00000006⟩,
    ⟨0x45, 4, 0, 0x00001fff⟩,
    ⟨0xb1, 0, 0, 0x00000000⟩,
    ⟨0x48, 0, 0, 0x00000002⟩,
    ⟨0x15, 0, 1, 0x0000fffe⟩,
    ⟨0x6, 0, 0, 0x0000ffff⟩,
    ⟨0x6, 0, 0, 0x00000000⟩]

/-- `code_tcp_port_index`. -/
def codeTcpPortIndex : Nat := 6

/-- `code_tcp6`. -/
def codeTcp6 : Filter :=
  [⟨0x30, 0, 0, 0x00000006⟩,
    ⟨0x15, 0, 3, 0x00000006⟩,
    ⟨0x28, 0, 0, 0x0000002a⟩,
    ⟨0x15, 0, 1, 0x0000fffe⟩,
    ⟨0x6, 0, 0, 0x00040000⟩,
    ⟨0x6, 0, 0, 0x00000000⟩]

/-- `code_tcp6_port_index`. -/
def codeTcp6PortIndex : Nat := 3

/-- `code_udp`. -/
def codeUdp : Filter :=
  [⟨0x30, 0, 0, 0x00000009⟩,
    ⟨0x15, 0, 6, 0x00000011⟩,
    ⟨0x28, 0, 0, 0x00000006⟩,
    ⟨0x45, 4, 0, 0x00001fff⟩,
    ⟨0xb1, 0, 0, 0x00000000⟩,
    ⟨0x48, 0, 0, 0x00000002⟩,
    ⟨0x15, 0, 1, 0x0000fffe⟩,
    ⟨0x6, 0, 0, 0x0000ffff⟩,
    ⟨0x6, 0, 0, 0x00000000⟩]

/-- `code_udp_port_index`. -/
def codeUdpPortIndex : Nat := 6

/-- `code_udp6`. -/
def codeUdp6 : Filter :=
  [⟨0x30, 0, 0, 0x00000006⟩,
    ⟨0x15, 0, 3, 0x00000011⟩,
    ⟨0x28, 0, 0, 0x0000002a⟩,
    ⟨0x15, 0, 1, 0x0000fffe⟩,
    ⟨0x6, 0, 0, 0x00040000⟩,
    ⟨0x6, 0, 0, 0x00000000⟩]

/-- `code_udp6_port_index`. -/
def codeUdp6PortIndex : Nat := 3

/-- `code_icmp`. -/
def codeIcmp : Filter :=
  [⟨0x30, 0, 0, 0x00000009⟩,
    ⟨0x15, 0, 1, 0x00000001⟩,
    ⟨0x6, 0, 0, 0x0000ffff⟩,
    ⟨0x6, 0, 0, 0x00000000⟩]

/-- `code_icmp6`. -/
def codeIcmp6 : Filter :=
  [⟨0x30, 0, 0, 0x00000006⟩,
    ⟨0x15, 3, 0, 0x0000003a⟩,
    ⟨0x15, 0, 3, 0x0000002c⟩,
    ⟨0x30, 0, 0, 0x00000028⟩,
    ⟨0x15, 0, 1, 0x0000003a⟩,
    ⟨0x6, 0, 0, 0x00040000⟩,
    ⟨0x6, 0, 0, 0x00000000⟩]

/-- A port is patched into an instruction of a program. -/
def patchPort (program : Filter) (index : Nat) (port : UInt16) : Filter :=
  program.modify index fun instruction => { instruction with k := port.toNat }

/-- The program that `init_filter` attaches. -/
def filterProgram (v : IpVersion) (rawMode : RawMode) (port : UInt16) : Filter :=
  match rawMode, v with
  | .faketcp, .ipv4 => patchPort codeTcp codeTcpPortIndex port
  | .faketcp, .ipv6 => patchPort codeTcp6 codeTcp6PortIndex port
  | .udp, .ipv4 => patchPort codeUdp codeUdpPortIndex port
  | .udp, .ipv6 => patchPort codeUdp6 codeUdp6PortIndex port
  | .icmp, .ipv4 => codeIcmp
  | .icmp, .ipv6 => codeIcmp6

/-- The programs for a port over version four differ in the protocol only. -/
def portFilter4 (protocol port : Nat) : Filter :=
  [⟨0x30, 0, 0, 9⟩, ⟨0x15, 0, 6, protocol⟩, ⟨0x28, 0, 0, 6⟩, ⟨0x45, 4, 0, 0x1fff⟩,
    ⟨0xb1, 0, 0, 0⟩, ⟨0x48, 0, 0, 2⟩, ⟨0x15, 0, 1, port⟩, ⟨0x6, 0, 0, 0xffff⟩, ⟨0x6, 0, 0, 0⟩]

/-- And so do those over version six. -/
def portFilter6 (protocol port : Nat) : Filter :=
  [⟨0x30, 0, 0, 6⟩, ⟨0x15, 0, 3, protocol⟩, ⟨0x28, 0, 0, 42⟩, ⟨0x15, 0, 1, port⟩,
    ⟨0x6, 0, 0, 0x40000⟩, ⟨0x6, 0, 0, 0⟩]

/-! ### What the programs accept -/

section Programs

variable {packet : Bytes}

/-- A program for a port over version four accepts unfragmented packets of the protocol for the
port, and stops at a load behind the end. -/
theorem accepts_portFilter4 (protocol port : Nat) :
    accepts (portFilter4 protocol port) packet =
      packet[9]?.elim (some 0) fun kind =>
        if kind.toNat = protocol then
          (half packet 6).elim (some 0) fun fragment =>
            if fragment % 8192 = 0 then
              packet[0]?.elim (some 0) fun first =>
                (half packet (4 * (first.toNat % 16) + 2)).elim (some 0) fun found =>
                  if found = port then some 0xffff else some 0
            else some 0
        else some 0 := by
  have mask (fragment : Nat) : (fragment &&& 0x1fff ≠ 0) ↔ ¬fragment % 8192 = 0 := by
    rw [show 0x1fff = 2 ^ 13 - 1 by rfl, Nat.and_two_pow_sub_one_eq_mod]
  simp only [accepts, portFilter4, exec_byte, exec_equal, exec_half, exec_common, exec_index,
    exec_indexed, exec_return, mask, List.drop_zero, List.drop_succ_cons, ite_not]

/-- A program for a port over version six accepts packets of the protocol for the port. -/
theorem accepts_portFilter6 (protocol port : Nat) :
    accepts (portFilter6 protocol port) packet =
      packet[6]?.elim (some 0) fun kind =>
        if kind.toNat = protocol then
          (half packet 42).elim (some 0) fun found =>
            if found = port then some 0x40000 else some 0
        else some 0 := by
  simp only [accepts, portFilter6, exec_byte, exec_equal, exec_half, exec_return, List.drop_zero,
    List.drop_succ_cons]

/-- The program for echo packets over version four looks at the protocol only. -/
theorem accepts_codeIcmp :
    accepts codeIcmp packet =
      packet[9]?.elim (some 0) fun kind => if kind.toNat = 1 then some 0xffff else some 0 := by
  simp only [accepts, codeIcmp, exec_byte, exec_equal, exec_return, List.drop_zero,
    List.drop_succ_cons]

/-- The program for echo packets over version six also looks behind a fragment header. -/
theorem accepts_codeIcmp6 :
    accepts codeIcmp6 packet =
      packet[6]?.elim (some 0) fun kind =>
        if kind.toNat = 58 then some 0x40000
        else if kind.toNat = 44 then
          packet[40]?.elim (some 0) fun next => if next.toNat = 58 then some 0x40000 else some 0
        else some 0 := by
  simp only [accepts, codeIcmp6, exec_byte, exec_equal, exec_return, List.drop_zero,
    List.drop_succ_cons]

/-- The programs for a port are the two with the protocol and the port filled in. -/
theorem filterProgram_port (v : IpVersion) (mode : RawMode) (ported : mode ≠ .icmp)
    (port : UInt16) :
    filterProgram v mode port = match v with
      | .ipv4 => portFilter4 (mode.protocol v).toNat port.toNat
      | .ipv6 => portFilter6 (mode.protocol v).toNat port.toNat := by
  cases mode with
  | faketcp => cases v <;> rfl
  | udp => cases v <;> rfl
  | icmp => exact absurd rfl ported

end Programs

/-! ### Loads -/

section Loads

variable (capture : Capture) {offset : Nat}

/-- A byte inside the packet. -/
theorem Capture.getElem?_packet (inside : offset < capture.packet.length) :
    capture.packet[offset]? = some (capture.read offset) := by
  simp [Capture.read, List.getElem?_eq_getElem inside]

/-- Two bytes inside the packet. -/
theorem Capture.half_packet (inside : offset + 2 ≤ capture.packet.length) :
    half capture.packet offset = some (capture.u16 offset).toNat := by
  have high := (capture.read offset).toNat_lt
  have low := (capture.read (offset + 1)).toNat_lt
  have number : BigEndian.decode (capture.bytes offset 2) =
      256 * (capture.read offset).toNat + (capture.read (offset + 1)).toNat := by
    simp [Capture.bytes, List.range_succ, BigEndian.decode]
    omega
  rw [half, capture.getElem?_packet (by omega), capture.getElem?_packet (by omega), Capture.u16,
    number, UInt16.toNat_ofNat_of_lt' (show _ < 2 ^ 16 by omega)]

/-- A byte that can be loaded is inside the packet. -/
theorem Capture.read_of_getElem? {byte : UInt8} (loaded : capture.packet[offset]? = some byte) :
    capture.read offset = byte := by
  simp [Capture.read, loaded]

/-- Two bytes that can be loaded are inside the packet. -/
theorem Capture.u16_of_half {word : Nat} (loaded : half capture.packet offset = some word) :
    (capture.u16 offset).toNat = word := by
  by_cases inside : offset + 2 ≤ capture.packet.length
  · exact Option.some.inj ((capture.half_packet inside).symm.trans loaded)
  · have none : capture.packet[offset + 1]? = none := by
      rw [List.getElem?_eq_none_iff]
      omega
    unfold half at loaded
    rw [none] at loaded
    cases first : capture.packet[offset]? <;> simp [first] at loaded

end Loads

/-! ### Agreement -/

/-- The fragment offset is zero, where there is one. -/
def Unfragmented (v : IpVersion) (capture : Capture) : Prop :=
  v = .ipv4 → (capture.u16 6).toNat % 8192 = 0

/-- The transport header is valid and complete, with the length that a TCP header claims. -/
def TransportComplete (config : RawConfig v) (capture : Capture) : Prop :=
  match config.rawMode with
  | .faketcp =>
    let length := (capture.read (ipHeaderLen v capture + 12)).toNat / 16 * 4
    tcpHeaderSize ≤ length ∧ ipHeaderLen v capture + length ≤ ipTotalLen v capture
  | .udp => ipHeaderLen v capture + udpHeaderSize ≤ ipTotalLen v capture
  | .icmp => ipHeaderLen v capture + icmpHeaderSize ≤ ipTotalLen v capture

/-- Where an IP header has the protocol. -/
def IpVersion.protocolOffset : IpVersion → Nat
  | .ipv4 => 9
  | .ipv6 => 6

variable {capture : Capture} {raw : RawInfo config} {port : UInt16}

/-- The parsers read the protocol there. -/
theorem readIp_protocol (info : PacketInfo v) :
    (info.readIp capture).protocol = capture.read v.protocolOffset := by
  cases v <;> rfl

/-- What a parser asks of a packet whose payload it returns. -/
structure ParserAccepts (config : RawConfig v) (port : UInt16) (capture : Capture)
    (raw : RawInfo config) : Prop where
  /-- The network layer accepts it. -/
  ip : IpAccepts config capture raw
  /-- It has the protocol of the mode. -/
  protocol : capture.read v.protocolOffset = config.rawMode.protocol v
  /-- It is for the port, in a mode with ports. -/
  ported : config.rawMode ≠ .icmp → capture.u16 (ipHeaderLen v capture + 2) = port

/-- A parser returns payloads of such packets only. -/
theorem recvRaw0_accepts {payload : Segment}
    (returned : (recvRaw0 config port capture raw).2 = .payload payload) :
    ParserAccepts config port capture raw := by
  cases inner : recvRawIp config capture raw with
  | mk next ip =>
    cases ip with
    | none =>
      exfalso
      unfold recvRaw0 at returned
      split at returned
      · simp [recvRawTcp, inner] at returned
      · simp [recvRawUdp, inner] at returned
      · simp [recvRawIcmp, inner] at returned
    | some ip =>
      obtain ⟨ipAccepts, rfl, rfl⟩ := recvRawIp_eq_some_iff.mp inner
      cases mode : config.rawMode with
      | faketcp =>
        simp only [recvRaw0, mode, recvRawTcp, inner, readIp_protocol] at returned
        split_ifs at returned with protocol offset whole other
        exact ⟨ipAccepts, by rw [mode]; exact not_not.mp protocol, fun _ => not_not.mp other⟩
      | udp =>
        simp only [recvRaw0, mode, recvRawUdp, inner, readIp_protocol] at returned
        split_ifs at returned with protocol short length other check
        exact ⟨ipAccepts, by rw [mode]; exact not_not.mp protocol, fun _ => not_not.mp other⟩
      | icmp =>
        simp only [recvRaw0, mode, recvRawIcmp, inner, readIp_protocol] at returned
        split_ifs at returned with protocol
        all_goals exact ⟨ipAccepts, by rw [mode]; exact not_not.mp protocol,
          fun ported => absurd mode ported⟩

/-- The port of a complete header lies inside the packet. -/
theorem TransportComplete.port_inside (complete : TransportComplete config capture) :
    ipHeaderLen v capture + 4 ≤ ipTotalLen v capture := by
  unfold TransportComplete at complete
  simp only [tcpHeaderSize, udpHeaderSize, icmpHeaderSize] at complete
  split at complete <;> omega

/-- A program accepts at least this much of a packet. -/
def Passes (program : Filter) (capture : Capture) (length : Nat) : Prop :=
  ∃ snap, accepts program capture.packet = some snap ∧ 0 < snap ∧ length ≤ snap

/-- Over version four the program of a mode accepts what its parser accepts. -/
theorem passes_ipv4 {config : RawConfig .ipv4} {raw : RawInfo config}
    (parser : ParserAccepts config port capture raw)
    (complete : TransportComplete config capture) (fragment : (capture.u16 6).toNat % 8192 = 0) :
    Passes (filterProgram .ipv4 config.rawMode port) capture (ipTotalLen .ipv4 capture) := by
  obtain ⟨ip, protocol, ported⟩ := parser
  have header : 20 ≤ capture.packet.length := ip.header
  have inside := complete.port_inside
  have whole := ip.whole
  have total := (capture.u16 2).toNat_lt
  refine ⟨0xffff, ?_, by decide, Nat.lt_succ_iff.mp total⟩
  by_cases echo : config.rawMode = .icmp
  · rw [echo] at protocol ⊢
    rw [show filterProgram .ipv4 .icmp port = codeIcmp by rfl, accepts_codeIcmp,
      capture.getElem?_packet (show 9 < _ by omega), Option.elim_some, if_pos]
    exact congrArg UInt8.toNat protocol
  · have place : ipHeaderLen .ipv4 capture = 4 * ((capture.read 0).toNat % 16) :=
      Nat.mul_comm _ _
    have kind : (capture.read 9).toNat = _ := congrArg UInt8.toNat protocol
    rw [filterProgram_port _ _ echo, accepts_portFilter4,
      capture.getElem?_packet (show 9 < _ by omega), Option.elim_some, if_pos kind,
      capture.half_packet (show 6 + 2 ≤ _ by omega), Option.elim_some, if_pos fragment,
      capture.getElem?_packet (show 0 < _ by omega), Option.elim_some, ← place,
      capture.half_packet (by omega), Option.elim_some,
      if_pos (congrArg UInt16.toNat (ported echo))]

/-- And so over version six. -/
theorem passes_ipv6 {config : RawConfig .ipv6} {raw : RawInfo config}
    (parser : ParserAccepts config port capture raw)
    (complete : TransportComplete config capture) :
    Passes (filterProgram .ipv6 config.rawMode port) capture (ipTotalLen .ipv6 capture) := by
  obtain ⟨ip, protocol, ported⟩ := parser
  have header : 40 ≤ capture.packet.length := ip.header
  have inside := complete.port_inside
  have whole := ip.whole
  have total := (capture.u16 4).toNat_lt
  have short : ipTotalLen .ipv6 capture ≤ 0x40000 := by
    show (capture.u16 4).toNat + 40 ≤ 0x40000
    omega
  refine ⟨0x40000, ?_, by decide, short⟩
  by_cases echo : config.rawMode = .icmp
  · rw [echo] at protocol ⊢
    rw [show filterProgram .ipv6 .icmp port = codeIcmp6 by rfl, accepts_codeIcmp6,
      capture.getElem?_packet (show 6 < _ by omega), Option.elim_some, if_pos]
    exact congrArg UInt8.toNat protocol
  · have place : ipHeaderLen .ipv6 capture + 2 = 42 := rfl
    have kind : (capture.read 6).toNat = _ := congrArg UInt8.toNat protocol
    rw [filterProgram_port _ _ echo, accepts_portFilter6,
      capture.getElem?_packet (show 6 < _ by omega), Option.elim_some, if_pos kind, ← place,
      capture.half_packet (by omega), Option.elim_some,
      if_pos (congrArg UInt16.toNat (ported echo))]

/-- A program that accepts has loaded what it asked for. -/
theorem loaded_of_accepted {α : Type} {load : Option α} {rest : α → Option Nat} {snap : Nat}
    (accepted : load.elim (some 0) rest = some snap) (positive : 0 < snap) :
    ∃ value, load = some value ∧ rest value = some snap := by
  cases load with
  | none =>
    obtain rfl := Option.some.inj accepted
    exact absurd positive (Nat.lt_irrefl 0)
  | some value => exact ⟨value, rfl, accepted⟩

/-- A program that accepts has found its condition true. -/
theorem holds_of_accepted {condition : Prop} [Decidable condition] {rest : Option Nat} {snap : Nat}
    (accepted : (if condition then rest else some 0) = some snap) (positive : 0 < snap) :
    condition ∧ rest = some snap := by
  split at accepted
  · exact ⟨‹_›, accepted⟩
  · obtain rfl := Option.some.inj accepted
    exact absurd positive (Nat.lt_irrefl 0)

/-- What a program for a port accepts has the protocol and is for the port. -/
theorem passes_port {v : IpVersion} {config : RawConfig v} {length : Nat}
    (ported : config.rawMode ≠ .icmp)
    (passes : Passes (filterProgram v config.rawMode port) capture length) :
    capture.read v.protocolOffset = config.rawMode.protocol v ∧
      capture.u16 (ipHeaderLen v capture + 2) = port := by
  obtain ⟨snap, accepted, positive, -⟩ := passes
  rw [filterProgram_port v _ ported] at accepted
  cases v with
  | ipv4 =>
    simp only [accepts_portFilter4] at accepted
    obtain ⟨kind, read, accepted⟩ := loaded_of_accepted accepted positive
    obtain ⟨protocol, accepted⟩ := holds_of_accepted accepted positive
    obtain ⟨_, -, accepted⟩ := loaded_of_accepted accepted positive
    obtain ⟨-, accepted⟩ := holds_of_accepted accepted positive
    obtain ⟨first, start, accepted⟩ := loaded_of_accepted accepted positive
    obtain ⟨found, loaded, accepted⟩ := loaded_of_accepted accepted positive
    obtain ⟨same, -⟩ := holds_of_accepted accepted positive
    have place : ipHeaderLen .ipv4 capture = 4 * (first.toNat % 16) := by
      rw [← capture.read_of_getElem? start]
      exact Nat.mul_comm _ _
    refine ⟨?_, ?_⟩
    · exact (capture.read_of_getElem? read).trans (UInt8.toNat.inj protocol)
    · rw [place]
      exact UInt16.toNat.inj ((capture.u16_of_half loaded).trans same)
  | ipv6 =>
    simp only [accepts_portFilter6] at accepted
    obtain ⟨kind, read, accepted⟩ := loaded_of_accepted accepted positive
    obtain ⟨protocol, accepted⟩ := holds_of_accepted accepted positive
    obtain ⟨found, loaded, accepted⟩ := loaded_of_accepted accepted positive
    obtain ⟨same, -⟩ := holds_of_accepted accepted positive
    refine ⟨?_, ?_⟩
    · exact (capture.read_of_getElem? read).trans (UInt8.toNat.inj protocol)
    · exact UInt16.toNat.inj ((capture.u16_of_half loaded).trans same)

/-- The filter that is attached for a port passes every packet that the parser with that port
returns a payload of, with all of its IP packet, if its transport header is complete and it is no
later fragment; and what it passes in a mode with ports has the protocol and the port that the
parser asks for. -/
theorem filterProgram_agrees (config : RawConfig v) (port : UInt16) (capture : Capture)
    (raw : RawInfo config) :
    (TransportComplete config capture → Unfragmented v capture →
      ∀ payload, (recvRaw0 config port capture raw).2 = .payload payload →
        Passes (filterProgram v config.rawMode port) capture (ipTotalLen v capture)) ∧
      (config.rawMode ≠ .icmp → ∀ length,
        Passes (filterProgram v config.rawMode port) capture length →
          (raw.recvInfo.readIp capture).protocol = config.rawMode.protocol v ∧
            capture.u16 (ipHeaderLen v capture + 2) = port) := by
  refine ⟨fun complete fragment payload returned => ?_, fun ported length passes => ?_⟩
  · have parser := recvRaw0_accepts returned
    cases v with
    | ipv4 => exact passes_ipv4 parser complete (fragment rfl)
    | ipv6 => exact passes_ipv6 parser complete
  · rw [readIp_protocol]
    exact passes_port ported passes

end Udp2raw
