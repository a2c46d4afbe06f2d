import Udp2raw.Connection.EchoNumbers

/-!
# One packet to one address

A packet says in its headers where it goes. Each function that sends hands at most one packet
to the system, and that packet goes where the next packet of its connection goes. What a run
sends can therefore be counted and followed back to the connections it was sent for.
-/
namespace Udp2raw

open Proc

variable {v : IpVersion} {config : RawConfig v} {options : Options v}

/-! ### Where a packet goes -/

/-- The address that a packet claims to go to. -/
def Capture.destinationIp (v : IpVersion) (capture : Capture) : Ip v :=
  match v with
  | .ipv4 => capture.ip .ipv4 16
  | .ipv6 => capture.ip .ipv6 24

/-- A packet that is handed to the system goes to an address. An echo packet names no port. -/
structure GoesTo (config : RawConfig v) (packet : Bytes) (addr : Address v) : Prop where
  /-- It names the address, -/
  ip : ∀ stale, (⟨packet, stale⟩ : Capture).destinationIp v = addr.ip
  /-- and the port. -/
  port : config.rawMode ≠ .icmp →
    ∀ stale, (⟨packet, stale⟩ : Capture).u16 (v.headerSize + 2) = addr.port

/-- A header names the address that its packet goes to. -/
theorem ipPacket_destinationIp (config : RawConfig v) (info : PacketInfo v) (ipId : UInt16)
    (segment : Bytes) (stale : Nat → UInt8) :
    (⟨ipPacket config info ipId segment, stale⟩ : Capture).destinationIp v = info.newDstIp := by
  cases v with
  | ipv4 =>
    have header (totLen check : Nat) :
        ((ipv4Header config info ipId totLen check ++ segment).drop 16).take 4 =
          info.newDstIp.toList := by
      simp [ipv4Header, OnesComplement.word, List.drop_append, List.drop_of_length_le, ipv4_length,
        -Vector.length_toList]
    apply Capture.ip_field
    show List.take 4 _ = _
    simp only [ipPacket]
    split
    · exact header _ _
    · exact header _ _
  | ipv6 =>
    apply Capture.ip_field
    show List.take 16 _ = _
    simp [ipPacket, ipv6Header, List.drop_append, List.drop_of_length_le, ipv6_length,
      -Vector.length_toList]

/-- A segment names the port that it goes to. -/
theorem sentSegment_dstPort (config : RawConfig v) (env : SendEnv) (info : PacketInfo v)
    (payload : Bytes) (ports : config.rawMode ≠ .icmp) :
    ((sentSegment config env info payload).drop 2).take 2 =
      BigEndian.encode 2 info.dstPort.toNat := by
  cases mode : config.rawMode with
  | faketcp => simp [sentSegment, mode, tcpSegment]
  | udp => simp [sentSegment, mode, udpSegment]
  | icmp => exact absurd mode ports

/-- A packet of a connection goes where the connection sends to. -/
theorem RawInfo.Sends.goesTo {raw : RawInfo config} {packet : Bytes} (sends : raw.Sends packet) :
    GoesTo config packet raw.destination := by
  obtain ⟨env, payload, rfl⟩ := sends
  constructor
  case ip => exact fun stale => ipPacket_destinationIp config raw.sendInfo env.ipId _ stale
  case port =>
    intro ports stale
    apply Capture.u16_field
    show List.take 2 (List.drop (v.headerSize + 2) _) = _
    rw [← List.drop_drop, ipPacket_drop]
    exact sentSegment_dstPort config env raw.sendInfo payload ports

/-! ### What one call sends -/

/-- At most one packet was handed to the system. It is one that the connection sends, and the
buffered packet is the same. -/
structure SendsOne (raw : RawInfo config) (before after : Machine v) : Prop where
  /-- The packet is the connection's. -/
  wire : ∃ packet : Option Bytes, after.wire = before.wire ++ packet.toList ∧
    ∀ sent ∈ packet, raw.Sends sent
  /-- The same packet is buffered. -/
  packetBuf : after.packetBuf = before.packetBuf

section SendsOne

variable {raw : RawInfo config} {a b c : Machine v}

/-- Nothing is sent. -/
theorem Unsent.sendsOne (unsent : Unsent a b) (raw : RawInfo config) : SendsOne raw a b where
  wire := ⟨none, by rw [unsent.wire]; exact (List.append_nil _).symm, by simp⟩
  packetBuf := unsent.packetBuf

/-- Nothing is sent before. -/
theorem SendsOne.after (sent : SendsOne raw b c) (unsent : Unsent a b) : SendsOne raw a c := by
  obtain ⟨packet, wire, sends⟩ := sent.wire
  exact ⟨⟨packet, by rw [wire, unsent.wire], sends⟩, sent.packetBuf.trans unsent.packetBuf⟩

/-- Nothing is sent afterwards. -/
theorem SendsOne.unsent (sent : SendsOne raw a b) (unsent : Unsent b c) : SendsOne raw a c := by
  obtain ⟨packet, wire, sends⟩ := sent.wire
  exact ⟨⟨packet, by rw [unsent.wire, wire], sends⟩, unsent.packetBuf.trans sent.packetBuf⟩

/-- Who sends is known by what the next packet carries. -/
theorem SendsOne.of_sendInfo (sent : SendsOne raw a b) {other : RawInfo config}
    (same : raw.sendInfo = other.sendInfo) : SendsOne other a b := by
  obtain ⟨packet, wire, sends⟩ := sent.wire
  refine ⟨⟨packet, wire, fun bytes inside => ?_⟩, sent.packetBuf⟩
  obtain ⟨env, payload, form⟩ := sends bytes inside
  exact ⟨env, payload, by rw [form, same]⟩

end SendsOne

section Calls

variable {σ τ : Type} [DecidableEq τ] {before after : Machine v}

/-- `send_raw0` hands at most one packet with its payload to the system. -/
theorem sendRawPayload_one {raw next : RawInfo options.raw} {payload : Bytes} {ret : Int}
    (returned : Returns (sendRawPayload options raw payload) before (next, ret) after) :
    (∃ packet : Option Bytes, after.wire = before.wire ++ packet.toList ∧
      ∀ sent ∈ packet, raw.SendsPayload payload sent) ∧ after.packetBuf = before.packetBuf := by
  simp only [sendRawPayload, Returns.bind_iff, Returns.pure_iff, Prod.mk.injEq] at returned
  obtain ⟨_, _, zero, answer, asked, one, time, timed, two, sent, _, lifted, _, _, three,
    ⟨rfl, -⟩, rfl⟩ := returned
  obtain ⟨ran, rfl⟩ := Returns.lift_iff.mp lifted
  obtain rfl := Returns.modify_iff.mp three
  have stamped : Unsent asked timed := unsent_ite getCurrentTime_unsent (unsent_pure 0) _ _ _ two
  have early := ((record_unsent _ _ _ _ zero).trans (ask_unsent _ _ _ one)).trans stamped
  refine ⟨⟨sent.packet, ?_, fun packet passed => ⟨_, sendRaw0_packet ran passed⟩⟩, early.packetBuf⟩
  rw [early.wire]

/-- `send_raw0` sends at most one packet of the connection. -/
theorem sendRawPayload_sendsOne {raw next : RawInfo options.raw} {payload : Bytes} {ret : Int}
    (returned : Returns (sendRawPayload options raw payload) before (next, ret) after) :
    SendsOne raw before after := by
  obtain ⟨⟨packet, wire, each⟩, packetBuf⟩ := sendRawPayload_one returned
  exact ⟨⟨packet, wire, fun sent inside => (each sent inside).sends⟩, packetBuf⟩

/-- `send_handshake` sends at most one packet of the connection. -/
theorem sendHandshake_sendsOne {raw next : RawInfo options.raw} {id1 id2 id3 : UInt32}
    (returned : Returns (sendHandshake options raw id1 id2 id3) before next after) :
    SendsOne raw before after := by
  simp only [sendHandshake, sendBare, Returns.bind_iff, Returns.pure_iff] at returned
  obtain ⟨⟨other, _⟩, _, ⟨iv, _, one, padding, _, two, output, _, three, returned⟩, rfl, rfl⟩ :=
    returned
  have early := ((getTrueRandomNumber64_unsent _ _ _ one).trans
    (getTrueRandomNumber64_unsent _ _ _ two)).trans (encryptMessage_unsent _ _ _ _ three)
  cases output with
  | none =>
    obtain ⟨-, rfl⟩ := Returns.pure_iff.mp returned
    exact early.sendsOne raw
  | some output =>
    simp only [Returns.bind_iff, Returns.pure_iff] at returned
    obtain ⟨⟨_, _⟩, _, four, -, rfl⟩ := returned
    exact (sendRawPayload_sendsOne four).after early

/-- `send_safer` sends at most one packet of the connection. -/
theorem sendSafer_sendsOne {conn next : ConnInfo options σ τ} {type : UInt8} {data : Bytes}
    {ret : Int} (returned : Returns (sendSafer conn type data) before (next, ret) after) :
    SendsOne conn.rawInfo before after := by
  unfold sendSafer at returned
  split at returned
  · obtain ⟨-, rfl⟩ := Returns.pure_iff.mp returned
    exact (Unsent.refl _).sendsOne _
  simp only [Returns.bind_iff, Returns.lift_iff] at returned
  obtain ⟨blob, _, ⟨-, rfl⟩, output, m1, one, returned⟩ := returned
  have encrypted := encryptMessage_unsent _ _ _ _ one
  cases output with
  | none =>
    obtain ⟨-, rfl⟩ := Returns.pure_iff.mp returned
    exact encrypted.sendsOne _
  | some bytes =>
    simp only [Returns.bind_iff] at returned
    obtain ⟨frame, m2, two, ⟨rawInfo, sent⟩, m3, three, returned⟩ := returned
    have framed := (sendRawPayload_sendsOne three).after
      (encrypted.trans (saferFrame_unsent _ _ _ _ two))
    dsimp only at returned
    split at returned
    · obtain ⟨-, rfl⟩ := Returns.pure_iff.mp returned
      exact framed
    · simp only [Returns.bind_iff, Returns.pure_iff] at returned
      obtain ⟨answer, _, four, -, rfl⟩ := returned
      exact framed.unsent (ask_unsent _ _ _ four)

/-- A heartbeat is at most one packet of the connection. -/
theorem sendHeartbeat_sendsOne {conn next : ConnInfo options σ τ}
    (returned : Returns (sendHeartbeat conn) before next after) :
    SendsOne conn.rawInfo before after := by
  simp only [sendHeartbeat, Returns.bind_iff, Returns.pure_iff] at returned
  obtain ⟨⟨_, _⟩, _, sent, rfl, rfl⟩ := returned
  exact sendSafer_sendsOne sent

/-- A datagram is at most one packet of the connection. -/
theorem sendDataSafer_sendsOne {conn next : ConnInfo options σ τ} {data : Bytes} {convNum : UInt32}
    (returned : Returns (sendDataSafer conn data convNum) before next after) :
    SendsOne conn.rawInfo before after := by
  simp only [sendDataSafer, Returns.bind_iff, Returns.pure_iff] at returned
  obtain ⟨_, _, recorded, ⟨_, _⟩, _, sent, rfl, rfl⟩ := returned
  exact (sendSafer_sendsOne sent).after (record_unsent _ _ _ _ recorded)

end Calls

end Udp2raw
