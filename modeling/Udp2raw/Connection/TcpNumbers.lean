import Udp2raw.Connection.Limits
import Udp2raw.Connection.Wire
import Udp2raw.Network.TcpNumbers

/-!
# Segments of a connection

In faketcp mode a packet of a connection says what the connection sends next, and what a
connection heard last is what the buffered packet says. A send that the system takes only
notes how much it carried.
-/
namespace Udp2raw

open Proc

variable {v : IpVersion} {config : RawConfig v} {options : Options v} {before after : Machine v}

/-! ### On the wire -/

/-- A sent segment carries the numbers of its connection, and unless it is too long for an IP packet
the length of its payload. -/
theorem RawInfo.SendsPayload.tcpNumbers {raw : RawInfo config} {payload packet : Bytes}
    (sends : raw.SendsPayload payload packet) (mode : config.rawMode = .faketcp)
    (stale : Nat → UInt8) :
    let numbers := Capture.tcpNumbers v ⟨onWire config packet, stale⟩
    numbers.seq = raw.sendInfo.seq ∧ numbers.ackSeq = raw.sendInfo.ackSeq ∧
      numbers.syn = raw.sendInfo.syn ∧
      (v.headerSize + tcpDoff raw.sendInfo.syn * 4 + payload.length < 65536 →
        numbers.dataLen = payload.length) := by
  obtain ⟨env, rfl⟩ := sends
  rw [onWire_ipPacket, sentSegment, mode]
  obtain ⟨seq, ackSeq, syn, dataLen⟩ := wire_tcpNumbers config raw.sendInfo env.ipId env payload
    (segmentChecksum raw.sendInfo ipprotoTcp (tcpSegment raw.sendInfo env payload)) stale
  refine ⟨seq, ackSeq, syn, fun fits => dataLen ?_⟩
  rw [tcpSegment_eq, List.length_append, tcpHeader_length]
  omega

/-! ### Receiving -/

/-- A buffered packet says what the captured one does. -/
theorem preRecvRawPacket_numbers {capture : Capture} {ret : Int} (took : ¬ret < 0)
    (returned : Returns (preRecvRawPacket options (some capture)) before ret after) :
    after.packetBuf.tcpNumbers v = capture.tcpNumbers v := by
  simp only [preRecvRawPacket, Returns.bind_iff, Returns.get_iff, check_iff] at returned
  obtain ⟨_, _, ⟨rfl, rfl⟩, _, _, ⟨-, rfl⟩, returned⟩ := returned
  split_ifs at returned
  · exact absurd (by rw [← (Returns.pure_iff.mp returned).1]; decide) took
  · exact absurd (by rw [← (Returns.pure_iff.mp returned).1]; decide) took
  · simp only [Returns.bind_iff, Returns.modify_iff, Returns.pure_iff] at returned
    obtain ⟨_, _, rfl, -, rfl⟩ := returned
    exact Capture.truncate_tcpNumbers _ _

/-- A received payload of a segment leaves the numbers of the buffered packet. -/
theorem recvRawPayload_numbers {raw next : RawInfo options.raw} {payload : Bytes}
    (mode : options.raw.rawMode = .faketcp)
    (returned : Returns (recvRawPayload options raw) before (next, some payload) after) :
    next.recvInfo.tcpNumbers = before.packetBuf.tcpNumbers v ∧ next.sendInfo = raw.sendInfo := by
  simp only [recvRawPayload, Returns.bind_iff, Returns.get_iff, check_iff, Returns.modify_iff,
    recvRaw0, mode] at returned
  obtain ⟨_, _, ⟨rfl, rfl⟩, _, _, ⟨-, rfl⟩, _, _, rfl, returned⟩ := returned
  cases result : recvRawTcp options.raw before.filterPort before.packetBuf raw with
  | mk parsed received =>
    cases received with
    | failed =>
      simp only [result, Returns.pure_iff, Prod.mk.injEq, reduceCtorEq, and_false, false_and]
        at returned
    | untouched =>
      simp only [result] at returned
      exact absurd returned Returns.throw_iff
    | payload segment =>
      simp only [result, Returns.pure_iff, Prod.mk.injEq] at returned
      obtain ⟨⟨rfl, -⟩, -⟩ := returned
      exact recvRawTcp_numbers result

/-- The data of a bare message leaves the numbers of the buffered packet. -/
theorem recvBare_numbers {raw next : RawInfo options.raw} {data : Bytes}
    (mode : options.raw.rawMode = .faketcp)
    (returned : Returns (recvBare options raw) before (next, some data) after) :
    next.recvInfo.tcpNumbers = before.packetBuf.tcpNumbers v ∧ next.sendInfo = raw.sendInfo := by
  simp only [recvBare, Returns.bind_iff] at returned
  obtain ⟨⟨parsed, payload⟩, _, one, returned⟩ := returned
  cases payload with
  | none =>
    obtain ⟨same, -⟩ := Returns.pure_iff.mp returned
    exact absurd (Prod.mk.inj same).2 (by simp)
  | some payload =>
    dsimp only at returned
    split_ifs at returned
    · obtain ⟨same, -⟩ := Returns.pure_iff.mp returned
      exact absurd (Prod.mk.inj same).2 (by simp)
    · obtain ⟨same, -⟩ := Returns.pure_iff.mp returned
      exact absurd (Prod.mk.inj same).2 (by simp)
    · simp only [Returns.bind_iff, Returns.pure_iff, Prod.mk.injEq] at returned
      obtain ⟨_, _, -, ⟨rfl, -⟩, -⟩ := returned
      exact recvRawPayload_numbers mode one

/-- What is received leaves the reserved number alone. -/
theorem recvRawPayload_reserved {raw next : RawInfo options.raw} {payload : Option Bytes}
    (mode : options.raw.rawMode = .faketcp)
    (returned : Returns (recvRawPayload options raw) before (next, payload) after) :
    next.reservedSendSeq = raw.reservedSendSeq := by
  simp only [recvRawPayload, Returns.bind_iff, Returns.get_iff, check_iff, Returns.modify_iff,
    recvRaw0, mode] at returned
  obtain ⟨_, _, ⟨rfl, rfl⟩, _, _, ⟨-, rfl⟩, _, _, rfl, returned⟩ := returned
  rw [← recvRawTcp_reserved before.filterPort before.packetBuf raw]
  split at returned
  · rename_i result
    rw [result, (Prod.mk.inj (Returns.pure_iff.mp returned).1).1]
  · exact absurd returned Returns.throw_iff
  · rename_i result
    rw [result, (Prod.mk.inj (Returns.pure_iff.mp returned).1).1]

/-- A bare message leaves the reserved number alone. -/
theorem recvBare_reserved {raw next : RawInfo options.raw} {data : Option Bytes}
    (mode : options.raw.rawMode = .faketcp)
    (returned : Returns (recvBare options raw) before (next, data) after) :
    next.reservedSendSeq = raw.reservedSendSeq := by
  simp only [recvBare, Returns.bind_iff] at returned
  obtain ⟨⟨parsed, payload⟩, _, one, returned⟩ := returned
  rw [← recvRawPayload_reserved mode one]
  cases payload with
  | none =>
    obtain ⟨rfl, -⟩ := Prod.mk.inj (Returns.pure_iff.mp returned).1
    rfl
  | some payload =>
    dsimp only at returned
    split_ifs at returned
    · obtain ⟨rfl, -⟩ := Prod.mk.inj (Returns.pure_iff.mp returned).1
      rfl
    · obtain ⟨rfl, -⟩ := Prod.mk.inj (Returns.pure_iff.mp returned).1
      rfl
    · simp only [Returns.bind_iff, Returns.pure_iff, Prod.mk.injEq] at returned
      obtain ⟨_, _, -, ⟨rfl, -⟩, -⟩ := returned
      rfl

/-! ### Sending -/

/-- The connection after a segment with so much data. -/
def RawInfo.carrying (raw : RawInfo config) (dataLen : Nat) : RawInfo config :=
  { raw with sendInfo := { raw.sendInfo with dataLen } }

/-- A segment that is not dropped at random and that the system takes is noted. -/
theorem sendRaw0_tcp {env : SendEnv} {raw : RawInfo config} {payload : Bytes} {sent : Sent config}
    (mode : config.rawMode = .faketcp) (drop : config.randomDrop = 0) (works : env.sendtoOk = true)
    (ran : sendRaw0 config env raw payload = .ok sent) :
    sent.raw = raw.carrying payload.length := by
  unfold sendRaw0 at ran
  rw [if_neg (fun dropped => dropped.1 drop)] at ran
  simp only [mode, sendRawTcp, bind, Except.bind] at ran
  split at ran
  · contradiction
  rename_i middle inner
  have same := sendRawIp_raw inner
  have taken : middle.ret = 0 := by
    unfold sendRawIp at inner
    split at inner
    · simp only [bind, Except.bind] at inner
      split at inner
      · contradiction
      · obtain rfl := Except.ok.inj inner
        rfl
    · obtain rfl := Except.ok.inj inner
      rfl
  rw [if_neg (not_not.mpr taken)] at ran
  obtain rfl := Except.ok.inj ran
  rw [RawInfo.carrying, ← same]

/-- The system takes every packet. -/
def SendsWork (machine : Machine v) : Prop :=
  ∀ asked, (machine.answers asked).send.sendtoOk = true

/-- It goes on taking packets. -/
theorem Logged.sendsWork {events : List (Event v)} (logged : Logged events before after)
    (works : SendsWork before) : SendsWork after := by
  rw [SendsWork, logged.answers]
  exact works

section Works

variable (mode : options.raw.rawMode = .faketcp) (drop : options.raw.randomDrop = 0)

include mode drop

/-- `send_raw0` only notes how much the segment carried. -/
theorem sendRawPayload_tcp {raw next : RawInfo options.raw} {payload : Bytes} {ret : Int}
    (works : SendsWork before)
    (returned : Returns (sendRawPayload options raw payload) before (next, ret) after) :
    next = raw.carrying payload.length := by
  simp only [sendRawPayload, Returns.bind_iff, Returns.lift_iff, Returns.pure_iff, Prod.mk.injEq]
    at returned
  obtain ⟨_, _, zero, answer, _, one, time, _, -, sent, _, ⟨ran, -⟩, _, _, -, ⟨rfl, -⟩, -⟩ :=
    returned
  refine sendRaw0_tcp mode drop ?_ ran
  show answer.send.sendtoOk = true
  rw [(ask_ran one).2]
  exact (record_ran zero).toLogged.sendsWork works _

/-- The length of the payload of a handshake. -/
def handshakeLen (options : Options v) : Nat := ciphertextLen options.crypto 29

/-- `send_handshake` hands at most one segment to the system, whose payload always has the same
length, and notes it. -/
theorem sendHandshake_tcp {raw next : RawInfo options.raw} {id1 id2 id3 : UInt32}
    (works : SendsWork before)
    (returned : Returns (sendHandshake options raw id1 id2 id3) before next after) :
    next = raw.carrying (handshakeLen options) ∧ ∃ packets, after.wire = before.wire ++ packets ∧
      ∀ packet ∈ packets, ∃ payload, payload.length = handshakeLen options ∧
        raw.SendsPayload payload packet := by
  simp only [sendHandshake, sendBare, Returns.bind_iff, Returns.pure_iff] at returned
  obtain ⟨⟨other, _⟩, _, ⟨iv, _, one, padding, _, two, output, _, three, returned⟩, rfl, rfl⟩ :=
    returned
  have size : (bareMessage iv padding (numbersToChar id1 id2 id3)).length = 29 := by
    simp [bareMessage, memoryBytes, numbersToChar]
  obtain ⟨taken, length⟩ := encryptMessage_length three
  have accepted := taken (by rw [size]; decide)
  obtain ⟨output, rfl⟩ := Option.isSome_iff_exists.mp accepted
  have whole : output.length = handshakeLen options := by
    rw [(length output rfl).2, size, handshakeLen]
  simp only [Returns.bind_iff, Returns.pure_iff, Prod.mk.injEq] at returned
  obtain ⟨⟨_, _⟩, _, four, ⟨rfl, -⟩, rfl⟩ := returned
  have early := ((getTrueRandomNumber64_unsent _ _ _ one).trans
    (getTrueRandomNumber64_unsent _ _ _ two)).trans (encryptMessage_unsent _ _ _ _ three)
  obtain ⟨events, ran⟩ : ∃ events, Ran events before _ := by
    obtain ⟨-, later⟩ | ⟨_, -, later⟩ := encryptMessage_ran three
    · exact ⟨_, ((getTrueRandomNumber64_ran one).trans (getTrueRandomNumber64_ran two)).trans later⟩
    · exact ⟨_, ((getTrueRandomNumber64_ran one).trans (getTrueRandomNumber64_ran two)).trans later⟩
  obtain ⟨⟨packets, wire, each⟩, -⟩ := sendRawPayload_packets four
  rw [← whole]
  refine ⟨sendRawPayload_tcp mode drop (ran.toLogged.sendsWork works) four, packets, ?_,
    fun packet inside => ⟨output, rfl, each packet inside⟩⟩
  rw [wire, early.wire]

end Works

end Udp2raw
