import Udp2raw.Connection.Session
import Udp2raw.Network.RoundTrip

/-!
# What a run sends

Most of what a process does hands no packet to the system and leaves the buffered packet as
it is: reading the clock, encrypting and decrypting, parsing messages and keeping
conversations. What a run sends is therefore what its calls of `send_raw0` send, and each of
these sends packets of one connection.
-/
namespace Udp2raw

open Proc

variable {v : IpVersion} {config : RawConfig v} {options : Options v} {α β σ τ : Type}
  [DecidableEq τ]

/-- No packet was handed to the system, and the same packet is buffered. -/
structure Unsent (before after : Machine v) : Prop where
  /-- The system got no packet. -/
  wire : after.wire = before.wire
  /-- The same packet is buffered. -/
  packetBuf : after.packetBuf = before.packetBuf

namespace Unsent

/-- Standing still. -/
theorem refl (machine : Machine v) : Unsent machine machine := ⟨rfl, rfl⟩

/-- Two parts of a run. -/
theorem trans {a b c : Machine v} (one : Unsent a b) (two : Unsent b c) : Unsent a c :=
  ⟨two.wire.trans one.wire, two.packetBuf.trans one.packetBuf⟩

end Unsent

/-! ### Composition -/

/-- A returned value sends nothing. -/
theorem unsent_pure (value : α) : Keeps Unsent (pure value : Proc v α) :=
  keeps_pure Unsent.refl value

/-- A sequence of parts that send nothing. -/
theorem unsent_bind {first : Proc v β} {rest : β → Proc v α} (start : Keeps Unsent first)
    (continue_ : ∀ middle, Keeps Unsent (rest middle)) : Keeps Unsent (first >>= rest) :=
  keeps_bind (fun one two => one.trans two) start continue_

/-- A lifted computation sends nothing. -/
theorem unsent_lift (computation : Exec α) : Keeps Unsent (liftM computation : Proc v α) :=
  keeps_lift Unsent.refl computation

/-- A choice of two parts that send nothing. -/
theorem unsent_ite {condition : Prop} [Decidable condition] {yes no : Proc v α}
    (whenTrue : Keeps Unsent yes) (whenFalse : Keeps Unsent no) :
    Keeps Unsent (if condition then yes else no) := by
  split
  · exact whenTrue
  · exact whenFalse

/-- A part that reads the state may replace it by one with the same packets. -/
theorem unsent_get {rest : Machine v → Proc v α}
    (kept : ∀ state value after, Returns (rest state) state value after → Unsent state after) :
    Keeps Unsent (get >>= rest) := by
  intro before value after returned
  obtain ⟨_, _, read, finished⟩ := Returns.bind_iff.mp returned
  obtain ⟨rfl, rfl⟩ := Returns.get_iff.mp read
  exact kept _ _ _ finished

/-- A replaced state with the same packets, and a part that sends nothing. -/
theorem unsent_set {state next after : Machine v} {rest : PUnit → Proc v α} {value : α}
    (returned : Returns (set next >>= rest) state value after) (same : Unsent state next)
    (continue_ : ∀ done, Keeps Unsent (rest done)) : Unsent state after := by
  obtain ⟨done, _, stored, finished⟩ := Returns.bind_iff.mp returned
  obtain rfl := Returns.set_iff.mp stored
  exact same.trans (continue_ done _ _ _ finished)

/-! ### The shared layers -/

/-- A question sends nothing. -/
theorem ask_unsent : Keeps Unsent (ask : Proc v (Answer v)) :=
  unsent_get fun _ _ _ returned => unsent_set returned ⟨rfl, rfl⟩ fun _ => unsent_pure _

/-- A record sends nothing. -/
theorem record_unsent (event : Event v) : Keeps Unsent (record event) :=
  keeps_modify fun _ => ⟨rfl, rfl⟩

/-- A check sends nothing. -/
theorem check_unsent (condition : Bool) (text : String) :
    Keeps Unsent (check condition text : Proc v Unit) := unsent_lift _

/-- The clock sends nothing. -/
theorem getCurrentTime_unsent : Keeps Unsent (getCurrentTime : Proc v Nat) := by
  refine unsent_bind (unsent_bind ask_unsent fun answer => unsent_get ?_) fun _ => unsent_pure _
  intro state value after returned
  dsimp only at returned
  split at returned
  · exact unsent_set returned ⟨rfl, rfl⟩ fun _ => unsent_pure _
  · exact unsent_set returned ⟨rfl, rfl⟩ fun _ => unsent_pure _

/-- A random number sends nothing. -/
theorem getTrueRandomNumber_unsent : Keeps Unsent (getTrueRandomNumber : Proc v UInt32) :=
  unsent_bind ask_unsent fun _ => unsent_pure _

/-- A random number sends nothing. -/
theorem getTrueRandomNumber64_unsent : Keeps Unsent (getTrueRandomNumber64 : Proc v UInt64) :=
  unsent_bind ask_unsent fun _ => unsent_pure _

/-- A drawn identifier sends nothing. -/
theorem drawMyId_unsent : Keeps Unsent (drawMyId : Proc v UInt32) :=
  unsent_bind ask_unsent fun _ => unsent_bind (record_unsent _) fun _ => unsent_pure _

/-- New connection metadata sends nothing. -/
theorem newRawInfo_unsent : Keeps Unsent (newRawInfo options) := by
  have info : Keeps Unsent (newPacketInfo options) := unsent_bind ask_unsent fun _ =>
    unsent_bind getTrueRandomNumber_unsent fun _ =>
      unsent_bind getTrueRandomNumber_unsent fun _ => unsent_pure _
  exact unsent_bind info fun _ => unsent_bind info fun _ =>
    unsent_bind ask_unsent fun _ => unsent_pure _

/-- A buffered packet was not sent. -/
theorem preRecvRawPacket_wire {received : Option Capture} {ret : Int} {before after : Machine v}
    (returned : Returns (preRecvRawPacket options received) before ret after) :
    after.wire = before.wire := by
  simp only [preRecvRawPacket, Returns.bind_iff, Returns.get_iff, check_iff] at returned
  obtain ⟨_, _, ⟨rfl, rfl⟩, _, _, ⟨-, rfl⟩, returned⟩ := returned
  cases received with
  | none => rw [(Returns.pure_iff.mp returned).2]
  | some capture =>
    simp only at returned
    split_ifs at returned
    · rw [(Returns.pure_iff.mp returned).2]
    · rw [(Returns.pure_iff.mp returned).2]
    · simp only [Returns.bind_iff, Returns.modify_iff, Returns.pure_iff] at returned
      obtain ⟨_, _, rfl, -, rfl⟩ := returned
      rfl

/-- A discarded packet stays in the buffer. -/
theorem discardRawPacket_unsent : Keeps Unsent (discardRawPacket : Proc v Unit) :=
  unsent_bind (keeps_get Unsent.refl) fun _ =>
    unsent_bind (check_unsent _ _) fun _ => keeps_modify fun _ => ⟨rfl, rfl⟩

/-- A parsed packet stays in the buffer. -/
theorem recvRawPayload_unsent (raw : RawInfo options.raw) :
    Keeps Unsent (recvRawPayload options raw) := by
  refine unsent_bind (keeps_get Unsent.refl) fun _ => unsent_bind (check_unsent _ _) fun _ =>
    unsent_bind (keeps_modify fun _ => ⟨rfl, rfl⟩) fun _ => ?_
  split
  · exact unsent_pure _
  · intro before value after returned
    exact absurd returned Returns.throw_iff
  · exact unsent_pure _

/-- An encryption sends nothing. -/
theorem encryptMessage_unsent (message : Bytes) :
    Keeps Unsent (encryptMessage options message) := by
  refine unsent_bind ask_unsent fun answer => unsent_get fun state value after returned => ?_
  obtain ⟨result, _, lifted, returned⟩ := Returns.bind_iff.mp returned
  obtain ⟨-, rfl⟩ := Returns.lift_iff.mp lifted
  refine unsent_set returned ⟨rfl, rfl⟩ fun _ => ?_
  split
  · exact unsent_bind (record_unsent _) fun _ => unsent_pure _
  · exact unsent_bind (record_unsent _) fun _ => unsent_pure _

/-- A decryption sends nothing. -/
theorem decryptInto_unsent (buffer : Scratch) (input : Bytes) :
    Keeps Unsent (decryptInto options buffer input) := by
  refine unsent_get fun state value after returned => unsent_set returned ⟨rfl, rfl⟩ fun _ => ?_
  split
  · exact unsent_pure _
  · exact unsent_bind (record_unsent _) fun _ => unsent_pure _

/-! ### Messages -/

/-- An obfuscated frame sends nothing. -/
theorem saferFrame_unsent (output : Bytes) : Keeps Unsent (saferFrame options output) := by
  refine unsent_ite ?_ (unsent_pure _)
  unfold groSeal
  split
  · exact unsent_pure _
  · exact unsent_pure _
  · exact unsent_get fun _ _ _ returned => unsent_set returned ⟨rfl, rfl⟩ fun _ => unsent_pure _
  · exact unsent_get fun _ _ _ returned => unsent_set returned ⟨rfl, rfl⟩ fun _ => unsent_pure _

/-- An uncovered frame sends nothing. -/
theorem groOpen_unsent (block : AesBlock) : Keeps Unsent (groOpen options block) := by
  unfold groOpen
  split
  · exact unsent_pure _
  · exact unsent_pure _
  · exact unsent_get fun _ _ _ returned => unsent_set returned ⟨rfl, rfl⟩ fun _ => unsent_pure _
  · exact unsent_get fun _ _ _ returned => unsent_set returned ⟨rfl, rfl⟩ fun _ => unsent_pure _

/-- A parsed bare message sends nothing. -/
theorem reservedParseBare_unsent (input : Bytes) :
    Keeps Unsent (reservedParseBare options input) := by
  refine unsent_bind (keeps_get Unsent.refl) fun _ =>
    unsent_bind (decryptInto_unsent _ _) fun _ =>
      unsent_bind (keeps_modify fun _ => ⟨rfl, rfl⟩) fun _ => ?_
  split
  · exact unsent_pure _
  · exact unsent_ite (unsent_pure _) (unsent_ite (unsent_pure _) (unsent_pure _))

/-- A received bare message sends nothing. -/
theorem recvBare_unsent (raw : RawInfo options.raw) : Keeps Unsent (recvBare options raw) := by
  refine unsent_bind (recvRawPayload_unsent raw) fun (parsed, payload) => ?_
  cases payload with
  | none => exact unsent_pure _
  | some payload =>
    exact unsent_ite (unsent_pure _) (unsent_ite (unsent_pure _)
      (unsent_bind (reservedParseBare_unsent _) fun _ => unsent_pure _))

/-- A parsed safer message sends nothing. -/
theorem reservedParseSafer_unsent (conn : ConnInfo options σ τ) (input : Bytes) :
    Keeps Unsent (reservedParseSafer conn input) := by
  have roller (other : ConnInfo options σ τ) (number : UInt8) :
      Keeps Unsent (other.noteRoller number) :=
    unsent_ite (unsent_bind getCurrentTime_unsent fun _ => unsent_pure _) (unsent_pure _)
  refine unsent_bind (keeps_get Unsent.refl) fun _ =>
    unsent_bind (decryptInto_unsent _ _) fun _ =>
      unsent_bind (keeps_modify fun _ => ⟨rfl, rfl⟩) fun _ => ?_
  split
  · exact unsent_pure _
  · refine unsent_ite (unsent_pure _) (unsent_bind (unsent_lift _) fun _ =>
      unsent_ite (unsent_pure _) (unsent_bind (record_unsent _) fun _ =>
        unsent_ite (unsent_pure _) (unsent_ite (unsent_pure _) ?_)))
    exact unsent_bind (roller _ _) fun _ => unsent_pure _

/-- The messages of one payload send nothing. -/
theorem recvFrames_unsent (conn : ConnInfo options σ τ) (recvData : Bytes) :
    Keeps Unsent (recvFrames conn recvData) := by
  induction size : recvData.length using Nat.strong_induction_on generalizing conn recvData with
  | _ size ih =>
  rw [recvFrames]
  split
  · refine unsent_bind (groOpen_unsent _) fun block => unsent_ite (unsent_pure _)
      (unsent_ite (unsent_pure _) (unsent_bind (reservedParseSafer_unsent _ _) fun parsed =>
        unsent_bind (ih _ ?_ _ _ rfl) fun _ => unsent_pure _))
    simp only [List.length_drop, List.length_append, Vector.length_toList]
    omega
  · exact unsent_pure _

/-- The messages of a packet send nothing. -/
theorem recvSaferMulti_unsent (conn : ConnInfo options σ τ) :
    Keeps Unsent (recvSaferMulti conn) := by
  refine unsent_bind (recvRawPayload_unsent _) fun (rawInfo, payload) => ?_
  cases payload with
  | none => exact unsent_pure _
  | some payload =>
    exact unsent_ite (unsent_bind (reservedParseSafer_unsent _ _) fun _ => unsent_pure _)
      (recvFrames_unsent _ _)

/-! ### Connections -/

/-- A conversation that is used sends nothing. -/
theorem updateActiveTime_unsent (manager : ConvManager τ) (conv : UInt32) :
    Keeps Unsent (manager.updateActiveTime conv : Proc v _) := by
  refine unsent_bind ?_ fun _ => unsent_pure _
  exact unsent_bind (check_unsent _ _) fun _ => unsent_bind getCurrentTime_unsent fun _ =>
    unsent_bind (check_unsent _ _) fun _ => unsent_pure _

/-- A new conversation sends nothing. -/
theorem insertConv_unsent (manager : ConvManager τ) (conv : UInt32) (data : τ) :
    Keeps Unsent (manager.insertConv conv data : Proc v _) := by
  refine unsent_bind ?_ fun _ => unsent_pure _
  unfold LruCollector.newKey
  split
  · intro before value after returned
    exact absurd returned Returns.throw_iff
  · exact unsent_bind getCurrentTime_unsent fun _ =>
      unsent_bind (check_unsent _ _) fun _ => unsent_pure _

/-- A number for a conversation sends nothing. -/
theorem getNewConv_unsent (manager : ConvManager τ) :
    Keeps Unsent (manager.getNewConv : Proc v _) := by
  refine unsent_bind ask_unsent fun answer => ?_
  split
  · exact unsent_pure _
  · exact fun _ _ _ returned => absurd returned Returns.throw_iff

/-- A sweep of conversations sends nothing. -/
theorem clearInactive_unsent {ρ : Type} [Inhabited τ] (clear : τ → ρ → Exec ρ)
    (manager : ConvManager τ) (resources : ρ) :
    Keeps Unsent (manager.clearInactive clear resources : Proc v _) :=
  unsent_bind getCurrentTime_unsent fun _ => unsent_ite (unsent_pure _)
    (unsent_bind getCurrentTime_unsent fun _ => unsent_bind getCurrentTime_unsent fun _ =>
      unsent_lift _)

/-- A new connection sends nothing. -/
theorem newConnInfo_unsent (idle : σ) :
    Keeps Unsent (newConnInfo options idle : Proc v (ConnInfo options σ τ)) :=
  unsent_bind newRawInfo_unsent fun _ => unsent_bind ask_unsent fun _ =>
    unsent_bind ask_unsent fun _ => unsent_bind ask_unsent fun _ =>
      unsent_bind ask_unsent fun _ => unsent_pure _

/-- A prepared connection sends nothing. -/
theorem prepare_unsent (conn : ConnInfo options σ τ) : Keeps Unsent (conn.prepare : Proc v _) := by
  have blob : Keeps Unsent (newBlob : Proc v (Blob τ)) :=
    unsent_bind (unsent_bind ask_unsent fun _ => unsent_pure _) fun _ =>
      unsent_bind ask_unsent fun _ => unsent_bind getTrueRandomNumber64_unsent fun _ =>
        unsent_pure _
  exact unsent_bind (check_unsent _ _) fun _ => unsent_bind blob fun _ => unsent_pure _

/-! ### Packets that are sent -/

/-- A packet with a payload that a connection sends. -/
def RawInfo.SendsPayload (raw : RawInfo config) (payload packet : Bytes) : Prop :=
  ∃ env, packet =
    ipPacket config raw.sendInfo env.ipId (sentSegment config env raw.sendInfo payload)

/-- A packet that a connection sends. -/
def RawInfo.Sends (raw : RawInfo config) (packet : Bytes) : Prop :=
  ∃ env payload, packet =
    ipPacket config raw.sendInfo env.ipId (sentSegment config env raw.sendInfo payload)

/-- A packet has a payload. -/
theorem RawInfo.SendsPayload.sends {raw : RawInfo config} {payload packet : Bytes}
    (sends : raw.SendsPayload payload packet) : raw.Sends packet := by
  obtain ⟨env, rfl⟩ := sends
  exact ⟨env, payload, rfl⟩

/-- Every packet that was handed to the system is one that a connection sends, and the buffered
packet is the same. -/
structure SentBy (raw : RawInfo config) (before after : Machine v) : Prop where
  /-- The packets are the connection's. -/
  wire : ∃ packets, after.wire = before.wire ++ packets ∧ ∀ packet ∈ packets, raw.Sends packet
  /-- The same packet is buffered. -/
  packetBuf : after.packetBuf = before.packetBuf

section SentBy

variable {raw : RawInfo config} {a b c : Machine v}

/-- Nothing is sent. -/
theorem Unsent.sentBy (unsent : Unsent a b) (raw : RawInfo config) : SentBy raw a b :=
  ⟨⟨[], by rw [unsent.wire, List.append_nil], nofun⟩, unsent.packetBuf⟩

/-- Nothing is sent before. -/
theorem SentBy.after (sent : SentBy raw b c) (unsent : Unsent a b) : SentBy raw a c := by
  obtain ⟨packets, wire, sends⟩ := sent.wire
  exact ⟨⟨packets, by rw [wire, unsent.wire], sends⟩, sent.packetBuf.trans unsent.packetBuf⟩

/-- Nothing is sent afterwards. -/
theorem SentBy.unsent (sent : SentBy raw a b) (unsent : Unsent b c) : SentBy raw a c := by
  obtain ⟨packets, wire, sends⟩ := sent.wire
  exact ⟨⟨packets, by rw [unsent.wire, wire], sends⟩, unsent.packetBuf.trans sent.packetBuf⟩

/-- Who sends is known by what the next packet carries. -/
theorem SentBy.of_sendInfo (sent : SentBy raw a b) {other : RawInfo config}
    (same : raw.sendInfo = other.sendInfo) : SentBy other a b := by
  obtain ⟨packets, wire, sends⟩ := sent.wire
  refine ⟨⟨packets, wire, fun packet inside => ?_⟩, sent.packetBuf⟩
  obtain ⟨env, payload, rfl⟩ := sends packet inside
  exact ⟨env, payload, by rw [same]⟩

end SentBy

/-- `send_raw0` hands at most one packet with its payload to the system. -/
theorem sendRawPayload_packets {raw next : RawInfo options.raw} {payload : Bytes} {ret : Int}
    {before after : Machine v}
    (returned : Returns (sendRawPayload options raw payload) before (next, ret) after) :
    (∃ packets, after.wire = before.wire ++ packets ∧
      ∀ packet ∈ packets, raw.SendsPayload payload packet) ∧
    after.packetBuf = before.packetBuf := by
  simp only [sendRawPayload, Returns.bind_iff, Returns.pure_iff, Prod.mk.injEq] at returned
  obtain ⟨_, _, zero, answer, asked, one, time, timed, two, sent, _, lifted, _, _, three,
    ⟨rfl, -⟩, rfl⟩ := returned
  obtain ⟨ran, rfl⟩ := Returns.lift_iff.mp lifted
  obtain rfl := Returns.modify_iff.mp three
  have stamped : Unsent asked timed :=
    unsent_ite getCurrentTime_unsent (unsent_pure 0) _ _ _ two
  have early := ((record_unsent _ _ _ _ zero).trans (ask_unsent _ _ _ one)).trans stamped
  refine ⟨⟨sent.packet.toList, ?_, ?_⟩, early.packetBuf⟩
  · rw [early.wire]
  · intro packet passed
    exact ⟨_, sendRaw0_packet ran (Option.mem_toList.mp passed)⟩

/-- `send_raw0` sends a packet of the connection. -/
theorem sendRawPayload_sentBy {raw next : RawInfo options.raw} {payload : Bytes} {ret : Int}
    {before after : Machine v}
    (returned : Returns (sendRawPayload options raw payload) before (next, ret) after) :
    SentBy raw before after := by
  obtain ⟨⟨packets, wire, each⟩, packetBuf⟩ := sendRawPayload_packets returned
  exact ⟨⟨packets, wire, fun packet inside => (each packet inside).sends⟩, packetBuf⟩

/-- `send_handshake` sends a packet of the connection. -/
theorem sendHandshake_sentBy {raw next : RawInfo options.raw} {id1 id2 id3 : UInt32}
    {before after : Machine v}
    (returned : Returns (sendHandshake options raw id1 id2 id3) before next after) :
    SentBy raw before after := by
  simp only [sendHandshake, sendBare, Returns.bind_iff, Returns.pure_iff] at returned
  obtain ⟨⟨other, _⟩, _, ⟨iv, _, one, padding, _, two, output, _, three, returned⟩, rfl, rfl⟩ :=
    returned
  have early := ((getTrueRandomNumber64_unsent _ _ _ one).trans
    (getTrueRandomNumber64_unsent _ _ _ two)).trans (encryptMessage_unsent _ _ _ _ three)
  cases output with
  | none =>
    obtain ⟨-, rfl⟩ := Returns.pure_iff.mp returned
    exact early.sentBy _
  | some output =>
    simp only [Returns.bind_iff, Returns.pure_iff] at returned
    obtain ⟨⟨_, _⟩, _, four, -, rfl⟩ := returned
    exact (sendRawPayload_sentBy four).after early

/-- `send_safer` sends a packet of the connection. -/
theorem sendSafer_sentBy {conn next : ConnInfo options σ τ} {type : UInt8} {data : Bytes}
    {ret : Int} {before after : Machine v}
    (returned : Returns (sendSafer conn type data) before (next, ret) after) :
    SentBy conn.rawInfo before after := by
  unfold sendSafer at returned
  split at returned
  · obtain ⟨-, rfl⟩ := Returns.pure_iff.mp returned
    exact (Unsent.refl _).sentBy _
  simp only [Returns.bind_iff, Returns.lift_iff] at returned
  obtain ⟨blob, _, ⟨-, rfl⟩, output, m1, one, returned⟩ := returned
  have encrypted := encryptMessage_unsent _ _ _ _ one
  cases output with
  | none =>
    obtain ⟨-, rfl⟩ := Returns.pure_iff.mp returned
    exact encrypted.sentBy _
  | some bytes =>
    simp only [Returns.bind_iff] at returned
    obtain ⟨frame, m2, two, ⟨rawInfo, sent⟩, m3, three, returned⟩ := returned
    have framed := (sendRawPayload_sentBy three).after
      (encrypted.trans (saferFrame_unsent _ _ _ _ two))
    dsimp only at returned
    split at returned
    · obtain ⟨-, rfl⟩ := Returns.pure_iff.mp returned
      exact framed
    · simp only [Returns.bind_iff, Returns.pure_iff] at returned
      obtain ⟨answer, _, four, -, rfl⟩ := returned
      exact framed.unsent (ask_unsent _ _ _ four)

/-- A heartbeat is a packet of the connection. -/
theorem sendHeartbeat_sentBy {conn next : ConnInfo options σ τ} {before after : Machine v}
    (returned : Returns (sendHeartbeat conn) before next after) :
    SentBy conn.rawInfo before after := by
  simp only [sendHeartbeat, Returns.bind_iff, Returns.pure_iff] at returned
  obtain ⟨⟨_, _⟩, _, sent, rfl, rfl⟩ := returned
  exact sendSafer_sentBy sent

/-- A datagram is a packet of the connection. -/
theorem sendDataSafer_sentBy {conn next : ConnInfo options σ τ} {data : Bytes} {convNum : UInt32}
    {before after : Machine v}
    (returned : Returns (sendDataSafer conn data convNum) before next after) :
    SentBy conn.rawInfo before after := by
  simp only [sendDataSafer, Returns.bind_iff, Returns.pure_iff] at returned
  obtain ⟨_, _, recorded, ⟨_, _⟩, _, sent, rfl, rfl⟩ := returned
  exact (sendSafer_sentBy sent).after (record_unsent _ _ _ _ recorded)

end Udp2raw
