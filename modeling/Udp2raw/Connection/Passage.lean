import Udp2raw.Connection.KeySchedules
import Udp2raw.Connection.OnePacket

/-!
# A message that arrives

A safer message goes through the encryption, the framing and a packet of the tunnel's mode. When
that packet reaches the other end of the session as it went on the wire, `recv_safer_multi` hands
on the message with its number, its type and its data, unless the window there refuses the number.
-/
namespace Udp2raw

open Proc
open BlockModes (blockOf)

variable {v : IpVersion} {config peer : RawConfig v} {options sender receiver : Options v}
  {m m' : Machine v} {σ τ σ' τ' : Type} [DecidableEq τ] [DecidableEq τ']

/-- Two ends of a tunnel: opposite roles with the same encryption, framing and mode. -/
structure TunnelPeers (sender receiver : Options v) : Prop where
  /-- The same library functions. -/
  prim : receiver.prim = sender.prim
  /-- The same modes of the encryption. -/
  crypto : receiver.crypto = sender.crypto
  /-- Keys from one password for the two roles. -/
  keys : ∃ userPasswd isClient, sender.keys = myInitKeys sender.prim userPasswd isClient ∧
    receiver.keys = myInitKeys sender.prim userPasswd (!isClient)
  /-- The same framing. -/
  framing : receiver.fixGro = sender.fixGro
  /-- The same mode of the packets. -/
  mode : receiver.raw.rawMode = sender.raw.rawMode
  /-- Opposite roles. -/
  role : receiver.raw.programMode ≠ sender.raw.programMode

/-- The keys of the two ends belong together. -/
theorem TunnelPeers.keyPeers (peers : TunnelPeers sender receiver) :
    Peers sender.keys receiver.keys := by
  obtain ⟨userPasswd, isClient, senderKeys, receiverKeys⟩ := peers.keys
  rw [senderKeys, receiverKeys]
  exact myInitKeys_peers sender.prim userPasswd isClient

/-- The packets of a connection are addressed to another one: they have the protocol of their mode,
the address that the receiver is bound to and the port that it filters for, or the identifier that
it expects. -/
structure Aimed (raw : RawInfo config) (filterPort : UInt16) (target : RawInfo peer) : Prop where
  /-- The protocol. -/
  protocol : raw.sendInfo.protocol = config.rawMode.protocol v
  /-- The address. -/
  bound : ∀ addr, peer.bindAddr = some addr → raw.sendInfo.newDstIp = addr
  /-- The port. -/
  port : config.rawMode ≠ .icmp → filterPort = raw.sendInfo.dstPort
  /-- The identifier. -/
  identifier : config.rawMode = .icmp → target.sendInfo.srcPort = raw.sendInfo.srcPort

/-- The address that the packets of a connection come from. -/
def RawInfo.origin (raw : RawInfo config) : Address v :=
  ⟨raw.sendInfo.newSrcIp, raw.sendInfo.srcPort⟩

/-- A connection that goes on aiming at the same place, with or without a `SYN` as before. -/
structure RawInfo.SameAim (before after : RawInfo config) : Prop where
  /-- The protocol is the same. -/
  protocol : after.sendInfo.protocol = before.sendInfo.protocol
  /-- The address is the same. -/
  newDstIp : after.sendInfo.newDstIp = before.sendInfo.newDstIp
  /-- The own address is the same. -/
  newSrcIp : after.sendInfo.newSrcIp = before.sendInfo.newSrcIp
  /-- The port is the same. -/
  dstPort : after.sendInfo.dstPort = before.sendInfo.dstPort
  /-- The identifier is the same. -/
  srcPort : after.sendInfo.srcPort = before.sendInfo.srcPort
  /-- The flag is the same. -/
  syn : after.sendInfo.syn = before.sendInfo.syn

namespace RawInfo.SameAim

/-- Standing still. -/
theorem refl (raw : RawInfo config) : SameAim raw raw := ⟨rfl, rfl, rfl, rfl, rfl, rfl⟩

/-- One after the other. -/
theorem trans {a b c : RawInfo config} (one : SameAim a b) (two : SameAim b c) : SameAim a c :=
  ⟨two.protocol.trans one.protocol, two.newDstIp.trans one.newDstIp,
    two.newSrcIp.trans one.newSrcIp, two.dstPort.trans one.dstPort,
    two.srcPort.trans one.srcPort, two.syn.trans one.syn⟩

/-- The packets come from the same address. -/
theorem origin {before after : RawInfo config} (same : SameAim before after) :
    after.origin = before.origin := by
  rw [RawInfo.origin, same.newSrcIp, same.srcPort, RawInfo.origin]

end RawInfo.SameAim

/-- The aim outlives changes of the two connections that keep it. -/
theorem Aimed.keep {raw raw' : RawInfo config} {filterPort : UInt16} {target target' : RawInfo peer}
    (aimed : Aimed raw filterPort target) (same : raw.SameAim raw')
    (srcPort : target'.sendInfo.srcPort = target.sendInfo.srcPort) :
    Aimed raw' filterPort target' where
  protocol := same.protocol.trans aimed.protocol
  bound addr only := same.newDstIp.trans (aimed.bound addr only)
  port other := (aimed.port other).trans same.dstPort.symm
  identifier icmp := srcPort.trans ((aimed.identifier icmp).trans same.srcPort.symm)

/-! ### The window -/

/-- Every number from this one on is new to the window. -/
def AntiReplay.Behind (disableAntiReplay : Bool) (ar : AntiReplay) (seq : UInt64) : Prop :=
  disableAntiReplay = false → ar.maxPacketReceived.toNat < seq.toNat

namespace AntiReplay.Behind

variable {disableAntiReplay : Bool} {ar : AntiReplay} {seq : UInt64}

/-- The window takes the number. -/
theorem takes (behind : Behind disableAntiReplay ar seq) :
    (isVaild disableAntiReplay ar seq).1 = true := by
  cases disableAntiReplay with
  | true => rfl
  | false =>
    have newer := behind rfl
    simp only [isVaild, Bool.false_eq_true, if_false]
    rw [if_neg (by omega), if_pos newer]
    split
    · rfl
    · rfl

/-- It is behind every later number then. -/
theorem takes_next {next : UInt64} (behind : Behind disableAntiReplay ar seq)
    (later : seq.toNat < next.toNat) :
    Behind disableAntiReplay (isVaild disableAntiReplay ar seq).2 next := by
  rintro rfl
  have newer := behind rfl
  simp only [isVaild, Bool.false_eq_true, if_false]
  rw [if_neg (by omega), if_pos newer]
  split
  · exact later
  · exact later

end AntiReplay.Behind

/-! ### The packet -/

/-- A packet that is not too long to be received is delivered to the connection that it is aimed
at. -/
theorem RawInfo.SendsPayload.delivers {raw : RawInfo config} {payload packet : Bytes}
    (sends : raw.SendsPayload payload packet) (mode : peer.rawMode = config.rawMode)
    (role : peer.programMode ≠ config.programMode) {filterPort : UInt16} {target : RawInfo peer}
    (aimed : Aimed raw filterPort target) {capture : Capture}
    (arrived : capture.packet = onWire config packet)
    (short : capture.packet.length ≤ maxDataLen) :
    payload.length ≤ maxDataLen ∧ ∃ now, Delivers capture config.rawMode now raw.sendInfo payload
      (recvRaw0 peer filterPort capture target) := by
  obtain ⟨env, rfl⟩ := sends
  have size := sentSegment_length config env raw.sendInfo payload
  have limit : maxDataLen = 1800 := rfl
  have total : capture.packet.length = v.headerSize +
      (config.rawMode.sentHeaderSize raw.sendInfo.syn + payload.length) := by
    rw [arrived, onWire_ipPacket, List.length_append, wireHeader_length, size]
  have wire := wire_onWire config raw.sendInfo env.ipId
    (sentSegment config env raw.sendInfo payload) capture.stale (by omega)
  rw [← onWire_ipPacket, ← arrived] at wire
  have protocol := aimed.protocol
  refine ⟨by omega, env.now, ?_⟩
  cases sending : config.rawMode with
  | faketcp =>
    simp only [sentSegment, sending] at wire
    simp only [recvRaw0, mode, sending, aimed.port (by simp [sending])]
    exact wire.recvRawTcp aimed.bound (by rw [protocol, sending]; rfl)
  | udp =>
    simp only [sentSegment, sending] at wire
    simp only [RawMode.sentHeaderSize, sending, udpHeaderSize] at total
    simp only [recvRaw0, mode, sending, aimed.port (by simp [sending])]
    exact wire.recvRawUdp env.now aimed.bound (by rw [protocol, sending]; rfl)
      (by simp only [udpHeaderSize]; omega)
  | icmp =>
    simp only [sentSegment, sending] at wire
    simp only [RawMode.sentHeaderSize, sending, icmpHeaderSize] at total
    simp only [recvRaw0, mode, sending]
    exact wire.recvRawIcmp env.now aimed.bound (by rw [protocol, sending]; rfl)
      (by simp only [icmpHeaderSize]; omega) role (aimed.identifier sending)

/-- What the parsers deliver is the payload of the buffered packet. -/
theorem recvRawPayload_delivers {raw : RawInfo options.raw} {payload : Bytes} {mode : RawMode}
    {now : Nat} {info : PacketInfo v} (one : m.packetBufCnt = 1)
    (delivers : Delivers m.packetBuf mode now info payload
      (recvRaw0 options.raw m.filterPort m.packetBuf raw)) :
    ∃ next after, Returns (recvRawPayload options raw) m (next, some payload) after ∧
      next.source = ⟨info.newSrcIp, info.srcPort⟩ := by
  obtain ⟨carries, segment, parsed, content⟩ := delivers
  cases result : recvRaw0 options.raw m.filterPort m.packetBuf raw with
  | mk next received =>
    rw [result] at parsed carries
    have source : next.source = ⟨info.newSrcIp, info.srcPort⟩ := by
      have ip := carries.1
      have port : next.recvInfo.srcPort = info.srcPort := by
        have rest := carries.2.2
        cases mode with
        | faketcp => exact rest.ports.1
        | udp => exact rest.1
        | icmp => exact rest.1
      rw [RawInfo.source, ← ip, ← port]
    have given : received = .payload segment := parsed
    refine ⟨next, { m with packetBufCnt := if raw.peek then 1 else 0 }, ?_, source⟩
    simp only [recvRawPayload, Returns.bind_iff, Returns.get_iff, check_iff, decide_eq_true_eq,
      Returns.modify_iff]
    refine ⟨m, m, ⟨rfl, rfl⟩, (), m, ⟨one, rfl⟩, (), _, rfl, ?_⟩
    rw [result, given]
    exact Returns.pure_iff.mpr ⟨by rw [content], rfl⟩

/-! ### The sender -/

/-- What a scheduled process sends for a ciphertext. -/
def frameBytes (options : Options v) (output : Bytes) : Bytes :=
  if options.fixGro then sealBytes options (BigEndian.encode 2 output.length ++ output) else output

/-- A scheduled process frames with its own key. -/
theorem saferFrame_pure {output frame : Bytes} (scheduled : Scheduled options m)
    (returned : Returns (saferFrame options output) m frame m') :
    frame = frameBytes options output := by
  unfold saferFrame at returned
  unfold frameBytes
  split at returned
  · rename_i gro
    rw [if_pos gro]
    exact (groSeal_pure scheduled returned).1
  · rename_i plain
    rw [if_neg plain]
    exact (Returns.pure_iff.mp returned).1.symm

/-- No packet was handed over by a part of a run that sends none. -/
theorem Unsent.no_packet {packet : Bytes} (unsent : Unsent m m')
    (wire : m'.wire = m.wire ++ [packet]) : False := by
  have lengths := congrArg List.length (unsent.wire.symm.trans wire)
  simp at lengths

/-- The packet of a call of `send_safer` carries the frame of its message. -/
theorem sendSafer_packet {conn next : ConnInfo options σ τ} {blob : Blob τ}
    (allocated : conn.blob = some blob) {type : UInt8} {data packet : Bytes} {ret : Int}
    (scheduled : Scheduled options m)
    (returned : Returns (sendSafer conn type data) m (next, ret) m')
    (wire : m'.wire = m.wire ++ [packet]) :
    (type = typeHeartbeat ∨ type = typeData) ∧ ∃ junk output,
      pureEncrypt options.prim options.crypto options.keys junk (saferMessage conn.myId
        conn.oppsiteId blob.antiReplay.antiReplaySeq type conn.myRoller data) = some output ∧
      conn.rawInfo.SendsPayload (frameBytes options output) packet := by
  unfold sendSafer at returned
  split at returned
  · obtain ⟨-, rfl⟩ := Returns.pure_iff.mp returned
    exact absurd wire fun same => (Unsent.refl _).no_packet same
  rename_i good
  have known : type = typeHeartbeat ∨ type = typeData := by
    by_cases heartbeat : type = typeHeartbeat
    · exact .inl heartbeat
    · exact .inr (Classical.byContradiction fun other => good ⟨heartbeat, other⟩)
  refine ⟨known, ?_⟩
  simp only [Returns.bind_iff, Returns.lift_iff, ConnInfo.theBlob, allocated, Except.ok.injEq]
    at returned
  obtain ⟨_, _, ⟨rfl, rfl⟩, output, m1, one, returned⟩ := returned
  have early := encryptMessage_unsent _ _ _ _ one
  cases output with
  | none =>
    obtain ⟨-, rfl⟩ := Returns.pure_iff.mp returned
    exact absurd wire early.no_packet
  | some output =>
    obtain ⟨⟨junk, encrypted⟩, holds⟩ := encryptMessage_pure scheduled one
    simp only [Returns.bind_iff] at returned
    obtain ⟨frame, m2, two, ⟨rawInfo, sent⟩, m3, three, returned⟩ := returned
    have built := saferFrame_pure holds two
    have framed := early.trans (saferFrame_unsent _ _ _ _ two)
    have late : Unsent m3 m' := by
      dsimp only at returned
      split at returned
      · obtain ⟨-, rfl⟩ := Returns.pure_iff.mp returned
        exact .refl _
      · simp only [Returns.bind_iff, Returns.pure_iff] at returned
        obtain ⟨answer, _, four, -, rfl⟩ := returned
        exact ask_unsent _ _ _ four
    obtain ⟨⟨passed, grown, each⟩, -⟩ := sendRawPayload_one three
    rw [late.wire, grown, framed.wire] at wire
    have single := List.append_cancel_left wire
    refine ⟨junk, output, encrypted, ?_⟩
    rw [← built]
    cases passed with
    | none => simp at single
    | some bytes =>
      have same : bytes = packet := by simpa using single
      exact same ▸ each bytes rfl

/-- A send keeps the aim. -/
theorem sendRaw0_aim {env : SendEnv} {raw : RawInfo config} {payload : Bytes} {sent : Sent config}
    (ran : sendRaw0 config env raw payload = .ok sent) : raw.SameAim sent.raw := by
  unfold sendRaw0 at ran
  split at ran
  · obtain rfl := Except.ok.inj ran
    exact .refl _
  · cases mode : config.rawMode <;> simp only [mode] at ran
    case faketcp =>
      simp only [sendRawTcp, bind, Except.bind] at ran
      split at ran
      · contradiction
      · rename_i middle inner
        have same := sendRawIp_raw inner
        split at ran <;> obtain rfl := Except.ok.inj ran <;> rw [← same] <;>
          exact ⟨rfl, rfl, rfl, rfl, rfl, rfl⟩
    case udp =>
      simp only [sendRawUdp, bind, Except.bind] at ran
      split at ran
      · obtain rfl := Except.ok.inj ran
        exact .refl _
      · split at ran
        · contradiction
        · rename_i middle inner
          have same := sendRawIp_raw inner
          split at ran <;> obtain rfl := Except.ok.inj ran <;> rw [← same] <;> exact .refl _
    case icmp =>
      simp only [sendRawIcmp, bind, Except.bind] at ran
      split at ran
      · contradiction
      · rename_i middle inner
        have same := sendRawIp_raw inner
        split at ran <;> obtain rfl := Except.ok.inj ran <;> rw [← same] <;> exact .refl _

/-- The bookkeeping after a send keeps the aim. -/
theorem afterSendRaw0_aim (env : SendEnv) (raw : RawInfo config) :
    raw.SameAim (afterSendRaw0 env raw) := by
  unfold afterSendRaw0
  dsimp only
  repeat' split
  all_goals exact ⟨rfl, rfl, rfl, rfl, rfl, rfl⟩

/-- A send of the process keeps the aim. -/
theorem sendRawPayload_aim {raw next : RawInfo options.raw} {payload : Bytes} {ret : Int}
    (returned : Returns (sendRawPayload options raw payload) m (next, ret) m') :
    raw.SameAim next := by
  simp only [sendRawPayload, Returns.bind_iff, Returns.pure_iff, Prod.mk.injEq] at returned
  obtain ⟨_, _, -, answer, _, -, time, _, -, sent, _, lifted, _, _, -, ⟨rfl, -⟩, -⟩ := returned
  exact sendRaw0_aim (Returns.lift_iff.mp lifted).1

/-- A call of `send_safer` keeps the aim. -/
theorem sendSafer_aim {conn next : ConnInfo options σ τ} {type : UInt8} {data : Bytes} {ret : Int}
    (returned : Returns (sendSafer conn type data) m (next, ret) m') :
    conn.rawInfo.SameAim next.rawInfo := by
  unfold sendSafer at returned
  split at returned
  · obtain ⟨same, -⟩ := Returns.pure_iff.mp returned
    obtain ⟨rfl, -⟩ := Prod.mk.inj same
    exact .refl _
  simp only [Returns.bind_iff, Returns.lift_iff] at returned
  obtain ⟨blob, _, -, output, _, -, returned⟩ := returned
  cases output with
  | none =>
    obtain ⟨same, -⟩ := Returns.pure_iff.mp returned
    obtain ⟨rfl, -⟩ := Prod.mk.inj same
    exact .refl _
  | some output =>
    simp only [Returns.bind_iff] at returned
    obtain ⟨frame, _, -, ⟨rawInfo, sent⟩, _, passed, returned⟩ := returned
    have aim := sendRawPayload_aim passed
    dsimp only at returned
    split at returned
    · obtain ⟨same, -⟩ := Returns.pure_iff.mp returned
      obtain ⟨rfl, -⟩ := Prod.mk.inj same
      exact aim
    · simp only [Returns.bind_iff, Returns.pure_iff, Prod.mk.injEq] at returned
      obtain ⟨answer, _, -, ⟨rfl, -⟩, -⟩ := returned
      exact aim.trans (afterSendRaw0_aim answer.send rawInfo)

/-! ### The receiver -/

/-- A connection took a number into its window and is otherwise as before, as far as the next
message is concerned. -/
structure ConnInfo.Took (conn : ConnInfo options σ τ) (window : Blob τ) (seq : UInt64)
    (next : ConnInfo options σ τ) : Prop where
  /-- It is in the same state. -/
  state : next.state = conn.state
  /-- It has the same identifier. -/
  myId : next.myId = conn.myId
  /-- The other end has the same identifier. -/
  oppsiteId : next.oppsiteId = conn.oppsiteId
  /-- Its window knows the number. -/
  blob : next.blob = some { window with
    antiReplay := (window.antiReplay.isVaild options.disableAntiReplay seq).2 }
  /-- It expects the same identifier in a packet. -/
  srcPort : next.rawInfo.sendInfo.srcPort = conn.rawInfo.sendInfo.srcPort
  /-- It sends to the same address. -/
  destination : next.rawInfo.destination = conn.rawInfo.destination

/-- The bookkeeping after a receipt keeps the identifier. -/
theorem afterRecvRaw0_srcPort (raw : RawInfo config) :
    (afterRecvRaw0 raw).sendInfo.srcPort = raw.sendInfo.srcPort := by
  unfold afterRecvRaw0
  dsimp only
  repeat' split
  all_goals rfl

/-- A good message goes into the window of its connection. -/
theorem ConnInfo.took_receive (conn : ConnInfo options σ τ) (window : Blob τ) (seq : UInt64)
    (roller type : UInt8) (time : Nat) :
    let next := ((conn.withAntiReplay window
      (window.antiReplay.isVaild options.disableAntiReplay seq).2).rolled roller time).receive type
    conn.Took window seq next ∧ next.rawInfo.source = conn.rawInfo.source := by
  have same (next : ConnInfo options σ τ) :
      (next.rolled roller time).state = next.state ∧ (next.rolled roller time).myId = next.myId ∧
        (next.rolled roller time).oppsiteId = next.oppsiteId ∧
        (next.rolled roller time).blob = next.blob ∧
        (next.rolled roller time).rawInfo = next.rawInfo := by
    unfold rolled
    split
    · exact ⟨rfl, rfl, rfl, rfl, rfl⟩
    · exact ⟨rfl, rfl, rfl, rfl, rfl⟩
  obtain ⟨state, myId, oppsiteId, blob, rawInfo⟩ := same (conn.withAntiReplay window
    (window.antiReplay.isVaild options.disableAntiReplay seq).2)
  have peer := afterRecvRaw0_peer conn.rawInfo
  have srcPort := afterRecvRaw0_srcPort conn.rawInfo
  intro next
  have raw : next.rawInfo = afterRecvRaw0 conn.rawInfo := congrArg afterRecvRaw0 rawInfo
  rw [← raw] at peer srcPort
  exact ⟨⟨state, myId, oppsiteId, blob, srcPort, peer.destination⟩, peer.source⟩

section Receiver

variable {remote : ConnInfo receiver σ' τ'} {window : Blob τ'} {myId oppsiteId : UInt32}
  {seq : UInt64} {type roller : UInt8} {data output : Bytes} {junk : Nat → UInt8}

/-- The other end of a session parses a message as its window says. -/
theorem reservedParseSafer_message (peers : TunnelPeers sender receiver)
    (allocated : remote.blob = some window) (scheduled : Scheduled receiver m)
    (known : type = typeHeartbeat ∨ type = typeData)
    (encrypted : pureEncrypt sender.prim sender.crypto sender.keys junk
      (saferMessage remote.oppsiteId remote.myId seq type roller data) = some output)
    (fits : output.length ≤ maxDataLen) :
    ∃ next after, Returns (reservedParseSafer remote output) m
        (next, if (window.antiReplay.isVaild receiver.disableAntiReplay seq).1 then
          some ⟨seq, type, data⟩ else none) after ∧
      ((window.antiReplay.isVaild receiver.disableAntiReplay seq).1 = true →
        remote.Took window seq next ∧ next.rawInfo.source = remote.rawInfo.source) := by
  have total := reservedParseSafer_total allocated output m
  obtain ⟨⟨next, frame⟩, after, returned, -⟩ := total
  have decided := reservedParseSafer_verdict allocated returned
  have size := saferMessage_length remote.oppsiteId remote.myId seq type roller data
  have message := pureEncrypt_roundtrip peers.keyPeers (by omega) encrypted fits
  rw [size] at message
  have same : (myDecrypt receiver.prim receiver.crypto receiver.keys m.aes output).1 =
      pureDecrypt receiver.prim receiver.crypto receiver.keys output :=
    (myDecrypt_pure scheduled output).1
  dsimp only at decided
  rw [same, peers.prim, peers.crypto, message.1] at decided
  have covered := congrArg List.length message.2
  rw [List.length_take, size] at covered
  have whole : (m.saferBuf.write (pureDecrypt sender.prim sender.crypto receiver.keys
      output).written).read 0 (18 + data.length) =
      saferMessage remote.oppsiteId remote.myId seq type roller data := by
    rw [Scratch.read_write _ (by omega), message.2]
  generalize m.saferBuf.write (pureDecrypt sender.prim sender.crypto receiver.keys
    output).written = buffer at decided whole
  have header : buffer.read 0 16 =
      (saferMessage remote.oppsiteId remote.myId seq type roller data).take 16 := by
    rw [← whole, Scratch.read_take buffer 0 (by omega)]
  have addresses : remote.Addresses (buffer.read 0 16) := by
    have ids := idAt_saferMessage remote.oppsiteId remote.myId seq type roller data
    constructor
    · rw [header, idAt_take _ (by omega), ids.1]
    · rw [header, idAt_take _ (by omega), ids.2]
  have number : seqOf (buffer.read 0 16) = seq := by
    rw [header]
    exact seq_saferMessage ..
  have typed : buffer 16 = type := by
    have read := Scratch.getElem?_read buffer (show 16 < 18 + data.length by omega)
    rw [whole, type_saferMessage] at read
    exact (Option.some.inj read).symm
  have content : buffer.read 18 (18 + data.length - 18) = data := by
    have read := Scratch.read_drop buffer 0 (18 + data.length) 18
    rw [whole, data_saferMessage] at read
    exact read.symm
  by_cases valid : (window.antiReplay.isVaild receiver.disableAntiReplay seq).1 = true
  · rw [ConnInfo.verdict_admitted ⟨addresses, by rw [number]; exact valid⟩] at decided
    have good : ¬(type ≠ typeHeartbeat ∧ type ≠ typeData) := fun wrong =>
      known.elim wrong.1 wrong.2
    have long : ¬18 + data.length < 18 := by omega
    simp only [number, typed, content, if_neg good, if_neg long, Prod.mk.injEq] at decided
    rw [decided.2] at returned
    rw [if_pos valid]
    refine ⟨next, after, returned, fun _ => ?_⟩
    rw [decided.1]
    exact remote.took_receive window seq _ _ _
  · rw [ConnInfo.verdict_foreign fun admits => valid (by rw [← number]; exact admits.2)] at decided
    rw [(Prod.mk.inj decided).2] at returned
    rw [if_neg valid]
    exact ⟨next, after, returned, fun other => absurd other valid⟩

/-- The loop takes the only frame of a payload off and parses its message. -/
theorem recvFrames_single (peers : GroPeers sender receiver) (long : 16 ≤ output.length)
    (fits : output.length ≤ maxDataLen) (scheduled : Scheduled receiver m) {frame : Option Frame}
    {good : ConnInfo receiver σ' τ' → Prop}
    (parses : ∀ opened : Machine v, Scheduled receiver opened → ∃ next after,
      Returns (reservedParseSafer remote output) opened (next, frame) after ∧ good next) :
    ∃ next after, Returns (recvFrames remote
        (sealBytes sender (BigEndian.encode 2 output.length ++ output))) m
        (next, frame.toList) after ∧ good next := by
  have inner : 16 ≤ (BigEndian.encode 2 output.length ++ output).length := by
    rw [List.length_append]
    omega
  have sealed : (sealBytes sender (BigEndian.encode 2 output.length ++ output)).length =
      2 + output.length := by
    rw [sealBytes_length sender inner, List.length_append, BigEndian.encode_length]
  have total : Total (groOpen receiver
      (blockOf 16 (sealBytes sender (BigEndian.encode 2 output.length ++ output)))) :=
    groOpen_total _
  obtain ⟨block, opened, uncovered, -⟩ := total m
  obtain ⟨rfl, holds⟩ := groOpen_pure scheduled uncovered
  obtain ⟨next, after, parsed, fine⟩ := parses opened holds
  have whole := openBlock_sealBytes peers inner []
  simp only [List.append_nil] at whole
  have length : (BigEndian.encode 2 output.length).length = 2 := BigEndian.encode_length 2 _
  have single : BigEndian.decode ((BigEndian.encode 2 output.length ++ output).take 2) =
      output.length := by
    have limit : maxDataLen = 1800 := rfl
    rw [List.take_append_of_le_length (by omega), List.take_of_length_le (by omega),
      BigEndian.decode_encode_of_lt (by omega)]
  have behind : (BigEndian.encode 2 output.length ++ output).drop 2 = output :=
    List.drop_left' length
  have nothing : Returns (recvFrames next []) after (next, []) after := by
    rw [recvFrames, if_neg (by simp)]
    exact Returns.pure_iff.mpr ⟨rfl, rfl⟩
  refine ⟨next, after, ?_, fine⟩
  rw [recvFrames, if_pos (by omega)]
  simp only [Returns.bind_iff]
  refine ⟨_, _, uncovered, ?_⟩
  rw [whole, single, behind, if_neg (by omega), if_neg (Nat.not_lt.mpr fits), List.take_length,
    List.drop_length]
  simp only [Returns.bind_iff, Returns.pure_iff]
  exact ⟨_, _, parsed, _, _, nothing, by rw [List.append_nil], rfl⟩

end Receiver

/-- A safer message that is handed to the system in a packet and arrives as it went on the wire is
handed on by the other end of its session, with its number, its type and its data, if the window
there takes the number, and otherwise nothing is. -/
theorem sendSafer_recvSaferMulti (peers : TunnelPeers sender receiver)
    (conn next : ConnInfo sender σ τ) (blob : Blob τ) (allocated : conn.blob = some blob)
    (type : UInt8) (data : Bytes) (ret : Int) (m m' : Machine v) (packet : Bytes)
    (scheduled : Scheduled sender m)
    (returned : Returns (sendSafer conn type data) m (next, ret) m')
    (wire : m'.wire = m.wire ++ [packet])
    (remote : ConnInfo receiver σ' τ') (window : Blob τ') (waiting : remote.blob = some window)
    (mine : remote.oppsiteId = conn.myId) (theirs : remote.myId = conn.oppsiteId)
    (machine : Machine v) (remoteScheduled : Scheduled receiver machine)
    (arrived : machine.packetBuf.packet = onWire sender.raw packet)
    (one : machine.packetBufCnt = 1) (short : machine.packetBuf.packet.length ≤ maxDataLen)
    (aimed : Aimed conn.rawInfo machine.filterPort remote.rawInfo) :
    ∃ frames next' machine', Returns (recvSaferMulti remote) machine (next', frames) machine' ∧
      (frames = if (window.antiReplay.isVaild receiver.disableAntiReplay
          blob.antiReplay.antiReplaySeq).1 then
        [⟨blob.antiReplay.antiReplaySeq, type, data⟩] else []) ∧
      ((window.antiReplay.isVaild receiver.disableAntiReplay blob.antiReplay.antiReplaySeq).1 =
          true → remote.Took window blob.antiReplay.antiReplaySeq next' ∧
        next'.rawInfo.source = conn.rawInfo.origin) := by
  obtain ⟨known, junk, output, encrypted, sends⟩ :=
    sendSafer_packet allocated scheduled returned wire
  obtain ⟨bounded, now, delivers⟩ := sends.delivers peers.mode peers.role aimed arrived short
  obtain ⟨rawInfo, middle, received, source⟩ := recvRawPayload_delivers one delivers
  have holds := ((recvRawPayload_keyed remote.rawInfo _ _ _ received).run remoteScheduled).1
  obtain ⟨-, -, -, heard, -⟩ := recvRawPayload_logged received
  rw [← mine, ← theirs] at encrypted
  have size := saferMessage_length remote.oppsiteId remote.myId blob.antiReplay.antiReplaySeq type
    conn.myRoller data
  have long := pureEncrypt_length (by omega) encrypted
  let fresh : ConnInfo receiver σ' τ' := { remote with rawInfo }
  have parses (fits : output.length ≤ maxDataLen) (opened : Machine v)
      (ready : Scheduled receiver opened) :=
    @reservedParseSafer_message _ _ _ _ _ _ _ fresh _ _ _ _ _ _ _ peers waiting ready known
      encrypted fits
  have took (next' : ConnInfo receiver σ' τ')
      (fine : fresh.Took window blob.antiReplay.antiReplaySeq next' ∧
        next'.rawInfo.source = fresh.rawInfo.source) :
      remote.Took window blob.antiReplay.antiReplaySeq next' ∧
        next'.rawInfo.source = conn.rawInfo.origin := by
    obtain ⟨fine, same⟩ := fine
    have destination : fresh.rawInfo.destination = remote.rawInfo.destination := by
      rw [RawInfo.destination, heard.sendInfo, RawInfo.destination]
    exact ⟨⟨fine.state, fine.myId, fine.oppsiteId, fine.blob,
      fine.srcPort.trans (congrArg PacketInfo.srcPort heard.sendInfo),
      fine.destination.trans destination⟩, same.trans source⟩
  suffices handed : ∃ next' machine', Returns (recvSaferMulti remote) machine
      (next', (if (window.antiReplay.isVaild receiver.disableAntiReplay
          blob.antiReplay.antiReplaySeq).1 then
        some (⟨blob.antiReplay.antiReplaySeq, type, data⟩ : Frame) else none).toList) machine' ∧
      ((window.antiReplay.isVaild receiver.disableAntiReplay blob.antiReplay.antiReplaySeq).1 =
        true → fresh.Took window blob.antiReplay.antiReplaySeq next' ∧
          next'.rawInfo.source = fresh.rawInfo.source) by
    obtain ⟨next', machine', ran, fine⟩ := handed
    refine ⟨_, next', machine', ran, ?_, fun valid => took next' (fine valid)⟩
    split
    · rfl
    · rfl
  simp only [recvSaferMulti, Returns.bind_iff]
  by_cases gro : sender.fixGro = true
  · have frame : frameBytes sender output =
        sealBytes sender (BigEndian.encode 2 output.length ++ output) := if_pos gro
    have sealed := sealBytes_length sender
      (show 16 ≤ (BigEndian.encode 2 output.length ++ output).length by
        rw [List.length_append]
        omega)
    rw [List.length_append, BigEndian.encode_length, ← frame] at sealed
    have glued : GroPeers sender receiver :=
      ⟨peers.prim, peers.crypto, peers.keys, gro, peers.framing.trans gro⟩
    have fits : output.length ≤ maxDataLen := by omega
    obtain ⟨next', machine', looped, fine⟩ :=
      @recvFrames_single _ _ _ _ _ _ _ fresh _ glued (by omega) fits holds _ _
        (parses fits)
    refine ⟨next', machine', ⟨_, _, received, ?_⟩, fine⟩
    dsimp only
    rw [if_neg (by rw [glued.receives]; decide), frame]
    exact looped
  · have plain : frameBytes sender output = output := if_neg gro
    rw [plain] at bounded received
    obtain ⟨next', machine', parsed, fine⟩ := parses bounded middle holds
    refine ⟨next', machine', ⟨_, _, received, ?_⟩, fine⟩
    dsimp only
    rw [if_pos (by rw [peers.framing]; exact Bool.not_eq_true _ ▸ gro)]
    simp only [Returns.bind_iff, Returns.pure_iff]
    exact ⟨_, _, parsed, rfl, rfl⟩

/-! ### Datagrams -/

/-- A datagram is a safer message, sent after a note in the record. -/
theorem sendDataSafer_safer {conn next : ConnInfo sender σ τ} {bytes : Bytes} {conv : UInt32}
    {before after : Machine v}
    (returned : Returns (sendDataSafer conn bytes conv) before next after) :
    ∃ first ret, first.wire = before.wire ∧
      (Scheduled sender before → Scheduled sender first) ∧
      Returns (sendSafer conn typeData (BigEndian.encode 4 conv.toNat ++ bytes)) first (next, ret)
        after := by
  simp only [sendDataSafer, Returns.bind_iff, Returns.pure_iff] at returned
  obtain ⟨_, first, recorded, ⟨_, ret⟩, _, sent, rfl, rfl⟩ := returned
  have spoken :
      Keeps (Keyed sender) (record (.sendDataSafer conn.myId conn.oppsiteId conv bytes)) :=
    record_keyed trivial
  exact ⟨first, ret, (record_unsent _ _ _ _ recorded).wire,
    fun scheduled => ((spoken _ _ _ recorded).run scheduled).1, sent⟩

/-- A sent datagram leaves a connection in its session with the next number. -/
theorem sendDataSafer_next {conn next : ConnInfo sender σ τ} {blob : Blob τ} {bytes : Bytes}
    {conv : UInt32} {before after : Machine v} (allocated : conn.blob = some blob)
    (returned : Returns (sendDataSafer conn bytes conv) before next after) :
    next.myId = conn.myId ∧ next.oppsiteId = conn.oppsiteId ∧
      next.blob = some { blob with antiReplay := blob.antiReplay.getNewSeqForSend.2 } ∧
      conn.rawInfo.SameAim next.rawInfo := by
  obtain ⟨_, _, -, -, sent⟩ := sendDataSafer_safer returned
  obtain ⟨-, wrong, -⟩ | ⟨-, _, safe⟩ := sendSafer_ran sent
  · exact absurd rfl wrong
  · obtain rfl := Option.some.inj (allocated.symm.trans safe.allocated)
    exact ⟨safe.kept.myId, safe.kept.oppsiteId, safe.kept.blob, sendSafer_aim sent⟩

/-- The next number is one more, unless the numbers are used up. -/
theorem AntiReplay.getNewSeqForSend_toNat {ar : AntiReplay}
    (room : ar.antiReplaySeq.toNat + 1 < 2 ^ 64) :
    ar.getNewSeqForSend.2.antiReplaySeq.toNat = ar.antiReplaySeq.toNat + 1 := by
  change (ar.antiReplaySeq + 1).toNat = _
  rw [UInt64.toNat_add]
  exact Nat.mod_eq_of_lt room

/-- The messages of a packet are recorded; nothing is read from this record that looks at other
events only. -/
theorem Receives.unread {β : Type} {start final : ConnInfo options σ τ × Machine v}
    {frames : List Frame} (receives : Receives start frames final) {read : Event v → Option β}
    (sent : ∀ payload, read (.rawPayload payload) = none)
    (opened : ∀ input message, read (.decrypted input message) = none)
    (taken : ∀ myId oppsiteId seq, read (.accepted myId oppsiteId seq) = none) :
    ∃ events, Logged events start.2 final.2 ∧ events.filterMap read = [] := by
  induction receives with
  | done => exact ⟨[], .refl _, rfl⟩
  | next receipt _ ih =>
    obtain ⟨later, rest, none⟩ := ih
    cases receipt with
    | @dropped _ events _ _ minor ran =>
      refine ⟨_, ran.toLogged.trans rest, ?_⟩
      have first : events.filterMap read = [] := by
        rw [List.filterMap_eq_nil_iff]
        intro event inside
        obtain ⟨_, rfl⟩ | ⟨_, _, rfl⟩ := minor event inside
        · exact sent _
        · exact opened _ _
      rw [List.filterMap_append, first, none, List.append_nil]
    | accepted _ _ _ _ ran =>
      exact ⟨_, ran.toLogged.trans rest, by simpa [opened, taken] using none⟩

end Udp2raw
