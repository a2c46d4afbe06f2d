import Udp2raw.Connection.Transfer

/-!
# Effects of messages

What sending or receiving a message changes: the connection keeps its session and its peer,
a sent message takes the next number, and a received one is checked against the session and
the window before anything else happens. `Receives` is the loop over the messages of one
packet as a sequence of single receipts.
-/
namespace Udp2raw

open Proc
open BlockModes (blockOf)

variable {v : IpVersion} {σ τ : Type} [DecidableEq τ] {options : Options v}
  {before after : Machine v}

/-- Events that concern one packet only. -/
def Minor (events : List (Event v)) : Prop :=
  ∀ event ∈ events, (∃ payload, event = .rawPayload payload) ∨
    ∃ input message, event = .decrypted input message

/-- No event is a minor one. -/
theorem minor_nil : Minor ([] : List (Event v)) := nofun

/-- A connection that went on in the same session with the same peer. -/
structure ConnInfo.Kept (before after : ConnInfo options σ τ) : Prop where
  /-- It is in the same state. -/
  state : after.state = before.state
  /-- It has the same identifier. -/
  myId : after.myId = before.myId
  /-- The other end has the same identifier. -/
  oppsiteId : after.oppsiteId = before.oppsiteId
  /-- It has the same timer. -/
  timerFd64 : after.timerFd64 = before.timerFd64
  /-- It belongs to the same client. -/
  oppsiteConstId : after.oppsiteConstId = before.oppsiteConstId
  /-- It has the same conversations and the same window. -/
  blob : after.blob = before.blob
  /-- It has the same peer. -/
  peer : SamePeer before.rawInfo after.rawInfo
  /-- It got into its state at the same time. -/
  lastStateTime : after.lastStateTime = before.lastStateTime

namespace ConnInfo.Kept

/-- Standing still. -/
theorem refl (conn : ConnInfo options σ τ) : Kept conn conn :=
  ⟨rfl, rfl, rfl, rfl, rfl, rfl, .refl _, rfl⟩

/-- Two steps of the same session. -/
theorem trans {a b c : ConnInfo options σ τ} (one : Kept a b) (two : Kept b c) : Kept a c :=
  ⟨two.state.trans one.state, two.myId.trans one.myId, two.oppsiteId.trans one.oppsiteId,
    two.timerFd64.trans one.timerFd64, two.oppsiteConstId.trans one.oppsiteConstId,
    two.blob.trans one.blob, one.peer.trans two.peer, two.lastStateTime.trans one.lastStateTime⟩

/-- Sending on the raw connection goes on in the session. -/
theorem of_peer (conn : ConnInfo options σ τ) {rawInfo : RawInfo options.raw}
    (peer : SamePeer conn.rawInfo rawInfo) : Kept conn { conn with rawInfo } :=
  ⟨rfl, rfl, rfl, rfl, rfl, rfl, peer, rfl⟩

end ConnInfo.Kept

/-! ### Sending -/

/-- The obfuscation of a frame only uses the key schedules. -/
theorem groSeal_ran {frame sealed : Bytes}
    (returned : Returns (groSeal options frame) before sealed after) : Ran [] before after := by
  unfold groSeal at returned
  cases cipher : options.crypto.cipher <;>
    simp only [cipher, Returns.bind_iff, Returns.get_iff, Returns.set_iff, Returns.pure_iff]
      at returned
  case none | xor => exact returned.2 ▸ .refl _
  case aes128cbc | aes128cfb =>
    obtain ⟨_, _, ⟨rfl, rfl⟩, _, _, rfl, -, rfl⟩ := returned
    exact ⟨⟨rfl, rfl, rfl, Nat.le_refl _, by simp [entries]⟩, rfl, rfl⟩

/-- The obfuscation of a frame always goes on. -/
theorem groSeal_total (frame : Bytes) : Total (groSeal options frame) := by
  unfold groSeal
  split
  · exact total_pure _
  · exact total_pure _
  · exact total_bind total_get fun _ => total_bind (total_set _) fun _ => total_pure _
  · exact total_bind total_get fun _ => total_bind (total_set _) fun _ => total_pure _

/-- A frame only uses the key schedules. -/
theorem saferFrame_ran {output frame : Bytes}
    (returned : Returns (saferFrame options output) before frame after) : Ran [] before after := by
  unfold saferFrame at returned
  split at returned
  · exact groSeal_ran returned
  · exact (Returns.pure_iff.mp returned).2 ▸ .refl _

/-- A frame can always be built. -/
theorem saferFrame_total (output : Bytes) : Total (saferFrame options output) :=
  total_ite (fun _ => groSeal_total _) fun _ => total_pure _

/-- A bare message is encrypted and sent. -/
theorem sendBare_ran {raw next : RawInfo options.raw} {data : Bytes} {ret : Int}
    (returned : Returns (sendBare options raw data) before (next, ret) after) :
    SamePeer raw next ∧ ∃ iv padding, Ran [.refused (bareMessage iv padding data)] before after ∨
      ∃ output, Ran [.encrypted (bareMessage iv padding data) output, .rawPayload output]
        before after := by
  simp only [sendBare, Returns.bind_iff] at returned
  obtain ⟨iv, _, one, padding, _, two, output, _, three, returned⟩ := returned
  have drawn := (getTrueRandomNumber64_ran one).trans (getTrueRandomNumber64_ran two)
  obtain ⟨rfl, ran⟩ | ⟨bytes, rfl, ran⟩ := encryptMessage_ran three
  · obtain ⟨same, rfl⟩ := Returns.pure_iff.mp returned
    obtain ⟨rfl, -⟩ := Prod.mk.inj same
    exact ⟨.refl _, iv, padding, .inl (drawn.trans ran)⟩
  · simp only [Returns.bind_iff, Returns.pure_iff, Prod.mk.injEq] at returned
    obtain ⟨⟨sent, _⟩, _, four, ⟨rfl, -⟩, rfl⟩ := returned
    obtain ⟨sentRan, peer⟩ := sendRawPayload_ran four
    exact ⟨peer, iv, padding, .inr ⟨bytes, (drawn.trans ran).trans sentRan⟩⟩

/-- A bare message can always be sent or refused. -/
theorem sendBare_total (raw : RawInfo options.raw) (data : Bytes) :
    Total (sendBare options raw data) := by
  have random : Total (getTrueRandomNumber64 : Proc v UInt64) :=
    total_bind ask_total fun _ => total_pure _
  refine total_bind random fun iv => total_bind random fun padding =>
    total_bind (encryptMessage_succeeds ?_) fun output => ?_
  · simp only [bareMessage, memoryBytes, List.length_append, List.length_reverse,
      BigEndian.encode_length, List.length_cons]
    omega
  · split
    · exact total_pure _
    · exact total_bind (sendRawPayload_total _ _) fun _ => total_pure _

/-- A handshake can always be sent or refused. -/
theorem sendHandshake_total (raw : RawInfo options.raw) (id1 id2 id3 : UInt32) :
    Total (sendHandshake options raw id1 id2 id3) :=
  total_bind (sendBare_total _ _) fun _ => total_pure _

/-- The connection after a number was taken for a message. -/
def ConnInfo.numbered (conn : ConnInfo options σ τ) (blob : Blob τ) : ConnInfo options σ τ :=
  conn.withAntiReplay blob blob.antiReplay.getNewSeqForSend.2

/-- What a call of `send_safer` with a good type does: it takes a number, and unless the
encryption fails it encrypts the message of that number and passes its frame on. -/
structure SafeSent (conn : ConnInfo options σ τ) (blob : Blob τ) (type : UInt8) (data : Bytes)
    (before : Machine v) (next : ConnInfo options σ τ) (after : Machine v) : Prop where
  /-- The connection was ready for safer messages. -/
  allocated : conn.blob = some blob
  /-- It goes on in its session with the next number. -/
  kept : (conn.numbered blob).Kept next
  /-- One message was refused or sent. -/
  ran : Ran [.refused (saferMessage conn.myId conn.oppsiteId blob.antiReplay.antiReplaySeq type
      conn.myRoller data)] before after ∨ ∃ output frame middle framed,
    Returns (encryptMessage options (saferMessage conn.myId conn.oppsiteId
      blob.antiReplay.antiReplaySeq type conn.myRoller data)) before (some output) middle ∧
    Returns (saferFrame options output) middle frame framed ∧
    Ran [.encrypted (saferMessage conn.myId conn.oppsiteId blob.antiReplay.antiReplaySeq type
      conn.myRoller data) output, .rawPayload frame] before after

/-- `send_safer` refuses a wrong type and otherwise sends at most one message. -/
theorem sendSafer_ran {conn next : ConnInfo options σ τ} {type : UInt8} {data : Bytes} {ret : Int}
    (returned : Returns (sendSafer conn type data) before (next, ret) after) :
    (type ≠ typeHeartbeat ∧ type ≠ typeData ∧ next = conn ∧ after = before) ∨
      ((type = typeHeartbeat ∨ type = typeData) ∧
        ∃ blob, SafeSent conn blob type data before next after) := by
  unfold sendSafer at returned
  split at returned
  · rename_i wrong
    obtain ⟨same, rfl⟩ := Returns.pure_iff.mp returned
    obtain ⟨rfl, -⟩ := Prod.mk.inj same
    exact .inl ⟨wrong.1, wrong.2, rfl, rfl⟩
  · rename_i good
    have right : type = typeHeartbeat ∨ type = typeData := by
      by_contra neither
      exact good (not_or.mp neither)
    refine .inr ⟨right, ?_⟩
    simp only [Returns.bind_iff, Returns.lift_iff] at returned
    obtain ⟨blob, _, ⟨found, rfl⟩, output, middle, encrypted, returned⟩ := returned
    have allocated : conn.blob = some blob := by
      unfold ConnInfo.theBlob at found
      split at found
      · contradiction
      · rename_i same
        rw [same, Except.ok.inj found]
    refine ⟨blob, ?_⟩
    obtain ⟨rfl, ran⟩ | ⟨bytes, rfl, ran⟩ := encryptMessage_ran encrypted
    · obtain ⟨same, rfl⟩ := Returns.pure_iff.mp returned
      obtain ⟨rfl, -⟩ := Prod.mk.inj same
      exact ⟨allocated, .refl _, .inl ran⟩
    · simp only [Returns.bind_iff] at returned
      obtain ⟨frame, framed, built, ⟨rawInfo, sent⟩, _, passed, returned⟩ := returned
      obtain ⟨sentRan, peer⟩ := sendRawPayload_ran passed
      have whole := (ran.trans (saferFrame_ran built)).trans sentRan
      dsimp only at returned
      split at returned
      · obtain ⟨same, rfl⟩ := Returns.pure_iff.mp returned
        obtain ⟨rfl, -⟩ := Prod.mk.inj same
        exact ⟨allocated, .of_peer (conn.numbered blob) peer,
          .inr ⟨bytes, frame, middle, framed, encrypted, built, whole⟩⟩
      · simp only [Returns.bind_iff, Returns.pure_iff, Prod.mk.injEq] at returned
        obtain ⟨answer, _, asked, ⟨rfl, -⟩, rfl⟩ := returned
        exact ⟨allocated,
          .of_peer (conn.numbered blob) (peer.trans (afterSendRaw0_peer answer.send rawInfo)),
          .inr ⟨bytes, frame, middle, framed, encrypted, built, whole.trans (ask_ran asked).1⟩⟩

/-- A safer message has a header of eighteen bytes. -/
theorem saferMessage_length (myId oppsiteId : UInt32) (seq : UInt64) (type roller : UInt8)
    (data : Bytes) :
    (saferMessage myId oppsiteId seq type roller data).length = 18 + data.length := by
  simp only [saferMessage, List.length_append, BigEndian.encode_length, List.length_cons]
  omega

/-- A connection with a window can always send. -/
theorem sendSafer_total {conn : ConnInfo options σ τ} {blob : Blob τ}
    (allocated : conn.blob = some blob) (type : UInt8) (data : Bytes) :
    Total (sendSafer conn type data : Proc v _) := by
  refine total_ite (fun _ => total_pure _) fun _ => total_bind ?_ fun found => total_bind ?_ ?_
  · intro machine
    exact .of_returns (Returns.lift_iff.mpr ⟨by rw [ConnInfo.theBlob, allocated], rfl⟩) trivial
  · apply encryptMessage_succeeds
    rw [saferMessage_length]
    omega
  · intro output
    split
    · exact total_pure _
    · refine total_bind (saferFrame_total _) fun frame =>
        total_bind (sendRawPayload_total _ _) fun sent => ?_
      exact total_ite (fun _ => total_pure _) fun _ => total_bind ask_total fun _ => total_pure _

/-- The record of a call of `send_safer`: one message of the session, refused or sent. -/
def SaferEvents (myId oppsiteId : UInt32) (seq : UInt64) (type : UInt8) (data : Bytes)
    (events : List (Event v)) : Prop :=
  ∃ roller, events = [.refused (saferMessage myId oppsiteId seq type roller data)] ∨
    ∃ output frame, events = [.encrypted (saferMessage myId oppsiteId seq type roller data) output,
      .rawPayload frame]

/-- The record of a call of `send_handshake`: one bare message, refused or sent. -/
def BareEvents (id1 id2 id3 : UInt32) (events : List (Event v)) : Prop :=
  ∃ iv padding, events = [.refused (bareMessage iv padding (numbersToChar id1 id2 id3))] ∨
    ∃ output, events = [.encrypted (bareMessage iv padding (numbersToChar id1 id2 id3)) output,
      .rawPayload output]

/-- A handshake is a bare message with three numbers. -/
theorem sendHandshake_events {raw next : RawInfo options.raw} {id1 id2 id3 : UInt32}
    (returned : Returns (sendHandshake options raw id1 id2 id3) before next after) :
    SamePeer raw next ∧ ∃ events, BareEvents id1 id2 id3 events ∧ Ran events before after := by
  simp only [sendHandshake, Returns.bind_iff, Returns.pure_iff] at returned
  obtain ⟨⟨_, _⟩, _, sent, rfl, rfl⟩ := returned
  obtain ⟨peer, iv, padding, ran | ⟨output, ran⟩⟩ := sendBare_ran sent
  · exact ⟨peer, _, ⟨iv, padding, .inl rfl⟩, ran⟩
  · exact ⟨peer, _, ⟨iv, padding, .inr ⟨output, rfl⟩⟩, ran⟩

/-- A message that was sent leaves its record. -/
theorem SafeSent.events {conn next : ConnInfo options σ τ} {blob : Blob τ} {type : UInt8}
    {data : Bytes} (sent : SafeSent conn blob type data before next after) :
    ∃ events, SaferEvents conn.myId conn.oppsiteId blob.antiReplay.antiReplaySeq type data events ∧
      Ran events before after := by
  obtain ran | ⟨output, frame, _, _, -, -, ran⟩ := sent.ran
  · exact ⟨_, ⟨_, .inl rfl⟩, ran⟩
  · exact ⟨_, ⟨_, .inr ⟨output, frame, rfl⟩⟩, ran⟩

/-- A heartbeat takes a number of the session. -/
theorem sendHeartbeat_ran {conn next : ConnInfo options σ τ}
    (returned : Returns (sendHeartbeat conn) before next after) :
    ∃ blob data events, conn.blob = some blob ∧ (conn.numbered blob).Kept next ∧
      SaferEvents conn.myId conn.oppsiteId blob.antiReplay.antiReplaySeq typeHeartbeat data events ∧
      Ran events before after := by
  simp only [sendHeartbeat, Returns.bind_iff, Returns.pure_iff] at returned
  obtain ⟨⟨_, _⟩, _, sent, rfl, rfl⟩ := returned
  obtain ⟨wrong, -⟩ | ⟨-, blob, safe⟩ := sendSafer_ran sent
  · exact absurd rfl wrong
  · obtain ⟨events, shape, ran⟩ := safe.events
    exact ⟨blob, _, events, safe.allocated, safe.kept, shape, ran⟩

/-- A datagram is recorded and takes a number of the session. -/
theorem sendDataSafer_ran {conn next : ConnInfo options σ τ} {data : Bytes} {convNum : UInt32}
    (returned : Returns (sendDataSafer conn data convNum) before next after) :
    ∃ blob events, conn.blob = some blob ∧ (conn.numbered blob).Kept next ∧
      SaferEvents conn.myId conn.oppsiteId blob.antiReplay.antiReplaySeq typeData
        (BigEndian.encode 4 convNum.toNat ++ data) events ∧
      Ran (.sendDataSafer conn.myId conn.oppsiteId convNum data :: events) before after := by
  simp only [sendDataSafer, Returns.bind_iff, Returns.pure_iff] at returned
  obtain ⟨_, _, recorded, ⟨_, _⟩, _, sent, rfl, rfl⟩ := returned
  obtain ⟨-, wrong, -⟩ | ⟨-, blob, safe⟩ := sendSafer_ran sent
  · exact absurd rfl wrong
  · obtain ⟨events, shape, ran⟩ := safe.events
    exact ⟨blob, events, safe.allocated, safe.kept, shape, (record_ran recorded).trans ran⟩

/-- A connection with a window can always send a heartbeat. -/
theorem sendHeartbeat_total {conn : ConnInfo options σ τ} {blob : Blob τ}
    (allocated : conn.blob = some blob) : Total (sendHeartbeat conn : Proc v _) :=
  total_bind (sendSafer_total allocated _ _) fun _ => total_pure _

/-- A connection with a window can always send a datagram. -/
theorem sendDataSafer_total {conn : ConnInfo options σ τ} {blob : Blob τ}
    (allocated : conn.blob = some blob) (data : Bytes) (convNum : UInt32) :
    Total (sendDataSafer conn data convNum : Proc v _) :=
  total_bind (record_total _) fun _ => total_bind (sendSafer_total allocated _ _) fun _ =>
    total_pure _

/-! ### Receiving -/

/-- A message that `reserved_parse_bare` takes for a bare one with this data. -/
structure BareContent (message data : Bytes) : Prop where
  /-- It carries the mark. -/
  mark : message[16]? = some bareMark
  /-- The data is behind the mark. -/
  data : data = message.drop 17

/-- A byte of a read range. -/
theorem Scratch.getElem?_read (buffer : Scratch) {length place : Nat} (inside : place < length) :
    (buffer.read 0 length)[place]? = some (buffer place) := by
  simp [Scratch.read, inside]

/-- `reserved_parse_bare` returns the data of a decrypted bare message. -/
theorem reservedParseBare_ran {input : Bytes} {result : Option Bytes}
    (returned : Returns (reservedParseBare options input) before result after) :
    (∃ events, Minor events ∧ Ran events before after ∧ result = none) ∨
      ∃ message data, result = some data ∧ BareContent message data ∧
        Ran [.decrypted input message] before after := by
  simp only [reservedParseBare, Returns.bind_iff, Returns.get_iff] at returned
  obtain ⟨_, _, ⟨rfl, rfl⟩, ⟨buffer, len⟩, middle, one, _, _, two, returned⟩ := returned
  obtain rfl := Returns.modify_iff.mp two
  have stored (events : List (Event v)) (ran : Ran events before middle) :
      Ran events before { middle with bareBuf := buffer } :=
    ⟨⟨ran.self, ran.answers, ran.filterPort, ran.clock, ran.log⟩, ran.packetBuf, ran.packetBufCnt⟩
  obtain ⟨rfl, ran⟩ | ⟨length, rfl, ran⟩ := decryptInto_ran one
  · obtain ⟨rfl, rfl⟩ := Returns.pure_iff.mp returned
    exact .inl ⟨[], minor_nil, stored _ ran, rfl⟩
  · have minor : Minor [Event.decrypted (v := v) input (buffer.read 0 length)] :=
      fun event inside => .inr ⟨_, _, List.mem_singleton.mp inside⟩
    dsimp only at returned
    split at returned
    · obtain ⟨rfl, rfl⟩ := Returns.pure_iff.mp returned
      exact .inl ⟨_, minor, stored _ ran, rfl⟩
    · rename_i mark
      split at returned
      · obtain ⟨rfl, rfl⟩ := Returns.pure_iff.mp returned
        exact .inl ⟨_, minor, stored _ ran, rfl⟩
      · rename_i long
        obtain ⟨rfl, rfl⟩ := Returns.pure_iff.mp returned
        refine .inr ⟨_, _, rfl, ⟨?_, ?_⟩, stored _ ran⟩
        · rw [Scratch.getElem?_read buffer (by omega), not_not.mp mark]
        · rw [Scratch.read_drop]

/-- `reserved_parse_bare` always goes on. -/
theorem reservedParseBare_total (input : Bytes) : Total (reservedParseBare options input) := by
  refine total_bind total_get fun machine => total_bind (decryptInto_total _ _) fun result =>
    total_bind (total_modify _) fun _ => ?_
  split
  · exact total_pure _
  · exact total_ite (fun _ => total_pure _) fun _ =>
      total_ite (fun _ => total_pure _) fun _ => total_pure _

/-- `recv_bare` returns the data of a decrypted bare message from the packet's address. -/
theorem recvBare_logged {raw next : RawInfo options.raw} {result : Option Bytes}
    (returned : Returns (recvBare options raw) before (next, result) after) :
    before.packetBufCnt = 1 ∧ after.packetBufCnt = (if raw.peek then 1 else 0) ∧
      HeardFrom (before.packetBuf.source options.raw) raw next ∧
      ((∃ events, Minor events ∧ Logged events before after ∧ result = none) ∨
        next.source = before.packetBuf.source options.raw ∧ ∃ input message data,
          result = some data ∧ BareContent message data ∧
            Logged [.decrypted input message] before after) := by
  simp only [recvBare, Returns.bind_iff] at returned
  obtain ⟨⟨parsed, payload⟩, middle, one, returned⟩ := returned
  obtain ⟨logged, full, count, heard, source⟩ := recvRawPayload_logged one
  cases payload with
  | none =>
    obtain ⟨same, rfl⟩ := Returns.pure_iff.mp returned
    obtain ⟨rfl, rfl⟩ := Prod.mk.inj same
    exact ⟨full, count, heard, .inl ⟨[], minor_nil, logged, rfl⟩⟩
  | some payload =>
    dsimp only at returned
    split at returned
    · obtain ⟨same, rfl⟩ := Returns.pure_iff.mp returned
      obtain ⟨rfl, rfl⟩ := Prod.mk.inj same
      exact ⟨full, count, heard, .inl ⟨[], minor_nil, logged, rfl⟩⟩
    · split at returned
      · obtain ⟨same, rfl⟩ := Returns.pure_iff.mp returned
        obtain ⟨rfl, rfl⟩ := Prod.mk.inj same
        exact ⟨full, count, heard, .inl ⟨[], minor_nil, logged, rfl⟩⟩
      · simp only [Returns.bind_iff, Returns.pure_iff, Prod.mk.injEq] at returned
        obtain ⟨parsedBare, _, two, ⟨rfl, rfl⟩, rfl⟩ := returned
        obtain ⟨events, minor, ran, rfl⟩ | ⟨message, data, rfl, content, ran⟩ :=
          reservedParseBare_ran two
        · exact ⟨full, ran.packetBufCnt.trans count, heard,
            .inl ⟨_, minor, logged.trans ran.toLogged, rfl⟩⟩
        · exact ⟨full, ran.packetBufCnt.trans count, heard,
            .inr ⟨source rfl, payload, message, data, rfl, content, logged.trans ran.toLogged⟩⟩

/-- A message that `reserved_parse_safer` takes for a safer one of a session. -/
structure SaferContent (message : Bytes) (myId oppsiteId : UInt32) (frame : Frame) : Prop where
  /-- It is long enough for its header. -/
  long : 18 ≤ message.length
  /-- It names the sender first, -/
  oppsiteId : idAt message 0 = oppsiteId
  /-- then the receiver, -/
  myId : idAt message 4 = myId
  /-- then its number, -/
  seq : frame.seq = UInt64.ofNat (BigEndian.decode ((message.take 16).drop 8))
  /-- and its type. -/
  type : message[16]? = some frame.type
  /-- The data is behind the header. -/
  data : frame.data = message.drop 18
  /-- The type is one of two. -/
  known : frame.type = typeHeartbeat ∨ frame.type = typeData

/-- The receipt of one message by a connection: a message of its session that its window accepts,
with the good ones handed on. -/
inductive Receipt : ConnInfo options σ τ × Machine v → Option Frame →
    ConnInfo options σ τ × Machine v → Prop
  /-- The message was dropped. -/
  | dropped {conn : ConnInfo options σ τ} {events : List (Event v)} {before after : Machine v} :
      Minor events → Ran events before after → Receipt (conn, before) none (conn, after)
  /-- The window accepted the message. -/
  | accepted {conn next : ConnInfo options σ τ} {blob : Blob τ} {antiReplay : AntiReplay}
      {input message : Bytes} {seq : UInt64} {frame : Option Frame} {before after : Machine v} :
      conn.blob = some blob →
      blob.antiReplay.isVaild options.disableAntiReplay seq = (true, antiReplay) →
      (conn.withAntiReplay blob antiReplay).Kept next →
      (∀ found ∈ frame, SaferContent message conn.myId conn.oppsiteId found ∧ found.seq = seq) →
      Ran [.decrypted input message, .accepted conn.myId conn.oppsiteId seq] before after →
      Receipt (conn, before) frame (next, after)

/-- A noted roller keeps the session. -/
theorem noteRoller_ran {conn next : ConnInfo options σ τ} {roller : UInt8}
    (returned : Returns (conn.noteRoller roller) before next after) :
    Ran [] before after ∧ conn.Kept next := by
  unfold ConnInfo.noteRoller at returned
  split at returned
  · simp only [Returns.bind_iff, Returns.pure_iff] at returned
    obtain ⟨_, _, timed, rfl, rfl⟩ := returned
    exact ⟨(getCurrentTime_ran timed).1, ⟨rfl, rfl, rfl, rfl, rfl, rfl, .refl _, rfl⟩⟩
  · obtain ⟨rfl, rfl⟩ := Returns.pure_iff.mp returned
    exact ⟨.refl _, .refl _⟩

/-- A good message keeps the session. -/
theorem ConnInfo.receive_kept (conn : ConnInfo options σ τ) (type : UInt8) :
    conn.Kept (conn.receive type) :=
  ⟨rfl, rfl, rfl, rfl, rfl, rfl, afterRecvRaw0_peer conn.rawInfo, rfl⟩

/-- `reserved_parse_safer` is one receipt. -/
theorem reservedParseSafer_receipt {conn next : ConnInfo options σ τ} {input : Bytes}
    {frame : Option Frame}
    (returned : Returns (reservedParseSafer conn input) before (next, frame) after) :
    Receipt (conn, before) frame (next, after) := by
  simp only [reservedParseSafer, Returns.bind_iff, Returns.get_iff] at returned
  obtain ⟨_, _, ⟨rfl, rfl⟩, ⟨buffer, len⟩, middle, one, _, _, two, returned⟩ := returned
  obtain rfl := Returns.modify_iff.mp two
  have stored (events : List (Event v)) (ran : Ran events before middle) :
      Ran events before { middle with saferBuf := buffer } :=
    ⟨⟨ran.self, ran.answers, ran.filterPort, ran.clock, ran.log⟩, ran.packetBuf, ran.packetBufCnt⟩
  obtain ⟨rfl, ran⟩ | ⟨length, rfl, ran⟩ := decryptInto_ran one
  · obtain ⟨same, rfl⟩ := Returns.pure_iff.mp returned
    obtain ⟨rfl, rfl⟩ := Prod.mk.inj same
    exact .dropped minor_nil (stored _ ran)
  have minor : Minor [Event.decrypted (v := v) input (buffer.read 0 length)] :=
    fun event inside => .inr ⟨_, _, List.mem_singleton.mp inside⟩
  dsimp only at returned
  split at returned
  · obtain ⟨same, rfl⟩ := Returns.pure_iff.mp returned
    obtain ⟨rfl, rfl⟩ := Prod.mk.inj same
    exact .dropped minor (stored _ ran)
  rename_i ids
  simp only [Returns.bind_iff, Returns.lift_iff] at returned
  obtain ⟨blob, _, ⟨found, rfl⟩, returned⟩ := returned
  have allocated : conn.blob = some blob := by
    unfold ConnInfo.theBlob at found
    split at found
    · contradiction
    · rename_i same
      rw [same, Except.ok.inj found]
  cases checked : blob.antiReplay.isVaild options.disableAntiReplay
      (UInt64.ofNat (BigEndian.decode ((buffer.read 0 16).drop 8))) with
  | mk valid antiReplay =>
  simp only [checked] at returned
  split at returned
  · obtain ⟨same, rfl⟩ := Returns.pure_iff.mp returned
    obtain ⟨rfl, rfl⟩ := Prod.mk.inj same
    exact .dropped minor (stored _ ran)
  rename_i accepted
  rw [Bool.not_eq_false] at accepted
  subst accepted
  simp only [Returns.bind_iff] at returned
  obtain ⟨_, _, recorded, returned⟩ := returned
  have whole := (stored _ ran).trans (record_ran recorded)
  split at returned
  · obtain ⟨same, rfl⟩ := Returns.pure_iff.mp returned
    obtain ⟨rfl, rfl⟩ := Prod.mk.inj same
    exact .accepted allocated checked (.refl _) (by simp) whole
  rename_i known
  split at returned
  · obtain ⟨same, rfl⟩ := Returns.pure_iff.mp returned
    obtain ⟨rfl, rfl⟩ := Prod.mk.inj same
    exact .accepted allocated checked (.refl _) (by simp) whole
  rename_i long
  simp only [Returns.bind_iff, Returns.pure_iff, Prod.mk.injEq] at returned
  obtain ⟨rolled, _, noted, ⟨rfl, rfl⟩, rfl⟩ := returned
  obtain ⟨notedRan, kept⟩ := noteRoller_ran noted
  have header : buffer.read 0 16 = (buffer.read 0 length).take 16 := by
    rw [Scratch.read_take buffer 0 (by omega)]
  refine .accepted allocated checked (kept.trans (ConnInfo.receive_kept _ _)) ?_
    (whole.trans notedRan)
  intro good same
  obtain rfl := Option.mem_some_iff.mp same
  rw [not_or, not_not, not_not] at ids
  refine ⟨⟨by simp; omega, ?_, ?_, by rw [header], Scratch.getElem?_read buffer (by omega),
    (Scratch.read_drop buffer 0 length 18).symm, ?_⟩, rfl⟩
  · rw [← ids.1, header, idAt, idAt, List.drop_zero, List.drop_zero, List.take_take]
    rfl
  · rw [← ids.2, header, idAt, idAt, List.drop_take, List.take_take]
    rfl
  · by_contra neither
    exact known (not_or.mp neither)

/-- `reserved_parse_safer` goes on when the connection has a window. -/
theorem reservedParseSafer_total {conn : ConnInfo options σ τ} {blob : Blob τ}
    (allocated : conn.blob = some blob) (input : Bytes) :
    Total (reservedParseSafer conn input : Proc v _) := by
  refine total_bind total_get fun machine => total_bind (decryptInto_total _ _) fun result =>
    total_bind (total_modify _) fun _ => ?_
  split
  · exact total_pure _
  refine total_ite (fun _ => total_pure _) fun _ => total_bind ?_ fun found => ?_
  · intro machine
    exact .of_returns (Returns.lift_iff.mpr ⟨by rw [ConnInfo.theBlob, allocated], rfl⟩) trivial
  refine total_ite (fun _ => total_pure _) fun _ => total_bind (record_total _) fun _ => ?_
  refine total_ite (fun _ => total_pure _) fun _ => total_ite (fun _ => total_pure _) fun _ => ?_
  refine total_bind ?_ fun _ => total_pure _
  exact total_ite (fun _ => total_bind getCurrentTime_total fun _ => total_pure _)
    fun _ => total_pure _

/-- The receipts of one packet, one after the other, with the messages handed on. -/
inductive Receives : ConnInfo options σ τ × Machine v → List Frame →
    ConnInfo options σ τ × Machine v → Prop
  /-- Nothing more is received. -/
  | done {state : ConnInfo options σ τ × Machine v} : Receives state [] state
  /-- One message is received, then the others. -/
  | next {state middle final : ConnInfo options σ τ × Machine v} {frame : Option Frame}
      {frames : List Frame} : Receipt state frame middle → Receives middle frames final →
      Receives state (frame.toList ++ frames) final

/-- One receipt is recorded. -/
theorem Receipt.logged {state final : ConnInfo options σ τ × Machine v} {frame : Option Frame}
    (receipt : Receipt state frame final) : ∃ events, Logged events state.2 final.2 := by
  cases receipt with
  | dropped _ ran => exact ⟨_, ran.toLogged⟩
  | accepted _ _ _ _ ran => exact ⟨_, ran.toLogged⟩

/-- The receipts of a packet are recorded. -/
theorem Receives.logged {state final : ConnInfo options σ τ × Machine v} {frames : List Frame}
    (receives : Receives state frames final) : ∃ events, Logged events state.2 final.2 := by
  induction receives with
  | done => exact ⟨[], .refl _⟩
  | next receipt _ ih =>
    obtain ⟨_, one⟩ := receipt.logged
    obtain ⟨_, two⟩ := ih
    exact ⟨_, one.trans two⟩

/-- The start of a frame only uses the key schedules. -/
theorem groOpen_ran {block opened : AesBlock}
    (returned : Returns (groOpen options block) before opened after) : Ran [] before after := by
  unfold groOpen at returned
  cases cipher : options.crypto.cipher <;>
    simp only [cipher, Returns.bind_iff, Returns.get_iff, Returns.set_iff, Returns.pure_iff]
      at returned
  case none | xor => exact returned.2 ▸ .refl _
  case aes128cbc | aes128cfb =>
    obtain ⟨_, _, ⟨rfl, rfl⟩, _, _, rfl, -, rfl⟩ := returned
    exact ⟨⟨rfl, rfl, rfl, Nat.le_refl _, by simp [entries]⟩, rfl, rfl⟩

/-- The start of a frame can always be uncovered. -/
theorem groOpen_total (block : AesBlock) : Total (groOpen options block) := by
  unfold groOpen
  split
  · exact total_pure _
  · exact total_pure _
  · exact total_bind total_get fun _ => total_bind (total_set _) fun _ => total_pure _
  · exact total_bind total_get fun _ => total_bind (total_set _) fun _ => total_pure _

/-- A part of a packet without messages. -/
theorem receives_ran {conn : ConnInfo options σ τ} {middle : Machine v} {frames : List Frame}
    {final : ConnInfo options σ τ × Machine v} (ran : Ran [] before middle)
    (rest : Receives (conn, middle) frames final) : Receives (conn, before) frames final :=
  .next (.dropped minor_nil ran) rest

/-- `recv_safer_multi` over one payload is a sequence of receipts. -/
theorem recvFrames_receives {conn next : ConnInfo options σ τ} {recvData : Bytes}
    {frames : List Frame}
    (returned : Returns (recvFrames conn recvData) before (next, frames) after) :
    Receives (conn, before) frames (next, after) := by
  induction size : recvData.length using Nat.strong_induction_on
    generalizing conn recvData before frames with
  | _ size ih =>
  rw [recvFrames] at returned
  split at returned
  · simp only [Returns.bind_iff] at returned
    obtain ⟨block, opened, uncovered, returned⟩ := returned
    refine receives_ran (groOpen_ran uncovered) ?_
    split at returned
    · obtain ⟨same, rfl⟩ := Returns.pure_iff.mp returned
      obtain ⟨rfl, rfl⟩ := Prod.mk.inj same
      exact .done
    split at returned
    · obtain ⟨same, rfl⟩ := Returns.pure_iff.mp returned
      obtain ⟨rfl, rfl⟩ := Prod.mk.inj same
      exact .done
    simp only [Returns.bind_iff, Returns.pure_iff, Prod.mk.injEq] at returned
    obtain ⟨⟨parsed, frame⟩, _, one, ⟨_, later⟩, _, two, ⟨rfl, rfl⟩, rfl⟩ := returned
    refine .next (reservedParseSafer_receipt one) (ih _ ?_ two rfl)
    simp only [List.length_drop, List.length_append, Vector.length_toList]
    omega
  · obtain ⟨same, rfl⟩ := Returns.pure_iff.mp returned
    obtain ⟨rfl, rfl⟩ := Prod.mk.inj same
    exact .done

/-- A receipt leaves the connection with a window, in the same state. -/
theorem Receipt.allocated {conn next : ConnInfo options σ τ} {frame : Option Frame}
    (receipt : Receipt (conn, before) frame (next, after)) (had : conn.blob.isSome) :
    next.blob.isSome := by
  cases receipt with
  | dropped => exact had
  | accepted _ _ kept => rw [kept.blob]; rfl

/-- The loop over one payload goes on when the connection has a window. -/
theorem recvFrames_total {conn : ConnInfo options σ τ} (allocated : conn.blob.isSome)
    (recvData : Bytes) : Total (recvFrames conn recvData : Proc v _) := by
  induction size : recvData.length using Nat.strong_induction_on generalizing conn recvData with
  | _ size ih =>
  rw [recvFrames]
  refine total_ite (fun long => ?_) fun _ => total_pure _
  refine total_bind (groOpen_total _) fun block =>
    total_ite (fun _ => total_pure _) fun _ => total_ite (fun _ => total_pure _) fun _ => ?_
  obtain ⟨blob, had⟩ := Option.isSome_iff_exists.mp allocated
  intro machine
  refine (reservedParseSafer_total had _ machine).bind fun parsed state ran _ => ?_
  have still := (reservedParseSafer_receipt ran).allocated allocated
  refine (ih _ ?_ still _ rfl state).bind fun rest final _ _ => total_pure _ final
  simp only [List.length_drop, List.length_append, Vector.length_toList]
  omega

/-- `recv_safer_multi` parses the packet and then receives its messages. -/
theorem recvSaferMulti_receives {conn next : ConnInfo options σ τ} {frames : List Frame}
    (returned : Returns (recvSaferMulti conn) before (next, frames) after) :
    ∃ rawInfo middle, Logged [] before middle ∧ before.packetBufCnt = 1 ∧
      middle.packetBufCnt = (if conn.rawInfo.peek then 1 else 0) ∧
      HeardFrom (before.packetBuf.source options.raw) conn.rawInfo rawInfo ∧
      Receives ({ conn with rawInfo }, middle) frames (next, after) := by
  simp only [recvSaferMulti, Returns.bind_iff] at returned
  obtain ⟨⟨rawInfo, payload⟩, middle, one, returned⟩ := returned
  obtain ⟨logged, full, count, heard, -⟩ := recvRawPayload_logged one
  refine ⟨rawInfo, middle, logged, full, count, heard, ?_⟩
  cases payload with
  | none =>
    obtain ⟨same, rfl⟩ := Returns.pure_iff.mp returned
    obtain ⟨rfl, rfl⟩ := Prod.mk.inj same
    exact .done
  | some payload =>
    dsimp only at returned
    split at returned
    · simp only [Returns.bind_iff, Returns.pure_iff, Prod.mk.injEq] at returned
      obtain ⟨⟨parsed, frame⟩, _, two, ⟨rfl, rfl⟩, rfl⟩ := returned
      have whole := Receives.next (reservedParseSafer_receipt two) .done
      rwa [List.append_nil] at whole
    · exact recvFrames_receives returned

end Udp2raw
