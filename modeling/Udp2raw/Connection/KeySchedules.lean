import Udp2raw.Client.State
import Udp2raw.Connection.GroFraming
import Udp2raw.Connection.Rejection

/-!
# The key schedules of a process

The AES entry points keep the schedule of the key that they were first called with. Nothing that a
process does between two calls touches the static schedules, so they belong to the keys of the
process for as long as it runs, and what it encrypts and decrypts does not depend on what it did
before.
-/
namespace Udp2raw

open Proc

variable {v : IpVersion} {options : Options v} {m m' : Machine v} {α β σ τ : Type} [DecidableEq τ]

/-- What was encrypted or decrypted is what the functions without static schedules compute, and no
message is shorter than a block. -/
def Event.Stateless (options : Options v) : Event v → Prop
  | .encrypted message output => 16 ≤ message.length ∧
    ∃ junk, pureEncrypt options.prim options.crypto options.keys junk message = some output
  | .refused message =>
    ∃ junk, pureEncrypt options.prim options.crypto options.keys junk message = none
  | .decrypted input message =>
    ∃ len, (pureDecrypt options.prim options.crypto options.keys input).len = some len ∧
      message = (pureDecrypt options.prim options.crypto options.keys input).written.take len
  | _ => True

/-- A part of a run that leaves the schedules with their keys, and encrypts and decrypts as the
functions without them do. -/
structure Keyed (options : Options v) (before after : Machine v) : Prop where
  /-- It is the same process. -/
  self : after.self = before.self
  /-- The schedules belong to the keys, and what is added to the record is stateless. -/
  run : Scheduled options before → Scheduled options after ∧
    ∃ events, after.log = before.log ++ entries before.self events ∧
      ∀ event ∈ events, event.Stateless options

namespace Keyed

/-- A part that leaves the schedules and the record alone. -/
theorem of_same (self : m'.self = m.self) (aes : m'.aes = m.aes) (log : m'.log = m.log) :
    Keyed options m m' where
  self := self
  run scheduled := by
    refine ⟨?_, [], ?_, by simp⟩
    · rw [Scheduled, aes]
      exact scheduled
    · rw [log]
      exact (List.append_nil _).symm

/-- Standing still. -/
theorem refl (machine : Machine v) : Keyed options machine machine := of_same rfl rfl rfl

/-- Two parts of a run. -/
theorem trans {a b c : Machine v} (one : Keyed options a b) (two : Keyed options b c) :
    Keyed options a c where
  self := two.self.trans one.self
  run scheduled := by
    obtain ⟨between, first, logOne, before⟩ := one.run scheduled
    obtain ⟨final, second, logTwo, after⟩ := two.run between
    refine ⟨final, first ++ second, ?_, fun event inside => ?_⟩
    · rw [logTwo, logOne, one.self, List.append_assoc, entries, entries, entries, List.map_append]
    · rcases List.mem_append.mp inside with early | late
      · exact before event early
      · exact after event late

end Keyed

/-! ### Composition -/

/-- A returned value. -/
theorem keyed_pure (value : α) : Keeps (Keyed options) (pure value : Proc v α) :=
  keeps_pure Keyed.refl value

/-- A sequence. -/
theorem keyed_bind {first : Proc v β} {rest : β → Proc v α} (start : Keeps (Keyed options) first)
    (continue_ : ∀ middle, Keeps (Keyed options) (rest middle)) :
    Keeps (Keyed options) (first >>= rest) :=
  keeps_bind (fun one two => one.trans two) start continue_

/-- A lifted computation. -/
theorem keyed_lift (computation : Exec α) :
    Keeps (Keyed options) (liftM computation : Proc v α) := keeps_lift Keyed.refl computation

/-- A look at the state. -/
theorem keyed_get : Keeps (Keyed options) (get : Proc v (Machine v)) := keeps_get Keyed.refl

/-- A part that stops. -/
theorem keyed_throw (fault : Fault) : Keeps (Keyed options) (throw fault : Proc v α) :=
  keeps_throw fault

/-- A choice of two parts. -/
theorem keyed_ite {condition : Prop} [Decidable condition] {yes no : Proc v α}
    (whenTrue : Keeps (Keyed options) yes) (whenFalse : Keeps (Keyed options) no) :
    Keeps (Keyed options) (if condition then yes else no) := keeps_ite whenTrue whenFalse

/-! ### A process with the state of its role -/

section Roles

variable {γ : Type}

/-- A returned value. -/
theorem role_pure (value : α) :
    Keeps (FirstHalf (Keyed options)) (pure value : Program Fault (Machine v × γ) α) :=
  keeps_pure (fun _ => .refl _) value

/-- A sequence. -/
theorem role_bind {first : Program Fault (Machine v × γ) β}
    {rest : β → Program Fault (Machine v × γ) α} (start : Keeps (FirstHalf (Keyed options)) first)
    (continue_ : ∀ middle, Keeps (FirstHalf (Keyed options)) (rest middle)) :
    Keeps (FirstHalf (Keyed options)) (first >>= rest) :=
  keeps_bind (fun one two => one.trans two) start continue_

/-- A lifted computation. -/
theorem role_lift (computation : Exec α) :
    Keeps (FirstHalf (Keyed options)) (liftM computation : Program Fault (Machine v × γ) α) :=
  keeps_lift (fun _ => .refl _) computation

/-- What is done to the state of the role. -/
theorem role_onSecond (program : Program Fault γ α) :
    Keeps (FirstHalf (Keyed options)) (onSecond program : Program Fault (Machine v × γ) α) :=
  keeps_onSecond Keyed.refl program

end Roles

/-! ### The shared layers -/

/-- A question. -/
theorem ask_keyed : Keeps (Keyed options) (ask : Proc v (Answer v)) := by
  intro before value after returned
  simp only [ask, Returns.bind_iff, Returns.get_iff, Returns.set_iff, Returns.pure_iff] at returned
  obtain ⟨_, _, ⟨rfl, rfl⟩, _, _, rfl, -, rfl⟩ := returned
  exact .of_same rfl rfl rfl

/-- A record of something stateless. -/
theorem record_keyed {event : Event v} (stateless : event.Stateless options) :
    Keeps (Keyed options) (record event) := by
  intro before value after returned
  obtain rfl := Returns.modify_iff.mp returned
  refine ⟨rfl, fun scheduled => ⟨scheduled, [event], rfl, ?_⟩⟩
  intro other inside
  rw [List.mem_singleton.mp inside]
  exact stateless

/-- A check. -/
theorem check_keyed (condition : Bool) (text : String) :
    Keeps (Keyed options) (check condition text : Proc v Unit) := keyed_lift _

/-- The clock. -/
theorem getCurrentTime_keyed : Keeps (Keyed options) (getCurrentTime : Proc v Nat) := by
  refine keyed_bind (keyed_bind ask_keyed fun answer => ?_) fun _ => keyed_pure _
  intro before value after returned
  simp only [Returns.bind_iff, Returns.get_iff] at returned
  obtain ⟨_, _, ⟨rfl, rfl⟩, returned⟩ := returned
  split at returned
  · simp only [Returns.bind_iff, Returns.set_iff, Returns.pure_iff] at returned
    obtain ⟨_, _, rfl, -, rfl⟩ := returned
    exact .of_same rfl rfl rfl
  · simp only [Returns.bind_iff, Returns.set_iff, Returns.pure_iff] at returned
    obtain ⟨_, _, rfl, -, rfl⟩ := returned
    exact .of_same rfl rfl rfl

/-- A random number. -/
theorem getTrueRandomNumber_keyed :
    Keeps (Keyed options) (getTrueRandomNumber : Proc v UInt32) :=
  keyed_bind ask_keyed fun _ => keyed_pure _

/-- A random number. -/
theorem getTrueRandomNumber64_keyed :
    Keeps (Keyed options) (getTrueRandomNumber64 : Proc v UInt64) :=
  keyed_bind ask_keyed fun _ => keyed_pure _

/-- A drawn identifier. -/
theorem drawMyId_keyed : Keeps (Keyed options) (drawMyId : Proc v UInt32) :=
  keyed_bind ask_keyed fun _ => keyed_bind (record_keyed trivial) fun _ => keyed_pure _

/-- New connection metadata. -/
theorem newRawInfo_keyed : Keeps (Keyed options) (newRawInfo options) := by
  have info : Keeps (Keyed options) (newPacketInfo options) :=
    keyed_bind ask_keyed fun _ => keyed_bind getTrueRandomNumber_keyed fun _ =>
      keyed_bind getTrueRandomNumber_keyed fun _ => keyed_pure _
  exact keyed_bind info fun _ => keyed_bind info fun _ => keyed_bind ask_keyed fun _ => keyed_pure _

/-- A captured packet goes into the buffer. -/
theorem preRecvRawPacket_keyed (received : Option Capture) :
    Keeps (Keyed options) (preRecvRawPacket options received) := by
  refine keyed_bind keyed_get fun _ => keyed_bind (check_keyed _ _) fun _ => ?_
  split
  · exact keyed_pure _
  · exact keyed_ite (keyed_pure _) (keyed_ite (keyed_pure _)
      (keyed_bind (keeps_modify fun _ => .of_same rfl rfl rfl) fun _ => keyed_pure _))

/-- A discarded packet. -/
theorem discardRawPacket_keyed : Keeps (Keyed options) (discardRawPacket : Proc v Unit) :=
  keyed_bind keyed_get fun _ => keyed_bind (check_keyed _ _) fun _ =>
    keeps_modify fun _ => .of_same rfl rfl rfl

/-- A parsed packet. -/
theorem recvRawPayload_keyed (raw : RawInfo options.raw) :
    Keeps (Keyed options) (recvRawPayload options raw) := by
  refine keyed_bind keyed_get fun _ => keyed_bind (check_keyed _ _) fun _ =>
    keyed_bind (keeps_modify fun _ => .of_same rfl rfl rfl) fun _ => ?_
  split
  · exact keyed_pure _
  · exact keyed_throw _
  · exact keyed_pure _

/-- A look at the buffered packet. -/
theorem peekRawPacket_keyed (raw : RawInfo options.raw) :
    Keeps (Keyed options) (peekRawPacket options raw) :=
  keyed_bind keyed_get fun _ => keyed_bind (check_keyed _ _) fun _ => keyed_pure _

/-- A sent payload. -/
theorem sendRawPayload_keyed (raw : RawInfo options.raw) (payload : Bytes) :
    Keeps (Keyed options) (sendRawPayload options raw payload) := by
  have time : Keeps (Keyed options) (segmentTime options) :=
    keyed_ite getCurrentTime_keyed (keyed_pure _)
  exact keyed_bind (record_keyed trivial) fun _ => keyed_bind ask_keyed fun _ =>
    keyed_bind time fun _ => keyed_bind (keyed_lift _) fun _ =>
      keyed_bind (keeps_modify fun _ => .of_same rfl rfl rfl) fun _ => keyed_pure _

/-! ### Encryption -/

/-- An encryption is the one without static schedules. -/
theorem encryptMessage_keyed {message : Bytes} (long : 16 ≤ message.length) :
    Keeps (Keyed options) (encryptMessage options message) := by
  refine keyed_bind ask_keyed fun answer => ?_
  intro before value after returned
  simp only [Returns.bind_iff, Returns.get_iff] at returned
  obtain ⟨_, _, ⟨rfl, rfl⟩, ⟨result, aes⟩, _, lifted, _, _, stored, returned⟩ := returned
  obtain ⟨encrypted, rfl⟩ := Returns.lift_iff.mp lifted
  obtain rfl := Returns.set_iff.mp stored
  cases result with
  | none =>
    simp only [Returns.bind_iff, Returns.pure_iff] at returned
    obtain ⟨_, _, recorded, -, rfl⟩ := returned
    obtain rfl := Returns.modify_iff.mp recorded
    refine ⟨rfl, fun scheduled => ?_⟩
    have computed := myEncrypt_pure scheduled answer.junk message encrypted
    refine ⟨computed.2, [.refused message], rfl, ?_⟩
    intro event inside
    rw [List.mem_singleton.mp inside]
    exact ⟨answer.junk, computed.1.symm⟩
  | some output =>
    simp only [Returns.bind_iff, Returns.pure_iff] at returned
    obtain ⟨_, _, recorded, -, rfl⟩ := returned
    obtain rfl := Returns.modify_iff.mp recorded
    refine ⟨rfl, fun scheduled => ?_⟩
    have computed := myEncrypt_pure scheduled answer.junk message encrypted
    refine ⟨computed.2, [.encrypted message output], rfl, ?_⟩
    intro event inside
    rw [List.mem_singleton.mp inside]
    exact ⟨long, answer.junk, computed.1.symm⟩

/-- A decryption is the one without static schedules. -/
theorem decryptInto_keyed (buffer : Scratch) (input : Bytes) :
    Keeps (Keyed options) (decryptInto options buffer input) := by
  intro before value after returned
  simp only [decryptInto, Returns.bind_iff, Returns.get_iff] at returned
  obtain ⟨_, _, ⟨rfl, rfl⟩, _, _, stored, returned⟩ := returned
  obtain rfl := Returns.set_iff.mp stored
  cases len : (myDecrypt options.prim options.crypto options.keys before.aes input).1.len with
  | none =>
    simp only [len, Returns.pure_iff] at returned
    obtain ⟨-, rfl⟩ := returned
    refine ⟨rfl, fun scheduled => ?_⟩
    have computed := @myDecrypt_pure options.prim _ _ _ scheduled input
    refine ⟨computed.2, [], (List.append_nil _).symm, by simp⟩
  | some len' =>
    simp only [len, Returns.bind_iff, Returns.pure_iff] at returned
    obtain ⟨_, _, recorded, -, rfl⟩ := returned
    obtain rfl := Returns.modify_iff.mp recorded
    refine ⟨rfl, fun scheduled => ?_⟩
    have computed := @myDecrypt_pure options.prim _ _ _ scheduled input
    have covered := myDecrypt_len_le len
    let written := (myDecrypt options.prim options.crypto options.keys before.aes input).1.written
    refine ⟨computed.2, [.decrypted input ((buffer.write written).read 0 len')], rfl, ?_⟩
    intro event inside
    rw [List.mem_singleton.mp inside, Scratch.read_write _ covered]
    rw [computed.1] at len ⊢
    exact ⟨len', len, rfl⟩

/-- A covered frame. -/
theorem saferFrame_keyed (output : Bytes) : Keeps (Keyed options) (saferFrame options output) := by
  refine keyed_ite ?_ (keyed_pure _)
  intro before sealed after returned
  have same : after.self = before.self ∧ after.log = before.log := by
    unfold groSeal at returned
    cases cipher : options.crypto.cipher <;>
      simp only [cipher, Returns.bind_iff, Returns.get_iff, Returns.set_iff, Returns.pure_iff]
        at returned
    case none | xor => rw [returned.2]; exact ⟨rfl, rfl⟩
    case aes128cbc | aes128cfb =>
      obtain ⟨_, _, ⟨rfl, rfl⟩, _, _, rfl, -, rfl⟩ := returned
      exact ⟨rfl, rfl⟩
  refine ⟨same.1, fun scheduled => ⟨(groSeal_pure scheduled returned).2, [], ?_, by simp⟩⟩
  rw [same.2]
  exact (List.append_nil _).symm

/-- An uncovered block. -/
theorem groOpen_keyed (block : AesBlock) : Keeps (Keyed options) (groOpen options block) := by
  intro before opened after returned
  have same : after.self = before.self ∧ after.log = before.log := by
    unfold groOpen at returned
    cases cipher : options.crypto.cipher <;>
      simp only [cipher, Returns.bind_iff, Returns.get_iff, Returns.set_iff, Returns.pure_iff]
        at returned
    case none | xor => rw [returned.2]; exact ⟨rfl, rfl⟩
    case aes128cbc | aes128cfb =>
      obtain ⟨_, _, ⟨rfl, rfl⟩, _, _, rfl, -, rfl⟩ := returned
      exact ⟨rfl, rfl⟩
  refine ⟨same.1, fun scheduled => ⟨(groOpen_pure scheduled returned).2, [], ?_, by simp⟩⟩
  rw [same.2]
  exact (List.append_nil _).symm

/-! ### Messages -/

/-- A sent bare message. -/
theorem sendBare_keyed (raw : RawInfo options.raw) (data : Bytes) :
    Keeps (Keyed options) (sendBare options raw data) := by
  have long (iv padding : UInt64) : 16 ≤ (bareMessage iv padding data).length := by
    simp only [bareMessage, memoryBytes, List.length_append, List.length_reverse,
      BigEndian.encode_length, List.length_cons]
    omega
  refine keyed_bind getTrueRandomNumber64_keyed fun iv =>
    keyed_bind getTrueRandomNumber64_keyed fun padding =>
      keyed_bind (encryptMessage_keyed (long iv padding)) fun output => ?_
  cases output with
  | none => exact keyed_pure _
  | some output => exact keyed_bind (sendRawPayload_keyed _ _) fun _ => keyed_pure _

/-- A sent handshake. -/
theorem sendHandshake_keyed (raw : RawInfo options.raw) (id1 id2 id3 : UInt32) :
    Keeps (Keyed options) (sendHandshake options raw id1 id2 id3) :=
  keyed_bind (sendBare_keyed _ _) fun _ => keyed_pure _

/-- A sent safer message. -/
theorem sendSafer_keyed (conn : ConnInfo options σ τ) (type : UInt8) (data : Bytes) :
    Keeps (Keyed options) (sendSafer conn type data) := by
  refine keyed_ite (keyed_pure _) (keyed_bind (keyed_lift _) fun blob =>
    keyed_bind (encryptMessage_keyed ?_) fun output => ?_)
  · simp only [saferMessage, List.length_append, BigEndian.encode_length, List.length_cons]
    omega
  cases output with
  | none => exact keyed_pure _
  | some output =>
    exact keyed_bind (saferFrame_keyed _) fun _ => keyed_bind (sendRawPayload_keyed _ _) fun _ =>
      keyed_ite (keyed_pure _) (keyed_bind ask_keyed fun _ => keyed_pure _)

/-- A sent datagram. -/
theorem sendDataSafer_keyed (conn : ConnInfo options σ τ) (data : Bytes) (convNum : UInt32) :
    Keeps (Keyed options) (sendDataSafer conn data convNum) :=
  keyed_bind (record_keyed trivial) fun _ =>
    keyed_bind (sendSafer_keyed _ _ _) fun _ => keyed_pure _

/-- A sent heartbeat. -/
theorem sendHeartbeat_keyed (conn : ConnInfo options σ τ) :
    Keeps (Keyed options) (sendHeartbeat conn) :=
  keyed_bind (sendSafer_keyed _ _ _) fun _ => keyed_pure _

/-- A received bare message. -/
theorem recvBare_keyed (raw : RawInfo options.raw) :
    Keeps (Keyed options) (recvBare options raw) := by
  have parse (input : Bytes) : Keeps (Keyed options) (reservedParseBare options input) := by
    refine keyed_bind keyed_get fun _ => keyed_bind (decryptInto_keyed _ _) fun _ =>
      keyed_bind (keeps_modify fun _ => .of_same rfl rfl rfl) fun _ => ?_
    split
    · exact keyed_pure _
    · exact keyed_ite (keyed_pure _) (keyed_ite (keyed_pure _) (keyed_pure _))
  refine keyed_bind (recvRawPayload_keyed raw) fun parsed => ?_
  obtain ⟨raw, payload⟩ := parsed
  cases payload with
  | none => exact keyed_pure _
  | some payload =>
    exact keyed_ite (keyed_pure _) (keyed_ite (keyed_pure _)
      (keyed_bind (parse _) fun _ => keyed_pure _))

/-- A parsed safer message. -/
theorem reservedParseSafer_keyed (conn : ConnInfo options σ τ) (input : Bytes) :
    Keeps (Keyed options) (reservedParseSafer conn input) := by
  have roller (other : ConnInfo options σ τ) (number : UInt8) :
      Keeps (Keyed options) (other.noteRoller number) :=
    keyed_ite (keyed_bind getCurrentTime_keyed fun _ => keyed_pure _) (keyed_pure _)
  refine keyed_bind keyed_get fun _ => keyed_bind (decryptInto_keyed _ _) fun _ =>
    keyed_bind (keeps_modify fun _ => .of_same rfl rfl rfl) fun _ => ?_
  split
  · exact keyed_pure _
  · exact keyed_ite (keyed_pure _) (keyed_bind (keyed_lift _) fun _ =>
      keyed_ite (keyed_pure _) (keyed_bind (record_keyed trivial) fun _ =>
        keyed_ite (keyed_pure _) (keyed_ite (keyed_pure _)
          (keyed_bind (roller _ _) fun _ => keyed_pure _))))

/-- The messages of one payload, by its length. -/
theorem recvFrames_keyed (conn : ConnInfo options σ τ) (recvData : Bytes) :
    Keeps (Keyed options) (recvFrames conn recvData) := by
  induction size : recvData.length using Nat.strong_induction_on generalizing conn recvData with
  | _ size ih =>
  rw [recvFrames]
  split
  · refine keyed_bind (groOpen_keyed _) fun block => keyed_ite (keyed_pure _)
      (keyed_ite (keyed_pure _) (keyed_bind (reservedParseSafer_keyed _ _) fun parsed =>
        keyed_bind (ih _ ?_ _ _ rfl) fun _ => keyed_pure _))
    simp only [List.length_drop, List.length_append, Vector.length_toList]
    omega
  · exact keyed_pure _

/-- The messages of the buffered packet. -/
theorem recvSaferMulti_keyed (conn : ConnInfo options σ τ) :
    Keeps (Keyed options) (recvSaferMulti conn) := by
  refine keyed_bind (recvRawPayload_keyed _) fun parsed => ?_
  obtain ⟨rawInfo, payload⟩ := parsed
  cases payload with
  | none => exact keyed_pure _
  | some payload =>
    exact keyed_ite (keyed_bind (reservedParseSafer_keyed _ _) fun _ => keyed_pure _)
      (recvFrames_keyed _ _)

/-! ### Connections -/

section Connections

variable (options)

/-- A conversation that is used. -/
theorem updateActiveTime_keyed (manager : ConvManager τ) (conv : UInt32) :
    Keeps (Keyed options) (manager.updateActiveTime conv : Proc v _) := by
  refine keyed_bind ?_ fun _ => keyed_pure _
  exact keyed_bind (check_keyed _ _) fun _ => keyed_bind getCurrentTime_keyed fun _ =>
    keyed_bind (check_keyed _ _) fun _ => keyed_pure _

/-- A new conversation. -/
theorem insertConv_keyed (manager : ConvManager τ) (conv : UInt32) (data : τ) :
    Keeps (Keyed options) (manager.insertConv conv data : Proc v _) := by
  refine keyed_bind ?_ fun _ => keyed_pure _
  unfold LruCollector.newKey
  split
  · exact keyed_throw _
  · exact keyed_bind getCurrentTime_keyed fun _ =>
      keyed_bind (check_keyed _ _) fun _ => keyed_pure _

/-- A sweep of conversations. -/
theorem clearInactive_keyed {ρ : Type} [Inhabited τ] (clear : τ → ρ → Exec ρ)
    (manager : ConvManager τ) (resources : ρ) :
    Keeps (Keyed options) (manager.clearInactive clear resources : Proc v _) :=
  keyed_bind getCurrentTime_keyed fun _ => keyed_ite (keyed_pure _)
    (keyed_bind getCurrentTime_keyed fun _ => keyed_bind getCurrentTime_keyed fun _ => keyed_lift _)

/-- The conversation of a local peer. -/
theorem convOf_keyed (manager : ConvManager τ) (data : τ) :
    Keeps (Keyed options) (manager.convOf data : Proc v _) := by
  have drawn : Keeps (Keyed options) (manager.getNewConv : Proc v _) := by
    refine keyed_bind ask_keyed fun answer => ?_
    split
    · exact keyed_pure _
    · exact keyed_throw _
  exact keyed_ite (keyed_pure _) (keyed_ite (keyed_pure _)
    (keyed_bind drawn fun _ => keyed_bind (insertConv_keyed options _ _ _) fun _ => keyed_pure _))

end Connections

/-- A new connection. -/
theorem newConnInfo_keyed (idle : σ) :
    Keeps (Keyed options) (newConnInfo options idle : Proc v (ConnInfo options σ τ)) :=
  keyed_bind newRawInfo_keyed fun _ => keyed_bind ask_keyed fun _ => keyed_bind ask_keyed fun _ =>
    keyed_bind ask_keyed fun _ => keyed_bind ask_keyed fun _ => keyed_pure _

/-- A prepared connection. -/
theorem prepare_keyed (conn : ConnInfo options σ τ) :
    Keeps (Keyed options) (conn.prepare : Proc v _) := by
  have blob : Keeps (Keyed options) (newBlob : Proc v (Blob τ)) :=
    keyed_bind (keyed_bind ask_keyed fun _ => keyed_pure _) fun _ =>
      keyed_bind ask_keyed fun _ => keyed_bind getTrueRandomNumber64_keyed fun _ => keyed_pure _
  exact keyed_bind (check_keyed _ _) fun _ => keyed_bind blob fun _ => keyed_pure _

end Udp2raw
