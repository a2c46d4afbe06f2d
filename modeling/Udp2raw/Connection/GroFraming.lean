import Udp2raw.Connection.Messages
import Udp2raw.EncryptRoundTrip
import Udp2raw.Network.RoundTrip
import Mathlib.Algebra.Order.BigOperators.Group.List

/-!
# Framing of glued messages

With `fix_gro` a sender puts the length of each ciphertext in front of it and obfuscates the
start of the frame; a receiver uncovers the start of what is left, takes one ciphertext off
and goes on behind it. A receiver that gets any frames of a peer in one payload therefore
finds exactly these frames, and its session and window decide about each one.
-/
namespace Udp2raw

open Proc
open BlockModes (blockOf)

variable {v : IpVersion} {σ τ : Type} [DecidableEq τ]

/-- Two ends of a tunnel with the same encryption, both with `fix_gro`. -/
structure GroPeers (sender receiver : Options v) : Prop where
  /-- The same library functions. -/
  prim : receiver.prim = sender.prim
  /-- The same modes. -/
  crypto : receiver.crypto = sender.crypto
  /-- Keys from one password for the two roles. -/
  keys : ∃ userPasswd isClient, sender.keys = myInitKeys sender.prim userPasswd isClient ∧
    receiver.keys = myInitKeys sender.prim userPasswd (!isClient)
  /-- The sender glues. -/
  sends : sender.fixGro = true
  /-- The receiver takes apart. -/
  receives : receiver.fixGro = true

/-- The key schedules of a process belong to its keys. -/
def Scheduled (options : Options v) (machine : Machine v) : Prop :=
  machine.aes.Holds options.crypto options.keys

/-! ### The start of a frame -/

/-- The obfuscation of a frame without the static schedules. -/
def sealBytes (options : Options v) (frame : Bytes) : Bytes :=
  match options.crypto.cipher with
  | .none => frame
  | .xor => frame.zipIdx.map fun (byte, place) =>
      if place < 2 then byte ^^^ options.keys.groXor.toList.getD place 0 else byte
  | .aes128cbc | .aes128cfb => pureEcbEncrypt options.prim options.keys frame

/-- The first block of a frame uncovered without the static schedules. -/
def openBlock (options : Options v) (block : AesBlock) : AesBlock :=
  match options.crypto.cipher with
  | .none => block
  | .xor => Vector.ofFn fun place : Fin 16 =>
      if place.val < 2 then block.get place ^^^ options.keys.groXor.toList.getD place.val 0
      else block.get place
  | .aes128cbc | .aes128cfb => blockOf 16 (pureEcbDecrypt options.prim options.keys block.toList)

section Blocks

variable {options : Options v} {before after : Machine v}

/-- A scheduled process seals with its own key. -/
theorem groSeal_pure {frame sealed : Bytes} (scheduled : Scheduled options before)
    (returned : Returns (groSeal options frame) before sealed after) :
    sealed = sealBytes options frame ∧ Scheduled options after := by
  unfold groSeal at returned
  unfold sealBytes
  cases cipher : options.crypto.cipher <;>
    simp only [cipher, Returns.bind_iff, Returns.get_iff, Returns.set_iff, Returns.pure_iff]
      at returned ⊢
  case none | xor => exact ⟨returned.1.symm, returned.2 ▸ scheduled⟩
  case aes128cbc | aes128cfb =>
    obtain ⟨_, _, ⟨rfl, rfl⟩, _, _, rfl, rfl, rfl⟩ := returned
    exact aesEcbEncrypt_pure options.prim scheduled frame

/-- A scheduled process opens with its own key. -/
theorem groOpen_pure {block opened : AesBlock} (scheduled : Scheduled options before)
    (returned : Returns (groOpen options block) before opened after) :
    opened = openBlock options block ∧ Scheduled options after := by
  unfold groOpen at returned
  unfold openBlock
  cases cipher : options.crypto.cipher <;>
    simp only [cipher, Returns.bind_iff, Returns.get_iff, Returns.set_iff, Returns.pure_iff]
      at returned ⊢
  case none | xor => exact ⟨returned.1.symm, returned.2 ▸ scheduled⟩
  case aes128cbc | aes128cfb =>
    obtain ⟨_, _, ⟨rfl, rfl⟩, _, _, rfl, rfl, rfl⟩ := returned
    obtain ⟨same, holds⟩ := aesEcbDecrypt_pure options.prim scheduled block.toList
    exact ⟨by rw [same], holds⟩

end Blocks

/-- A covered frame is as long as before. -/
theorem sealBytes_length (options : Options v) {frame : Bytes} (long : 16 ≤ frame.length) :
    (sealBytes options frame).length = frame.length := by
  unfold sealBytes
  split
  · rfl
  · simp
  · exact pureEcbEncrypt_length _ _ long
  · exact pureEcbEncrypt_length _ _ long

/-- The single block cipher of one side is undone by the other in front of any bytes. -/
theorem pureEcb_open {prim : Primitives} {sender receiver : Keys} (peers : Peers sender receiver)
    {frame : Bytes} (long : 16 ≤ frame.length) (rest : Bytes) :
    (blockOf 16 (pureEcbDecrypt prim receiver
        (blockOf 16 (pureEcbEncrypt prim sender frame ++ rest)).toList)).toList ++
      (pureEcbEncrypt prim sender frame ++ rest).drop 16 = frame ++ rest := by
  have block : blockOf 16 (pureEcbEncrypt prim sender frame ++ rest) =
      prim.aesEncrypt (cipherBlock sender.cipherKeyEncrypt) (blockOf 16 frame) := by
    rw [pureEcbEncrypt, List.append_assoc, BlockModes.blockOf_append]
  have behind : (pureEcbEncrypt prim sender frame ++ rest).drop 16 = frame.drop 16 ++ rest := by
    rw [pureEcbEncrypt, List.append_assoc, BlockModes.drop_append]
  have alone (block : AesBlock) : blockOf 16 block.toList = block := by
    simpa using BlockModes.blockOf_append block []
  rw [block, behind, pureEcbDecrypt, alone, BlockModes.blockOf_append, peers.cipherKey,
    prim.aesInverse, BlockModes.blockOf_toList frame long, ← List.append_assoc,
    List.take_append_drop]

/-- The exclusive or of the first two bytes is undone in front of any bytes. -/
theorem xor_open (pad : List UInt8) {frame : Bytes} (long : 16 ≤ frame.length) (rest : Bytes) :
    let covered := frame.zipIdx.map fun (byte, place) =>
      if place < 2 then byte ^^^ pad.getD place 0 else byte
    (Vector.ofFn fun place : Fin 16 =>
        if place.val < 2 then (blockOf 16 (covered ++ rest)).get place ^^^ pad.getD place.val 0
        else (blockOf 16 (covered ++ rest)).get place).toList ++
      (covered ++ rest).drop 16 = frame ++ rest := by
  intro covered
  have length : covered.length = frame.length := by simp [covered]
  have byte (place : Nat) (left : place < covered.length) (inside : place < frame.length) :
      covered[place] = if place < 2 then frame[place] ^^^ pad.getD place 0 else frame[place] := by
    simp [covered]
  apply List.ext_getElem
  · simp only [List.length_append, Vector.length_toList, List.length_drop]
    omega
  intro place left right
  by_cases front : place < 16
  · have inside : place < frame.length := by omega
    have left : place < covered.length := by omega
    rw [List.getElem_append_left (by simpa using front), List.getElem_append_left inside]
    have read : (blockOf 16 (covered ++ rest)).get ⟨place, front⟩ = covered[place] := by
      change (blockOf 16 (covered ++ rest))[place] = _
      simp [blockOf, List.getElem?_append_left left, List.getElem?_eq_getElem left]
    simp only [Vector.getElem_toList, Vector.getElem_ofFn, read, byte place left inside]
    by_cases first : place < 2
    · simp only [if_pos first, UInt8.xor_assoc, UInt8.xor_self, UInt8.xor_zero]
    · simp only [if_neg first]
  · rw [List.getElem_append_right (by simpa using Nat.not_lt.mp front)]
    have place' : 16 + (place - 16) = place := by omega
    simp only [Vector.length_toList, List.getElem_drop, place']
    by_cases inside : place < frame.length
    · rw [List.getElem_append_left (by omega), List.getElem_append_left inside,
        byte place (by omega) inside, if_neg (by omega)]
    · simp only [List.getElem_append_right (Nat.not_lt.mp inside),
        List.getElem_append_right (show covered.length ≤ place by omega), length]

/-- The peer uncovers the start of a payload and leaves the rest alone. -/
theorem openBlock_sealBytes {sender receiver : Options v} (peers : GroPeers sender receiver)
    {frame : Bytes} (long : 16 ≤ frame.length) (rest : Bytes) :
    (openBlock receiver (blockOf 16 (sealBytes sender frame ++ rest))).toList ++
      (sealBytes sender frame ++ rest).drop 16 = frame ++ rest := by
  obtain ⟨userPasswd, isClient, senderKeys, receiverKeys⟩ := peers.keys
  have keyPeers := myInitKeys_peers sender.prim userPasswd isClient
  have groXor : receiver.keys.groXor = sender.keys.groXor := by
    rw [senderKeys, receiverKeys]
    rfl
  rw [← senderKeys, ← receiverKeys] at keyPeers
  unfold openBlock sealBytes
  rw [peers.crypto, peers.prim, groXor]
  cases sender.crypto.cipher with
  | none =>
    dsimp only
    rw [BlockModes.blockOf_toList _ (by rw [List.length_append]; omega), List.take_append_drop]
  | xor => exact xor_open sender.keys.groXor.toList long rest
  | aes128cbc => exact pureEcb_open keyPeers long rest
  | aes128cfb => exact pureEcb_open keyPeers long rest

/-! ### Frames of a sender -/

/-- A call of `send_safer` at a process with any history that passed a frame on, with a
ciphertext that fits. -/
structure SafeCall (sender : Options v) (σ τ : Type) [DecidableEq τ] where
  /-- The connection. -/
  conn : ConnInfo sender σ τ
  /-- Its conversations and window. -/
  blob : Blob τ
  /-- They are allocated. -/
  allocated : conn.blob = some blob
  /-- The type of the message. -/
  type : UInt8
  /-- The data of the message. -/
  data : Bytes
  /-- The process before the call. -/
  before : Machine v
  /-- The process after the call. -/
  after : Machine v
  /-- What the call returned. -/
  result : ConnInfo sender σ τ × Int
  /-- The call. -/
  ran : Returns (sendSafer conn type data) before result after
  /-- What the process encrypted and decrypted before. -/
  history : List CryptCall
  /-- Its key schedules come from there. -/
  schedules : afterCalls sender.prim sender.crypto sender.keys history = .ok before.aes
  /-- The plaintext. -/
  message : Bytes
  /-- The ciphertext. -/
  output : Bytes
  /-- The frame that `send_raw0` was called with. -/
  frame : Bytes
  /-- The call encrypted the one and sent the other. -/
  recorded : after.log =
    before.log ++ entries before.self [.encrypted message output, .rawPayload frame]
  /-- The ciphertext fits. -/
  fits : output.length ≤ maxDataLen

/-- The number that a call takes. -/
def SafeCall.seq {sender : Options v} (call : SafeCall sender σ τ) : UInt64 :=
  call.blob.antiReplay.antiReplaySeq

/-- Whether a receiver takes the frame of a call, and its window after it. -/
def SafeCall.verdict {sender : Options v} (call : SafeCall sender σ τ) (disableAntiReplay : Bool)
    (myId oppsiteId : UInt32) (window : AntiReplay) : Bool × AntiReplay :=
  if call.conn.myId = oppsiteId ∧ call.conn.oppsiteId = myId then
    let (valid, next) := window.isVaild disableAntiReplay call.seq
    if valid then (true, next) else (false, window)
  else (false, window)

/-- The calls of a list whose frames a receiver takes, in this order. -/
def acceptedCalls {sender : Options v} (disableAntiReplay : Bool) (myId oppsiteId : UInt32) :
    AntiReplay → List (SafeCall sender σ τ) → List (SafeCall sender σ τ)
  | _, [] => []
  | window, call :: rest =>
    let (taken, next) := call.verdict disableAntiReplay myId oppsiteId window
    (if taken then [call] else []) ++ acceptedCalls disableAntiReplay myId oppsiteId next rest

section Calls

variable {sender receiver : Options v} {before after : Machine v} {σ' τ' : Type} [DecidableEq τ']

/-- A scheduled process encrypts with its own keys. -/
theorem encryptMessage_pure {options : Options v} {message output : Bytes}
    (scheduled : Scheduled options before)
    (returned : Returns (encryptMessage options message) before (some output) after) :
    (∃ junk, pureEncrypt options.prim options.crypto options.keys junk message = some output) ∧
      Scheduled options after := by
  simp only [encryptMessage, Returns.bind_iff, Returns.get_iff] at returned
  obtain ⟨answer, asked, one, _, _, ⟨rfl, rfl⟩, ⟨result, aes⟩, _, lifted, _, _, two, returned⟩ :=
    returned
  obtain ⟨encrypted, rfl⟩ := Returns.lift_iff.mp lifted
  obtain rfl := Returns.set_iff.mp two
  have same : asked.aes = before.aes := by
    simp only [ask, Returns.bind_iff, Returns.get_iff, Returns.set_iff, Returns.pure_iff] at one
    obtain ⟨_, _, ⟨rfl, rfl⟩, _, _, rfl, rfl, rfl⟩ := one
    rfl
  obtain ⟨written, holds⟩ := myEncrypt_pure (same ▸ scheduled) answer.junk message encrypted
  cases result with
  | none =>
    obtain ⟨impossible, -⟩ := Returns.pure_iff.mp returned
    cases impossible
  | some bytes =>
    simp only [Returns.bind_iff, Returns.pure_iff] at returned
    obtain ⟨_, _, recorded, same, rfl⟩ := returned
    obtain rfl := Returns.modify_iff.mp recorded
    obtain rfl := Option.some.inj same
    exact ⟨⟨answer.junk, written.symm⟩, holds⟩

/-- The frame of a call is its ciphertext behind its length, covered at the start. -/
theorem SafeCall.frame_eq (call : SafeCall sender σ τ) (gro : sender.fixGro = true) :
    call.frame = sealBytes sender (BigEndian.encode 2 call.output.length ++ call.output) ∧
      (call.type = typeHeartbeat ∨ call.type = typeData) ∧
      ∃ junk, pureEncrypt sender.prim sender.crypto sender.keys junk (saferMessage call.conn.myId
        call.conn.oppsiteId call.seq call.type call.conn.myRoller call.data) =
          some call.output := by
  have scheduled : Scheduled sender call.before := afterCalls_holds call.history call.schedules
  have recorded := call.recorded
  have longer (log : Log v) (some : log = log ++ entries call.before.self
      [.encrypted call.message call.output, .rawPayload call.frame]) : False := by
    have lengths := congrArg List.length some
    simp [entries] at lengths
  obtain ⟨-, -, -, same⟩ | ⟨known, blob, sent⟩ := sendSafer_ran call.ran
  · rw [same] at recorded
    exact absurd recorded (longer _)
  have sameBlob := sent.allocated.symm.trans call.allocated
  obtain rfl := Option.some.inj sameBlob
  obtain quiet | ⟨output, frame, middle, framed, encrypted, built, ran⟩ := sent.ran
  · have log := quiet.log
    rw [recorded] at log
    simp [entries] at log
  have log := ran.log
  rw [recorded] at log
  have events := List.append_cancel_left log
  simp only [entries, List.map_cons, List.map_nil, List.cons.injEq, Prod.mk.injEq,
    Event.encrypted.injEq, Event.rawPayload.injEq, true_and, and_true] at events
  obtain ⟨⟨-, rfl⟩, rfl⟩ := events
  obtain ⟨pure, next⟩ := encryptMessage_pure scheduled encrypted
  rw [saferFrame, if_pos gro] at built
  exact ⟨(groSeal_pure next built).1, known, pure⟩

/-- A ciphertext is at least as long as its message. -/
theorem pureCipherEncrypt_length (prim : Primitives) (mode : CryptoMode) (keys : Keys)
    (junk : Nat → UInt8) (key : AesBlock) {data : Bytes} (long : 16 ≤ data.length) :
    data.length ≤ (pureCipherEncrypt prim mode keys junk key data).length := by
  unfold pureCipherEncrypt
  cases mode.cipher with
  | none => exact Nat.le_refl _
  | xor => rw [cipherXor_length]
  | aes128cbc =>
    simp only [BlockModes.cbcEncrypt_length, padding_length]
    omega
  | aes128cfb =>
    simp only [BlockModes.cfbEncrypt_length]
    split
    · exact Nat.le_refl _
    · rw [pureEcbEncrypt_length _ _ long]

/-- An encrypted message is at least as long as the message. -/
theorem pureEncrypt_length {prim : Primitives} {mode : CryptoMode} {keys : Keys}
    {junk : Nat → UInt8} {data output : Bytes} (long : 16 ≤ data.length)
    (encrypted : pureEncrypt prim mode keys junk data = some output) :
    data.length ≤ output.length := by
  unfold pureEncrypt at encrypted
  split at encrypted
  · contradiction
  · split at encrypted
    · have inner := pureCipherEncrypt_length prim mode keys junk (mode.encryptKey keys) long
      obtain rfl := Option.some.inj encrypted
      rw [authCal, List.length_append]
      omega
    · have tagged : data.length ≤ (authCal prim mode keys data).length := by
        rw [authCal, List.length_append]
        omega
      have inner := pureCipherEncrypt_length prim mode keys junk (mode.encryptKey keys)
        (Nat.le_trans long tagged)
      obtain rfl := Option.some.inj encrypted
      omega

/-- A scheduled process decrypts with its own keys. -/
theorem decryptInto_pure {options : Options v} {buffer next : Scratch} {input : Bytes}
    {len : Option Nat} (scheduled : Scheduled options before)
    (returned : Returns (decryptInto options buffer input) before (next, len) after) :
    len = (pureDecrypt options.prim options.crypto options.keys input).len ∧
      next = buffer.write (pureDecrypt options.prim options.crypto options.keys input).written ∧
      Scheduled options after := by
  simp only [decryptInto, Returns.bind_iff, Returns.get_iff] at returned
  obtain ⟨_, _, ⟨rfl, rfl⟩, _, _, two, returned⟩ := returned
  obtain rfl := Returns.set_iff.mp two
  obtain ⟨same, holds⟩ := myDecrypt_pure scheduled input
  rw [same] at returned
  cases read : (pureDecrypt options.prim options.crypto options.keys input).len with
  | none =>
    simp only [read, Returns.pure_iff, Prod.mk.injEq] at returned
    obtain ⟨⟨rfl, rfl⟩, rfl⟩ := returned
    exact ⟨rfl, rfl, holds⟩
  | some length =>
    simp only [read, Returns.bind_iff, Returns.pure_iff, Prod.mk.injEq] at returned
    obtain ⟨_, _, recorded, ⟨rfl, rfl⟩, rfl⟩ := returned
    obtain rfl := Returns.modify_iff.mp recorded
    exact ⟨rfl, rfl, holds⟩

/-- The ciphertext of a call is decrypted to its message by the peer. -/
theorem decryptInto_call (peers : GroPeers sender receiver) (call : SafeCall sender σ τ)
    {buffer next : Scratch} {len : Option Nat} (scheduled : Scheduled receiver before)
    (returned : Returns (decryptInto receiver buffer call.output) before (next, len) after) :
    len = some (18 + call.data.length) ∧ next.read 0 (18 + call.data.length) =
      saferMessage call.conn.myId call.conn.oppsiteId call.seq call.type call.conn.myRoller
        call.data ∧ Scheduled receiver after := by
  obtain ⟨userPasswd, isClient, senderKeys, receiverKeys⟩ := peers.keys
  have keyPeers := myInitKeys_peers sender.prim userPasswd isClient
  rw [← senderKeys, ← receiverKeys] at keyPeers
  obtain ⟨-, -, junk, encrypted⟩ := call.frame_eq peers.sends
  have size := saferMessage_length call.conn.myId call.conn.oppsiteId call.seq call.type
    call.conn.myRoller call.data
  obtain ⟨length, written⟩ := pureEncrypt_roundtrip keyPeers (by omega) encrypted call.fits
  obtain ⟨rfl, rfl, holds⟩ := decryptInto_pure scheduled returned
  rw [peers.prim, peers.crypto]
  rw [size] at length written
  refine ⟨length, ?_, holds⟩
  rw [Scratch.read_write, written]
  have covered := congrArg List.length written
  rw [List.length_take, size] at covered
  omega

/-- Noting a roller leaves the key schedules alone. -/
theorem noteRoller_scheduled {options : Options v} {conn next : ConnInfo receiver σ' τ'}
    {roller : UInt8} (scheduled : Scheduled options before)
    (returned : Returns (conn.noteRoller roller) before next after) : Scheduled options after := by
  unfold ConnInfo.noteRoller at returned
  split at returned
  · simp only [getCurrentTime, getCurrentTimeUs, ask, Returns.bind_iff, Returns.get_iff,
      Returns.set_iff, Returns.pure_iff] at returned
    obtain ⟨_, _, ⟨_, _, ⟨_, _, ⟨_, _, ⟨rfl, rfl⟩, _, _, rfl, rfl, rfl⟩, _, _, ⟨rfl, rfl⟩, clock⟩,
      -, rfl⟩, -, rfl⟩ := returned
    split at clock <;> simp only [Returns.bind_iff, Returns.set_iff, Returns.pure_iff] at clock <;>
      obtain ⟨_, _, rfl, -, rfl⟩ := clock <;> exact scheduled
  · exact (Returns.pure_iff.mp returned).2 ▸ scheduled

/-- A session whose window took in the verdict on one call. -/
structure Decided (conn next : ConnInfo receiver σ' τ') (blob : Blob τ') (window : AntiReplay) :
    Prop where
  /-- It has the same identifier. -/
  myId : next.myId = conn.myId
  /-- The other end has the same identifier. -/
  oppsiteId : next.oppsiteId = conn.oppsiteId
  /-- It has this window. -/
  blob : next.blob = some { blob with antiReplay := window }

/-- The peer's `reserved_parse_safer` decides about a call as its session and window say. -/
theorem reservedParseSafer_call (peers : GroPeers sender receiver) (call : SafeCall sender σ τ)
    {conn : ConnInfo receiver σ' τ'} {blob : Blob τ'} (allocated : conn.blob = some blob)
    (scheduled : Scheduled receiver before) :
    let verdict := call.verdict receiver.disableAntiReplay conn.myId conn.oppsiteId blob.antiReplay
    ∃ next after, Returns (reservedParseSafer conn call.output) before
        (next, if verdict.1 then some ⟨call.seq, call.type, call.data⟩ else none) after ∧
      Scheduled receiver after ∧ Decided conn next blob verdict.2 := by
  intro verdict
  obtain ⟨⟨next, frame⟩, after, returned, -⟩ :=
    reservedParseSafer_total allocated call.output before
  have ran := returned
  suffices decided : frame = (if verdict.1 then some ⟨call.seq, call.type, call.data⟩ else none) ∧
      Scheduled receiver after ∧ Decided conn next blob verdict.2 by
    rw [decided.1] at ran
    exact ⟨next, after, ran, decided.2⟩
  clear ran
  simp only [reservedParseSafer, Returns.bind_iff, Returns.get_iff] at returned
  obtain ⟨_, _, ⟨rfl, rfl⟩, ⟨buffer, len⟩, middle, one, _, _, two, returned⟩ := returned
  obtain rfl := Returns.modify_iff.mp two
  obtain ⟨rfl, message, holds⟩ := decryptInto_call peers call scheduled one
  have header : buffer.read 0 16 = (buffer.read 0 (18 + call.data.length)).take 16 := by
    rw [Scratch.read_take buffer 0 (by omega)]
  have first : idAt (buffer.read 0 16) 0 = call.conn.myId := by
    rw [header, message, idAt_take _ (by omega)]
    exact (idAt_saferMessage ..).1
  have second : idAt (buffer.read 0 16) 4 = call.conn.oppsiteId := by
    rw [header, message, idAt_take _ (by omega)]
    exact (idAt_saferMessage ..).2
  have number : UInt64.ofNat (BigEndian.decode ((buffer.read 0 16).drop 8)) = call.seq := by
    rw [header, message]
    exact seq_saferMessage ..
  have type : buffer 16 = call.type := by
    have read := Scratch.getElem?_read buffer (show 16 < 18 + call.data.length by omega)
    rw [message, type_saferMessage] at read
    exact (Option.some.inj read).symm
  have data : buffer.read 18 (18 + call.data.length - 18) = call.data := by
    have read := Scratch.read_drop buffer 0 (18 + call.data.length) 18
    rw [message, data_saferMessage] at read
    exact read.symm
  obtain ⟨-, known, -⟩ := call.frame_eq peers.sends
  simp only [first, second, number, type, data] at returned
  by_cases ids : call.conn.myId = conn.oppsiteId ∧ call.conn.oppsiteId = conn.myId
  · rw [if_neg (by rw [not_or, not_not, not_not]; exact ids)] at returned
    simp only [Returns.bind_iff, Returns.lift_iff, ConnInfo.theBlob, allocated,
      Except.ok.injEq] at returned
    obtain ⟨_, _, ⟨rfl, rfl⟩, returned⟩ := returned
    cases checked : blob.antiReplay.isVaild receiver.disableAntiReplay call.seq with
    | mk valid antiReplay =>
    simp only [checked] at returned
    have decision : verdict = if valid then (true, antiReplay) else (false, blob.antiReplay) := by
      simp only [verdict, SafeCall.verdict, if_pos ids, checked]
    cases valid with
    | false =>
      simp only [if_pos, Returns.pure_iff, Prod.mk.injEq] at returned
      obtain ⟨⟨rfl, rfl⟩, rfl⟩ := returned
      rw [decision]
      exact ⟨rfl, holds, rfl, rfl, allocated⟩
    | true =>
      have good : ¬(call.type ≠ typeHeartbeat ∧ call.type ≠ typeData) := fun wrong =>
        known.elim wrong.1 wrong.2
      simp only [Bool.true_eq_false, if_false, Returns.bind_iff, if_neg good,
        if_neg (Nat.not_lt.mpr (Nat.le_add_right 18 call.data.length)), Returns.pure_iff,
        Prod.mk.injEq] at returned
      obtain ⟨_, _, recorded, rolled, _, noted, ⟨rfl, rfl⟩, rfl⟩ := returned
      obtain rfl := Returns.modify_iff.mp recorded
      obtain ⟨-, kept⟩ := noteRoller_ran noted
      rw [decision]
      refine ⟨rfl, noteRoller_scheduled ?_ noted, kept.myId, kept.oppsiteId, kept.blob⟩
      exact holds
  · rw [if_pos (by rwa [← not_and_or])] at returned
    simp only [Returns.pure_iff, Prod.mk.injEq] at returned
    obtain ⟨⟨rfl, rfl⟩, rfl⟩ := returned
    have decision : verdict = (false, blob.antiReplay) := by
      simp only [verdict, SafeCall.verdict, if_neg ids]
    rw [decision]
    exact ⟨rfl, holds, rfl, rfl, allocated⟩

/-- The message that a call hands to the receiver. -/
def SafeCall.received (call : SafeCall sender σ τ) : Frame := ⟨call.seq, call.type, call.data⟩

/-- The loop takes one frame off the payload, decides about it and goes on behind it. -/
theorem recvFrames_frame (peers : GroPeers sender receiver) (call : SafeCall sender σ τ)
    (rest : Bytes) (conn : ConnInfo receiver σ' τ') {block : AesBlock} {opened : Machine v}
    (scheduled : Scheduled receiver before)
    (uncovered : Returns (groOpen receiver (blockOf 16 (call.frame ++ rest))) before block
      opened) :
    Scheduled receiver opened ∧ ∀ parsed frame middle next frames final,
      Returns (reservedParseSafer conn call.output) opened (parsed, frame) middle →
      Returns (recvFrames parsed rest) middle (next, frames) final →
      Returns (recvFrames conn (call.frame ++ rest)) before (next, frame.toList ++ frames)
        final := by
  obtain ⟨frameEq, -, junk, encrypted⟩ := call.frame_eq peers.sends
  have size := saferMessage_length call.conn.myId call.conn.oppsiteId call.seq call.type
    call.conn.myRoller call.data
  have output := pureEncrypt_length (by omega) encrypted
  have inner : 16 ≤ (BigEndian.encode 2 call.output.length ++ call.output).length := by
    rw [List.length_append]
    omega
  have frameLength : call.frame.length = 2 + call.output.length := by
    rw [frameEq, sealBytes_length sender inner, List.length_append, BigEndian.encode_length]
  obtain ⟨rfl, holds⟩ := groOpen_pure scheduled uncovered
  refine ⟨holds, fun parsed frame middle next frames final one two => ?_⟩
  have whole := openBlock_sealBytes peers inner rest
  rw [← frameEq, List.append_assoc] at whole
  have length : (BigEndian.encode 2 call.output.length).length = 2 := BigEndian.encode_length 2 _
  have single : BigEndian.decode ((BigEndian.encode 2 call.output.length ++
      (call.output ++ rest)).take 2) = call.output.length := by
    have fits := call.fits
    rw [List.take_append_of_le_length (by omega), List.take_of_length_le (by omega),
      BigEndian.decode_encode_of_lt]
    simp only [maxDataLen] at fits
    omega
  have behind : (BigEndian.encode 2 call.output.length ++ (call.output ++ rest)).drop 2 =
      call.output ++ rest := List.drop_left' length
  rw [recvFrames, if_pos (by rw [List.length_append]; omega)]
  simp only [Returns.bind_iff]
  refine ⟨_, _, uncovered, ?_⟩
  rw [whole, single, behind, if_neg (by rw [List.length_append]; omega),
    if_neg (Nat.not_lt.mpr call.fits), List.take_left, List.drop_left]
  simp only [Returns.bind_iff, Returns.pure_iff]
  exact ⟨_, _, one, _, _, two, rfl, rfl⟩

/-- The loop over a payload of frames hands on exactly the accepted ones, in their order. -/
theorem recvFrames_calls (peers : GroPeers sender receiver) (calls : List (SafeCall sender σ τ))
    {tail : Bytes} (short : tail.length < 16) {conn : ConnInfo receiver σ' τ'} {blob : Blob τ'}
    (allocated : conn.blob = some blob) (scheduled : Scheduled receiver before) :
    ∃ next after, Returns (recvFrames conn ((calls.map SafeCall.frame).flatten ++ tail)) before
      (next, (acceptedCalls receiver.disableAntiReplay conn.myId conn.oppsiteId blob.antiReplay
        calls).map SafeCall.received) after := by
  induction calls generalizing conn blob before with
  | nil =>
    refine ⟨conn, before, ?_⟩
    rw [recvFrames, if_neg (by simpa using short)]
    exact Returns.pure_iff.mpr ⟨rfl, rfl⟩
  | cons call rest ih =>
    rw [List.map_cons, List.flatten_cons, List.append_assoc]
    have total : Total (groOpen receiver
      (blockOf 16 (call.frame ++ ((rest.map SafeCall.frame).flatten ++ tail)))) := groOpen_total _
    obtain ⟨block, opened, uncovered, -⟩ := total before
    obtain ⟨openedScheduled, goOn⟩ := recvFrames_frame peers call _ conn scheduled uncovered
    obtain ⟨parsed, middle, one, middleScheduled, decided⟩ :=
      reservedParseSafer_call peers call allocated openedScheduled
    obtain ⟨next, after, two⟩ := ih decided.blob middleScheduled
    refine ⟨next, after, ?_⟩
    have both := goOn _ _ _ _ _ _ one two
    rw [decided.myId, decided.oppsiteId] at both
    rw [acceptedCalls, List.map_append]
    cases taken : (call.verdict receiver.disableAntiReplay conn.myId conn.oppsiteId
        blob.antiReplay).1 <;>
      rw [taken] at both <;> exact both

/-- The framing round trip. A receiver whose packet carries, in one payload, any frames that a
peer's calls of `send_safer` passed on, in any order and with repetitions, and fewer than
sixteen bytes behind them, gets from `recv_safer_multi` the types and the data of exactly those
frames, in the order of the payload, that belong to its session and whose numbers its window
accepts at that point. -/
theorem recvSaferMulti_frames (peers : GroPeers sender receiver)
    (calls : List (SafeCall sender σ τ)) (tail : Bytes) (short : tail.length < 16)
    (conn : ConnInfo receiver σ' τ') (blob : Blob τ') (allocated : conn.blob = some blob)
    (history : List CryptCall)
    (schedules : afterCalls receiver.prim receiver.crypto receiver.keys history = .ok before.aes)
    (rawInfo : RawInfo receiver.raw) (middle : Machine v)
    (received : Returns (recvRawPayload receiver conn.rawInfo) before
      (rawInfo, some ((calls.map SafeCall.frame).flatten ++ tail)) middle) :
    let accepted := acceptedCalls receiver.disableAntiReplay conn.myId conn.oppsiteId
      blob.antiReplay calls
    ∃ next frames after, Returns (recvSaferMulti conn) before (next, frames) after ∧
      frames.map Frame.type = accepted.map SafeCall.type ∧
      frames.map Frame.data = accepted.map SafeCall.data := by
  intro accepted
  have scheduled : Scheduled receiver middle := by
    have holds : Scheduled receiver before := afterCalls_holds history schedules
    simp only [recvRawPayload, Returns.bind_iff, Returns.get_iff, check_iff, decide_eq_true_eq,
      Returns.modify_iff] at received
    obtain ⟨_, _, ⟨rfl, rfl⟩, _, _, ⟨-, rfl⟩, _, _, rfl, parsed⟩ := received
    split at parsed
    · exact (Returns.pure_iff.mp parsed).2 ▸ holds
    · exact absurd parsed Returns.throw_iff
    · exact (Returns.pure_iff.mp parsed).2 ▸ holds
  have blob' : ({ conn with rawInfo } : ConnInfo receiver σ' τ').blob = some blob := allocated
  obtain ⟨next, after, looped⟩ := recvFrames_calls peers calls short blob' scheduled
  refine ⟨next, accepted.map SafeCall.received, after, ?_, ?_, ?_⟩
  · simp only [recvSaferMulti, Returns.bind_iff]
    refine ⟨_, _, received, ?_⟩
    dsimp only
    rw [if_neg (by rw [peers.receives]; decide)]
    exact looped
  · rw [List.map_map]
    rfl
  · rw [List.map_map]
    rfl

end Calls

/-- Options of the server without encryption, with `fix_gro`. -/
def plainOptions : Options .ipv4 where
  raw := plainServer
  prim := xorPrimitives
  crypto := ⟨.none, .none, false⟩
  keys := myInitKeys xorPrimitives [1] false
  fixGro := true
  hbMode := .heartbeat
  hbBuf := []
  disableAntiReplay := false
  constId := 9
  useTcpDummySocket := false

/-- Options of its client. -/
def plainClientOptions : Options .ipv4 :=
  { plainOptions with raw := plainClient, keys := myInitKeys xorPrimitives [1] true, constId := 7 }

/-- The answers of a system where everything succeeds. -/
def Answer.plain : Answer .ipv4 where
  rawTime := 0
  word := 5
  word64 := 5
  nonzero := ⟨5, by decide⟩
  draws := []
  send := .plain
  junk := fun _ => 0
  info := .zero
  window := Vector.replicate antiReplayWindowSize 0
  number := 0
  ok := true
  descriptor := fun opened => some ⟨opened.sum + 1, fun inside => by
    have large := List.le_sum_of_mem inside
    omega⟩
  position := 0
  sockname := Vector.replicate 4 0

/-- A window without any history. -/
def Blob.fresh (τ : Type) [DecidableEq τ] : Blob τ :=
  ⟨⟨∅, ∅, .empty, 0⟩, .new (Vector.replicate antiReplayWindowSize 0) 30⟩

/-- A client in session with identifiers three and four. -/
def ConnInfo.client : ConnInfo plainClientOptions ClientState LocalAddress where
  state := .ready
  rawInfo := .fresh
  lastStateTime := 0
  lastHbSentTime := 0
  lastHbRecvTime := 0
  myId := 3
  oppsiteId := 4
  timerFd64 := 0
  oppsiteConstId := 0
  blob := some (.fresh LocalAddress)
  myRoller := 0
  oppsiteRoller := 0
  lastOppsiteRollerTime := 0

/-- The server's end of the session. -/
def ConnInfo.server : ConnInfo plainOptions ServerState Nat where
  state := .ready
  rawInfo := .zero
  lastStateTime := 0
  lastHbSentTime := 0
  lastHbRecvTime := 0
  myId := 4
  oppsiteId := 3
  timerFd64 := 0
  oppsiteConstId := 7
  blob := some (.fresh Nat)
  myRoller := 0
  oppsiteRoller := 0
  lastOppsiteRollerTime := 0

/-- The client's heartbeat. -/
def heartbeatCall : SafeCall plainClientOptions ClientState LocalAddress where
  conn := .client
  blob := .fresh LocalAddress
  allocated := rfl
  type := typeHeartbeat
  data := []
  before := .start (.client 7) (fun _ => .plain) 0
  after := _
  result := _
  ran := rfl
  history := []
  schedules := rfl
  message := _
  output := _
  frame := _
  recorded := rfl
  fits := by decide

/-- A packet with the frame of the heartbeat, twice, and one more byte. -/
def heartbeatPacket : Bytes :=
  [0x45, 0, 0, 81, 0, 0, 0x40, 0, 64, 6, 0x26, 0xa5, 10, 0, 0, 1, 10, 0, 0, 2,
    0, 1, 16, 0, 0, 0, 0, 0, 0, 0, 0, 0, 0x50, 16, 0, 0, 0, 0, 0, 0] ++
    heartbeatCall.frame ++ heartbeatCall.frame ++ [1]

/-- The server's process with that packet in its buffer. -/
def Machine.withHeartbeats : Machine .ipv4 :=
  { Machine.start .server (fun _ => .plain) 4096 with
    packetBuf := ⟨heartbeatPacket, fun _ => 0⟩, packetBufCnt := 1 }

/-- The server decides about the two copies of the heartbeat one after the other. -/
theorem recvSaferMulti_frames_heartbeat :
    let accepted := acceptedCalls false 4 3 (Blob.fresh Nat).antiReplay
      [heartbeatCall, heartbeatCall]
    ∃ next frames after, Returns (recvSaferMulti ConnInfo.server) Machine.withHeartbeats
        (next, frames) after ∧
      frames.map Frame.type = accepted.map SafeCall.type ∧
      frames.map Frame.data = accepted.map SafeCall.data :=
  recvSaferMulti_frames
    (show GroPeers plainClientOptions plainOptions from
      ⟨rfl, rfl, ⟨[1], true, rfl, rfl⟩, rfl, rfl⟩)
    [heartbeatCall, heartbeatCall] [1] (by decide) ConnInfo.server (Blob.fresh Nat) rfl [] rfl
    _ _ rfl

end Udp2raw
