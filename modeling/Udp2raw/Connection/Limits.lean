import Udp2raw.Connection.GroFraming

/-!
# The size of a message on its way

`send_safer` compares the plaintext of a message with `max_data_len`. The receiver compares the
ciphertext with it, and without `fix_gro` the whole IP packet. The lengths in between are
computed here for every mode, and with them the messages that both sides agree about.
-/
namespace Udp2raw

open Proc

variable {v : IpVersion} {options : Options v} {σ τ : Type} [DecidableEq τ] {m m' : Machine v}

/-! ### Lengths -/

/-- The length of a message after a cipher: CBC pads it to whole blocks. -/
def cipherLen : CipherMode → Nat → Nat
  | .aes128cbc, length => (length / 16 + 1) * 16
  | .none, length | .xor, length | .aes128cfb, length => length

/-- The length of a message after `my_encrypt`. -/
def ciphertextLen (mode : CryptoMode) (length : Nat) : Nat :=
  if mode.isHmacUsed then cipherLen mode.cipher length + tagLen mode.auth
  else cipherLen mode.cipher (length + tagLen mode.auth)

/-- The length of what `send_raw0` gets for a ciphertext. -/
def payloadLen (fixGro : Bool) (length : Nat) : Nat := if fixGro then 2 + length else length

/-- The length of the packet that `send_raw0` builds. -/
def rawPacketLen {config : RawConfig v} (raw : RawInfo config) (length : Nat) : Nat :=
  v.headerSize + config.rawMode.sentHeaderSize raw.sendInfo.syn + length

/-- The length after a cipher. -/
theorem cipherEncrypt_length {prim : Primitives} {mode : CryptoMode} {keys : Keys}
    {junk : Nat → UInt8} {aes next : AesState} {key : AesBlock} {data output : Bytes}
    (ran : cipherEncrypt prim mode keys junk aes key data = .ok (some output, next)) :
    output.length = cipherLen mode.cipher data.length := by
  unfold cipherEncrypt at ran
  cases chosen : mode.cipher <;> simp only [chosen] at ran
  case none =>
    simp only [Except.ok.injEq, Prod.mk.injEq, Option.some.injEq] at ran
    rw [← ran.1]
    rfl
  case xor =>
    simp only [Except.ok.injEq, Prod.mk.injEq, Option.some.injEq] at ran
    rw [← ran.1, cipherXor_length]
    rfl
  case aes128cbc =>
    simp only [Except.ok.injEq, Prod.mk.injEq, Option.some.injEq] at ran
    rw [← ran.1, BlockModes.cbcEncrypt_length, padding_length, Nat.mul_div_cancel _ (by decide)]
    rfl
  case aes128cfb =>
    simp only [bind, Except.bind] at ran
    split at ran
    · contradiction
    rename_i long
    have long : 16 ≤ data.length := by
      unfold assert at long
      split at long
      · rename_i holds
        exact of_decide_eq_true holds
      · contradiction
    split_ifs at ran
    all_goals
      simp only [Except.ok.injEq, Prod.mk.injEq, Option.some.injEq] at ran
      rw [← ran.1, BlockModes.cfbEncrypt_length]
    · rfl
    · simp only [aesEcbEncrypt, List.length_append, Vector.length_toList, List.length_drop]
      show 16 + (data.length - 16) = data.length
      omega

/-- The length after `my_encrypt`, which refuses a long plaintext. -/
theorem myEncrypt_length {prim : Primitives} {mode : CryptoMode} {keys : Keys} {junk : Nat → UInt8}
    {aes next : AesState} {data output : Bytes}
    (ran : myEncrypt prim mode keys junk aes data = .ok (some output, next)) :
    data.length ≤ maxDataLen ∧ output.length = ciphertextLen mode data.length := by
  unfold myEncrypt at ran
  split at ran
  · exact absurd (Prod.mk.inj (Except.ok.inj ran)).1 nofun
  rename_i short
  refine ⟨Nat.not_lt.mp short, ?_⟩
  unfold ciphertextLen
  split_ifs at ran ⊢ with hmac
  · simp only [encryptAE, bind, Except.bind] at ran
    split at ran
    · contradiction
    · rename_i result encrypted
      obtain ⟨inner, aes'⟩ := result
      simp only [Except.ok.injEq, Prod.mk.injEq, Option.map_eq_some_iff] at ran
      obtain ⟨⟨plain, rfl, rfl⟩, rfl⟩ := ran
      rw [authCal, List.length_append, authTag_length, cipherEncrypt_length encrypted]
  · rw [cipherEncrypt_length ran, authCal, List.length_append, authTag_length]

/-- `my_encrypt` takes every message that is not too long. -/
theorem myEncrypt_accepts {prim : Primitives} {mode : CryptoMode} {keys : Keys}
    {junk : Nat → UInt8} {aes next : AesState} {data : Bytes} {output : Option Bytes}
    (fits : data.length ≤ maxDataLen)
    (ran : myEncrypt prim mode keys junk aes data = .ok (output, next)) : output.isSome := by
  have cipher {key : AesBlock} {plain : Bytes} (output : Option Bytes) (next : AesState)
      (ran : cipherEncrypt prim mode keys junk aes key plain = .ok (output, next)) :
      output.isSome := by
    unfold cipherEncrypt at ran
    cases chosen : mode.cipher <;> simp only [chosen] at ran
    case aes128cfb =>
      simp only [bind, Except.bind] at ran
      split at ran
      · contradiction
      · obtain ⟨rfl, -⟩ := Prod.mk.inj (Except.ok.inj ran)
        rfl
    all_goals
      obtain ⟨rfl, -⟩ := Prod.mk.inj (Except.ok.inj ran)
      rfl
  unfold myEncrypt at ran
  rw [if_neg (Nat.not_lt.mpr fits)] at ran
  split at ran
  · simp only [encryptAE, bind, Except.bind] at ran
    split at ran
    · contradiction
    · rename_i result encrypted
      obtain ⟨rfl, -⟩ := Prod.mk.inj (Except.ok.inj ran)
      rw [Option.isSome_map]
      exact cipher result.1 result.2 encrypted
  · exact cipher output next ran

/-- The length of an IP packet. -/
theorem ipPacket_length (config : RawConfig v) (info : PacketInfo v) (ipId : UInt16)
    (payload : Bytes) :
    (ipPacket config info ipId payload).length = v.headerSize + payload.length := by
  cases v with
  | ipv4 =>
    unfold ipPacket
    dsimp only
    split <;> rw [List.length_append, ipv4Header_length] <;> rfl
  | ipv6 =>
    show (ipv6Header config info payload.length ++ payload).length = _
    rw [List.length_append, ipv6Header_length]
    rfl

/-- Every packet that `send_raw0` passes on has its length. -/
theorem sendRaw0_length {config : RawConfig v} {env : SendEnv} {raw : RawInfo config}
    {payload packet : Bytes} {sent : Sent config} (ran : sendRaw0 config env raw payload = .ok sent)
    (built : sent.packet = some packet) : packet.length = rawPacketLen raw payload.length := by
  rw [sendRaw0_packet ran built, ipPacket_length, sentSegment_length, rawPacketLen, Nat.add_assoc]

/-- The length of what `send_raw0` gets for a ciphertext of at least one block. -/
theorem saferFrame_length {output frame : Bytes} (long : 16 ≤ output.length)
    (returned : Returns (saferFrame options output) m frame m') :
    frame.length = payloadLen options.fixGro output.length := by
  unfold saferFrame at returned
  unfold payloadLen
  cases gro : options.fixGro with
  | false =>
    rw [gro, if_neg (by simp)] at returned
    obtain ⟨rfl, -⟩ := Returns.pure_iff.mp returned
    rfl
  | true =>
    rw [gro, if_pos rfl] at returned
    have size : (BigEndian.encode 2 output.length ++ output).length = 2 + output.length := by
      rw [List.length_append, BigEndian.encode_length]
    rw [if_pos rfl, ← size]
    unfold groSeal at returned
    cases cipher : options.crypto.cipher <;>
      simp only [cipher, Returns.bind_iff, Returns.get_iff, Returns.set_iff, Returns.pure_iff]
        at returned
    case none =>
      obtain ⟨rfl, -⟩ := returned
      rfl
    case xor =>
      obtain ⟨rfl, -⟩ := returned
      rw [List.length_map, List.length_zipIdx]
    case aes128cbc | aes128cfb =>
      obtain ⟨_, _, ⟨rfl, rfl⟩, _, _, rfl, rfl, -⟩ := returned
      simp only [aesEcbEncrypt, List.length_append, Vector.length_toList, List.length_drop]
      rw [List.length_append] at size
      omega

/-- A ciphertext has at least the length of its plaintext. -/
theorem le_ciphertextLen (mode : CryptoMode) (length : Nat) :
    length ≤ ciphertextLen mode length := by
  have cipher (plain : Nat) : plain ≤ cipherLen mode.cipher plain := by
    cases mode.cipher <;> simp only [cipherLen] <;> omega
  unfold ciphertextLen
  split
  · exact (cipher length).trans (Nat.le_add_right _ _)
  · exact (Nat.le_add_right _ _).trans (cipher _)

/-! ### Messages -/

/-- What an encryption of the process says about lengths. -/
theorem encryptMessage_length {message : Bytes} {output : Option Bytes}
    (returned : Returns (encryptMessage options message) m output m') :
    (message.length ≤ maxDataLen → output.isSome) ∧ ∀ bytes ∈ output,
      message.length ≤ maxDataLen ∧ bytes.length = ciphertextLen options.crypto message.length := by
  simp only [encryptMessage, Returns.bind_iff, Returns.get_iff] at returned
  obtain ⟨answer, _, -, _, _, ⟨rfl, rfl⟩, ⟨result, aes⟩, _, lifted, _, _, -, returned⟩ := returned
  obtain ⟨ran, rfl⟩ := Returns.lift_iff.mp lifted
  cases result with
  | none =>
    simp only [Returns.bind_iff, Returns.pure_iff] at returned
    obtain ⟨_, _, -, rfl, -⟩ := returned
    exact ⟨fun fits => myEncrypt_accepts fits ran, by simp⟩
  | some bytes =>
    simp only [Returns.bind_iff, Returns.pure_iff] at returned
    obtain ⟨_, _, -, rfl, -⟩ := returned
    refine ⟨fun _ => rfl, fun other same => ?_⟩
    obtain rfl := Option.mem_some_iff.mp same
    exact myEncrypt_length ran

/-- A datagram that is short enough is encrypted and handed to `send_raw0`. -/
theorem sendDataSafer_accepts {conn next : ConnInfo options σ τ} {data : Bytes} {conv : UInt32}
    (fits : 22 + data.length ≤ maxDataLen)
    (returned : Returns (sendDataSafer conn data conv) m next m') :
    ∃ message output payload, m'.log = m.log ++ entries m.self
      [.sendDataSafer conn.myId conn.oppsiteId conv data, .encrypted message output,
        .rawPayload payload] := by
  simp only [sendDataSafer, Returns.bind_iff, Returns.pure_iff] at returned
  obtain ⟨_, m1, recorded, ⟨_, _⟩, m5, sent, rfl, rfl⟩ := returned
  have first := record_ran recorded
  obtain ⟨-, wrong, -⟩ | ⟨-, blob, safe⟩ := sendSafer_ran sent
  · exact absurd rfl wrong
  obtain refused | ⟨output, frame, _, _, -, -, ran⟩ := safe.ran
  · exfalso
    simp only [sendSafer, if_neg (show ¬(typeData ≠ typeHeartbeat ∧ typeData ≠ typeData) by simp),
      Returns.bind_iff, Returns.lift_iff] at sent
    obtain ⟨_, _, ⟨_, rfl⟩, output, m2, encrypted, sent⟩ := sent
    have accepted := (encryptMessage_length encrypted).1 (by
      rw [saferMessage_length, List.length_append, BigEndian.encode_length]
      omega)
    obtain ⟨bytes, rfl⟩ := Option.isSome_iff_exists.mp accepted
    obtain ⟨none, -⟩ | ⟨_, -, logged⟩ := encryptMessage_ran encrypted
    · contradiction
    simp only [Returns.bind_iff] at sent
    obtain ⟨frame, m3, framed, ⟨raw, ret⟩, m4, passed, rest⟩ := sent
    have whole := logged.trans ((saferFrame_ran framed).trans (sendRawPayload_ran passed).1)
    have last : ∃ events, Ran events m4 m5 := by
      split at rest
      · obtain ⟨-, rfl⟩ := Returns.pure_iff.mp rest
        exact ⟨[], .refl _⟩
      · simp only [Returns.bind_iff, Returns.pure_iff] at rest
        obtain ⟨_, _, asked, -, rfl⟩ := rest
        exact ⟨[], (ask_ran asked).1⟩
    obtain ⟨events, last⟩ := last
    have log := (whole.trans last).log
    rw [refused.log] at log
    have length := congrArg List.length (List.append_cancel_left log)
    simp [entries] at length
  · exact ⟨_, output, frame, (first.trans ran).log⟩

/-- The lengths of a datagram that was encrypted and handed to `send_raw0`. -/
theorem sendDataSafer_lengths {conn next : ConnInfo options σ τ}
    {data message output payload : Bytes} {conv : UInt32}
    (returned : Returns (sendDataSafer conn data conv) m next m')
    (logged : m'.log = m.log ++ entries m.self [.sendDataSafer conn.myId conn.oppsiteId conv data,
      .encrypted message output, .rawPayload payload]) :
    22 + data.length ≤ maxDataLen ∧
      output.length = ciphertextLen options.crypto (22 + data.length) ∧
      payload.length = payloadLen options.fixGro output.length := by
  simp only [sendDataSafer, Returns.bind_iff, Returns.pure_iff] at returned
  obtain ⟨_, m1, recorded, ⟨_, _⟩, m5, sent, rfl, rfl⟩ := returned
  have first := record_ran recorded
  obtain ⟨-, wrong, -⟩ | ⟨-, blob, safe⟩ := sendSafer_ran sent
  · exact absurd rfl wrong
  obtain refused | ⟨bytes, frame, m2, m3, encrypted, framed, ran⟩ := safe.ran
  · have log := (first.trans refused).log
    rw [logged] at log
    have length := congrArg List.length (List.append_cancel_left log)
    simp [entries] at length
  · have log := (first.trans ran).log
    rw [logged] at log
    have events := List.append_cancel_left log
    simp only [entries, List.map_cons, List.map_nil, List.cons_append, List.nil_append,
      List.cons.injEq, Prod.mk.injEq, Event.encrypted.injEq, Event.rawPayload.injEq, true_and,
      and_true] at events
    obtain ⟨⟨-, rfl⟩, rfl⟩ := events
    obtain ⟨fits, length⟩ := (encryptMessage_length encrypted).2 output rfl
    rw [saferMessage_length, List.length_append, BigEndian.encode_length,
      ← Nat.add_assoc] at fits length
    have long : 16 ≤ output.length := by
      rw [length]
      exact le_trans (by omega) (le_ciphertextLen options.crypto (18 + 4 + data.length))
    exact ⟨fits, length, saferFrame_length long framed⟩

/-- If a datagram is handed to `send_raw0`, the IP packet around it and the ciphertext in it are
within the limits of the receiver: `pre_recv_raw_packet` compares the packet without `fix_gro`, and
`recv_safer_multi` and `my_decrypt` compare the ciphertext. -/
def ConnInfo.SizesAgree (conn : ConnInfo options σ τ) (data : Bytes) (conv : UInt32)
    (machine : Machine v) : Prop :=
  ∀ next after message output payload, Returns (sendDataSafer conn data conv) machine next after →
    after.log = machine.log ++ entries machine.self
      [.sendDataSafer conn.myId conn.oppsiteId conv data, .encrypted message output,
        .rawPayload payload] →
    (options.fixGro = false → rawPacketLen conn.rawInfo payload.length ≤ maxDataLen) ∧
      output.length ≤ maxDataLen

/-- Both sides agree about a datagram exactly when the sender refuses it or its ciphertext fits,
without `fix_gro` together with the headers. -/
theorem sendDataSafer_sizes_iff (conn : ConnInfo options σ τ) (data : Bytes) (conv : UInt32)
    (machine : Machine v) (blob : Blob τ) (allocated : conn.blob = some blob) :
    (∀ env payload sent packet, sendRaw0 options.raw env conn.rawInfo payload = .ok sent →
      sent.packet = some packet → packet.length = rawPacketLen conn.rawInfo payload.length) ∧
    (conn.SizesAgree data conv machine ↔
      maxDataLen < 22 + data.length ∨
        ciphertextLen options.crypto (22 + data.length) ≤ maxDataLen ∧
        (options.fixGro = false → rawPacketLen conn.rawInfo
          (ciphertextLen options.crypto (22 + data.length)) ≤ maxDataLen)) := by
  refine ⟨fun env payload sent packet ran built => sendRaw0_length ran built, ?_, ?_⟩
  · intro agree
    by_contra refuted
    obtain ⟨short, large⟩ := not_or.mp refuted
    obtain ⟨next, after, returned, -⟩ := sendDataSafer_total allocated data conv machine
    obtain ⟨message, output, payload, logged⟩ :=
      sendDataSafer_accepts (Nat.not_lt.mp short) returned
    obtain ⟨-, ciphertext, length⟩ := sendDataSafer_lengths returned logged
    obtain ⟨packet, fits⟩ := agree next after message output payload returned logged
    rw [ciphertext] at fits length
    refine large ⟨fits, fun ungro => ?_⟩
    have whole := packet ungro
    rwa [length, ungro, payloadLen, if_neg (by simp)] at whole
  · rintro (long | ⟨fits, packet⟩) next after message output payload returned logged
    · have short := (sendDataSafer_lengths returned logged).1
      omega
    · obtain ⟨-, ciphertext, length⟩ := sendDataSafer_lengths returned logged
      refine ⟨fun ungro => ?_, ciphertext ▸ fits⟩
      rw [length, ungro, payloadLen, if_neg (by simp), ciphertext]
      exact packet ungro

/-- The server without `fix_gro`. -/
def ungroOptions : Options .ipv4 := { plainOptions with fixGro := false }

/-- A connection of that server. -/
def ConnInfo.ungro : ConnInfo ungroOptions ServerState Nat where
  state := .ready
  rawInfo := .zero
  lastStateTime := 0
  lastHbSentTime := 0
  lastHbRecvTime := 0
  myId := 4
  oppsiteId := 3
  timerFd64 := 0
  oppsiteConstId := 7
  blob := some (.fresh Nat)
  myRoller := 0
  oppsiteRoller := 0
  lastOppsiteRollerTime := 0

/-- A datagram of 1730 bytes for that connection. -/
theorem sendDataSafer_sizes_1730 :
    (∀ env payload sent packet, sendRaw0 ungroOptions.raw env ConnInfo.ungro.rawInfo payload =
        .ok sent →
      sent.packet = some packet →
        packet.length = rawPacketLen ConnInfo.ungro.rawInfo payload.length) ∧
    (ConnInfo.ungro.SizesAgree (List.replicate 1730 0) 1 (.start .server (fun _ => .plain) 4096) ↔
      maxDataLen < 22 + (List.replicate 1730 (0 : UInt8)).length ∨
        ciphertextLen ungroOptions.crypto (22 + (List.replicate 1730 (0 : UInt8)).length) ≤
          maxDataLen ∧
        (ungroOptions.fixGro = false → rawPacketLen ConnInfo.ungro.rawInfo
          (ciphertextLen ungroOptions.crypto (22 + (List.replicate 1730 (0 : UInt8)).length)) ≤
            maxDataLen)) :=
  sendDataSafer_sizes_iff ConnInfo.ungro (List.replicate 1730 0) 1
    (.start .server (fun _ => .plain) 4096) (.fresh Nat) rfl

/-- The packet of that datagram has 1804 bytes, and the receiver drops it. -/
theorem sendDataSafer_1730_dropped :
    ¬ConnInfo.ungro.SizesAgree (List.replicate 1730 0) 1
      (.start .server (fun _ => .plain) 4096) := by
  intro agree
  obtain ⟨next, after, returned, -⟩ := sendDataSafer_total
    (show ConnInfo.ungro.blob = some (.fresh Nat) from rfl) (List.replicate 1730 0) 1
    (.start .server (fun _ => .plain) 4096)
  have short : 22 + (List.replicate 1730 (0 : UInt8)).length ≤ maxDataLen := by
    rw [List.length_replicate]
    decide
  obtain ⟨message, output, payload, logged⟩ := sendDataSafer_accepts short returned
  obtain ⟨-, ciphertext, length⟩ := sendDataSafer_lengths returned logged
  have packet := (agree next after message output payload returned logged).1 rfl
  rw [length, ciphertext, List.length_replicate] at packet
  exact absurd packet (by decide)

end Udp2raw
