import Udp2raw.Network.Send
import Udp2raw.Network.WellFormed
import Mathlib.Logic.Function.Iterate
import Mathlib.Tactic.SplitIfs

/-!
# Sequence and acknowledgement numbers

What the bookkeeping around a packet does to the numbers of a connection. Comparisons go round a
circle: a number is larger than another one when it is less than half the circle ahead of it.
-/
namespace Udp2raw

variable {v : IpVersion} {config : RawConfig v}

/-! ### Numbers on a circle -/

/-- A number is larger exactly when it is ahead by less than half the circle. -/
theorem largerThanU32_iff (left right : UInt32) :
    largerThanU32 left right = true ↔
      0 < (left - right).toNat ∧ (left - right).toNat < 2 ^ 31 := by
  have bound := (left - right).toNat_lt
  have signed : (left - right).toInt32.toInt = ((left - right).toNat : Int).bmod (2 ^ 32) := by
    rw [Int32.toInt, UInt32.toBitVec_toInt32, BitVec.toInt_eq_toNat_bmod, UInt32.toNat_toBitVec]
  rw [largerThanU32, decide_eq_true_eq, Int32.lt_iff_toInt_lt, signed, Int.bmod]
  simp only [Int32.toInt_zero]
  split <;> omega

/-- The same for sixteen bits. -/
theorem largerThanU16_iff (left right : UInt16) :
    largerThanU16 left right = true ↔
      0 < (left - right).toNat ∧ (left - right).toNat < 2 ^ 15 := by
  have bound := (left - right).toNat_lt
  have signed : (left - right).toInt16.toInt = ((left - right).toNat : Int).bmod (2 ^ 16) := by
    rw [Int16.toInt, UInt16.toBitVec_toInt16, BitVec.toInt_eq_toNat_bmod, UInt16.toNat_toBitVec]
  rw [largerThanU16, decide_eq_true_eq, Int16.lt_iff_toInt_lt, signed, Int.bmod]
  simp only [Int16.toInt_zero]
  split <;> omega

/-- No number is larger than itself. -/
theorem largerThanU16_self (number : UInt16) : largerThanU16 number number = false := by
  rw [Bool.eq_false_iff, ne_eq, largerThanU16_iff, UInt16.sub_self]
  exact fun positive => absurd positive.1 (by decide)

/-! ### The simulated window -/

/-- `window_size`, for the two modes that have a window. -/
def windowSize (seqMode : Nat) : UInt32 :=
  if seqMode = 3 then receiveWindowLowerBound <<< wscale.toUInt32 else receiveWindowLowerBound

/-- A window mode goes back to the acknowledgement, unless neither comparison asks for it. -/
theorem windowedSeq_cases (window : UInt32) (recvInfo : PacketInfo v) (seq : UInt32) :
    (windowedSeq window recvInfo seq).1 = recvInfo.ackSeq ∨
      (windowedSeq window recvInfo seq).1 = seq ∧
        ¬largerThanU32 (seq + UInt32.ofNat maxDataLen) (recvInfo.ackSeq + window) ∧
        ¬largerThanU32 recvInfo.ackSeq seq := by
  unfold windowedSeq
  dsimp only
  split_ifs <;> simp_all

/-- The sequence number of a window mode is in the window, whatever was acknowledged. -/
theorem windowedSeq_inside {window : UInt32} (recvInfo : PacketInfo v) (seq : UInt32)
    (wide : maxDataLen < window.toNat) (narrow : window.toNat < 2 ^ 31) :
    ((windowedSeq window recvInfo seq).1 - recvInfo.ackSeq).toNat ≤
      window.toNat - maxDataLen := by
  obtain back | ⟨kept, beyond, behind⟩ := windowedSeq_cases window recvInfo seq
  · rw [back, UInt32.sub_self]
    exact Nat.zero_le _
  · -- exactly half the circle ahead passes the second comparison, but not the first one
    rw [kept]
    rw [largerThanU32_iff] at beyond behind
    simp only [UInt32.toNat_sub, UInt32.toNat_add, UInt32.toNat_ofNat', maxDataLen] at *
    have one := seq.toNat_lt
    have two := recvInfo.ackSeq.toNat_lt
    omega

/-- The bookkeeping of a window mode after a data segment. -/
theorem afterSendRaw0_windowed (env : SendEnv) (raw : RawInfo config)
    (mode : config.rawMode = .faketcp) (windowed : config.seqMode = 3 ∨ config.seqMode = 4)
    (syn : raw.sendInfo.syn = false) (ack : raw.sendInfo.ack = true)
    (data : raw.sendInfo.dataLen ≠ 0) :
    (afterSendRaw0 env raw).sendInfo.seq = (windowedSeq (windowSize config.seqMode) raw.recvInfo
        (raw.sendInfo.seq + UInt32.ofNat raw.sendInfo.dataLen)).1 ∧
      (afterSendRaw0 env raw).recvInfo.ackSeq = raw.recvInfo.ackSeq := by
  unfold afterSendRaw0
  simp only [mode, syn, ack, data, ne_eq, not_false_eq_true, and_self, if_true]
  obtain three | four := windowed
  · simp only [three, windowSize, if_true, and_self]
  · simp only [four, windowSize, and_self]

/-- After a data segment the next sequence number is in the window that the peer advertised: it is
not behind the acknowledgement, and a segment of any length fits. -/
theorem afterSendRaw0_window (env : SendEnv) (raw : RawInfo config)
    (mode : config.rawMode = .faketcp) (windowed : config.seqMode = 3 ∨ config.seqMode = 4)
    (syn : raw.sendInfo.syn = false) (ack : raw.sendInfo.ack = true)
    (data : raw.sendInfo.dataLen ≠ 0) :
    ((afterSendRaw0 env raw).sendInfo.seq - (afterSendRaw0 env raw).recvInfo.ackSeq).toNat ≤
      (windowSize config.seqMode).toNat - maxDataLen := by
  obtain ⟨next, same⟩ := afterSendRaw0_windowed env raw mode windowed syn ack data
  rw [next, same]
  have wide : maxDataLen < (windowSize config.seqMode).toNat := by
    obtain three | four := windowed
    · rw [three]; decide
    · rw [four]; decide
  have narrow : (windowSize config.seqMode).toNat < 2 ^ 31 := by
    obtain three | four := windowed
    · rw [three]; decide
    · rw [four]; decide
  exact windowedSeq_inside _ _ wide narrow

/-- A connection whose next segment begins half a circle ahead of the acknowledgement. -/
def RawInfo.astray : RawInfo plainServer :=
  { RawInfo.zero with
    sendInfo := { PacketInfo.zero with ack := true, dataLen := 5, seq := 0x7ffffffb } }

/-- The segment after it begins at the acknowledgement again. -/
theorem afterSendRaw0_window_astray :
    ((afterSendRaw0 ⟨0, 0, 0, 0, 0, true⟩ RawInfo.astray).sendInfo.seq -
        (afterSendRaw0 ⟨0, 0, 0, 0, 0, true⟩ RawInfo.astray).recvInfo.ackSeq).toNat ≤
      (windowSize 3).toNat - maxDataLen :=
  afterSendRaw0_window ⟨0, 0, 0, 0, 0, true⟩ RawInfo.astray rfl (.inl rfl) rfl rfl (by decide)

/-! ### Acknowledgements -/

/-- The acknowledgement number stays, or it is the end of the segment. -/
theorem nextAckSeq_cases (seqMode : Nat) (recvInfo : PacketInfo v) (ackSeq : UInt32) :
    nextAckSeq seqMode recvInfo ackSeq = ackSeq ∨
      nextAckSeq seqMode recvInfo ackSeq = recvInfo.seq + UInt32.ofNat recvInfo.dataLen ∧
        (largerThanU32 (recvInfo.seq + UInt32.ofNat recvInfo.dataLen) ackSeq ∨
          recvInfo.seq = ackSeq) := by
  unfold nextAckSeq
  dsimp only
  repeat' split
  all_goals simp_all

/-- The acknowledgement number settles at once. -/
theorem nextAckSeq_settles (seqMode : Nat) (recvInfo : PacketInfo v) (ackSeq : UInt32) :
    nextAckSeq seqMode recvInfo (nextAckSeq seqMode recvInfo ackSeq) =
      nextAckSeq seqMode recvInfo ackSeq := by
  obtain same | ⟨moved, -⟩ := nextAckSeq_cases seqMode recvInfo ackSeq
  · rw [same, same]
  · rw [moved]
    exact (nextAckSeq_cases seqMode recvInfo _).elim id And.left

/-- The acknowledgement number moves forward only, by less than half the circle. -/
theorem nextAckSeq_forward (seqMode : Nat) (recvInfo : PacketInfo v) (ackSeq : UInt32)
    (small : recvInfo.dataLen ≤ 65535) :
    nextAckSeq seqMode recvInfo ackSeq = ackSeq ∨
      largerThanU32 (nextAckSeq seqMode recvInfo ackSeq) ackSeq := by
  obtain same | ⟨moved, larger | next⟩ := nextAckSeq_cases seqMode recvInfo ackSeq
  · exact .inl same
  · rw [moved]
    exact .inr larger
  · rw [moved, next, largerThanU32_iff]
    have length : (UInt32.ofNat recvInfo.dataLen).toNat = recvInfo.dataLen :=
      UInt32.toNat_ofNat_of_lt' (Nat.lt_of_le_of_lt small (by decide))
    have ahead : ackSeq + UInt32.ofNat recvInfo.dataLen - ackSeq =
        UInt32.ofNat recvInfo.dataLen := by
      rw [UInt32.add_comm, UInt32.add_sub_cancel]
    rw [ahead, length]
    by_cases empty : recvInfo.dataLen = 0
    · exact .inl (by rw [empty]; exact UInt32.add_zero ackSeq)
    · exact .inr ⟨Nat.pos_of_ne_zero empty, by omega⟩

/-- What a receipt does to the acknowledgement number. -/
theorem afterRecvRaw0_ackSeq (raw : RawInfo config) (mode : config.rawMode = .faketcp) :
    (afterRecvRaw0 raw).sendInfo.ackSeq = raw.sendInfo.ackSeq ∨
      (afterRecvRaw0 raw).sendInfo.ackSeq =
        nextAckSeq config.seqMode raw.recvInfo raw.sendInfo.ackSeq := by
  unfold afterRecvRaw0
  simp only [mode]
  split_ifs
  · exact .inr rfl
  · exact .inr rfl
  · exact .inl rfl
  · exact .inl rfl

/-- Counting a packet twice is counting it once. -/
theorem afterRecvRaw0_twice (raw : RawInfo config) :
    afterRecvRaw0 (afterRecvRaw0 raw) = afterRecvRaw0 raw := by
  cases mode : config.rawMode with
  | faketcp =>
    simp only [afterRecvRaw0, mode]
    split_ifs <;> simp_all [nextAckSeq_settles]
  | udp => simp only [afterRecvRaw0, mode]
  | icmp =>
    cases side : config.programMode with
    | client => simp only [afterRecvRaw0, mode, side]
    | server =>
      simp only [afterRecvRaw0, mode, side]
      split_ifs with larger <;> simp_all [largerThanU16_self]

/-- A packet counts once however many frames it has, and what is acknowledged or echoed only moves
forward. -/
theorem afterRecvRaw0_once (raw : RawInfo config) :
    (∀ frames, afterRecvRaw0^[frames + 1] raw = afterRecvRaw0 raw) ∧
      (config.rawMode = .faketcp → raw.recvInfo.dataLen ≤ 65535 →
        (afterRecvRaw0 raw).sendInfo.ackSeq = raw.sendInfo.ackSeq ∨
          0 < ((afterRecvRaw0 raw).sendInfo.ackSeq - raw.sendInfo.ackSeq).toInt32) ∧
      (config.rawMode = .icmp → config.programMode = .server →
        (afterRecvRaw0 raw).sendInfo.myIcmpSeq = raw.sendInfo.myIcmpSeq ∨
          0 < ((afterRecvRaw0 raw).sendInfo.myIcmpSeq - raw.sendInfo.myIcmpSeq).toInt16) := by
  refine ⟨fun frames => ?_, fun mode small => ?_, fun mode side => ?_⟩
  · induction frames with
    | zero => rfl
    | succ frames ih => rw [Function.iterate_succ_apply', ih, afterRecvRaw0_twice]
  · obtain same | next := afterRecvRaw0_ackSeq raw mode
    · exact .inl same
    · rw [next]
      obtain same | larger :=
        nextAckSeq_forward config.seqMode raw.recvInfo raw.sendInfo.ackSeq small
      · exact .inl same
      · exact .inr (of_decide_eq_true larger)
  · unfold afterRecvRaw0
    simp only [mode, side]
    split_ifs with larger
    · exact .inr (of_decide_eq_true larger)
    · exact .inl rfl

end Udp2raw
