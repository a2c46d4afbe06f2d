import Udp2raw.EncryptRoundTrip
import Udp2raw.Process

/-!
# Effects of the shared layers

What a function of the shared layers may change: it takes answers, moves the clock forward
and adds to the record. `Logged` states this together with the recorded events, `Ran` adds
that the packet buffer stays as it is. Both compose along a program.
-/
namespace Udp2raw

open Proc

variable {v : IpVersion}

/-- The last time the process read, in milliseconds. -/
def Machine.now (machine : Machine v) : Nat := machine.largestValue / 1000

/-- A party's events as entries of the record. -/
def entries (self : Party) (events : List (Event v)) : Log v :=
  events.map fun event => (self, event)

/-- The process went on and recorded these events. -/
structure Logged (events : List (Event v)) (before after : Machine v) : Prop where
  /-- It is the same process. -/
  self : after.self = before.self
  /-- The system answers the same. -/
  answers : after.answers = before.answers
  /-- The packet filter is the same. -/
  filterPort : after.filterPort = before.filterPort
  /-- The clock did not go back. -/
  clock : before.largestValue ≤ after.largestValue
  /-- The events are at the end of the record. -/
  log : after.log = before.log ++ entries before.self events

/-- The process went on, recorded these events and left the packet buffer alone. -/
structure Ran (events : List (Event v)) (before after : Machine v) : Prop
    extends Logged events before after where
  /-- The same packet is buffered. -/
  packetBuf : after.packetBuf = before.packetBuf
  /-- The packet buffer is as full as before. -/
  packetBufCnt : after.packetBufCnt = before.packetBufCnt

namespace Logged

/-- Standing still. -/
theorem refl (machine : Machine v) : Logged [] machine machine :=
  ⟨rfl, rfl, rfl, Nat.le_refl _, by simp [entries]⟩

/-- Two parts of a run. -/
theorem trans {first second : List (Event v)} {a b c : Machine v} (one : Logged first a b)
    (two : Logged second b c) : Logged (first ++ second) a c where
  self := two.self.trans one.self
  answers := two.answers.trans one.answers
  filterPort := two.filterPort.trans one.filterPort
  clock := Nat.le_trans one.clock two.clock
  log := by rw [two.log, one.log, one.self]; simp [entries]

/-- The time did not go back. -/
theorem now {events : List (Event v)} {a b : Machine v} (logged : Logged events a b) :
    a.now ≤ b.now := Nat.div_le_div_right logged.clock

end Logged

namespace Ran

/-- Standing still. -/
theorem refl (machine : Machine v) : Ran [] machine machine := ⟨.refl _, rfl, rfl⟩

/-- Two parts of a run. -/
theorem trans {first second : List (Event v)} {a b c : Machine v} (one : Ran first a b)
    (two : Ran second b c) : Ran (first ++ second) a c :=
  ⟨one.toLogged.trans two.toLogged, two.packetBuf.trans one.packetBuf,
    two.packetBufCnt.trans one.packetBufCnt⟩

end Ran

/-- The process went on, recorded these events and may have taken the buffered packet. -/
structure Went (events : List (Event v)) (before after : Machine v) : Prop
    extends Logged events before after where
  /-- No packet was put into the buffer. -/
  packetBufCnt : after.packetBufCnt ≤ before.packetBufCnt

namespace Went

/-- Standing still. -/
theorem refl (machine : Machine v) : Went [] machine machine := ⟨.refl _, Nat.le_refl _⟩

/-- Two parts of a run. -/
theorem trans {first second : List (Event v)} {a b c : Machine v} (one : Went first a b)
    (two : Went second b c) : Went (first ++ second) a c :=
  ⟨one.toLogged.trans two.toLogged, Nat.le_trans two.packetBufCnt one.packetBufCnt⟩

end Went

/-- A part of a run that leaves the packet buffer alone. -/
theorem Ran.went {events : List (Event v)} {a b : Machine v} (ran : Ran events a b) :
    Went events a b := ⟨ran.toLogged, Nat.le_of_eq ran.packetBufCnt⟩

section Primitives

variable {before after : Machine v}

/-- A question only takes an answer. -/
theorem ask_ran {answer : Answer v} (returned : Returns ask before answer after) :
    Ran [] before after ∧ answer = before.answers before.asked := by
  simp only [ask, Returns.bind_iff, Returns.get_iff, Returns.set_iff, Returns.pure_iff] at returned
  obtain ⟨_, _, ⟨rfl, rfl⟩, _, _, rfl, rfl, rfl⟩ := returned
  exact ⟨⟨⟨rfl, rfl, rfl, Nat.le_refl _, by simp [entries]⟩, rfl, rfl⟩, rfl⟩

/-- A question is always answered. -/
theorem ask_total : Total (ask : Proc v (Answer v)) := fun before =>
  ⟨before.answers before.asked, { before with asked := before.asked + 1 }, rfl, trivial⟩

/-- A record adds its event. -/
theorem record_ran {event : Event v} {value : Unit}
    (returned : Returns (record event) before value after) : Ran [event] before after := by
  simp only [record, Returns.modify_iff] at returned
  subst returned
  exact ⟨⟨rfl, rfl, rfl, Nat.le_refl _, rfl⟩, rfl, rfl⟩

/-- A record always goes on. -/
theorem record_total (event : Event v) : Total (record event) := total_modify _

/-- A passed check changes nothing. -/
theorem check_iff {condition : Bool} {text : String} {value : Unit} :
    Returns (check condition text : Proc v Unit) before value after ↔
      condition = true ∧ before = after := by
  simp only [check, Returns.lift_iff, assert]
  cases condition <;> simp

/-- A check that holds goes on. -/
theorem check_succeeds {condition : Bool} (text : String) (holds : condition = true) :
    Succeeds (check condition text : Proc v Unit) before fun _ after => after = before :=
  ⟨⟨⟩, before, check_iff.mpr ⟨holds, rfl⟩, rfl⟩

/-- The clock moves forward and gives the time it then has. -/
theorem getCurrentTime_ran {time : Nat} (returned : Returns getCurrentTime before time after) :
    Ran [] before after ∧ time = after.now := by
  simp only [getCurrentTime, getCurrentTimeUs, Returns.bind_iff, Returns.pure_iff] at returned
  obtain ⟨micros, _, ⟨answer, asked, ran, _, _, ⟨⟩, fixed⟩, rfl, rfl⟩ := returned
  obtain ⟨ran, -⟩ := ask_ran ran
  by_cases behind : answer.rawTime + asked.valueFix < asked.largestValue
  · simp only [if_pos behind, Returns.bind_iff, Returns.set_iff, Returns.pure_iff] at fixed
    obtain ⟨_, _, rfl, rfl, rfl⟩ := fixed
    refine ⟨ran.trans ⟨⟨rfl, rfl, rfl, Nat.le_refl _, by simp [entries]⟩, rfl, rfl⟩, ?_⟩
    simp only [Machine.now]
    congr 1
    omega
  · simp only [if_neg behind, Returns.bind_iff, Returns.set_iff, Returns.pure_iff] at fixed
    obtain ⟨_, _, rfl, rfl, rfl⟩ := fixed
    exact ⟨ran.trans ⟨⟨rfl, rfl, rfl, Nat.not_lt.mp behind, by simp [entries]⟩, rfl, rfl⟩, rfl⟩

/-- The process after it read the clock once more. -/
def Machine.read (machine : Machine v) : Machine v :=
  let asked := machine.asked + 1
  let fixedValue := (machine.answers machine.asked).rawTime + machine.valueFix
  if fixedValue < machine.largestValue then
    { machine with asked, valueFix := machine.valueFix + (machine.largestValue - fixedValue) }
  else { machine with asked, largestValue := fixedValue }

/-- A reading of the clock leads to one state and gives its time. -/
theorem getCurrentTime_read {time : Nat} (returned : Returns getCurrentTime before time after) :
    after = before.read ∧ time = before.read.now := by
  have ran : after = before.read := by
    simp only [getCurrentTime, getCurrentTimeUs, ask, Returns.bind_iff, Returns.pure_iff,
      Returns.get_iff, Returns.set_iff] at returned
    obtain ⟨_, _, ⟨_, _, ⟨_, _, ⟨rfl, rfl⟩, _, _, rfl, rfl, rfl⟩, _, _, ⟨rfl, rfl⟩, fixed⟩,
      -, rfl⟩ := returned
    unfold Machine.read
    dsimp only
    split_ifs at fixed ⊢ <;>
      simp only [Returns.bind_iff, Returns.set_iff, Returns.pure_iff] at fixed <;>
      obtain ⟨_, _, rfl, -, rfl⟩ := fixed <;> rfl
  exact ⟨ran, ran ▸ (getCurrentTime_ran returned).2⟩

/-- The clock always answers. -/
theorem getCurrentTime_total : Total (getCurrentTime : Proc v Nat) := by
  refine total_bind (total_bind ask_total fun answer => total_bind total_get fun machine => ?_)
    fun _ => total_pure _
  apply total_ite <;> intro _ <;> exact total_bind (total_set _) fun _ => total_pure _

/-- A random number only takes an answer. -/
theorem getTrueRandomNumber_ran {number : UInt32}
    (returned : Returns getTrueRandomNumber before number after) : Ran [] before after := by
  simp only [getTrueRandomNumber, Returns.bind_iff, Returns.pure_iff] at returned
  obtain ⟨_, _, asked, -, rfl⟩ := returned
  exact (ask_ran asked).1

/-- A random number only takes an answer. -/
theorem getTrueRandomNumber64_ran {number : UInt64}
    (returned : Returns getTrueRandomNumber64 before number after) : Ran [] before after := by
  simp only [getTrueRandomNumber64, Returns.bind_iff, Returns.pure_iff] at returned
  obtain ⟨_, _, asked, -, rfl⟩ := returned
  exact (ask_ran asked).1

/-- A drawn identifier is recorded and not zero. -/
theorem drawMyId_ran {myId : UInt32} (returned : Returns drawMyId before myId after) :
    Ran [.drewMyId myId] before after ∧ myId ≠ 0 := by
  simp only [drawMyId, Returns.bind_iff, Returns.pure_iff] at returned
  obtain ⟨answer, _, asked, _, _, recorded, rfl, rfl⟩ := returned
  exact ⟨(ask_ran asked).1.trans (record_ran recorded), answer.nonzero.property⟩

/-- New connection metadata only takes answers. -/
theorem newRawInfo_ran {options : Options v} {raw : RawInfo options.raw}
    (returned : Returns (newRawInfo options) before raw after) : Ran [] before after := by
  simp only [newRawInfo, newPacketInfo, Returns.bind_iff, Returns.pure_iff] at returned
  obtain ⟨_, _, ⟨_, _, one, _, _, two, _, _, three, -, rfl⟩, _, _,
    ⟨_, _, four, _, _, five, _, _, six, -, rfl⟩, _, _, seven, -, rfl⟩ := returned
  have first := ((ask_ran one).1.trans (getTrueRandomNumber_ran two)).trans
    (getTrueRandomNumber_ran three)
  have second := ((ask_ran four).1.trans (getTrueRandomNumber_ran five)).trans
    (getTrueRandomNumber_ran six)
  exact (first.trans second).trans (ask_ran seven).1

/-- New connection metadata is there to receive packets. -/
theorem newRawInfo_peek {options : Options v} {raw : RawInfo options.raw}
    (returned : Returns (newRawInfo options) before raw after) : raw.peek = false := by
  simp only [newRawInfo, Returns.bind_iff, Returns.pure_iff] at returned
  obtain ⟨_, _, _, _, _, _, _, _, _, rfl, -⟩ := returned
  rfl

/-- New connection metadata is always there. -/
theorem newRawInfo_total (options : Options v) : Total (newRawInfo options) := by
  have number : Total (getTrueRandomNumber : Proc v UInt32) :=
    total_bind ask_total fun _ => total_pure _
  have info : Total (newPacketInfo options) := total_bind ask_total fun _ =>
    total_bind number fun _ => total_bind number fun _ => total_pure _
  exact total_bind info fun _ => total_bind info fun _ => total_bind ask_total fun _ => total_pure _

end Primitives

section Layers

variable {options : Options v} {before after : Machine v}

/-- A send is recorded and keeps the peer. -/
theorem sendRawPayload_ran {raw next : RawInfo options.raw} {payload : Bytes} {ret : Int}
    (returned : Returns (sendRawPayload options raw payload) before (next, ret) after) :
    Ran [.rawPayload payload] before after ∧ SamePeer raw next := by
  simp only [sendRawPayload, Returns.bind_iff, Returns.pure_iff, Prod.mk.injEq] at returned
  obtain ⟨_, _, zero, answer, asked, one, time, timed, two, sent, _, lifted, _, _, three,
    ⟨rfl, -⟩, rfl⟩ := returned
  obtain ⟨ran, rfl⟩ := Returns.lift_iff.mp lifted
  obtain rfl := Returns.modify_iff.mp three
  have early : Ran [] asked timed := by
    unfold segmentTime at two
    split at two
    · exact (getCurrentTime_ran two).1
    · obtain ⟨-, rfl⟩ := Returns.pure_iff.mp two
      exact .refl _
  have onWire : Ran [] timed { timed with wire := timed.wire ++ sent.packet.toList } :=
    ⟨⟨rfl, rfl, rfl, Nat.le_refl _, by simp [entries]⟩, rfl, rfl⟩
  exact ⟨(((record_ran zero).trans (ask_ran one).1).trans early).trans onWire, sendRaw0_peer ran⟩

/-- A send never stops the process. -/
theorem sendRawPayload_total (raw : RawInfo options.raw) (payload : Bytes) :
    Total (sendRawPayload options raw payload) := by
  refine total_bind (record_total _) fun _ => total_bind ask_total fun answer =>
    total_bind ?_ fun now => total_bind ?_ fun sent =>
      total_bind (total_modify _) fun _ => total_pure _
  · exact total_ite (fun _ => getCurrentTime_total) fun _ => total_pure _
  · intro before
    obtain ⟨sent, ran⟩ := sendRaw0_runs { answer.send with now } raw payload
    exact .of_returns (Returns.lift_iff.mpr ⟨ran, rfl⟩) trivial

/-- An encryption is recorded with its outcome. -/
theorem encryptMessage_ran {message : Bytes} {output : Option Bytes}
    (returned : Returns (encryptMessage options message) before output after) :
    output = none ∧ Ran [.refused message] before after ∨
      ∃ bytes, output = some bytes ∧ Ran [.encrypted message bytes] before after := by
  simp only [encryptMessage, Returns.bind_iff, Returns.get_iff] at returned
  obtain ⟨answer, asked, one, _, _, ⟨rfl, rfl⟩, ⟨result, aes⟩, _, lifted, _, _, two, returned⟩ :=
    returned
  obtain ⟨-, rfl⟩ := Returns.lift_iff.mp lifted
  obtain rfl := Returns.set_iff.mp two
  have begun : Ran [] before { asked with aes } :=
    (ask_ran one).1.trans ⟨⟨rfl, rfl, rfl, Nat.le_refl _, by simp [entries]⟩, rfl, rfl⟩
  cases result with
  | none =>
    simp only [Returns.bind_iff, Returns.pure_iff] at returned
    obtain ⟨_, _, recorded, rfl, rfl⟩ := returned
    exact .inl ⟨rfl, begun.trans (record_ran recorded)⟩
  | some bytes =>
    simp only [Returns.bind_iff, Returns.pure_iff] at returned
    obtain ⟨_, _, recorded, rfl, rfl⟩ := returned
    exact .inr ⟨bytes, rfl, begun.trans (record_ran recorded)⟩

/-- A message of at least one block can always be encrypted or refused. -/
theorem encryptMessage_succeeds {message : Bytes} (long : 16 ≤ message.length) :
    Total (encryptMessage options message) := by
  refine total_bind ask_total fun answer => total_bind total_get fun machine =>
    total_bind ?_ fun result => total_bind (total_set _) fun _ => ?_
  · intro before
    obtain ⟨result, ran⟩ := myEncrypt_runs options.prim options.crypto options.keys machine.aes
      answer.junk long
    exact .of_returns (Returns.lift_iff.mpr ⟨ran, rfl⟩) trivial
  · obtain ⟨output, aes⟩ := result
    cases output with
    | none => exact total_bind (record_total _) fun _ => total_pure _
    | some output => exact total_bind (record_total _) fun _ => total_pure _

/-- A decryption that succeeds is recorded. -/
theorem decryptInto_ran {buffer next : Scratch} {input : Bytes} {len : Option Nat}
    (returned : Returns (decryptInto options buffer input) before (next, len) after) :
    len = none ∧ Ran [] before after ∨
      ∃ length, len = some length ∧
        Ran [.decrypted input (next.read 0 length)] before after := by
  simp only [decryptInto, Returns.bind_iff, Returns.get_iff] at returned
  obtain ⟨_, _, ⟨rfl, rfl⟩, _, _, two, returned⟩ := returned
  obtain rfl := Returns.set_iff.mp two
  generalize myDecrypt options.prim options.crypto options.keys before.aes input = result
    at returned
  have begun : Ran [] before { before with aes := result.2 } :=
    ⟨⟨rfl, rfl, rfl, Nat.le_refl _, by simp [entries]⟩, rfl, rfl⟩
  cases read : result.1.len with
  | none =>
    simp only [read, Returns.pure_iff, Prod.mk.injEq] at returned
    obtain ⟨⟨-, rfl⟩, rfl⟩ := returned
    exact .inl ⟨rfl, begun⟩
  | some length =>
    simp only [read, Returns.bind_iff, Returns.pure_iff, Prod.mk.injEq] at returned
    obtain ⟨_, _, recorded, ⟨rfl, rfl⟩, rfl⟩ := returned
    exact .inr ⟨length, rfl, begun.trans (record_ran recorded)⟩

/-- A decryption never stops the process. -/
theorem decryptInto_total (buffer : Scratch) (input : Bytes) :
    Total (decryptInto options buffer input) := by
  refine total_bind total_get fun machine => total_bind (total_set _) fun _ => ?_
  split
  · exact total_pure _
  · exact total_bind (record_total _) fun _ => total_pure _

/-- A new packet is buffered or refused; the buffer was empty. -/
theorem preRecvRawPacket_logged {received : Option Capture} {ret : Int}
    (returned : Returns (preRecvRawPacket options received) before ret after) :
    Logged [] before after ∧ before.packetBufCnt = 0 ∧
      (ret = 0 ∧ after.packetBufCnt = 1 ∨ ret = -1 ∧ after = before) := by
  simp only [preRecvRawPacket, Returns.bind_iff, Returns.get_iff, check_iff,
    decide_eq_true_eq] at returned
  obtain ⟨_, _, ⟨rfl, rfl⟩, _, _, ⟨empty, rfl⟩, returned⟩ := returned
  cases received with
  | none =>
    obtain ⟨rfl, rfl⟩ := Returns.pure_iff.mp returned
    exact ⟨.refl _, empty, .inr ⟨rfl, rfl⟩⟩
  | some capture =>
    simp only at returned
    split_ifs at returned
    · obtain ⟨rfl, rfl⟩ := Returns.pure_iff.mp returned
      exact ⟨.refl _, empty, .inr ⟨rfl, rfl⟩⟩
    · obtain ⟨rfl, rfl⟩ := Returns.pure_iff.mp returned
      exact ⟨.refl _, empty, .inr ⟨rfl, rfl⟩⟩
    · simp only [Returns.bind_iff, Returns.modify_iff, Returns.pure_iff] at returned
      obtain ⟨_, _, rfl, rfl, rfl⟩ := returned
      exact ⟨⟨rfl, rfl, rfl, Nat.le_refl _, by simp [entries]⟩, empty, .inl ⟨rfl, rfl⟩⟩

/-- A discarded packet leaves the buffer empty. -/
theorem discardRawPacket_logged {value : Unit}
    (returned : Returns discardRawPacket before value after) :
    Logged [] before after ∧ before.packetBufCnt = 1 ∧ after.packetBufCnt = 0 := by
  simp only [discardRawPacket, Returns.bind_iff, Returns.get_iff, check_iff, decide_eq_true_eq,
    Returns.modify_iff] at returned
  obtain ⟨_, _, ⟨rfl, rfl⟩, _, _, ⟨full, rfl⟩, rfl⟩ := returned
  exact ⟨⟨rfl, rfl, rfl, Nat.le_refl _, by simp [entries]⟩, full, rfl⟩

/-- A look at the buffered packet changes nothing. -/
theorem peekRawPacket_iff {raw : RawInfo options.raw} {result : RawInfo options.raw × Bool} :
    Returns (peekRawPacket options raw) before result after ↔
      before.packetBufCnt = 1 ∧ result = peekRaw options.raw before.packetBuf raw ∧
        after = before := by
  simp only [peekRawPacket, Returns.bind_iff, Returns.get_iff, check_iff, decide_eq_true_eq,
    Returns.pure_iff]
  constructor
  · rintro ⟨_, _, ⟨rfl, rfl⟩, _, _, ⟨full, rfl⟩, rfl, rfl⟩
    exact ⟨full, rfl, rfl⟩
  · rintro ⟨full, rfl, rfl⟩
    exact ⟨_, _, ⟨rfl, rfl⟩, ⟨⟩, _, ⟨full, rfl⟩, rfl, rfl⟩

/-- The buffered packet is parsed once; a payload comes from the address of the packet. -/
theorem recvRawPayload_logged {raw next : RawInfo options.raw} {payload : Option Bytes}
    (returned : Returns (recvRawPayload options raw) before (next, payload) after) :
    Logged [] before after ∧ before.packetBufCnt = 1 ∧
      after.packetBufCnt = (if raw.peek then 1 else 0) ∧
      HeardFrom (before.packetBuf.source options.raw) raw next ∧
      (payload.isSome → next.source = before.packetBuf.source options.raw) := by
  simp only [recvRawPayload, Returns.bind_iff, Returns.get_iff, check_iff, decide_eq_true_eq,
    Returns.modify_iff] at returned
  obtain ⟨_, _, ⟨rfl, rfl⟩, _, _, ⟨full, rfl⟩, _, _, rfl, returned⟩ := returned
  obtain ⟨heard, source⟩ := recvRaw0_source options.raw before.filterPort
    before.packetBuf raw
  have logged : Logged [] before
      { before with packetBufCnt := if raw.peek then 1 else 0 } :=
    ⟨rfl, rfl, rfl, Nat.le_refl _, by simp [entries]⟩
  cases result : recvRaw0 options.raw before.filterPort before.packetBuf raw with
  | mk parsed received =>
    rw [result] at heard source returned
    cases received with
    | failed =>
      simp only [Returns.pure_iff, Prod.mk.injEq] at returned
      obtain ⟨⟨rfl, rfl⟩, rfl⟩ := returned
      exact ⟨logged, full, rfl, heard, by simp⟩
    | untouched => exact absurd returned Returns.throw_iff
    | payload segment =>
      simp only [Returns.pure_iff, Prod.mk.injEq] at returned
      obtain ⟨⟨rfl, rfl⟩, rfl⟩ := returned
      exact ⟨logged, full, rfl, heard, fun _ => source segment rfl⟩

end Layers

end Udp2raw
