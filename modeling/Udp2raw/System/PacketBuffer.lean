import Udp2raw.Client.PacketBuffer
import Udp2raw.Server.Assertions

/-!
# The protocol of the packet buffer

`g_packet_buf` holds at most one packet. Whoever receives a packet puts it there, and the handler
takes it out again by one call that parses or discards it, whatever becomes of the packet.
A second such call, or a packet that stays, would fail an assertion.
-/
namespace Udp2raw

open Proc ClientProc

variable {v : IpVersion} {options : Options v} {route : ClientOptions v}
  {m m' : Machine v}

/-- What a run of the client passes through. The Linux build reads the raw socket in an event, the
multi-platform build drains its capture queue; other parties may add to the record meanwhile. -/
inductive CapturingClient (options : Options v) (route : ClientOptions v)
    (answers : Nat → Answer v) (filterPort : UInt16) : Machine v × Client options → Prop
  /-- The client starts. -/
  | start {machine : Machine v} {client : Client options} :
      Returns (clientStart options route)
        (.start (.client options.constId) answers filterPort) client machine →
      CapturingClient options route answers filterPort (machine, client)
  /-- The record grew. -/
  | logged {machine : Machine v} {client : Client options} (log : Log v) :
      CapturingClient options route answers filterPort (machine, client) →
      CapturingClient options route answers filterPort ({ machine with log }, client)
  /-- An event was handled. -/
  | event {before after : Machine v × Client options} {event : ClientEvent} :
      CapturingClient options route answers filterPort before →
      Returns (clientOnEvent route event) before () after →
      CapturingClient options route answers filterPort after
  /-- The capture queue was drained. -/
  | drained {before after : Machine v × Client options} {linkHeaderLen : Nat}
      {queue result : PacketQueue} :
      CapturingClient options route answers filterPort before →
      Returns (asyncCb route linkHeaderLen queue) before result after →
      CapturingClient options route answers filterPort after

/-- Between two events of a client no packet is buffered, and it is there to receive one. -/
theorem CapturingClient.free {answers : Nat → Answer v} {filterPort : UInt16}
    {state : Machine v × Client options}
    (reached : CapturingClient options route answers filterPort state) : ClientFree state := by
  induction reached with
  | start returned => exact clientStart_free returned
  | logged log _ ih => exact ⟨ih.empty, ih.conn⟩
  | event _ returned ih => exact ((clientOnEvent_keepsFree _ _ ih).2 _ _ returned).2
  | drained _ returned ih => exact ((asyncCb_keepsFree _ _ _ ih).2 _ _ returned).2

/-! ### One packet, taken once -/

/-- What the functions of the buffer do to its counter: a packet gets in only where none is, and
it is taken only where one is. A packet that is looked at stays. -/
structure BufferFunctions (options : Options v) : Prop where
  /-- A received packet. -/
  fills : ∀ received before ret after,
    Returns (preRecvRawPacket options received) before ret after →
      before.packetBufCnt = 0 ∧
        (ret = 0 ∧ after.packetBufCnt = 1 ∨ ret = -1 ∧ after.packetBufCnt = 0)
  /-- A packet of the capture queue. -/
  copies : ∀ packet before value after,
    Returns (fillPacketBuf packet : Proc v Unit) before value after →
      before.packetBufCnt = 0 ∧ after.packetBufCnt = 1
  /-- A look at a packet. -/
  looks : ∀ raw before result after,
    Returns (peekRawPacket options raw) before result after →
      before.packetBufCnt = 1 ∧ after.packetBufCnt = 1
  /-- A packet that is discarded. -/
  discards : ∀ before value after,
    Returns (discardRawPacket : Proc v Unit) before value after →
      before.packetBufCnt = 1 ∧ after.packetBufCnt = 0
  /-- A packet that is parsed. -/
  parses : ∀ raw before result after, raw.Receiving →
    Returns (recvRawPayload options raw) before result after →
      before.packetBufCnt = 1 ∧ after.packetBufCnt = 0
  /-- A packet that was taken cannot be discarded. -/
  discardsOnce : ∀ machine : Machine v, machine.packetBufCnt = 0 →
    StopsWith discardRawPacket machine (.assertion "g_packet_buf_cnt == 1")
  /-- A packet that was taken cannot be parsed. -/
  parsesOnce : ∀ machine raw, machine.packetBufCnt = 0 →
    StopsWith (recvRawPayload options raw) machine (.assertion "g_packet_buf_cnt == 1")

/-- A copied packet. -/
theorem fillPacketBuf_counts {packet : Bytes} {value : Unit}
    (returned : Returns (fillPacketBuf packet) m value m') :
    m.packetBufCnt = 0 ∧ m'.packetBufCnt = 1 := by
  simp only [fillPacketBuf, Returns.bind_iff, Returns.get_iff, check_iff, decide_eq_true_eq,
    Returns.modify_iff] at returned
  obtain ⟨_, _, rfl, _, _, ⟨rfl, rfl⟩, _, _, ⟨empty, rfl⟩, rfl⟩ := returned
  exact ⟨empty, rfl⟩

/-- A look at a packet. -/
theorem peekRawPacket_counts {raw : RawInfo options.raw} {result : RawInfo options.raw × Bool}
    (returned : Returns (peekRawPacket options raw) m result m') :
    m.packetBufCnt = 1 ∧ m'.packetBufCnt = 1 := by
  simp only [peekRawPacket, Returns.bind_iff, Returns.get_iff, check_iff, decide_eq_true_eq]
    at returned
  obtain ⟨_, _, ⟨rfl, rfl⟩, _, _, ⟨full, rfl⟩, returned⟩ := returned
  obtain ⟨-, rfl⟩ := Returns.pure_iff.mp returned
  exact ⟨full, full⟩

/-- A parsed packet. -/
theorem recvRawPayload_counts {raw : RawInfo options.raw}
    {result : RawInfo options.raw × Option Bytes} (receiving : raw.Receiving)
    (returned : Returns (recvRawPayload options raw) m result m') :
    m.packetBufCnt = 1 ∧ m'.packetBufCnt = 0 := by
  simp only [recvRawPayload, Returns.bind_iff, Returns.get_iff, check_iff, decide_eq_true_eq,
    Returns.modify_iff] at returned
  obtain ⟨_, _, ⟨rfl, rfl⟩, _, _, ⟨full, rfl⟩, _, _, rfl, returned⟩ := returned
  have taken : (if raw.peek then 1 else 0) = 0 := by
    have off : raw.peek = false := receiving
    simp [off]
  split at returned
  · obtain ⟨-, rfl⟩ := Returns.pure_iff.mp returned
    exact ⟨full, taken⟩
  · exact absurd returned Returns.throw_iff
  · obtain ⟨-, rfl⟩ := Returns.pure_iff.mp returned
    exact ⟨full, taken⟩

/-- A packet that was taken cannot be discarded. -/
theorem discardRawPacket_empty (empty : m.packetBufCnt = 0) :
    StopsWith discardRawPacket m (.assertion "g_packet_buf_cnt == 1") := by
  apply stopsWith_of_faultOf
  simp [faultOf, discardRawPacket, check, assert, empty, StateT.run, bind, StateT.bind, Except.bind,
    get, getThe, MonadStateOf.get, StateT.get, pure, Except.pure, liftM, monadLift,
    MonadLift.monadLift, StateT.lift]

/-- A packet that was taken cannot be parsed. -/
theorem recvRawPayload_empty (raw : RawInfo options.raw) (empty : m.packetBufCnt = 0) :
    StopsWith (recvRawPayload options raw) m (.assertion "g_packet_buf_cnt == 1") := by
  apply stopsWith_of_faultOf
  simp [faultOf, recvRawPayload, check, assert, empty, StateT.run, bind, StateT.bind, Except.bind,
    get, getThe, MonadStateOf.get, StateT.get, pure, Except.pure, liftM, monadLift,
    MonadLift.monadLift, StateT.lift]

/-- The functions of the buffer. -/
theorem bufferFunctions (options : Options v) : BufferFunctions options where
  fills received before ret after returned := by
    obtain ⟨-, empty, outcome⟩ := preRecvRawPacket_logged returned
    exact ⟨empty, outcome.imp_right fun ⟨failed, same⟩ => ⟨failed, same ▸ empty⟩⟩
  copies packet before value after returned := fillPacketBuf_counts returned
  looks raw before result after returned := peekRawPacket_counts returned
  discards before value after returned := (discardRawPacket_logged returned).2
  parses raw before result after receiving returned := recvRawPayload_counts receiving returned
  discardsOnce machine empty := discardRawPacket_empty empty
  parsesOnce machine raw empty := recvRawPayload_empty raw empty

/-- A handler finds the buffer empty and leaves it so, and no assertion about the buffer fails. -/
structure HandlesBuffer {σ α : Type} (handler : Program Fault (Machine v × σ) α)
    (before : Machine v × σ) : Prop where
  /-- The buffer is empty. -/
  empty : before.1.packetBufCnt = 0
  /-- It stays empty. -/
  taken : ∀ value after, Returns handler before value after → after.1.packetBufCnt = 0
  /-- No assertion about it fails. -/
  sound : ∀ fault, StopsWith handler before fault → fault.Elsewhere

/-- A received packet is taken by the server. -/
theorem serverOnRawRecvMulti_handlesBuffer {standing : Standing} {answers : Nat → Answer v}
    {filterPort : UInt16} {state : Machine v × Server options}
    (reached : Reachable options standing answers filterPort state) (received : Option Capture) :
    HandlesBuffer (serverOnRawRecvMulti received) state where
  empty := reached.empty
  taken _ _ returned := serverOnRawRecvMulti_taken reached.intact.tables reached.empty returned
  sound fault stopped text listed same := by
    subst same
    obtain rfl := serverOnRawRecvMulti_assertion reached.intact reached.empty stopped
    exact absurd listed (by decide)

/-- What keeps a client ready to receive handles the buffer. -/
theorem ClientFree.handlesBuffer {α : Type} {good : α → Prop} {handler : ClientProc options α}
    {state : Machine v × Client options} (free : ClientFree state)
    (keeps : KeepsFree handler good) : HandlesBuffer handler state where
  empty := free.empty
  taken value after returned := ((keeps state free).2 value after returned).2.empty
  sound := (keeps state free).1

/-- Every packet that gets into the buffer is taken out once: a second time would fail an
assertion, one that stays would be there at the end of the handler, and neither happens in a run of
a server or a client. -/
theorem packetBuffer_protocol (options : Options v) (standing : Standing)
    (route : ClientOptions v) (answers : Nat → Answer v) (filterPort : UInt16) :
    BufferFunctions options ∧
      (∀ state : Machine v × Server options, Reachable options standing answers filterPort state →
        ∀ received, HandlesBuffer (serverOnRawRecvMulti received) state) ∧
      ∀ state : Machine v × Client options,
        CapturingClient options route answers filterPort state →
          (∀ event, HandlesBuffer (clientOnEvent route event) state) ∧
            ∀ linkHeaderLen queue, HandlesBuffer (asyncCb route linkHeaderLen queue) state := by
  refine ⟨bufferFunctions options,
    fun _ reached received => serverOnRawRecvMulti_handlesBuffer reached received,
    fun _ reached => ⟨fun event => ?_, fun linkHeaderLen queue => ?_⟩⟩
  · exact reached.free.handlesBuffer (clientOnEvent_keepsFree event)
  · exact reached.free.handlesBuffer (asyncCb_keepsFree linkHeaderLen queue)

end Udp2raw
