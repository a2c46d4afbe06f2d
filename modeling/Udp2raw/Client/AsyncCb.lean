import Udp2raw.Client.Effects
import Udp2raw.Client.PacketQueue

/-!
# Draining the capture queue

`async_cb` of the multi-platform build, once the link level header is captured: it takes packets
out of the queue until it is empty, or until a packet is too long. The wake-ups are merged, so
that what it leaves in the queue waits for the next captured packet.
-/
namespace Udp2raw

open Proc ClientProc

variable {v : IpVersion} {options : Options v} {route : ClientOptions v}

/-- A packet is copied into `g_packet_buf`. -/
def fillPacketBuf (packet : Bytes) : Proc v Unit := do
  modify fun machine => { machine with packetBuf := ⟨packet, machine.packetBuf.read⟩ }
  check ((← get).packetBufCnt = 0) "g_packet_buf_cnt == 0"
  modify fun machine => { machine with packetBufCnt := 1 }

/-- A packet that `async_cb` drops. -/
def Oversized (options : Options v) (length : Nat) : Prop :=
  options.fixGro = false ∧ maxDataLen < length

instance (length : Nat) : Decidable (Oversized options length) :=
  inferInstanceAs (Decidable (_ ∧ _))

/-- A packet goes to `client_on_raw_recv` without its link level header. -/
def handPacket (route : ClientOptions v) (linkHeaderLen : Nat) (packet : Bytes) :
    ClientProc options Unit :=
  if packet.length < linkHeaderLen then throw (.undefined "p+pcap_link_header_len")
  else do
    call (fillPacketBuf (packet.drop linkHeaderLen))
    clientOnBuffered route

/-- The loop of `async_cb`, with the queue after it. -/
def asyncLoop (route : ClientOptions v) (linkHeaderLen : Nat) :
    Nat → PacketQueue → ClientProc options PacketQueue
  | 0, _ => throw (.endless "async_cb")
  | fuel + 1, queue => do
    match ← run queue.take with
    | (queue, none) => return queue
    | (queue, some front) =>
      if Oversized options front.2 then return queue
      else do
        handPacket route linkHeaderLen (queue.packetAt front)
        asyncLoop route linkHeaderLen fuel queue

/-- `async_cb` when the link level header is captured. The queue never has as many packets as slots.
-/
def asyncCb (route : ClientOptions v) (linkHeaderLen : Nat) (queue : PacketQueue) :
    ClientProc options PacketQueue :=
  asyncLoop route linkHeaderLen queueLen queue

/-- Captured packets go to `client_on_raw_recv` one after another. Each of them is alone in
`g_packet_buf` when the function is called, without its link level header. -/
inductive Handed (route : ClientOptions v) (linkHeaderLen : Nat) :
    Machine v × Client options → List Bytes → Machine v × Client options → Prop
  /-- No packet is left. -/
  | done (state : Machine v × Client options) : Handed route linkHeaderLen state [] state
  /-- A packet is in the buffer that was empty, and the function is called. -/
  | next {machine : Machine v} {client : Client options} {after final : Machine v × Client options}
      {header content : Bytes} {rest : List Bytes} :
      header.length = linkHeaderLen → machine.packetBufCnt = 0 →
      Returns (clientOnBuffered route)
        ({ machine with packetBuf := ⟨content, machine.packetBuf.read⟩, packetBufCnt := 1 }, client)
        () after →
      Handed route linkHeaderLen after rest final →
      Handed route linkHeaderLen (machine, client) ((header ++ content) :: rest) final

/-- The packets that `async_cb` takes before it stops, of those that wait. -/
def takenPackets (options : Options v) : List Bytes → List Bytes
  | [] => []
  | packet :: rest =>
    if Oversized options packet.length then [] else packet :: takenPackets options rest

/-- The packets that `async_cb` leaves, of those that wait. -/
def leftPackets (options : Options v) : List Bytes → List Bytes
  | [] => []
  | packet :: rest => if Oversized options packet.length then rest else leftPackets options rest

/-- The queue is drained: nothing is left, and what happened between two states is that every packet
that is not dropped went to `client_on_raw_recv`, in the order of arrival. -/
structure Drained (route : ClientOptions v) (linkHeaderLen : Nat) (waiting left : List Bytes)
    (before after : Machine v × Client options) : Prop where
  /-- Nothing is left. -/
  empty : left = []
  /-- All others were handed on. -/
  handed : Handed route linkHeaderLen before
    (waiting.filter fun packet => ¬Oversized options packet.length) after

/-- Nothing is left exactly if no packet but the last one is oversized. -/
theorem leftPackets_nil_iff (packets : List Bytes) :
    leftPackets options packets = [] ↔
      ∀ packet ∈ packets.dropLast, ¬Oversized options packet.length := by
  induction packets with
  | nil => exact ⟨fun _ => nofun, fun _ => rfl⟩
  | cons packet rest ih =>
    by_cases large : Oversized options packet.length
    · rw [leftPackets, if_pos large]
      constructor
      · rintro rfl
        exact nofun
      · intro short
        cases rest with
        | nil => rfl
        | cons next rest => exact absurd large (short packet (by simp))
    · rw [leftPackets, if_neg large, ih]
      cases rest with
      | nil => simp
      | cons next rest =>
        rw [List.dropLast_cons_cons, List.forall_mem_cons]
        exact ⟨fun short => ⟨large, short⟩, And.right⟩

/-- If nothing is left, all packets were taken that are not oversized. -/
theorem takenPackets_eq_filter {packets : List Bytes} (none : leftPackets options packets = []) :
    takenPackets options packets =
      packets.filter fun packet => ¬Oversized options packet.length := by
  induction packets with
  | nil => rfl
  | cons packet rest ih =>
    by_cases large : Oversized options packet.length
    · rw [leftPackets, if_pos large] at none
      rw [takenPackets, if_pos large, none, List.filter_cons_of_neg (by simpa using large),
        List.filter_nil]
    · rw [leftPackets, if_neg large] at none
      rw [takenPackets, if_neg large, ih none, List.filter_cons_of_pos (by simpa using large)]

variable {before after : Machine v × Client options}

/-- A packet that is handed on is in the buffer when `client_on_raw_recv` is called. -/
theorem handPacket_hands {linkHeaderLen : Nat} {packet : Bytes} {rest : List Bytes}
    {middle : Machine v × Client options}
    (returned : Returns (handPacket route linkHeaderLen packet) before () middle)
    (others : Handed route linkHeaderLen middle rest after) :
    Handed route linkHeaderLen before (packet :: rest) after := by
  obtain ⟨machine, client⟩ := before
  unfold handPacket at returned
  split at returned
  · exact absurd returned Returns.throw_iff
  rename_i whole
  obtain ⟨_, ⟨filled, _⟩, copied, called⟩ := Returns.bind_iff.mp returned
  obtain ⟨copied, rfl⟩ := call_iff.mp copied
  simp only [fillPacketBuf, Returns.bind_iff, Returns.modify_iff, Returns.get_iff, check_iff]
    at copied
  obtain ⟨_, _, rfl, _, _, ⟨rfl, rfl⟩, _, _, ⟨empty, rfl⟩, rfl⟩ := copied
  have header : (packet.take linkHeaderLen).length = linkHeaderLen := by
    rw [List.length_take]
    omega
  rw [← List.take_append_drop linkHeaderLen packet]
  exact .next header (of_decide_eq_true empty) called others

/-- One round of the loop: it ends with an empty queue or an oversized packet, and hands on any
other packet. -/
theorem asyncLoop_succ (linkHeaderLen fuel : Nat) (queue : PacketQueue) :
    (asyncLoop route linkHeaderLen (fuel + 1) queue : ClientProc options PacketQueue) =
      if queue.Empty then pure queue
      else if Oversized options queue.front.packet.length then pure queue.pop
      else handPacket route linkHeaderLen queue.front.packet >>= fun _ =>
        asyncLoop route linkHeaderLen fuel queue.pop := by
  rw [QueueSlot.packet, Scratch.read_length, asyncLoop, PacketQueue.take_eq]
  by_cases empty : queue.Empty
  · rw [if_pos empty, if_pos empty]
    rfl
  · rw [if_neg empty, if_neg empty]
    rfl

/-- An oversized packet at the front ends the loop, with the others still in the queue. -/
theorem asyncLoop_oversized {linkHeaderLen : Nat} {queue : PacketQueue} (fuel : Nat)
    (some : ¬queue.Empty) (large : Oversized options queue.front.packet.length) :
    Returns (asyncLoop route linkHeaderLen (fuel + 1) queue) before queue.pop before := by
  rw [asyncLoop_succ, if_neg some, if_pos large]
  exact Returns.pure_iff.mpr ⟨rfl, rfl⟩

/-- Another packet at the front is handed on before the loop goes on. -/
theorem asyncLoop_short {linkHeaderLen fuel : Nat} {queue final : PacketQueue}
    {middle : Machine v × Client options} (some : ¬queue.Empty)
    (small : ¬Oversized options queue.front.packet.length)
    (handed : Returns (handPacket route linkHeaderLen queue.front.packet) before () middle)
    (others : Returns (asyncLoop route linkHeaderLen fuel queue.pop) middle final after) :
    Returns (asyncLoop route linkHeaderLen (fuel + 1) queue) before final after := by
  rw [asyncLoop_succ, if_neg some, if_neg small]
  exact Returns.bind_iff.mpr ⟨(), middle, handed, others⟩

/-- The loop hands on packets until one is oversized. -/
theorem asyncLoop_returns {linkHeaderLen fuel : Nat} {queue final : PacketQueue}
    (enough : queue.size < fuel)
    (returned : Returns (asyncLoop route linkHeaderLen fuel queue) before final after) :
    final.packets = leftPackets options queue.packets ∧
      Handed route linkHeaderLen before (takenPackets options queue.packets) after := by
  induction fuel generalizing queue final before after with
  | zero => exact absurd enough (Nat.not_lt_zero _)
  | succ fuel ih =>
    rw [asyncLoop_succ] at returned
    by_cases empty : queue.Empty
    · rw [if_pos empty] at returned
      obtain ⟨rfl, rfl⟩ := Returns.pure_iff.mp returned
      rw [queue.packets_empty empty]
      exact ⟨rfl, .done _⟩
    rw [if_neg empty] at returned
    have first : queue.packets = queue.front.packet :: PacketQueue.packets queue.pop := by
      rw [PacketQueue.packets, queue.contents_pop empty]
      rfl
    rw [first, leftPackets, takenPackets]
    by_cases large : Oversized options queue.front.packet.length
    · rw [if_pos large] at returned
      obtain ⟨rfl, rfl⟩ := Returns.pure_iff.mp returned
      rw [if_pos large, if_pos large]
      exact ⟨rfl, .done _⟩
    · rw [if_neg large] at returned
      obtain ⟨_, middle, handed, looped⟩ := Returns.bind_iff.mp returned
      have fewer := queue.size_pop empty
      have shorter : Ring.size queue.pop < fuel := by omega
      obtain ⟨left, others⟩ := ih shorter looped
      rw [if_neg large, if_neg large]
      exact ⟨left, handPacket_hands handed others⟩

/-- The loop ends: it stops the process only where a packet that it hands on does. -/
theorem asyncLoop_stops {linkHeaderLen fuel : Nat} {queue : PacketQueue} {reason : Fault → Prop}
    (enough : queue.size < fuel)
    (hands : ∀ packet state, Stops (handPacket route linkHeaderLen packet : ClientProc options Unit)
      state reason) :
    Stops (asyncLoop route linkHeaderLen fuel queue) before reason := by
  induction fuel generalizing queue before with
  | zero => exact absurd enough (Nat.not_lt_zero _)
  | succ fuel ih =>
    rw [asyncLoop_succ]
    refine .ite (fun _ => .pure _) fun some => .ite (fun _ => .pure _) fun _ => ?_
    have fewer := queue.size_pop some
    have shorter : Ring.size queue.pop < fuel := by omega
    exact .bind (hands _ _) fun _ _ _ => ih shorter

/-- `async_cb` drains the queue exactly if no packet but the last one is oversized. -/
theorem asyncCb_drained_iff {linkHeaderLen : Nat} {queue final : PacketQueue}
    (returned : Returns (asyncCb route linkHeaderLen queue) before final after) :
    Drained route linkHeaderLen queue.packets final.packets before after ↔
      ∀ packet ∈ queue.packets.dropLast, ¬Oversized options packet.length := by
  obtain ⟨left, handed⟩ := asyncLoop_returns queue.size_lt returned
  constructor
  · intro drained
    exact (leftPackets_nil_iff _).mp (left.symm.trans drained.empty)
  · intro short
    have none := (leftPackets_nil_iff _).mpr short
    exact ⟨left.trans none, takenPackets_eq_filter none ▸ handed⟩

/-- Options of a client without `fix_gro`. -/
def ungroClientOptions : Options .ipv4 := { plainClientOptions with fixGro := false }

/-- A client with these options that is idle. -/
def Client.resting : Client ungroClientOptions where
  conn :=
    { state := .idle
      rawInfo := .fresh
      lastStateTime := 0
      lastHbSentTime := 0
      lastHbRecvTime := 0
      myId := 3
      oppsiteId := 0
      timerFd64 := 0
      oppsiteConstId := 0
      blob := none
      myRoller := 0
      oppsiteRoller := 0
      lastOppsiteRollerTime := 0 }
  failTimeCounter := 0

/-- A client that may connect from anywhere. -/
def plainRoute : ClientOptions .ipv4 := ⟨⟨Vector.replicate 4 0, 4096⟩, none, none, 0, false⟩

/-- Two packets that wait, the first one too long. -/
def stuckQueue : PacketQueue :=
  (PacketQueue.start.push (.fill (List.replicate 1801 0))).push (.fill [8, 0, 1])

/-- Three packets that wait, only the last one too long. -/
def mixedQueue : PacketQueue :=
  ((PacketQueue.start.push (.fill [8, 0, 1])).push (.fill [8, 0, 2, 3])).push
    (.fill (List.replicate 1801 0))

/-- A packet of 1801 bytes is too long. -/
theorem oversized_long (slot : QueueSlot) :
    Oversized ungroClientOptions (slot.fill (List.replicate 1801 0)).packet.length := by
  rw [QueueSlot.packet_fill, List.length_replicate]
  decide

/-- Two packets are handed on, the third one is dropped, and the queue is drained. -/
theorem asyncCb_drained_short :
    ∃ final after, Returns (asyncCb plainRoute 2 mixedQueue)
        (.start (.client 7) (fun _ => .plain) 0, Client.resting) final after ∧
      Drained plainRoute 2 mixedQueue.packets final.packets
        (.start (.client 7) (fun _ => .plain) 0, Client.resting) after := by
  obtain ⟨final, after, ran⟩ : ∃ final after, Returns (asyncCb plainRoute 2 mixedQueue)
      (.start (.client 7) (fun _ => .plain) 0, Client.resting) final after :=
    ⟨_, _, asyncLoop_short (by decide) (by decide) rfl (asyncLoop_short (by decide) (by decide) rfl
      (asyncLoop_oversized 197 (by decide) (oversized_long _)))⟩
  have short : ∀ packet ∈ mixedQueue.packets.dropLast,
      ¬Oversized ungroClientOptions packet.length := by decide +kernel
  exact ⟨final, after, ran, (asyncCb_drained_iff ran).mpr short⟩

/-- Behind a packet that is too long a short one is left. -/
theorem asyncCb_stuck :
    ∃ final after, Returns (asyncCb plainRoute 2 stuckQueue)
        (.start (.client 7) (fun _ => .plain) 0, Client.resting) final after ∧
      ¬Drained plainRoute 2 stuckQueue.packets final.packets
        (.start (.client 7) (fun _ => .plain) 0, Client.resting) after := by
  refine ⟨_, _, asyncLoop_oversized 199 (by decide) (oversized_long _), fun drained => ?_⟩
  have left := congrArg List.length drained.empty
  rw [PacketQueue.packets_length] at left
  exact absurd left (by decide)

end Udp2raw
