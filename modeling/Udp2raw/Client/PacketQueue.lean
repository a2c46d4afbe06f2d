import Udp2raw.Data.RingQueue
import Udp2raw.Process

/-!
# The capture queue

In the multi-platform build a capture thread puts packets into `my_queue` and the event loop takes
them out, each step under a mutex. The queue behaves like a list of bounded length, and the slot
of the packet that was taken last keeps it until the next one is taken.
-/
namespace Udp2raw

/-- `huge_buf_len`. -/
def hugeBufLen : Nat := hugeDataLen + 100
/-- `queue_len`. -/
def queueLen : Nat := 200

/-- A slot of `queue_t`: a part of `data` and of `data_len`. -/
structure QueueSlot where
  /-- Its buffer, of `huge_buf_len` bytes. -/
  data : Scratch
  /-- The length of its packet. -/
  dataLen : Nat

/-- The packet in a slot. -/
def QueueSlot.packet (slot : QueueSlot) : Bytes := slot.data.read 0 slot.dataLen

/-- A packet is copied into a slot. -/
def QueueSlot.fill (packet : Bytes) (slot : QueueSlot) : QueueSlot :=
  ⟨slot.data.write packet, packet.length⟩

/-- The packet of a slot is the one that was copied into it. -/
@[simp] theorem QueueSlot.packet_fill (packet : Bytes) (slot : QueueSlot) :
    (slot.fill packet).packet = packet := by
  rw [QueueSlot.packet, QueueSlot.fill, Scratch.read_write slot.data (Nat.le_refl _),
    List.take_length]

/-- `queue_t`. -/
abbrev PacketQueue := Ring queueLen QueueSlot

namespace PacketQueue

/-- `peek_front`: the place of the packet and its length. -/
def peekFront (queue : PacketQueue) : Exec (Fin queueLen × Nat) := do
  assert (¬queue.Empty) "!empty()"
  return (queue.head, queue.front.dataLen)

/-- `pop_front`. -/
def popFront (queue : PacketQueue) : Exec PacketQueue := do
  assert (¬queue.Empty) "!empty()"
  return queue.pop

/-- `push_back`. -/
def pushBack (queue : PacketQueue) (packet : Bytes) : Exec PacketQueue := do
  assert (¬queue.Full) "!full()"
  if hugeBufLen < packet.length then throw (.undefined "data[tail]")
  else return queue.push (.fill packet)

/-- What the capture thread does under the mutex. -/
def offer (queue : PacketQueue) (packet : Bytes) : Exec PacketQueue :=
  if queue.Full then .ok queue else queue.pushBack packet

/-- What the event loop does under the mutex: the place and the length of the packet that it takes,
if there is one. -/
def take (queue : PacketQueue) : Exec (PacketQueue × Option (Fin queueLen × Nat)) :=
  if queue.Empty then .ok (queue, none)
  else do
    let front ← queue.peekFront
    let queue ← queue.popFront
    return (queue, some front)

/-- The packets that wait. -/
def packets (queue : PacketQueue) : List Bytes := queue.contents.map QueueSlot.packet

/-- The packet that the consumer reads at a place, for the length it was told. -/
def packetAt (queue : PacketQueue) (taken : Fin queueLen × Nat) : Bytes :=
  (queue.slots taken.1).data.read 0 taken.2

/-- An offer to a queue with room appends the packet, one to a full queue is dropped. -/
theorem offer_eq (queue : PacketQueue) {packet : Bytes} (short : packet.length ≤ hugeDataLen) :
    queue.offer packet =
      .ok (if queue.Full then queue else queue.push (.fill packet)) := by
  have fits : ¬hugeBufLen < packet.length := by
    unfold hugeBufLen
    omega
  unfold offer
  split
  · rfl
  · rename_i room
    simp [pushBack, assert, room, fits, bind, Except.bind, pure, Except.pure]

/-- Taking from a queue with packets gives the first one, and nothing otherwise. -/
theorem take_eq (queue : PacketQueue) :
    queue.take = .ok (if queue.Empty then (queue, none)
      else (queue.pop, some (queue.head, queue.front.dataLen))) := by
  unfold take
  split
  · rfl
  · rename_i some
    simp [peekFront, popFront, assert, some, bind, Except.bind, pure, Except.pure]

/-- The number of packets that wait. -/
theorem packets_length (queue : PacketQueue) : queue.packets.length = queue.size := by
  rw [packets, List.length_map, Ring.contents_length]

/-- No packet waits in an empty queue. -/
theorem packets_empty (queue : PacketQueue) (empty : queue.Empty) : queue.packets = [] := by
  rw [packets, List.map_eq_nil_iff, ← List.length_eq_zero_iff, Ring.contents_length]
  exact queue.empty_iff.mp empty

end PacketQueue

/-- A step of one of the two threads. -/
inductive QueueOp where
  /-- The capture thread offers a packet. -/
  | offer (packet : Bytes)
  /-- The event loop takes a packet. -/
  | take
  deriving DecidableEq

/-- The queue between two steps, with the packets taken so far and where the last one was. -/
structure QueueRun where
  /-- The queue. -/
  queue : PacketQueue
  /-- The packets that were taken, as they were then. -/
  taken : List Bytes
  /-- The place and the length of the last one. -/
  last : Option (Fin queueLen × Nat)

/-- One step. -/
def QueueRun.step (run : QueueRun) : QueueOp → Exec QueueRun
  | .offer packet => do return { run with queue := ← run.queue.offer packet }
  | .take => do
    match ← run.queue.take with
    | (queue, none) => return { run with queue }
    | (queue, some front) =>
      return { queue, taken := run.taken ++ [queue.packetAt front], last := some front }

/-- The steps of the two threads, in the order in which they got the mutex. -/
def QueueRun.steps (run : QueueRun) : List QueueOp → Exec QueueRun
  | [] => .ok run
  | op :: ops => do (← run.step op).steps ops

/-- A queue of bounded length. -/
structure Fifo where
  /-- The packets that found room, in the order of their arrival. -/
  accepted : List Bytes
  /-- Those that were taken. -/
  taken : List Bytes
  /-- Those that wait. -/
  waiting : List Bytes

/-- One step. -/
def Fifo.step (fifo : Fifo) : QueueOp → Fifo
  | .offer packet =>
    if fifo.waiting.length < queueLen - 1 then
      { fifo with accepted := fifo.accepted ++ [packet], waiting := fifo.waiting ++ [packet] }
    else fifo
  | .take =>
    match fifo.waiting with
    | [] => fifo
    | packet :: waiting => { fifo with taken := fifo.taken ++ [packet], waiting }

/-- Any number of steps. -/
def Fifo.steps (fifo : Fifo) (ops : List QueueOp) : Fifo := ops.foldl Fifo.step fifo

/-- The queue stands for a bounded list, and the slot of the last packet still has it. -/
structure QueueRun.Refines (run : QueueRun) (fifo : Fifo) : Prop where
  /-- The same packets wait. -/
  waiting : run.queue.packets = fifo.waiting
  /-- The same packets were taken. -/
  taken : run.taken = fifo.taken
  /-- Nothing is lost, repeated or exchanged. -/
  order : fifo.taken ++ fifo.waiting = fifo.accepted
  /-- The last packet is in the slot before the head, -/
  before : ∀ last ∈ run.last, Ring.advance last.1 = run.queue.head
  /-- and is still what was taken. -/
  stable : ∀ last ∈ run.last, run.taken.getLast? = some (run.queue.packetAt last)

namespace QueueRun.Refines

variable {run : QueueRun} {fifo : Fifo}

/-- A queue that is refined has room exactly when the list is shorter than its bound. -/
theorem full_iff (refines : run.Refines fifo) :
    run.queue.Full ↔ ¬fifo.waiting.length < queueLen - 1 := by
  have room := run.queue.size_lt
  rw [Ring.full_iff, ← refines.waiting, PacketQueue.packets_length]
  unfold queueLen at *
  omega

/-- A step of a thread keeps the refinement, and fails no assertion. -/
theorem step (refines : run.Refines fifo) (op : QueueOp)
    (short : ∀ packet, op = .offer packet → packet.length ≤ hugeDataLen) :
    ∃ next, run.step op = .ok next ∧ next.Refines (fifo.step op) := by
  cases op with
  | offer packet =>
    by_cases full : run.queue.Full
    · refine ⟨run, ?_, ?_⟩
      · simp only [QueueRun.step, PacketQueue.offer_eq _ (short packet rfl), if_pos full]
        rfl
      · rw [Fifo.step, if_neg (refines.full_iff.mp full)]
        exact refines
    · refine ⟨{ run with queue := run.queue.push (.fill packet) }, ?_, ?_⟩
      · simp only [QueueRun.step, PacketQueue.offer_eq _ (short packet rfl), if_neg full]
        rfl
      · rw [Fifo.step, if_pos (not_not.mp fun wrong => full (refines.full_iff.mpr wrong))]
        refine ⟨?_, refines.taken, ?_, refines.before, fun last inside => ?_⟩
        · simp only [PacketQueue.packets, run.queue.contents_push _ full, List.map_append,
            List.map_cons, List.map_nil, QueueSlot.packet_fill]
          rw [← refines.waiting]
          rfl
        · rw [← List.append_assoc, refines.order]
        · rw [PacketQueue.packetAt, run.queue.push_before (refines.before last inside) full]
          exact refines.stable last inside
  | take =>
    by_cases empty : run.queue.Empty
    · refine ⟨run, ?_, ?_⟩
      · simp only [QueueRun.step, PacketQueue.take_eq, if_pos empty]
        rfl
      · have none : fifo.waiting = [] := by
          rw [← refines.waiting, PacketQueue.packets_empty _ empty]
        simp only [Fifo.step, none]
        exact refines
    · refine ⟨⟨run.queue.pop, run.taken ++ [run.queue.front.packet],
        some (run.queue.head, run.queue.front.dataLen)⟩, ?_, ?_⟩
      · simp only [QueueRun.step, PacketQueue.take_eq, if_neg empty]
        rfl
      · have first : fifo.waiting = run.queue.front.packet ::
            PacketQueue.packets run.queue.pop := by
          rw [← refines.waiting, PacketQueue.packets, run.queue.contents_pop empty]
          rfl
        simp only [Fifo.step, first]
        refine ⟨rfl, ?_, ?_, ?_, ?_⟩
        · rw [refines.taken]
        · rw [List.append_assoc, List.singleton_append, ← first, refines.order]
        · rintro last inside
          obtain rfl := Option.mem_some_iff.mp inside
          rfl
        · rintro last inside
          obtain rfl := Option.mem_some_iff.mp inside
          rw [List.getLast?_append]
          rfl

end QueueRun.Refines

/-- Any number of steps keeps the refinement. -/
theorem QueueRun.Refines.steps {run : QueueRun} {fifo : Fifo} (refines : run.Refines fifo)
    (ops : List QueueOp)
    (short : ∀ packet, QueueOp.offer packet ∈ ops → packet.length ≤ hugeDataLen) :
    ∃ final, run.steps ops = .ok final ∧ final.Refines (fifo.steps ops) := by
  induction ops generalizing run fifo with
  | nil => exact ⟨run, rfl, refines⟩
  | cons op ops ih =>
    obtain ⟨next, stepped, kept⟩ := refines.step op fun packet same =>
      short packet (same ▸ List.mem_cons_self)
    obtain ⟨final, rest, refined⟩ := ih kept fun packet inside =>
      short packet (List.mem_cons_of_mem _ inside)
    refine ⟨final, ?_, refined⟩
    rw [QueueRun.steps, stepped]
    exact rest

/-- A queue that starts empty behaves like a bounded list in every interleaving of the two threads,
no assertion fails, and the slot of the packet that was taken last keeps it until the next one is
taken. -/
theorem QueueRun.steps_refines (queue : PacketQueue) (empty : queue.Empty) (ops : List QueueOp)
    (short : ∀ packet, QueueOp.offer packet ∈ ops → packet.length ≤ hugeDataLen) :
    ∃ run, QueueRun.steps ⟨queue, [], none⟩ ops = .ok run ∧
      run.Refines (Fifo.steps ⟨[], [], []⟩ ops) ∧ run.queue.packets.length ≤ queueLen - 1 := by
  have start : QueueRun.Refines ⟨queue, [], none⟩ ⟨[], [], []⟩ :=
    ⟨queue.packets_empty empty, rfl, rfl, nofun, nofun⟩
  obtain ⟨run, ran, refines⟩ := start.steps ops short
  refine ⟨run, ran, refines, ?_⟩
  have room := run.queue.size_lt
  rw [PacketQueue.packets_length]
  omega

/-- The static queue of a process that starts. -/
def PacketQueue.start : PacketQueue := ⟨fun _ => ⟨fun _ => 0, 0⟩, ⟨0, by decide⟩, ⟨0, by decide⟩⟩

/-- Two packets are offered, one is taken, and a third one is offered. -/
theorem QueueRun.steps_refines_three :
    ∃ run, QueueRun.steps ⟨.start, [], none⟩ [.offer [1], .offer [2, 3], .take, .offer [4]] =
        .ok run ∧
      run.Refines (Fifo.steps ⟨[], [], []⟩ [.offer [1], .offer [2, 3], .take, .offer [4]]) ∧
      run.queue.packets.length ≤ queueLen - 1 :=
  QueueRun.steps_refines .start rfl [.offer [1], .offer [2, 3], .take, .offer [4]]
    (by simp [hugeDataLen])

end Udp2raw
