import Udp2raw.Server.Unauthenticated
import Udp2raw.Connection.EchoNumbers

/-!
# Echo replies match echo requests

In icmp mode the server may only send echo replies, and a translator on the path lets a reply
pass only if it carries the identifier and the sequence number of a request. A run of the
server is therefore followed together with the numbers of the requests that were
authenticated for the session each connection is in: every reply carries such numbers, and
the sequence number of a ready session only moves forward.
-/
namespace Udp2raw

open Proc ServerProc Server

variable {v : IpVersion} {options : Options v} {m m' : Machine v} {s s' : Server options}

/-! ### Handlers that send nothing -/

/-- A connection with the state, the session and the numbers of another one. -/
structure Alike (conn next : ServerConn options) : Prop where
  /-- It is in the same state. -/
  state : next.state = conn.state
  /-- It has the same identifier. -/
  myId : next.myId = conn.myId
  /-- The other end has the same identifier. -/
  oppsiteId : next.oppsiteId = conn.oppsiteId
  /-- What the next packet carries is the same. -/
  sendInfo : next.rawInfo.sendInfo = conn.rawInfo.sendInfo

namespace Alike

/-- Every connection is like itself. -/
theorem refl (conn : ServerConn options) : Alike conn conn := ⟨rfl, rfl, rfl, rfl⟩

/-- Two steps. -/
theorem trans {a b c : ServerConn options} (one : Alike a b) (two : Alike b c) : Alike a c :=
  ⟨two.state.trans one.state, two.myId.trans one.myId, two.oppsiteId.trans one.oppsiteId,
    two.sendInfo.trans one.sendInfo⟩

end Alike

/-- Every connection in use is like the one that was there before. -/
def Continues (before after : Server options) : Prop :=
  ∀ p next, after.heap p = some next → next.state ≠ .idle →
    ∃ conn, before.heap p = some conn ∧ Alike conn next

/-- Nothing was sent, and every connection in use is like the one that was there before. -/
structure Calm (before after : Machine v × Server options) : Prop where
  /-- Nothing was sent. -/
  unsent : Unsent before.1 after.1
  /-- The connections go on. -/
  conns : Continues before.2 after.2

namespace Continues

/-- The same connections go on. -/
theorem of_heap (same : s'.heap = s.heap) : Continues s s' := fun _ next there _ =>
  ⟨next, same ▸ there, .refl _⟩

/-- Two steps. -/
theorem trans {a b c : Server options} (one : Continues a b) (two : Continues b c) :
    Continues a c := by
  intro p next there inUse
  obtain ⟨middle, found, second⟩ := two p next there inUse
  obtain ⟨conn, before, first⟩ := one p middle found (second.state ▸ inUse)
  exact ⟨conn, before, first.trans second⟩

/-- A connection was replaced by one that is like it, or is not used any more. -/
theorem put {p : Ptr} {conn next : ServerConn options} (found : s.heap p = some conn)
    (alike : next.state ≠ .idle → Alike conn next) : Continues s (s.put p next) := by
  intro q other there inUse
  rw [heap_put_apply] at there
  split at there
  · rename_i same
    obtain rfl := Option.some.inj there
    exact ⟨conn, same ▸ found, alike inUse⟩
  · exact ⟨other, there, .refl _⟩

end Continues

namespace Calm

/-- Standing still. -/
theorem refl (state : Machine v × Server options) : Calm state state :=
  ⟨.refl _, .of_heap rfl⟩

/-- Two steps. -/
theorem trans {a b c : Machine v × Server options} (one : Calm a b) (two : Calm b c) : Calm a c :=
  ⟨one.unsent.trans two.unsent, one.conns.trans two.conns⟩

end Calm

section Composition

variable {α β : Type}

/-- A returned value. -/
theorem calm_pure (value : α) : Keeps Calm (pure value : ServerProc options α) :=
  keeps_pure Calm.refl value

/-- A sequence. -/
theorem calm_bind {first : ServerProc options β} {rest : β → ServerProc options α}
    (start : Keeps Calm first) (continue_ : ∀ middle, Keeps Calm (rest middle)) :
    Keeps Calm (first >>= rest) := keeps_bind (fun one two => one.trans two) start continue_

/-- A choice. -/
theorem calm_ite {condition : Prop} [Decidable condition] {yes no : ServerProc options α}
    (whenTrue : Keeps Calm yes) (whenFalse : Keeps Calm no) :
    Keeps Calm (if condition then yes else no) := by
  split
  · exact whenTrue
  · exact whenFalse

/-- A computation that leaves no result. -/
theorem calm_throw (fault : Fault) : Keeps Calm (throw fault : ServerProc options α) :=
  fun _ _ _ returned => absurd returned Returns.throw_iff

/-- A pure function. -/
theorem calm_run (computation : Exec α) : Keeps Calm (run computation : ServerProc options α) :=
  keeps_lift Calm.refl computation

/-- A look at the server. -/
theorem calm_theServer : Keeps Calm (theServer : ServerProc options (Server options)) := by
  intro (m, s) value (m', s') returned
  obtain ⟨-, same⟩ := theServer_iff.mp returned
  exact same ▸ .refl _

/-- A change that leaves the connections alone. -/
theorem calm_update {change : Server options → Server options}
    (kept : ∀ server, (change server).heap = server.heap) :
    Keeps Calm (update change : ServerProc options Unit) := by
  intro (m, s) value (m', s') returned
  obtain ⟨rfl, rfl⟩ := Prod.mk.inj (update_iff.mp returned)
  exact ⟨.refl _, .of_heap (kept s)⟩

/-- A function of the shared layers that sends nothing. -/
theorem calm_call {proc : Proc v α} (unsent : Keeps Unsent proc) :
    Keeps Calm (call proc : ServerProc options α) := by
  intro (m, s) value (m', s') returned
  obtain ⟨ran, rfl⟩ := call_iff.mp returned
  exact ⟨unsent _ _ _ ran, .of_heap rfl⟩

/-- A look at a connection. -/
theorem calm_deref (p : Ptr) : Keeps Calm (deref p : ServerProc options (ServerConn options)) :=
  calm_bind calm_theServer fun _ => calm_run _

/-- A change of the descriptors. -/
theorem calm_onDescriptors (change : Descriptors → Exec (α × Descriptors)) :
    Keeps Calm (onDescriptors change : ServerProc options α) :=
  calm_bind calm_theServer fun _ => calm_bind (calm_run _) fun _ =>
    calm_bind (calm_update fun _ => rfl) fun _ => calm_pure _

end Composition

/-! ### Sockets and messages -/

/-- A new socket. -/
theorem newConnectedUdpFd_calm :
    Keeps Calm (newConnectedUdpFd : ServerProc options (Option Nat)) := by
  refine calm_bind (calm_call ask_unsent) fun answer => calm_bind calm_theServer fun server => ?_
  dsimp only
  split
  · exact calm_bind (calm_update fun _ => rfl) fun _ => calm_pure _
  · exact calm_pure _

/-- A registered descriptor. -/
theorem registerFd_calm (fd : Nat) (p : Ptr) :
    Keeps Calm (registerFd fd p : ServerProc options Nat) :=
  calm_bind (calm_onDescriptors _) fun _ => calm_bind (calm_onDescriptors _) fun _ => calm_pure _

/-- A new timer. -/
theorem setTimerServer_calm (p : Ptr) : Keeps Calm (setTimerServer p : ServerProc options Nat) := by
  refine calm_bind (calm_call ask_unsent) fun answer => calm_bind calm_theServer fun server => ?_
  dsimp only
  split
  · exact calm_throw _
  · exact calm_bind (calm_update fun _ => rfl) fun _ => calm_bind (registerFd_calm _ _) fun _ =>
      calm_bind (calm_call ask_unsent) fun _ => calm_ite (calm_pure _) (calm_throw _)

/-- A note of the time. -/
theorem noteHeartbeat_calm (p : Ptr) : Keeps Calm (noteHeartbeat p : ServerProc options Unit) := by
  intro (m, s) value (m', s') returned
  simp only [noteHeartbeat, Returns.bind_iff, deref_iff, call_iff, store_iff] at returned
  obtain ⟨conn, _, ⟨found, rfl⟩, now, ⟨m1, _⟩, ⟨timed, rfl⟩, returned⟩ := returned
  obtain ⟨rfl, rfl⟩ := Prod.mk.inj returned
  exact ⟨getCurrentTime_unsent _ _ _ timed, .put found fun _ => ⟨rfl, rfl, rfl, rfl⟩⟩

/-- A delivery. -/
theorem deliver_calm (p : Ptr) (frame : Frame) (conv : UInt32) :
    Keeps Calm (deliver p frame conv : ServerProc options Unit) := by
  intro (m, s) value (m', s') returned
  simp only [deliver, Returns.bind_iff, deref_iff, call_iff, run_iff, store_iff] at returned
  obtain ⟨conn, _, ⟨found, rfl⟩, blob, _, ⟨-, rfl⟩, convs, ⟨m1, _⟩, ⟨updated, rfl⟩, _, _, rfl,
    server, _, looked, fd, _, ⟨-, rfl⟩, returned⟩ := returned
  obtain ⟨-, rfl⟩ := theServer_iff.mp looked
  have noted : Calm (m, s) (m1, s.put p (conn.withConvs blob convs)) :=
    ⟨updateActiveTime_unsent _ _ _ _ _ updated, .put found fun _ => ⟨rfl, rfl, rfl, rfl⟩⟩
  have sent : Keeps Calm (sendSocket fd (frame.data.drop 4) conn.myId frame.seq :
      ServerProc options Unit) := by
    refine calm_bind calm_theServer fun server => ?_
    split
    · exact calm_pure _
    · exact calm_call (record_unsent _)
  exact noted.trans (sent _ _ _ returned)

/-- A new conversation with a socket, or a lost socket. -/
theorem openConv_calm (p : Ptr) (conv : UInt32) :
    Keeps Calm (openConv p conv : ServerProc options (Option Int)) := by
  refine calm_bind newConnectedUdpFd_calm fun opened => ?_
  cases opened with
  | none => exact calm_pure _
  | some fd =>
    refine calm_bind calm_theServer fun _ => calm_bind (registerFd_calm fd p) fun fd64 =>
      calm_bind (calm_call ask_unsent) fun _ =>
        calm_ite (calm_bind (calm_update fun _ => rfl) fun _ => calm_pure _) ?_
    intro (m, s) value (m', s') returned
    simp only [Returns.bind_iff, deref_iff, call_iff, run_iff, store_iff, Returns.pure_iff]
      at returned
    obtain ⟨conn, _, ⟨found, rfl⟩, _, _, ⟨-, rfl⟩, convs, ⟨m1, _⟩, ⟨inserted, rfl⟩, _, _, rfl, _,
      ⟨m2, _⟩, ⟨recorded, rfl⟩, -, final⟩ := returned
    obtain ⟨rfl, rfl⟩ := Prod.mk.inj final
    exact ⟨(insertConv_unsent _ _ _ _ _ _ inserted).trans (record_unsent _ _ _ _ recorded),
      .put found fun _ => ⟨rfl, rfl, rfl, rfl⟩⟩

/-- An accepted message is handled without a reply. -/
theorem serverOnRawRecvReady_calm (p : Ptr) (frame : Frame) :
    Keeps Calm (serverOnRawRecvReady p frame : ServerProc options Int) := by
  have ensure (conv : UInt32) : Keeps Calm (ensureConv p conv : ServerProc options (Option Int)) :=
    calm_bind (calm_deref p) fun _ => calm_bind (calm_run _) fun _ =>
      calm_ite (calm_pure _) (calm_ite (calm_pure _) (openConv_calm p conv))
  have note : Keeps Calm (noteData p : ServerProc options Unit) := by
    unfold noteData
    split
    · exact noteHeartbeat_calm p
    · exact calm_pure _
  refine calm_ite (calm_bind (noteHeartbeat_calm p) fun _ => calm_pure _)
    (calm_ite (calm_bind note fun _ => calm_bind (ensure _) fun outcome => ?_) (calm_pure _))
  cases outcome with
  | some ret => exact calm_pure _
  | none => exact calm_bind (deliver_calm p frame _) fun _ => calm_pure _

/-- The messages of one packet are handled without a reply. -/
theorem serverOnFrames_calm (p : Ptr) (frames : List Frame) :
    Keeps Calm (serverOnFrames p frames : ServerProc options Unit) := by
  induction frames with
  | nil => exact calm_pure _
  | cons frame frames ih => exact calm_bind (serverOnRawRecvReady_calm p frame) fun _ => ih

/-! ### The sweep -/

/-- The sweep of the connection table leaves the connections that stay alone. -/
theorem sweep_heap {currentTime count : Nat} {it next : Option (Address v)}
    (swept : sweep currentTime count it s = .ok (next, s')) {p : Ptr} {conn : ServerConn options}
    (left : s'.heap p = some conn) : s.heap p = some conn := by
  induction count generalizing it s with
  | zero =>
    obtain ⟨-, rfl⟩ := Prod.mk.inj (Except.ok.inj swept)
    exact left
  | succ count ih =>
    rw [sweep] at swept
    split at swept
    · obtain ⟨-, rfl⟩ := Prod.mk.inj (Except.ok.inj swept)
      exact left
    simp only [exec_bind_iff] at swept
    obtain ⟨q, -, other, -, swept⟩ := swept
    split at swept
    · exact ih swept
    split at swept
    · simp only [exec_bind_iff] at swept
      obtain ⟨_, -, swept⟩ := swept
      exact ih swept
    · simp only [exec_bind_iff] at swept
      obtain ⟨between, erased, swept⟩ := swept
      exact (erase_iff.mp erased).heap (ih swept)

/-- The sweep sends nothing. -/
theorem clearInactive_calm : Keeps Calm (clearInactive : ServerProc options Unit) := by
  refine calm_bind (calm_call getCurrentTime_unsent) fun now => calm_bind calm_theServer fun _ =>
    calm_ite (calm_pure _) (calm_bind (calm_call getCurrentTime_unsent) fun lastClearTime =>
      calm_bind (calm_call getCurrentTime_unsent) fun currentTime => ?_)
  intro (m, s) value (m', s') returned
  simp only [Returns.bind_iff, theServer_iff, run_iff, update_iff, Server.clearInactive0,
    exec_bind_iff, exec_pure_iff] at returned
  obtain ⟨_, _, ⟨rfl, rfl⟩, _, _, ⟨⟨⟨next, between⟩, swept, rfl⟩, rfl⟩, final⟩ := returned
  obtain ⟨rfl, rfl⟩ := Prod.mk.inj final
  exact ⟨.refl _, fun p conn left _ => ⟨conn, sweep_heap swept left, .refl _⟩⟩

/-! ### One event -/

/-- Two states of a connection in one session: it is in the same state, between the same
identifiers, with the same peer. -/
structure OneSession (conn next : ServerConn options) : Prop where
  /-- It is in the same state. -/
  state : next.state = conn.state
  /-- It has the same identifier. -/
  myId : next.myId = conn.myId
  /-- The other end has the same identifier. -/
  oppsiteId : next.oppsiteId = conn.oppsiteId
  /-- It has the same peer. -/
  destination : next.rawInfo.destination = conn.rawInfo.destination

/-- A connection that is like another one is in its session. -/
theorem Alike.oneSession {conn next : ServerConn options} (alike : Alike conn next) :
    OneSession conn next :=
  ⟨alike.state, alike.myId, alike.oppsiteId, by
    rw [RawInfo.destination, alike.sendInfo, RawInfo.destination]⟩

/-- A connection that is like another one has its numbers. -/
theorem Alike.echoNumbers {conn next : ServerConn options} (alike : Alike conn next) :
    next.rawInfo.echoNumbers = conn.rawInfo.echoNumbers := by
  rw [RawInfo.echoNumbers, alike.sendInfo, RawInfo.echoNumbers]

/-- The data of a handshake was decrypted from one end to the other, in between. -/
def Shook (before after : Machine v) (id1 id2 : UInt32) : Prop :=
  ∃ input message data, Recorded (.decrypted input message) before after ∧
    BareContent message data ∧ 12 ≤ data.length ∧ idAt data 0 = id1 ∧ idAt data 4 = id2

/-- The packet of an event was authenticated for the session that a connection is in afterwards: an
initial handshake from the address of its entry, the second handshake of its session, or a
message that the window of its session accepted. -/
def Authenticated (before after : Machine v × Server options) (p : Ptr)
    (conn : ServerConn options) : Prop :=
  match conn.state with
  | .idle => False
  | .handshake1 =>
    after.2.mp.lookup (after.1.packetBuf.source options.raw) = some p ∧
      ∃ id, Shook before.1 after.1 id 0
  | .ready =>
    Shook before.1 after.1 conn.oppsiteId conn.myId ∨
      ∃ seq, Recorded (.accepted conn.myId conn.oppsiteId seq) before.1 after.1

/-- What an event does with the numbers of a connection in use: they stay with the session, or
become those of a packet that was authenticated for it, and a ready session only takes a later
sequence number. -/
def Renumbered (before after : Machine v × Server options) (p : Ptr)
    (next : ServerConn options) : Prop :=
  (∃ conn, before.2.heap p = some conn ∧ OneSession conn next ∧
    next.rawInfo.echoNumbers = conn.rawInfo.echoNumbers) ∨
  (Authenticated before after p next ∧
    next.rawInfo.echoNumbers = after.1.packetBuf.echoNumbers v ∧
    ∀ conn, before.2.heap p = some conn → conn.state = .ready → OneSession conn next →
      largerThanU16 next.rawInfo.echoNumbers.seq conn.rawInfo.echoNumbers.seq)

/-- What an event does with the numbers of all connections, and what it sends. -/
structure EchoEvent (before after : Machine v × Server options) : Prop where
  /-- The numbers of the connections in use. -/
  conns : ∀ p next, after.2.heap p = some next → next.state ≠ .idle →
    Renumbered before after p next
  /-- Every packet is one of a connection in use. -/
  wire : ∃ packets, after.1.wire = before.1.wire ++ packets ∧ ∀ packet ∈ packets,
    ∃ p conn, after.2.heap p = some conn ∧ conn.state ≠ .idle ∧ conn.rawInfo.Sends packet

/-- What goes on keeps its numbers. -/
theorem Continues.renumbered {before after : Machine v × Server options}
    (continues : Continues before.2 after.2) {p : Ptr} {next : ServerConn options}
    (there : after.2.heap p = some next) (inUse : next.state ≠ .idle) :
    Renumbered before after p next := by
  obtain ⟨conn, found, alike⟩ := continues p next there inUse
  exact .inl ⟨conn, found, alike.oneSession, alike.echoNumbers⟩

/-- A quiet event. -/
theorem Calm.echoEvent {before after : Machine v × Server options} (calm : Calm before after) :
    EchoEvent before after where
  conns := fun _ _ there inUse => calm.conns.renumbered there inUse
  wire := ⟨[], by rw [calm.unsent.wire, List.append_nil], nofun⟩

/-- An event in which one connection sends. -/
theorem EchoEvent.of_sent {p : Ptr} {conn : ServerConn options} {raw : RawInfo options.raw}
    (conns : ∀ p next, s'.heap p = some next → next.state ≠ .idle →
      Renumbered (m, s) (m', s') p next)
    (sent : SentBy raw m m') (found : s'.heap p = some conn) (inUse : conn.state ≠ .idle)
    (same : conn.rawInfo.sendInfo = raw.sendInfo) : EchoEvent (m, s) (m', s') := by
  obtain ⟨packets, wire, sends⟩ := (sent.of_sendInfo same.symm).wire
  exact ⟨conns, packets, wire, fun packet inside => ⟨p, conn, found, inUse, sends packet inside⟩⟩

/-! ### Timers and datagrams -/

section Icmp

variable (mode : options.raw.rawMode = .icmp) (role : options.raw.programMode = .server)

include mode role

/-- A connection's timer may send a heartbeat of that connection. -/
theorem serverOnTimerMulti_echo {p : Ptr} {value : Unit}
    (returned : Returns (serverOnTimerMulti p) (m, s) value (m', s')) :
    EchoEvent (m, s) (m', s') := by
  simp only [serverOnTimerMulti, Returns.bind_iff, deref_iff, call_iff, check_iff, run_iff,
    theServer_iff, update_iff, store_iff, decide_eq_true_eq] at returned
  obtain ⟨conn, _, ⟨found, rfl⟩, _, ⟨_, _⟩, ⟨⟨ready, rfl⟩, rfl⟩, blob, _, ⟨-, rfl⟩, _, _,
    ⟨rfl, rfl⟩, ⟨convs, descriptors⟩, ⟨m1, _⟩, ⟨cleared, rfl⟩, _, _, rfl, _, _, rfl, now,
    ⟨m2, _⟩, ⟨timed, rfl⟩, returned⟩ := returned
  have quiet := (clearInactive_unsent _ _ _ _ _ _ cleared).trans (getCurrentTime_unsent _ _ _ timed)
  have swept : Continues s ((s.withDescriptors descriptors).put p (conn.withConvs blob convs)) :=
    Continues.trans (.of_heap rfl) (.put found fun _ => ⟨rfl, rfl, rfl, rfl⟩)
  split at returned
  · obtain ⟨-, same⟩ := Returns.pure_iff.mp returned
    obtain ⟨rfl, rfl⟩ := Prod.mk.inj same
    exact Calm.echoEvent ⟨quiet, swept⟩
  · simp only [Returns.bind_iff, call_iff, store_iff] at returned
    obtain ⟨next, ⟨m3, _⟩, ⟨three, rfl⟩, time, ⟨m4, _⟩, ⟨four, rfl⟩, final⟩ := returned
    obtain ⟨rfl, rfl⟩ := Prod.mk.inj final
    obtain ⟨raw, sent⟩ := sendHeartbeat_icmp mode role three
    obtain ⟨_, _, _, _, kept, -, -⟩ := sendHeartbeat_ran three
    have alike : Alike (conn.withConvs blob convs) { next with lastHbSentTime := time } :=
      ⟨kept.state, kept.myId, kept.oppsiteId, by rw [raw]⟩
    have whole := swept.trans (.put heap_put fun _ => alike)
    have used : next.state ≠ .idle := by
      rw [kept.state]
      show conn.state ≠ .idle
      rw [ready]
      simp
    exact .of_sent (fun _ _ there inUse => whole.renumbered there inUse)
      ((sent.after quiet).unsent (getCurrentTime_unsent _ _ _ four)) heap_put used
      (congrArg RawInfo.sendInfo raw)

/-- A datagram of a conversation's socket may be sent to the client of its connection. -/
theorem serverOnUdpRecv_echo {p : Ptr} {fd64 : Nat} {received : Option Bytes} {value : Unit}
    (returned : Returns (serverOnUdpRecv p fd64 received) (m, s) value (m', s')) :
    EchoEvent (m, s) (m', s') := by
  simp only [serverOnUdpRecv, Returns.bind_iff, deref_iff] at returned
  obtain ⟨conn, _, ⟨found, rfl⟩, returned⟩ := returned
  split at returned
  · exact absurd returned Returns.throw_iff
  rename_i ready
  rw [ne_eq, not_not] at ready
  simp only [Returns.bind_iff, run_iff, call_iff, check_iff, theServer_iff] at returned
  obtain ⟨blob, _, ⟨-, rfl⟩, _, ⟨_, _⟩, ⟨⟨-, rfl⟩, rfl⟩, _, _, ⟨rfl, rfl⟩, fd, _, ⟨-, rfl⟩,
    returned⟩ := returned
  split at returned
  · rename_i socket bytes opened
    split at returned
    · obtain ⟨-, same⟩ := Returns.pure_iff.mp returned
      obtain ⟨rfl, rfl⟩ := Prod.mk.inj same
      exact (Calm.refl _).echoEvent
    · simp only [Returns.bind_iff, call_iff, store_iff] at returned
      obtain ⟨_, ⟨m1, _⟩, ⟨one, rfl⟩, next, ⟨m2, _⟩, ⟨two, rfl⟩, final⟩ := returned
      obtain ⟨rfl, rfl⟩ := Prod.mk.inj final
      obtain ⟨raw, sent⟩ := sendDataSafer_icmp mode role two
      obtain ⟨_, _, _, kept, -, -⟩ := sendDataSafer_ran two
      have alike : Alike conn next := ⟨kept.state, kept.myId, kept.oppsiteId, by rw [raw]⟩
      have whole : Continues s (s.put p next) := .put found fun _ => alike
      have used : next.state ≠ .idle := by
        rw [alike.state, ready]
        simp
      exact .of_sent (fun _ _ there inUse => whole.renumbered there inUse)
        (sent.after (record_unsent _ _ _ _ one)) heap_put used (congrArg RawInfo.sendInfo raw)
  · obtain ⟨-, same⟩ := Returns.pure_iff.mp returned
    obtain ⟨rfl, rfl⟩ := Prod.mk.inj same
    exact (Calm.refl _).echoEvent

end Icmp

/-! ### Handshakes -/

/-- A connection became ready in the session of a waiting one: it sends as that one would, and
everything that was sent is its. -/
structure Opens (conn : ServerConn options) (q : Ptr) (next : ServerConn options)
    (before after : Machine v × Server options) : Prop where
  /-- It is in memory. -/
  found : after.2.heap q = some next
  /-- It is ready. -/
  state : next.state = .ready
  /-- It has the identifier of the waiting one. -/
  myId : next.myId = conn.myId
  /-- The other end has the identifier of the waiting one. -/
  oppsiteId : next.oppsiteId = conn.oppsiteId
  /-- What the next packet carries is the same. -/
  sendInfo : next.rawInfo.sendInfo = conn.rawInfo.sendInfo
  /-- Everything that was sent is its. -/
  sent : SentBy conn.rawInfo before.1 after.1

/-- The connections in use, but for some, were there before and are not the one that waited. -/
def LeftAlone (p : Ptr) (except : Ptr → Prop) (before after : Server options) : Prop :=
  ∀ r other, ¬except r → after.heap r = some other → other.state ≠ .idle →
    r ≠ p ∧ before.heap r = some other

/-- The second handshake of a waiting connection: the connection is refused and not used any more,
or one becomes ready in its session. -/
inductive Resolves (p : Ptr) (conn : ServerConn options)
    (before after : Machine v × Server options) : Prop
  /-- It is not used any more. -/
  | refused : Unsent before.1 after.1 → LeftAlone p (fun _ => False) before.2 after.2 →
      Resolves p conn before after
  /-- A connection became ready. -/
  | opened {q : Ptr} {next : ServerConn options} : Opens conn q next before after →
      LeftAlone p (· = q) before.2 after.2 → Resolves p conn before after

/-- A waiting connection that is not used any more. -/
theorem leftAlone_put {p : Ptr} {next : ServerConn options} (idle : next.state = .idle) :
    LeftAlone p (fun _ => False) s (s.put p next) := by
  intro r other _ there inUse
  rw [heap_put_apply] at there
  split at there
  · obtain rfl := Option.some.inj there
    exact absurd idle inUse
  · rename_i different
    exact ⟨different, there⟩

section Icmp

variable (mode : options.raw.rawMode = .icmp) (role : options.raw.programMode = .server)

include mode role

/-- A promotion makes the waiting connection ready. -/
theorem promote_echo {p : Ptr} {constId : UInt32} {conn : ServerConn options} {value : Unit}
    (found : s.heap p = some conn)
    (returned : Returns (promote p constId) (m, s) value (m', s')) :
    Resolves p conn (m, s) (m', s') := by
  simp only [promote, Returns.bind_iff, deref_iff, call_iff, update_iff, run_iff, store_iff]
    at returned
  obtain ⟨_, _, ⟨same, rfl⟩, prepared, ⟨m1, _⟩, ⟨one, rfl⟩, _, _, rfl, _, ⟨m2, _⟩, ⟨two, rfl⟩, now,
    ⟨m3, _⟩, ⟨three, rfl⟩, sent, ⟨m4, _⟩, ⟨four, rfl⟩, blob, _, ⟨-, rfl⟩, timer, ⟨m5, s5⟩, five,
    returned⟩ := returned
  obtain rfl := Option.some.inj (found.symm.trans same)
  obtain ⟨rfl, rfl⟩ := Prod.mk.inj returned
  obtain ⟨-, -, contents, rfl, -⟩ := prepare_ran one
  obtain ⟨raw, packets⟩ := sendHeartbeat_icmp mode role four
  obtain ⟨_, _, _, _, kept, -, -⟩ := sendHeartbeat_ran four
  have early := ((prepare_unsent _ _ _ _ one).trans (record_unsent _ _ _ _ two)).trans
    (getCurrentTime_unsent _ _ _ three)
  obtain ⟨-, -, fd, -, rfl⟩ := setTimerServer_ran five
  have late := (setTimerServer_calm p _ _ _ five).unsent
  refine .opened ⟨heap_put, kept.state, kept.myId, kept.oppsiteId, congrArg RawInfo.sendInfo raw,
    (packets.after early).unsent late⟩ fun r other different there _ => ?_
  rw [heap_put_apply, if_neg different] at there
  exact ⟨different, there⟩

/-- A recovery moves the ready connection, or is refused. -/
theorem grab_echo {p q : Ptr} {constId : UInt32} {conn : ServerConn options} {value : Unit}
    (found : s.heap p = some conn) (waiting : conn.state = .handshake1)
    (returned : Returns (grab p q constId) (m, s) value (m', s')) :
    Resolves p conn (m, s) (m', s') := by
  simp only [grab, Returns.bind_iff, deref_iff] at returned
  obtain ⟨_, _, ⟨same, rfl⟩, ori, _, ⟨other, rfl⟩, returned⟩ := returned
  obtain rfl := Option.some.inj (found.symm.trans same)
  split at returned
  · exact absurd returned Returns.throw_iff
  rename_i ready
  rw [ne_eq, not_not] at ready
  split at returned
  · rw [store_iff] at returned
    obtain ⟨rfl, rfl⟩ := Prod.mk.inj returned
    exact .refused (.refl _) (leftAlone_put rfl)
  simp only [Returns.bind_iff, theServer_iff] at returned
  obtain ⟨_, _, ⟨rfl, rfl⟩, returned⟩ := returned
  split at returned
  · exact absurd returned Returns.throw_iff
  split at returned
  · exact absurd returned Returns.throw_iff
  simp only [Returns.bind_iff, call_iff, run_iff, update_iff, store_iff] at returned
  obtain ⟨pOri, _, ⟨-, rfl⟩, pNew, _, ⟨-, rfl⟩, _, _, rfl, recovered, _, ⟨ran, rfl⟩, _, ⟨m1, _⟩,
    ⟨one, rfl⟩, sent, ⟨m2, _⟩, ⟨two, rfl⟩, now, ⟨m3, _⟩, ⟨three, rfl⟩, _, _, rfl, returned⟩ :=
    returned
  obtain ⟨rfl, rfl⟩ := Prod.mk.inj returned
  have different : q ≠ p := by
    rintro rfl
    obtain rfl := Option.some.inj (found.symm.trans other)
    rw [waiting] at ready
    contradiction
  obtain ⟨blob, -, state, -, -, myId, oppsiteId, -⟩ := recover_ok ran
  have taken : recovered.rawInfo.sendInfo = conn.rawInfo.sendInfo := by
    simp only [ConnInfo.recover, exec_bind_iff, exec_pure_iff] at ran
    obtain ⟨_, -, rfl⟩ := ran
    rfl
  obtain ⟨raw, packets⟩ := sendHeartbeat_icmp mode role two
  obtain ⟨_, _, _, _, kept, -, -⟩ := sendHeartbeat_ran two
  have sends := ((packets.of_sendInfo taken).after (record_unsent _ _ _ _ one)).unsent
    (getCurrentTime_unsent _ _ _ three)
  refine .opened (?_ : Opens conn q { sent with lastHbRecvTime := now } _ _)
    fun r next elsewhere there inUse => ?_
  · refine ⟨?_, (kept.state.trans state).trans ready, kept.myId.trans myId,
      kept.oppsiteId.trans oppsiteId, (congrArg RawInfo.sendInfo raw).trans taken, sends⟩
    show (Server.put _ p _).heap q = _
    rw [heap_put_apply, if_neg different]
    exact heap_put
  · rw [heap_put_apply] at there
    split at there
    · obtain rfl := Option.some.inj there
      exact absurd rfl inUse
    · rename_i apart
      rw [heap_put_apply, if_neg elsewhere] at there
      exact ⟨apart, there⟩

/-- The preparation of a ready connection refuses it or makes one ready. -/
theorem serverOnRawRecvPreReady_echo {p : Ptr} {constId : UInt32} {conn : ServerConn options}
    {value : Unit} (found : s.heap p = some conn) (waiting : conn.state = .handshake1)
    (returned : Returns (serverOnRawRecvPreReady p constId) (m, s) value (m', s')) :
    Resolves p conn (m, s) (m', s') := by
  simp only [serverOnRawRecvPreReady, Returns.bind_iff, theServer_iff] at returned
  obtain ⟨_, _, ⟨rfl, rfl⟩, returned⟩ := returned
  split at returned
  · split at returned
    · simp only [Returns.bind_iff, deref_iff, store_iff] at returned
      obtain ⟨_, _, ⟨same, rfl⟩, returned⟩ := returned
      obtain rfl := Option.some.inj (found.symm.trans same)
      obtain ⟨rfl, rfl⟩ := Prod.mk.inj returned
      exact .refused (.refl _) (leftAlone_put rfl)
    · exact promote_echo mode role found returned
  · exact grab_echo mode role found waiting returned

end Icmp

end Udp2raw
