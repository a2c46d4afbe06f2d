import Udp2raw.Server.Faults

/-!
# Arrivals

The server takes an entry for a new address only while it handles an initial handshake that was
captured from there. Every other function of the server leaves the connections that are
allocated at their number.
-/
namespace Udp2raw

open Proc ServerProc Server

variable {v : IpVersion} {options : Options v} {m m' : Machine v} {s s' : Server options}

/-- The packet that the server captures in an event. -/
def EpollEvent.captured (event : EpollEvent) (standing : Standing) : Option Capture :=
  if event.data = standing.rawRecvFd then event.capture else none

/-- No connection was allocated. -/
def Unallocated (before after : Machine v × Server options) : Prop :=
  after.2.allocated = before.2.allocated

namespace Unallocated

/-- Standing still. -/
theorem refl (state : Machine v × Server options) : Unallocated state state := Eq.refl _

/-- Two steps. -/
theorem trans {a b c : Machine v × Server options} (one : Unallocated a b) (two : Unallocated b c) :
    Unallocated a c := Eq.trans two one

end Unallocated

section Composition

variable {α β : Type}

/-- A returned value. -/
theorem unallocated_pure (value : α) : Keeps Unallocated (pure value : ServerProc options α) :=
  keeps_pure Unallocated.refl value

/-- A sequence. -/
theorem unallocated_bind {first : ServerProc options β} {rest : β → ServerProc options α}
    (start : Keeps Unallocated first) (continue_ : ∀ middle, Keeps Unallocated (rest middle)) :
    Keeps Unallocated (first >>= rest) :=
  keeps_bind (fun one two => one.trans two) start continue_

/-- A choice. -/
theorem unallocated_ite {condition : Prop} [Decidable condition] {yes no : ServerProc options α}
    (whenTrue : Keeps Unallocated yes) (whenFalse : Keeps Unallocated no) :
    Keeps Unallocated (if condition then yes else no) := by
  split
  · exact whenTrue
  · exact whenFalse

/-- A program that stops. -/
theorem unallocated_throw (fault : Fault) :
    Keeps Unallocated (throw fault : ServerProc options α) :=
  fun _ _ _ returned => absurd returned Returns.throw_iff

/-- A pure function. -/
theorem unallocated_run (computation : Exec α) :
    Keeps Unallocated (run computation : ServerProc options α) :=
  keeps_lift Unallocated.refl computation

/-- A look at the server. -/
theorem unallocated_theServer :
    Keeps Unallocated (theServer : ServerProc options (Server options)) := by
  intro (m, s) value (m', s') returned
  obtain ⟨-, same⟩ := theServer_iff.mp returned
  obtain ⟨rfl, rfl⟩ := Prod.mk.inj same
  rfl

/-- A change that allocates nothing. -/
theorem unallocated_update {change : Server options → Server options}
    (kept : ∀ server, (change server).allocated = server.allocated) :
    Keeps Unallocated (update change : ServerProc options Unit) := by
  intro (m, s) value (m', s') returned
  obtain ⟨rfl, rfl⟩ := Prod.mk.inj (update_iff.mp returned)
  exact kept s

/-- A function of the shared layers. -/
theorem unallocated_call (proc : Proc v α) :
    Keeps Unallocated (call proc : ServerProc options α) := by
  intro (m, s) value (m', s') returned
  obtain ⟨-, rfl⟩ := call_iff.mp returned
  rfl

/-- A look at a connection. -/
theorem unallocated_deref (p : Ptr) :
    Keeps Unallocated (deref p : ServerProc options (ServerConn options)) :=
  unallocated_bind unallocated_theServer fun _ => unallocated_run _

/-- A stored connection. -/
theorem unallocated_store (p : Ptr) (conn : ServerConn options) :
    Keeps Unallocated (store p conn : ServerProc options Unit) := unallocated_update fun _ => rfl

/-- A change of the descriptors. -/
theorem unallocated_onDescriptors (change : Descriptors → Exec (α × Descriptors)) :
    Keeps Unallocated (onDescriptors change : ServerProc options α) :=
  unallocated_bind unallocated_theServer fun _ => unallocated_bind (unallocated_run _) fun _ =>
    unallocated_bind (unallocated_update fun _ => rfl) fun _ => unallocated_pure _

end Composition

/-! ### The handlers of a connection -/

/-- A new socket. -/
theorem newConnectedUdpFd_unallocated :
    Keeps Unallocated (newConnectedUdpFd : ServerProc options (Option Nat)) := by
  refine unallocated_bind (unallocated_call _) fun answer =>
    unallocated_bind unallocated_theServer fun server => ?_
  dsimp only
  split
  · exact unallocated_bind (unallocated_update fun _ => rfl) fun _ => unallocated_pure _
  · exact unallocated_pure _

/-- A registered descriptor. -/
theorem registerFd_unallocated (fd : Nat) (p : Ptr) :
    Keeps Unallocated (registerFd fd p : ServerProc options Nat) :=
  unallocated_bind (unallocated_onDescriptors _) fun _ =>
    unallocated_bind (unallocated_onDescriptors _) fun _ => unallocated_pure _

/-- A new timer. -/
theorem setTimerServer_unallocated (p : Ptr) :
    Keeps Unallocated (setTimerServer p : ServerProc options Nat) := by
  refine unallocated_bind (unallocated_call _) fun answer =>
    unallocated_bind unallocated_theServer fun server => ?_
  dsimp only
  split
  · exact unallocated_throw _
  · exact unallocated_bind (unallocated_update fun _ => rfl) fun _ =>
      unallocated_bind (registerFd_unallocated _ _) fun _ =>
        unallocated_bind (unallocated_call _) fun _ =>
          unallocated_ite (unallocated_pure _) (unallocated_throw _)

/-- An entry becomes ready. -/
theorem promote_unallocated (p : Ptr) (constId : UInt32) :
    Keeps Unallocated (promote p constId : ServerProc options Unit) :=
  unallocated_bind (unallocated_deref p) fun _ => unallocated_bind (unallocated_call _) fun _ =>
    unallocated_bind (unallocated_update fun _ => rfl) fun _ =>
      unallocated_bind (unallocated_call _) fun _ => unallocated_bind (unallocated_call _) fun _ =>
        unallocated_bind (unallocated_call _) fun _ => unallocated_bind (unallocated_run _) fun _ =>
          unallocated_bind (setTimerServer_unallocated p) fun _ => unallocated_store _ _

/-- A ready connection moves. -/
theorem grab_unallocated (p q : Ptr) (constId : UInt32) :
    Keeps Unallocated (grab p q constId : ServerProc options Unit) := by
  refine unallocated_bind (unallocated_deref p) fun conn =>
    unallocated_bind (unallocated_deref q) fun ori =>
      unallocated_ite (unallocated_throw _) (unallocated_ite (unallocated_store _ _) ?_)
  refine unallocated_bind unallocated_theServer fun server =>
    unallocated_ite (unallocated_throw _) (unallocated_ite (unallocated_throw _) ?_)
  refine unallocated_bind (unallocated_run _) fun pOri =>
    unallocated_bind (unallocated_run _) fun pNew =>
      unallocated_bind (unallocated_update fun _ => rfl) fun _ => ?_
  exact unallocated_bind (unallocated_run _) fun _ => unallocated_bind (unallocated_call _) fun _ =>
    unallocated_bind (unallocated_call _) fun _ => unallocated_bind (unallocated_call _) fun _ =>
      unallocated_bind (unallocated_store _ _) fun _ => unallocated_store _ _

/-- A handshake for an entry. -/
theorem serverOnRawRecvHandshake1_unallocated (p : Ptr) (data : Bytes) :
    Keeps Unallocated (serverOnRawRecvHandshake1 p data : ServerProc options Unit) := by
  have ready (constId : UInt32) :
      Keeps Unallocated (serverOnRawRecvPreReady p constId : ServerProc options Unit) := by
    refine unallocated_bind unallocated_theServer fun server => ?_
    dsimp only
    split
    · exact unallocated_ite (unallocated_bind (unallocated_deref p) fun _ => unallocated_store _ _)
        (promote_unallocated p constId)
    · exact grab_unallocated p _ constId
  refine unallocated_ite (unallocated_pure _)
    (unallocated_bind (unallocated_deref p) fun conn => ?_)
  refine unallocated_ite (unallocated_bind (unallocated_call _) fun _ => unallocated_store _ _)
    (unallocated_ite ?_ (unallocated_pure _))
  exact unallocated_bind (unallocated_store _ _) fun _ => ready _

/-- A note of the time. -/
theorem noteHeartbeat_unallocated (p : Ptr) :
    Keeps Unallocated (noteHeartbeat p : ServerProc options Unit) :=
  unallocated_bind (unallocated_deref p) fun _ => unallocated_bind (unallocated_call _) fun _ =>
    unallocated_store _ _

/-- A delivery. -/
theorem deliver_unallocated (p : Ptr) (frame : Frame) (conv : UInt32) :
    Keeps Unallocated (deliver p frame conv : ServerProc options Unit) := by
  refine unallocated_bind (unallocated_deref p) fun conn =>
    unallocated_bind (unallocated_run _) fun _ => unallocated_bind (unallocated_call _) fun _ =>
      unallocated_bind (unallocated_store _ _) fun _ =>
        unallocated_bind unallocated_theServer fun _ =>
          unallocated_bind (unallocated_run _) fun fd =>
            unallocated_bind unallocated_theServer fun server => ?_
  split
  · exact unallocated_pure _
  · exact unallocated_call _

/-- A conversation is in use, or now is. -/
theorem ensureConv_unallocated (p : Ptr) (conv : UInt32) :
    Keeps Unallocated (ensureConv p conv : ServerProc options (Option Int)) := by
  have opens : Keeps Unallocated (openConv p conv : ServerProc options (Option Int)) := by
    refine unallocated_bind newConnectedUdpFd_unallocated fun opened => ?_
    cases opened with
    | none => exact unallocated_pure _
    | some fd =>
      refine unallocated_bind unallocated_theServer fun _ =>
        unallocated_bind (registerFd_unallocated fd p) fun fd64 =>
          unallocated_bind (unallocated_call _) fun _ => unallocated_ite
            (unallocated_bind (unallocated_update fun _ => rfl) fun _ => unallocated_pure _) ?_
      exact unallocated_bind (unallocated_deref p) fun _ =>
        unallocated_bind (unallocated_run _) fun _ => unallocated_bind (unallocated_call _) fun _ =>
          unallocated_bind (unallocated_store _ _) fun _ =>
            unallocated_bind (unallocated_call _) fun _ => unallocated_pure _
  exact unallocated_bind (unallocated_deref p) fun _ =>
    unallocated_bind (unallocated_run _) fun _ =>
      unallocated_ite (unallocated_pure _) (unallocated_ite (unallocated_pure _) opens)

/-- An accepted message. -/
theorem serverOnRawRecvReady_unallocated (p : Ptr) (frame : Frame) :
    Keeps Unallocated (serverOnRawRecvReady p frame : ServerProc options Int) := by
  have note : Keeps Unallocated (noteData p : ServerProc options Unit) := by
    unfold noteData
    split
    · exact noteHeartbeat_unallocated p
    · exact unallocated_pure _
  refine unallocated_ite
    (unallocated_bind (noteHeartbeat_unallocated p) fun _ => unallocated_pure _)
    (unallocated_ite ?_ (unallocated_pure _))
  refine unallocated_bind note fun _ =>
    unallocated_bind (ensureConv_unallocated p _) fun outcome => ?_
  cases outcome with
  | some ret => exact unallocated_pure _
  | none => exact unallocated_bind (deliver_unallocated p frame _) fun _ => unallocated_pure _

/-- The messages of one packet. -/
theorem serverOnFrames_unallocated (p : Ptr) (frames : List Frame) :
    Keeps Unallocated (serverOnFrames p frames : ServerProc options Unit) := by
  induction frames with
  | nil => exact unallocated_pure _
  | cons frame frames ih =>
    exact unallocated_bind (serverOnRawRecvReady_unallocated p frame) fun _ => ih

/-- A packet from an address with an entry. -/
theorem serverOnKnownAddress_unallocated (p : Ptr) :
    Keeps Unallocated (serverOnKnownAddress p : ServerProc options Unit) := by
  refine unallocated_bind (unallocated_deref p) fun conn => ?_
  split
  · refine unallocated_bind (unallocated_call _) fun heard =>
      unallocated_bind (unallocated_store _ _) fun _ => ?_
    split
    · exact unallocated_pure _
    · exact serverOnRawRecvHandshake1_unallocated p _
  · exact unallocated_bind (unallocated_call _) fun _ => unallocated_bind (unallocated_store _ _)
      fun _ => serverOnFrames_unallocated p _
  · exact unallocated_call _

/-! ### Timers and datagrams -/

/-- The sweep frees connections, and allocates none. -/
theorem sweep_allocated {currentTime count : Nat} {it next : Option (Address v)}
    (swept : sweep currentTime count it s = .ok (next, s')) : s'.allocated = s.allocated := by
  induction count generalizing it s with
  | zero =>
    obtain ⟨-, rfl⟩ := Prod.mk.inj (Except.ok.inj swept)
    rfl
  | succ count ih =>
    rw [sweep] at swept
    split at swept
    · obtain ⟨-, rfl⟩ := Prod.mk.inj (Except.ok.inj swept)
      rfl
    simp only [exec_bind_iff] at swept
    obtain ⟨q, -, other, -, swept⟩ := swept
    split at swept
    · exact ih swept
    split at swept
    · simp only [exec_bind_iff] at swept
      obtain ⟨_, -, swept⟩ := swept
      exact ih swept
    · simp only [exec_bind_iff] at swept
      obtain ⟨between, erased, swept⟩ := swept
      rw [ih swept]
      cases erase_iff.mp erased <;> rfl

/-- The sweep of the connection table. -/
theorem clearInactive_unallocated :
    Keeps Unallocated (clearInactive : ServerProc options Unit) := by
  refine unallocated_bind (unallocated_call _) fun now =>
    unallocated_bind unallocated_theServer fun _ => unallocated_ite (unallocated_pure _)
      (unallocated_bind (unallocated_call _) fun lastClearTime =>
        unallocated_bind (unallocated_call _) fun currentTime => ?_)
  intro (m, s) value (m', s') returned
  simp only [Returns.bind_iff, theServer_iff, run_iff, update_iff, Server.clearInactive0,
    exec_bind_iff, exec_pure_iff] at returned
  obtain ⟨_, _, ⟨rfl, rfl⟩, _, _, ⟨⟨⟨next, between⟩, swept, rfl⟩, rfl⟩, final⟩ := returned
  obtain ⟨rfl, rfl⟩ := Prod.mk.inj final
  have same := sweep_allocated swept
  exact same

/-- The timer of a connection. -/
theorem serverOnTimerMulti_unallocated (p : Ptr) :
    Keeps Unallocated (serverOnTimerMulti p : ServerProc options Unit) := by
  refine unallocated_bind (unallocated_deref p) fun conn =>
    unallocated_bind (unallocated_call _) fun _ => unallocated_bind (unallocated_run _) fun _ =>
      unallocated_bind unallocated_theServer fun _ => unallocated_bind (unallocated_call _) fun _ =>
        unallocated_bind (unallocated_update fun _ => rfl) fun _ =>
          unallocated_bind (unallocated_store _ _) fun _ => ?_
  exact unallocated_bind (unallocated_call _) fun _ => unallocated_ite (unallocated_pure _)
    (unallocated_bind (unallocated_call _) fun _ => unallocated_bind (unallocated_call _) fun _ =>
      unallocated_store _ _)

/-- A datagram of a socket. -/
theorem serverOnUdpRecv_unallocated (p : Ptr) (fd64 : Nat) (received : Option Bytes) :
    Keeps Unallocated (serverOnUdpRecv p fd64 received : ServerProc options Unit) := by
  refine unallocated_bind (unallocated_deref p) fun conn => unallocated_ite (unallocated_throw _) ?_
  refine unallocated_bind (unallocated_run _) fun _ =>
    unallocated_bind (unallocated_call _) fun _ =>
      unallocated_bind unallocated_theServer fun _ =>
        unallocated_bind (unallocated_run _) fun _ => ?_
  split
  · exact unallocated_ite (unallocated_pure _) (unallocated_bind (unallocated_call _) fun _ =>
      unallocated_bind (unallocated_call _) fun _ => unallocated_store _ _)
  · exact unallocated_pure _

/-- An event of a descriptor that `fd_manager` knows. -/
theorem serverOnFd64_unallocated (fd64 : Nat) (bytes : Option Bytes) :
    Keeps Unallocated (serverOnFd64 fd64 bytes : ServerProc options Unit) := by
  refine unallocated_bind unallocated_theServer fun _ =>
    unallocated_bind (unallocated_call _) fun _ =>
      unallocated_bind (unallocated_run _) fun p =>
        unallocated_bind (unallocated_deref p) fun conn =>
          unallocated_ite ?_ (serverOnUdpRecv_unallocated p fd64 bytes)
  exact unallocated_bind (unallocated_run _) fun _ => unallocated_bind (unallocated_call _) fun _ =>
    serverOnTimerMulti_unallocated p

/-! ### Entries in the record -/

/-- A step that allocates no connection records no new entry. -/
theorem Step.uncreated {one two : Stage options} (step : Step one two) :
    one.server.allocated ≤ two.server.allocated ∧ ∃ events, Went events one.machine two.machine ∧
      (two.server.allocated = one.server.allocated → ∀ addr myId, .created addr myId ∉ events) := by
  have minor {events : List (Event v)} (minor : Minor events) (addr : Address v) (myId : UInt32) :
      .created addr myId ∉ events := by
    intro inside
    obtain ⟨_, wrong⟩ | ⟨_, _, wrong⟩ := minor _ inside <;> contradiction
  have bare {id1 id2 id3 : UInt32} {events : List (Event v)} (bare : BareEvents id1 id2 id3 events)
      (addr : Address v) (myId : UInt32) : .created addr myId ∉ events := by
    obtain ⟨_, _, rfl | ⟨_, rfl⟩⟩ := bare <;> simp
  have safer {myId oppsiteId : UInt32} {seq : UInt64} {type : UInt8} {data : Bytes}
      {events : List (Event v)} (safer : SaferEvents myId oppsiteId seq type data events)
      (addr : Address v) (id : UInt32) : .created addr id ∉ events := by
    obtain ⟨_, rfl | ⟨_, _, rfl⟩⟩ := safer <;> simp
  cases step with
  | skipped | introduced | refused | evicted | swept =>
    exact ⟨Nat.le_refl _, [], .refl _, fun _ _ _ => List.not_mem_nil⟩
  | erased _ erased =>
    refine ⟨?_, [], .refl _, fun _ _ _ => List.not_mem_nil⟩
    cases erase_iff.mp erased <;> exact Nat.le_refl _
  | quiet events went => exact ⟨Nat.le_refl _, _, went, fun _ => minor events⟩
  | exchanged _ exchanged went =>
    refine ⟨Nat.le_refl _, _, went, fun _ => ?_⟩
    cases exchanged with
    | minor _ events => exact minor events
    | heartbeat _ events => exact safer events
    | accepted => simp
  | replied _ _ _ _ events went => exact ⟨Nat.le_refl _, _, went, fun _ => bare events⟩
  | forwarded _ _ _ _ _ _ events went =>
    refine ⟨Nat.le_refl _, _, went, fun _ addr myId inside => ?_⟩
    simp only [List.mem_cons, reduceCtorEq, false_or] at inside
    exact safer events addr myId inside
  | delivered _ _ _ _ _ _ went => exact ⟨Nat.le_refl _, _, went, fun _ => by simp⟩
  | created _ _ _ _ went =>
    exact ⟨Nat.le_succ _, _, went, fun same => absurd same (Nat.succ_ne_self _)⟩
  | promoted _ _ _ _ _ _ _ events went =>
    refine ⟨Nat.le_refl _, _, went, fun _ addr myId inside => ?_⟩
    simp only [List.mem_cons, reduceCtorEq, false_or] at inside
    exact safer events addr myId inside
  | moved _ _ _ _ _ _ _ _ _ _ events went =>
    refine ⟨Nat.le_refl _, _, went, fun _ addr myId inside => ?_⟩
    simp only [List.mem_cons, reduceCtorEq, false_or] at inside
    exact safer events addr myId inside
  | openedConv _ _ _ _ _ _ _ _ went => exact ⟨Nat.le_refl _, _, went, fun _ => by simp⟩
  | lostSocket _ _ went => exact ⟨Nat.le_refl _, [], went, fun _ _ _ => List.not_mem_nil⟩

/-- Steps that allocate no connection record no new entry. -/
theorem Steps.uncreated {one two : Stage options} (steps : Steps one two) :
    one.server.allocated ≤ two.server.allocated ∧ ∃ events, Went events one.machine two.machine ∧
      (two.server.allocated = one.server.allocated → ∀ addr myId, .created addr myId ∉ events) := by
  induction steps with
  | refl => exact ⟨Nat.le_refl _, [], .refl _, fun _ _ _ => List.not_mem_nil⟩
  | tail _ last ih =>
    obtain ⟨sooner, first, before, none⟩ := ih
    obtain ⟨later, second, after, noneAfter⟩ := last.uncreated
    refine ⟨Nat.le_trans sooner later, first ++ second, before.trans after,
      fun same addr myId inside => ?_⟩
    have middle := Nat.le_antisymm (later.trans_eq same) sooner
    obtain inside | inside := List.mem_append.mp inside
    · exact none middle addr myId inside
    · exact noneAfter (same.trans middle.symm) addr myId inside

/-- The entries that were recorded in this part of a run are due to this packet: it was captured
from their address and carried an initial handshake. -/
def Arrives (options : Options v) (captured : Option Capture) (events : List (Event v)) : Prop :=
  ∀ before addr myId after, events = before ++ .created addr myId :: after →
    ∃ capture ∈ captured, capture.buffered.source options.raw = addr ∧ ∃ input message data,
      before = [.decrypted input message, .drewMyId myId] ∧ BareContent message data ∧
        12 ≤ data.length ∧ idAt data 4 = 0

/-- Nothing arrives without a new entry. -/
theorem Arrives.none {captured : Option Capture} {events : List (Event v)}
    (uncreated : ∀ addr myId, .created addr myId ∉ events) : Arrives options captured events := by
  rintro before addr myId after rfl
  exact absurd (List.mem_append_right _ List.mem_cons_self) (uncreated addr myId)

/-- Steps that allocate nothing. -/
theorem Steps.arrives {one two : Stage options} {captured : Option Capture} (steps : Steps one two)
    (same : two.server.allocated = one.server.allocated) :
    ∃ events, Logged events one.machine two.machine ∧ Arrives options captured events := by
  obtain ⟨-, events, went, uncreated⟩ := steps.uncreated
  exact ⟨events, went.toLogged, .none (uncreated same)⟩

/-- A new entry is recorded with the identifier that was drawn for it. -/
theorem newEntry_logged {addr : Address v} {raw : RawInfo options.raw} {p : Ptr}
    (returned : Returns (newEntry addr raw) (m, s) p (m', s')) :
    ∃ myId conn, Logged [.drewMyId myId, .created addr myId] m m' ∧ s'.heap p = some conn ∧
      conn.state = .handshake1 := by
  simp only [newEntry, Returns.bind_iff, call_iff, theServer_iff, update_iff, store_iff,
    Returns.pure_iff] at returned
  obtain ⟨conn, ⟨m1, _⟩, ⟨one, rfl⟩, answer, ⟨m2, _⟩, ⟨two, rfl⟩, _, _, ⟨rfl, rfl⟩, _, _, rfl, myId,
    ⟨m3, _⟩, ⟨three, rfl⟩, time, ⟨m4, _⟩, ⟨four, rfl⟩, _, ⟨m5, _⟩, ⟨five, rfl⟩, _, _, rfl, rfl,
    final⟩ := returned
  obtain ⟨rfl, rfl⟩ := Prod.mk.inj final
  have whole := ((((newConnInfo_ran one).1.trans (ask_ran two).1).trans
    (drawMyId_ran three).1).trans (getCurrentTime_ran four).1).trans (record_ran five)
  exact ⟨myId, _, whole.toLogged, heap_put, rfl⟩

/-- A packet from a new address. -/
theorem serverOnNewAddress_arrives {addr : Address v} {value : Unit} {capture : Capture}
    (absent : addr ∉ s.mp) (buffered : m.packetBuf = capture.buffered)
    (source : m.packetBuf.source options.raw = addr)
    (returned : Returns (serverOnNewAddress addr) (m, s) value (m', s')) :
    ∃ events, Logged events m m' ∧ Arrives options (some capture) events := by
  have steps : Steps ⟨m, s, []⟩ ⟨m', s', []⟩ := serverOnNewAddress_steps absent source returned
  simp only [serverOnNewAddress, Returns.bind_iff, theServer_iff] at returned
  obtain ⟨_, _, ⟨rfl, rfl⟩, returned⟩ := returned
  split at returned
  · obtain ⟨-, rfl⟩ := call_iff.mp returned
    exact steps.arrives rfl
  rename_i room
  simp only [Returns.bind_iff, call_iff] at returned
  obtain ⟨look, ⟨m1, _⟩, ⟨one, rfl⟩, ⟨raw, data⟩, ⟨m2, _⟩, ⟨two, rfl⟩, returned⟩ := returned
  cases data with
  | none =>
    obtain ⟨-, same⟩ := Returns.pure_iff.mp returned
    obtain ⟨rfl, rfl⟩ := Prod.mk.inj same
    exact steps.arrives rfl
  | some data =>
    dsimp only at returned
    split at returned
    · obtain ⟨-, same⟩ := Returns.pure_iff.mp returned
      obtain ⟨rfl, rfl⟩ := Prod.mk.inj same
      exact steps.arrives rfl
    rename_i long
    split at returned
    · obtain ⟨-, same⟩ := Returns.pure_iff.mp returned
      obtain ⟨rfl, rfl⟩ := Prod.mk.inj same
      exact steps.arrives rfl
    rename_i initial
    rw [not_not] at initial
    obtain ⟨-, -, -, ⟨_, -, -, absent⟩ | ⟨-, input, message, _, read, content, heard⟩⟩ :=
      recvBare_logged two
    · exact absurd absent (Option.some_ne_none data)
    obtain rfl := Option.some.inj read
    simp only [Returns.bind_iff] at returned
    obtain ⟨p, ⟨m3, s3⟩, entered, returned⟩ := returned
    obtain ⟨myId, conn, created, found, waiting⟩ := newEntry_logged entered
    have known := created.heard (heard.heard_decrypted content)
    have answers : Steps ⟨m3, s3, []⟩ ⟨m', s', []⟩ :=
      serverOnRawRecvHandshake1_steps found waiting known returned
    obtain ⟨-, rest, went, uncreated⟩ := answers.uncreated
    have none := uncreated (serverOnRawRecvHandshake1_unallocated p data _ _ _ returned)
    refine ⟨_, ((newRawInfo_ran one).toLogged.trans heard).trans (created.trans went.toLogged),
      fun before other id after parts => ?_⟩
    simp only [List.nil_append, List.cons_append] at parts
    -- The entry is the third event, and no other one is recorded behind.
    rcases before with _ | ⟨first, _ | ⟨second, _ | ⟨third, before⟩⟩⟩
    · exact absurd (List.cons.inj parts).1 (by simp)
    · exact absurd (List.cons.inj (List.cons.inj parts).2).1 (by simp)
    · simp only [List.cons_append, List.nil_append, List.cons.injEq, Event.created.injEq] at parts
      obtain ⟨rfl, rfl, ⟨rfl, rfl⟩, -⟩ := parts
      refine ⟨capture, rfl, ?_, input, message, data, rfl, content, Nat.not_lt.mp long, initial⟩
      rw [← buffered, source]
    · simp only [List.cons_append, List.cons.injEq] at parts
      obtain ⟨-, -, -, rfl⟩ := parts
      exact absurd (List.mem_append_right _ List.mem_cons_self) (none other id)

/-- A packet whose source is known. -/
theorem serverOnPeeked_arrives {peeked : RawInfo options.raw} {value : Unit} {capture : Capture}
    (buffered : m.packetBuf = capture.buffered)
    (source : m.packetBuf.source options.raw = peeked.source)
    (returned : Returns (serverOnPeeked peeked) (m, s) value (m', s')) :
    ∃ events, Logged events m m' ∧ Arrives options (some capture) events := by
  have steps : Steps ⟨m, s, []⟩ ⟨m', s', []⟩ := serverOnPeeked_steps source returned
  simp only [serverOnPeeked, Returns.bind_iff, theServer_iff] at returned
  obtain ⟨_, _, ⟨rfl, rfl⟩, returned⟩ := returned
  split at returned
  · simp only [Returns.bind_iff, run_iff] at returned
    obtain ⟨ready, _, ⟨-, rfl⟩, returned⟩ := returned
    split at returned
    · obtain ⟨-, rfl⟩ := call_iff.mp returned
      exact steps.arrives rfl
    · obtain ⟨-, rfl⟩ := call_iff.mp returned
      exact steps.arrives rfl
  split at returned
  · rename_i absent
    exact serverOnNewAddress_arrives (AList.lookup_eq_none.mp absent) buffered source returned
  · exact steps.arrives (serverOnKnownAddress_unallocated _ _ _ _ returned)

/-- A captured packet. -/
theorem serverOnRawRecvMulti_arrives {received : Option Capture} {value : Unit}
    (returned : Returns (serverOnRawRecvMulti received) (m, s) value (m', s')) :
    ∃ events, Logged events m m' ∧ Arrives options received events := by
  obtain ⟨m1, logged, steps⟩ := serverOnRawRecvMulti_steps returned
  have idle (same : s'.allocated = s.allocated) :
      ∃ events, Logged events m m' ∧ Arrives options received events := by
    obtain ⟨events, later, arrives⟩ := steps.arrives same
    exact ⟨events, logged.trans later, arrives⟩
  simp only [serverOnRawRecvMulti, Returns.bind_iff, call_iff] at returned
  obtain ⟨look, ⟨m1, _⟩, ⟨one, rfl⟩, ret, ⟨m2, _⟩, ⟨two, rfl⟩, returned⟩ := returned
  split at returned
  · obtain ⟨-, same⟩ := Returns.pure_iff.mp returned
    obtain ⟨rfl, rfl⟩ := Prod.mk.inj same
    exact idle rfl
  rename_i taken
  obtain ⟨capture, rfl, buffered⟩ := preRecvRawPacket_buffered two taken
  simp only [Returns.bind_iff, call_iff, peekRawPacket_iff] at returned
  obtain ⟨⟨peeked, seen⟩, ⟨m3, _⟩, ⟨⟨-, looked, rfl⟩, rfl⟩, returned⟩ := returned
  cases seen with
  | false =>
    obtain ⟨-, rfl⟩ := call_iff.mp returned
    exact idle rfl
  | true =>
    obtain ⟨events, later, arrives⟩ :=
      serverOnPeeked_arrives buffered (peekRaw_source looked.symm).symm returned
    have captured := (newRawInfo_ran one).toLogged.trans (preRecvRawPacket_logged two).1
    exact ⟨events, captured.trans later, arrives⟩

/-- An entry that is recorded in an event is due to the packet captured in it. -/
theorem serverOnEvent_arrives {standing : Standing} {event : EpollEvent} {going : Bool}
    (cursor : s.Cursor) (returned : Returns (serverOnEvent standing event) (m, s) going (m', s')) :
    ∃ events, Logged events m m' ∧ Arrives options (event.captured standing) events := by
  obtain ⟨m1, logged, steps, -⟩ := serverOnEvent_steps cursor returned
  have idle (same : s'.allocated = s.allocated) :
      ∃ events, Logged events m m' ∧ Arrives options (event.captured standing) events := by
    obtain ⟨events, later, arrives⟩ := steps.arrives same
    exact ⟨events, logged.trans later, arrives⟩
  unfold serverOnEvent at returned
  split at returned
  · simp only [Returns.bind_iff, Returns.pure_iff] at returned
    obtain ⟨_, _, cleared, -, rfl⟩ := returned
    exact idle (clearInactive_unallocated _ _ _ cleared)
  split at returned
  · rename_i raw
    simp only [Returns.bind_iff, Returns.pure_iff] at returned
    obtain ⟨_, _, received, -, rfl⟩ := returned
    rw [EpollEvent.captured, if_pos raw]
    exact serverOnRawRecvMulti_arrives received
  split at returned
  · have fifo : Keeps Unallocated (onFifo event.bytes : ServerProc options Unit) := by
      unfold onFifo
      split
      · exact unallocated_pure _
      · exact unallocated_ite (unallocated_throw _) (unallocated_pure _)
    simp only [Returns.bind_iff, Returns.pure_iff] at returned
    obtain ⟨_, _, read, -, rfl⟩ := returned
    exact idle (fifo _ _ _ read)
  split at returned
  · simp only [Returns.bind_iff, theServer_iff] at returned
    obtain ⟨_, _, ⟨rfl, rfl⟩, returned⟩ := returned
    split at returned
    · obtain ⟨-, same⟩ := Returns.pure_iff.mp returned
      obtain ⟨rfl, rfl⟩ := Prod.mk.inj same
      exact idle rfl
    · simp only [Returns.bind_iff, Returns.pure_iff] at returned
      obtain ⟨_, _, handled, -, rfl⟩ := returned
      exact idle (serverOnFd64_unallocated _ _ _ _ _ handled)
  · exact absurd returned Returns.throw_iff

end Udp2raw
