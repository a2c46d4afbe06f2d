import Udp2raw.Server.Steps

/-!
# The handlers as steps

Each handler of the server, from any state of the server and whatever the system answers,
is a sequence of steps. The lemmas follow the handlers from the bottom up.
-/
namespace Udp2raw

open Proc ServerProc Server

variable {v : IpVersion} {α : Type} {options : Options v} {m m' : Machine v}
  {s s' : Server options} {inbox : List Pending}

/-! ### The state of the server -/

namespace ServerProc

variable {before after : Machine v × Server options}

/-- A function of the shared layers leaves the tables alone. -/
theorem call_iff {proc : Proc v α} {value : α} :
    Returns (call proc) before value after ↔
      Returns proc before.1 value after.1 ∧ before.2 = after.2 := by
  rw [call, Returns.onFirst_iff, eq_comm (a := after.2)]

/-- Reading the tables. -/
theorem theServer_iff {server : Server options} :
    Returns theServer before server after ↔ before.2 = server ∧ after = before := by
  simp only [theServer, Returns.onSecond_iff, Returns.get_iff, Prod.ext_iff]
  constructor
  · rintro ⟨⟨rfl, same⟩, machine⟩
    exact ⟨rfl, machine, same.symm⟩
  · rintro ⟨rfl, machine, same⟩
    exact ⟨⟨rfl, same.symm⟩, machine⟩

/-- Changing the tables. -/
theorem update_iff {change : Server options → Server options} {value : Unit} :
    Returns (update change) before value after ↔ after = (before.1, change before.2) := by
  simp only [update, Returns.onSecond_iff, Returns.modify_iff, Prod.ext_iff]
  constructor
  · rintro ⟨same, machine⟩
    exact ⟨machine, same.symm⟩
  · rintro ⟨machine, same⟩
    exact ⟨same.symm, machine⟩

/-- A pure function. -/
theorem run_iff {computation : Exec α} {value : α} :
    Returns (run computation) before value after ↔ computation = .ok value ∧ after = before := by
  rw [run, Returns.lift_iff, eq_comm (a := before)]

/-- A pointer that is followed leads to a connection in memory. -/
theorem deref_iff {p : Ptr} {conn : ServerConn options} :
    Returns (deref p) before conn after ↔ before.2.heap p = some conn ∧ after = before := by
  simp only [deref, Returns.bind_iff, theServer_iff, run_iff, Server.deref]
  constructor
  · rintro ⟨_, _, ⟨rfl, rfl⟩, found, rfl⟩
    split at found
    · contradiction
    · rename_i same
      exact ⟨same.trans (congrArg some (Except.ok.inj found)), rfl⟩
  · rintro ⟨found, rfl⟩
    exact ⟨_, _, ⟨rfl, rfl⟩, by rw [found], rfl⟩

/-- Storing a connection. -/
theorem store_iff {p : Ptr} {conn : ServerConn options} {value : Unit} :
    Returns (store p conn) before value after ↔ after = (before.1, before.2.put p conn) :=
  update_iff

/-- Changing the descriptors. -/
theorem onDescriptors_iff {change : Descriptors → Exec (α × Descriptors)} {value : α} :
    Returns (onDescriptors change) before value after ↔
      ∃ descriptors, change before.2.descriptors = .ok (value, descriptors) ∧
        after = (before.1, before.2.withDescriptors descriptors) := by
  simp only [onDescriptors, Returns.bind_iff, theServer_iff, run_iff, update_iff, Returns.pure_iff]
  constructor
  · rintro ⟨_, _, ⟨rfl, rfl⟩, changed, _, ⟨ran, rfl⟩, _, _, rfl, rfl, rfl⟩
    exact ⟨changed.2, ran, rfl⟩
  · rintro ⟨descriptors, ran, rfl⟩
    exact ⟨_, _, ⟨rfl, rfl⟩, _, _, ⟨ran, rfl⟩, ⟨⟩, _, rfl, rfl, rfl⟩

end ServerProc

/-- A check of an assertion that passed. -/
theorem assert_iff {condition : Bool} {text : String} {value : Unit} :
    assert condition text = .ok value ↔ condition = true := by
  cases condition <;> simp [assert]

/-- A pure sequence runs its parts one after the other. -/
theorem exec_bind_iff {β : Type} {first : Exec β} {rest : β → Exec α} {value : α} :
    (first >>= rest) = .ok value ↔ ∃ middle, first = .ok middle ∧ rest middle = .ok value := by
  cases first with
  | error fault => simp [bind, Except.bind]
  | ok middle => simp [bind, Except.bind]

/-- A pure value. -/
theorem exec_pure_iff {value result : α} : (pure value : Exec α) = .ok result ↔ value = result := by
  simp [pure, Except.pure]

/-! ### Sockets and timers -/

/-- A new socket is a descriptor that was not open. -/
theorem newConnectedUdpFd_ran {result : Option Nat}
    (returned : Returns newConnectedUdpFd (m, s) result (m', s')) :
    Ran [] m m' ∧ (result = none ∧ s' = s ∨ ∃ fd, result = some fd ∧
      fd ∉ s.descriptors.opened ∧ s' = s.withDescriptors (s.descriptors.sockOpen fd)) := by
  simp only [newConnectedUdpFd, Returns.bind_iff, call_iff, theServer_iff] at returned
  obtain ⟨answer, ⟨m1, s1⟩, ⟨asked, rfl⟩, _, _, ⟨rfl, rfl⟩, returned⟩ := returned
  have ran := (ask_ran asked).1
  split at returned
  · rename_i fd _ _
    simp only [Returns.bind_iff, update_iff, Returns.pure_iff] at returned
    obtain ⟨_, _, rfl, rfl, rfl, rfl⟩ := returned
    exact ⟨ran, .inr ⟨fd.val, rfl, fd.property, rfl⟩⟩
  · obtain ⟨rfl, same⟩ := Returns.pure_iff.mp returned
    obtain ⟨rfl, rfl⟩ := Prod.mk.inj same
    exact ⟨ran, .inl ⟨rfl, rfl⟩⟩

/-- A registered descriptor is new to `fd_manager` and belongs to the connection. -/
theorem registerFd_ran {fd fd64 : Nat} {p : Ptr} {descriptors : Descriptors}
    (returned : Returns (registerFd fd p) (m, s.withDescriptors (descriptors.sockOpen fd)) fd64
      (m', s')) :
    m' = m ∧ fd ∉ descriptors.fdToFd64 ∧ fd64 = descriptors.counter ∧
      s' = s.withDescriptors (descriptors.registered fd p) := by
  simp only [registerFd, Returns.bind_iff, onDescriptors_iff, Returns.pure_iff,
    Descriptors.create, Descriptors.setInfo, Descriptors.fdExist, exec_bind_iff, assert_iff,
    exec_pure_iff, Prod.mk.injEq, Bool.not_eq_eq_eq_not, Bool.not_true,
    decide_eq_false_iff_not] at returned
  obtain ⟨_, _, ⟨_, ⟨⟨⟩, fresh, rfl, rfl⟩, rfl⟩, _, _, ⟨_, ⟨_, ⟨_, -, rfl⟩, -, rfl⟩, rfl⟩, rfl, rfl,
    rfl⟩ := returned
  exact ⟨rfl, fresh, rfl, rfl⟩

/-- A new timer is a descriptor that was not open, registered for the connection. -/
theorem setTimerServer_ran {p : Ptr} {fd64 : Nat}
    (returned : Returns (setTimerServer p) (m, s) fd64 (m', s')) :
    Ran [] m m' ∧ fd64 = s.descriptors.counter ∧ ∃ fd, s.descriptors.Unused fd ∧
      s' = s.withDescriptors (s.descriptors.registered fd p) := by
  simp only [setTimerServer, Returns.bind_iff, call_iff, theServer_iff] at returned
  obtain ⟨answer, ⟨m1, s1⟩, ⟨asked, rfl⟩, _, _, ⟨rfl, rfl⟩, returned⟩ := returned
  split at returned
  · exact absurd returned Returns.throw_iff
  · rename_i fd _
    simp only [Returns.bind_iff, update_iff, call_iff] at returned
    obtain ⟨_, _, rfl, number, ⟨m2, s2⟩, registered, next, ⟨m3, s3⟩, ⟨again, same⟩, returned⟩ :=
      returned
    obtain ⟨rfl, fresh, rfl, rfl⟩ := registerFd_ran registered
    split at returned
    · obtain ⟨rfl, last⟩ := Returns.pure_iff.mp returned
      obtain ⟨rfl, rfl⟩ := Prod.mk.inj last
      obtain rfl : _ = s3 := same
      exact ⟨(ask_ran asked).1.trans (ask_ran again).1, rfl, fd.val, ⟨fd.property, fresh⟩, rfl⟩
    · exact absurd returned Returns.throw_iff

/-! ### The handshake -/

/-- Metadata that continues has the same peer. -/
theorem RawInfo.continuing_peer {config : RawConfig v} (raw : RawInfo config) :
    SamePeer raw raw.continuing := by
  unfold RawInfo.continuing
  split <;> exact ⟨rfl, rfl, rfl⟩

/-- A promotion is one step. -/
theorem promote_steps {p : Ptr} {constId : UInt32} {conn : ServerConn options} {value : Unit}
    (found : s.heap p = some conn) (waiting : conn.state = .handshake1)
    (absent : s.constIdMp.lookup constId = none) (room : s.readyNum.toNat < maxReadyConnNum)
    (heard : HeardHandshake m.log m.self conn.oppsiteId conn.myId constId)
    (returned : Returns (promote p constId) (m, s) value (m', s')) :
    Steps ⟨m, s, inbox⟩ ⟨m', s', inbox⟩ := by
  simp only [promote, Returns.bind_iff, deref_iff, call_iff, update_iff, run_iff,
    store_iff, theBlob_iff] at returned
  obtain ⟨_, _, ⟨same, rfl⟩, prepared, ⟨m1, _⟩, ⟨one, rfl⟩, _, _, rfl, _, ⟨m2, _⟩, ⟨two, rfl⟩, now,
    ⟨m3, _⟩, ⟨three, rfl⟩, sent, ⟨m4, _⟩, ⟨four, rfl⟩, blob, _, ⟨allocated, rfl⟩, timer, ⟨m5, s5⟩,
    five, returned⟩ := returned
  obtain rfl := Option.some.inj (found.symm.trans same)
  obtain ⟨preparedRan, -, contents, rfl, convToData, dataToConv, lru, highest⟩ := prepare_ran one
  obtain ⟨old, data, events, had, kept, shape, sentRan⟩ := sendHeartbeat_ran four
  obtain ⟨timedRan, rfl, fd, unused, rfl⟩ := setTimerServer_ran five
  obtain ⟨rfl, rfl⟩ := Prod.mk.inj returned
  obtain rfl := Option.some.inj had
  have after : blob = { contents with antiReplay := contents.antiReplay.getNewSeqForSend.2 } :=
    Option.some.inj (allocated.symm.trans kept.blob)
  have whole := (((preparedRan.trans (record_ran two)).trans (getCurrentTime_ran three).1).trans
    sentRan).trans timedRan
  rw [List.append_nil] at whole
  refine .single (.promoted found waiting absent room heard unused ?_ shape whole.went)
  exact {
    state := kept.state
    myId := kept.myId
    oppsiteId := kept.oppsiteId
    oppsiteConstId := kept.oppsiteConstId
    timerFd64 := rfl
    peer := ⟨kept.peer.source, kept.peer.destination, kept.peer.peek⟩
    blob := ⟨_, rfl, by rw [after]; exact convToData, by rw [after]; exact dataToConv,
      by rw [after]; exact lru, rfl, by rw [after]; rfl⟩ }

/-- A recovered connection has the session of the other one. -/
theorem recover_ok {conn ori next : ServerConn options} (recovered : ori.recover conn = .ok next) :
    ∃ blob, ori.blob = some blob ∧ next.state = ori.state ∧ next.timerFd64 = ori.timerFd64 ∧
      next.oppsiteConstId = ori.oppsiteConstId ∧ next.myId = conn.myId ∧
      next.oppsiteId = conn.oppsiteId ∧ SamePeer conn.rawInfo next.rawInfo ∧
      next.lastStateTime = conn.lastStateTime ∧
      next.blob = some { blob with antiReplay := blob.antiReplay.reInit } := by
  simp only [ConnInfo.recover, exec_bind_iff, theBlob_iff, exec_pure_iff] at recovered
  obtain ⟨blob, allocated, rfl⟩ := recovered
  exact ⟨blob, allocated, rfl, rfl, rfl, rfl, rfl, ⟨rfl, rfl, rfl⟩, rfl, rfl⟩

/-- A table entry that is found is there. -/
theorem find_iff {addr : Address v} {p : Ptr} :
    s.find addr = .ok p ↔ s.mp.lookup addr = some p := by
  unfold Server.find
  cases s.mp.lookup addr <;> simp

/-- A recovery is refused or moves the connection. -/
theorem grab_steps {p q : Ptr} {constId : UInt32} {conn : ServerConn options} {value : Unit}
    (found : s.heap p = some conn) (waiting : conn.state = .handshake1)
    (known : s.constIdMp.lookup constId = some q)
    (heard : HeardHandshake m.log m.self conn.oppsiteId conn.myId constId)
    (returned : Returns (grab p q constId) (m, s) value (m', s')) :
    Steps ⟨m, s, inbox⟩ ⟨m', s', inbox⟩ := by
  simp only [grab, Returns.bind_iff, deref_iff] at returned
  obtain ⟨_, _, ⟨same, rfl⟩, ori, _, ⟨other, rfl⟩, returned⟩ := returned
  obtain rfl := Option.some.inj (found.symm.trans same)
  split at returned
  · exact absurd returned Returns.throw_iff
  rename_i ready
  rw [ne_eq, not_not] at ready
  split at returned
  · rw [store_iff] at returned
    obtain ⟨rfl, rfl⟩ := Prod.mk.inj returned
    exact .single (.refused found waiting ⟨rfl, rfl, rfl, rfl, .inr rfl, .refl _⟩)
  rename_i later
  simp only [Returns.bind_iff, theServer_iff] at returned
  obtain ⟨_, _, ⟨rfl, rfl⟩, returned⟩ := returned
  split at returned
  · exact absurd returned Returns.throw_iff
  split at returned
  · exact absurd returned Returns.throw_iff
  simp only [Returns.bind_iff, call_iff, run_iff, update_iff, store_iff, find_iff] at returned
  obtain ⟨pOri, _, ⟨atOri, rfl⟩, pNew, _, ⟨atNew, rfl⟩, _, _, rfl, recovered, _, ⟨ran, rfl⟩, _,
    ⟨m1, _⟩, ⟨one, rfl⟩, sent, ⟨m2, _⟩, ⟨two, rfl⟩, now, ⟨m3, _⟩, ⟨three, rfl⟩, _, _, rfl,
    returned⟩ := returned
  obtain ⟨rfl, rfl⟩ := Prod.mk.inj returned
  obtain ⟨blob, allocated, state, timer, client, myId, oppsiteId, peer, time, contents⟩ :=
    recover_ok ran
  obtain ⟨old, data, events, had, kept, shape, sentRan⟩ := sendHeartbeat_ran two
  obtain rfl := Option.some.inj (contents.symm.trans had)
  have whole := ((record_ran one).trans sentRan).trans (getCurrentTime_ran three).1
  rw [List.append_nil, peer.source, myId, oppsiteId] at whole
  rw [myId, oppsiteId] at shape
  refine .single (.moved found waiting known other ready atOri atNew heard ?_
    ⟨rfl, rfl, rfl, rfl, .inr rfl, .refl _⟩ shape whole.went)
  exact {
    state := kept.state.trans state
    timerFd64 := kept.timerFd64.trans timer
    oppsiteConstId := kept.oppsiteConstId.trans client
    myId := kept.myId.trans myId
    oppsiteId := kept.oppsiteId.trans oppsiteId
    peer := peer.trans kept.peer
    lastStateTime := by
      rw [kept.lastStateTime]
      exact (Nat.not_lt.mp later).trans_eq time.symm
    blob := ⟨blob, _, allocated, kept.blob, ⟨.refl _, fun early => early.mono whole.now⟩, rfl, rfl,
      rfl⟩ }

/-- The preparation of a ready connection is a refusal, a promotion or a recovery. -/
theorem serverOnRawRecvPreReady_steps {p : Ptr} {constId : UInt32} {conn : ServerConn options}
    {value : Unit} (found : s.heap p = some conn) (waiting : conn.state = .handshake1)
    (heard : HeardHandshake m.log m.self conn.oppsiteId conn.myId constId)
    (returned : Returns (serverOnRawRecvPreReady p constId) (m, s) value (m', s')) :
    Steps ⟨m, s, inbox⟩ ⟨m', s', inbox⟩ := by
  simp only [serverOnRawRecvPreReady, Returns.bind_iff, theServer_iff] at returned
  obtain ⟨_, _, ⟨rfl, rfl⟩, returned⟩ := returned
  split at returned
  · rename_i absent
    split at returned
    · simp only [Returns.bind_iff, deref_iff, store_iff] at returned
      obtain ⟨_, _, ⟨same, rfl⟩, returned⟩ := returned
      obtain rfl := Option.some.inj (found.symm.trans same)
      obtain ⟨rfl, rfl⟩ := Prod.mk.inj returned
      exact .single (.refused found waiting ⟨rfl, rfl, rfl, rfl, .inl rfl, .refl _⟩)
    · rename_i room
      exact promote_steps found waiting absent (Nat.not_le.mp room) heard returned
  · rename_i q known
    exact grab_steps found waiting known heard returned

/-- A connection that was changed only on the side that sends goes on. -/
theorem touches_of_peer {p : Ptr} {conn : ServerConn options} {rawInfo : RawInfo options.raw}
    {now later : Nat} (found : s.heap p = some conn) (peer : SamePeer conn.rawInfo rawInfo)
    (clock : now ≤ later) : s.Touches p conn { conn with rawInfo } now later :=
  ⟨found, (ConnInfo.Kept.of_peer conn peer).like clock, .inl peer⟩

/-- A handshake packet is answered, or prepares the connection. -/
theorem serverOnRawRecvHandshake1_steps {p : Ptr} {data : Bytes} {conn : ServerConn options}
    {value : Unit} (found : s.heap p = some conn) (waiting : conn.state = .handshake1)
    (heard : HeardBare m.log m.self data)
    (returned : Returns (serverOnRawRecvHandshake1 p data) (m, s) value (m', s')) :
    Steps ⟨m, s, inbox⟩ ⟨m', s', inbox⟩ := by
  unfold serverOnRawRecvHandshake1 at returned
  split at returned
  · obtain ⟨-, same⟩ := Returns.pure_iff.mp returned
    obtain ⟨rfl, rfl⟩ := Prod.mk.inj same
    exact .refl
  rename_i long
  have handshake : HeardHandshake m.log m.self (idAt data 0) (idAt data 4) (idAt data 8) :=
    ⟨data, heard, Nat.not_lt.mp long, rfl, rfl, rfl⟩
  simp only [Returns.bind_iff, deref_iff] at returned
  obtain ⟨_, _, ⟨same, rfl⟩, returned⟩ := returned
  obtain rfl := Option.some.inj (found.symm.trans same)
  split at returned
  · rename_i initial
    simp only [Returns.bind_iff, call_iff, store_iff] at returned
    obtain ⟨rawInfo, ⟨m1, _⟩, ⟨sent, rfl⟩, returned⟩ := returned
    obtain ⟨rfl, rfl⟩ := Prod.mk.inj returned
    obtain ⟨peer, events, shape, ran⟩ := sendHandshake_events sent
    have samePeer := (RawInfo.continuing_peer conn.rawInfo).trans peer
    rw [initial] at handshake
    exact .single (.replied (touches_of_peer found samePeer ran.now)
      (ConnInfo.Kept.of_peer conn samePeer).sameSession waiting handshake shape ran.went)
  split at returned
  · rename_i answer
    simp only [Returns.bind_iff, store_iff] at returned
    obtain ⟨_, _, rfl, returned⟩ := returned
    have samePeer := RawInfo.continuing_peer conn.rawInfo
    have touches : s.Touches p conn
        { conn with oppsiteId := idAt data 0, rawInfo := conn.rawInfo.continuing } m.now m.now :=
      ⟨found,
        ⟨rfl, rfl, rfl, rfl, ConnInfo.rel_of_eq (fun blob => .refl blob (Nat.le_refl _)) rfl, rfl⟩,
        .inl samePeer⟩
    refine .head (.introduced touches waiting) ?_
    rw [answer] at handshake
    exact serverOnRawRecvPreReady_steps (Function.update_self ..) waiting handshake returned
  · obtain ⟨-, same⟩ := Returns.pure_iff.mp returned
    obtain ⟨rfl, rfl⟩ := Prod.mk.inj same
    exact .refl

/-! ### Messages of a ready connection -/

namespace Server

/-- A ready connection of a session is behind a pointer. -/
def Holds (server : Server options) (p : Ptr) (myId oppsiteId : UInt32) : Prop :=
  ∃ conn, server.heap p = some conn ∧ conn.state = .ready ∧ conn.myId = myId ∧
    conn.oppsiteId = oppsiteId

/-- The connection behind a pointer uses a conversation. -/
def Uses (server : Server options) (p : Ptr) (conv : UInt32) : Prop :=
  ∃ conn blob, server.heap p = some conn ∧ conn.blob = some blob ∧
    conv ∈ blob.convManager.convToData

/-- Storing a connection that is there changes nothing. -/
theorem put_self {p : Ptr} {conn : ServerConn options} (found : s.heap p = some conn) :
    s.put p conn = s := by
  rw [put, ← found, Function.update_eq_self]

/-- Storing twice is storing once. -/
theorem put_put {p : Ptr} {conn next : ServerConn options} :
    (s.put p conn).put p next = s.put p next := by
  simp [put]

/-- A stored connection is there. -/
theorem heap_put {p : Ptr} {conn : ServerConn options} : (s.put p conn).heap p = some conn :=
  Function.update_self ..

end Server

/-- A receipt is one step of the session. -/
theorem receipt_exchanged {conn next : ServerConn options} {frame : Option Frame}
    (receipt : Receipt (conn, m) frame (next, m')) :
    ∃ events, conn.Exchanged events
        (frame.toList.map fun found => ⟨conn.myId, conn.oppsiteId, found⟩) next ∧
      Went events m m' ∧ ConnInfo.Like m.now m'.now conn next ∧ next.oppsiteId = conn.oppsiteId ∧
      SamePeer conn.rawInfo next.rawInfo := by
  cases receipt with
  | dropped minor ran =>
    exact ⟨_, .minor (ConnInfo.Kept.refl _).sameSession minor, ran.went,
      (ConnInfo.Kept.refl _).like ran.now, rfl, .refl _⟩
  | accepted allocated valid kept content ran =>
    exact ⟨_, .accepted allocated valid kept.sameSession content, ran.went,
      kept.like_withAntiReplay allocated ran.now, kept.oppsiteId, kept.peer⟩

/-- The receipts of one packet are steps of the session. -/
theorem receives_steps {p : Ptr} {conn next : ServerConn options} {frames : List Frame}
    (found : s.heap p = some conn) (receives : Receives (conn, m) frames (next, m')) :
    (∀ inbox, Steps ⟨m, s, inbox⟩ ⟨m', s.put p next,
      inbox ++ frames.map fun frame => ⟨conn.myId, conn.oppsiteId, frame⟩⟩) ∧
    next.state = conn.state ∧ next.myId = conn.myId ∧ next.oppsiteId = conn.oppsiteId := by
  generalize first : (conn, m) = start at receives
  generalize last : (next, m') = final at receives
  induction receives generalizing s conn m with
  | done =>
    obtain ⟨rfl, rfl⟩ := Prod.mk.inj (first.trans last.symm)
    rw [Server.put_self found]
    refine ⟨fun inbox => ?_, rfl, rfl, rfl⟩
    simpa using Relation.ReflTransGen.refl
  | @next _ middle _ frame _ receipt rest ih =>
    subst first
    obtain ⟨between, m1⟩ := middle
    obtain ⟨events, exchanged, went, like, other, peer⟩ := receipt_exchanged receipt
    obtain ⟨steps, state, myId, oppsiteId⟩ :=
      ih (s := s.put p between) Server.heap_put rfl last
    refine ⟨fun inbox => .head (.exchanged ⟨found, like, .inl peer⟩ exchanged went) ?_,
      state.trans like.state, myId.trans like.myId, oppsiteId.trans other⟩
    have later := steps
      (inbox ++ frame.toList.map fun found => ⟨conn.myId, conn.oppsiteId, found⟩)
    rw [Server.put_put, like.myId, other, List.append_assoc, ← List.map_append] at later
    exact later

/-- A note of the time keeps the session. -/
theorem noteHeartbeat_steps {p : Ptr} {myId oppsiteId : UInt32} {value : Unit}
    (held : s.Holds p myId oppsiteId)
    (returned : Returns (noteHeartbeat p) (m, s) value (m', s')) :
    Steps ⟨m, s, inbox⟩ ⟨m', s', inbox⟩ ∧ s'.Holds p myId oppsiteId := by
  obtain ⟨conn, found, ready, rfl, rfl⟩ := held
  simp only [noteHeartbeat, Returns.bind_iff, deref_iff, call_iff, store_iff] at returned
  obtain ⟨_, _, ⟨same, rfl⟩, now, ⟨m1, _⟩, ⟨timed, rfl⟩, returned⟩ := returned
  obtain rfl := Option.some.inj (found.symm.trans same)
  obtain ⟨rfl, rfl⟩ := Prod.mk.inj returned
  have ran := (getCurrentTime_ran timed).1
  have kept : conn.Kept { conn with lastHbRecvTime := now } :=
    ⟨rfl, rfl, rfl, rfl, rfl, rfl, .refl _, rfl⟩
  have step := Step.alone inbox ⟨found, kept.like ran.now, .inl kept.peer⟩
    (.minor kept.sameSession minor_nil) ran.went
  exact ⟨.single step, _, Server.heap_put, ready, rfl, rfl⟩

/-- A number of `fd_manager` that is known stands for a descriptor. -/
theorem toFd_iff {descriptors : Descriptors} {fd64 fd : Nat} :
    descriptors.toFd fd64 = .ok fd ↔ descriptors.fd64ToFd.lookup fd64 = some fd := by
  simp only [Descriptors.toFd, Descriptors.exist, exec_bind_iff, assert_iff, exec_pure_iff,
    decide_eq_true_eq, Table.mem_iff_lookup]
  constructor
  · rintro ⟨⟨⟩, ⟨value, known⟩, rfl⟩
    rw [known, Option.getD_some]
  · intro known
    exact ⟨⟨⟩, ⟨fd, known⟩, by rw [known, Option.getD_some]⟩

/-- Changed conversations that are like the old ones keep the session. -/
theorem withConvs_exchanged {conn : ServerConn options} {blob : Blob Nat}
    {convs : ConvManager Nat} {now later : Nat} (allocated : conn.blob = some blob)
    (same : blob.convManager.SameConvs convs)
    (early : blob.convManager.lru.NotAfter now → convs.lru.NotAfter later) :
    ConnInfo.Like now later conn (conn.withConvs blob convs) ∧
      conn.Exchanged ([] : List (Event v)) [] (conn.withConvs blob convs) := by
  refine ⟨⟨rfl, rfl, rfl, rfl, ?_, rfl⟩, .minor ⟨rfl, ?_⟩ minor_nil⟩
  · rw [allocated]
    exact .some ⟨same, early⟩
  · rw [allocated]
    exact .some rfl

/-- A message of a conversation in use is delivered, unless its socket is gone. -/
theorem deliver_steps {p : Ptr} {frame : Frame} {myId oppsiteId : UInt32} {value : Unit}
    (held : s.Holds p myId oppsiteId) (used : s.Uses p (idAt frame.data 0))
    (type : frame.type = typeData) (long : 4 ≤ frame.data.length)
    (returned : Returns (deliver p frame (idAt frame.data 0)) (m, s) value (m', s')) :
    Steps ⟨m, s, ⟨myId, oppsiteId, frame⟩ :: inbox⟩ ⟨m', s', inbox⟩ ∧
      s'.Holds p myId oppsiteId := by
  obtain ⟨conn, found, ready, rfl, rfl⟩ := held
  obtain ⟨_, blob, same, allocated, inUse⟩ := used
  obtain rfl := Option.some.inj (found.symm.trans same)
  simp only [deliver, Returns.bind_iff, deref_iff, call_iff, run_iff, store_iff, theServer_iff,
    theBlob_iff, toFd_iff] at returned
  obtain ⟨_, _, ⟨same, rfl⟩, _, _, ⟨again, rfl⟩, convs, ⟨m1, _⟩, ⟨updated, rfl⟩, _, _, rfl, _, _,
    ⟨rfl, rfl⟩, fd, _, ⟨known, rfl⟩, returned⟩ := returned
  obtain rfl := Option.some.inj (found.symm.trans same)
  obtain rfl := Option.some.inj (allocated.symm.trans again)
  obtain ⟨ran, sameConvs, early⟩ := ConvManager.updateActiveTime_ran updated
  obtain ⟨like, exchanged⟩ := withConvs_exchanged (v := v) allocated sameConvs early
  have touched := Step.alone (⟨conn.myId, conn.oppsiteId, frame⟩ :: inbox)
    ⟨found, like, .inl (.refl _)⟩ exchanged ran.went
  have holds : (s.put p (conn.withConvs blob convs)).Holds p conn.myId conn.oppsiteId :=
    ⟨_, Server.heap_put, ready, rfl, rfl⟩
  simp only [sendSocket, Returns.bind_iff, theServer_iff] at returned
  obtain ⟨_, _, ⟨rfl, rfl⟩, returned⟩ := returned
  split at returned
  · obtain ⟨-, same⟩ := Returns.pure_iff.mp returned
    obtain ⟨rfl, rfl⟩ := Prod.mk.inj same
    exact ⟨.tail (.single touched) .skipped, holds⟩
  · rename_i socket opened
    rw [call_iff] at returned
    obtain ⟨recorded, rfl⟩ := returned
    refine ⟨.tail (.single touched) ?_, holds⟩
    obtain ⟨fd64, stored⟩ := Table.mem_iff_lookup.mp inUse
    have serves : (s.put p (conn.withConvs blob convs)).Serves (conn.withConvs blob convs)
        (idAt frame.data 0) socket := by
      refine ⟨_, fd64, fd, rfl, ?_, ?_, opened⟩
      · rw [sameConvs.convToData, stored]
      · rwa [ConvManager.findDataByConv, stored, Option.getD_some] at known
    have stored : (s.put p (conn.withConvs blob convs)).heap p = some (conn.withConvs blob convs) :=
      Server.heap_put
    exact .delivered stored rfl rfl type long serves (record_ran recorded).went

/-- A new conversation gets a socket, or a socket was lost. -/
theorem openConv_steps {p : Ptr} {conv myId oppsiteId : UInt32} {conn : ServerConn options}
    {blob : Blob Nat} {opened : Option Int} (held : s.Holds p myId oppsiteId)
    (found : s.heap p = some conn) (allocated : conn.blob = some blob)
    (unused : conv ∉ blob.convManager.convToData)
    (returned : Returns (openConv p conv) (m, s) opened (m', s')) :
    Steps ⟨m, s, inbox⟩ ⟨m', s', inbox⟩ ∧ s'.Holds p myId oppsiteId ∧
      (opened = none → s'.Uses p conv) := by
  simp only [openConv, Returns.bind_iff] at returned
  obtain ⟨result, ⟨m1, s1⟩, created, returned⟩ := returned
  obtain ⟨ran, ⟨rfl, rfl⟩ | ⟨fd, rfl, fresh, rfl⟩⟩ := newConnectedUdpFd_ran created
  · obtain ⟨rfl, same⟩ := Returns.pure_iff.mp returned
    obtain ⟨rfl, rfl⟩ := Prod.mk.inj same
    exact ⟨.single (.quiet minor_nil ran.went), held, by simp⟩
  simp only [Returns.bind_iff, theServer_iff] at returned
  obtain ⟨_, _, ⟨rfl, rfl⟩, fd64, ⟨m2, s2⟩, registered, returned⟩ := returned
  obtain ⟨rfl, unknown, rfl, rfl⟩ := registerFd_ran registered
  simp only [call_iff] at returned
  obtain ⟨answer, ⟨m3, _⟩, ⟨asked, rfl⟩, returned⟩ := returned
  obtain ⟨askedRan, given⟩ := ask_ran asked
  have whole := ran.trans askedRan
  rw [List.append_nil] at whole
  split at returned
  · rename_i refused
    simp only [Returns.bind_iff, update_iff, Returns.pure_iff] at returned
    obtain ⟨_, _, rfl, rfl, same⟩ := returned
    obtain ⟨rfl, rfl⟩ := Prod.mk.inj same
    have failed : (m.answers m2.asked).ok = false := by rw [← ran.answers, ← given, refused]
    exact ⟨.single (.lostSocket ⟨_, failed⟩ ⟨fresh, unknown⟩ whole.went), held, by simp⟩
  · simp only [Returns.bind_iff, deref_iff, call_iff, run_iff, store_iff, theBlob_iff,
      Returns.pure_iff] at returned
    obtain ⟨_, _, ⟨same, rfl⟩, _, _, ⟨again, rfl⟩, convs, ⟨m4, _⟩, ⟨inserted, rfl⟩, _, _, rfl, _,
      ⟨m5, _⟩, ⟨recorded, rfl⟩, rfl, final⟩ := returned
    obtain ⟨rfl, rfl⟩ := Prod.mk.inj final
    obtain rfl := Option.some.inj (found.symm.trans same)
    obtain rfl := Option.some.inj (allocated.symm.trans again)
    obtain ⟨insertedRan, dataToConv, convToData, nodes, -, early⟩ :=
      ConvManager.insertConv_ran inserted
    have went := (whole.trans insertedRan).trans (record_ran recorded)
    have serial : ((s.withDescriptors (s.descriptors.sockOpen fd)).descriptors.opened.lookup
        fd).getD 0 = s.descriptors.serials := by
      simp [Server.withDescriptors, Descriptors.sockOpen, Table.lookup_insert]
    rw [serial] at went
    obtain ⟨_, same, ready, rfl, rfl⟩ := held
    obtain rfl := Option.some.inj (found.symm.trans same)
    refine ⟨.single (.openedConv found allocated unused ⟨fresh, unknown⟩ dataToConv convToData
      nodes (fun past => ?_) went.went), ⟨_, Server.heap_put, ready, rfl, rfl⟩, fun _ =>
      ⟨_, _, Server.heap_put, rfl, ?_⟩⟩
    · exact (early (past.mono whole.now)).mono (record_ran recorded).now
    · rw [convToData, Table.insert, AList.mem_insert]
      exact .inl rfl

/-- A conversation is in use, or gets a socket, or neither. -/
theorem ensureConv_steps {p : Ptr} {conv myId oppsiteId : UInt32} {outcome : Option Int}
    (held : s.Holds p myId oppsiteId)
    (returned : Returns (ensureConv p conv) (m, s) outcome (m', s')) :
    Steps ⟨m, s, inbox⟩ ⟨m', s', inbox⟩ ∧ s'.Holds p myId oppsiteId ∧
      (outcome = none → s'.Uses p conv) := by
  simp only [ensureConv, Returns.bind_iff, deref_iff, run_iff, theBlob_iff] at returned
  obtain ⟨conn, _, ⟨found, rfl⟩, blob, _, ⟨allocated, rfl⟩, returned⟩ := returned
  split at returned
  · rename_i used
    obtain ⟨rfl, same⟩ := Returns.pure_iff.mp returned
    obtain ⟨rfl, rfl⟩ := Prod.mk.inj same
    exact ⟨.refl, held, fun _ => ⟨conn, blob, found, allocated, of_decide_eq_true used⟩⟩
  rename_i unused
  split at returned
  · obtain ⟨rfl, same⟩ := Returns.pure_iff.mp returned
    obtain ⟨rfl, rfl⟩ := Prod.mk.inj same
    exact ⟨.refl, held, nofun⟩
  · exact openConv_steps held found allocated
      (by simpa [ConvManager.isConvUsed] using unused) returned

/-- With any `hb_mode`, data keeps the session. -/
theorem noteData_steps {p : Ptr} {myId oppsiteId : UInt32} {value : Unit}
    (held : s.Holds p myId oppsiteId) (returned : Returns (noteData p) (m, s) value (m', s')) :
    Steps ⟨m, s, inbox⟩ ⟨m', s', inbox⟩ ∧ s'.Holds p myId oppsiteId := by
  unfold noteData at returned
  split at returned
  · exact noteHeartbeat_steps held returned
  · obtain ⟨-, same⟩ := Returns.pure_iff.mp returned
    obtain ⟨rfl, rfl⟩ := Prod.mk.inj same
    exact ⟨.refl, held⟩

/-- An accepted message is handled. -/
theorem serverOnRawRecvReady_steps {p : Ptr} {frame : Frame} {myId oppsiteId : UInt32}
    {ret : Int} (held : s.Holds p myId oppsiteId)
    (returned : Returns (serverOnRawRecvReady p frame) (m, s) ret (m', s')) :
    Steps ⟨m, s, ⟨myId, oppsiteId, frame⟩ :: inbox⟩ ⟨m', s', inbox⟩ ∧
      s'.Holds p myId oppsiteId := by
  unfold serverOnRawRecvReady at returned
  split at returned
  · simp only [Returns.bind_iff, Returns.pure_iff] at returned
    obtain ⟨_, _, noted, -, rfl⟩ := returned
    obtain ⟨steps, still⟩ := noteHeartbeat_steps held noted
    exact ⟨steps.tail .skipped, still⟩
  split at returned
  · rename_i data
    simp only [Returns.bind_iff] at returned
    obtain ⟨_, ⟨m1, s1⟩, noted, outcome, ⟨m2, s2⟩, ensured, returned⟩ := returned
    obtain ⟨first, still⟩ : Steps ⟨m, s, ⟨myId, oppsiteId, frame⟩ :: inbox⟩
        ⟨m1, s1, ⟨myId, oppsiteId, frame⟩ :: inbox⟩ ∧ s1.Holds p myId oppsiteId :=
      noteData_steps held noted
    obtain ⟨second, then_, used⟩ : Steps ⟨m1, s1, ⟨myId, oppsiteId, frame⟩ :: inbox⟩
        ⟨m2, s2, ⟨myId, oppsiteId, frame⟩ :: inbox⟩ ∧ s2.Holds p myId oppsiteId ∧
        (outcome = none → s2.Uses p (idAt frame.data 0)) := ensureConv_steps still ensured
    cases outcome with
    | some ret =>
      obtain ⟨-, same⟩ := Returns.pure_iff.mp returned
      obtain ⟨rfl, rfl⟩ := Prod.mk.inj same
      exact ⟨(first.trans second).tail .skipped, then_⟩
    | none =>
      simp only [Returns.bind_iff, Returns.pure_iff] at returned
      obtain ⟨_, _, delivered, -, rfl⟩ := returned
      obtain ⟨third, finally_⟩ := deliver_steps then_ (used rfl) data.1 data.2 delivered
      exact ⟨(first.trans second).trans third, finally_⟩
  · obtain ⟨-, same⟩ := Returns.pure_iff.mp returned
    obtain ⟨rfl, rfl⟩ := Prod.mk.inj same
    exact ⟨.single .skipped, held⟩

/-- The accepted messages of one packet are handled in order. -/
theorem serverOnFrames_steps {p : Ptr} {frames : List Frame} {myId oppsiteId : UInt32}
    {value : Unit} (held : s.Holds p myId oppsiteId)
    (returned : Returns (serverOnFrames p frames) (m, s) value (m', s')) :
    Steps ⟨m, s, frames.map fun frame => ⟨myId, oppsiteId, frame⟩⟩ ⟨m', s', []⟩ := by
  induction frames generalizing m s with
  | nil =>
    obtain ⟨-, same⟩ := Returns.pure_iff.mp returned
    obtain ⟨rfl, rfl⟩ := Prod.mk.inj same
    exact .refl
  | cons frame frames ih =>
    simp only [serverOnFrames, Returns.bind_iff] at returned
    obtain ⟨_, ⟨m1, s1⟩, handled, returned⟩ := returned
    obtain ⟨steps, still⟩ := serverOnRawRecvReady_steps held handled
    exact steps.trans (ih still returned)

/-! ### Captured packets -/

/-- The reply to a `SYN` packet concerns no connection. -/
theorem replySyn_went {value : Unit} (returned : Returns (replySyn options) m value m') :
    ∃ events, Minor events ∧ Went events m m' := by
  simp only [replySyn, Returns.bind_iff] at returned
  obtain ⟨look, m1, one, ⟨raw, payload⟩, m2, two, returned⟩ := returned
  obtain ⟨logged, full, count, -⟩ := recvRawPayload_logged two
  have went := (newRawInfo_ran one).went.trans (logged.went full count)
  cases payload with
  | none =>
    obtain ⟨-, rfl⟩ := Returns.pure_iff.mp returned
    exact ⟨_, minor_nil, went⟩
  | some data =>
    dsimp only at returned
    split at returned
    · obtain ⟨-, rfl⟩ := Returns.pure_iff.mp returned
      exact ⟨_, minor_nil, went⟩
    split at returned
    · obtain ⟨-, rfl⟩ := Returns.pure_iff.mp returned
      exact ⟨_, minor_nil, went⟩
    split at returned
    · simp only [Returns.bind_iff, Returns.pure_iff] at returned
      obtain ⟨_, _, sent, -, rfl⟩ := returned
      refine ⟨_, ?_, went.trans (sendRawPayload_ran sent).1.went⟩
      exact fun event inside => .inl ⟨_, List.mem_singleton.mp inside⟩
    · obtain ⟨-, rfl⟩ := Returns.pure_iff.mp returned
      exact ⟨_, minor_nil, went⟩

/-- A new entry is in the table and waits for the second handshake. -/
theorem newEntry_steps {addr : Address v} {raw : RawInfo options.raw} {p : Ptr} {id1 id3 : UInt32}
    (absent : addr ∉ s.mp) (room : s.mp.size < maxHandshakeConnNum) (source : raw.source = addr)
    (peek : raw.peek = false) (heard : HeardHandshake m.log m.self id1 0 id3)
    (returned : Returns (newEntry addr raw) (m, s) p (m', s')) :
    Steps ⟨m, s, inbox⟩ ⟨m', s', inbox⟩ ∧ (∃ events, Logged events m m') ∧
      ∃ conn, s'.heap p = some conn ∧ conn.state = .handshake1 := by
  simp only [newEntry, Returns.bind_iff, call_iff, theServer_iff, update_iff, store_iff,
    Returns.pure_iff] at returned
  obtain ⟨conn, ⟨m1, _⟩, ⟨one, rfl⟩, answer, ⟨m2, _⟩, ⟨two, rfl⟩, _, _, ⟨rfl, rfl⟩, _, _, rfl, myId,
    ⟨m3, _⟩, ⟨three, rfl⟩, time, ⟨m4, _⟩, ⟨four, rfl⟩, _, ⟨m5, _⟩, ⟨five, rfl⟩, _, _, rfl, rfl,
    final⟩ := returned
  obtain ⟨rfl, rfl⟩ := Prod.mk.inj final
  obtain ⟨ran, -, blob, timer, client, -⟩ := newConnInfo_ran one
  obtain ⟨drew, nonzero⟩ := drawMyId_ran three
  have whole := (((ran.trans (ask_ran two).1).trans drew).trans (getCurrentTime_ran four).1).trans
    (record_ran five)
  refine ⟨.single (.created absent room ?_ heard whole.went), ⟨_, whole.toLogged⟩, _,
    Server.heap_put, rfl⟩
  exact {
    state := rfl
    blob := blob
    timerFd64 := timer
    oppsiteConstId := client
    source := source
    destination := source
    peek := peek
    myId := nonzero }

/-- Metadata that expects an identifier still has to receive. -/
theorem RawInfo.expecting_peek {config : RawConfig v} (raw : RawInfo config) (port : UInt16) :
    (raw.expecting port).peek = raw.peek := by
  unfold RawInfo.expecting
  split <;> rfl

/-- A packet from a new address is dropped, or it creates an entry. -/
theorem serverOnNewAddress_steps {addr : Address v} {value : Unit} (absent : addr ∉ s.mp)
    (source : m.packetBuf.source options.raw = addr)
    (returned : Returns (serverOnNewAddress addr) (m, s) value (m', s')) :
    Steps ⟨m, s, inbox⟩ ⟨m', s', inbox⟩ := by
  simp only [serverOnNewAddress, Returns.bind_iff, theServer_iff] at returned
  obtain ⟨_, _, ⟨rfl, rfl⟩, returned⟩ := returned
  split at returned
  · obtain ⟨discarded, rfl⟩ := call_iff.mp returned
    obtain ⟨logged, -, count⟩ := discardRawPacket_logged discarded
    exact .single (.quiet minor_nil ⟨logged, by rw [count]; exact Nat.zero_le _⟩)
  rename_i room
  simp only [Returns.bind_iff, call_iff] at returned
  obtain ⟨look, ⟨m1, _⟩, ⟨one, rfl⟩, ⟨raw, data⟩, ⟨m2, _⟩, ⟨two, rfl⟩, returned⟩ := returned
  have ran := newRawInfo_ran one
  obtain ⟨full, count, heardFrom, ⟨events, minor, logged, rfl⟩ |
    ⟨from_, input, message, data, rfl, content, logged⟩⟩ := recvBare_logged two
  · obtain ⟨-, same⟩ := Returns.pure_iff.mp returned
    obtain ⟨rfl, rfl⟩ := Prod.mk.inj same
    exact .single (.quiet minor (ran.went.trans (logged.went full count)))
  · have received : Step ⟨m, s, inbox⟩ ⟨m2, s, inbox⟩ :=
      .quiet (fun event inside => .inr ⟨_, _, List.mem_singleton.mp inside⟩)
        (ran.went.trans (logged.went full count))
    have heard := logged.heard_decrypted content
    refine .head received ?_
    dsimp only at returned
    split at returned
    · obtain ⟨-, same⟩ := Returns.pure_iff.mp returned
      obtain ⟨rfl, rfl⟩ := Prod.mk.inj same
      exact .refl
    rename_i long
    split at returned
    · obtain ⟨-, same⟩ := Returns.pure_iff.mp returned
      obtain ⟨rfl, rfl⟩ := Prod.mk.inj same
      exact .refl
    rename_i initial
    rw [not_not] at initial
    simp only [Returns.bind_iff] at returned
    obtain ⟨p, ⟨m3, s3⟩, entered, returned⟩ := returned
    have peek : raw.peek = false := by
      rw [heardFrom.peek, RawInfo.expecting_peek, newRawInfo_peek one]
    have address : raw.source = addr := by rw [from_, ran.packetBuf, source]
    obtain ⟨steps, ⟨_, kept⟩, conn, found, waiting⟩ := newEntry_steps absent (Nat.not_le.mp room)
      address peek ⟨data, heard, Nat.not_lt.mp long, rfl, initial, rfl⟩ entered
    exact steps.trans (serverOnRawRecvHandshake1_steps found waiting (kept.heard heard) returned)

/-- The packet of an entry that waits is parsed, and its bare message heard. -/
theorem recvBare_steps {addr : Address v} {p : Ptr} {conn : ServerConn options}
    {rawInfo : RawInfo options.raw} {data : Option Bytes} (found : s.heap p = some conn)
    (known : s.mp.lookup addr = some p) (source : m.packetBuf.source options.raw = addr)
    (returned : Returns (recvBare options conn.rawInfo) m (rawInfo, data) m') :
    Steps ⟨m, s, inbox⟩ ⟨m', s.put p { conn with rawInfo }, inbox⟩ ∧
      (∀ heard ∈ data, HeardBare m'.log m'.self heard) ∧
      m'.packetBufCnt = if conn.rawInfo.peek then 1 else 0 := by
  obtain ⟨full, count, heardFrom, outcome⟩ := recvBare_logged returned
  rw [source] at heardFrom
  have touches (clock : m.now ≤ m'.now) : s.Touches p conn { conn with rawInfo } m.now m'.now :=
    ⟨found, ⟨rfl, rfl, rfl, rfl, ConnInfo.rel_of_eq (fun blob => .refl blob clock) rfl, rfl⟩,
      .inr ⟨addr, known, heardFrom⟩⟩
  have same : conn.SameSession { conn with rawInfo } :=
    ⟨rfl, ConnInfo.rel_of_eq (fun _ => rfl) rfl⟩
  obtain ⟨events, minor, logged, rfl⟩ | ⟨-, input, message, data, rfl, content, logged⟩ := outcome
  · exact ⟨.single (.alone inbox (touches logged.now) (.minor same minor) (logged.went full count)),
      nofun, count⟩
  · refine ⟨.single (.alone inbox (touches logged.now)
      (.minor same fun event inside => .inr ⟨_, _, List.mem_singleton.mp inside⟩)
      (logged.went full count)), fun heard inside => ?_, count⟩
    obtain rfl := Option.mem_some_iff.mp inside
    exact logged.heard_decrypted content

/-- The packet of a ready entry is parsed, and its accepted messages wait. -/
theorem recvSaferMulti_steps {addr : Address v} {p : Ptr} {conn next : ServerConn options}
    {frames : List Frame} (found : s.heap p = some conn) (ready : conn.state = .ready)
    (known : s.mp.lookup addr = some p) (source : m.packetBuf.source options.raw = addr)
    (returned : Returns (recvSaferMulti conn) m (next, frames) m') :
    Steps ⟨m, s, []⟩
        ⟨m', s.put p next, frames.map fun frame => ⟨conn.myId, conn.oppsiteId, frame⟩⟩ ∧
      (s.put p next).Holds p conn.myId conn.oppsiteId ∧
      (conn.rawInfo.peek = false → m'.packetBufCnt = 0) := by
  obtain ⟨rawInfo, m1, logged, full, count, heardFrom, receives⟩ := recvSaferMulti_receives returned
  rw [source] at heardFrom
  have touches : s.Touches p conn { conn with rawInfo } m.now m1.now :=
    ⟨found, ⟨rfl, rfl, rfl, rfl, ConnInfo.rel_of_eq (fun blob => .refl blob logged.now) rfl, rfl⟩,
      .inr ⟨addr, known, heardFrom⟩⟩
  have same : conn.SameSession { conn with rawInfo } :=
    ⟨rfl, ConnInfo.rel_of_eq (fun _ => rfl) rfl⟩
  have touched : Step ⟨m, s, []⟩ ⟨m1, s.put p { conn with rawInfo }, []⟩ :=
    .alone [] touches (.minor same minor_nil) (logged.went full count)
  obtain ⟨steps, state, myId, oppsiteId⟩ := receives_steps (Server.heap_put (s := s)) receives
  rw [Server.put_put] at steps
  refine ⟨.head touched (steps []), ⟨next, Server.heap_put, state.trans ready, myId, oppsiteId⟩, ?_⟩
  intro peek
  obtain ⟨_, went⟩ := Steps.went (steps [])
  have taken : m1.packetBufCnt = 0 := by rw [count, peek]; rfl
  exact Nat.le_zero.mp (taken ▸ went.packetBufCnt)

/-- A packet from a known address is handled in the state of its entry. -/
theorem serverOnKnownAddress_steps {addr : Address v} {p : Ptr} {value : Unit}
    (known : s.mp.lookup addr = some p) (source : m.packetBuf.source options.raw = addr)
    (returned : Returns (serverOnKnownAddress p) (m, s) value (m', s')) :
    Steps ⟨m, s, []⟩ ⟨m', s', []⟩ := by
  simp only [serverOnKnownAddress, Returns.bind_iff, deref_iff] at returned
  obtain ⟨conn, _, ⟨found, rfl⟩, returned⟩ := returned
  split at returned
  · rename_i waiting
    simp only [Returns.bind_iff, call_iff, store_iff] at returned
    obtain ⟨⟨rawInfo, data⟩, ⟨m1, _⟩, ⟨one, rfl⟩, _, _, rfl, returned⟩ := returned
    obtain ⟨steps, heard, -⟩ := recvBare_steps found known source one
    refine steps.trans ?_
    cases data with
    | none =>
      obtain ⟨-, last⟩ := Returns.pure_iff.mp returned
      obtain ⟨rfl, rfl⟩ := Prod.mk.inj last
      exact .refl
    | some data =>
      exact serverOnRawRecvHandshake1_steps Server.heap_put waiting (heard data rfl) returned
  · rename_i ready
    simp only [Returns.bind_iff, call_iff, store_iff] at returned
    obtain ⟨⟨next, frames⟩, ⟨m1, _⟩, ⟨one, rfl⟩, _, _, rfl, returned⟩ := returned
    obtain ⟨steps, holds, -⟩ := recvSaferMulti_steps found ready known source one
    exact steps.trans (serverOnFrames_steps holds returned)
  · obtain ⟨discarded, rfl⟩ := call_iff.mp returned
    obtain ⟨logged, -, count⟩ := discardRawPacket_logged discarded
    exact .single (.quiet minor_nil ⟨logged, by rw [count]; exact Nat.zero_le _⟩)

/-- A packet whose source is known is handled in steps. -/
theorem serverOnPeeked_steps {peeked : RawInfo options.raw} {value : Unit}
    (source : m.packetBuf.source options.raw = peeked.source)
    (returned : Returns (serverOnPeeked peeked) (m, s) value (m', s')) :
    Steps ⟨m, s, []⟩ ⟨m', s', []⟩ := by
  simp only [serverOnPeeked, Returns.bind_iff, theServer_iff] at returned
  obtain ⟨_, _, ⟨rfl, rfl⟩, returned⟩ := returned
  split at returned
  · simp only [Returns.bind_iff, run_iff] at returned
    obtain ⟨ready, _, ⟨-, rfl⟩, returned⟩ := returned
    split at returned
    · obtain ⟨discarded, rfl⟩ := call_iff.mp returned
      obtain ⟨logged, -, count⟩ := discardRawPacket_logged discarded
      exact .single (.quiet minor_nil ⟨logged, by rw [count]; exact Nat.zero_le _⟩)
    · obtain ⟨replied, rfl⟩ := call_iff.mp returned
      obtain ⟨events, minor, went⟩ := replySyn_went replied
      exact .single (.quiet minor went)
  · split at returned
    · rename_i absent
      exact serverOnNewAddress_steps (AList.lookup_eq_none.mp absent) source returned
    · rename_i p known
      exact serverOnKnownAddress_steps known source returned

/-- A captured packet is put into the buffer and then handled in steps. -/
theorem serverOnRawRecvMulti_steps {received : Option Capture} {value : Unit}
    (returned : Returns (serverOnRawRecvMulti received) (m, s) value (m', s')) :
    ∃ m1, Logged [] m m1 ∧ Steps ⟨m1, s, []⟩ ⟨m', s', []⟩ := by
  simp only [serverOnRawRecvMulti, Returns.bind_iff, call_iff] at returned
  obtain ⟨look, ⟨m1, _⟩, ⟨one, rfl⟩, ret, ⟨m2, _⟩, ⟨two, rfl⟩, returned⟩ := returned
  have captured := (newRawInfo_ran one).toLogged.trans (preRecvRawPacket_logged two).1
  refine ⟨m2, captured, ?_⟩
  split at returned
  · obtain ⟨-, same⟩ := Returns.pure_iff.mp returned
    obtain ⟨rfl, rfl⟩ := Prod.mk.inj same
    exact .refl
  · simp only [Returns.bind_iff, call_iff, peekRawPacket_iff] at returned
    obtain ⟨⟨peeked, seen⟩, ⟨m3, _⟩, ⟨⟨-, looked, rfl⟩, rfl⟩, returned⟩ := returned
    cases seen with
    | true => exact serverOnPeeked_steps (peekRaw_source looked.symm).symm returned
    | false =>
      obtain ⟨discarded, rfl⟩ := call_iff.mp returned
      obtain ⟨logged, -, count⟩ := discardRawPacket_logged discarded
      exact .single (.quiet minor_nil ⟨logged, by rw [count]; exact Nat.zero_le _⟩)

end Udp2raw
