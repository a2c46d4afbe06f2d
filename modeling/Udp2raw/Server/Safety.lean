import Udp2raw.Connection.GroFraming
import Udp2raw.Server.Faults

/-!
# What holds of every reachable server

The invariants of the connection tables and of the descriptors, in the terms of the tables
themselves, and what follows from them for the handlers: the exits that guard against broken
tables are never taken, and an event of a live descriptor is handled to its end.
-/
namespace Udp2raw

open Proc ServerProc Server

variable {v : IpVersion} {options : Options v}

namespace Server

/-! ### Connection tables -/

/-- Whether a pointer is to a ready connection. -/
def pointsToReady (server : Server options) (p : Ptr) : Bool :=
  (server.heap p).any fun conn => decide (conn.state = .ready)

/-- The number of ready entries. -/
def readyCount (server : Server options) : Nat :=
  (server.mp.entries.filter fun entry => server.pointsToReady entry.2).length

/-- The connection tables of a server. -/
structure Registry (server : Server options) : Prop where
  /-- An address leads to a connection, -/
  objects : ∀ addr p, server.mp.lookup addr = some p → ∃ conn, server.heap p = some conn
  /-- and different addresses lead to different ones. -/
  distinct : ∀ addr other p, server.mp.lookup addr = some p → server.mp.lookup other = some p →
    addr = other
  /-- An entry that is not idle receives from its address and sends there. -/
  peer : ∀ addr p conn, server.mp.lookup addr = some p → server.heap p = some conn →
    conn.state = .handshake1 ∨ conn.state = .ready →
    conn.rawInfo.source = addr ∧ conn.rawInfo.destination = addr
  /-- A client is known exactly by its ready entry. -/
  client : ∀ constId p, server.constIdMp.lookup constId = some p ↔
    ∃ addr conn, server.mp.lookup addr = some p ∧ server.heap p = some conn ∧
      conn.state = .ready ∧ conn.oppsiteConstId = constId
  /-- The ready connections are counted, -/
  counted : server.readyNum.toNat = server.constIdMp.size ∧
    server.constIdMp.size = server.readyCount
  /-- and there are not too many of them. -/
  readyMax : server.readyCount ≤ maxReadyConnNum
  /-- There are not too many entries. -/
  entriesMax : server.mp.size ≤ maxHandshakeConnNum
  /-- An entry that is not ready has nothing of a ready one. -/
  unready : ∀ addr p conn, server.mp.lookup addr = some p → server.heap p = some conn →
    conn.state ≠ .ready → conn.blob = none ∧ conn.timerFd64 = 0 ∧ conn.oppsiteConstId = 0

variable {server : Server options}

/-- A pointer to a ready connection. -/
theorem pointsToReady_iff {p : Ptr} :
    server.pointsToReady p = true ↔ ∃ conn, server.heap p = some conn ∧ conn.state = .ready := by
  unfold pointsToReady
  cases server.heap p with
  | none => simp
  | some conn => simp

/-- The pointers of a table without repetition. -/
theorem nodup_values {κ : Type} [DecidableEq κ] {table : Table κ Ptr}
    (distinct : ∀ key other p, table.lookup key = some p → table.lookup other = some p →
      key = other) : (table.entries.map Sigma.snd).Nodup := by
  have entries : table.entries.Nodup := table.nodupKeys.nodup
  refine List.Nodup.map_on (fun one inOne two inTwo same => ?_) entries
  obtain ⟨key, p⟩ := one
  obtain ⟨other, q⟩ := two
  obtain rfl : p = q := same
  have first : table.lookup key = some p := AList.mem_lookup_iff.mpr inOne
  have second : table.lookup other = some p := AList.mem_lookup_iff.mpr inTwo
  obtain rfl := distinct key other p first second
  rfl

/-- The pointers that a table leads to. -/
theorem mem_values {κ : Type} [DecidableEq κ] {table : Table κ Ptr} {p : Ptr} :
    p ∈ table.entries.map Sigma.snd ↔ ∃ key, table.lookup key = some p := by
  constructor
  · intro inside
    obtain ⟨⟨key, q⟩, there, rfl⟩ := List.mem_map.mp inside
    exact ⟨key, AList.mem_lookup_iff.mpr there⟩
  · rintro ⟨key, known⟩
    exact List.mem_map.mpr ⟨⟨key, p⟩, AList.mem_lookup_iff.mp known, rfl⟩

/-- Each ready entry is known by one client, and each client by one ready entry. -/
theorem Tables.readyCount (tables : server.Tables) :
    server.constIdMp.size = server.readyCount := by
  have clients : (server.constIdMp.entries.map Sigma.snd).Nodup := by
    refine nodup_values fun constId other p first second => ?_
    obtain ⟨conn, found, -, rfl⟩ := tables.client constId p first
    obtain ⟨_, found', -, rfl⟩ := tables.client other p second
    obtain rfl := Option.some.inj (found.symm.trans found')
    rfl
  have ready : ((server.mp.entries.map Sigma.snd).filter server.pointsToReady).Nodup :=
    (nodup_values tables.distinct).filter _
  have same : (server.constIdMp.entries.map Sigma.snd).Perm
      ((server.mp.entries.map Sigma.snd).filter server.pointsToReady) := by
    refine (List.perm_ext_iff_of_nodup clients ready).mpr fun p => ?_
    rw [mem_values, List.mem_filter, mem_values, pointsToReady_iff]
    constructor
    · rintro ⟨constId, known⟩
      obtain ⟨conn, found, used, -⟩ := tables.client constId p known
      exact ⟨tables.filed p conn found, conn, found, used⟩
    · rintro ⟨-, conn, found, used⟩
      exact ⟨conn.oppsiteConstId, (tables.ready p conn found used).2⟩
  have length := same.length_eq
  rw [List.length_map, List.filter_map, List.length_map] at length
  exact length

/-- The tables of a server in their own terms. -/
theorem Tables.registry (tables : server.Tables) : server.Registry where
  objects := tables.allocated
  distinct := tables.distinct
  peer addr p conn known found used :=
    tables.peer addr p conn known found (by rcases used with used | used <;> rw [used] <;> nofun)
  client constId p := by
    constructor
    · intro known
      obtain ⟨conn, found, used, client⟩ := tables.client constId p known
      obtain ⟨addr, filed⟩ := tables.filed p conn found
      exact ⟨addr, conn, filed, found, used, client⟩
    · rintro ⟨_, conn, -, found, used, rfl⟩
      exact (tables.ready p conn found used).2
  counted := ⟨tables.readyNum, tables.readyCount⟩
  readyMax := tables.readyCount ▸ tables.readyMax
  entriesMax := tables.entriesMax
  unready _ p conn _ found idle := tables.unready p conn found idle

end Server

/-- A captured packet stops a server in order by an exit only where the system failed. -/
theorem serverOnRawRecvMulti_exit {m : Machine v} {s : Server options} {received : Option Capture}
    {text : String} (intact : Intact m s) (empty : m.packetBufCnt = 0)
    (stopped : StopsWith (serverOnRawRecvMulti received) (m, s) (.exit text)) :
    text = "timer_fd create error" ∨ text = "epoll_ctl return" := by
  have stops : Stops (serverOnRawRecvMulti received) (m, s) fun fault =>
      ∀ message, fault = .exit message →
        message = "timer_fd create error" ∨ message = "epoll_ctl return" := by
    refine serverOnRawRecvMulti_stops intact empty ?_ fun _ _ _ => nofun
    rintro fault (_ | _ | _) message same
    · exact .inl (Fault.exit.inj same).symm
    · exact .inr (Fault.exit.inj same).symm
    · contradiction
  exact stops _ stopped text rfl

/-! ### A server with one client -/

/-- A handshake from a port of 10.0.0.1 to port 4096, without encryption. -/
def handshakeCapture (port : UInt8) (id1 id2 id3 : UInt32) : Capture where
  packet := [0x45, 0, 0, 69, 0, 0, 0x40, 0, 64, 6, 0x26, 0xb1, 10, 0, 0, 1, 10, 0, 0, 2] ++
    [0, port, 16, 0, 0, 0, 0, 0, 0, 0, 0, 0, 0x50, 16, 0, 0, 0, 0, 0, 0] ++
    bareMessage 0 0 (numbersToChar id1 id2 id3)
  stale := fun _ => 0

/-- Its source. -/
def handshakeAddress (port : UInt16) : Address .ipv4 := ⟨⟨#[10, 0, 0, 1], rfl⟩, port⟩

/-- Options of the server that drop every answer. -/
def droppingOptions : Options .ipv4 :=
  { plainOptions with raw := { plainServer with randomDrop := 10000 } }

/-- The answers of a system whose clock goes on a quarter of an hour each time it is asked. -/
def clockAnswers (asked : Nat) : Answer .ipv4 := { Answer.plain with rawTime := asked * 10 ^ 9 }

/-- The descriptors of the event loop. -/
def plainStanding : Standing := ⟨3, 4, none, by simp⟩

/-- An event of the raw socket. -/
def captured (capture : Capture) : EpollEvent := ⟨4, some capture, none⟩

/-- The table with the first of these addresses as its only key. -/
def oneEntry : Table (Address .ipv4) Ptr := ⟨[⟨handshakeAddress 1, 0⟩], List.nodupKeys_singleton _⟩

/-- The table with one client. -/
def oneClient (constId : UInt32) : Table UInt32 Ptr := ⟨[⟨constId, 0⟩], List.nodupKeys_singleton _⟩

/-- After the first handshake of a client, at a server that starts. -/
def heardFirst : Machine .ipv4 × Server droppingOptions :=
  leaves (serverOnEvent plainStanding (captured (handshakeCapture 1 8 0 0)))
    (.start .server clockAnswers 4096, .start)

/-- Tables with the same entries are the same. -/
theorem written_eq {state : Machine v × Server options} {mp : Table (Address v) Ptr}
    {constIdMp : Table UInt32 Ptr} (entries : state.2.mp.entries = mp.entries)
    (clients : state.2.constIdMp.entries = constIdMp.entries) :
    (state.1, { state.2 with mp, constIdMp }) = state := by
  obtain ⟨m, s⟩ := state
  have mp : s.mp = mp := AList.ext entries
  have constIdMp : s.constIdMp = constIdMp := AList.ext clients
  subst mp constIdMp
  rfl

/-- The server handles that handshake. -/
theorem heardFirst_goes :
    resultOf (serverOnEvent plainStanding (captured (handshakeCapture 1 8 0 0)))
      (.start .server clockAnswers 4096, (Server.start : Server droppingOptions)) = some true := by
  decide +kernel

/-- The state after the first handshake, with its tables written out. -/
def waiting : Machine .ipv4 × Server droppingOptions :=
  (heardFirst.1, { heardFirst.2 with mp := oneEntry, constIdMp := ∅ })

/-- The first handshake creates an entry. -/
theorem waiting_eq : waiting = heardFirst := by
  have entries : heardFirst.2.mp.entries = oneEntry.entries := by decide +kernel
  have clients : heardFirst.2.constIdMp.entries = [] := by decide +kernel
  exact written_eq entries clients

/-- A client can wait for the answer to its first handshake. -/
theorem waiting_reachable :
    Reachable droppingOptions plainStanding clockAnswers 4096 waiting := by
  rw [waiting_eq]
  exact .event .start (returns_of_resultOf heardFirst_goes)

/-- After the second handshake of a client with a number. -/
def heardSecond (constId : UInt32) : Machine .ipv4 × Server droppingOptions :=
  leaves (serverOnEvent plainStanding (captured (handshakeCapture 1 8 5 constId))) waiting

/-- The state after the second handshake, with its tables written out. -/
def readyFor (constId : UInt32) : Machine .ipv4 × Server droppingOptions :=
  ((heardSecond constId).1,
    { (heardSecond constId).2 with mp := oneEntry, constIdMp := oneClient constId })

/-- The second handshake makes the connection ready. -/
theorem readyFor_reachable {constId : UInt32}
    (goes : resultOf (serverOnEvent plainStanding (captured (handshakeCapture 1 8 5 constId)))
      waiting = some true)
    (same : readyFor constId = heardSecond constId) :
    Reachable droppingOptions plainStanding clockAnswers 4096 (readyFor constId) := by
  rw [same]
  exact .event waiting_reachable (returns_of_resultOf goes)

/-- The server handles the second handshake of a client that names itself seven. -/
theorem heardSeven_goes :
    resultOf (serverOnEvent plainStanding (captured (handshakeCapture 1 8 5 7))) waiting =
      some true := by
  decide +kernel

/-- It is ready for this client. -/
theorem readyForSeven_eq : readyFor 7 = heardSecond 7 := by
  have entries : (heardSecond 7).2.mp.entries = oneEntry.entries := by decide +kernel
  have clients : (heardSecond 7).2.constIdMp.entries = (oneClient 7).entries := by decide +kernel
  exact written_eq entries clients

/-- A client that names itself seven is accepted. -/
theorem readyForSeven_reachable :
    Reachable droppingOptions plainStanding clockAnswers 4096 (readyFor 7) :=
  readyFor_reachable heardSeven_goes readyForSeven_eq

/-! ### Whole runs -/

/-- In every run the connection tables agree, and the exits that guard against tables that do
not are never taken. -/
theorem Reachable.connTables {standing : Standing} {answers : Nat → Answer v} {filterPort : UInt16}
    {state : Machine v × Server options}
    (reachable : Reachable options standing answers filterPort state) :
    state.2.Registry ∧
      ∀ received text, StopsWith (serverOnRawRecvMulti received) state (.exit text) →
        text ∉ ["this shouldnt happen", "this shouldnt happen2", "this should never happen"] := by
  refine ⟨reachable.tables.registry, fun received text stopped guarded => ?_⟩
  obtain rfl | rfl := serverOnRawRecvMulti_exit reachable.intact reachable.empty stopped
  · exact absurd guarded (by decide)
  · exact absurd guarded (by decide)

/-- With a ready client there is an entry, and the tables agree. -/
theorem connTables_seven :
    (readyFor 7).2.mp.lookup (handshakeAddress 1) = some 0 ∧ (readyFor 7).2.readyCount = 1 ∧
      (readyFor 7).2.Registry ∧
      ∀ received text, StopsWith (serverOnRawRecvMulti received) (readyFor 7) (.exit text) →
        text ∉ ["this shouldnt happen", "this shouldnt happen2", "this should never happen"] :=
  ⟨by decide, by decide +kernel, Reachable.connTables readyForSeven_reachable⟩

/-! ### Descriptors -/

namespace Server

/-- A number is the timer of a connection or belongs to one of its conversations. -/
def HasNumber (conn : ServerConn options) (fd64 : Nat) : Prop :=
  fd64 = conn.timerFd64 ∨ ∃ blob, conn.blob = some blob ∧ fd64 ∈ blob.convManager.dataToConv

/-- Who has which number of `fd_manager`. -/
structure Ownership (server : Server options) : Prop where
  /-- A known number leads to an entry that is ready. It is the timer of this connection or belongs
  to one of its conversations, not both, and no other connection has it. -/
  owner : ∀ fd64, server.descriptors.exist fd64 = true →
    ∃ p addr conn blob, server.descriptors.fdInfo.lookup fd64 = some p ∧
      server.mp.lookup addr = some p ∧ server.heap p = some conn ∧ conn.state = .ready ∧
      conn.blob = some blob ∧
      Xor (fd64 = conn.timerFd64) (fd64 ∈ blob.convManager.dataToConv) ∧
      ∀ q other, server.heap q = some other → HasNumber other fd64 → q = p
  /-- The numbers of a ready connection are known. -/
  holdings : ∀ p conn fd64, server.heap p = some conn → conn.state = .ready → HasNumber conn fd64 →
    server.descriptors.exist fd64 = true

end Server

variable {m : Machine v} {server : Server options}

/-- What a connection has is registered under its name. -/
theorem Intact.number_owned (intact : Intact m server) {p : Ptr} {conn : ServerConn options}
    {fd64 : Nat} (positive : fd64 ≠ 0) (found : server.heap p = some conn)
    (holds : HasNumber conn fd64) :
    conn.state = .ready ∧ server.descriptors.fdInfo.lookup fd64 = some p := by
  have ready : conn.state = .ready := by
    by_contra unready
    obtain ⟨empty, untimed, -⟩ := intact.tables.unready p conn found unready
    obtain timer | ⟨blob, contents, -⟩ := holds
    · exact positive (timer.trans untimed)
    · rw [empty] at contents
      contradiction
  obtain rfl | ⟨blob, contents, used⟩ := holds
  · exact ⟨ready, (intact.custody.timer p conn found ready).2⟩
  · obtain ⟨conv, stored⟩ := Table.mem_iff_lookup.mp used
    have linked := intact.custody.linked p conn blob found contents
    exact ⟨ready, (intact.custody.sockets p conn blob conv fd64 found contents
      ((linked.inverse conv fd64).mpr stored)).2⟩

/-- A server in order where every open descriptor has a number owns its descriptors. -/
theorem Intact.ownership (intact : Intact m server) (tracked : server.descriptors.Tracked) :
    server.Ownership where
  owner fd64 exists64 := by
    have present : fd64 ∈ server.descriptors.fd64ToFd := of_decide_eq_true exists64
    have positive : fd64 ≠ 0 := by
      have := (intact.custody.sound.numbered fd64 present).1
      omega
    obtain ⟨fd, known⟩ := Table.mem_iff_lookup.mp present
    obtain ⟨p, owned⟩ := Table.mem_iff_lookup.mp ((intact.custody.sound.info fd64).mpr present)
    obtain ⟨conn, found, ready, blob, contents, use⟩ :=
      intact.used fd64 fd p known (tracked fd64 fd known) owned
    obtain ⟨addr, filed⟩ := intact.tables.filed p conn found
    have linked := intact.custody.linked p conn blob found contents
    refine ⟨p, addr, conn, blob, owned, filed, found, ready, contents, ?_, ?_⟩
    · have apart (conv : UInt32) (stored : blob.convManager.convToData.lookup conv = some fd64) :
          fd64 ≠ conn.timerFd64 :=
        (intact.custody.sockets p conn blob conv fd64 found contents stored).1
      obtain timer | ⟨conv, stored⟩ := use
      · refine .inl ⟨timer, fun inside => ?_⟩
        obtain ⟨conv, stored⟩ := Table.mem_iff_lookup.mp inside
        exact apart conv ((linked.inverse conv fd64).mpr stored) timer
      · exact .inr ⟨Table.mem_iff_lookup.mpr ⟨conv, (linked.inverse conv fd64).mp stored⟩,
          apart conv stored⟩
    · intro q other there holds
      have other := (intact.number_owned positive there holds).2
      exact (Option.some.inj (owned.symm.trans other)).symm
  holdings p conn fd64 found ready holds := by
    have positive : fd64 ≠ 0 := by
      obtain rfl | ⟨blob, contents, used⟩ := holds
      · exact (intact.custody.timer p conn found ready).1
      · obtain ⟨conv, stored⟩ := Table.mem_iff_lookup.mp used
        have linked := intact.custody.linked p conn blob found contents
        have owned := (intact.custody.sockets p conn blob conv fd64 found contents
          ((linked.inverse conv fd64).mpr stored)).2
        have := (intact.custody.sound.numbered fd64 (intact.custody.known owned)).1
        omega
    exact decide_eq_true (intact.custody.known (intact.number_owned positive found holds).2)

/-- An event of a live number is no event of a standing descriptor. -/
theorem Intact.apart (intact : Intact m server) (standing : Standing) {fd64 : Nat}
    (exists64 : server.descriptors.exist fd64 = true) :
    2 ^ 32 - 1 < fd64 ∧ fd64 ≠ standing.timerFd ∧ fd64 ≠ standing.rawRecvFd ∧
      some fd64 ≠ standing.fifoFd := by
  have large := (intact.custody.sound.numbered fd64 (of_decide_eq_true exists64)).1
  refine ⟨large, fun same => ?_, fun same => ?_, fun same => ?_⟩
  · exact absurd large (Nat.not_lt.mpr (standing.small fd64 (.inl same)))
  · exact absurd large (Nat.not_lt.mpr (standing.small fd64 (.inr (.inl same))))
  · exact absurd large (Nat.not_lt.mpr (standing.small fd64 (.inr (.inr same))))

/-- As long as the system calls succeed, every number of `fd_manager` belongs to one thing of one
ready connection. An event of a live number is handled to its end, and no event fails an assertion
about the numbers. -/
theorem Reachable.fdOwnership {standing : Standing} {answers : Nat → Answer v} {filterPort : UInt16}
    {state : Machine v × Server options} (sure : ∀ position, (answers position).ok = true)
    (reachable : Reachable options standing answers filterPort state) :
    state.2.Ownership ∧
      (∀ event : EpollEvent, state.2.descriptors.exist event.data = true →
        Succeeds (serverOnEvent standing event) state fun going _ => going = true) ∧
      ∀ event text, StopsWith (serverOnEvent standing event) state (.assertion text) →
        text ∉ ["fd_manager.exist_info(fd64)", "exist(fd64)", "state == server_ready",
          "is_data_used(fd64)", "fd_manager.exist(fd64)", "timer_fd64 != 0",
          "fd_manager.exist(timer_fd64)", "timer_fd64 == 0", "!fd_exist(fd)"] := by
  obtain ⟨m, s⟩ := state
  have intact := reachable.intact
  have certain : ∀ position, (m.answers position).ok = true := by
    rw [show m.answers = answers from reachable.answers_eq]
    exact sure
  have tracked : s.descriptors.Tracked := intact.tracked certain
  have current (event : EpollEvent) : event.Current s := fun fd known => tracked event.data fd known
  refine ⟨intact.ownership tracked, fun event exists64 => ?_, fun event text stopped guarded => ?_⟩
  · obtain ⟨large, timer, raw, fifo⟩ := intact.apart standing exists64
    obtain ⟨fd, known⟩ := Table.mem_iff_lookup.mp (of_decide_eq_true exists64)
    have goes : Stops (serverOnFd64 event.data event.bytes) (m, s) fun _ => False :=
      serverOnFd64_stops intact known (tracked event.data fd known)
    obtain ⟨_, after, handled, -⟩ := goes.succeeds
    refine ⟨true, after, ?_, rfl⟩
    have exists64 : s.descriptors.exist event.data = true := exists64
    simp only [serverOnEvent, if_neg timer, if_neg raw, if_neg fifo, if_pos large,
      Returns.bind_iff, theServer_iff]
    refine ⟨s, (m, s), ⟨rfl, rfl⟩, ?_⟩
    rw [if_neg (by rw [exists64]; nofun)]
    exact Returns.bind_iff.mpr ⟨_, after, handled, Returns.pure_iff.mpr ⟨rfl, rfl⟩⟩
  · have fault := serverOnEvent_stops intact reachable.cursor reachable.empty (current event) _
      stopped
    cases fault with
    | system _ failed =>
      cases failed with
      | @reused position refused =>
        have answered : _ = true := certain position
        rw [refused] at answered
        contradiction
    | nameless => exact absurd guarded (by decide)

/-- The timer of a ready client is a live number, and its connection owns it. -/
theorem fdOwnership_seven :
    (readyFor 7).2.descriptors.exist (2 ^ 32 + 99) = true ∧ (readyFor 7).2.Ownership ∧
      (∀ event : EpollEvent, (readyFor 7).2.descriptors.exist event.data = true →
        Succeeds (serverOnEvent plainStanding event) (readyFor 7) fun going _ => going = true) ∧
      ∀ event text, StopsWith (serverOnEvent plainStanding event) (readyFor 7) (.assertion text) →
        text ∉ ["fd_manager.exist_info(fd64)", "exist(fd64)", "state == server_ready",
          "is_data_used(fd64)", "fd_manager.exist(fd64)", "timer_fd64 != 0",
          "fd_manager.exist(timer_fd64)", "timer_fd64 == 0", "!fd_exist(fd)"] :=
  ⟨by decide +kernel, Reachable.fdOwnership (fun _ => rfl) readyForSeven_reachable⟩

end Udp2raw
