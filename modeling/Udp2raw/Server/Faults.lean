import Udp2raw.Connection.Stops
import Udp2raw.Server.Custody

/-!
# Why the server may stop

A server whose tables agree and whose connections own their descriptors goes on with every
event, apart from a few reasons that lie outside of its tables: an answer of the system, a
captured packet that the parser lets through without a payload, or a client that named
itself zero. The theorems here go through the handlers once and find these reasons.
-/
namespace Udp2raw

open Proc ServerProc Server

variable {v : IpVersion} {options : Options v} {α : Type} {m m' : Machine v}
  {s s' : Server options}

/-! ### Reasons -/

/-- Why an answer of the system may stop the server. -/
inductive SystemFault (answers : Nat → Answer v) : Fault → Prop
  /-- There is no timer. -/
  | timer {position : Nat} {opened : List Nat} :
      (answers position).descriptor opened = none →
      SystemFault answers (.exit "timer_fd create error")
  /-- `epoll` does not take the timer. -/
  | epoll {position : Nat} :
      (answers position).ok = false → SystemFault answers (.exit "epoll_ctl return")
  /-- A descriptor that `epoll` did not take is given out again. -/
  | reused {position : Nat} : (answers position).ok = false →
      SystemFault answers (.assertion "!fd_exist(fd)")

/-- Why a captured packet may stop the server. -/
inductive PacketFault (options : Options v) (machine : Machine v) : Fault → Prop
  /-- The system answers so. -/
  | system {fault : Fault} : SystemFault machine.answers fault → PacketFault options machine fault
  /-- The packet has no payload. -/
  | unparsed : Unparsed options machine → PacketFault options machine (.undefined "data")

/-- The server is in order. -/
structure Intact (machine : Machine v) (server : Server options) : Prop where
  /-- The tables agree. -/
  tables : server.Tables
  /-- The connections own their descriptors. -/
  custody : server.Custody
  /-- No conversation was used in the future. -/
  early : Early machine server
  /-- The numbers of open descriptors are in use. -/
  used : server.Used
  /-- The numbered descriptors are open, if `epoll` takes every socket. -/
  tracked : (∀ position, (machine.answers position).ok = true) → server.descriptors.Tracked

/-- A part of a run that leaves the server alone leaves it in order. -/
theorem Intact.logged {events : List (Event v)} (logged : Logged events m m')
    (intact : Intact m s) : Intact m' s := by
  refine ⟨intact.tables, intact.custody, ?_, intact.used, ?_⟩
  · exact fun p conn blob found inside => (intact.early p conn blob found inside).mono logged.now
  · rw [logged.answers]
    exact intact.tracked

/-- A step leaves the server in order. -/
theorem Intact.step {one two : Stage options} (step : Step one two)
    (intact : Intact one.machine one.server) : Intact two.machine two.server where
  tables := intact.tables.step step
  custody := intact.custody.step step intact.tables
  early := intact.early.step step
  used := intact.used.step step intact.tables intact.custody
  tracked sure := by
    obtain ⟨_, went⟩ := step.went
    rw [went.answers] at sure
    exact tracked_step step sure intact.custody (intact.tracked sure)

/-- A sequence of steps leaves the server in order. -/
theorem Intact.steps {one two : Stage options} (steps : Steps one two)
    (intact : Intact one.machine one.server) : Intact two.machine two.server :=
  steps.keeps Intact Intact.step intact

/-- A server that starts is in order. -/
theorem intact_start (self : Party) (answers : Nat → Answer v) (filterPort : UInt16) :
    Intact (.start self answers filterPort) (Server.start : Server options) where
  tables := tables_start
  custody := custody_start
  early := by simp [Early, Server.start]
  used := used_start
  tracked _ := Descriptors.tracked_new

/-- The system gave an answer that `epoll` did not take a socket, or it never does. -/
theorem answers_cases (answers : Nat → Answer v) :
    (∃ position, (answers position).ok = false) ∨ ∀ position, (answers position).ok = true := by
  by_cases refused : ∃ position, (answers position).ok = false
  · exact .inl refused
  · refine .inr fun position => ?_
    cases taken : (answers position).ok with
    | true => rfl
    | false => exact absurd ⟨position, taken⟩ refused

/-- A descriptor that is not open has no number, unless `epoll` refused one. -/
theorem Intact.unnumbered (intact : Intact m s) {fd : Nat} (closed : fd ∉ s.descriptors.opened) :
    fd ∉ s.descriptors.fdToFd64 ∨ ∃ position, (m.answers position).ok = false := by
  obtain refused | sure := answers_cases m.answers
  · exact .inr refused
  · refine .inl fun numbered => closed ?_
    obtain ⟨fd64, known⟩ := Table.mem_iff_lookup.mp numbered
    exact intact.tracked sure fd64 fd ((intact.custody.sound.inverse fd64 fd).mpr known)

/-! ### Parts of handlers -/

namespace ServerProc

variable {before : Machine v × Server options} {reason : Fault → Prop}

/-- A function of the shared layers. -/
theorem stops_call {proc : Proc v α} (stops : Stops proc before.1 reason) :
    Stops (call proc) before reason := .onFirst stops

/-- Reading the tables. -/
theorem stops_theServer : Stops theServer before reason := .onSecond (.of_total total_get)

/-- Changing the tables. -/
theorem stops_update (change : Server options → Server options) :
    Stops (update change) before reason := .onSecond (.of_total (total_modify change))

/-- Storing a connection. -/
theorem stops_store (p : Ptr) (conn : ServerConn options) :
    Stops (store p conn) before reason := stops_update _

/-- A pure function. -/
theorem stops_run {computation : Exec α}
    (because : ∀ fault, computation = .error fault → reason fault) :
    Stops (run computation) before reason := .lift because

/-- A pure function that returns. -/
theorem stops_run_ok {computation : Exec α} {value : α} (returned : computation = .ok value) :
    Stops (run computation) before reason := by
  refine stops_run fun fault stopped => ?_
  rw [returned] at stopped
  contradiction

/-- A pointer to a connection in memory. -/
theorem stops_deref {p : Ptr} {conn : ServerConn options} (found : before.2.heap p = some conn) :
    Stops (deref p) before reason :=
  .of_returns (deref_iff.mpr ⟨found, rfl⟩)

end ServerProc

variable {reason : Fault → Prop}

/-- A new socket. -/
theorem newConnectedUdpFd_stops {before : Machine v × Server options} :
    Stops newConnectedUdpFd before reason := by
  refine .bind (stops_call (.of_total ask_total)) fun answer _ _ => ?_
  refine .bind stops_theServer fun _ _ _ => ?_
  dsimp only
  split
  · exact .bind (stops_update _) fun _ _ _ => .pure _
  · exact .pure _

/-- A registered descriptor. -/
theorem registerFd_stops {fd : Nat} {p : Ptr}
    (because : fd ∈ s.descriptors.fdToFd64 → reason (.assertion "!fd_exist(fd)")) :
    Stops (registerFd fd p) (m, s) reason := by
  by_cases numbered : fd ∈ s.descriptors.fdToFd64
  · refine .bind (.bind stops_theServer fun server state read => ?_) fun fd64 state created => ?_
    · obtain ⟨rfl, rfl⟩ := theServer_iff.mp read
      refine .bind (stops_run fun fault stopped => ?_) fun _ _ _ => ?_
      · have same : Fault.assertion "!fd_exist(fd)" = fault := by
          simpa [Descriptors.create, Descriptors.fdExist, assert, numbered, bind, Except.bind]
            using stopped
        exact same ▸ because numbered
      · exact .bind (stops_update _) fun _ _ _ => .pure _
    · obtain ⟨descriptors, ran, -⟩ := onDescriptors_iff.mp created
      simp [Descriptors.create, Descriptors.fdExist, assert, numbered, bind, Except.bind] at ran
  · have fresh : s.descriptors.fdExist fd = false := decide_eq_false numbered
    have registered : Returns (registerFd fd p) (m, s) s.descriptors.counter
        (m, s.withDescriptors
          { s.descriptors with
            counter := s.descriptors.counter + 1
            fdToFd64 := s.descriptors.fdToFd64.insert fd s.descriptors.counter
            fd64ToFd := s.descriptors.fd64ToFd.insert s.descriptors.counter fd
            fdInfo := s.descriptors.fdInfo.insert s.descriptors.counter p }) := by
      simp only [registerFd, Returns.bind_iff, onDescriptors_iff, Returns.pure_iff,
        Descriptors.create, Descriptors.setInfo, exec_bind_iff, assert_iff, exec_pure_iff,
        Prod.mk.injEq, fresh]
      refine ⟨_, _, ⟨_, ⟨⟨⟩, rfl, rfl, rfl⟩, rfl⟩, ⟨⟩, _,
        ⟨_, ⟨_, ⟨⟨⟩, ?_, rfl⟩, trivial, rfl⟩, rfl⟩, rfl, rfl⟩
      simp [Descriptors.exist, withDescriptors, Table.insert]
    exact .of_returns registered

/-- A new timer. -/
theorem setTimerServer_stops {p : Ptr}
    (unnumbered : ∀ fd ∉ s.descriptors.opened, fd ∉ s.descriptors.fdToFd64 ∨
      ∃ position, (m.answers position).ok = false) :
    Stops (setTimerServer p) (m, s) (SystemFault m.answers) := by
  refine .bind (stops_call (.of_total ask_total)) fun answer state asked => ?_
  obtain ⟨asked, same⟩ := call_iff.mp asked
  obtain ⟨ran, given⟩ := ask_ran asked
  obtain ⟨m1, _⟩ := state
  obtain rfl : s = _ := same
  refine .bind stops_theServer fun server state read => ?_
  obtain ⟨rfl, rfl⟩ := theServer_iff.mp read
  dsimp only
  split
  · rename_i nothing
    rw [given] at nothing
    exact .throw (.timer nothing)
  · rename_i fd _
    refine .bind (stops_update _) fun _ state updated => ?_
    obtain rfl := update_iff.mp updated
    refine .bind (registerFd_stops fun numbered => ?_) fun fd64 state registered => ?_
    · obtain absent | ⟨position, refused⟩ := unnumbered fd.val fd.property
      · exact absurd numbered absent
      · exact .reused refused
    · obtain ⟨m2, s2⟩ := state
      obtain ⟨rfl, -⟩ := registerFd_ran registered
      refine .bind (stops_call (.of_total ask_total)) fun last state asked => ?_
      obtain ⟨asked, -⟩ := call_iff.mp asked
      have given := (ask_ran asked).2
      refine .ite (fun _ => .pure _) fun refused => ?_
      have failed : (m.answers m2.asked).ok = false := by
        rw [← ran.answers, ← given]
        exact Bool.eq_false_iff.mpr refused
      exact .throw (.epoll failed)

/-! ### The handshake -/

/-- A heartbeat on a connection with conversations. -/
theorem sendHeartbeat_stops {conn : ServerConn options} (allocated : conn.blob.isSome) :
    Stops (sendHeartbeat conn) m reason := by
  obtain ⟨blob, had⟩ := Option.isSome_iff_exists.mp allocated
  exact .of_total (sendHeartbeat_total had)

/-- An entry without contents can become ready. -/
theorem prepare_total {conn : ServerConn options} (empty : conn.blob = none) :
    Total (conn.prepare : Proc v _) := by
  have passed : Total (check conn.blob.isNone "blob == 0" : Proc v Unit) := by
    intro before
    exact (check_succeeds _ (by rw [empty]; rfl)).weaken fun _ _ _ => trivial
  have convs : Total (ConvManager.new : Proc v (ConvManager Nat)) :=
    total_bind ask_total fun _ => total_pure _
  have random : Total (getTrueRandomNumber64 : Proc v UInt64) :=
    total_bind ask_total fun _ => total_pure _
  have blob : Total (newBlob : Proc v (Blob Nat)) :=
    total_bind convs fun _ => total_bind ask_total fun _ => total_bind random fun _ => total_pure _
  exact total_bind passed fun _ => total_bind blob fun _ => total_pure _

/-- A promotion stops only with the system. -/
theorem promote_stops {p : Ptr} {constId : UInt32} {conn : ServerConn options}
    (intact : Intact m s) (found : s.heap p = some conn) (waiting : conn.state = .handshake1) :
    Stops (promote p constId) (m, s) (SystemFault m.answers) := by
  have empty := (intact.tables.unready p conn found (by rw [waiting]; nofun)).1
  refine .bind (stops_deref found) fun same state read => ?_
  obtain ⟨there, rfl⟩ := deref_iff.mp read
  obtain rfl := Option.some.inj (found.symm.trans there)
  refine .bind (stops_call (.of_total (prepare_total empty))) fun prepared state ran => ?_
  obtain ⟨ran, same⟩ := call_iff.mp ran
  obtain ⟨preparedRan, -, contents, rfl, -⟩ := prepare_ran ran
  obtain ⟨m1, _⟩ := state
  obtain rfl : s = _ := same
  refine .bind (stops_update _) fun _ state updated => ?_
  obtain rfl := update_iff.mp updated
  refine .bind (stops_call (.of_total (record_total _))) fun _ state recorded => ?_
  obtain ⟨recorded, same⟩ := call_iff.mp recorded
  obtain ⟨m2, s2⟩ := state
  obtain rfl : _ = s2 := same
  refine .bind (stops_call (.of_total getCurrentTime_total)) fun now state timed => ?_
  obtain ⟨timed, same⟩ := call_iff.mp timed
  obtain ⟨m3, s3⟩ := state
  obtain rfl : _ = s3 := same
  refine .bind (stops_call (sendHeartbeat_stops rfl)) fun sent state beat => ?_
  obtain ⟨beat, same⟩ := call_iff.mp beat
  obtain ⟨m4, s4⟩ := state
  obtain rfl : _ = s4 := same
  obtain ⟨old, data, events, had, kept, -, sentRan⟩ := sendHeartbeat_ran beat
  refine .bind (stops_run_ok (theBlob_iff.mpr kept.blob)) fun blob state read => ?_
  obtain ⟨-, rfl⟩ := run_iff.mp read
  have answers : m4.answers = m.answers := by
    rw [sentRan.answers, (getCurrentTime_ran timed).1.answers, (record_ran recorded).answers,
      preparedRan.answers]
  refine .bind (.weaken (setTimerServer_stops fun fd closed => ?_) fun fault stopped => ?_)
    fun _ _ _ => stops_store _ _
  · rw [answers]
    exact intact.unnumbered closed
  · rw [← answers]
    exact stopped

/-- A recovery never stops: what the table by `const_id` leads to is ready, and both connections
have their entries. -/
theorem grab_stops {p q : Ptr} {constId : UInt32} {conn : ServerConn options} (tables : s.Tables)
    (found : s.heap p = some conn) (waiting : conn.state = .handshake1)
    (known : s.constIdMp.lookup constId = some q) : Stops (grab p q constId) (m, s) reason := by
  obtain ⟨ori, other, used, -⟩ := tables.client constId q known
  obtain ⟨addr1, filed1⟩ := tables.filed q ori other
  obtain ⟨addr2, filed2⟩ := tables.filed p conn found
  have source1 := (tables.peer addr1 q ori filed1 other (by rw [used]; nofun)).1
  have source2 := (tables.peer addr2 p conn filed2 found (by rw [waiting]; nofun)).1
  refine .bind (stops_deref found) fun same state read => ?_
  obtain ⟨there, rfl⟩ := deref_iff.mp read
  obtain rfl := Option.some.inj (found.symm.trans there)
  refine .bind (stops_deref other) fun same state read => ?_
  obtain ⟨there, rfl⟩ := deref_iff.mp read
  obtain rfl := Option.some.inj (other.symm.trans there)
  refine .ite (fun idle => absurd used idle) fun _ => .ite (fun _ => stops_store _ _) fun _ => ?_
  refine .bind stops_theServer fun server state read => ?_
  obtain ⟨rfl, rfl⟩ := theServer_iff.mp read
  dsimp only
  rw [source1, source2]
  have exists1 : s.exist addr1 = true := decide_eq_true (Table.mem_iff_lookup.mpr ⟨q, filed1⟩)
  have exists2 : s.exist addr2 = true := decide_eq_true (Table.mem_iff_lookup.mpr ⟨p, filed2⟩)
  refine .ite (fun absent => ?_) fun _ => .ite (fun absent => ?_) fun _ => ?_
  · rw [exists1] at absent
    contradiction
  · rw [exists2] at absent
    contradiction
  refine .bind (stops_run_ok (find_iff.mpr filed1)) fun pOri state read => ?_
  obtain ⟨-, rfl⟩ := run_iff.mp read
  refine .bind (stops_run_ok (find_iff.mpr filed2)) fun pNew state read => ?_
  obtain ⟨-, rfl⟩ := run_iff.mp read
  refine .bind (stops_update _) fun _ _ _ => ?_
  obtain ⟨old, contents⟩ := Option.isSome_iff_exists.mp (tables.ready q ori other used).1
  have recovers : ∃ next, ori.recover conn = .ok next := by
    simp only [ConnInfo.recover, exec_bind_iff, theBlob_iff, exec_pure_iff]
    exact ⟨_, old, contents, rfl⟩
  obtain ⟨next, recovered⟩ := recovers
  refine .bind (stops_run_ok recovered) fun same state read => ?_
  obtain ⟨there, rfl⟩ := run_iff.mp read
  obtain rfl := Except.ok.inj (recovered.symm.trans there)
  obtain ⟨_, -, -, -, -, -, -, -, -, after⟩ := recover_ok recovered
  refine .bind (stops_call (.of_total (record_total _))) fun _ _ _ => ?_
  refine .bind (stops_call (sendHeartbeat_stops (by rw [after]; rfl))) fun _ _ _ => ?_
  refine .bind (stops_call (.of_total getCurrentTime_total)) fun _ _ _ => ?_
  exact .bind (stops_store _ _) fun _ _ _ => stops_store _ _

/-- `server_on_raw_recv_pre_ready` stops only with the system. -/
theorem serverOnRawRecvPreReady_stops {p : Ptr} {constId : UInt32} {conn : ServerConn options}
    (intact : Intact m s) (found : s.heap p = some conn) (waiting : conn.state = .handshake1) :
    Stops (serverOnRawRecvPreReady p constId) (m, s) (SystemFault m.answers) := by
  refine .bind stops_theServer fun server state read => ?_
  obtain ⟨rfl, rfl⟩ := theServer_iff.mp read
  dsimp only
  split
  · refine .ite (fun _ => ?_) fun _ => promote_stops intact found waiting
    exact .bind (stops_deref found) fun _ _ _ => stops_store _ _
  · rename_i q known
    exact grab_stops intact.tables found waiting known

/-- A handshake stops only with the system. -/
theorem serverOnRawRecvHandshake1_stops {p : Ptr} {data : Bytes} {conn : ServerConn options}
    (intact : Intact m s) (found : s.heap p = some conn) (waiting : conn.state = .handshake1) :
    Stops (serverOnRawRecvHandshake1 p data) (m, s) (SystemFault m.answers) := by
  refine .ite (fun _ => .pure _) fun _ => ?_
  refine .bind (stops_deref found) fun same state read => ?_
  obtain ⟨there, rfl⟩ := deref_iff.mp read
  obtain rfl := Option.some.inj (found.symm.trans there)
  refine .ite (fun _ => ?_) fun _ => .ite (fun _ => ?_) fun _ => .pure _
  · refine .bind (stops_call (.of_total (sendHandshake_total _ _ _ _))) fun _ _ _ => ?_
    exact stops_store _ _
  · refine .bind (stops_store _ _) fun _ state stored => ?_
    obtain rfl := store_iff.mp stored
    have touches : s.Touches p conn
        { conn with oppsiteId := idAt data 0, rawInfo := conn.rawInfo.continuing } m.now m.now :=
      ⟨found,
        ⟨rfl, rfl, rfl, rfl, ConnInfo.rel_of_eq (fun blob => .refl blob (Nat.le_refl _)) rfl, rfl⟩,
        .inl (RawInfo.continuing_peer conn.rawInfo)⟩
    have step : Step ⟨m, s, []⟩ ⟨m, s.put p _, []⟩ := .introduced touches waiting
    exact serverOnRawRecvPreReady_stops (intact.step step) heap_put waiting

/-! ### Messages of a ready connection -/

/-- A number that a conversation uses is known. -/
theorem Server.Custody.convs_known (custody : s.Custody) {p : Ptr} {conn : ServerConn options}
    {blob : Blob Nat} {conv : UInt32} {fd64 : Nat} (found : s.heap p = some conn)
    (contents : conn.blob = some blob)
    (used : blob.convManager.convToData.lookup conv = some fd64) :
    ∃ fd, s.descriptors.fd64ToFd.lookup fd64 = some fd := by
  have owned := (custody.sockets p conn blob conv fd64 found contents used).2
  exact Table.mem_iff_lookup.mp (custody.known owned)

/-- A note of the time. -/
theorem noteHeartbeat_stops {p : Ptr} {conn : ServerConn options} (found : s.heap p = some conn) :
    Stops (noteHeartbeat p) (m, s) reason := by
  refine .bind (stops_deref found) fun _ _ _ => ?_
  exact .bind (stops_call (.of_total getCurrentTime_total)) fun _ _ _ => stops_store _ _

/-- A message of a conversation in use can be delivered. -/
theorem deliver_stops {p : Ptr} {frame : Frame} {conv : UInt32} (intact : Intact m s)
    (used : s.Uses p conv) : Stops (deliver p frame conv) (m, s) reason := by
  obtain ⟨conn, blob, found, contents, inUse⟩ := used
  have linked := intact.custody.linked p conn blob found contents
  obtain ⟨fd64, stored⟩ := Table.mem_iff_lookup.mp inUse
  obtain ⟨fd, known⟩ := intact.custody.convs_known found contents stored
  refine .bind (stops_deref found) fun same state read => ?_
  obtain ⟨there, rfl⟩ := deref_iff.mp read
  obtain rfl := Option.some.inj (found.symm.trans there)
  refine .bind (stops_run_ok (theBlob_iff.mpr contents)) fun same state read => ?_
  obtain ⟨there, rfl⟩ := run_iff.mp read
  obtain rfl := Option.some.inj (contents.symm.trans (theBlob_iff.mp there))
  refine .bind (stops_call (.of_succeeds (ConvManager.updateActiveTime_succeeds
    ((linked.nodes conv).mpr inUse) (intact.early p conn blob found contents))))
    fun _ state ran => ?_
  obtain ⟨-, same⟩ := call_iff.mp ran
  obtain ⟨m1, _⟩ := state
  obtain rfl : s = _ := same
  refine .bind (stops_store _ _) fun _ state updated => ?_
  obtain rfl := store_iff.mp updated
  refine .bind stops_theServer fun server state read => ?_
  obtain ⟨rfl, rfl⟩ := theServer_iff.mp read
  have leads : s.descriptors.toFd (blob.convManager.findDataByConv conv) = .ok fd := by
    rw [toFd_iff, ConvManager.findDataByConv, stored]
    exact known
  refine .bind (stops_run_ok leads) fun _ _ _ => ?_
  refine .bind stops_theServer fun _ _ _ => ?_
  split
  · exact .pure _
  · exact stops_call (.of_total (record_total _))

/-- A conversation gets a socket, unless its descriptor still has a number. -/
theorem openConv_stops {p : Ptr} {conv : UInt32} {conn : ServerConn options} {blob : Blob Nat}
    (intact : Intact m s) (found : s.heap p = some conn) (contents : conn.blob = some blob)
    (unused : conv ∉ blob.convManager.convToData) :
    Stops (openConv p conv) (m, s) (SystemFault m.answers) := by
  have linked := intact.custody.linked p conn blob found contents
  refine .bind newConnectedUdpFd_stops fun result state created => ?_
  obtain ⟨m1, s1⟩ := state
  obtain ⟨ran, ⟨rfl, rfl⟩ | ⟨fd, rfl, fresh, rfl⟩⟩ := newConnectedUdpFd_ran created
  · exact .pure _
  refine .bind stops_theServer fun server state read => ?_
  obtain ⟨rfl, rfl⟩ := theServer_iff.mp read
  refine .bind (registerFd_stops fun numbered => ?_) fun fd64 state registered => ?_
  · obtain absent | ⟨position, refused⟩ := intact.unnumbered fresh
    · exact absurd numbered absent
    · exact .reused refused
  obtain ⟨m2, s2⟩ := state
  obtain ⟨rfl, -, rfl, rfl⟩ := registerFd_ran registered
  refine .bind (stops_call (.of_total ask_total)) fun answer state asked => ?_
  obtain ⟨asked, same⟩ := call_iff.mp asked
  obtain ⟨m3, s3⟩ := state
  obtain rfl : _ = s3 := same
  refine .ite (fun _ => .bind (stops_update _) fun _ _ _ => .pure _) fun _ => ?_
  have there : (s.withDescriptors (s.descriptors.registered fd p)).heap p = some conn := found
  refine .bind (stops_deref there) fun same state read => ?_
  obtain ⟨there, rfl⟩ := deref_iff.mp read
  obtain rfl := Option.some.inj (found.symm.trans there)
  refine .bind (stops_run_ok (theBlob_iff.mpr contents)) fun same state read => ?_
  obtain ⟨there, rfl⟩ := run_iff.mp read
  obtain rfl := Option.some.inj (contents.symm.trans (theBlob_iff.mp there))
  have past := (intact.early p conn blob found contents).mono (ran.trans (ask_ran asked).1).now
  have new : conv ∉ blob.convManager.lru.keys :=
    fun inside => unused ((linked.nodes conv).mp inside)
  refine .bind (stops_call (.of_succeeds (ConvManager.insertConv_succeeds new past)))
    fun _ _ _ => ?_
  refine .bind (stops_store _ _) fun _ _ _ => ?_
  exact .bind (stops_call (.of_total (record_total _))) fun _ _ _ => .pure _

/-- A conversation is made usable, unless a descriptor still has a number. -/
theorem ensureConv_stops {p : Ptr} {conv myId oppsiteId : UInt32} (intact : Intact m s)
    (held : s.Holds p myId oppsiteId) :
    Stops (ensureConv p conv) (m, s) (SystemFault m.answers) := by
  obtain ⟨conn, found, ready, -⟩ := held
  obtain ⟨blob, contents⟩ := Option.isSome_iff_exists.mp (intact.tables.ready p conn found ready).1
  refine .bind (stops_deref found) fun same state read => ?_
  obtain ⟨there, rfl⟩ := deref_iff.mp read
  obtain rfl := Option.some.inj (found.symm.trans there)
  refine .bind (stops_run_ok (theBlob_iff.mpr contents)) fun same state read => ?_
  obtain ⟨there, rfl⟩ := run_iff.mp read
  obtain rfl := Option.some.inj (contents.symm.trans (theBlob_iff.mp there))
  refine .ite (fun _ => .pure _) fun unused => .ite (fun _ => .pure _) fun _ => ?_
  exact openConv_stops intact found contents (by simpa [ConvManager.isConvUsed] using unused)

/-- Data shows that the other end is alive. -/
theorem noteData_stops {p : Ptr} {conn : ServerConn options} (found : s.heap p = some conn) :
    Stops (noteData p) (m, s) reason := by
  unfold noteData
  split
  · exact noteHeartbeat_stops found
  · exact .pure _

/-- A message of a ready connection stops only with the system. -/
theorem serverOnRawRecvReady_stops {p : Ptr} {frame : Frame} {myId oppsiteId : UInt32}
    (intact : Intact m s) (held : s.Holds p myId oppsiteId) :
    Stops (serverOnRawRecvReady p frame) (m, s) (SystemFault m.answers) := by
  obtain ⟨conn, found, -⟩ := id held
  refine .ite (fun _ => .bind (noteHeartbeat_stops found) fun _ _ _ => .pure _) fun _ => ?_
  refine .ite (fun _ => ?_) fun _ => .pure _
  refine .bind (noteData_stops found) fun _ state noted => ?_
  obtain ⟨m1, s1⟩ := state
  obtain ⟨steps, still⟩ : Steps ⟨m, s, []⟩ ⟨m1, s1, []⟩ ∧ s1.Holds p myId oppsiteId :=
    noteData_steps held noted
  have intact1 : Intact m1 s1 := intact.steps steps
  obtain ⟨_, went1⟩ := steps.went
  have answers1 : m1.answers = m.answers := went1.answers
  rw [← answers1]
  refine .bind (ensureConv_stops intact1 still) fun outcome state ensured => ?_
  obtain ⟨m2, s2⟩ := state
  obtain ⟨steps, -, used⟩ : Steps ⟨m1, s1, []⟩ ⟨m2, s2, []⟩ ∧ s2.Holds p myId oppsiteId ∧
    (outcome = none → s2.Uses p _) := ensureConv_steps still ensured
  have intact2 : Intact m2 s2 := intact1.steps steps
  cases outcome with
  | some ret => exact .pure _
  | none => exact .bind (deliver_stops intact2 (used rfl)) fun _ _ _ => .pure _

/-- The messages of a packet stop only with the system. -/
theorem serverOnFrames_stops {p : Ptr} {frames : List Frame} {myId oppsiteId : UInt32}
    (intact : Intact m s) (held : s.Holds p myId oppsiteId) :
    Stops (serverOnFrames p frames) (m, s) (SystemFault m.answers) := by
  induction frames generalizing m s with
  | nil => exact .pure _
  | cons frame frames ih =>
    refine .bind (serverOnRawRecvReady_stops intact held) fun _ state handled => ?_
    obtain ⟨m1, s1⟩ := state
    obtain ⟨steps, still⟩ : Steps ⟨m, s, [⟨myId, oppsiteId, frame⟩]⟩ ⟨m1, s1, []⟩ ∧
      s1.Holds p myId oppsiteId := serverOnRawRecvReady_steps held handled
    obtain ⟨_, went⟩ := steps.went
    have answers : m1.answers = m.answers := went.answers
    rw [← answers]
    exact ih (intact.steps steps) still

/-! ### Captured packets -/

/-- The reply to a `SYN` packet. -/
theorem replySyn_stops (full : m.packetBufCnt = 1)
    (because : Unparsed options m → reason (.undefined "data")) :
    Stops (replySyn options) m reason := by
  refine .bind (.of_total (newRawInfo_total options)) fun look state created => ?_
  have ran := newRawInfo_ran created
  have same : Unparsed options state → reason (.undefined "data") := by
    rintro ⟨raw, untouched⟩
    rw [ran.filterPort, ran.packetBuf] at untouched
    exact because ⟨raw, untouched⟩
  refine .bind (recvRawPayload_stops (ran.packetBufCnt.trans full) same) fun parsed _ _ => ?_
  obtain ⟨raw, payload⟩ := parsed
  cases payload with
  | none => exact .pure _
  | some data =>
    refine .ite (fun _ => .pure _) fun _ => .ite (fun _ => .pure _) fun _ => .ite (fun _ => ?_)
      fun _ => .pure _
    exact .bind (.of_total (sendRawPayload_total _ _)) fun _ _ _ => .pure _

/-- A constructed connection. -/
theorem newConnInfo_total {σ τ : Type} [DecidableEq τ] (idle : σ) :
    Total (newConnInfo options idle : Proc v (ConnInfo options σ τ)) :=
  total_bind (newRawInfo_total options) fun _ => total_bind ask_total fun _ =>
    total_bind ask_total fun _ => total_bind ask_total fun _ => total_bind ask_total fun _ =>
      total_pure _

/-- A new entry. -/
theorem newEntry_stops {addr : Address v} {raw : RawInfo options.raw}
    {before : Machine v × Server options} : Stops (newEntry addr raw) before reason := by
  have drawn : Total (drawMyId : Proc v UInt32) :=
    total_bind ask_total fun _ => total_bind (record_total _) fun _ => total_pure _
  refine .bind (stops_call (.of_total (newConnInfo_total _))) fun _ _ _ => ?_
  refine .bind (stops_call (.of_total ask_total)) fun _ _ _ => ?_
  refine .bind stops_theServer fun _ _ _ => ?_
  refine .bind (stops_update _) fun _ _ _ => ?_
  refine .bind (stops_call (.of_total drawn)) fun _ _ _ => ?_
  refine .bind (stops_call (.of_total getCurrentTime_total)) fun _ _ _ => ?_
  refine .bind (stops_call (.of_total (record_total _))) fun _ _ _ => ?_
  exact .bind (stops_store _ _) fun _ _ _ => .pure _

/-- A packet from a new address stops for its own reasons. -/
theorem serverOnNewAddress_stops {addr : Address v} (intact : Intact m s)
    (full : m.packetBufCnt = 1) (absent : addr ∉ s.mp)
    (source : m.packetBuf.source options.raw = addr) :
    Stops (serverOnNewAddress addr) (m, s) (PacketFault options m) := by
  refine .bind stops_theServer fun server state read => ?_
  obtain ⟨rfl, rfl⟩ := theServer_iff.mp read
  refine .ite (fun _ => stops_call (discardRawPacket_stops full)) fun room => ?_
  refine .bind (stops_call (.of_total (newRawInfo_total options))) fun look state created => ?_
  obtain ⟨m1, s1⟩ := state
  obtain ⟨created, same⟩ := call_iff.mp created
  obtain rfl : s = s1 := same
  have ran := newRawInfo_ran created
  have unparsed : Unparsed options m1 → PacketFault options m (.undefined "data") := by
    rintro ⟨raw, untouched⟩
    rw [ran.filterPort, ran.packetBuf] at untouched
    exact .unparsed ⟨raw, untouched⟩
  refine .bind (stops_call (recvBare_stops (ran.packetBufCnt.trans full) unparsed))
    fun parsed state returned => ?_
  obtain ⟨raw, data⟩ := parsed
  obtain ⟨m2, s2⟩ := state
  obtain ⟨received, same⟩ := call_iff.mp returned
  obtain rfl : s = s2 := same
  obtain ⟨full1, count, heardFrom, ⟨_, -, -, rfl⟩ |
    ⟨from_, input, message, data, rfl, content, logged⟩⟩ := recvBare_logged received
  · exact .pure _
  refine .ite (fun _ => .pure _) fun long => .ite (fun _ => .pure _) fun initial => ?_
  refine .bind newEntry_stops fun p state entered => ?_
  obtain ⟨m3, s3⟩ := state
  rw [ne_eq, not_not] at initial
  have heard := logged.heard_decrypted content
  have peek : raw.peek = false := by
    rw [heardFrom.peek, RawInfo.expecting_peek, newRawInfo_peek created]
  have address : raw.source = addr := by rw [from_, ran.packetBuf, source]
  obtain ⟨steps, -, conn, found, waiting⟩ : Steps ⟨m2, s, []⟩ ⟨m3, s3, []⟩ ∧ _ ∧ _ :=
    newEntry_steps absent (Nat.not_le.mp room) address peek
      ⟨data, heard, Nat.not_lt.mp long, rfl, initial, rfl⟩ entered
  have received : Step ⟨m, s, []⟩ ⟨m2, s, []⟩ :=
    .quiet (fun event inside => .inr ⟨_, _, List.mem_singleton.mp inside⟩)
      (ran.went.trans (logged.went full1 count))
  have intact3 : Intact m3 s3 := intact.steps (.head received steps)
  obtain ⟨_, went⟩ := Steps.went (.head received steps)
  have answers : m3.answers = m.answers := went.answers
  refine (serverOnRawRecvHandshake1_stops intact3 found waiting).weaken fun fault stopped => ?_
  rw [answers] at stopped
  exact .system stopped

/-- A packet from a known address stops for its own reasons. -/
theorem serverOnKnownAddress_stops {addr : Address v} {p : Ptr} (intact : Intact m s)
    (full : m.packetBufCnt = 1) (known : s.mp.lookup addr = some p)
    (source : m.packetBuf.source options.raw = addr) :
    Stops (serverOnKnownAddress p) (m, s) (PacketFault options m) := by
  obtain ⟨conn, found⟩ := intact.tables.allocated addr p known
  refine .bind (stops_deref found) fun same state read => ?_
  obtain ⟨there, rfl⟩ := deref_iff.mp read
  obtain rfl := Option.some.inj (found.symm.trans there)
  split
  · rename_i waiting
    refine .bind (stops_call (recvBare_stops full .unparsed)) fun parsed state returned => ?_
    obtain ⟨rawInfo, data⟩ := parsed
    obtain ⟨m1, s1⟩ := state
    obtain ⟨received, same⟩ := call_iff.mp returned
    obtain rfl : s = s1 := same
    refine .bind (stops_store _ _) fun _ state stored => ?_
    obtain rfl := store_iff.mp stored
    obtain ⟨steps, -⟩ : Steps ⟨m, s, []⟩ ⟨m1, s.put p { conn with rawInfo }, []⟩ ∧ _ :=
      recvBare_steps found known source received
    obtain ⟨_, went⟩ := steps.went
    have answers : m1.answers = m.answers := went.answers
    cases data with
    | none => exact .pure _
    | some data =>
      refine (serverOnRawRecvHandshake1_stops (intact.steps steps) heap_put waiting).weaken
        fun fault stopped => ?_
      rw [answers] at stopped
      exact .system stopped
  · rename_i ready
    have allocated := (intact.tables.ready p conn found ready).1
    refine .bind (stops_call (recvSaferMulti_stops full allocated .unparsed))
      fun parsed state returned => ?_
    obtain ⟨next, frames⟩ := parsed
    obtain ⟨m1, s1⟩ := state
    obtain ⟨received, same⟩ := call_iff.mp returned
    obtain rfl : s = s1 := same
    refine .bind (stops_store _ _) fun _ state stored => ?_
    obtain rfl := store_iff.mp stored
    obtain ⟨steps, holds, -⟩ := recvSaferMulti_steps found ready known source received
    obtain ⟨_, went⟩ := steps.went
    have answers : m1.answers = m.answers := went.answers
    refine (serverOnFrames_stops (intact.steps steps) holds).weaken fun fault stopped => ?_
    rw [answers] at stopped
    exact .system stopped
  · exact stops_call (discardRawPacket_stops full)

/-- A packet whose source is known stops for its own reasons. -/
theorem serverOnPeeked_stops {peeked : RawInfo options.raw} (intact : Intact m s)
    (full : m.packetBufCnt = 1) (source : m.packetBuf.source options.raw = peeked.source) :
    Stops (serverOnPeeked peeked) (m, s) (PacketFault options m) := by
  refine .bind stops_theServer fun server state read => ?_
  obtain ⟨rfl, rfl⟩ := theServer_iff.mp read
  refine .ite (fun _ => ?_) fun _ => ?_
  · have looked : ∃ ready, s.isReady peeked.source = .ok ready := by
      unfold isReady
      split
      · exact ⟨_, rfl⟩
      · rename_i p known
        obtain ⟨conn, found⟩ := intact.tables.allocated _ p known
        exact ⟨decide (conn.state = .ready), by simp [Server.deref, found, bind, Except.bind, pure,
          Except.pure]⟩
    obtain ⟨ready, looked⟩ := looked
    refine .bind (stops_run_ok looked) fun _ state read => ?_
    obtain ⟨-, rfl⟩ := run_iff.mp read
    exact .ite (fun _ => stops_call (discardRawPacket_stops full))
      fun _ => stops_call (replySyn_stops full .unparsed)
  · dsimp only
    split
    · rename_i absent
      exact serverOnNewAddress_stops intact full (AList.lookup_eq_none.mp absent) source
    · rename_i p known
      exact serverOnKnownAddress_stops intact full known source

/-- What `pre_recv_raw_packet` keeps of a captured packet. -/
def Capture.buffered (capture : Capture) : Capture :=
  capture.truncate (min (min capture.packet.length (hugeDataLen + 1)) hugeDataLen)

/-- A packet that was taken is in the buffer. -/
theorem preRecvRawPacket_buffered {received : Option Capture} {ret : Int}
    (returned : Returns (preRecvRawPacket options received) m ret m') (taken : ¬ret < 0) :
    ∃ capture, received = some capture ∧ m'.packetBuf = capture.buffered := by
  simp only [preRecvRawPacket, Returns.bind_iff, Returns.get_iff, check_iff] at returned
  obtain ⟨_, _, ⟨rfl, rfl⟩, _, _, ⟨-, rfl⟩, returned⟩ := returned
  cases received with
  | none =>
    obtain ⟨rfl, -⟩ := Returns.pure_iff.mp returned
    exact absurd (by decide) taken
  | some capture =>
    simp only at returned
    split_ifs at returned
    · obtain ⟨rfl, -⟩ := Returns.pure_iff.mp returned
      exact absurd (by decide) taken
    · obtain ⟨rfl, -⟩ := Returns.pure_iff.mp returned
      exact absurd (by decide) taken
    · simp only [Returns.bind_iff, Returns.modify_iff, Returns.pure_iff] at returned
      obtain ⟨_, _, rfl, rfl, rfl⟩ := returned
      exact ⟨capture, rfl, rfl⟩

/-- The parser lets a captured packet through without a payload. -/
def Capture.Unparsed (options : Options v) (filterPort : UInt16) (capture : Capture) : Prop :=
  ∃ raw, (recvRaw0 options.raw filterPort capture.buffered raw).2 = .untouched

/-- A captured packet stops the server for its own reasons. -/
theorem serverOnRawRecvMulti_stops {received : Option Capture} (intact : Intact m s)
    (empty : m.packetBufCnt = 0) (system : ∀ fault, SystemFault m.answers fault → reason fault)
    (unparsed : ∀ capture ∈ received, capture.Unparsed options m.filterPort →
      reason (.undefined "data")) : Stops (serverOnRawRecvMulti received) (m, s) reason := by
  refine .bind (stops_call (.of_total (newRawInfo_total options))) fun look state created => ?_
  obtain ⟨m1, s1⟩ := state
  obtain ⟨created, same⟩ := call_iff.mp created
  obtain rfl : s = s1 := same
  have ran := newRawInfo_ran created
  have free : m1.packetBufCnt = 0 := ran.packetBufCnt.trans empty
  have taken : Stops (preRecvRawPacket options received) m1 reason := by
    refine .bind (.of_total total_get) fun machine state read => ?_
    obtain ⟨rfl, rfl⟩ := Returns.get_iff.mp read
    refine .bind (stops_check (decide_eq_true free)) fun _ _ _ => ?_
    cases received with
    | none => exact .pure _
    | some capture =>
      refine .ite (fun _ => .pure _) fun _ => .ite (fun _ => .pure _) fun _ => ?_
      exact .bind (.of_total (total_modify _)) fun _ _ _ => .pure _
  refine .bind (stops_call taken) fun ret state returned => ?_
  obtain ⟨m2, s2⟩ := state
  obtain ⟨captured, same⟩ := call_iff.mp returned
  obtain rfl : s = s2 := same
  obtain ⟨logged, -, outcome⟩ := preRecvRawPacket_logged captured
  refine .ite (fun _ => .pure _) fun positive => ?_
  obtain ⟨capture, rfl, buffer⟩ := preRecvRawPacket_buffered captured positive
  have full : m2.packetBufCnt = 1 := by
    obtain ⟨-, full⟩ | ⟨rfl, -⟩ := outcome
    · exact full
    · exact absurd (by decide) positive
  have whole := ran.toLogged.trans logged
  have intact2 := intact.logged whole
  have because (fault : Fault) (stopped : PacketFault options m2 fault) : reason fault := by
    cases stopped with
    | system stopped =>
      rw [whole.answers] at stopped
      exact system fault stopped
    | unparsed letThrough =>
      obtain ⟨raw, untouched⟩ := letThrough
      rw [whole.filterPort, buffer] at untouched
      exact unparsed capture rfl ⟨raw, untouched⟩
  refine .bind (stops_call (.bind (.of_total total_get) fun machine state read => ?_))
    fun peeked state looked => ?_
  · obtain ⟨rfl, rfl⟩ := Returns.get_iff.mp read
    exact .bind (stops_check (decide_eq_true full)) fun _ _ _ => .pure _
  · obtain ⟨look, seen⟩ := peeked
    obtain ⟨m3, s3⟩ := state
    obtain ⟨peeked, same⟩ := call_iff.mp looked
    obtain rfl : s = s3 := same
    obtain ⟨-, found, rfl⟩ := peekRawPacket_iff.mp peeked
    cases seen with
    | true =>
      exact (serverOnPeeked_stops intact2 full (peekRaw_source found.symm).symm).weaken because
    | false => exact stops_call (discardRawPacket_stops full)

/-! ### The sweep -/

/-- An entry can be erased, unless its client named itself zero. -/
theorem erase_fault {addr : Address v} {p : Ptr} {conn : ServerConn options} {fault : Fault}
    (tables : s.Tables) (custody : s.Custody) (known : s.mp.lookup addr = some p)
    (found : s.heap p = some conn) (stopped : s.erase addr = .error fault) :
    conn.state = .ready ∧ conn.oppsiteConstId = 0 ∧
      fault = .assertion "oppsite_const_id != 0" := by
  have goes {next : Server options} (erases : s.Erases addr next) : False := by
    rw [erase_iff.mpr erases] at stopped
    contradiction
  by_cases ready : conn.state = .ready
  · obtain ⟨allocated, listed⟩ := tables.ready p conn found ready
    obtain ⟨blob, contents⟩ := Option.isSome_iff_exists.mp allocated
    obtain ⟨some, owned⟩ := custody.timer p conn found ready
    have linked := custody.linked p conn blob found contents
    obtain ⟨fd, stored⟩ := Table.mem_iff_lookup.mp (custody.known owned)
    obtain ⟨rest, close⟩ : ∃ rest, s.descriptors.fd64Close conn.timerFd64 = .ok rest :=
      ⟨_, Descriptors.fd64Close_iff.mpr ⟨fd, stored, rfl⟩⟩
    have closed := custody.sound.close close
    have present : conn.oppsiteConstId ∈ s.constIdMp := Table.mem_iff_lookup.mpr ⟨p, listed⟩
    have positive : s.readyNum ≠ 0 := by
      intro none
      have count := tables.readyNum
      have size := Table.size_erase present
      rw [none] at count
      simp only [UInt32.toNat_zero] at count
      omega
    by_cases client : conn.oppsiteConstId = 0
    · refine ⟨ready, client, ?_⟩
      have known64 : s.descriptors.exist conn.timerFd64 = true :=
        decide_eq_true (custody.known owned)
      simp only [erase, Server.find, known, Server.deref, found, ready, retire, known64, some,
        assert, client, decide_true, decide_false, ne_eq, not_true_eq_false, not_false_eq_true,
        if_pos, sub_one_ne.mpr positive, bind, Except.bind] at stopped
      exact (Except.error.inj stopped).symm
    · have cleared : ∃ released,
          blob.convManager.clearAll serverClearFunction rest = .ok released := by
        rw [Descriptors.clearAll_eq]
        refine closed.sound.closeAll_succeeds (fun fd64 inside => ?_) linked.data_nodup
        obtain ⟨conv, used⟩ := ConvManager.mem_data_iff.mp inside
        obtain ⟨different, own⟩ := custody.sockets p conn blob conv fd64 found contents used
        rw [Table.mem_iff_lookup, closed.fd64ToFd fd64 different, ← Table.mem_iff_lookup]
        exact custody.known own
      obtain ⟨released, cleared⟩ := cleared
      exact (goes (.ready known found ready contents client present positive some close
        cleared)).elim
  · obtain ⟨contents, timer, client⟩ := tables.unready p conn found ready
    exact (goes (.waiting known found ready contents timer client)).elim

/-- The sweep stops only at a client that named itself zero. -/
theorem sweep_fault {currentTime count : Nat} {it : Option (Address v)} {fault : Fault}
    (tables : s.Tables) (custody : s.Custody) (cursor : Cursor { s with clearIt := it })
    (stopped : sweep currentTime count it s = .error fault) :
    ∃ p conn, s.heap p = some conn ∧ conn.state = .ready ∧ conn.oppsiteConstId = 0 ∧
      fault = .assertion "oppsite_const_id != 0" := by
  induction count generalizing it s with
  | zero => contradiction
  | succ count ih =>
    rw [sweep] at stopped
    split at stopped
    · contradiction
    rename_i begin_ started
    have present : it.getD begin_ ∈ s.mp := by
      cases it with
      | none => exact AList.mem_keys.mpr (List.mem_of_head? started)
      | some addr => exact cursor addr rfl
    have ahead : Cursor { s with clearIt := s.mp.next (it.getD begin_) } :=
      fun _ next => (Table.next_mem next).1
    obtain ⟨p, known⟩ := Table.mem_iff_lookup.mp present
    obtain ⟨conn, found⟩ := tables.allocated _ p known
    simp only [Server.find, known, Server.deref, found, bind, Except.bind] at stopped
    split at stopped
    · exact ih tables custody ahead stopped
    split at stopped
    · rename_i busy
      have ready : conn.state = .ready := by
        by_contra idle
        rw [isBusy, (tables.unready p conn found idle).1] at busy
        contradiction
      simp only [assert, ready, decide_true, if_true] at stopped
      exact ih tables custody ahead stopped
    · split at stopped
      · rename_i erased
        obtain rfl := Except.error.inj stopped
        obtain ⟨ready, client, rfl⟩ := erase_fault tables custody known found erased
        exact ⟨p, conn, found, ready, client, rfl⟩
      · rename_i between erased
        have erases := erase_iff.mp erased
        have ahead1 : Cursor { between with clearIt := s.mp.next (it.getD begin_) } := by
          intro addr next
          obtain ⟨present, different⟩ := Table.next_mem next
          show addr ∈ between.mp
          rw [erases.mp]
          exact AList.mem_erase.mpr ⟨different, present⟩
        obtain ⟨q, other, there, rest⟩ :=
          ih (tables.erased erases) (custody.erased erases) ahead1 stopped
        exact ⟨q, other, erases.heap there, rest⟩

/-- The sweep of the connection table stops only at a client that named itself zero. -/
theorem clearInactive_stops (intact : Intact m s) (cursor : s.Cursor)
    (because : ∀ p conn, s.heap p = some conn → conn.state = .ready → conn.oppsiteConstId = 0 →
      reason (.assertion "oppsite_const_id != 0")) : Stops clearInactive (m, s) reason := by
  refine .bind (stops_call (.of_total getCurrentTime_total)) fun now state timed => ?_
  obtain ⟨m1, _⟩ := state
  obtain ⟨-, same⟩ := call_iff.mp timed
  obtain rfl : s = _ := same
  refine .bind stops_theServer fun server state read => ?_
  obtain ⟨rfl, rfl⟩ := theServer_iff.mp read
  refine .ite (fun _ => .pure _) fun _ => ?_
  refine .bind (stops_call (.of_total getCurrentTime_total)) fun lastClearTime state timed => ?_
  obtain ⟨m2, _⟩ := state
  obtain ⟨-, same⟩ := call_iff.mp timed
  obtain rfl : s = _ := same
  refine .bind (stops_call (.of_total getCurrentTime_total)) fun currentTime state timed => ?_
  obtain ⟨m3, _⟩ := state
  obtain ⟨-, same⟩ := call_iff.mp timed
  obtain rfl : s = _ := same
  refine .bind stops_theServer fun server state read => ?_
  obtain ⟨rfl, rfl⟩ := theServer_iff.mp read
  refine .bind (stops_run fun fault stopped => ?_) fun _ _ _ => stops_update _
  simp only [clearInactive0, bind, Except.bind] at stopped
  split at stopped
  · rename_i swept
    obtain rfl := Except.error.inj stopped
    have tables : Tables { s with lastClearTime } := intact.tables.congr rfl rfl rfl rfl rfl
    have custody : Custody { s with lastClearTime } :=
      intact.custody.congr rfl intact.custody.sound fun _ _ => id
    obtain ⟨p, conn, found, ready, client, rfl⟩ := sweep_fault tables custody cursor swept
    exact because p conn found ready client
  · contradiction

/-! ### Timers and datagrams -/

/-- Idle conversations can be closed: their sockets are known. -/
theorem convs_clear {manager : ConvManager Nat} {descriptors : Descriptors}
    (linked : manager.Linked) (sound : descriptors.Sound)
    (known : ∀ conv fd64, manager.convToData.lookup conv = some fd64 →
      fd64 ∈ descriptors.fd64ToFd) :
    Stops (manager.clearInactive serverClearFunction descriptors) m reason := by
  refine .bind (.of_total getCurrentTime_total) fun now _ _ => ?_
  refine .ite (fun _ => .pure _) fun _ => ?_
  refine .bind (.of_total getCurrentTime_total) fun lastClearTime _ _ => ?_
  refine .bind (.of_total getCurrentTime_total) fun currentTime _ _ => ?_
  let good (state : ConvManager Nat × Descriptors) : Prop :=
    state.1.Linked ∧ state.2.Sound ∧ ∀ conv fd64, state.1.convToData.lookup conv = some fd64 →
      fd64 ∈ state.2.fd64ToFd
  have released (state : ConvManager Nat × Descriptors) (conv : UInt32) (fd64 : Nat)
      (fine : good state) (used : state.1.convToData.lookup conv = some fd64) :
      ∃ rest, serverClearFunction fd64 state.2 = .ok rest ∧
        good (state.1.without conv fd64, rest) := by
    obtain ⟨linked, sound, known⟩ := fine
    obtain ⟨fd, stored⟩ := Table.mem_iff_lookup.mp (known conv fd64 used)
    obtain ⟨rest, close⟩ : ∃ rest, state.2.fd64Close fd64 = .ok rest :=
      ⟨_, Descriptors.fd64Close_iff.mpr ⟨fd, stored, rfl⟩⟩
    have closed := sound.close close
    refine ⟨rest, Descriptors.serverClearFunction_iff.mpr close, linked.without used, closed.sound,
      ?_⟩
    intro other data left
    have split : (state.1.convToData.erase conv).lookup other = some data := left
    rw [Table.lookup_erase] at split
    split at split
    · contradiction
    rename_i different
    have apart : data ≠ fd64 := by
      rintro rfl
      have one := (linked.inverse _ _).mp split
      rw [(linked.inverse _ _).mp used] at one
      exact different (Option.some.inj one).symm
    rw [Table.mem_iff_lookup, closed.fd64ToFd data apart, ← Table.mem_iff_lookup]
    exact known other data split
  have start : good ({ manager with lastClearTime }, descriptors) :=
    ⟨⟨linked.inverse, linked.nodes⟩, sound, known⟩
  obtain ⟨final, swept⟩ := ConvManager.clearOldest_succeeds (fun state fine => fine.1) released
    currentTime _ start
  exact .lift fun fault stopped => by
    rw [ConvManager.clearInactive0, swept] at stopped
    contradiction

/-- A connection's timer never stops the server. -/
theorem serverOnTimerMulti_stops {p : Ptr} {conn : ServerConn options} (intact : Intact m s)
    (found : s.heap p = some conn) (ready : conn.state = .ready) :
    Stops (serverOnTimerMulti p) (m, s) reason := by
  obtain ⟨blob, contents⟩ := Option.isSome_iff_exists.mp (intact.tables.ready p conn found ready).1
  refine .bind (stops_deref found) fun same state read => ?_
  obtain ⟨there, rfl⟩ := deref_iff.mp read
  obtain rfl := Option.some.inj (found.symm.trans there)
  refine .bind (stops_call (stops_check (decide_eq_true ready))) fun _ state checked => ?_
  obtain ⟨_, _⟩ := state
  obtain ⟨checked, same⟩ := call_iff.mp checked
  obtain rfl : s = _ := same
  obtain ⟨-, same⟩ := check_iff.mp checked
  obtain rfl : m = _ := same
  refine .bind (stops_run_ok (theBlob_iff.mpr contents)) fun same state read => ?_
  obtain ⟨there, rfl⟩ := run_iff.mp read
  obtain rfl := Option.some.inj (contents.symm.trans (theBlob_iff.mp there))
  refine .bind stops_theServer fun server state read => ?_
  obtain ⟨rfl, rfl⟩ := theServer_iff.mp read
  have known (conv : UInt32) (fd64 : Nat)
      (used : blob.convManager.convToData.lookup conv = some fd64) :
      fd64 ∈ s.descriptors.fd64ToFd := by
    obtain ⟨fd, known⟩ := intact.custody.convs_known found contents used
    exact Table.mem_iff_lookup.mpr ⟨fd, known⟩
  have linked := intact.custody.linked p conn blob found contents
  refine .bind (stops_call (convs_clear linked intact.custody.sound known)) fun cleared _ _ => ?_
  refine .bind (stops_update _) fun _ _ _ => ?_
  refine .bind (stops_store _ _) fun _ _ _ => ?_
  refine .bind (stops_call (.of_total getCurrentTime_total)) fun now _ _ => ?_
  refine .ite (fun _ => .pure _) fun _ => ?_
  refine .bind (stops_call (sendHeartbeat_stops rfl)) fun _ _ _ => ?_
  exact .bind (stops_call (.of_total getCurrentTime_total)) fun _ _ _ => stops_store _ _

/-- A datagram of a conversation's socket never stops the server. -/
theorem serverOnUdpRecv_stops {p : Ptr} {fd64 : Nat} {conn : ServerConn options} {blob : Blob Nat}
    {received : Option Bytes} (intact : Intact m s) (found : s.heap p = some conn)
    (ready : conn.state = .ready) (contents : conn.blob = some blob)
    (used : fd64 ∈ blob.convManager.dataToConv) :
    Stops (serverOnUdpRecv p fd64 received) (m, s) reason := by
  refine .bind (stops_deref found) fun same state read => ?_
  obtain ⟨there, rfl⟩ := deref_iff.mp read
  obtain rfl := Option.some.inj (found.symm.trans there)
  refine .ite (fun idle => absurd ready idle) fun _ => ?_
  refine .bind (stops_run_ok (theBlob_iff.mpr contents)) fun same state read => ?_
  obtain ⟨there, rfl⟩ := run_iff.mp read
  obtain rfl := Option.some.inj (contents.symm.trans (theBlob_iff.mp there))
  refine .bind (stops_call (stops_check (decide_eq_true used))) fun _ state checked => ?_
  obtain ⟨_, _⟩ := state
  obtain ⟨checked, same⟩ := call_iff.mp checked
  obtain rfl : s = _ := same
  obtain ⟨-, same⟩ := check_iff.mp checked
  obtain rfl : m = _ := same
  refine .bind stops_theServer fun server state read => ?_
  obtain ⟨rfl, rfl⟩ := theServer_iff.mp read
  obtain ⟨conv, stored⟩ := Table.mem_iff_lookup.mp used
  have linked := intact.custody.linked p conn blob found contents
  obtain ⟨fd, known⟩ :=
    intact.custody.convs_known found contents ((linked.inverse conv fd64).mpr stored)
  refine .bind (stops_run_ok (toFd_iff.mpr known)) fun _ state read => ?_
  obtain ⟨-, rfl⟩ := run_iff.mp read
  dsimp only
  split
  · refine .ite (fun _ => .pure _) fun _ => ?_
    refine .bind (stops_call (.of_total (record_total _))) fun _ _ _ => ?_
    exact .bind (stops_call (.of_total (sendDataSafer_total contents _ _)))
      fun _ _ _ => stops_store _ _
  · exact .pure _

/-! ### Events -/

/-- An event of a number whose descriptor is open never stops the server. -/
theorem serverOnFd64_stops {fd64 fd : Nat} {bytes : Option Bytes} (intact : Intact m s)
    (known : s.descriptors.fd64ToFd.lookup fd64 = some fd) (open_ : fd ∈ s.descriptors.opened) :
    Stops (serverOnFd64 fd64 bytes) (m, s) reason := by
  have present : fd64 ∈ s.descriptors.fd64ToFd := Table.mem_iff_lookup.mpr ⟨fd, known⟩
  have info : fd64 ∈ s.descriptors.fdInfo := (intact.custody.sound.info fd64).mpr present
  obtain ⟨p, owned⟩ := Table.mem_iff_lookup.mp info
  obtain ⟨conn, found, ready, blob, contents, use⟩ := intact.used fd64 fd p known open_ owned
  refine .bind stops_theServer fun server state read => ?_
  obtain ⟨rfl, rfl⟩ := theServer_iff.mp read
  refine .bind (stops_call (stops_check (decide_eq_true info))) fun _ state checked => ?_
  obtain ⟨_, _⟩ := state
  obtain ⟨checked, same⟩ := call_iff.mp checked
  obtain rfl : s = _ := same
  obtain ⟨-, same⟩ := check_iff.mp checked
  obtain rfl : m = _ := same
  have leads : s.descriptors.getInfo fd64 = .ok p := by
    have exists64 : s.descriptors.exist fd64 = true := decide_eq_true present
    simp only [Descriptors.getInfo, exec_bind_iff, assert_iff]
    exact ⟨⟨⟩, exists64, by rw [owned]; rfl⟩
  refine .bind (stops_run_ok leads) fun q state read => ?_
  obtain ⟨there, rfl⟩ := run_iff.mp read
  obtain rfl := Except.ok.inj (leads.symm.trans there)
  refine .bind (stops_deref found) fun same state read => ?_
  obtain ⟨there, rfl⟩ := deref_iff.mp read
  obtain rfl := Option.some.inj (found.symm.trans there)
  refine .ite (fun _ => ?_) fun different => ?_
  · refine .bind (stops_run_ok (toFd_iff.mpr known)) fun _ state read => ?_
    obtain ⟨-, rfl⟩ := run_iff.mp read
    refine .bind (stops_call (stops_check (decide_eq_true ready))) fun _ state checked => ?_
    obtain ⟨_, _⟩ := state
    obtain ⟨checked, same⟩ := call_iff.mp checked
    obtain rfl : s = _ := same
    obtain ⟨-, same⟩ := check_iff.mp checked
    obtain rfl : m = _ := same
    exact serverOnTimerMulti_stops intact found ready
  · obtain ⟨conv, stored⟩ := use.resolve_left different
    have linked := intact.custody.linked p conn blob found contents
    exact serverOnUdpRecv_stops intact found ready contents
      (Table.mem_iff_lookup.mpr ⟨conv, (linked.inverse conv fd64).mp stored⟩)

/-- Why an event may stop the server. -/
inductive EventFault (standing : Standing) (event : EpollEvent) (machine : Machine v)
    (server : Server options) : Fault → Prop
  /-- The system answers so. -/
  | system {fault : Fault} : event.data = standing.rawRecvFd → SystemFault machine.answers fault →
      EventFault standing event machine server fault
  /-- A captured packet has no payload. -/
  | unparsed {capture : Capture} : event.data = standing.rawRecvFd → event.capture = some capture →
      capture.Unparsed options machine.filterPort →
      EventFault standing event machine server (.undefined "data")
  /-- A client named itself zero. -/
  | nameless {p : Ptr} {conn : ServerConn options} : event.data = standing.timerFd →
      server.heap p = some conn → conn.state = .ready → conn.oppsiteConstId = 0 →
      EventFault standing event machine server (.assertion "oppsite_const_id != 0")
  /-- A line fills the whole buffer. -/
  | overrun {bytes : Bytes} : some event.data = standing.fifoFd → event.bytes = some bytes →
      bufLen ≤ bytes.length → EventFault standing event machine server (.undefined "buf[len]")
  /-- The event is of no registered descriptor. -/
  | unregistered : event.data ≤ 2 ^ 32 - 1 → event.data ≠ standing.timerFd →
      event.data ≠ standing.rawRecvFd → some event.data ≠ standing.fifoFd →
      EventFault standing event machine server
        (.exit "unknown fd,this should never happen")

/-- An event of a number is of an open descriptor, if the number is known. -/
def EpollEvent.Current (event : EpollEvent) (server : Server options) : Prop :=
  ∀ fd, server.descriptors.fd64ToFd.lookup event.data = some fd → fd ∈ server.descriptors.opened

/-- An event stops the server only for these reasons. -/
theorem serverOnEvent_stops {standing : Standing} {event : EpollEvent} (intact : Intact m s)
    (cursor : s.Cursor) (empty : m.packetBufCnt = 0) (current : event.Current s) :
    Stops (serverOnEvent standing event) (m, s) (EventFault standing event m s) := by
  refine .ite (fun timer => ?_) fun noTimer => .ite (fun raw => ?_) fun noRaw =>
    .ite (fun fifo => ?_) fun noFifo => .ite (fun _ => ?_) fun small => ?_
  · refine .bind (clearInactive_stops intact cursor fun p conn found ready client => ?_)
      fun _ _ _ => .pure _
    exact .nameless timer found ready client
  · refine .bind (serverOnRawRecvMulti_stops intact empty (fun fault stopped => .system raw stopped)
      fun capture captured letThrough => ?_) fun _ _ _ => .pure _
    exact .unparsed raw captured letThrough
  · refine .bind ?_ fun _ _ _ => .pure _
    unfold onFifo
    split
    · exact .pure _
    · rename_i bytes read
      exact .ite (fun long => .throw (.overrun fifo read long)) fun _ => .pure _
  · refine .bind stops_theServer fun server state read => ?_
    obtain ⟨rfl, rfl⟩ := theServer_iff.mp read
    refine .ite (fun _ => .pure _) fun present => ?_
    rw [Bool.not_eq_false] at present
    obtain ⟨fd, known⟩ := Table.mem_iff_lookup.mp (of_decide_eq_true present)
    exact .bind (serverOnFd64_stops intact known (current fd known)) fun _ _ _ => .pure _
  · exact .throw (.unregistered (Nat.not_lt.mp small) noTimer noRaw noFifo)

/-! ### The packet buffer -/

/-- A taken packet stays taken. -/
theorem Steps.taken {one two : Stage options} (steps : Steps one two)
    (taken : one.machine.packetBufCnt = 0) : two.machine.packetBufCnt = 0 := by
  obtain ⟨_, went⟩ := steps.went
  exact Nat.le_zero.mp (taken ▸ went.packetBufCnt)

/-- The reply to a `SYN` packet takes it. -/
theorem replySyn_taken {value : Unit} (returned : Returns (replySyn options) m value m') :
    m'.packetBufCnt = 0 := by
  simp only [replySyn, Returns.bind_iff] at returned
  obtain ⟨look, m1, one, ⟨raw, payload⟩, m2, two, returned⟩ := returned
  obtain ⟨-, -, count, -⟩ := recvRawPayload_logged two
  have taken : m2.packetBufCnt = 0 := by rw [count, newRawInfo_peek one]; rfl
  cases payload with
  | none =>
    obtain ⟨-, rfl⟩ := Returns.pure_iff.mp returned
    exact taken
  | some data =>
    dsimp only at returned
    split_ifs at returned
    · obtain ⟨-, rfl⟩ := Returns.pure_iff.mp returned
      exact taken
    · obtain ⟨-, rfl⟩ := Returns.pure_iff.mp returned
      exact taken
    · simp only [Returns.bind_iff, Returns.pure_iff] at returned
      obtain ⟨_, _, sent, -, rfl⟩ := returned
      exact (sendRawPayload_ran sent).1.packetBufCnt.trans taken
    · obtain ⟨-, rfl⟩ := Returns.pure_iff.mp returned
      exact taken

/-- A packet from a new address is taken. -/
theorem serverOnNewAddress_taken {addr : Address v} {value : Unit} (absent : addr ∉ s.mp)
    (source : m.packetBuf.source options.raw = addr)
    (returned : Returns (serverOnNewAddress addr) (m, s) value (m', s')) :
    m'.packetBufCnt = 0 := by
  simp only [serverOnNewAddress, Returns.bind_iff, theServer_iff] at returned
  obtain ⟨_, _, ⟨rfl, rfl⟩, returned⟩ := returned
  split at returned
  · exact (discardRawPacket_logged (call_iff.mp returned).1).2.2
  rename_i room
  simp only [Returns.bind_iff, call_iff] at returned
  obtain ⟨look, ⟨m1, _⟩, ⟨one, rfl⟩, ⟨raw, data⟩, ⟨m2, _⟩, ⟨two, rfl⟩, returned⟩ := returned
  have ran := newRawInfo_ran one
  obtain ⟨-, count, heardFrom, outcome⟩ := recvBare_logged two
  have peek : raw.peek = false := by
    rw [heardFrom.peek, RawInfo.expecting_peek, newRawInfo_peek one]
  have taken : m2.packetBufCnt = 0 := by
    rw [count, RawInfo.expecting_peek, newRawInfo_peek one]
    rfl
  obtain ⟨_, -, -, rfl⟩ | ⟨from_, input, message, data, rfl, content, logged⟩ := outcome
  · obtain ⟨-, same⟩ := Returns.pure_iff.mp returned
    obtain ⟨rfl, rfl⟩ := Prod.mk.inj same
    exact taken
  dsimp only at returned
  split at returned
  · obtain ⟨-, same⟩ := Returns.pure_iff.mp returned
    obtain ⟨rfl, rfl⟩ := Prod.mk.inj same
    exact taken
  rename_i long
  split at returned
  · obtain ⟨-, same⟩ := Returns.pure_iff.mp returned
    obtain ⟨rfl, rfl⟩ := Prod.mk.inj same
    exact taken
  rename_i initial
  rw [not_not] at initial
  simp only [Returns.bind_iff] at returned
  obtain ⟨p, ⟨m3, s3⟩, entered, returned⟩ := returned
  have heard := logged.heard_decrypted content
  have address : raw.source = addr := by rw [from_, ran.packetBuf, source]
  obtain ⟨steps, ⟨_, kept⟩, conn, found, waiting⟩ : Steps ⟨m2, s, []⟩ ⟨m3, s3, []⟩ ∧ _ ∧ _ :=
    newEntry_steps absent (Nat.not_le.mp room) address peek
      ⟨data, heard, Nat.not_lt.mp long, rfl, initial, rfl⟩ entered
  have rest : Steps ⟨m3, s3, []⟩ ⟨m', s', []⟩ :=
    serverOnRawRecvHandshake1_steps found waiting (kept.heard heard) returned
  exact Steps.taken (steps.trans rest) taken

/-- A packet from a known address is taken. -/
theorem serverOnKnownAddress_taken {addr : Address v} {p : Ptr} {value : Unit} (tables : s.Tables)
    (known : s.mp.lookup addr = some p) (source : m.packetBuf.source options.raw = addr)
    (returned : Returns (serverOnKnownAddress p) (m, s) value (m', s')) :
    m'.packetBufCnt = 0 := by
  simp only [serverOnKnownAddress, Returns.bind_iff, deref_iff] at returned
  obtain ⟨conn, _, ⟨found, rfl⟩, returned⟩ := returned
  have peek := tables.peek p conn found
  split at returned
  · rename_i waiting
    simp only [Returns.bind_iff, call_iff, store_iff] at returned
    obtain ⟨⟨rawInfo, data⟩, ⟨m1, _⟩, ⟨one, rfl⟩, _, _, rfl, returned⟩ := returned
    obtain ⟨-, heard, count⟩ : Steps ⟨m, s, []⟩ ⟨m1, _, []⟩ ∧ _ :=
      recvBare_steps found known source one
    have taken : m1.packetBufCnt = 0 := by rw [count, peek]; rfl
    cases data with
    | none =>
      obtain ⟨-, last⟩ := Returns.pure_iff.mp returned
      obtain ⟨rfl, rfl⟩ := Prod.mk.inj last
      exact taken
    | some data =>
      have rest : Steps ⟨m1, s.put p { conn with rawInfo }, []⟩ ⟨m', s', []⟩ :=
        serverOnRawRecvHandshake1_steps heap_put waiting (heard data rfl) returned
      exact rest.taken taken
  · rename_i ready
    simp only [Returns.bind_iff, call_iff, store_iff] at returned
    obtain ⟨⟨next, frames⟩, ⟨m1, _⟩, ⟨one, rfl⟩, _, _, rfl, returned⟩ := returned
    obtain ⟨-, holds, count⟩ := recvSaferMulti_steps found ready known source one
    exact (serverOnFrames_steps holds returned).taken (count peek)
  · exact (discardRawPacket_logged (call_iff.mp returned).1).2.2

/-- A captured packet does not stay in the buffer. -/
theorem serverOnRawRecvMulti_taken {received : Option Capture} {value : Unit} (tables : s.Tables)
    (empty : m.packetBufCnt = 0)
    (returned : Returns (serverOnRawRecvMulti received) (m, s) value (m', s')) :
    m'.packetBufCnt = 0 := by
  simp only [serverOnRawRecvMulti, Returns.bind_iff, call_iff] at returned
  obtain ⟨look, ⟨m1, _⟩, ⟨one, rfl⟩, ret, ⟨m2, _⟩, ⟨two, rfl⟩, returned⟩ := returned
  obtain ⟨-, -, outcome⟩ := preRecvRawPacket_logged two
  split at returned
  · rename_i failed
    obtain ⟨-, same⟩ := Returns.pure_iff.mp returned
    obtain ⟨rfl, rfl⟩ := Prod.mk.inj same
    obtain ⟨rfl, -⟩ | ⟨-, still⟩ := outcome
    · exact absurd failed (by decide)
    · obtain rfl : m2 = m1 := still
      exact (newRawInfo_ran one).packetBufCnt.trans empty
  · simp only [Returns.bind_iff, call_iff, peekRawPacket_iff] at returned
    obtain ⟨⟨peeked, seen⟩, ⟨m3, _⟩, ⟨⟨-, looked, rfl⟩, rfl⟩, returned⟩ := returned
    cases seen with
    | false => exact (discardRawPacket_logged (call_iff.mp returned).1).2.2
    | true =>
      have source := (peekRaw_source looked.symm).symm
      simp only [serverOnPeeked, Returns.bind_iff, theServer_iff, if_true] at returned
      obtain ⟨_, _, ⟨rfl, rfl⟩, returned⟩ := returned
      split at returned
      · simp only [Returns.bind_iff, run_iff] at returned
        obtain ⟨ready, _, ⟨-, rfl⟩, returned⟩ := returned
        split at returned
        · exact (discardRawPacket_logged (call_iff.mp returned).1).2.2
        · exact replySyn_taken (call_iff.mp returned).1
      · split at returned
        · rename_i absent
          exact serverOnNewAddress_taken (AList.lookup_eq_none.mp absent) source returned
        · rename_i p known
          exact serverOnKnownAddress_taken tables known source returned

/-- Between two events no packet is buffered. -/
theorem serverOnEvent_taken {standing : Standing} {event : EpollEvent} {going : Bool}
    (tables : s.Tables) (cursor : s.Cursor) (empty : m.packetBufCnt = 0)
    (returned : Returns (serverOnEvent standing event) (m, s) going (m', s')) :
    m'.packetBufCnt = 0 := by
  obtain ⟨m1, -, steps, rfl | received⟩ := serverOnEvent_steps cursor returned
  · exact steps.taken empty
  · exact serverOnRawRecvMulti_taken tables empty received

/-! ### Reachable servers -/

/-- A reachable server is in order. -/
theorem Reachable.intact {standing : Standing} {answers : Nat → Answer v} {filterPort : UInt16}
    {state : Machine v × Server options}
    (reachable : Reachable options standing answers filterPort state) : Intact state.1 state.2 := by
  refine reachable.holds Intact (intact_start .server answers filterPort) ?_ ?_ Intact.step
  · exact fun _ intact =>
      ⟨intact.tables, intact.custody, intact.early, intact.used, intact.tracked⟩
  · exact fun logged intact => intact.logged logged

/-- Between two events of a reachable server no packet is buffered. -/
theorem Reachable.empty {standing : Standing} {answers : Nat → Answer v} {filterPort : UInt16}
    {state : Machine v × Server options}
    (reachable : Reachable options standing answers filterPort state) :
    state.1.packetBufCnt = 0 := by
  induction reachable with
  | start => rfl
  | logged log _ ih => exact ih
  | event earlier returned ih =>
    exact serverOnEvent_taken earlier.tables earlier.cursor ih returned

/-- The answers of a run. -/
theorem Reachable.answers_eq {standing : Standing} {answers : Nat → Answer v} {filterPort : UInt16}
    {state : Machine v × Server options}
    (reachable : Reachable options standing answers filterPort state) :
    state.1.answers = answers := by
  refine reachable.holds (fun machine _ => machine.answers = answers) rfl (fun _ => id) ?_ ?_
  · exact fun logged same => logged.answers.trans same
  · intro one two step same
    obtain ⟨_, went⟩ := step.went
    exact went.answers.trans same

/-- The packet filter of a run. -/
theorem Reachable.filterPort_eq {standing : Standing} {answers : Nat → Answer v}
    {filterPort : UInt16} {state : Machine v × Server options}
    (reachable : Reachable options standing answers filterPort state) :
    state.1.filterPort = filterPort := by
  refine reachable.holds (fun machine _ => machine.filterPort = filterPort) rfl
    (fun _ => id) ?_ ?_
  · exact fun logged same => logged.filterPort.trans same
  · intro one two step same
    obtain ⟨_, went⟩ := step.went
    exact went.filterPort.trans same

end Udp2raw
