import Udp2raw.Client.Loop
import Udp2raw.Data.Correspondence
import Udp2raw.Server.Arrivals
import Udp2raw.Server.Custody

/-!
# A server and its clients

The parties act in any order, one event at a time, and what they do goes to the end of one
record. The network is not a party: which packets a party captures is a part of its events, so
they may be lost, late, repeated, altered or made up, and come from any address.
-/
namespace Udp2raw

variable {v : IpVersion} {ι : Type}

/-- How a server and its clients are set up, and what their systems answer. -/
structure Deployment (v : IpVersion) (ι : Type) where
  /-- The options of the server. -/
  options : Options v
  /-- The descriptors of its event loop. -/
  standing : Standing
  /-- The answers of its system. -/
  answers : Nat → Answer v
  /-- The port of its packet filter. -/
  filterPort : UInt16
  /-- The options of each client. -/
  clientOptions : ι → Options v
  /-- The options that only a client reads. -/
  route : ι → ClientOptions v
  /-- The answers of the system of each client. -/
  clientAnswers : ι → Nat → Answer v
  /-- The port of its packet filter. -/
  clientPort : ι → UInt16

/-- The state of a server and its clients. -/
structure World (d : Deployment v ι) where
  /-- What they did so far. -/
  log : Log v
  /-- The packets that the server captured, each with the length of the record at that time. -/
  arrivals : List (Nat × Capture)
  /-- The server. -/
  server : Machine v × Server d.options
  /-- The clients that started. -/
  client : ∀ i, Option (Machine v × Client (d.clientOptions i))

variable {d : Deployment v ι}

/-- The server started and no client did. -/
def World.start (d : Deployment v ι) : World d where
  log := []
  arrivals := []
  server := (.start .server d.answers d.filterPort, .start)
  client _ := none

/-- A process that adds to the record of all parties. -/
def Machine.withLog (machine : Machine v) (log : Log v) : Machine v := { machine with log }

/-- A run of a server and its clients. -/
inductive WorldRun [DecidableEq ι] (d : Deployment v ι) : World d → Prop
  /-- The server starts. -/
  | start : WorldRun d (.start d)
  /-- The server handled an event. -/
  | server {w : World d} {event : EpollEvent} {going : Bool}
      {after : Machine v × Server d.options} :
      WorldRun d w →
      Returns (serverOnEvent d.standing event) (w.server.1.withLog w.log, w.server.2) going after →
      WorldRun d { w with
        log := after.1.log
        arrivals := w.arrivals ++
          (event.captured d.standing).toList.map fun capture => (w.log.length, capture)
        server := after }
  /-- A client starts. -/
  | connect {w : World d} {i : ι} {machine : Machine v} {client : Client (d.clientOptions i)} :
      WorldRun d w → w.client i = none →
      Returns (clientStart (d.clientOptions i) (d.route i))
        (.start (.client (d.clientOptions i).constId) (d.clientAnswers i) (d.clientPort i)) client
        machine →
      WorldRun d { w with
        log := w.log ++ machine.log
        client := Function.update w.client i (some (machine, client)) }
  /-- A client handled an event. -/
  | client {w : World d} {i : ι} {event : ClientEvent}
      {before after : Machine v × Client (d.clientOptions i)} :
      WorldRun d w → w.client i = some before →
      Returns (clientOnEvent (d.route i) event) (before.1.withLog w.log, before.2) () after →
      WorldRun d { w with
        log := after.1.log
        client := Function.update w.client i (some after) }

section Parts

variable [DecidableEq ι] {w : World d}

/-- The server is in a state that it can reach. -/
theorem WorldRun.server_reachable (run : WorldRun d w) :
    Reachable d.options d.standing d.answers d.filterPort w.server := by
  induction run with
  | start => exact .start
  | @server w _ _ _ _ returned ih => exact .event (.logged w.log ih) returned
  | connect _ _ _ ih => exact ih
  | client _ _ _ ih => exact ih

/-- What holds of a new state of one client and of the states of the others holds of all. -/
theorem World.client_update {motive : ∀ i, Machine v × Client (d.clientOptions i) → Prop} {i j : ι}
    {next : Machine v × Client (d.clientOptions i)} {state : Machine v × Client (d.clientOptions j)}
    (here : motive i next)
    (others : ∀ j state, j ≠ i → w.client j = some state → motive j state)
    (started : Function.update w.client i (some next) j = some state) : motive j state := by
  by_cases same : j = i
  · subst same
    rw [Function.update_self] at started
    obtain rfl := Option.some.inj started
    exact here
  · rw [Function.update_of_ne same] at started
    exact others j state same started

/-- A client that started is in a state that it can reach. -/
theorem WorldRun.client_reachable (run : WorldRun d w) {i : ι}
    {state : Machine v × Client (d.clientOptions i)} (started : w.client i = some state) :
    ClientReachable (d.clientOptions i) (d.route i) (d.clientAnswers i) (d.clientPort i) state := by
  induction run generalizing i with
  | start => exact nomatch started
  | server _ _ ih => exact ih started
  | connect _ _ returned ih =>
    exact World.client_update (motive := fun i state => ClientReachable (d.clientOptions i)
      (d.route i) (d.clientAnswers i) (d.clientPort i) state) (.start returned)
      (fun _ _ _ present => ih present) started
  | @client w _ _ _ _ _ present returned ih =>
    exact World.client_update (motive := fun i state => ClientReachable (d.clientOptions i)
      (d.route i) (d.clientAnswers i) (d.clientPort i) state)
      (.event (.logged w.log (ih present)) returned) (fun _ _ _ present => ih present) started

end Parts

/-! ### What holds in every run -/

/-- The process of a server in every state it reaches is the server's. -/
theorem Reachable.self_eq {options : Options v} {standing : Standing} {answers : Nat → Answer v}
    {filterPort : UInt16} {state : Machine v × Server options}
    (reachable : Reachable options standing answers filterPort state) : state.1.self = .server := by
  refine Reachable.holds (fun machine _ => machine.self = .server) rfl (fun _ same => same)
    (fun logged same => logged.self.trans same) (fun step same => ?_) reachable
  obtain ⟨_, went⟩ := step.went
  exact went.self.trans same

/-- The process of a client in every state it reaches is the client's. -/
theorem ClientReachable.self_eq {options : Options v} {route : ClientOptions v}
    {answers : Nat → Answer v} {filterPort : UInt16} {state : Machine v × Client options}
    (reachable : ClientReachable options route answers filterPort state) :
    state.1.self = .client options.constId := by
  induction reachable with
  | start returned =>
    simp only [clientStart, Returns.bind_iff, Returns.pure_iff] at returned
    obtain ⟨conn, _, one, myId, _, two, prepared, _, three, -, rfl⟩ := returned
    have whole := ((newConnInfo_ran one).1.trans (drawMyId_ran two).1).trans (prepare_ran three).1
    exact whole.self
  | logged _ _ ih => exact ih
  | event _ returned ih =>
    obtain ⟨m1, captured, steps⟩ := clientOnEvent_steps (fun _ => trivial) returned
    obtain ⟨_, _, went⟩ := steps.advanced
    exact went.self.trans (captured.self.trans ih)

/-- What holds in every run whose record is good: of the record, of the server with the messages
that wait in it, and of each client. -/
structure Invariant (d : Deployment v ι) where
  /-- The record is good. -/
  good : Log v → Prop
  /-- What holds of the record, -/
  record : Log v → Prop
  /-- of the server -/
  server : Log v → Server d.options → List Pending → Prop
  /-- and of a client. -/
  client : ∀ i, Log v → Client (d.clientOptions i) → List Pending → Prop
  /-- The start of a good record is good. -/
  part : ∀ {log} more, good (log ++ more) → good log
  /-- It holds of an empty record -/
  emptyRecord : record []
  /-- and of a server that starts. -/
  serverStart : server [] .start []
  /-- It goes on to hold of the server, whatever the clients do, -/
  serverLater : ∀ {log s inbox} j events, server log s inbox →
    server (log ++ entries (.client (d.clientOptions j).constId) events) s inbox
  /-- and of a client, whatever the server does -/
  clientServer : ∀ {i log c inbox} events, client i log c inbox →
    client i (log ++ entries .server events) c inbox
  /-- and whatever the other clients do. -/
  clientLater : ∀ {i log c inbox} j events, j ≠ i → client i log c inbox →
    client i (log ++ entries (.client (d.clientOptions j).constId) events) c inbox
  /-- The server keeps it. -/
  serverStep : ∀ {one two : Stage d.options}, Step one two → one.machine.self = .server →
    one.server.Tables → one.server.Custody → good two.machine.log → record one.machine.log →
    server one.machine.log one.server one.inbox →
    record two.machine.log ∧ server two.machine.log two.server two.inbox
  /-- A client that starts keeps it -/
  clientStart : ∀ {i log c myId}, c.conn.state = .idle → c.conn.myId = myId → myId ≠ 0 →
    (∃ blob, c.conn.blob = some blob ∧ blob.convManager.convToData = ∅ ∧
      blob.convManager.dataToConv = ∅ ∧ blob.convManager.lru = .empty ∧
      blob.antiReplay.maxPacketReceived = 0) →
    good (log ++ [(.client (d.clientOptions i).constId, .drewMyId myId)]) → record log →
    record (log ++ [(.client (d.clientOptions i).constId, .drewMyId myId)]) ∧
      client i (log ++ [(.client (d.clientOptions i).constId, .drewMyId myId)]) c []
  /-- and so does a client that goes on. -/
  clientStep : ∀ {i} {one two : ClientStage (d.clientOptions i)}, ClientStep True one two →
    one.machine.self = .client (d.clientOptions i).constId → good two.machine.log →
    record one.machine.log → client i one.machine.log one.client one.inbox →
    record two.machine.log ∧ client i two.machine.log two.client two.inbox

section Runs

variable (inv : Invariant d)

/-- An invariant is kept by the steps of the server. -/
theorem Invariant.serverSteps {one two : Stage d.options} (steps : Steps one two)
    (self : one.machine.self = .server) (tables : one.server.Tables)
    (custody : one.server.Custody) (good : inv.good two.machine.log)
    (record : inv.record one.machine.log)
    (server : inv.server one.machine.log one.server one.inbox) :
    inv.record two.machine.log ∧ inv.server two.machine.log two.server two.inbox := by
  have whole : two.machine.self = .server ∧ two.server.Tables ∧ two.server.Custody ∧
      (inv.good two.machine.log →
        inv.record two.machine.log ∧ inv.server two.machine.log two.server two.inbox) := by
    clear good
    induction steps with
    | refl => exact ⟨self, tables, custody, fun _ => ⟨record, server⟩⟩
    | tail _ last ih =>
      obtain ⟨sameSelf, held, owned, before⟩ := ih
      obtain ⟨events, went⟩ := last.went
      refine ⟨went.self.trans sameSelf, held.step last, owned.step last held, fun good => ?_⟩
      rw [went.log] at good
      obtain ⟨recordBefore, serverBefore⟩ := before (inv.part _ good)
      rw [← went.log] at good
      exact inv.serverStep last sameSelf held owned good recordBefore serverBefore
  exact whole.2.2.2 good

/-- An invariant is kept by the steps of a client. -/
theorem Invariant.clientSteps {i : ι} {one two : ClientStage (d.clientOptions i)}
    (steps : ClientSteps True one two)
    (self : one.machine.self = .client (d.clientOptions i).constId)
    (good : inv.good two.machine.log) (record : inv.record one.machine.log)
    (client : inv.client i one.machine.log one.client one.inbox) :
    inv.record two.machine.log ∧ inv.client i two.machine.log two.client two.inbox := by
  have whole : two.machine.self = .client (d.clientOptions i).constId ∧
      (inv.good two.machine.log →
        inv.record two.machine.log ∧ inv.client i two.machine.log two.client two.inbox) := by
    clear good
    induction steps with
    | refl => exact ⟨self, fun _ => ⟨record, client⟩⟩
    | tail _ last ih =>
      obtain ⟨sameSelf, before⟩ := ih
      obtain ⟨events, _, went⟩ := last.advanced
      refine ⟨went.self.trans sameSelf, fun good => ?_⟩
      have grown := went.log
      rw [grown] at good
      obtain ⟨recordBefore, clientBefore⟩ := before (inv.part _ good)
      rw [← grown] at good
      exact inv.clientStep last sameSelf good recordBefore clientBefore
  exact whole.2 good

/-- A client that starts drew its identifier and has nothing else. -/
theorem clientStart_fresh {options : Options v} {route : ClientOptions v}
    {answers : Nat → Answer v} {filterPort : UInt16} {self : Party} {machine : Machine v}
    {client : Client options}
    (returned : Returns (Udp2raw.clientStart options route) (.start self answers filterPort) client
      machine) :
    client.conn.state = .idle ∧ client.conn.myId ≠ 0 ∧
      machine.log = [(self, .drewMyId client.conn.myId)] ∧
      ∃ blob, client.conn.blob = some blob ∧ blob.convManager.convToData = ∅ ∧
        blob.convManager.dataToConv = ∅ ∧ blob.convManager.lru = .empty ∧
        blob.antiReplay.maxPacketReceived = 0 := by
  simp only [Udp2raw.clientStart, Returns.bind_iff, Returns.pure_iff] at returned
  obtain ⟨conn, _, one, myId, _, two, prepared, _, three, rfl, rfl⟩ := returned
  obtain ⟨first, idle, -⟩ := newConnInfo_ran one
  obtain ⟨second, nonzero⟩ := drawMyId_ran two
  obtain ⟨third, -, blob, rfl, contents⟩ := prepare_ran three
  refine ⟨idle, nonzero, ?_, blob, rfl, contents⟩
  rw [((first.trans second).trans third).log]
  rfl

/-- An event of the server is a sequence of steps, and its record goes to the end. -/
theorem WorldRun.serverEvent [DecidableEq ι] {w : World d} (run : WorldRun d w) {event : EpollEvent}
    {going : Bool} {after : Machine v × Server d.options}
    (returned : Returns (serverOnEvent d.standing event) (w.server.1.withLog w.log, w.server.2)
      going after) :
    ∃ m1 events, m1.log = w.log ∧ m1.self = .server ∧
      Steps ⟨m1, w.server.2, []⟩ ⟨after.1, after.2, []⟩ ∧
        after.1.log = w.log ++ entries .server events := by
  have reachable := run.server_reachable
  obtain ⟨m1, captured, steps, -⟩ := serverOnEvent_steps reachable.cursor returned
  obtain ⟨events, went⟩ := steps.went
  have same : m1.log = w.log := by
    rw [captured.log]
    exact List.append_nil _
  have self : m1.self = .server := captured.self.trans reachable.self_eq
  exact ⟨m1, events, same, self, steps, by rw [went.log, same, self]⟩

/-- An event of a client is a sequence of steps, and its record goes to the end. -/
theorem WorldRun.clientEvent [DecidableEq ι] {w : World d} (run : WorldRun d w) {i : ι}
    {event : ClientEvent} {before after : Machine v × Client (d.clientOptions i)}
    (present : w.client i = some before)
    (returned : Returns (clientOnEvent (d.route i) event) (before.1.withLog w.log, before.2) ()
      after) :
    ∃ m1 events, m1.log = w.log ∧ m1.self = .client (d.clientOptions i).constId ∧
      ClientSteps True ⟨m1, before.2, []⟩ ⟨after.1, after.2, []⟩ ∧
        after.1.log = w.log ++ entries (.client (d.clientOptions i).constId) events := by
  obtain ⟨m1, captured, steps⟩ := clientOnEvent_steps (fun _ => trivial) returned
  obtain ⟨events, _, went⟩ := steps.advanced
  have same : m1.log = w.log := by
    rw [captured.log]
    exact List.append_nil _
  have self : m1.self = .client (d.clientOptions i).constId :=
    captured.self.trans (run.client_reachable present).self_eq
  refine ⟨m1, events, same, self, steps, ?_⟩
  rw [went.log, ← self]
  exact congrArg (· ++ _) same

/-- What is invariant holds in every run whose record is good. -/
theorem WorldRun.holds [DecidableEq ι] {w : World d} (run : WorldRun d w) (good : inv.good w.log) :
    inv.record w.log ∧ inv.server w.log w.server.2 [] ∧
      ∀ i state, w.client i = some state → inv.client i w.log state.2 [] := by
  induction run with
  | start =>
    refine ⟨inv.emptyRecord, inv.serverStart, fun i state started => ?_⟩
    have nobody : (World.start d).client i = none := rfl
    rw [nobody] at started
    contradiction
  | @server w event going after earlier returned ih =>
    obtain ⟨m1, events, same, self, steps, grown⟩ := earlier.serverEvent returned
    have whole : inv.good (w.log ++ entries .server events) := by
      rw [← grown]
      exact good
    have before := ih (inv.part _ whole)
    obtain ⟨record, server⟩ := inv.serverSteps steps self earlier.server_reachable.tables
      earlier.server_reachable.custody good
      (by rw [same]; exact before.1) (by rw [same]; exact before.2.1)
    refine ⟨record, server, fun i state started => ?_⟩
    show inv.client i after.1.log state.2 []
    rw [grown]
    exact inv.clientServer events (before.2.2 i state started)
  | @connect w i machine client earlier absent returned ih =>
    obtain ⟨idle, nonzero, log, contents⟩ := clientStart_fresh returned
    have before := ih (inv.part _ good)
    dsimp only at good ⊢
    rw [log] at good ⊢
    obtain ⟨record, fresh⟩ := inv.clientStart idle rfl nonzero contents good before.1
    refine ⟨record, inv.serverLater i [.drewMyId client.conn.myId] before.2.1,
      fun j state started => ?_⟩
    exact World.client_update (motive := fun j state => inv.client j _ state.2 []) fresh
      (fun j state different present =>
        inv.clientLater i [.drewMyId client.conn.myId] (Ne.symm different)
          (before.2.2 j state present)) started
  | @client w i event was after earlier present returned ih =>
    obtain ⟨m1, events, same, self, steps, grown⟩ := earlier.clientEvent present returned
    have whole : inv.good (w.log ++ entries (.client (d.clientOptions i).constId) events) := by
      rw [← grown]
      exact good
    have before := ih (inv.part _ whole)
    obtain ⟨record, client⟩ := inv.clientSteps steps self good
      (by rw [same]; exact before.1) (by rw [same]; exact before.2.2 i was present)
    refine ⟨record, ?_, fun j state started => ?_⟩
    · show inv.server after.1.log w.server.2 []
      rw [grown]
      exact inv.serverLater i events before.2.1
    · refine World.client_update (motive := fun j state => inv.client j after.1.log state.2 [])
        client (fun j state different present => ?_) started
      rw [grown]
      exact inv.clientLater i events (Ne.symm different) (before.2.2 j state present)

end Runs

/-! ### Running it -/

section Running

variable [DecidableEq ι] {w next : World d}

/-- The server handles an event, if it goes on. -/
def World.serverGoes (event : EpollEvent) (w : World d) : Option (World d) :=
  let handles := serverOnEvent d.standing event
  let before := (w.server.1.withLog w.log, w.server.2)
  match resultOf handles before with
  | none => none
  | some _ => some { w with
      log := (leaves handles before).1.log
      arrivals := w.arrivals ++
        (event.captured d.standing).toList.map fun capture => (w.log.length, capture)
      server := leaves handles before }

/-- A client starts, if it did not start before. -/
def World.connects (i : ι) (w : World d) : Option (World d) :=
  let starts := clientStart (d.clientOptions i) (d.route i)
  let before : Machine v :=
    .start (.client (d.clientOptions i).constId) (d.clientAnswers i) (d.clientPort i)
  match w.client i, resultOf starts before with
  | none, some client => some { w with
      log := w.log ++ (leaves starts before).log
      client := Function.update w.client i (some (leaves starts before, client)) }
  | _, _ => none

/-- A client handles an event, if it goes on. -/
def World.clientGoes (i : ι) (event : ClientEvent) (w : World d) : Option (World d) :=
  match w.client i with
  | none => none
  | some before =>
    let handles := clientOnEvent (d.route i) event
    let state := (before.1.withLog w.log, before.2)
    match resultOf handles state with
    | none => none
    | some _ => some { w with
        log := (leaves handles state).1.log
        client := Function.update w.client i (some (leaves handles state)) }

/-- The server makes a run longer. -/
theorem WorldRun.serverGoes (run : WorldRun d w) {event : EpollEvent}
    (goes : w.serverGoes event = some next) : WorldRun d next := by
  unfold World.serverGoes at goes
  dsimp only at goes
  split at goes
  · contradiction
  · rename_i result
    obtain rfl := Option.some.inj goes
    exact run.server (returns_of_resultOf result)

/-- A client that starts makes a run longer. -/
theorem WorldRun.connects (run : WorldRun d w) {i : ι} (goes : w.connects i = some next) :
    WorldRun d next := by
  unfold World.connects at goes
  dsimp only at goes
  split at goes
  · rename_i absent result
    obtain rfl := Option.some.inj goes
    exact run.connect absent (returns_of_resultOf result)
  · contradiction

/-- A client makes a run longer. -/
theorem WorldRun.clientGoes (run : WorldRun d w) {i : ι} {event : ClientEvent}
    (goes : w.clientGoes i event = some next) : WorldRun d next := by
  unfold World.clientGoes at goes
  split at goes
  · contradiction
  rename_i present
  dsimp only at goes
  split at goes
  · contradiction
  · rename_i result
    obtain rfl := Option.some.inj goes
    exact run.client present (returns_of_resultOf result)

end Running

end Udp2raw
