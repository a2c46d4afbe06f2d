import Udp2raw.Connection.SaferCalls
import Udp2raw.Client.Loop

/-!
# The session of the client

Safer messages belong to a session that was answered and is ready. What the session is can be
read off the record of the client alone: the state it entered last, and the identifiers of the
response it accepted since it was last idle.
-/
namespace Udp2raw

open Proc ClientProc

variable {v : IpVersion} {options : Options v} {route : ClientOptions v} {m m' : Machine v}
  {c c' : Client options} {inbox : List Pending}

/-! ### The session in the record -/

/-- What the record of a client says about its session. -/
structure SessionTrace where
  /-- The state that the client entered last. -/
  state : ClientState
  /-- `my_id` and `oppsite_id` of the response that the client accepted since it was last idle. -/
  ids : Option (UInt32 × UInt32)

namespace SessionTrace

/-- A client starts without a session. -/
def start : SessionTrace := ⟨.idle, none⟩

/-- What an event changes. -/
def next (trace : SessionTrace) : Event v → SessionTrace
  | .entered .idle => start
  | .entered state => { trace with state }
  | .answered myId oppsiteId => { trace with ids := some (myId, oppsiteId) }
  | _ => trace

/-- What some events change. -/
def after (trace : SessionTrace) (events : List (Event v)) : SessionTrace :=
  events.foldl next trace

/-- What two parts of the record change. -/
theorem after_append (trace : SessionTrace) (first second : List (Event v)) :
    trace.after (first ++ second) = (trace.after first).after second := List.foldl_append

/-- What one more event changes. -/
theorem after_cons (trace : SessionTrace) (event : Event v) (events : List (Event v)) :
    trace.after (event :: events) = (trace.next event).after events := rfl

end SessionTrace

/-- `my_encrypt` was called with a message. -/
def Event.Encrypts (event : Event v) (message : Bytes) : Prop :=
  event = .refused message ∨ ∃ output, event = .encrypted message output

/-- `send_safer` handed a message of these identifiers to `my_encrypt`. -/
def Event.SendsSafer (event : Event v) (myId oppsiteId : UInt32) : Prop :=
  ∃ seq type roller data, (type = typeHeartbeat ∨ type = typeData) ∧
    event.Encrypts (saferMessage myId oppsiteId seq type roller data)

/-- A call has one message. -/
theorem Event.Encrypts.unique {event : Event v} {message other : Bytes}
    (one : event.Encrypts message) (two : event.Encrypts other) : message = other := by
  obtain rfl | ⟨_, rfl⟩ := one
  · obtain same | ⟨_, same⟩ := two
    · exact Event.refused.inj same
    · contradiction
  · obtain same | ⟨_, same⟩ := two
    · contradiction
    · exact (Event.encrypted.inj same).1

/-- Behind this trace, every call of `send_safer` is made in the state `client_ready` and carries
the identifiers of the response that the client accepted for its session. -/
def InSession : SessionTrace → List (Event v) → Prop
  | _, [] => True
  | trace, event :: events =>
    (∀ myId oppsiteId, event.SendsSafer myId oppsiteId →
      trace.state = .ready ∧ trace.ids = some (myId, oppsiteId)) ∧
    InSession (trace.next event) events

/-- Two parts of the record are in session, one after the other. -/
theorem inSession_append {trace : SessionTrace} {first second : List (Event v)} :
    InSession trace (first ++ second) ↔
      InSession trace first ∧ InSession (trace.after first) second := by
  induction first generalizing trace with
  | nil => exact ⟨fun behind => ⟨trivial, behind⟩, And.right⟩
  | cons event events ih => rw [List.cons_append, InSession, InSession, ih, and_assoc]; rfl

/-- A call of `send_safer` while the client is idle is in no session. -/
theorem not_inSession {trace : SessionTrace} {first rest : List (Event v)} {event : Event v}
    {myId oppsiteId : UInt32} (sends : event.SendsSafer myId oppsiteId)
    (idle : (trace.after first).state = .idle) :
    ¬InSession trace (first ++ event :: rest) := by
  intro kept
  obtain ⟨ready, -⟩ := (inSession_append.mp kept).2.1 myId oppsiteId sends
  rw [idle] at ready
  contradiction

/-- An event that has nothing to do with the session. -/
def Event.Aside (event : Event v) : Prop :=
  (∀ trace : SessionTrace, trace.next event = trace) ∧
    ∀ myId oppsiteId, ¬event.SendsSafer myId oppsiteId

/-- Such events change nothing. -/
theorem SessionTrace.after_aside {trace : SessionTrace} {events : List (Event v)}
    (aside : ∀ event ∈ events, event.Aside) : trace.after events = trace := by
  induction events with
  | nil => rfl
  | cons event events ih =>
    obtain ⟨first, rest⟩ := List.forall_mem_cons.mp aside
    rw [after_cons, first.1, ih rest]

/-- Events without a call of `send_safer` are in session. -/
theorem inSession_quiet {trace : SessionTrace} {events : List (Event v)}
    (quiet : ∀ event ∈ events, ∀ myId oppsiteId, ¬event.SendsSafer myId oppsiteId) :
    InSession trace events := by
  induction events generalizing trace with
  | nil => trivial
  | cons event events ih =>
    obtain ⟨first, rest⟩ := List.forall_mem_cons.mp quiet
    exact ⟨fun myId oppsiteId sends => absurd sends (first myId oppsiteId), ih rest⟩

/-- An event that is no call of `my_encrypt` is no call of `send_safer`. -/
theorem not_sendsSafer {event : Event v} (refused : ∀ message, event ≠ .refused message)
    (encrypted : ∀ message output, event ≠ .encrypted message output) (myId oppsiteId : UInt32) :
    ¬event.SendsSafer myId oppsiteId := by
  rintro ⟨_, _, _, _, -, same | ⟨_, same⟩⟩
  · exact refused _ same
  · exact encrypted _ _ same

/-- A bare message is no call of `send_safer`. -/
theorem bare_not_sendsSafer {event : Event v} {iv padding : UInt64} {sent : Bytes}
    (bare : event.Encrypts (bareMessage iv padding sent)) (myId oppsiteId : UInt32) :
    ¬event.SendsSafer myId oppsiteId := by
  rintro ⟨seq, type, roller, data, known, safer⟩
  have content := (bareContent_iff iv padding sent sent).mpr rfl
  rw [bare.unique safer] at content
  exact bareContent_saferMessage known content

/-- Minor events have nothing to do with the session. -/
theorem Minor.aside {events : List (Event v)} (minor : Minor events) :
    ∀ event ∈ events, event.Aside := by
  intro event inside
  obtain ⟨_, rfl⟩ | ⟨_, _, rfl⟩ := minor event inside
  · exact ⟨fun _ => rfl, not_sendsSafer nofun nofun⟩
  · exact ⟨fun _ => rfl, not_sendsSafer nofun nofun⟩

/-- A handshake has nothing to do with the session. -/
theorem BareEvents.aside {id1 id2 id3 : UInt32} {events : List (Event v)}
    (bare : BareEvents id1 id2 id3 events) : ∀ event ∈ events, event.Aside := by
  obtain ⟨iv, padding, rfl | ⟨output, rfl⟩⟩ := bare
  · intro event inside
    obtain rfl := List.mem_singleton.mp inside
    exact ⟨fun _ => rfl, bare_not_sendsSafer (.inl rfl)⟩
  · refine List.forall_mem_cons.mpr ⟨?_, fun event inside => ?_⟩
    · exact ⟨fun _ => rfl, bare_not_sendsSafer (.inr ⟨_, rfl⟩)⟩
    · obtain rfl := List.mem_singleton.mp inside
      exact ⟨fun _ => rfl, not_sendsSafer nofun nofun⟩

/-- A safer message does not change the session. -/
theorem SaferEvents.after {myId oppsiteId : UInt32} {seq : UInt64} {type : UInt8} {data : Bytes}
    {events : List (Event v)} (safer : SaferEvents myId oppsiteId seq type data events)
    (trace : SessionTrace) : trace.after events = trace := by
  obtain ⟨_, rfl | ⟨_, _, rfl⟩⟩ := safer <;> rfl

/-- A safer message begins with a call of `send_safer`. -/
theorem SaferEvents.sends {myId oppsiteId : UInt32} {seq : UInt64} {type : UInt8} {data : Bytes}
    {events : List (Event v)} (safer : SaferEvents myId oppsiteId seq type data events)
    (known : type = typeHeartbeat ∨ type = typeData) :
    ∃ event rest, events = event :: rest ∧ event.SendsSafer myId oppsiteId := by
  obtain ⟨roller, rfl | ⟨output, frame, rfl⟩⟩ := safer
  · exact ⟨_, _, rfl, _, _, _, _, known, .inl rfl⟩
  · exact ⟨_, _, rfl, _, _, _, _, known, .inr ⟨output, rfl⟩⟩

/-- The identifiers in a safer message tell its session. -/
theorem Event.SendsSafer.unique {event : Event v} {myId oppsiteId otherId otherOppsite : UInt32}
    (one : event.SendsSafer myId oppsiteId) (two : event.SendsSafer otherId otherOppsite) :
    otherId = myId ∧ otherOppsite = oppsiteId := by
  obtain ⟨seq, type, roller, data, -, one⟩ := one
  obtain ⟨seq', type', roller', data', -, two⟩ := two
  obtain ⟨first, second⟩ := idAt_saferMessage otherId otherOppsite seq' type' roller' data'
  obtain ⟨here, there⟩ := idAt_saferMessage myId oppsiteId seq type roller data
  rw [two.unique one] at first second
  exact ⟨first.symm.trans here, second.symm.trans there⟩

/-- A safer message of the session is in session. -/
theorem SaferEvents.inSession {myId oppsiteId : UInt32} {seq : UInt64} {type : UInt8} {data : Bytes}
    {events : List (Event v)} (safer : SaferEvents myId oppsiteId seq type data events)
    (known : type = typeHeartbeat ∨ type = typeData) {trace : SessionTrace}
    (ready : trace.state = .ready) (ids : trace.ids = some (myId, oppsiteId)) :
    InSession trace events := by
  obtain ⟨event, rest, same, sends⟩ := safer.sends known
  have begins : ∀ here there, event.SendsSafer here there →
      trace.state = .ready ∧ trace.ids = some (here, there) := by
    intro here there again
    obtain ⟨rfl, rfl⟩ := sends.unique again
    exact ⟨ready, ids⟩
  obtain ⟨_, shape⟩ := safer
  rw [same] at shape ⊢
  refine ⟨begins, inSession_quiet fun other inside => ?_⟩
  obtain shape | ⟨_, _, shape⟩ := shape
  · rw [(List.cons.inj shape).2] at inside
    contradiction
  · rw [(List.cons.inj shape).2] at inside
    obtain rfl := List.mem_singleton.mp inside
    exact not_sendsSafer nofun nofun

/-! ### Runs that stay in session -/

/-- A connection in the same state of the same session. -/
structure Client.Stays (before after : Client options) : Prop where
  /-- It is in the same state. -/
  state : after.conn.state = before.conn.state
  /-- It has the same identifier. -/
  myId : after.conn.myId = before.conn.myId
  /-- The other end has the same identifier. -/
  oppsiteId : after.conn.oppsiteId = before.conn.oppsiteId

/-- This trace is of the session of the client. -/
structure Client.Traces (client : Client options) (trace : SessionTrace) : Prop where
  /-- The connection is in the state that was entered last. -/
  state : trace.state = client.conn.state
  /-- From the second handshake on, the connection has the identifiers that were answered. -/
  ids : client.conn.state ∈ [ClientState.handshake2, .ready] →
    trace.ids = some (client.conn.myId, client.conn.oppsiteId)

/-- The trace of a connection that stays. -/
theorem Client.Traces.stays {trace : SessionTrace} (traces : c.Traces trace) (stays : c.Stays c') :
    c'.Traces trace := by
  refine ⟨traces.state.trans stays.state.symm, fun inUse => ?_⟩
  rw [stays.state] at inUse
  rw [stays.myId, stays.oppsiteId]
  exact traces.ids inUse

/-- The trace of a connection that is not in use yet. -/
theorem Client.Traces.early {trace : SessionTrace} (state : trace.state = c.conn.state)
    (early : c.conn.state ∉ [ClientState.handshake2, .ready]) : c.Traces trace :=
  ⟨state, fun inUse => absurd inUse early⟩

/-- The client entered a state other than `client_idle`. -/
theorem SessionTrace.next_entered (trace : SessionTrace) {state : ClientState}
    (busy : state ≠ .idle) : trace.next (.entered state : Event v) = { trace with state } := by
  cases state with
  | idle => contradiction
  | tcpHandshake | tcpHandshakeDummy | handshake1 | handshake2 | ready => rfl

/-- The record of the client is in session and tells the session of its connection. -/
structure Tracked (machine : Machine v) (client : Client options) : Prop where
  /-- All safer messages belong to their sessions. -/
  inSession : InSession .start (eventsOf machine.self machine.log)
  /-- The record tells the session. -/
  traces : client.Traces (SessionTrace.start.after (eventsOf machine.self machine.log))

/-- More of the run. -/
theorem Tracked.step {events : List (Event v)} (tracked : Tracked m c) (went : Logged events m m')
    (goes : ∀ trace, c.Traces trace → InSession trace events ∧ c'.Traces (trace.after events)) :
    Tracked m' c' := by
  obtain ⟨inSession, traces⟩ := goes _ tracked.traces
  refine ⟨?_, ?_⟩
  · rw [went.eventsOf]
    exact inSession_append.mpr ⟨tracked.inSession, inSession⟩
  · rw [went.eventsOf, SessionTrace.after_append]
    exact traces

/-- More of the run that has nothing to do with the session. -/
theorem Tracked.aside {events : List (Event v)} (tracked : Tracked m c) (went : Logged events m m')
    (aside : ∀ event ∈ events, event.Aside) (stays : c.Stays c') : Tracked m' c' := by
  refine tracked.step went fun trace traces =>
    ⟨inSession_quiet fun event inside => (aside event inside).2, ?_⟩
  rw [SessionTrace.after_aside aside]
  exact traces.stays stays

/-- More of the run, with one event that has nothing to do with the session. -/
theorem Tracked.single {event : Event v} (tracked : Tracked m c) (went : Logged [event] m m')
    (aside : event.Aside) (stays : c.Stays c') : Tracked m' c' :=
  tracked.aside went (List.forall_mem_singleton.mpr aside) stays

/-- The connection entered a state. -/
theorem Tracked.entered {state : ClientState} (tracked : Tracked m c)
    (went : Logged [.entered state] m m')
    (traces : ∀ trace, c.Traces trace → c'.Traces (trace.next (.entered state : Event v))) :
    Tracked m' c' :=
  tracked.step went fun trace before =>
    ⟨inSession_quiet (List.forall_mem_singleton.mpr (not_sendsSafer nofun nofun)),
      traces trace before⟩

/-- An idle connection got a new identifier. -/
theorem Tracked.drew {myId : UInt32} (tracked : Tracked m c) (went : Logged [.drewMyId myId] m m')
    (idle : c.conn.state = .idle) (still : c'.conn.state = .idle) : Tracked m' c' := by
  have early : c'.conn.state ∉ [ClientState.handshake2, .ready] := by simp [still]
  refine tracked.step went fun trace traces => ⟨inSession_quiet ?_, .early ?_ early⟩
  · exact List.forall_mem_singleton.mpr (not_sendsSafer nofun nofun)
  · exact traces.state.trans (idle.trans still.symm)

/-- A safer message of a ready connection. -/
theorem Tracked.safer {seq : UInt64} {type : UInt8} {data : Bytes} {events : List (Event v)}
    (tracked : Tracked m c) (went : Logged events m m')
    (safer : SaferEvents c.conn.myId c.conn.oppsiteId seq type data events)
    (known : type = typeHeartbeat ∨ type = typeData) (ready : c.conn.state = .ready)
    (stays : c.Stays c') : Tracked m' c' := by
  refine tracked.step went fun trace traces => ⟨?_, ?_⟩
  · exact safer.inSession known (traces.state.trans ready) (traces.ids (by simp [ready]))
  · rw [safer.after]
    exact traces.stays stays

/-- Every step keeps the record in session, unless it is lenient. -/
theorem ClientStep.tracked {one two : ClientStage options} (step : ClientStep False one two)
    (tracked : Tracked one.machine one.client) : Tracked two.machine two.client := by
  cases step with
  | quiet minor steady went =>
    exact tracked.aside went.toLogged minor.aside ⟨steady.state, steady.myId, steady.oppsiteId⟩
  | refiltered => exact ⟨tracked.inSession, tracked.traces⟩
  | received went =>
    exact tracked.single went.toLogged ⟨fun _ => rfl, not_sendsSafer (by simp) (by simp)⟩
      ⟨rfl, rfl, rfl⟩
  | gaveUp went =>
    exact tracked.entered went.toLogged fun _ _ => .early rfl (by simp [Client.withConn])
  | redrew idle _ went => exact tracked.drew went.toLogged idle idle
  | forgot idle _ _ went => exact tracked.drew went.toLogged idle idle
  | @began m m' c _ state _ early went =>
    have busy : state ≠ .idle := by
      rintro rfl
      exact absurd early (by decide)
    have unused : state ∉ [ClientState.handshake2, .ready] := by
      intro used
      simp only [List.mem_cons, List.not_mem_nil, or_false] at used
      obtain rfl | rfl := used <;> exact absurd early (by decide)
    refine tracked.entered went.toLogged fun trace _ => .early ?_ unused
    rw [SessionTrace.next_entered trace busy]
    rfl
  | sentHandshake1 _ steady bare went =>
    exact tracked.aside went.toLogged bare.aside ⟨steady.state, steady.myId, steady.oppsiteId⟩
  | answered _ _ went =>
    refine tracked.step went.toLogged fun trace _ => ⟨inSession_quiet ?_, rfl, fun _ => rfl⟩
    refine List.forall_mem_cons.mpr ⟨?_, List.forall_mem_singleton.mpr ?_⟩
    · exact not_sendsSafer (by simp) (by simp)
    · exact not_sendsSafer (by simp) (by simp)
  | sentHandshake2 _ steady bare went =>
    refine tracked.aside went.toLogged (List.forall_mem_cons.mpr ⟨?_, bare.aside⟩)
      ⟨steady.state, steady.myId, steady.oppsiteId⟩
    exact ⟨fun _ => rfl, not_sendsSafer (by simp) (by simp)⟩
  | accepted _ _ _ steady _ went =>
    refine tracked.aside went.toLogged ?_ ⟨steady.state, steady.myId, steady.oppsiteId⟩
    refine List.forall_mem_cons.mpr ⟨?_, List.forall_mem_singleton.mpr ?_⟩
    · exact ⟨fun _ => rfl, not_sendsSafer (by simp) (by simp)⟩
    · exact ⟨fun _ => rfl, not_sendsSafer (by simp) (by simp)⟩
  | becameReady waiting went =>
    refine tracked.entered went.toLogged fun trace traces => ⟨rfl, fun _ => ?_⟩
    exact traces.ids (by simp [waiting])
  | heartbeat ready _ steady safer went =>
    exact tracked.safer went.toLogged safer (.inl rfl) (ready.elim id False.elim)
      ⟨steady.state, steady.myId, steady.oppsiteId⟩
  | createdConv _ _ _ _ _ _ went =>
    exact tracked.single went.toLogged ⟨fun _ => rfl, not_sendsSafer (by simp) (by simp)⟩
      ⟨rfl, rfl, rfl⟩
  | @forwarded m m' c _ _ _ conv addr bytes events ready _ _ _ steady safer went =>
    have quiet : ∀ here there, ¬(Event.sendDataSafer c.conn.myId c.conn.oppsiteId conv bytes :
        Event v).SendsSafer here there := not_sendsSafer (by simp) (by simp)
    refine tracked.step went.toLogged fun trace traces => ⟨⟨?_, ?_⟩, ?_⟩
    · exact fun here there sends => absurd sends (quiet here there)
    · exact safer.inSession (.inr rfl) (traces.state.trans ready) (traces.ids (by simp [ready]))
    · rw [SessionTrace.after_cons, safer.after]
      exact traces.stays ⟨steady.state, steady.myId, steady.oppsiteId⟩
  | skipped => exact tracked
  | delivered _ _ _ _ went =>
    exact tracked.single went.toLogged ⟨fun _ => rfl, not_sendsSafer (by simp) (by simp)⟩
      ⟨rfl, rfl, rfl⟩
  | evicted => exact tracked.aside (.refl _) (List.forall_mem_nil _) ⟨rfl, rfl, rfl⟩

/-- Any steps keep the record in session, unless they are lenient. -/
theorem ClientSteps.tracked {one two : ClientStage options} (steps : ClientSteps False one two)
    (tracked : Tracked one.machine one.client) : Tracked two.machine two.client :=
  steps.keeps Tracked (fun step before => step.tracked before) tracked

/-- The client starts without a session. -/
theorem clientStart_tracked {client : Client options} {answers : Nat → Answer v}
    {filterPort : UInt16}
    (returned : Returns (clientStart options route)
      (.start (.client options.constId) answers filterPort) client m) : Tracked m client := by
  simp only [clientStart, Returns.bind_iff, Returns.pure_iff] at returned
  obtain ⟨conn, m1, one, myId, m2, two, prepared, m3, three, rfl, rfl⟩ := returned
  obtain ⟨first, state, -⟩ := newConnInfo_ran one
  obtain ⟨last, -, blob, rfl, -⟩ := prepare_ran three
  have ran := (first.trans (drawMyId_ran two).1).trans last
  have drew : Udp2raw.eventsOf m3.self m3.log = [.drewMyId myId] := ran.toLogged.eventsOf
  refine ⟨?_, ?_⟩
  · rw [drew]
    exact inSession_quiet (List.forall_mem_singleton.mpr (not_sendsSafer nofun nofun))
  · rw [drew]
    exact .early state.symm (by simp [state])

/-! ### Events that leave the session -/

/-- Between these states the client was idle and went on to a safer message. -/
def Strayed (before after : Machine v) : Prop :=
  ∃ first event rest myId oppsiteId,
    eventsOf after.self after.log = eventsOf before.self before.log ++ first ++ event :: rest ∧
    (∀ trace : SessionTrace, (trace.after first).state = .idle) ∧ event.SendsSafer myId oppsiteId

/-- A record with a stray message is not in session. -/
theorem Strayed.not_inSession {before after : Machine v} (strayed : Strayed before after)
    (trace : SessionTrace) : ¬InSession trace (eventsOf after.self after.log) := by
  obtain ⟨first, event, rest, myId, oppsiteId, same, idle, sends⟩ := strayed
  rw [same]
  refine Udp2raw.not_inSession sends ?_
  rw [SessionTrace.after_append]
  exact idle _

/-- Between these states the party only added to its record. -/
def Grown (before after : Machine v) : Prop :=
  ∃ events, eventsOf after.self after.log = eventsOf before.self before.log ++ events

/-- More of a run. -/
theorem Logged.grown {events : List (Event v)} (logged : Logged events m m') : Grown m m' :=
  ⟨events, logged.eventsOf⟩

/-- Two parts of a run. -/
theorem Grown.trans {a b c : Machine v} (one : Grown a b) (two : Grown b c) : Grown a c := by
  obtain ⟨first, one⟩ := one
  obtain ⟨second, two⟩ := two
  exact ⟨first ++ second, by rw [two, one, List.append_assoc]⟩

/-- Any steps only add to the record. -/
theorem ClientSteps.grown {lenient : Prop} {one two : ClientStage options}
    (steps : ClientSteps lenient one two) : Grown one.machine two.machine := by
  obtain ⟨events, filterPort, went⟩ := steps.advanced
  exact ⟨events, went.toLogged.eventsOf⟩

/-- What happened before a stray message does not matter. -/
theorem Strayed.later {a b c : Machine v} (grown : Grown a b) (strayed : Strayed b c) :
    Strayed a c := by
  obtain ⟨events, grown⟩ := grown
  obtain ⟨first, event, rest, myId, oppsiteId, same, idle, sends⟩ := strayed
  refine ⟨events ++ first, event, rest, myId, oppsiteId, ?_, fun trace => ?_, sends⟩
  · rw [same, grown, List.append_assoc _ events first]
  · rw [SessionTrace.after_append]
    exact idle _

/-- What happens behind a stray message does not matter. -/
theorem Strayed.earlier {a b c : Machine v} (strayed : Strayed a b) (grown : Grown b c) :
    Strayed a c := by
  obtain ⟨events, grown⟩ := grown
  obtain ⟨first, event, rest, myId, oppsiteId, same, idle, sends⟩ := strayed
  refine ⟨first, event, rest ++ events, myId, oppsiteId, ?_, idle, sends⟩
  rw [grown, same, List.append_assoc, List.cons_append]

/-- Giving the connection up leaves the client idle. -/
theorem backToIdle_idle {value : Unit} (returned : Returns backToIdle (m, c) value (m', c')) :
    ∃ events, Logged events m m' ∧ ∀ trace : SessionTrace, (trace.after events).state = .idle := by
  simp only [backToIdle, redrawMyId, Returns.bind_iff, enter_iff, call_iff, theConn_iff,
    store_iff] at returned
  obtain ⟨_, ⟨m1, _⟩, ⟨recorded, rfl⟩, myId, ⟨m2, _⟩, ⟨drew, rfl⟩, _, _, ⟨rfl, rfl⟩, same⟩ :=
    returned
  obtain ⟨rfl, -⟩ := Prod.mk.inj same
  exact ⟨_, ((record_ran recorded).trans (drawMyId_ran drew).1).toLogged, fun _ => rfl⟩

/-- A heartbeat that is due is sent. -/
theorem clientHeartbeat_sends {value : Unit}
    (due : heartbeatInterval ≤ elapsed m.read.now c.conn.lastHbSentTime)
    (returned : Returns clientHeartbeat (m, c) value (m', c')) :
    ∃ event rest myId oppsiteId, Logged (event :: rest) m m' ∧ event.SendsSafer myId oppsiteId := by
  simp only [clientHeartbeat, Returns.bind_iff, call_iff, theConn_iff] at returned
  obtain ⟨_, _, ⟨rfl, rfl⟩, time, ⟨m1, _⟩, ⟨timed, rfl⟩, returned⟩ := returned
  have clock := (getCurrentTime_ran timed).1
  rw [(getCurrentTime_read timed).2, if_neg (Nat.not_lt.mpr due)] at returned
  simp only [Returns.bind_iff, call_iff, store_iff] at returned
  obtain ⟨sent, ⟨m2, _⟩, ⟨beat, rfl⟩, last, ⟨m3, _⟩, ⟨stamped, rfl⟩, returned⟩ := returned
  obtain ⟨rfl, rfl⟩ := Prod.mk.inj returned
  obtain ⟨blob, data, events, -, -, shape, ran⟩ := sendHeartbeat_ran beat
  obtain ⟨event, rest, rfl, sends⟩ := shape.sends (.inl rfl)
  have whole := (clock.trans ran).trans (getCurrentTime_ran stamped).1
  rw [List.nil_append, List.append_nil] at whole
  exact ⟨event, rest, _, _, whole.toLogged, sends⟩

/-- The timer of a session that is given up goes on to a heartbeat. -/
theorem clientKeepAlive_strays {value : Unit} (lapses : Lapses m c.conn)
    (returned : Returns clientKeepAlive (m, c) value (m', c')) : Strayed m m' := by
  simp only [clientKeepAlive, Returns.bind_iff, update_iff, theConn_iff, call_iff] at returned
  obtain ⟨_, _, rfl, _, _, ⟨rfl, rfl⟩, _, ⟨m1, _⟩, ⟨traced, rfl⟩, time, ⟨m2, _⟩, ⟨timed, rfl⟩,
    returned⟩ := returned
  have clock := (getCurrentTime_ran traced).1.trans (getCurrentTime_ran timed).1
  obtain ⟨rfl, -⟩ := getCurrentTime_read traced
  obtain ⟨rfl, rfl⟩ := getCurrentTime_read timed
  rw [if_neg (Nat.not_lt.mpr lapses.downlink)] at returned
  simp only [Returns.bind_iff, clientCheckUplink, theConn_iff, call_iff] at returned
  obtain ⟨_, ⟨m3, c3⟩, ⟨_, _, ⟨rfl, rfl⟩, time, ⟨m4, _⟩, ⟨checked, rfl⟩, gaveUp⟩, beat⟩ := returned
  have looked := (getCurrentTime_ran checked).1
  obtain ⟨rfl, rfl⟩ := getCurrentTime_read checked
  rw [if_pos lapses.uplink] at gaveUp
  obtain ⟨first, entered, idle⟩ := backToIdle_idle gaveUp
  obtain ⟨⟨log, machine⟩, myId, client⟩ := backToIdle_machine gaveUp
  have due : heartbeatInterval ≤ elapsed m3.read.now c3.conn.lastHbSentTime := by
    rw [machine, client, read_now_log { m.read.read.read with asked := m.read.read.read.asked + 1 }]
    exact lapses.due
  obtain ⟨event, rest, here, there, sent, sends⟩ := clientHeartbeat_sends due beat
  have whole := ((clock.trans looked).toLogged.trans entered).trans sent
  refine ⟨first, event, rest, here, there, ?_, idle, sends⟩
  rw [whole.eventsOf]
  simp

/-- A timer that lapses leaves the session and sends a heartbeat. -/
theorem clientOnTimer_strays {value : Unit} (lapses : TimerLapses (m, c))
    (returned : Returns (clientOnTimer route) (m, c) value (m', c')) : Strayed m m' := by
  obtain ⟨ready, enabled, ⟨m1, c1⟩, sweep, lapses⟩ := lapses
  simp only [clientOnTimer, Returns.bind_iff, theConn_iff] at returned
  obtain ⟨⟨⟩, ⟨m1', c1'⟩, again, _, ⟨m2, c2⟩, checked, _, _, ⟨rfl, rfl⟩, returned⟩ := returned
  obtain ⟨rfl, rfl⟩ := Prod.mk.inj (sweep.unique again).2
  obtain ⟨swept, blob, convs, -, rfl⟩ := @clientSweep_steps v options True m m1 c c1 [] _ sweep
  simp only [clientCheckResets, Returns.bind_iff, theConn_iff] at checked
  obtain ⟨_, _, ⟨rfl, rfl⟩, checked⟩ := checked
  rw [if_neg (by simpa [Client.withConn, ConnInfo.withConvs] using enabled)] at checked
  obtain ⟨-, same⟩ := Returns.pure_iff.mp checked
  obtain ⟨rfl, rfl⟩ := Prod.mk.inj same
  have state : (c.withConn (c.conn.withConvs blob convs)).conn.state = .ready := ready
  rw [if_neg (by simp [state])] at returned
  simp only [clientOnState, Returns.bind_iff, theConn_iff] at returned
  obtain ⟨_, _, ⟨rfl, rfl⟩, returned⟩ := returned
  rw [state] at returned
  exact (clientKeepAlive_strays lapses returned).later swept.grown

/-- The message that completes the handshake, when the timer then lapses. -/
theorem clientOnFrames_strays {myId : UInt32} {frames : List Frame} {value : Unit}
    {entered : Machine v × Client options} (some : frames ≠ [])
    (waiting : c.conn.state = .handshake2)
    (here : c.conn.rawInfo.source = c.conn.rawInfo.destination)
    (became : Returns clientBecomeReady (m, c) () entered) (lapses : TimerLapses entered)
    (returned : Returns (clientOnFrames route myId frames) (m, c) value (m', c')) :
    Strayed m m' := by
  obtain ⟨frame, frames, rfl⟩ := List.exists_cons_of_ne_nil some
  obtain ⟨m1, c1⟩ := entered
  simp only [clientOnFrames, clientOnRawRecvHs2OrReady, Returns.bind_iff, theConn_iff] at returned
  obtain ⟨_, ⟨m4, c4⟩, ⟨_, _, ⟨rfl, rfl⟩, handled⟩, returned⟩ := returned
  rw [if_neg (not_not.mpr here)] at handled
  simp only [clientCompleteHandshake, Returns.bind_iff, theConn_iff] at handled
  obtain ⟨_, ⟨m3, c3⟩, ⟨_, _, ⟨rfl, rfl⟩, completed⟩, noted⟩ := handled
  rw [if_pos waiting] at completed
  simp only [Returns.bind_iff] at completed
  obtain ⟨⟨⟩, ⟨m2, c2⟩, again, timer⟩ := completed
  obtain ⟨rfl, rfl⟩ := Prod.mk.inj (became.unique again).2
  obtain ⟨ready, -⟩ := @clientBecomeReady_steps v options True m m1 c c1 []
    ⟨myId, 0, frame⟩ _ waiting became
  obtain ⟨first, -⟩ := @clientOnFrame_steps v options True m3 m4 c3 c4 [] ⟨myId, 0, frame⟩ _ noted
  have rest := @clientOnFrames_steps v options route True m4 m' c4 c' myId 0 frames value
    (fun _ _ _ _ _ _ => trivial) returned
  exact ((clientOnTimer_strays lapses timer).later ready.grown).earlier
    (first.grown.trans rest.grown)

/-- A packet whose first message completes the handshake, when the timer then lapses, leaves the
session and sends a heartbeat. -/
theorem clientOnBuffered_strays {value : Unit} (lapses : MessageLapses (m, c))
    (returned : Returns (clientOnBuffered route) (m, c) value (m', c')) : Strayed m m' := by
  obtain ⟨waiting, conn, frames, middle, entered, received, some, here, became, lapses⟩ := lapses
  simp only [clientOnBuffered, Returns.bind_iff, theConn_iff] at returned
  obtain ⟨_, _, ⟨rfl, rfl⟩, returned⟩ := returned
  rw [waiting] at returned
  simp only [clientOnSafer, Returns.bind_iff, theConn_iff, call_iff, store_iff] at returned
  obtain ⟨_, _, ⟨rfl, rfl⟩, ⟨next, found⟩, ⟨m1, _⟩, ⟨ran, rfl⟩, _, _, rfl, returned⟩ := returned
  obtain ⟨same, rfl⟩ := received.unique ran
  obtain ⟨rfl, rfl⟩ := Prod.mk.inj same
  obtain ⟨rawInfo, parsed, logged, -, -, -, receives⟩ := recvSaferMulti_receives received
  have inUse : c.conn.state ∈ [ClientState.handshake2, .ready] := by
    rw [show c.conn.state = .handshake2 from waiting]
    exact List.mem_cons_self
  obtain ⟨steps, state, -⟩ := @receives_clientSteps v options True parsed middle
    (c.withConn { c.conn with rawInfo }) [] conn frames inUse receives
  exact (clientOnFrames_strays some (state.trans waiting) here became lapses returned).later
    (logged.grown.trans steps.grown)

/-- An event that lapses leaves the session and sends a heartbeat. -/
theorem clientOnEvent_strays {event : ClientEvent} {value : Unit} (lapses : event.Lapses (m, c))
    (returned : Returns (clientOnEvent route event) (m, c) value (m', c')) : Strayed m m' := by
  cases event with
  | timer => exact clientOnTimer_strays lapses returned
  | raw received =>
    obtain ⟨buffered, captured, lapses⟩ := lapses
    simp only [clientOnEvent, clientOnRawRecv, Returns.bind_iff, call_iff] at returned
    obtain ⟨taken, ⟨m1, _⟩, ⟨again, rfl⟩, returned⟩ := returned
    obtain ⟨rfl, rfl⟩ := captured.unique again
    obtain ⟨logged, -⟩ := preRecvRawPacket_logged captured
    exact (clientOnBuffered_strays lapses returned).later logged.grown
  | udp received => exact lapses.elim
  | fifo bytes => exact lapses.elim

/-! ### Runs of the client -/

/-- A run of the client, with its events and the states they happened in. -/
inductive ClientRun (options : Options v) (route : ClientOptions v) (answers : Nat → Answer v)
    (filterPort : UInt16) :
    List (ClientEvent × (Machine v × Client options)) → Machine v × Client options → Prop
  /-- The client starts. -/
  | start {machine : Machine v} {client : Client options} :
      Returns (clientStart options route)
        (.start (.client options.constId) answers filterPort) client machine →
      ClientRun options route answers filterPort [] (machine, client)
  /-- An event was handled. -/
  | event {history : List (ClientEvent × (Machine v × Client options))}
      {before after : Machine v × Client options} {event : ClientEvent} :
      ClientRun options route answers filterPort history before →
      Returns (clientOnEvent route event) before () after →
      ClientRun options route answers filterPort (history ++ [(event, before)]) after

section Runs

variable {answers : Nat → Answer v} {filterPort : UInt16}
  {history : List (ClientEvent × (Machine v × Client options))}
  {state before after : Machine v × Client options}

/-- After an event that lapses the record is not in session. -/
theorem ClientEvent.Lapses.not_inSession {event : ClientEvent} (lapses : event.Lapses before)
    (returned : Returns (clientOnEvent route event) before () after) :
    ¬InSession .start (eventsOf after.1.self after.1.log) :=
  (clientOnEvent_strays lapses returned).not_inSession _

/-- A run passes through reachable states. -/
theorem ClientRun.reachable (run : ClientRun options route answers filterPort history state) :
    ClientReachable options route answers filterPort state := by
  induction run with
  | start returned => exact .start returned
  | event _ returned ih => exact .event ih returned

/-- A run without lapses keeps the record in session. -/
theorem ClientRun.tracked (run : ClientRun options route answers filterPort history state)
    (kept : ∀ step ∈ history, ¬step.1.Lapses step.2) : Tracked state.1 state.2 := by
  induction run with
  | start returned => exact clientStart_tracked returned
  | @event history before after event _ returned ih =>
    have earlier := ih fun step inside => kept step (List.mem_append_left _ inside)
    have last : ¬event.Lapses before :=
      kept (event, before) (List.mem_append_right _ (List.mem_singleton_self _))
    obtain ⟨m1, logged, steps⟩ := @clientOnEvent_steps v options route False before.1 after.1
      before.2 after.2 event () last returned
    have buffered : Tracked m1 before.2 :=
      earlier.aside logged (List.forall_mem_nil _) ⟨rfl, rfl, rfl⟩
    exact steps.tracked buffered

/-- Every call of `send_safer` is made in the state `client_ready` and carries the identifiers of
the response that the client accepted since it was last idle, exactly in the runs in which no event
finds the uplink of a live session silent while a heartbeat is due. -/
theorem ClientRun.inSession_iff
    (run : ClientRun options route answers filterPort history state) :
    InSession .start (eventsOf state.1.self state.1.log) ↔
      ∀ step ∈ history, ¬step.1.Lapses step.2 := by
  constructor
  · intro inSession
    induction run with
    | start => exact List.forall_mem_nil _
    | @event history before after event _ returned ih =>
      obtain ⟨m1, logged, steps⟩ := @clientOnEvent_steps v options route True before.1 after.1
        before.2 after.2 event () (fun _ => trivial) returned
      obtain ⟨events, grown⟩ := logged.grown.trans steps.grown
      have earlier : InSession .start (eventsOf before.1.self before.1.log) := by
        rw [grown] at inSession
        exact (inSession_append.mp inSession).1
      intro step inside
      obtain inside | inside := List.mem_append.mp inside
      · exact ih earlier step inside
      · obtain rfl := List.mem_singleton.mp inside
        exact fun lapses => lapses.not_inSession returned inSession
  · exact fun kept => (run.tracked kept).inSession

/-- The events that are handled, one after the other, and the state after them. -/
def clientGoes (route : ClientOptions v) :
    List ClientEvent → Machine v × Client options → Option (Machine v × Client options)
  | [], state => some state
  | event :: events, state =>
    match resultOf (clientOnEvent route event) state with
    | none => none
    | some _ => clientGoes route events (leaves (clientOnEvent route event) state)

/-- Events that are handled make a run longer. -/
theorem ClientRun.goes {events : List ClientEvent}
    (run : ClientRun options route answers filterPort history before)
    (goes : clientGoes route events before = some after) :
    ∃ longer, ClientRun options route answers filterPort longer after := by
  induction events generalizing history before with
  | nil =>
    obtain rfl := Option.some.inj goes
    exact ⟨history, run⟩
  | cons event events ih =>
    unfold clientGoes at goes
    split at goes
    · contradiction
    · rename_i handled
      exact ih (run.event (returns_of_resultOf handled)) goes

end Runs

/-! ### A silent uplink -/

/-- Options of a client in icmp mode. -/
def silentOptions : Options .ipv4 :=
  { plainClientOptions with raw := { plainClient with rawMode := .icmp }, fixGro := false }

/-- It connects to 10.0.0.2. -/
def silentRoute : ClientOptions .ipv4 :=
  ⟨⟨⟨#[10, 0, 0, 2], rfl⟩, 4096⟩, none, none, 0, true⟩

/-- The answers of a system whose clock says five seconds until the session is ready, thirteen
seconds for the next packet, and eighteen seconds afterwards. -/
def silentAnswers (asked : Nat) : Answer .ipv4 :=
  { Answer.plain with
    rawTime := if asked < 51 then 5000000 else if asked < 52 then 13000000 else 18000000 }

/-- An echo reply of 10.0.0.2 with these checksums, this sequence number and this message. -/
def silentReply (length : UInt8) (ipChecksum icmpChecksum : Bytes) (seq : UInt8)
    (message : Bytes) : ClientEvent :=
  .raw (some ⟨[0x45, 0, 0, length, 0, 0, 0x40, 0, 64, 1] ++ ipChecksum ++
    [10, 0, 0, 2, 10, 0, 0, 1, 0, 0] ++ icmpChecksum ++ [39, 21, 0, seq] ++ message, fun _ => 0⟩)

/-- The response to the first handshake. -/
def silentResponse : ClientEvent :=
  silentReply 57 [38, 194] [96, 233] 1 (bareMessage 0 0 (numbersToChar 8 5 9))

/-- A heartbeat of the server that has not heard from the client. -/
def silentHeartbeat (checksum seq : UInt8) (number : UInt64) : ClientEvent :=
  silentReply 46 [38, 205] [112, checksum] seq (saferMessage 8 5 number typeHeartbeat 0 [])

/-- The client starts. -/
theorem silentStart_goes : (resultOf (clientStart silentOptions silentRoute)
    (.start (.client 7) silentAnswers 0)).isSome = true := by
  decide +kernel

/-- The client that started. -/
def silentStart : Machine .ipv4 × Client silentOptions :=
  (leaves (clientStart silentOptions silentRoute) (.start (.client 7) silentAnswers 0),
    (resultOf (clientStart silentOptions silentRoute) (.start (.client 7) silentAnswers 0)).get
      silentStart_goes)

/-- Its run begins. -/
theorem silentStart_run : ClientRun silentOptions silentRoute silentAnswers 0 [] silentStart :=
  .start (returns_of_resultOf (Option.some_get silentStart_goes).symm)

/-- It connects and becomes ready, and then gets another heartbeat. -/
def silentEvents : List ClientEvent :=
  [.timer, silentResponse, silentHeartbeat 218 2 1, silentHeartbeat 216 3 2]

/-- It handles these events. -/
theorem silentEvents_goes :
    (clientGoes silentRoute silentEvents silentStart).isSome = true := by
  decide +kernel

/-- The client in a session whose uplink was silent for thirteen seconds. -/
def silentSession : Machine .ipv4 × Client silentOptions :=
  (clientGoes silentRoute silentEvents silentStart).get silentEvents_goes

/-- The session is reached. -/
theorem silentSession_run :
    ∃ history, ClientRun silentOptions silentRoute silentAnswers 0 history silentSession :=
  silentStart_run.goes (Option.some_get silentEvents_goes).symm

/-- The timer is handled. -/
theorem silentSession_timer :
    resultOf (clientOnEvent silentRoute .timer) silentSession = some () := by
  decide +kernel

/-- The timer lapses there. -/
theorem silentSession_lapses : ClientEvent.timer.Lapses silentSession := by
  have swept : resultOf clientSweep silentSession = some () := by decide +kernel
  refine ⟨by decide +kernel, by decide +kernel, _, returns_of_resultOf swept, ?_, ?_, ?_⟩
  · decide +kernel
  · decide +kernel
  · decide +kernel

/-- After the timer the record is not in session. -/
theorem inSession_silent : ∃ history state,
    ClientRun silentOptions silentRoute silentAnswers 0 history state ∧
      ¬InSession .start (eventsOf state.1.self state.1.log) := by
  obtain ⟨history, run⟩ := silentSession_run
  have returned := returns_of_resultOf silentSession_timer
  exact ⟨_, _, run.event returned, silentSession_lapses.not_inSession returned⟩

/-- Before the timer it is in session. -/
theorem inSession_alive : ∃ history,
    ClientRun silentOptions silentRoute silentAnswers 0 history silentSession ∧
      (InSession .start (eventsOf silentSession.1.self silentSession.1.log) ↔
        ∀ step ∈ history, ¬step.1.Lapses step.2) := by
  obtain ⟨history, run⟩ := silentSession_run
  exact ⟨history, run, run.inSession_iff⟩

end Udp2raw
