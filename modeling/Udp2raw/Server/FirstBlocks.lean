import Udp2raw.Connection.SaferCalls
import Udp2raw.Server.Tables

/-!
# The first blocks of the server

Every entry of the server draws its own identifier. A recovery hands the identifier of an entry
over to a connection whose counter stands elsewhere, before any message was sent with it, and the
entry is idle from then on. So at any time one connection at most sends with an identifier, and
the numbers of an identifier come from one counter.
-/
namespace Udp2raw

variable {v : IpVersion} {options : Options v} {m m' : Machine v} {s s' : Server options}
  {events added : List (Event v)}

/-- The counter of every connection stands behind the numbers of its identifier. -/
structure ConnInfo.Counts {τ : Type} [DecidableEq τ] (conn : ConnInfo options ServerState τ)
    (events : List (Event v)) : Prop where
  /-- The server drew its identifier. -/
  owned : conn.myId ∈ drawnIds events
  /-- A connection that waits for the second handshake has sent nothing. -/
  unused : conn.state = .handshake1 → issued conn.myId (callsOf events) = []
  /-- The counter gave out the numbers of its identifier. -/
  counter : ∀ blob ∈ conn.blob, GaveOut (fun number => number + 1)
    (issued conn.myId (callsOf events)) blob.antiReplay.antiReplaySeq

/-- The numbers of each identifier of the server come from one counter. -/
structure Server.Counts (server : Server options) (events : List (Event v)) : Prop where
  /-- The server drew the identifiers of its calls. -/
  drawn : ∀ call ∈ callsOf events, call.1 ∈ drawnIds events
  /-- A counter gave out the numbers of each identifier. -/
  sequences : ∀ myId, ∃ next, GaveOut (fun number => number + 1)
    (issued myId (callsOf events)) next
  /-- The connections count. -/
  conns : ∀ p conn, server.heap p = some conn → conn.Counts events
  /-- Two connections that are not idle have different identifiers. -/
  apart : ∀ p q conn other, server.heap p = some conn → server.heap q = some other →
    conn.state ≠ .idle → other.state ≠ .idle → conn.myId = other.myId → p = q

namespace Server

/-- A connection that goes on without a call, or is idle now. -/
structure Rests (old next : ServerConn options) : Prop where
  /-- It has the same identifier. -/
  myId : next.myId = old.myId
  /-- It is in the same state, or idle. -/
  state : next.state = old.state ∨ next.state = .idle
  /-- It has the same counter. -/
  counter : Option.Rel (fun old new : Blob Nat =>
    new.antiReplay.antiReplaySeq = old.antiReplay.antiReplaySeq) old.blob next.blob

/-- A connection that stands still. -/
theorem Rests.refl (conn : ServerConn options) : Rests conn conn :=
  ⟨rfl, .inl rfl, ConnInfo.rel_of_eq (fun _ => rfl) rfl⟩

/-- A connection that rests still counts. -/
theorem Rests.counts {old next : ServerConn options} (rests : Rests old next)
    (counts : old.Counts events) (calls : callsOf added = []) : next.Counts (events ++ added) := by
  have same : callsOf (events ++ added) = callsOf events := by
    rw [callsOf_append, calls, List.append_nil]
  refine ⟨?_, fun waiting => ?_, fun blob there => ?_⟩
  · rw [rests.myId, drawnIds_append]
    exact List.mem_append_left _ counts.owned
  · rw [same, rests.myId]
    obtain state | idle := rests.state
    · exact counts.unused (state.symm.trans waiting)
    · rw [idle] at waiting
      contradiction
  · have counter := rests.counter
    rw [Option.mem_def.mp there] at counter
    obtain ⟨before, found, number⟩ := ConnInfo.rel_to_some counter
    rw [same, rests.myId, number]
    exact counts.counter before found

/-- More of the run without a call. -/
theorem Counts.rest (counts : s.Counts events) (calls : callsOf added = [])
    (conns : ∀ p next, s'.heap p = some next → ∃ old, s.heap p = some old ∧ Rests old next) :
    s'.Counts (events ++ added) := by
  have same : callsOf (events ++ added) = callsOf events := by
    rw [callsOf_append, calls, List.append_nil]
  refine ⟨fun call inside => ?_, fun myId => ?_, fun p next there => ?_, ?_⟩
  · rw [drawnIds_append]
    rw [same] at inside
    exact List.mem_append_left _ (counts.drawn call inside)
  · rw [same]
    exact counts.sequences myId
  · obtain ⟨old, found, rests⟩ := conns p next there
    exact rests.counts (counts.conns p old found) calls
  · intro p q next other there thereOther busy busyOther sameId
    obtain ⟨old, found, rests⟩ := conns p next there
    obtain ⟨oldOther, foundOther, restsOther⟩ := conns q other thereOther
    refine counts.apart p q old oldOther found foundOther ?_ ?_ ?_
    · exact fun idle => busy (rests.state.elim (fun state => state.trans idle) id)
    · exact fun idle => busyOther (restsOther.state.elim (fun state => state.trans idle) id)
    · rw [← rests.myId, ← restsOther.myId, sameId]

/-- One connection rests and the others stand still. -/
theorem Counts.put (counts : s.Counts events) (calls : callsOf added = []) {p : Ptr}
    {conn next : ServerConn options} (found : s.heap p = some conn) (rests : Rests conn next)
    (heap : s'.heap = (s.put p next).heap) : s'.Counts (events ++ added) := by
  refine counts.rest calls fun q other there => ?_
  rw [heap, heap_put_apply] at there
  split at there
  · rename_i same
    obtain rfl := Option.some.inj there
    exact ⟨conn, by rw [same, found], rests⟩
  · exact ⟨other, there, .refl other⟩

/-- The counter of a call stepped on. -/
structure Called (seq : UInt64) (myId : UInt32) (next : ServerConn options) : Prop where
  /-- The connection is in use. -/
  state : next.state = .ready
  /-- It sent with the identifier. -/
  myId : next.myId = myId
  /-- Its counter is behind the number of the call. -/
  counter : ∀ blob ∈ next.blob, blob.antiReplay.antiReplaySeq = seq + 1

/-- A connection that is idle now, with the identifier it had. -/
structure Retired (events : List (Event v)) (next : ServerConn options) : Prop where
  /-- It is idle. -/
  state : next.state = .idle
  /-- It has no contents. -/
  blob : next.blob = none
  /-- The server drew its identifier. -/
  owned : next.myId ∈ drawnIds events

/-- One more call takes the next number of its identifier, which one connection held before and
one holds now. -/
theorem Counts.call (counts : s.Counts events) (tables : s.Tables) {p : Ptr} (q : Ptr)
    {conn : ServerConn options} {seq : UInt64} (holds : s.heap p = some conn)
    (busy : conn.state ≠ .idle)
    (gaveOut : GaveOut (fun number => number + 1) (issued conn.myId (callsOf events)) seq)
    (calls : callsOf added = [(conn.myId, seq)])
    (conns : ∀ r next, s'.heap r = some next → (r = q ∧ Called seq conn.myId next) ∨
      Retired events next ∨ (r ≠ p ∧ s.heap r = some next)) :
    s'.Counts (events ++ added) := by
  have grown : callsOf (events ++ added) = callsOf events ++ [(conn.myId, seq)] := by
    rw [callsOf_append, calls]
  have more {myId : UInt32} (inside : myId ∈ drawnIds events) :
      myId ∈ drawnIds (events ++ added) := by
    rw [drawnIds_append]
    exact List.mem_append_left _ inside
  have owned := (counts.conns p conn holds).owned
  have stepped : GaveOut (fun number => number + 1)
      (issued conn.myId (callsOf (events ++ added))) (seq + 1) := by
    rw [grown, issued_concat, if_pos rfl]
    exact ⟨rfl, gaveOut⟩
  have others {myId : UInt32} (different : conn.myId ≠ myId) :
      issued myId (callsOf (events ++ added)) = issued myId (callsOf events) := by
    rw [grown, issued_concat, if_neg different]
  -- a connection that was there before has another identifier, unless it is idle
  have different {r : Ptr} {other : ServerConn options} (elsewhere : r ≠ p)
      (there : s.heap r = some other) (used : other.state ≠ .idle) : conn.myId ≠ other.myId :=
    fun same => elsewhere (counts.apart p r conn other holds there busy used same).symm
  refine ⟨fun call inside => ?_, fun myId => ?_, fun r next there => ?_, ?_⟩
  · rw [grown] at inside
    obtain inside | inside := List.mem_append.mp inside
    · exact more (counts.drawn call inside)
    · rw [List.mem_singleton.mp inside]
      exact more owned
  · by_cases same : conn.myId = myId
    · exact ⟨seq + 1, same ▸ stepped⟩
    · rw [others same]
      exact counts.sequences myId
  · obtain ⟨-, called⟩ | retired | ⟨elsewhere, before⟩ := conns r next there
    · refine ⟨?_, fun waiting => ?_, fun blob contents => ?_⟩
      · rw [called.myId]
        exact more owned
      · rw [called.state] at waiting
        contradiction
      · rw [called.myId, called.counter blob contents]
        exact stepped
    · refine ⟨more retired.owned, fun waiting => ?_, fun blob contents => ?_⟩
      · rw [retired.state] at waiting
        contradiction
      · rw [retired.blob] at contents
        contradiction
    · have old := counts.conns r next before
      refine ⟨more old.owned, fun waiting => ?_, fun blob contents => ?_⟩
      · rw [others (different elsewhere before (by rw [waiting]; nofun))]
        exact old.unused waiting
      · have used : next.state ≠ .idle := by
          intro idle
          have empty := (tables.unready r next before (by rw [idle]; nofun)).1
          rw [empty] at contents
          contradiction
        rw [others (different elsewhere before used)]
        exact old.counter blob contents
  · intro r t next other there thereOther used usedOther same
    obtain ⟨atQ, called⟩ | retired | ⟨elsewhere, before⟩ := conns r next there
    · obtain ⟨atQOther, -⟩ | retired | ⟨elsewhere, before⟩ := conns t other thereOther
      · rw [atQ, atQOther]
      · exact absurd retired.state usedOther
      · exact absurd (called.myId.symm.trans same) (different elsewhere before usedOther)
    · exact absurd retired.state used
    · obtain ⟨-, called⟩ | retired | ⟨-, beforeOther⟩ := conns t other thereOther
      · exact absurd (same.trans called.myId).symm (different elsewhere before used)
      · exact absurd retired.state usedOther
      · exact counts.apart r t next other before beforeOther used usedOther same

/-- A new entry has an identifier that was not drawn before. -/
theorem Counts.create (counts : s.Counts events) {addr : Address v} {conn : ServerConn options}
    (fresh : Fresh addr conn) (calls : callsOf added = []) (drew : drawnIds added = [conn.myId])
    (once : (drawnIds (events ++ added)).Nodup)
    (heap : s'.heap = (s.put s.allocated conn).heap) : s'.Counts (events ++ added) := by
  have same : callsOf (events ++ added) = callsOf events := by
    rw [callsOf_append, calls, List.append_nil]
  have grown : drawnIds (events ++ added) = drawnIds events ++ [conn.myId] := by
    rw [drawnIds_append, drew]
  have absent : conn.myId ∉ drawnIds events := by
    rw [grown] at once
    exact fun inside => (List.disjoint_of_nodup_append once) inside (List.mem_singleton_self _)
  have unsent : issued conn.myId (callsOf events) = [] :=
    List.eq_nil_iff_forall_not_mem.mpr fun number inside =>
      absent (counts.drawn _ (mem_issued.mp inside))
  have entry {r : Ptr} {next : ServerConn options} (there : s'.heap r = some next) :
      (r = s.allocated ∧ next = conn) ∨ s.heap r = some next := by
    rw [heap, heap_put_apply] at there
    split at there
    · rename_i new
      exact .inl ⟨new, (Option.some.inj there).symm⟩
    · exact .inr there
  refine ⟨fun call inside => ?_, fun myId => ?_, fun r next there => ?_, ?_⟩
  · rw [same] at inside
    rw [grown]
    exact List.mem_append_left _ (counts.drawn call inside)
  · rw [same]
    exact counts.sequences myId
  · obtain ⟨-, rfl⟩ | before := entry there
    · refine ⟨?_, fun _ => ?_, fun blob contents => ?_⟩
      · rw [grown]
        exact List.mem_append_right _ (List.mem_singleton_self _)
      · rw [same, unsent]
      · rw [fresh.blob] at contents
        contradiction
    · exact (Rests.refl next).counts (counts.conns r next before) calls
  · intro r t next other there thereOther used usedOther sameId
    obtain ⟨atNew, rfl⟩ | before := entry there
    · obtain ⟨atNewOther, -⟩ | before := entry thereOther
      · rw [atNew, atNewOther]
      · exact absurd (sameId ▸ (counts.conns t other before).owned) absent
    · obtain ⟨-, rfl⟩ | beforeOther := entry thereOther
      · exact absurd (sameId ▸ (counts.conns r next before).owned) absent
      · exact counts.apart r t next other before beforeOther used usedOther sameId

/-- A connection in a session rests while it makes a step without a call. -/
theorem rests_of_like {now later : Nat} {conn next : ServerConn options}
    (like : conn.Like now later next)
    (counter : Option.Rel (fun old new : Blob Nat =>
      new.antiReplay.antiReplaySeq = old.antiReplay.antiReplaySeq) conn.blob next.blob) :
    Rests conn next := ⟨like.myId, .inl like.state, counter⟩

/-- The same window has the same counter. -/
theorem counter_of_sameSession {conn next : ServerConn options} (same : conn.SameSession next) :
    Option.Rel (fun old new : Blob Nat =>
      new.antiReplay.antiReplaySeq = old.antiReplay.antiReplaySeq) conn.blob next.blob :=
  ConnInfo.rel_mono same.window fun _ _ window => congrArg AntiReplay.antiReplaySeq window

/-- Any counter may give out the first number of an identifier. -/
theorem Counts.first (counts : s.Counts events) {p : Ptr} {conn : ServerConn options}
    (found : s.heap p = some conn) (waiting : conn.state = .handshake1) (seq : UInt64) :
    GaveOut (fun number => number + 1) (issued conn.myId (callsOf events)) seq := by
  rw [(counts.conns p conn found).unused waiting]
  trivial

/-- A connection with other conversations has the same counter. -/
theorem rests_withConvs {conn : ServerConn options} {blob : Blob Nat} (convs : ConvManager Nat)
    (contents : conn.blob = some blob) : Rests conn (conn.withConvs blob convs) := by
  refine ⟨rfl, .inl rfl, ?_⟩
  rw [contents]
  exact .some rfl

/-- A connection that took a number makes a call. -/
theorem Counts.numbered (counts : s.Counts events) (tables : s.Tables) {p : Ptr}
    {conn next : ServerConn options} {now later : Nat} {seq : UInt64}
    (touches : s.Touches p conn next now later) (numbered : conn.Numbered seq next)
    (calls : callsOf added = [(conn.myId, seq)]) : (s.put p next).Counts (events ++ added) := by
  obtain ⟨old, new, contents, later, number, window⟩ := numbered.window
  have ready : conn.state = .ready := by
    by_contra other
    have empty := (tables.unready p conn touches.found other).1
    rw [contents] at empty
    contradiction
  have gaveOut := (counts.conns p conn touches.found).counter old contents
  rw [number] at gaveOut
  refine counts.call tables p touches.found (by rw [ready]; nofun) gaveOut calls
    fun r other there => ?_
  rw [heap_put_apply] at there
  split at there
  · rename_i here
    obtain rfl := Option.some.inj there
    refine .inl ⟨here, touches.like.state.trans ready, touches.like.myId, fun blob inside => ?_⟩
    obtain rfl := Option.some.inj (later.symm.trans inside)
    rw [window, ← number]
    rfl
  · rename_i elsewhere
    exact .inr (.inr ⟨elsewhere, there⟩)

/-- A server that starts has made no call. -/
theorem counts_start : (start : Server options).Counts ([] : List (Event v)) where
  drawn := List.forall_mem_nil _
  sequences := fun _ => ⟨0, trivial⟩
  conns := by simp [start]
  apart := by simp [start]

/-- Every step of the server takes the number of its call from the counter of the identifier. -/
theorem Counts.step {one two : Stage options} (step : Step one two) (tables : one.server.Tables)
    (once : (drawnIds (eventsOf two.machine.self two.machine.log)).Nodup)
    (counts : one.server.Counts (eventsOf one.machine.self one.machine.log)) :
    two.server.Counts (eventsOf two.machine.self two.machine.log) := by
  have still {p : Ptr} {conn : ServerConn options} (there : two.server.heap p = some conn)
      (heap : two.server.heap = one.server.heap) :
      ∃ old, one.server.heap p = some old ∧ Rests old conn := by
    rw [heap] at there
    exact ⟨conn, there, .refl conn⟩
  cases step with
  | quiet minor went =>
    rw [went.eventsOf]
    exact counts.rest minor.uninvolved.calls fun _ _ there => still there rfl
  | exchanged touches exchanged went =>
    rw [went.eventsOf]
    cases exchanged with
    | minor same minor =>
      exact counts.put minor.uninvolved.calls touches.found
        (rests_of_like touches.like (counter_of_sameSession same)) rfl
    | heartbeat numbered safer =>
      exact counts.numbered tables touches numbered (safer.calls (.inl rfl)).1
    | accepted contents valid same _ =>
      obtain ⟨kept, there, window⟩ := ConnInfo.rel_some same.window
      refine counts.put rfl touches.found (rests_of_like touches.like ?_) rfl
      rw [contents, there]
      exact .some ((congrArg AntiReplay.antiReplaySeq window).trans
        (AntiReplay.isVaild_antiReplaySeq valid))
  | replied touches same _ _ bare went =>
    rw [went.eventsOf]
    exact counts.put bare.uninvolved.calls touches.found
      (rests_of_like touches.like (counter_of_sameSession same)) rfl
  | @introduced _ _ _ p conn next touches waiting =>
    have empty := (tables.unready p conn touches.found (by rw [waiting]; nofun)).1
    have like := touches.like.blob
    rw [empty] at like
    have same : next.blob = conn.blob := by rw [ConnInfo.rel_none like, empty]
    rw [← List.append_nil (eventsOf _ _)]
    exact counts.put rfl touches.found
      (rests_of_like touches.like (ConnInfo.rel_of_eq (fun _ => rfl) same)) rfl
  | forwarded touches numbered _ _ _ _ safer went =>
    rw [went.eventsOf]
    exact counts.numbered tables touches numbered (safer.calls (.inr rfl)).1
  | skipped => exact counts
  | delivered _ _ _ _ _ _ went =>
    rw [went.eventsOf]
    exact counts.rest rfl fun _ _ there => still there rfl
  | created _ _ fresh _ went =>
    rw [went.eventsOf] at once ⊢
    exact counts.create fresh rfl rfl once rfl
  | @refused _ _ _ p conn next found waiting idled =>
    rw [← List.append_nil (eventsOf _ _)]
    exact counts.put rfl found ⟨idled.myId, .inr idled.state,
      ConnInfo.rel_of_eq (fun _ => rfl) idled.blob⟩ rfl
  | @promoted _ _ _ _ p conn next _ _ _ seq _ found waiting _ _ _ _ promoted safer went =>
    rw [went.eventsOf]
    refine counts.call tables p found (by rw [waiting]; nofun) (counts.first found waiting seq)
      (safer.calls (.inl rfl)).1 fun r other there => ?_
    simp only [heap_put_apply] at there
    split at there
    · rename_i here
      obtain rfl := Option.some.inj there
      obtain ⟨blob, contents, -, -, -, -, number⟩ := promoted.blob
      refine .inl ⟨here, promoted.state, promoted.myId, fun inside inThere => ?_⟩
      obtain rfl := Option.some.inj (contents.symm.trans inThere)
      exact number
    · rename_i elsewhere
      exact .inr (.inr ⟨elsewhere, there⟩)
  | @moved _ _ _ _ p q _ _ conn ori next idle _ _ seq _ found waiting _ other used _ _ _ recovered
      idled safer went =>
    rw [went.eventsOf]
    have notReady : conn.state ≠ .ready := by
      rw [waiting]
      nofun
    refine counts.call tables q found (by rw [waiting]; nofun) (counts.first found waiting seq)
      (safer.calls (.inl rfl)).1 fun r other there => ?_
    simp only [heap_put_apply] at there
    split at there
    · obtain rfl := Option.some.inj there
      refine .inr (.inl ⟨idled.state, ?_, ?_⟩)
      · exact idled.blob.trans (tables.unready p conn found notReady).1
      · rw [idled.myId]
        exact (counts.conns p conn found).owned
    split at there
    · rename_i here
      obtain rfl := Option.some.inj there
      obtain ⟨_, blob, -, contents, -, -, -, number⟩ := recovered.blob
      refine .inl ⟨here, recovered.state.trans used, recovered.myId, fun inside inThere => ?_⟩
      obtain rfl := Option.some.inj (contents.symm.trans inThere)
      exact number
    · rename_i elsewhere _
      exact .inr (.inr ⟨elsewhere, there⟩)
  | openedConv found contents _ _ _ _ _ _ went =>
    rw [went.eventsOf]
    exact counts.put rfl found (rests_withConvs _ contents) rfl
  | lostSocket _ _ went =>
    rw [went.eventsOf]
    exact counts.rest rfl fun _ _ there => still there rfl
  | evicted found contents =>
    rw [← List.append_nil (eventsOf _ _)]
    exact counts.put rfl found (rests_withConvs _ contents) rfl
  | erased _ erased =>
    rw [← List.append_nil (eventsOf _ _)]
    exact counts.rest rfl fun p next there =>
      ⟨next, (erase_iff.mp erased).heap there, .refl next⟩
  | swept =>
    rw [← List.append_nil (eventsOf _ _)]
    exact counts.rest rfl fun _ _ there => still there rfl

end Server

/-- A run of the server alone. -/
inductive ServerRun (options : Options v) (standing : Standing) (answers : Nat → Answer v)
    (filterPort : UInt16) : Machine v × Server options → Prop
  /-- The server starts. -/
  | start :
      ServerRun options standing answers filterPort (.start .server answers filterPort, .start)
  /-- An event was handled. -/
  | event {before after : Machine v × Server options} {event : EpollEvent} {going : Bool} :
      ServerRun options standing answers filterPort before →
      Returns (serverOnEvent standing event) before going after →
      ServerRun options standing answers filterPort after

section Runs

variable {standing : Standing} {answers : Nat → Answer v} {filterPort : UInt16}
  {state : Machine v × Server options}

/-- A run passes through reachable states. -/
theorem ServerRun.reachable (run : ServerRun options standing answers filterPort state) :
    Reachable options standing answers filterPort state := by
  induction run with
  | start => exact .start
  | event _ returned ih => exact .event ih returned

/-- In every run that draws no identifier twice, the numbers of each identifier come from one
counter. -/
theorem ServerRun.counts (run : ServerRun options standing answers filterPort state)
    (once : (drawnIds (eventsOf state.1.self state.1.log)).Nodup) :
    state.2.Counts (eventsOf state.1.self state.1.log) := by
  induction run with
  | start => exact Server.counts_start
  | @event before after event going earlier returned ih =>
    obtain ⟨m1, logged, steps, -⟩ := serverOnEvent_steps earlier.reachable.cursor returned
    have captured : eventsOf m1.self m1.log = eventsOf before.1.self before.1.log := by
      rw [logged.eventsOf, List.append_nil]
    have tables : before.2.Tables := earlier.reachable.tables
    have kept := Steps.keeps (fun machine server => server.Tables ∧
      ((drawnIds (eventsOf machine.self machine.log)).Nodup →
        server.Counts (eventsOf machine.self machine.log))) (fun {one two} step before => by
          refine ⟨before.1.step step, fun once => ?_⟩
          obtain ⟨events, went⟩ := step.went
          refine Server.Counts.step step before.1 once (before.2 ?_)
          rw [went.eventsOf, drawnIds_append] at once
          exact once.of_append_left) steps ⟨tables, by rw [captured]; exact ih⟩
    exact kept.2 once

/-- A server that draws no identifier twice, with fewer than 2^64 calls of `send_safer`, uses no
number of an identifier twice. -/
theorem Server.Counts.nodup {server : Server options} (counts : server.Counts events)
    (few : (saferCalls events).length < 2 ^ 64) : (callsOf events).Nodup := by
  refine nodup_of_issued fun myId => ?_
  obtain ⟨next, gaveOut⟩ := counts.sequences myId
  have each := issued_length myId (callsOf events)
  have same : (callsOf events).length = (saferCalls events).length := List.length_map _
  have short : (issued myId (callsOf events)).length ≤ 2 ^ 64 := by omega
  exact gaveOut.nodup noReturn_uint64 short

end Runs

end Udp2raw
