import Udp2raw.Client.Uplink

/-!
# The first blocks of the client

The client has one window for its whole life. Its counter goes on from session to session, so the
messages of all its sessions have numbers of one counter, and identifiers that it drew.
-/
namespace Udp2raw

variable {v : IpVersion} {options : Options v} {route : ClientOptions v} {m m' : Machine v}
  {c c' : Client options}

/-- The numbers of all calls of the client come from the counter of its window. -/
structure Client.Counts (client : Client options) (events : List (Event v)) : Prop where
  /-- The client drew its identifier. -/
  owned : client.conn.myId ∈ drawnIds events
  /-- It drew the identifiers of its calls. -/
  drawn : ∀ call ∈ callsOf events, call.1 ∈ drawnIds events
  /-- The counter gave out the numbers of its calls. -/
  counter : ∃ blob, client.conn.blob = some blob ∧
    GaveOut (fun number => number + 1) ((callsOf events).map Prod.snd).reverse
      blob.antiReplay.antiReplaySeq

/-- Windows with the same next number. -/
abbrev SameCounter (before after : Option (Blob LocalAddress)) : Prop :=
  Option.Rel (fun old new => new.antiReplay.antiReplaySeq = old.antiReplay.antiReplaySeq)
    before after

/-- A counter that stays. -/
theorem SameCounter.of_eq {before after : Option (Blob LocalAddress)} (same : after = before) :
    SameCounter before after := ConnInfo.rel_of_eq (fun _ => rfl) same

/-- The counter of a steady connection stays. -/
theorem ConnInfo.Steady.counter {conn next : ClientConn options} (steady : conn.Steady next) :
    SameCounter conn.blob next.blob :=
  ConnInfo.rel_mono steady.blob fun _ _ same => congrArg AntiReplay.antiReplaySeq same.1

/-- More of the run without a call. -/
theorem Client.Counts.step {before events : List (Event v)} (counts : c.Counts before)
    (calls : callsOf events = []) (owned : c'.conn.myId ∈ drawnIds (before ++ events))
    (counter : SameCounter c.conn.blob c'.conn.blob) : c'.Counts (before ++ events) := by
  have same : callsOf (before ++ events) = callsOf before := by
    rw [callsOf_append, calls, List.append_nil]
  refine ⟨owned, fun call inside => ?_, ?_⟩
  · rw [drawnIds_append]
    rw [same] at inside
    exact List.mem_append_left _ (counts.drawn call inside)
  · obtain ⟨blob, allocated, gaveOut⟩ := counts.counter
    rw [allocated] at counter
    obtain ⟨next, allocated, number⟩ := ConnInfo.rel_some counter
    refine ⟨next, allocated, ?_⟩
    rw [same, number]
    exact gaveOut

/-- More of the run without a call in the same session. -/
theorem Client.Counts.stays {before events : List (Event v)} (counts : c.Counts before)
    (calls : callsOf events = []) (myId : c'.conn.myId = c.conn.myId)
    (counter : SameCounter c.conn.blob c'.conn.blob) : c'.Counts (before ++ events) := by
  refine counts.step calls ?_ counter
  rw [myId, drawnIds_append]
  exact List.mem_append_left _ counts.owned

/-- One more call takes the next number of the counter. -/
theorem Client.Counts.call {before events : List (Event v)} {blob : Blob LocalAddress}
    {conn : ClientConn options} (counts : c.Counts before) (allocated : c.conn.blob = some blob)
    (calls : callsOf events = [(c.conn.myId, blob.antiReplay.antiReplaySeq)])
    (steady : (c.conn.numbered blob).Steady conn) :
    (c.withConn conn).Counts (before ++ events) := by
  have owned : c.conn.myId ∈ drawnIds (before ++ events) := by
    rw [drawnIds_append]
    exact List.mem_append_left _ counts.owned
  refine ⟨?_, fun call inside => ?_, ?_⟩
  · rw [show (c.withConn conn).conn.myId = c.conn.myId from steady.myId]
    exact owned
  · rw [callsOf_append, calls] at inside
    obtain inside | inside := List.mem_append.mp inside
    · rw [drawnIds_append]
      exact List.mem_append_left _ (counts.drawn call inside)
    · rw [List.mem_singleton.mp inside]
      exact owned
  · obtain ⟨old, found, gaveOut⟩ := counts.counter
    obtain rfl := Option.some.inj (allocated.symm.trans found)
    obtain ⟨next, there, number⟩ := ConnInfo.rel_some steady.counter
    refine ⟨next, there, ?_⟩
    rw [callsOf_append, calls, List.map_append, List.reverse_append]
    exact ⟨number.symm, gaveOut⟩

/-- Every step of the client takes the numbers of its calls from the counter. -/
theorem ClientStep.counts {lenient : Prop} {one two : ClientStage options}
    (step : ClientStep lenient one two)
    (counts : one.client.Counts (eventsOf one.machine.self one.machine.log)) :
    two.client.Counts (eventsOf two.machine.self two.machine.log) := by
  cases step with
  | quiet minor steady went =>
    rw [went.eventsOf]
    exact counts.stays minor.uninvolved.calls steady.myId steady.counter
  | refiltered | skipped => exact counts
  | received went =>
    rw [went.eventsOf]
    exact counts.stays rfl rfl (.of_eq rfl)
  | gaveUp went =>
    rw [went.eventsOf]
    exact counts.stays rfl rfl (.of_eq rfl)
  | redrew _ _ went =>
    rw [went.eventsOf]
    refine counts.step rfl ?_ (.of_eq rfl)
    rw [drawnIds_append]
    exact List.mem_append_right _ (List.mem_singleton_self _)
  | forgot _ allocated _ went =>
    rw [went.eventsOf]
    refine counts.step rfl ?_ ?_
    · rw [drawnIds_append]
      exact List.mem_append_right _ (List.mem_singleton_self _)
    · rw [allocated]
      exact .some rfl
  | began _ _ went =>
    rw [went.eventsOf]
    exact counts.stays rfl rfl (.of_eq rfl)
  | sentHandshake1 _ steady bare went =>
    rw [went.eventsOf]
    exact counts.stays bare.uninvolved.calls steady.myId steady.counter
  | answered _ _ went =>
    rw [went.eventsOf]
    exact counts.stays rfl rfl (.of_eq rfl)
  | sentHandshake2 _ steady bare went =>
    rw [went.eventsOf]
    exact counts.stays bare.uninvolved.calls steady.myId steady.counter
  | accepted _ allocated valid steady _ went =>
    rw [went.eventsOf]
    obtain ⟨kept, there, same⟩ := ConnInfo.rel_some steady.counter
    refine counts.stays rfl steady.myId ?_
    rw [allocated, show ((_ : Client options).withConn _).conn.blob = some kept from there]
    exact .some (same.trans (AntiReplay.isVaild_antiReplaySeq valid))
  | becameReady _ went =>
    rw [went.eventsOf]
    exact counts.stays rfl rfl (.of_eq rfl)
  | heartbeat _ allocated steady safer went =>
    rw [went.eventsOf]
    exact counts.call allocated (safer.calls (.inl rfl)).1 steady
  | createdConv allocated _ _ _ _ _ went =>
    rw [went.eventsOf]
    refine counts.stays rfl rfl ?_
    rw [allocated]
    exact .some rfl
  | forwarded _ allocated _ _ steady safer went =>
    rw [went.eventsOf]
    exact counts.call allocated (safer.calls (.inr rfl)).1 steady
  | delivered _ _ _ _ went =>
    rw [went.eventsOf]
    exact counts.stays rfl rfl (.of_eq rfl)
  | evicted allocated =>
    rw [← List.append_nil (eventsOf _ _)]
    refine counts.stays rfl rfl ?_
    rw [allocated]
    exact .some rfl

/-- The client starts with the counter of a new window. -/
theorem clientStart_counts {client : Client options} {answers : Nat → Answer v}
    {filterPort : UInt16}
    (returned : Returns (clientStart options route)
      (.start (.client options.constId) answers filterPort) client m) :
    client.Counts (eventsOf m.self m.log) := by
  simp only [clientStart, Returns.bind_iff, Returns.pure_iff] at returned
  obtain ⟨conn, m1, one, myId, m2, two, prepared, m3, three, rfl, rfl⟩ := returned
  obtain ⟨first, -⟩ := newConnInfo_ran one
  obtain ⟨last, -, blob, rfl, -⟩ := prepare_ran three
  have ran := (first.trans (drawMyId_ran two).1).trans last
  have drew : eventsOf m3.self m3.log = [.drewMyId myId] := ran.toLogged.eventsOf
  rw [drew]
  exact ⟨List.mem_singleton_self _, List.forall_mem_nil _, blob, rfl, trivial⟩

/-- In every run the numbers of the calls come from the counter. -/
theorem ClientRun.counts {answers : Nat → Answer v} {filterPort : UInt16}
    {history : List (ClientEvent × (Machine v × Client options))}
    {state : Machine v × Client options}
    (run : ClientRun options route answers filterPort history state) :
    state.2.Counts (eventsOf state.1.self state.1.log) := by
  induction run with
  | start returned => exact clientStart_counts returned
  | @event history before after event _ returned ih =>
    obtain ⟨m1, logged, steps⟩ := @clientOnEvent_steps v options route True before.1 after.1
      before.2 after.2 event () (fun _ => trivial) returned
    have buffered : before.2.Counts (eventsOf m1.self m1.log) := by
      rw [logged.eventsOf, List.append_nil]
      exact ih
    exact steps.keeps (fun machine client => client.Counts (eventsOf machine.self machine.log))
      (fun step before => step.counts before) buffered

/-- A client with fewer than 2^64 calls of `send_safer` uses no number twice. -/
theorem Client.Counts.nodup {events : List (Event v)} (counts : c.Counts events)
    (few : (saferCalls events).length < 2 ^ 64) : (callsOf events).Nodup := by
  obtain ⟨blob, -, gaveOut⟩ := counts.counter
  have short : ((callsOf events).map Prod.snd).reverse.length ≤ 2 ^ 64 := by
    simp only [callsOf, List.length_reverse, List.length_map]
    omega
  exact (List.nodup_reverse.mp (gaveOut.nodup noReturn_uint64 short)).of_map _

end Udp2raw
