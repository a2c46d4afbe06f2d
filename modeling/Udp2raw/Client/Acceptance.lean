import Udp2raw.Client.FirstBlocks
import Udp2raw.Connection.Acceptance

/-!
# What the client accepts

The client empties its window only together with a new identifier. In between the window knows
every number that was accepted for the identifier of the connection.
-/
namespace Udp2raw

variable {v : IpVersion} {options : Options v} {c c' : Client options}
  {events added : List (Event v)} {inbox : List Pending}

/-- The client takes no number of its identifier twice. -/
def Client.Guarded (client : Client options) (events : List (Event v)) : Prop :=
  ∀ blob ∈ client.conn.blob,
    blob.antiReplay.Knows (issued client.conn.myId (admittedKeys events))

/-- A window that knows as much. -/
abbrev SameMemory (before after : Option (Blob LocalAddress)) : Prop :=
  Option.Rel (fun old new =>
    ∀ numbers, old.antiReplay.Knows numbers → new.antiReplay.Knows numbers) before after

/-- A window that stays. -/
theorem SameMemory.of_eq {before after : Option (Blob LocalAddress)} (same : after = before) :
    SameMemory before after := ConnInfo.rel_of_eq (fun _ _ knows => knows) same

/-- The window of a steady connection stays. -/
theorem ConnInfo.Steady.memory {conn next : ClientConn options} (steady : conn.Steady next) :
    SameMemory conn.blob next.blob := by
  refine ConnInfo.rel_mono steady.blob fun _ _ same => ?_
  rw [same.1]
  exact fun _ knows => knows

/-- A window that gave out a number to send knows as much. -/
theorem ConnInfo.Steady.numbered_memory {conn next : ClientConn options} {blob : Blob LocalAddress}
    (steady : (conn.numbered blob).Steady next) (allocated : conn.blob = some blob) :
    SameMemory conn.blob next.blob := by
  obtain ⟨kept, there, knows⟩ := ConnInfo.rel_some steady.memory
  rw [allocated, there]
  exact .some fun numbers before => knows numbers before.sent

/-- A connection with other conversations knows as much. -/
theorem memory_withConvs {conn : ClientConn options} {blob : Blob LocalAddress}
    (convs : ConvManager LocalAddress) (allocated : conn.blob = some blob) :
    SameMemory conn.blob (conn.withConvs blob convs).blob := by
  rw [allocated]
  exact .some fun _ knows => knows

namespace Client

/-- More of the run that accepts nothing, with the same identifier. -/
theorem Guarded.rest (guarded : c.Guarded events) (admitted : admittedKeys added = [])
    (myId : c'.conn.myId = c.conn.myId) (memory : SameMemory c.conn.blob c'.conn.blob) :
    c'.Guarded (events ++ added) := by
  intro blob inside
  rw [Option.mem_def.mp inside] at memory
  obtain ⟨former, contents, kept⟩ := ConnInfo.rel_to_some memory
  rw [admittedKeys_append, admitted, List.append_nil, myId]
  exact kept _ (guarded former contents)

/-- Nothing was accepted for an identifier that was drawn just now. -/
theorem unused_drawn (tally : Tally events inbox) {myId : UInt32}
    (once : (drawnIds (events ++ [.drewMyId myId])).Nodup) :
    issued myId (admittedKeys (events ++ [.drewMyId myId])) = [] := by
  have new : myId ∉ drawnIds events := by
    rw [drawnIds_append] at once
    exact fun inside => (List.disjoint_of_nodup_append once) inside (List.mem_singleton_self _)
  rw [admittedKeys_append, show admittedKeys [(.drewMyId myId : Event v)] = [] from rfl,
    List.append_nil]
  exact tally.unused new

/-- A client that starts has an empty window. -/
theorem guarded_start {blob : Blob LocalAddress} (tally : Tally events inbox)
    (once : (drawnIds (events ++ [.drewMyId c.conn.myId])).Nodup)
    (allocated : c.conn.blob = some blob) (window : blob.antiReplay.maxPacketReceived = 0) :
    c.Guarded (events ++ [.drewMyId c.conn.myId]) := by
  intro other inside
  obtain rfl := Option.some.inj (allocated.symm.trans inside)
  rw [unused_drawn tally once]
  exact AntiReplay.start_knows window

/-- A connection that accepts a number did not accept it before, and knows it from then on. -/
theorem Guarded.accept (guarded : c.Guarded events) (tally : Tally events inbox)
    (enabled : options.disableAntiReplay = false) (owned : c.conn.myId ∈ drawnIds events)
    {next : ClientConn options} {blob : Blob LocalAddress} {antiReplay : AntiReplay}
    {input message : Bytes} {seq : UInt64} {frame : Option Frame}
    (allocated : c.conn.blob = some blob)
    (valid : blob.antiReplay.isVaild options.disableAntiReplay seq = (true, antiReplay))
    (steady : (c.conn.withAntiReplay blob antiReplay).Steady next)
    (numbered : ∀ found ∈ frame, found.seq = seq) :
    (c.withConn next).Guarded (events ++ [.decrypted input message,
      .accepted c.conn.myId c.conn.oppsiteId seq]) ∧
    Tally (events ++ [.decrypted input message, .accepted c.conn.myId c.conn.oppsiteId seq])
      (inbox ++ frame.toList.map fun found => ⟨c.conn.myId, c.conn.oppsiteId, found⟩) := by
  rw [enabled] at valid
  obtain ⟨new, known⟩ := (guarded blob allocated).accept valid
  refine ⟨fun kept inside => ?_, tally.accept owned (fun before => new (mem_issued.mpr before))
    numbered⟩
  have memory := steady.memory
  rw [show next.blob = some kept from inside] at memory
  obtain ⟨former, became, knows⟩ := ConnInfo.rel_to_some memory
  obtain rfl := Option.some.inj became
  rw [issued_admitted, show (c.withConn next).conn.myId = c.conn.myId from steady.myId, if_pos rfl]
  exact knows _ known

end Client

/-- Every step of the client accepts only numbers that were not accepted before. -/
theorem ClientStep.guarded {lenient : Prop} {one two : ClientStage options}
    (step : ClientStep lenient one two) (enabled : options.disableAntiReplay = false)
    (once : (drawnIds (eventsOf two.machine.self two.machine.log)).Nodup)
    (owned : one.client.conn.myId ∈ drawnIds (eventsOf one.machine.self one.machine.log))
    (tally : Tally (eventsOf one.machine.self one.machine.log) one.inbox)
    (guarded : one.client.Guarded (eventsOf one.machine.self one.machine.log)) :
    two.client.Guarded (eventsOf two.machine.self two.machine.log) ∧
      Tally (eventsOf two.machine.self two.machine.log) two.inbox := by
  -- Most steps are silent and keep the identifier and what the window knows.
  have still {events : List (Event v)} (went : Went events one.machine two.machine)
      (silent : Silent events) (inbox : two.inbox = one.inbox)
      (myId : two.client.conn.myId = one.client.conn.myId)
      (memory : SameMemory one.client.conn.blob two.client.conn.blob) :
      two.client.Guarded (eventsOf two.machine.self two.machine.log) ∧
        Tally (eventsOf two.machine.self two.machine.log) two.inbox := by
    rw [went.eventsOf, inbox]
    exact ⟨guarded.rest silent.admitted myId memory, tally.silent silent⟩
  cases step with
  | quiet minor steady went => exact still went minor.silent rfl steady.myId steady.memory
  | refiltered => exact ⟨guarded, tally⟩
  | received went => exact still went ⟨rfl, rfl⟩ rfl rfl (.of_eq rfl)
  | gaveUp went => exact still went ⟨rfl, rfl⟩ rfl rfl (.of_eq rfl)
  | @redrew _ _ _ _ myId _ _ went =>
    rw [went.eventsOf] at once ⊢
    refine ⟨fun blob inside => ?_, tally.silent ⟨rfl, rfl⟩⟩
    show blob.antiReplay.Knows (issued myId _)
    rw [Client.unused_drawn tally once]
    exact (guarded blob inside).fewer (List.forall_mem_nil _)
  | forgot _ allocated _ went =>
    rw [went.eventsOf] at once ⊢
    exact ⟨Client.guarded_start tally once rfl rfl, tally.silent ⟨rfl, rfl⟩⟩
  | began _ _ went => exact still went ⟨rfl, rfl⟩ rfl rfl (.of_eq rfl)
  | sentHandshake1 _ steady bare went =>
    exact still went bare.silent rfl steady.myId steady.memory
  | answered _ _ went => exact still went ⟨rfl, rfl⟩ rfl rfl (.of_eq rfl)
  | sentHandshake2 _ steady bare went =>
    exact still went ⟨bare.silent.admitted, bare.silent.emitted⟩ rfl steady.myId steady.memory
  | accepted _ allocated valid steady good went =>
    rw [went.eventsOf]
    exact guarded.accept tally enabled owned allocated valid steady
      fun found inside => (good found inside).2
  | becameReady _ went => exact still went ⟨rfl, rfl⟩ rfl rfl (.of_eq rfl)
  | heartbeat _ allocated steady safer went =>
    exact still went safer.silent rfl steady.myId (steady.numbered_memory allocated)
  | createdConv allocated _ _ _ _ _ went =>
    exact still went ⟨rfl, rfl⟩ rfl rfl (memory_withConvs _ allocated)
  | forwarded _ allocated _ _ steady safer went =>
    exact still went ⟨safer.silent.admitted, safer.silent.emitted⟩ rfl steady.myId
      (steady.numbered_memory allocated)
  | skipped => exact ⟨guarded, tally.dropped (List.sublist_cons_self _ _)⟩
  | delivered _ _ _ _ went =>
    rw [went.eventsOf]
    exact ⟨guarded.rest rfl rfl (.of_eq rfl), tally.emit rfl rfl⟩
  | evicted allocated =>
    exact still (.refl _) ⟨rfl, rfl⟩ rfl rfl (memory_withConvs _ allocated)

end Udp2raw
