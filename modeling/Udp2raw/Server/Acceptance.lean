import Udp2raw.Connection.Acceptance
import Udp2raw.Server.FirstBlocks

/-!
# What the server accepts

The window of a connection knows every number that was accepted for the identifier of the
connection. A recovery empties the window, but then the identifier is one that nothing was
accepted for. So the server accepts every number of an identifier once.
-/
namespace Udp2raw

variable {v : IpVersion} {options : Options v} {m m' : Machine v} {s s' : Server options}
  {events added : List (Event v)} {inbox : List Pending}

/-- A connection takes no number of its identifier twice. -/
structure ConnInfo.Guards {τ : Type} [DecidableEq τ] (conn : ConnInfo options ServerState τ)
    (events : List (Event v)) : Prop where
  /-- Nothing was accepted for a connection that waits for the second handshake. -/
  unused : conn.state = .handshake1 → issued conn.myId (admittedKeys events) = []
  /-- The window knows what was accepted. -/
  knows : ∀ blob ∈ conn.blob, blob.antiReplay.Knows (issued conn.myId (admittedKeys events))

namespace Server

/-- No connection takes a number twice. -/
def Guarded (server : Server options) (events : List (Event v)) : Prop :=
  ∀ p conn, server.heap p = some conn → conn.Guards events

/-- A server that starts has no connections. -/
theorem guarded_start : (start : Server options).Guarded events := by simp [Guarded, start]

/-- A connection that goes on with a window that knows as much. -/
structure Recalls (old next : ServerConn options) : Prop where
  /-- It has the same identifier. -/
  myId : next.myId = old.myId
  /-- It is in the same state, or idle. -/
  state : next.state = old.state ∨ next.state = .idle
  /-- Its window knows as much. -/
  window : Option.Rel (fun old new : Blob Nat =>
    ∀ numbers, old.antiReplay.Knows numbers → new.antiReplay.Knows numbers) old.blob next.blob

/-- A connection that begins the session of an entry that waited. -/
structure Begins (old next : ServerConn options) : Prop where
  /-- The entry waited. -/
  waiting : old.state = .handshake1
  /-- The connection has its identifier. -/
  myId : next.myId = old.myId
  /-- It is in use. -/
  state : next.state = .ready
  /-- Its window is empty. -/
  window : ∀ blob ∈ next.blob, blob.antiReplay.maxPacketReceived = 0

/-- A connection that stands still. -/
theorem Recalls.refl (conn : ServerConn options) : Recalls conn conn :=
  ⟨rfl, .inl rfl, ConnInfo.rel_of_eq (fun _ _ knows => knows) rfl⟩

/-- A connection that goes on with the same window. -/
theorem recalls_of_sameSession {now later : Nat} {conn next : ServerConn options}
    (like : conn.Like now later next) (same : conn.SameSession next) : Recalls conn next := by
  refine ⟨like.myId, .inl like.state, ConnInfo.rel_mono same.window fun _ _ window => ?_⟩
  rw [window]
  exact fun _ knows => knows

/-- A connection that took a number to send. -/
theorem recalls_of_numbered {now later : Nat} {seq : UInt64} {conn next : ServerConn options}
    (like : conn.Like now later next) (numbered : conn.Numbered seq next) : Recalls conn next := by
  obtain ⟨old, new, before, after, -, window⟩ := numbered.window
  refine ⟨like.myId, .inl like.state, ?_⟩
  rw [before, after]
  refine .some fun numbers knows => ?_
  rw [window]
  exact knows.sent

/-- A connection without contents. -/
theorem recalls_of_empty {conn next : ServerConn options} (myId : next.myId = conn.myId)
    (state : next.state = conn.state ∨ next.state = .idle) (empty : conn.blob = none)
    (after : next.blob = none) : Recalls conn next := by
  refine ⟨myId, state, ?_⟩
  rw [empty, after]
  exact .none

/-- A connection with other conversations. -/
theorem recalls_withConvs {conn : ServerConn options} {blob : Blob Nat} (convs : ConvManager Nat)
    (contents : conn.blob = some blob) : Recalls conn (conn.withConvs blob convs) := by
  refine ⟨rfl, .inl rfl, ?_⟩
  rw [contents]
  exact .some fun _ knows => knows

/-- More of the run that accepts nothing. -/
theorem Guarded.rest (guarded : s.Guarded events) (admitted : admittedKeys added = [])
    (conns : ∀ p next, s'.heap p = some next → ∃ q old, s.heap q = some old ∧
      (Recalls old next ∨ Begins old next)) : s'.Guarded (events ++ added) := by
  have same : admittedKeys (events ++ added) = admittedKeys events := by
    rw [admittedKeys_append, admitted, List.append_nil]
  intro p next there
  obtain ⟨q, old, found, recalls | begins⟩ := conns p next there
  · have before := guarded q old found
    refine ⟨fun waiting => ?_, fun blob inside => ?_⟩
    · rw [same, recalls.myId]
      obtain state | idle := recalls.state
      · exact before.unused (state.symm.trans waiting)
      · rw [idle] at waiting
        contradiction
    · have window := recalls.window
      rw [Option.mem_def.mp inside] at window
      obtain ⟨former, contents, kept⟩ := ConnInfo.rel_to_some window
      rw [same, recalls.myId]
      exact kept _ (before.knows former contents)
  · refine ⟨fun waiting => ?_, fun blob inside => ?_⟩
    · rw [begins.state] at waiting
      contradiction
    · rw [same, begins.myId, (guarded q old found).unused begins.waiting]
      exact AntiReplay.start_knows (begins.window blob inside)

/-- One connection goes on and the others stand still. -/
theorem Guarded.put (guarded : s.Guarded events) (admitted : admittedKeys added = []) {p q : Ptr}
    {conn next : ServerConn options} (found : s.heap q = some conn)
    (goes : Recalls conn next ∨ Begins conn next) (heap : s'.heap = (s.put p next).heap) :
    s'.Guarded (events ++ added) := by
  refine guarded.rest admitted fun r other there => ?_
  rw [heap, heap_put_apply] at there
  split at there
  · obtain rfl := Option.some.inj there
    exact ⟨q, conn, found, goes⟩
  · exact ⟨r, other, there, .inl (.refl other)⟩

/-- A new entry has an identifier that nothing was accepted for. -/
theorem Guarded.create (guarded : s.Guarded events) (tally : Tally events inbox)
    {addr : Address v} {conn : ServerConn options} (fresh : Fresh addr conn)
    (admitted : admittedKeys added = []) (drew : drawnIds added = [conn.myId])
    (once : (drawnIds (events ++ added)).Nodup)
    (heap : s'.heap = (s.put s.allocated conn).heap) : s'.Guarded (events ++ added) := by
  have new : conn.myId ∉ drawnIds events := by
    rw [drawnIds_append, drew] at once
    exact fun inside => (List.disjoint_of_nodup_append once) inside (List.mem_singleton_self _)
  intro p next there
  rw [heap, heap_put_apply] at there
  split at there
  · obtain rfl := Option.some.inj there
    refine ⟨fun _ => ?_, fun blob inside => ?_⟩
    · rw [admittedKeys_append, admitted, List.append_nil]
      exact tally.unused new
    · rw [fresh.blob] at inside
      contradiction
  · have rest : s.Guarded (events ++ added) := guarded.rest admitted fun q other before =>
      ⟨q, other, before, .inl (.refl other)⟩
    exact rest p next there

/-- A connection that accepts a number did not accept it before, and knows it from then on. -/
theorem Guarded.accept (guarded : s.Guarded events) (tables : s.Tables) (counts : s.Counts events)
    (tally : Tally events inbox) (enabled : options.disableAntiReplay = false) {p : Ptr}
    {conn next : ServerConn options} {now later : Nat} {blob : Blob Nat} {antiReplay : AntiReplay}
    {input message : Bytes} {seq : UInt64} {frame : Option Frame}
    (touches : s.Touches p conn next now later) (contents : conn.blob = some blob)
    (valid : blob.antiReplay.isVaild options.disableAntiReplay seq = (true, antiReplay))
    (same : (conn.withAntiReplay blob antiReplay).SameSession next)
    (numbered : ∀ found ∈ frame, found.seq = seq) :
    (s.put p next).Guarded (events ++ [.decrypted input message,
      .accepted conn.myId conn.oppsiteId seq]) ∧
    Tally (events ++ [.decrypted input message, .accepted conn.myId conn.oppsiteId seq])
      (inbox ++ frame.toList.map fun found => ⟨conn.myId, conn.oppsiteId, found⟩) := by
  have found := touches.found
  have ready : conn.state = .ready := by
    by_contra other
    rw [(tables.unready p conn found other).1] at contents
    contradiction
  rw [enabled] at valid
  obtain ⟨new, known⟩ := ((guarded p conn found).knows blob contents).accept valid
  have owned := (counts.conns p conn found).owned
  refine ⟨fun q other there => ?_, tally.accept owned (fun before => new (mem_issued.mpr before))
    numbered⟩
  rw [heap_put_apply] at there
  split at there
  · obtain rfl := Option.some.inj there
    have like := touches.like
    refine ⟨fun waiting => ?_, fun kept inside => ?_⟩
    · rw [like.state, ready] at waiting
      contradiction
    · have window := same.window
      rw [Option.mem_def.mp inside] at window
      obtain ⟨former, became, equal⟩ := ConnInfo.rel_to_some window
      obtain rfl := Option.some.inj became
      rw [issued_admitted, like.myId, if_pos rfl, equal]
      exact known
  · rename_i elsewhere
    have before := guarded q other there
    -- a connection in use has another identifier, and one that is idle has no window
    have different (used : other.state ≠ .idle) : conn.myId ≠ other.myId := fun equal =>
      elsewhere (counts.apart q p other conn there found used (by rw [ready]; nofun) equal.symm)
    refine ⟨fun waiting => ?_, fun kept inside => ?_⟩
    · rw [issued_admitted, if_neg (different (by rw [waiting]; nofun))]
      exact before.unused waiting
    · have used : other.state ≠ .idle := by
        intro idle
        rw [(tables.unready q other there (by rw [idle]; nofun)).1] at inside
        contradiction
      rw [issued_admitted, if_neg (different used)]
      exact before.knows kept inside

/-- Every step of the server accepts only numbers that were not accepted before. -/
theorem Guarded.step {one two : Stage options} (step : Step one two) (tables : one.server.Tables)
    (enabled : options.disableAntiReplay = false)
    (once : (drawnIds (eventsOf two.machine.self two.machine.log)).Nodup)
    (counts : one.server.Counts (eventsOf one.machine.self one.machine.log))
    (tally : Tally (eventsOf one.machine.self one.machine.log) one.inbox)
    (guarded : one.server.Guarded (eventsOf one.machine.self one.machine.log)) :
    two.server.Guarded (eventsOf two.machine.self two.machine.log) ∧
      Tally (eventsOf two.machine.self two.machine.log) two.inbox := by
  -- Most steps are silent, and the connections go on.
  have still {events : List (Event v)} (went : Went events one.machine two.machine)
      (silent : Silent events) (inbox : two.inbox = one.inbox)
      (heap : two.server.heap = one.server.heap) :
      two.server.Guarded (eventsOf two.machine.self two.machine.log) ∧
        Tally (eventsOf two.machine.self two.machine.log) two.inbox := by
    rw [went.eventsOf, inbox]
    exact ⟨guarded.rest silent.admitted fun p next there =>
      ⟨p, next, heap ▸ there, .inl (.refl next)⟩, tally.silent silent⟩
  have stored {events : List (Event v)} {p : Ptr} {conn next : ServerConn options}
      (went : Went events one.machine two.machine) (silent : Silent events)
      (inbox : two.inbox = one.inbox) (found : one.server.heap p = some conn)
      (goes : Recalls conn next ∨ Begins conn next)
      (heap : two.server.heap = (one.server.put p next).heap) :
      two.server.Guarded (eventsOf two.machine.self two.machine.log) ∧
        Tally (eventsOf two.machine.self two.machine.log) two.inbox := by
    rw [went.eventsOf, inbox]
    exact ⟨guarded.put silent.admitted found goes heap, tally.silent silent⟩
  cases step with
  | quiet minor went => exact still went minor.silent rfl rfl
  | exchanged touches exchanged went =>
    cases exchanged with
    | minor same minor =>
      exact stored went minor.silent (List.append_nil _) touches.found
        (.inl (recalls_of_sameSession touches.like same)) rfl
    | heartbeat numbered safer =>
      exact stored went safer.silent (List.append_nil _) touches.found
        (.inl (recalls_of_numbered touches.like numbered)) rfl
    | accepted contents valid same good =>
      rw [went.eventsOf]
      exact guarded.accept tables counts tally enabled touches contents valid same
        fun found inside => (good found inside).2
  | replied touches same _ _ bare went =>
    exact stored went bare.silent rfl touches.found
      (.inl (recalls_of_sameSession touches.like same)) rfl
  | @introduced _ _ _ p conn next touches waiting =>
    have empty := (tables.unready p conn touches.found (by rw [waiting]; nofun)).1
    have like := touches.like.blob
    rw [empty] at like
    exact stored (.refl _) ⟨rfl, rfl⟩ rfl touches.found
      (.inl (recalls_of_empty touches.like.myId (.inl touches.like.state) empty
        (ConnInfo.rel_none like))) rfl
  | forwarded touches numbered _ _ _ _ safer went =>
    exact stored went ⟨safer.silent.admitted, safer.silent.emitted⟩ rfl touches.found
      (.inl (recalls_of_numbered touches.like numbered)) rfl
  | skipped => exact ⟨guarded, tally.dropped (List.sublist_cons_self _ _)⟩
  | delivered _ _ _ _ _ _ went =>
    rw [went.eventsOf]
    exact ⟨guarded.rest rfl fun p next there => ⟨p, next, there, .inl (.refl next)⟩,
      tally.emit rfl rfl⟩
  | created _ _ fresh _ went =>
    rw [went.eventsOf] at once ⊢
    exact ⟨guarded.create tally fresh rfl rfl once rfl, tally.silent ⟨rfl, rfl⟩⟩
  | @refused _ _ _ p conn next found waiting idled =>
    have empty := (tables.unready p conn found (by rw [waiting]; nofun)).1
    exact stored (.refl _) ⟨rfl, rfl⟩ rfl found
      (.inl (recalls_of_empty idled.myId (.inr idled.state) empty (idled.blob.trans empty))) rfl
  | @promoted _ _ _ _ p conn next _ _ _ _ _ found waiting _ _ _ _ promoted safer went =>
    refine stored went ⟨safer.silent.admitted, safer.silent.emitted⟩ rfl found
      (.inr ⟨waiting, promoted.myId, promoted.state, fun inside inThere => ?_⟩) rfl
    obtain ⟨blob, contents, -, -, -, window, -⟩ := promoted.blob
    obtain rfl := Option.some.inj (contents.symm.trans inThere)
    exact window
  | @moved _ _ _ _ p q _ _ conn ori next idle _ _ _ _ found waiting _ other used _ _ _ recovered
      idled safer went =>
    rw [went.eventsOf]
    have empty := (tables.unready p conn found (by rw [waiting]; nofun)).1
    refine ⟨guarded.rest safer.silent.admitted fun r third there => ?_,
      tally.silent ⟨safer.silent.admitted, safer.silent.emitted⟩⟩
    simp only [heap_put_apply] at there
    split at there
    · obtain rfl := Option.some.inj there
      exact ⟨p, conn, found, .inl (recalls_of_empty idled.myId (.inr idled.state) empty
        (idled.blob.trans empty))⟩
    split at there
    · obtain rfl := Option.some.inj there
      refine ⟨p, conn, found, .inr ⟨waiting, recovered.myId, recovered.state.trans used,
        fun inside inThere => ?_⟩⟩
      obtain ⟨_, blob, -, contents, -, window, -⟩ := recovered.blob
      obtain rfl := Option.some.inj (contents.symm.trans inThere)
      exact window
    · exact ⟨r, third, there, .inl (.refl third)⟩
  | openedConv found contents _ _ _ _ _ _ went =>
    exact stored went ⟨rfl, rfl⟩ rfl found (.inl (recalls_withConvs _ contents)) rfl
  | lostSocket _ _ went => exact still went ⟨rfl, rfl⟩ rfl rfl
  | evicted found contents =>
    exact stored (.refl _) ⟨rfl, rfl⟩ rfl found (.inl (recalls_withConvs _ contents)) rfl
  | erased _ erased =>
    rw [← List.append_nil (eventsOf _ _)]
    exact ⟨guarded.rest rfl fun p next there =>
      ⟨p, next, (erase_iff.mp erased).heap there, .inl (.refl next)⟩, tally.silent ⟨rfl, rfl⟩⟩
  | swept => exact still (.refl _) ⟨rfl, rfl⟩ rfl rfl

end Server

end Udp2raw
