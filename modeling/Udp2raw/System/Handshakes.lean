import Udp2raw.System.FirstBlocks
import Udp2raw.System.HandshakeNumbers
import Udp2raw.System.Provenance
import Udp2raw.System.World

/-!
# Handshakes agree

When bare messages cannot be forged and no identifier is drawn twice, the server makes a
connection ready, or moves one, only for a client that answered the identifier that the server
drew for the entry, and it does so once for each identifier.
-/
namespace Udp2raw

open Server

variable {v : IpVersion} {options : Options v} {m m' : Machine v} {s s' : Server options}
  {log : Log v}

/-- The identifier of a connection that the server made ready or moved. -/
def Event.settled : Event v → Option UInt32
  | .becameReady _ _ myId _ => some myId
  | .moved _ _ myId _ => some myId
  | _ => none

/-- The identifiers of the connections that the server made ready or moved. -/
def settledIds (log : Log v) : List UInt32 := (eventsOf .server log).filterMap Event.settled

/-- What was settled in two parts of the record. -/
theorem settledIds_append (first second : Log v) :
    settledIds (first ++ second) = settledIds first ++ settledIds second := by
  rw [settledIds, eventsOf_append, List.filterMap_append]
  rfl

/-- What the server settles with its events. -/
theorem settledIds_entries (events : List (Event v)) :
    settledIds (entries .server events) = events.filterMap Event.settled := by
  rw [settledIds, eventsOf_entries]

/-- A client settles nothing. -/
theorem settledIds_client (constId : UInt32) (events : List (Event v)) :
    settledIds (entries (.client constId) events) = [] := by
  simp [settledIds, eventsOf, entries]

/-- Events that settle nothing. -/
theorem settledIds_none {self : Party} {events : List (Event v)}
    (none : events.filterMap Event.settled = []) : settledIds (entries self events) = [] := by
  cases self with
  | server => rw [settledIds_entries, none]
  | client constId => exact settledIds_client constId events

/-- Minor events settle nothing. -/
theorem Minor.settled {events : List (Event v)} (minor : Minor events) :
    events.filterMap Event.settled = [] := by
  refine List.filterMap_eq_nil_iff.mpr fun event inside => ?_
  obtain ⟨_, rfl⟩ | ⟨_, _, rfl⟩ := minor event inside <;> rfl

/-- A handshake settles nothing. -/
theorem BareEvents.settled {id1 id2 id3 : UInt32} {events : List (Event v)}
    (bare : BareEvents id1 id2 id3 events) : events.filterMap Event.settled = [] := by
  obtain ⟨_, _, rfl | ⟨_, rfl⟩⟩ := bare <;> rfl

/-- A safer message settles nothing. -/
theorem SaferEvents.settled {myId oppsiteId : UInt32} {seq : UInt64} {type : UInt8} {data : Bytes}
    {events : List (Event v)} (safer : SaferEvents myId oppsiteId seq type data events) :
    events.filterMap Event.settled = [] := by
  obtain ⟨_, rfl | ⟨_, _, rfl⟩⟩ := safer <;> rfl

/-! ### The server -/

/-- An entry in use keeps its address. -/
theorem Server.Touches.source {p : Ptr} {conn next : ServerConn options} {now later : Nat}
    (touches : s.Touches p conn next now later) (tables : s.Tables) (used : conn.state ≠ .idle) :
    next.rawInfo.source = conn.rawInfo.source := by
  obtain same | ⟨addr, known, heard⟩ := touches.peer
  · exact same.source
  · have source := (tables.peer addr p conn known touches.found used).1
    rw [heard.source source, source]

/-- The entries that wait for the second handshake, and what the server settled. -/
structure Server.Introducing (server : Server options) (log : Log v) : Prop where
  /-- An entry that waits was created for its address. -/
  entered : ∀ p conn, server.heap p = some conn → conn.state = .handshake1 →
    Entered log conn.rawInfo.source conn.myId
  /-- Nothing was settled for it yet. -/
  unsettled : ∀ p conn, server.heap p = some conn → conn.state = .handshake1 →
    conn.myId ∉ settledIds log
  /-- Two entries that wait have different identifiers. -/
  apart : ∀ p q conn other, server.heap p = some conn → server.heap q = some other →
    conn.state = .handshake1 → other.state = .handshake1 → conn.myId = other.myId → p = q
  /-- The server drew every identifier that was settled. -/
  settled : ∀ myId ∈ settledIds log, Drew log .server myId

/-- A waiting entry that goes on. -/
structure Lasts (conn next : ServerConn options) : Prop where
  /-- It waited before. -/
  state : conn.state = .handshake1
  /-- It has the same identifier. -/
  myId : next.myId = conn.myId
  /-- It has the same address. -/
  source : next.rawInfo.source = conn.rawInfo.source

/-- A server whose waiting entries waited before, after a part of the record that settles some of
the identifiers that do not wait any more. -/
theorem Server.Introducing.settle (introducing : s.Introducing log) {more : Log v}
    (conns : ∀ p next, s'.heap p = some next → next.state = .handshake1 →
      ∃ conn, s.heap p = some conn ∧ Lasts conn next ∧ conn.myId ∉ settledIds more)
    (drawn : ∀ myId ∈ settledIds more, Drew log .server myId) : s'.Introducing (log ++ more) where
  entered p next there waiting := by
    obtain ⟨conn, before, lasts, -⟩ := conns p next there waiting
    rw [lasts.source, lasts.myId]
    exact (introducing.entered p conn before lasts.state).later more
  unsettled p next there waiting := by
    obtain ⟨conn, before, lasts, fresh⟩ := conns p next there waiting
    rw [settledIds_append, lasts.myId, List.mem_append, not_or]
    exact ⟨introducing.unsettled p conn before lasts.state, fresh⟩
  apart p q next other there thereOther waiting waitingOther same := by
    obtain ⟨conn, before, lasts, -⟩ := conns p next there waiting
    obtain ⟨ori, beforeOther, lastsOther, -⟩ := conns q other thereOther waitingOther
    exact introducing.apart p q conn ori before beforeOther lasts.state lastsOther.state
      (lasts.myId.symm.trans (same.trans lastsOther.myId))
  settled myId inside := by
    rw [settledIds_append, List.mem_append] at inside
    exact (inside.elim (introducing.settled myId) (drawn myId)).later more

/-- A server whose waiting entries waited before, after a part of the record that settles
nothing. -/
theorem Server.Introducing.rest (introducing : s.Introducing log) {more : Log v}
    (conns : ∀ p next, s'.heap p = some next → next.state = .handshake1 →
      ∃ conn, s.heap p = some conn ∧ Lasts conn next)
    (none : settledIds more = []) : s'.Introducing (log ++ more) := by
  refine introducing.settle (fun p next there waiting => ?_) ?_
  · obtain ⟨conn, before, lasts⟩ := conns p next there waiting
    exact ⟨conn, before, lasts, by rw [none]; exact List.not_mem_nil⟩
  · rw [none]
    exact fun _ inside => absurd inside List.not_mem_nil

/-- A server that did not change. -/
theorem Server.Introducing.later (introducing : s.Introducing log) {more : Log v}
    (none : settledIds more = []) : s.Introducing (log ++ more) :=
  introducing.rest (fun _ next there waiting => ⟨next, there, waiting, rfl, rfl⟩) none

/-- A connection that is stored goes on, or does not wait. -/
theorem Server.Introducing.put (introducing : s.Introducing log) {p : Ptr}
    {conn next : ServerConn options} (found : s.heap p = some conn)
    (lasts : next.state = .handshake1 → Lasts conn next) {more : Log v}
    (none : settledIds more = []) (heap : s'.heap = (s.put p next).heap) :
    s'.Introducing (log ++ more) := by
  refine introducing.rest (fun q other there waiting => ?_) none
  rw [heap, heap_put_apply] at there
  split at there
  · rename_i here
    obtain rfl := Option.some.inj there
    exact ⟨conn, here ▸ found, lasts waiting⟩
  · exact ⟨other, there, waiting, rfl, rfl⟩

/-- An entry in use that goes on. -/
theorem Server.Touches.lasts {p : Ptr} {conn next : ServerConn options} {now later : Nat}
    (touches : s.Touches p conn next now later) (tables : s.Tables)
    (waiting : next.state = .handshake1) : Lasts conn next := by
  have before : conn.state = .handshake1 := touches.like.state.symm.trans waiting
  exact ⟨before, touches.like.myId, touches.source tables (by rw [before]; nofun)⟩

/-- A connection with other conversations goes on. -/
theorem lasts_withConvs {conn : ServerConn options} (blob : Blob Nat) (convs : ConvManager Nat)
    (waiting : (conn.withConvs blob convs).state = .handshake1) :
    Lasts conn (conn.withConvs blob convs) := ⟨waiting, rfl, rfl⟩

/-- A new entry has an identifier that was not drawn before. -/
theorem Server.Introducing.create (introducing : s.Introducing log) {addr : Address v}
    {conn : ServerConn options} (fresh : Fresh addr conn)
    (once : FreshIds (log ++ entries .server [.drewMyId conn.myId, .created addr conn.myId]))
    (heap : s'.heap = (s.put s.allocated conn).heap) :
    s'.Introducing (log ++ entries .server [.drewMyId conn.myId, .created addr conn.myId]) := by
  have absent : ¬Drew log .server conn.myId := once.absent
  have none : settledIds (entries .server [.drewMyId conn.myId, .created addr conn.myId] : Log v) =
      [] := settledIds_none rfl
  have kept := introducing.later none
  have entry {r : Ptr} {next : ServerConn options} (there : s'.heap r = some next) :
      (r = s.allocated ∧ next = conn) ∨ s.heap r = some next := by
    rw [heap, heap_put_apply] at there
    split at there
    · rename_i new
      exact .inl ⟨new, (Option.some.inj there).symm⟩
    · exact .inr there
  refine ⟨fun p next there waiting => ?_, fun p next there waiting => ?_, ?_, kept.settled⟩
  · obtain ⟨-, rfl⟩ | before := entry there
    · rw [fresh.source]
      exact ⟨log, [], rfl⟩
    · exact kept.entered p next before waiting
  · obtain ⟨-, rfl⟩ | before := entry there
    · rw [settledIds_append, none, List.append_nil]
      exact fun inside => absent (introducing.settled _ inside)
    · exact kept.unsettled p next before waiting
  · intro p q next other there thereOther waiting waitingOther same
    obtain ⟨atNew, rfl⟩ | before := entry there
    · obtain ⟨atNewOther, -⟩ | before := entry thereOther
      · rw [atNew, atNewOther]
      · exact absurd (same ▸ (introducing.entered q other before waitingOther).drew) absent
    · obtain ⟨-, rfl⟩ | beforeOther := entry thereOther
      · exact absurd (same ▸ (introducing.entered p next before waiting).drew) absent
      · exact introducing.apart p q next other before beforeOther waiting waitingOther same

/-- What the record of all parties says about handshakes. -/
structure Agreeing (log : Log v) : Prop where
  /-- Every entry says the truth. -/
  honest : HonestRecord log
  /-- Nothing was settled twice. -/
  once : (settledIds log).Nodup

/-- A process that settles nothing. -/
theorem Agreeing.logged {events : List (Event v)} (agreeing : Agreeing m.log)
    (logged : Logged events m m') (honest : HonestEvents m.log m.self events)
    (none : events.filterMap Event.settled = []) : Agreeing m'.log := by
  refine ⟨agreeing.honest.logged logged honest, ?_⟩
  rw [logged.log, settledIds_append, settledIds_none none, List.append_nil]
  exact agreeing.once

/-- A settled identifier was drawn for an entry, for a client that answered it. -/
theorem Server.Introducing.settled_once {p : Ptr} {conn : ServerConn options} {event : Event v}
    {events : List (Event v)} (introducing : s.Introducing m.log) (agreeing : Agreeing m.log)
    (found : s.heap p = some conn) (waiting : conn.state = .handshake1)
    (settled : event.settled = some conn.myId) (honest : Honest m.log (m.self, event))
    (logged : Logged (event :: events) m m')
    (rest : ∀ log, HonestEvents log m.self events)
    (self : m.self = .server) (none : events.filterMap Event.settled = [])
    (conns : ∀ q next, s'.heap q = some next → next.state = .handshake1 →
      q ≠ p ∧ s.heap q = some next) :
    Agreeing m'.log ∧ s'.Introducing m'.log := by
  have one : settledIds (entries m.self (event :: events)) = [conn.myId] := by
    rw [self, settledIds_entries, List.filterMap_cons_some settled, none]
  have unsettled := introducing.unsettled p conn found waiting
  refine ⟨⟨agreeing.honest.logged logged (.cons honest (rest _)), ?_⟩, ?_⟩
  · rw [logged.log, settledIds_append, one]
    exact List.nodup_append.mpr ⟨agreeing.once, List.nodup_singleton _, fun a here b there => by
      rintro rfl
      exact unsettled (List.mem_singleton.mp there ▸ here)⟩
  · rw [logged.log]
    refine introducing.settle (fun q next there again => ?_) ?_
    · obtain ⟨different, before⟩ := conns q next there again
      refine ⟨next, before, ⟨again, rfl, rfl⟩, ?_⟩
      rw [one, List.mem_singleton]
      exact fun same => different (introducing.apart q p next conn before found again waiting same)
    · rw [one]
      rintro _ inside
      obtain rfl := List.mem_singleton.mp inside
      exact (introducing.entered p conn found waiting).drew

/-- Every step of the server keeps what its waiting entries and the record say. -/
theorem Server.Introducing.step {one two : Stage options} (step : Step one two)
    (self : one.machine.self = .server) (tables : one.server.Tables)
    (unforged : BareUnforged two.machine.log) (fresh : FreshIds two.machine.log)
    (agreeing : Agreeing one.machine.log) (introducing : one.server.Introducing one.machine.log) :
    Agreeing two.machine.log ∧ two.server.Introducing two.machine.log := by
  -- Most steps settle nothing, and what waits afterwards waited before.
  have still {events : List (Event v)} (logged : Logged events one.machine two.machine)
      (honest : HonestEvents one.machine.log one.machine.self events)
      (none : events.filterMap Event.settled = [])
      (heap : two.server.heap = one.server.heap) :
      Agreeing two.machine.log ∧ two.server.Introducing two.machine.log := by
    refine ⟨agreeing.logged logged honest none, ?_⟩
    rw [logged.log]
    exact introducing.rest (fun p next there waiting =>
      ⟨next, heap ▸ there, waiting, rfl, rfl⟩) (settledIds_none none)
  have stored {events : List (Event v)} {p : Ptr} {conn next : ServerConn options}
      (logged : Logged events one.machine two.machine)
      (honest : HonestEvents one.machine.log one.machine.self events)
      (none : events.filterMap Event.settled = [])
      (found : one.server.heap p = some conn) (lasts : next.state = .handshake1 → Lasts conn next)
      (heap : two.server.heap = (one.server.put p next).heap) :
      Agreeing two.machine.log ∧ two.server.Introducing two.machine.log := by
    refine ⟨agreeing.logged logged honest none, ?_⟩
    rw [logged.log]
    exact introducing.put found lasts (settledIds_none none) heap
  cases step with
  | quiet minor went => exact still went.toLogged minor.honest minor.settled rfl
  | exchanged touches exchanged went =>
    cases exchanged with
    | minor _ minor =>
      exact stored went.toLogged minor.honest minor.settled touches.found
        (touches.lasts tables) rfl
    | heartbeat _ safer =>
      exact stored went.toLogged (safer.honest (.inl rfl)) safer.settled touches.found
        (touches.lasts tables) rfl
    | accepted =>
      exact stored went.toLogged (.cons trivial (.one trivial)) rfl touches.found
        (touches.lasts tables) rfl
  | @replied _ _ _ _ p conn _ _ _ _ touches same waiting heard bare went =>
    have before : BareUnforged _ := (went.log ▸ unforged).part
    obtain ⟨constId, drew⟩ := heard.initial agreeing.honest before
    have own := (introducing.entered p conn touches.found waiting).drew
    refine stored went.toLogged (bare.honest ?_) bare.settled touches.found
      (touches.lasts tables) rfl
    rw [self]
    exact .reply own drew
  | introduced touches waiting =>
    exact stored (.refl _) .nil rfl touches.found (touches.lasts tables) rfl
  | forwarded touches _ _ _ _ _ safer went =>
    exact stored went.toLogged (.cons trivial (.cons trivial (safer.honest (.inr rfl))))
      safer.settled touches.found (touches.lasts tables) rfl
  | skipped => exact ⟨agreeing, introducing⟩
  | delivered _ _ _ _ _ _ went => exact still went.toLogged (.one trivial) rfl rfl
  | created absent room new heard went =>
    refine ⟨agreeing.logged went.toLogged ?_ rfl, ?_⟩
    · exact .cons new.myId (.one trivial)
    · have log := went.log
      rw [self] at log
      dsimp only at fresh log ⊢
      rw [log] at fresh ⊢
      exact introducing.create new fresh rfl
  | refused found waiting idled =>
    exact stored (.refl _) .nil rfl found (fun again => by rw [idled.state] at again; contradiction)
      rfl
  | @promoted _ _ _ _ p conn next constId _ _ _ _ found waiting _ _ heard _ promoted safer went =>
    have log := went.log
    have introduced := heard.introduced agreeing.honest (log ▸ unforged).part (log ▸ fresh).part
      (introducing.entered p conn found waiting)
    refine introducing.settled_once agreeing found waiting rfl (by exact introduced) went.toLogged
      (fun _ => safer.honest (.inl rfl)) self safer.settled fun q other there again => ?_
    simp only [heap_put_apply] at there
    split at there
    · obtain rfl := Option.some.inj there
      rw [promoted.state] at again
      contradiction
    · rename_i elsewhere
      exact ⟨elsewhere, there⟩
  | @moved _ _ _ _ p q _ _ conn ori next idle _ _ _ _ found waiting _ other used _ _ heard recovered
      idled safer went =>
    have log := went.log
    have introduced := heard.introduced agreeing.honest (log ▸ unforged).part (log ▸ fresh).part
      (introducing.entered p conn found waiting)
    refine introducing.settled_once agreeing found waiting rfl (by exact introduced) went.toLogged
      (fun _ => safer.honest (.inl rfl)) self safer.settled fun r third there again => ?_
    simp only [heap_put_apply] at there
    split at there
    · obtain rfl := Option.some.inj there
      rw [idled.state] at again
      contradiction
    split at there
    · obtain rfl := Option.some.inj there
      rw [recovered.state, used] at again
      contradiction
    · rename_i elsewhere _
      exact ⟨elsewhere, there⟩
  | openedConv found _ _ _ _ _ _ _ went =>
    exact stored went.toLogged (.one trivial) rfl found (lasts_withConvs _ _) rfl
  | lostSocket _ _ went => exact still went.toLogged .nil rfl rfl
  | evicted found => exact stored (.refl _) .nil rfl found (lasts_withConvs _ _) rfl
  | erased _ erased =>
    refine ⟨agreeing, ?_⟩
    rw [← List.append_nil (Machine.log _)]
    exact introducing.rest (fun p next there waiting =>
      ⟨next, (erase_iff.mp erased).heap there, waiting, rfl, rfl⟩) rfl
  | swept => exact ⟨agreeing, introducing.entered, introducing.unsettled, introducing.apart,
      introducing.settled⟩

/-! ### The clients -/

/-- A client drew its identifier, and the server the one that it connects to. -/
structure Acquainted (conn : ClientConn options) (log : Log v) : Prop where
  /-- The client drew its identifier. -/
  drew : Drew log (.client options.constId) conn.myId
  /-- The server drew the identifier that it gave in its answer. -/
  answered : conn.state ∈ [ClientState.handshake2, .ready] → Drew log .server conn.oppsiteId

section Clients

variable {conn next : ClientConn options}

/-- A client that did not change. -/
theorem Acquainted.later (acquainted : Acquainted conn log) (more : Log v) :
    Acquainted conn (log ++ more) :=
  ⟨acquainted.drew.later more, fun connected => (acquainted.answered connected).later more⟩

/-- A client with the same identifiers in the same state. -/
theorem Acquainted.congr (acquainted : Acquainted conn log) (myId : next.myId = conn.myId)
    (oppsiteId : next.oppsiteId = conn.oppsiteId)
    (state : next.state ∈ [ClientState.handshake2, .ready] →
      conn.state ∈ [ClientState.handshake2, .ready]) : Acquainted next log := by
  refine ⟨by rw [myId]; exact acquainted.drew, fun connected => ?_⟩
  rw [oppsiteId]
  exact acquainted.answered (state connected)

/-- A client that only sent or received. -/
theorem Acquainted.steady (acquainted : Acquainted conn log) (steady : conn.Steady next) :
    Acquainted next log :=
  acquainted.congr steady.myId steady.oppsiteId fun connected => steady.state ▸ connected

/-- An idle client that drew its identifier just now. -/
theorem Acquainted.drawn {grown : Log v}
    (drew : grown = log ++ [(.client options.constId, .drewMyId conn.myId)])
    (idle : conn.state = .idle) : Acquainted conn grown := by
  refine ⟨?_, fun connected => ?_⟩
  · rw [drew]
    exact List.mem_append_right _ List.mem_cons_self
  · simp [idle] at connected

/-- Every step of a client keeps what it knows and what the record says. -/
theorem Acquainted.step {lenient : Prop} {one two : ClientStage options}
    (step : ClientStep lenient one two) (self : one.machine.self = .client options.constId)
    (unforged : BareUnforged two.machine.log) (fresh : FreshIds two.machine.log)
    (agreeing : Agreeing one.machine.log)
    (acquainted : Acquainted one.client.conn one.machine.log) :
    Agreeing two.machine.log ∧ Acquainted two.client.conn two.machine.log := by
  -- Most steps keep the identifiers, and connect a client only if it was connected before.
  have still {events : List (Event v)} (logged : Logged events one.machine two.machine)
      (honest : HonestEvents one.machine.log one.machine.self events)
      (none : events.filterMap Event.settled = [])
      (kept : Acquainted two.client.conn one.machine.log) :
      Agreeing two.machine.log ∧ Acquainted two.client.conn two.machine.log := by
    refine ⟨agreeing.logged logged honest none, ?_⟩
    rw [logged.log]
    exact kept.later _
  cases step with
  | quiet minor steady went =>
    exact still went.toLogged minor.honest minor.settled (acquainted.steady steady)
  | refiltered => exact ⟨agreeing, acquainted⟩
  | received went => exact still went.toLogged (.one trivial) rfl acquainted
  | gaveUp went =>
    exact still went.toLogged (.one trivial) rfl ⟨acquainted.drew, fun connected => by
      simp [Client.withConn] at connected⟩
  | redrew idle nonzero went =>
    refine ⟨agreeing.logged went.toLogged (.one nonzero) rfl, ?_⟩
    exact .drawn (went.log.trans (by rw [self]; rfl)) idle
  | forgot idle _ nonzero went =>
    refine ⟨agreeing.logged went.toLogged (.one nonzero) rfl, ?_⟩
    exact .drawn (went.log.trans (by rw [self]; rfl)) idle
  | began _ state went =>
    refine still went.toLogged (.one trivial) rfl ⟨acquainted.drew, fun connected => ?_⟩
    simp only [Client.withConn, List.mem_cons, List.not_mem_nil, or_false] at connected state
    obtain rfl | rfl := connected <;> simp at state
  | sentHandshake1 _ steady bare went =>
    refine still went.toLogged (bare.honest ?_) bare.settled
      (acquainted.steady steady)
    rw [self]
    exact .first acquainted.drew
  | answered waiting heard went =>
    have log := went.log
    have drew := heard.answer agreeing.honest (log ▸ unforged).part (log ▸ fresh).part
      acquainted.drew
    exact still went.toLogged (.cons trivial (.one trivial)) rfl ⟨acquainted.drew, fun _ => drew⟩
  | sentHandshake2 connected steady bare went =>
    have drew := acquainted.answered (by rw [connected]; decide)
    refine still went.toLogged (.cons ⟨?_, drew⟩ (bare.honest ?_)) bare.settled
      (acquainted.steady steady)
    · rw [self]
      exact acquainted.drew
    · rw [self]
      exact .second rfl
  | @accepted _ _ c _ _ blob antiReplay _ _ _ _ _ _ _ steady _ went =>
    have windowed : Acquainted (c.conn.withAntiReplay blob antiReplay) _ :=
      acquainted.congr rfl rfl id
    exact still went.toLogged (.cons trivial (.one trivial)) rfl (windowed.steady steady)
  | becameReady waiting went =>
    exact still went.toLogged (.one trivial) rfl ⟨acquainted.drew, fun _ =>
      acquainted.answered (by rw [waiting]; decide)⟩
  | @heartbeat _ _ c _ _ blob _ _ _ _ steady safer went =>
    have counted : Acquainted (c.conn.numbered blob) _ := acquainted.congr rfl rfl id
    exact still went.toLogged (safer.honest (.inl rfl)) safer.settled
      (counted.steady steady)
  | createdConv _ _ _ _ _ _ went =>
    exact still went.toLogged (.one trivial) rfl (acquainted.congr rfl rfl id)
  | @forwarded _ _ c _ _ blob _ _ _ _ _ _ _ _ steady safer went =>
    have counted : Acquainted (c.conn.numbered blob) _ := acquainted.congr rfl rfl id
    exact still went.toLogged (.cons trivial (safer.honest (.inr rfl))) safer.settled
      (counted.steady steady)
  | skipped => exact ⟨agreeing, acquainted⟩
  | delivered _ _ _ _ went => exact still went.toLogged (.one trivial) rfl acquainted
  | evicted => exact ⟨agreeing, acquainted.congr rfl rfl id⟩

end Clients

/-! ### Runs -/

variable {ι : Type} {d : Deployment v ι}

/-- What handshakes establish. -/
def handshakes (d : Deployment v ι) : Invariant d where
  good log := BareUnforged log ∧ FreshIds log
  record := Agreeing
  server log s _ := s.Introducing log
  client _ log c _ := Acquainted c.conn log
  part _ good := ⟨good.1.part, good.2.part⟩
  emptyRecord := ⟨.nil, List.nodup_nil⟩
  serverStart := ⟨by simp [Server.start], by simp [Server.start], by simp [Server.start], nofun⟩
  serverLater _ events introducing := introducing.later (settledIds_client _ events)
  clientServer events acquainted := acquainted.later _
  clientLater _ events _ acquainted := acquainted.later _
  serverStep step self tables _ good agreeing introducing :=
    introducing.step step self tables good.1 good.2 agreeing
  clientStart := by
    intro i log client myId idle same nonzero _ _ agreeing
    refine ⟨⟨justified_append.mpr ⟨agreeing.honest, Adds.one nonzero⟩, ?_⟩, ?_, ?_⟩
    · rw [settledIds_append]
      exact (List.append_nil (settledIds log)).symm ▸ agreeing.once
    · rw [same]
      exact List.mem_append_right _ List.mem_cons_self
    · intro connected
      simp [idle] at connected
  clientStep step self good agreeing acquainted :=
    acquainted.step step self good.1 good.2 agreeing

/-- A message that asks for an entry: a handshake without the identifier of one. -/
def InitialHandshake (message : Bytes) : Prop :=
  ∃ data, BareContent message data ∧ 12 ≤ data.length ∧ idAt data 4 = 0

/-- A new entry of the record is due to a packet that the server captured from its address just
then, with an initial handshake. -/
def Arrived (config : RawConfig v) (arrivals : List (Nat × Capture)) (before : Log v)
    (entry : Party × Event v) : Prop :=
  ∀ addr myId, entry = (.server, .created addr myId) → ∃ early capture input message,
    before = early ++ [(.server, .decrypted input message), (.server, .drewMyId myId)] ∧
      (early.length, capture) ∈ arrivals ∧ capture.buffered.source config = addr ∧
      InitialHandshake message

/-- With more arrivals. -/
theorem Arrived.later {config : RawConfig v} {arrivals : List (Nat × Capture)} {before : Log v}
    {entry : Party × Event v} (arrived : Arrived config arrivals before entry)
    (more : List (Nat × Capture)) : Arrived config (arrivals ++ more) before entry := by
  intro addr myId new
  obtain ⟨early, capture, input, message, parts, inside, source⟩ := arrived addr myId new
  exact ⟨early, capture, input, message, parts, List.mem_append_left _ inside, source⟩

/-- What a client does is no arrival. -/
theorem arrived_client (config : RawConfig v) (arrivals : List (Nat × Capture)) (log : Log v)
    (constId : UInt32) (events : List (Event v)) :
    Justified (fun before => Arrived config arrivals (log ++ before))
      (entries (.client constId) events) := by
  rintro before entry after parts addr myId rfl
  have inside : (Party.server, Event.created addr myId) ∈ entries (.client constId) events := by
    rw [parts]
    exact List.mem_append_right _ List.mem_cons_self
  obtain ⟨event, -, wrong⟩ := List.mem_map.mp inside
  exact absurd (Prod.mk.inj wrong).1 (by simp)

/-- In every run each new entry of the server is due to a packet with an initial handshake that the
server captured from its address. -/
theorem WorldRun.arrived [DecidableEq ι] {w : World d} (run : WorldRun d w) :
    Justified (Arrived d.options.raw w.arrivals) w.log := by
  induction run with
  | start => exact .nil
  | @server w event going after earlier returned ih =>
    have reachable := earlier.server_reachable
    obtain ⟨events, logged, arrives⟩ := serverOnEvent_arrives reachable.cursor returned
    have grown : after.1.log = w.log ++ entries .server events := by
      rw [logged.log]
      exact congrArg (fun self => w.log ++ entries self events) reachable.self_eq
    show Justified _ after.1.log
    rw [grown]
    refine justified_append.mpr ⟨ih.mono fun _ _ arrived => arrived.later _, ?_⟩
    rintro before entry rest parts addr myId rfl
    obtain ⟨first, second, split, rfl, behind⟩ := List.map_eq_append_iff.mp parts
    obtain ⟨new, third, rfl, same, -⟩ := List.map_eq_cons_iff.mp behind
    obtain rfl := (Prod.mk.inj same).2
    obtain ⟨capture, captured, source, input, message, data, rfl, content⟩ :=
      arrives first addr myId third split
    refine ⟨w.log, capture, input, message, rfl, ?_, source, data, content⟩
    rw [Option.mem_def.mp captured]
    exact List.mem_append_right _ List.mem_cons_self
  | @connect w i machine client _ _ returned ih =>
    obtain ⟨-, -, log, -⟩ := clientStart_fresh returned
    show Justified _ (w.log ++ machine.log)
    rw [log]
    exact justified_append.mpr ⟨ih, arrived_client _ _ _ _ [.drewMyId client.conn.myId]⟩
  | @client w i event was after earlier present returned ih =>
    obtain ⟨m1, events, -, -, -, grown⟩ := earlier.clientEvent present returned
    show Justified _ after.1.log
    rw [grown]
    exact justified_append.mpr ⟨ih, arrived_client _ _ _ _ events⟩

/-- Why the server may count on a client: it captured an initial handshake from the address, drew
its identifier for a new entry there, and since then the client sent its second handshake, with the
two identifiers of the session. -/
def Agreed (config : RawConfig v) (arrivals : List (Nat × Capture)) (before : Log v)
    (constId : UInt32) (addr : Address v) (myId oppsiteId : UInt32) : Prop :=
  ∃ early capture input message between sent output late,
    before = early ++ (.server, .decrypted input message) :: (.server, .drewMyId myId) ::
      (.server, .created addr myId) :: (between ++
        (.client constId, .handshake2 oppsiteId myId) ::
        (.client constId, .encrypted sent output) :: late) ∧
    (early.length, capture) ∈ arrivals ∧ capture.buffered.source config = addr ∧
    InitialHandshake message ∧ BareContent sent (numbersToChar oppsiteId myId constId)

/-- In every run in which bare messages are not forged and no identifier is drawn twice: whenever a
connection becomes ready for a client at an address or moves there, an initial handshake had arrived
from that address, the server drew the identifier of the session for the entry there, and the client
answered it since then. No identifier is used for this twice. -/
theorem WorldRun.handshakes_agree [DecidableEq ι] {w : World d} (run : WorldRun d w)
    (unforged : BareUnforged w.log) (fresh : FreshIds w.log) :
    (∀ before entry after constId addr myId oppsiteId, w.log = before ++ entry :: after →
      entry.2 ∈ [.becameReady constId addr myId oppsiteId, .moved constId addr myId oppsiteId] →
      Agreed d.options.raw w.arrivals before constId addr myId oppsiteId) ∧
    (settledIds w.log).Nodup := by
  obtain ⟨agreeing, -, -⟩ := run.holds (handshakes d) ⟨unforged, fresh⟩
  refine ⟨fun before entry after constId addr myId oppsiteId parts settled => ?_, agreeing.once⟩
  have introduced : Introduced before constId addr myId oppsiteId := by
    have honest := agreeing.honest before entry after parts
    obtain ⟨self, event⟩ := entry
    simp only [List.mem_cons, List.not_mem_nil, or_false] at settled
    obtain rfl | rfl := settled
    · exact honest
    · exact honest
  obtain ⟨sooner, between, sent, output, late, rfl, content⟩ := introduced
  have place : w.log = (sooner ++ [(.server, .drewMyId myId)]) ++ (.server, .created addr myId) ::
      (between ++ (.client constId, .handshake2 oppsiteId myId) ::
        (.client constId, .encrypted sent output) :: late ++ entry :: after) := by
    rw [parts]
    simp
  obtain ⟨early, capture, input, message, same, inside, source, initial⟩ :=
    run.arrived _ _ _ place addr myId rfl
  have whole : sooner ++ [(.server, .drewMyId myId)] =
      (early ++ [(.server, .decrypted input message)]) ++ [(.server, .drewMyId myId)] := by
    rw [same]
    simp
  obtain rfl := List.append_cancel_right whole
  exact ⟨early, capture, input, message, between, sent, output, late, by simp, inside, source,
    initial, content⟩

/-! ### A client that connects -/

/-- The answers of a client's system, which draws two identifiers. -/
def metAnswers (asked : Nat) : Answer .ipv4 :=
  { pairAnswers asked with draws := [⟨3, by decide⟩] }

/-- A server and one client. -/
def metDeployment : Deployment .ipv4 Unit where
  options := plainOptions
  standing := plainStanding
  answers _ := { Answer.plain with rawTime := 5000000 }
  filterPort := 4096
  clientOptions _ := plainClientOptions
  route _ := wrappedRoute
  clientAnswers _ := metAnswers
  clientPort _ := 0

/-- The client captures the last packet of the server. -/
def fromServer (w : World metDeployment) : ClientEvent :=
  .raw (some (lastCapture plainServer w.server.1))

/-- The server captures the last packet of the client. -/
def fromClient (w : World metDeployment) : EpollEvent :=
  ⟨4, (w.client ()).map fun state => lastCapture plainClient state.1, none⟩

/-- The client's side of the connection. -/
def metPeer : Address .ipv4 := handshakeAddress 1000

/-- The table with this address as its only key. -/
def metEntry : Table (Address .ipv4) Ptr := ⟨[⟨metPeer, 0⟩], List.nodupKeys_singleton _⟩

/-- The client starts and connects, and sends its second handshake. -/
def shakenWorld : Option (World metDeployment) := do
  let w ← (World.start metDeployment).connects ()
  let w ← w.clientGoes () .timer
  let w ← w.serverGoes (fromClient w)
  let w ← w.clientGoes () (fromServer w)
  let w ← w.serverGoes (fromClient w)
  w.clientGoes () (fromServer w)

/-- The same, with the tables of the server written out. -/
def World.shaken (w : World metDeployment) : World metDeployment :=
  { w with server := (w.server.1, { w.server.2 with mp := metEntry, constIdMp := ∅ }) }

/-- They get there. -/
theorem shakenWorld_run {w : World metDeployment} (shaken : shakenWorld = some w) :
    WorldRun metDeployment w.shaken := by
  have written : shakenWorld.all fun w => decide (w.server.2.mp.entries = metEntry.entries ∧
      w.server.2.constIdMp.entries = []) := by
    decide +kernel
  rw [shaken, Option.all_some, decide_eq_true_eq] at written
  simp only [shakenWorld, bind, Option.bind_eq_some_iff] at shaken
  obtain ⟨_, one, _, two, _, three, _, four, _, five, six⟩ := shaken
  have started := (WorldRun.start.connects one).clientGoes two
  have run := (((started.serverGoes three).clientGoes four).serverGoes five).clientGoes six
  obtain ⟨log, arrivals, ⟨m, s⟩, client⟩ := w
  have mp : s.mp = metEntry := AList.ext written.1
  have constIdMp : s.constIdMp = ∅ := AList.ext written.2
  rwa [World.shaken, ← mp, ← constIdMp]

/-- The server hears the second handshake of the client. -/
def metWorld : Option (World metDeployment) :=
  (shakenWorld.map World.shaken).bind fun w => w.serverGoes (fromClient w)

/-- They get there. -/
theorem metWorld_run {w : World metDeployment} (met : metWorld = some w) :
    WorldRun metDeployment w := by
  obtain ⟨_, written, goes⟩ := Option.bind_eq_some_iff.mp met
  obtain ⟨_, shaken, rfl⟩ := Option.map_eq_some_iff.mp written
  exact (shakenWorld_run shaken).serverGoes goes

/-- The messages of the handshake. -/
def metMessage (id1 id2 id3 : UInt32) : Bytes := bareMessage 5 5 (numbersToChar id1 id2 id3)

/-- The heartbeat of the server. -/
def metHeartbeat : Bytes := saferMessage 5 6 0 typeHeartbeat 0 []

/-- What the two did. -/
def metLog : Log .ipv4 :=
  entries (.client 7) [.drewMyId 8, .drewMyId 6, .entered .tcpHandshake, .rawPayload []] ++
  entries .server [.rawPayload []] ++
  entries (.client 7) [.entered .handshake1, .rawPayload [],
    .encrypted (metMessage 6 0 7) (metMessage 6 0 7), .rawPayload (metMessage 6 0 7)] ++
  entries .server [.decrypted (metMessage 6 0 7) (metMessage 6 0 7), .drewMyId 5,
    .created metPeer 5, .encrypted (metMessage 5 6 9) (metMessage 5 6 9),
    .rawPayload (metMessage 5 6 9)] ++
  entries (.client 7) [.decrypted (metMessage 5 6 9) (metMessage 5 6 9), .answered 6 5,
    .entered .handshake2, .handshake2 6 5, .encrypted (metMessage 6 5 7) (metMessage 6 5 7),
    .rawPayload (metMessage 6 5 7)] ++
  entries .server [.decrypted (metMessage 6 5 7) (metMessage 6 5 7), .becameReady 7 metPeer 5 6,
    .encrypted metHeartbeat metHeartbeat, .rawPayload (BigEndian.encode 2 18 ++ metHeartbeat)]

/-- They did it. -/
theorem metWorld_log : metWorld.map World.log = some metLog := by decide +kernel

/-- The connection of the client became ready, after both drew their identifiers for it. -/
theorem handshakes_agree_met : ∃ w, metWorld = some w ∧ settledIds w.log = [5] ∧
    (∀ before entry after constId addr myId oppsiteId, w.log = before ++ entry :: after →
      entry.2 ∈ [.becameReady constId addr myId oppsiteId, .moved constId addr myId oppsiteId] →
      Agreed metDeployment.options.raw w.arrivals before constId addr myId oppsiteId) ∧
    (settledIds w.log).Nodup := by
  obtain ⟨w, met, log⟩ := Option.map_eq_some_iff.mp metWorld_log
  have settled : settledIds metLog = [5] := by decide +kernel
  have authentic : Authentic metLog := by decide +kernel
  have drawn : (metLog.filterMap fun entry => entry.2.drawn) = [8, 6, 5] := by decide +kernel
  have fresh : FreshIds metLog := by
    rw [FreshIds, drawn]
    decide
  rw [← log] at settled authentic fresh
  exact ⟨w, met, settled, (metWorld_run met).handshakes_agree authentic.bareUnforged fresh⟩

end Udp2raw
