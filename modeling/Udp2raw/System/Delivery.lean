import Udp2raw.Client.Acceptance
import Udp2raw.Client.Conversations
import Udp2raw.Server.Acceptance
import Udp2raw.Server.Sockets
import Udp2raw.System.Handshakes
import Udp2raw.System.Messages

/-!
# Datagrams are delivered to their users

What the server writes to the socket of a conversation its client received from the local address
of that conversation, and what a client sends to a local address the server read from the socket
of its conversation. Neither comes out twice, whatever the network does to the packets and
whatever the parties do with their connections, conversations and descriptors.
-/
namespace Udp2raw

open Server

variable {v : IpVersion} {options : Options v} {m m' : Machine v} {s s' : Server options}
  {c c' : Client options} {log more : Log v}

/-! ### The server -/

/-- The client of a ready connection answered its identifier. -/
def Server.Welcomed (server : Server options) (log : Log v) : Prop :=
  ∀ p conn, server.heap p = some conn → conn.state = .ready →
    (.client conn.oppsiteConstId, .handshake2 conn.oppsiteId conn.myId) ∈ log

/-- A ready connection that has the session it had. -/
structure SameClient (conn next : ServerConn options) : Prop where
  /-- It was ready. -/
  ready : conn.state = .ready
  /-- It belongs to the same client. -/
  oppsiteConstId : next.oppsiteConstId = conn.oppsiteConstId
  /-- It has the same identifier, -/
  myId : next.myId = conn.myId
  /-- and so has the other end. -/
  oppsiteId : next.oppsiteId = conn.oppsiteId

/-- More of the run, with ready connections that have the sessions they had. -/
theorem Server.Welcomed.rest (welcomed : s.Welcomed log)
    (conns : ∀ p next, s'.heap p = some next → next.state = .ready →
      ∃ q conn, s.heap q = some conn ∧ SameClient conn next) : s'.Welcomed (log ++ more) := by
  intro p next there ready
  obtain ⟨q, conn, found, keeps⟩ := conns p next there ready
  rw [keeps.oppsiteConstId, keeps.myId, keeps.oppsiteId]
  exact List.mem_append_left _ (welcomed q conn found keeps.ready)

/-- A stored connection has the session it had, or is not ready. -/
theorem Server.Welcomed.put (welcomed : s.Welcomed log) {p : Ptr} {conn next : ServerConn options}
    (found : s.heap p = some conn) (keeps : next.state = .ready → SameClient conn next)
    (heap : s'.heap = (s.put p next).heap) : s'.Welcomed (log ++ more) := by
  refine welcomed.rest fun q other there ready => ?_
  rw [heap, heap_put_apply] at there
  split at there
  · obtain rfl := Option.some.inj there
    exact ⟨p, conn, found, keeps ready⟩
  · exact ⟨q, other, there, ready, rfl, rfl, rfl⟩

/-- A connection that goes on in its session keeps it. -/
theorem Server.Touches.sameClient {p : Ptr} {conn next : ServerConn options} {now later : Nat}
    (touches : s.Touches p conn next now later) (oppsiteId : next.oppsiteId = conn.oppsiteId)
    (ready : next.state = .ready) : SameClient conn next :=
  ⟨touches.like.state.symm.trans ready, touches.like.oppsiteConstId, touches.like.myId, oppsiteId⟩

/-- A connection with other conversations keeps its session. -/
theorem sameClient_withConvs {conn : ServerConn options} (blob : Blob Nat) (convs : ConvManager Nat)
    (ready : (conn.withConvs blob convs).state = .ready) :
    SameClient conn (conn.withConvs blob convs) := ⟨ready, rfl, rfl, rfl⟩

/-- A step of a session keeps it. -/
theorem ConnInfo.Exchanged.oppsiteId {conn next : ServerConn options} {events : List (Event v)}
    {arrived : List Pending} (exchanged : conn.Exchanged events arrived next) :
    next.oppsiteId = conn.oppsiteId := by
  cases exchanged with
  | minor same => exact same.oppsiteId
  | heartbeat numbered => exact numbered.oppsiteId
  | accepted _ _ same => exact same.oppsiteId

/-- A connection becomes that of a client that answered the identifier of an entry. -/
theorem Server.Introducing.welcomes {p : Ptr} {conn : ServerConn options} {constId : UInt32}
    (introducing : s.Introducing m.log) (agreeing : Agreeing m.log) (unforged : BareUnforged m.log)
    (fresh : FreshIds m.log) (found : s.heap p = some conn) (waiting : conn.state = .handshake1)
    (heard : HeardHandshake m.log m.self conn.oppsiteId conn.myId constId) :
    (.client constId, .handshake2 conn.oppsiteId conn.myId) ∈ m.log := by
  obtain ⟨early, between, sent, output, late, parts, -⟩ := heard.introduced agreeing.honest unforged
    fresh (introducing.entered p conn found waiting)
  rw [parts]
  simp

/-- Every step of the server leaves each ready connection a client that answered it. -/
theorem Server.Welcomed.step {one two : Stage options} (step : Step one two)
    (tables : one.server.Tables) (unforged : BareUnforged two.machine.log)
    (fresh : FreshIds two.machine.log) (agreeing : Agreeing one.machine.log)
    (introducing : one.server.Introducing one.machine.log)
    (welcomed : one.server.Welcomed one.machine.log) : two.server.Welcomed two.machine.log := by
  have still {events : List (Event v)} (went : Went events one.machine two.machine)
      (heap : two.server.heap = one.server.heap) : two.server.Welcomed two.machine.log := by
    rw [went.log]
    exact welcomed.rest fun p next there ready => ⟨p, next, heap ▸ there, ready, rfl, rfl, rfl⟩
  have stored {events : List (Event v)} {p : Ptr} {conn next : ServerConn options}
      (went : Went events one.machine two.machine) (found : one.server.heap p = some conn)
      (keeps : next.state = .ready → SameClient conn next)
      (heap : two.server.heap = (one.server.put p next).heap) :
      two.server.Welcomed two.machine.log := by
    rw [went.log]
    exact welcomed.put found keeps heap
  cases step with
  | quiet _ went => exact still went rfl
  | exchanged touches exchanged went =>
    exact stored went touches.found (touches.sameClient exchanged.oppsiteId) rfl
  | replied touches same _ _ _ went =>
    exact stored went touches.found (touches.sameClient same.oppsiteId) rfl
  | introduced touches waiting =>
    refine stored (.refl _) touches.found (fun ready => ?_) rfl
    rw [touches.like.state, waiting] at ready
    contradiction
  | forwarded touches numbered _ _ _ _ _ went =>
    exact stored went touches.found (touches.sameClient numbered.oppsiteId) rfl
  | skipped => exact welcomed
  | delivered _ _ _ _ _ _ went => exact still went rfl
  | @created _ _ s _ _ conn _ _ _ _ _ new _ went =>
    rw [went.log]
    refine welcomed.rest fun p next there ready => ?_
    rw [heap_put_apply] at there
    split at there
    · obtain rfl := Option.some.inj there
      rw [new.state] at ready
      contradiction
    · exact ⟨p, next, there, ready, rfl, rfl, rfl⟩
  | refused found _ idled =>
    refine stored (.refl _) found (fun ready => ?_) rfl
    rw [idled.state] at ready
    contradiction
  | @promoted _ _ _ _ p conn next constId _ _ _ _ found waiting _ _ heard _ promoted _ went =>
    have log := went.log
    have answered := introducing.welcomes agreeing (log ▸ unforged).part (log ▸ fresh).part found
      waiting heard
    rw [log]
    intro q other there ready
    simp only [heap_put_apply] at there
    split at there
    · obtain rfl := Option.some.inj there
      rw [promoted.oppsiteConstId, promoted.myId, promoted.oppsiteId]
      exact List.mem_append_left _ answered
    · exact List.mem_append_left _ (welcomed q other there ready)
  | @moved _ _ _ _ p q _ _ conn ori next idle constId _ _ _ found waiting listed other _ _ _ heard
      recovered idled _ went =>
    have log := went.log
    have answered := introducing.welcomes agreeing (log ▸ unforged).part (log ▸ fresh).part found
      waiting heard
    have client : ori.oppsiteConstId = constId := by
      obtain ⟨same, there, -, client⟩ := tables.client constId q listed
      obtain rfl := Option.some.inj (other.symm.trans there)
      exact client
    rw [log]
    intro r third there ready
    simp only [heap_put_apply] at there
    split at there
    · obtain rfl := Option.some.inj there
      rw [idled.state] at ready
      contradiction
    split at there
    · obtain rfl := Option.some.inj there
      rw [recovered.oppsiteConstId, client, recovered.myId, recovered.oppsiteId]
      exact List.mem_append_left _ answered
    · exact List.mem_append_left _ (welcomed r third there ready)
  | openedConv found _ _ _ _ _ _ _ went =>
    exact stored went found (sameClient_withConvs _ _) rfl
  | lostSocket _ _ went => exact still went rfl
  | evicted found => exact stored (.refl _) found (sameClient_withConvs _ _) rfl
  | erased _ erased =>
    intro p next there ready
    exact welcomed p next ((erase_iff.mp erased).heap there) ready
  | swept => exact welcomed

/-- The messages that were accepted just now were understood. -/
theorem understood_accepted {input message : Bytes} {myId oppsiteId : UInt32} {seq : UInt64}
    {frame : Option Frame} {pending : Pending}
    (went : Went [.decrypted input message, .accepted myId oppsiteId seq] m m')
    (good : ∀ found ∈ frame, SaferContent message myId oppsiteId found ∧ found.seq = seq)
    (arrived : pending ∈ frame.toList.map fun found => ⟨myId, oppsiteId, found⟩) :
    Understood m'.log m.self pending := by
  obtain ⟨found, inside, rfl⟩ := List.mem_map.mp arrived
  refine ⟨input, message, ?_, (good found (Option.mem_toList.mp inside)).1⟩
  rw [went.log]
  exact List.mem_append_right _ List.mem_cons_self

/-- What waits in the server after a step was understood. -/
theorem Step.understood {one two : Stage options} (step : Step one two)
    (understood : ∀ pending ∈ one.inbox, Understood one.machine.log one.machine.self pending) :
    ∀ pending ∈ two.inbox, Understood two.machine.log one.machine.self pending := by
  have later {pending : Pending} (waits : pending ∈ one.inbox) :
      Understood two.machine.log one.machine.self pending := by
    obtain ⟨events, went⟩ := step.went
    rw [went.log]
    exact (understood pending waits).later _
  intro pending waits
  cases step with
  | exchanged touches exchanged went =>
    obtain before | arrived := List.mem_append.mp waits
    · exact later before
    · cases exchanged with
      | minor | heartbeat => contradiction
      | accepted _ _ _ good => exact understood_accepted went good arrived
  | skipped | delivered => exact later (List.mem_cons_of_mem _ waits)
  | _ => exact later waits

/-- Every step of the server says the truth about datagrams. -/
theorem Step.told {one two : Stage options} (step : Step one two)
    (self : one.machine.self = .server) (tables : one.server.Tables) (custody : one.server.Custody)
    (owned : ∀ p conn, one.server.heap p = some conn → Drew one.machine.log .server conn.myId)
    (sockets : one.server.Sockets one.machine.log) (welcomed : one.server.Welcomed one.machine.log)
    (understood : ∀ pending ∈ one.inbox, Understood one.machine.log .server pending)
    (told : Justified Told one.machine.log) : Justified Told two.machine.log := by
  -- A connection that uses a number is attached to the socket that it leads to.
  have attached {p : Ptr} {conn : ServerConn options} {conv : UInt32} {fd64 socket : Nat}
      (found : one.server.heap p = some conn) (uses : conn.Uses conv fd64)
      (leads : one.server.descriptors.Leads fd64 socket) :
      Attached one.machine.log conn.oppsiteConstId conv socket conn.myId conn.oppsiteId := by
    have ready : conn.state = .ready := by
      by_contra other
      exact not_uses (tables.unready p conn found other).1 uses
    exact ⟨sockets.opened p conn conv fd64 socket found uses leads, welcomed p conn found ready⟩
  cases step with
  | quiet minor went => exact told.logged went.toLogged minor.told
  | exchanged touches exchanged went =>
    refine told.logged went.toLogged ?_
    cases exchanged with
    | minor _ minor => exact minor.told
    | heartbeat _ safer => exact safer.told_heartbeat
    | accepted => exact .cons trivial (.one trivial)
  | replied _ _ _ _ bare went => exact told.logged went.toLogged bare.told
  | introduced | skipped | refused | evicted | erased | swept => exact told
  | @forwarded _ _ _ _ p conn next fd64 socket conv blob bytes seq _ touches _ _ contents stored
      leads safer went =>
    have linked := custody.linked p conn blob touches.found contents
    obtain ⟨opened, answered⟩ := attached touches.found
      ⟨blob, contents, (linked.inverse conv fd64).mpr stored⟩ leads
    refine told.logged went.toLogged (.cons trivial (.cons trivial (safer.told ?_)))
    rw [self, List.append_assoc]
    exact .downlink rfl (owned p conn touches.found) opened answered
  | @delivered _ _ _ _ pending p conn socket found myId oppsiteId type _ serves went =>
    obtain ⟨fd64, uses, leads⟩ := serves_iff.mp serves
    have joined := attached found uses leads
    rw [myId, oppsiteId] at joined
    exact told.logged went.toLogged (.one ⟨pending, conn.oppsiteConstId, _, rfl,
      understood pending List.mem_cons_self, ⟨type, rfl, rfl⟩, joined⟩)
  | created _ _ _ _ went => exact told.logged went.toLogged (.cons trivial (.one trivial))
  | promoted _ _ _ _ _ _ _ safer went =>
    exact told.logged went.toLogged (.cons trivial safer.told_heartbeat)
  | moved _ _ _ _ _ _ _ _ _ _ safer went =>
    exact told.logged went.toLogged (.cons trivial safer.told_heartbeat)
  | openedConv _ _ _ _ _ _ _ _ went => exact told.logged went.toLogged (.one trivial)
  | lostSocket _ _ went => exact told.logged went.toLogged .nil

/-! ### The clients -/

/-- A message of one of its sessions that a client understood. -/
structure Admitted (log : Log v) (party : Party) (pending : Pending) : Prop where
  /-- It was understood. -/
  understood : Understood log party pending
  /-- The client drew its identifier of the session, -/
  own : Drew log party pending.myId
  /-- and the server drew the other one. -/
  other : Drew log .server pending.oppsiteId

/-- What was admitted stays admitted. -/
theorem Admitted.later {self : Party} {pending : Pending} (admitted : Admitted log self pending)
    (more : Log v) : Admitted (log ++ more) self pending :=
  ⟨admitted.understood.later more, admitted.own.later more, admitted.other.later more⟩

/-- What waits in a client after a step was admitted. -/
theorem ClientStep.admitted_inbox {lenient : Prop} {one two : ClientStage options}
    (step : ClientStep lenient one two) (self : one.machine.self = .client options.constId)
    (acquainted : Acquainted one.client.conn one.machine.log)
    (admitted : ∀ pending ∈ one.inbox, Admitted one.machine.log one.machine.self pending) :
    ∀ pending ∈ two.inbox, Admitted two.machine.log one.machine.self pending := by
  have later {pending : Pending} (waits : pending ∈ one.inbox) :
      Admitted two.machine.log one.machine.self pending := by
    obtain ⟨events, _, went⟩ := step.advanced
    rw [went.log]
    exact (admitted pending waits).later _
  intro pending waits
  cases step with
  | accepted connected _ _ _ good went =>
    obtain before | arrived := List.mem_append.mp waits
    · exact later before
    · have understood := understood_accepted went good arrived
      obtain ⟨found, -, rfl⟩ := List.mem_map.mp arrived
      refine ⟨understood, ?_, ?_⟩
      · rw [went.log, self]
        exact acquainted.drew.later _
      · rw [went.log]
        exact (acquainted.answered connected).later _
  | skipped | delivered => exact later (List.mem_cons_of_mem _ waits)
  | _ => exact later waits

/-- Every step of a client says the truth about datagrams. -/
theorem ClientStep.told {lenient : Prop} {one two : ClientStage options}
    (step : ClientStep lenient one two) (self : one.machine.self = .client options.constId)
    (acquainted : Acquainted one.client.conn one.machine.log)
    (converses : one.client.Converses one.machine.log)
    (admitted : ∀ pending ∈ one.inbox, Admitted one.machine.log one.machine.self pending)
    (told : Justified Told one.machine.log) : Justified Told two.machine.log := by
  cases step with
  | quiet minor _ went => exact told.logged went.toLogged minor.told
  | refiltered | skipped | evicted => exact told
  | received went => exact told.logged went.toLogged (.one trivial)
  | gaveUp went => exact told.logged went.toLogged (.one trivial)
  | redrew _ _ went => exact told.logged went.toLogged (.one trivial)
  | forgot _ _ _ went => exact told.logged went.toLogged (.one trivial)
  | began _ _ went => exact told.logged went.toLogged (.one trivial)
  | sentHandshake1 _ _ bare went => exact told.logged went.toLogged bare.told
  | answered _ _ went => exact told.logged went.toLogged (.cons trivial (.one trivial))
  | sentHandshake2 _ _ bare went => exact told.logged went.toLogged (.cons trivial bare.told)
  | accepted _ _ _ _ _ went => exact told.logged went.toLogged (.cons trivial (.one trivial))
  | becameReady _ went => exact told.logged went.toLogged (.one trivial)
  | heartbeat _ _ _ safer went => exact told.logged went.toLogged safer.told_heartbeat
  | createdConv _ _ _ _ _ _ went => exact told.logged went.toLogged (.one trivial)
  | forwarded _ allocated known heard _ safer went =>
    refine told.logged went.toLogged (.cons trivial (safer.told ?_))
    rw [self] at heard ⊢
    exact .uplink rfl acquainted.drew heard (converses.known allocated known)
  | @delivered _ _ _ _ pending blob addr allocated known type _ went =>
    obtain ⟨understood, own, other⟩ := admitted pending List.mem_cons_self
    have created := converses.created blob allocated _ addr known
    rw [← self] at created
    exact told.logged went.toLogged (.one ⟨pending, _, rfl, understood, ⟨type, rfl, rfl⟩, created,
      own, other⟩)

/-! ### All of them -/

/-- What another party did does not matter. -/
theorem eventsOf_other {party other : Party} (different : party ≠ other) (log : Log v)
    (events : List (Event v)) :
    eventsOf party (log ++ entries other events) = eventsOf party log := by
  rw [eventsOf_append]
  simp [eventsOf, entries, Ne.symm different]

/-- The identifiers that a party drew. -/
theorem mem_drawnIds {party : Party} {myId : UInt32} :
    myId ∈ drawnIds (eventsOf party log) ↔ Drew log party myId := by
  constructor
  · intro inside
    obtain ⟨_, member, drew⟩ := List.mem_filterMap.mp inside
    obtain ⟨⟨other, event⟩, place, rfl⟩ := List.mem_map.mp member
    obtain ⟨there, same⟩ := List.mem_filter.mp place
    obtain rfl : other = party := of_decide_eq_true same
    cases event <;> simp only [Event.drawn, Option.some.injEq, reduceCtorEq] at drew
    rw [drew] at there
    exact there
  · intro drew
    refine List.mem_filterMap.mpr
      ⟨.drewMyId myId, List.mem_map.mpr ⟨(party, .drewMyId myId), ?_, rfl⟩, rfl⟩
    exact List.mem_filter.mpr ⟨drew, decide_eq_true rfl⟩

/-- No party draws an identifier twice. -/
theorem FreshIds.nodup (fresh : FreshIds log) (party : Party) :
    (drawnIds (eventsOf party log)).Nodup := by
  have same : drawnIds (eventsOf party log) =
      (log.filter fun entry => decide (entry.1 = party)).filterMap fun entry => entry.2.drawn := by
    rw [drawnIds, eventsOf, List.filterMap_map]
    rfl
  rw [same]
  exact fresh.sublist (List.filter_sublist.filterMap _)

/-- What the record says about handshakes and datagrams. -/
structure Truthful (log : Log v) : Prop where
  /-- Handshakes agree. -/
  agreeing : Agreeing log
  /-- Every entry says the truth about datagrams. -/
  told : Justified Told log
  /-- No party gave a message out twice. -/
  tallies : ∀ party, Tally (eventsOf party log) []

/-- What holds of the server that delivers datagrams. -/
structure Server.Delivers (server : Server options) (log : Log v)
    (inbox : List Pending) : Prop where
  /-- Its entries wait for handshakes, -/
  introducing : server.Introducing log
  /-- have identifiers of their own -/
  counts : server.Counts (eventsOf .server log)
  /-- and windows that know what was accepted. -/
  guarded : server.Guarded (eventsOf .server log)
  /-- It gave no message out twice. -/
  tally : Tally (eventsOf .server log) inbox
  /-- It opened the sockets of its conversations for them. -/
  sockets : server.Sockets log
  /-- Its clients answered it. -/
  welcomed : server.Welcomed log
  /-- It understood what waits. -/
  understood : ∀ pending ∈ inbox, Understood log .server pending

/-- What holds of a client that delivers datagrams. -/
structure Client.Delivers (client : Client options) (log : Log v)
    (inbox : List Pending) : Prop where
  /-- It knows its identifiers. -/
  acquainted : Acquainted client.conn log
  /-- Its window knows what was accepted. -/
  guarded : client.Guarded (eventsOf (.client options.constId) log)
  /-- It gave no message out twice. -/
  tally : Tally (eventsOf (.client options.constId) log) inbox
  /-- It created its conversations. -/
  converses : client.Converses log
  /-- What waits belongs to its sessions. -/
  admitted : ∀ pending ∈ inbox, Admitted log (.client options.constId) pending

/-- One party went on, and no party gave a message out twice. -/
theorem tallies_append {party : Party} {events : List (Event v)} {inbox : List Pending}
    (tallies : ∀ party, Tally (eventsOf party log) [])
    (tally : Tally (eventsOf party (log ++ entries party events)) inbox) (other : Party) :
    Tally (eventsOf other (log ++ entries party events)) [] := by
  by_cases same : other = party
  · rw [same]
    exact tally.dropped (List.nil_sublist _)
  · rw [eventsOf_other same]
    exact tallies other

/-- Every step of the server keeps what holds. -/
theorem Server.Delivers.step {one two : Stage options} (step : Step one two)
    (self : one.machine.self = .server) (tables : one.server.Tables) (custody : one.server.Custody)
    (enabled : options.disableAntiReplay = false) (authentic : Authentic two.machine.log)
    (fresh : FreshIds two.machine.log) (truthful : Truthful one.machine.log)
    (delivers : one.server.Delivers one.machine.log one.inbox) :
    Truthful two.machine.log ∧ two.server.Delivers two.machine.log two.inbox := by
  have unforged := authentic.bareUnforged
  obtain ⟨events, went⟩ := step.went
  have selfAfter : two.machine.self = .server := went.self.trans self
  have once : (drawnIds (eventsOf two.machine.self two.machine.log)).Nodup := fresh.nodup _
  have countsBefore : one.server.Counts (eventsOf one.machine.self one.machine.log) := by
    rw [self]
    exact delivers.counts
  obtain ⟨agreeing, introducing⟩ :=
    delivers.introducing.step step self tables unforged fresh truthful.agreeing
  obtain ⟨guarded, tally⟩ := Guarded.step step tables enabled once countsBefore
    (by rw [self]; exact delivers.tally) (by rw [self]; exact delivers.guarded)
  have counts := countsBefore.step step tables once
  rw [selfAfter] at guarded tally counts
  have told := step.told self tables custody
    (fun p conn found => mem_drawnIds.mp (delivers.counts.conns p conn found).owned)
    delivers.sockets delivers.welcomed delivers.understood truthful.told
  refine ⟨⟨agreeing, told, ?_⟩, introducing, counts, guarded, tally,
    delivers.sockets.step step self tables custody,
    delivers.welcomed.step step tables unforged fresh truthful.agreeing delivers.introducing, ?_⟩
  · have log := went.log
    rw [self] at log
    rw [log] at tally ⊢
    exact tallies_append truthful.tallies tally
  · have understood := step.understood (by rw [self]; exact delivers.understood)
    rwa [self] at understood

/-- Every step of a client keeps what holds. -/
theorem Client.Delivers.step {lenient : Prop} {one two : ClientStage options}
    (step : ClientStep lenient one two) (self : one.machine.self = .client options.constId)
    (enabled : options.disableAntiReplay = false) (authentic : Authentic two.machine.log)
    (fresh : FreshIds two.machine.log) (truthful : Truthful one.machine.log)
    (delivers : one.client.Delivers one.machine.log one.inbox) :
    Truthful two.machine.log ∧ two.client.Delivers two.machine.log two.inbox := by
  obtain ⟨events, _, went⟩ := step.advanced
  have selfAfter : two.machine.self = .client options.constId := went.self.trans self
  have owned : one.client.conn.myId ∈ drawnIds (eventsOf one.machine.self one.machine.log) := by
    rw [self]
    exact mem_drawnIds.mpr delivers.acquainted.drew
  obtain ⟨agreeing, acquainted⟩ :=
    delivers.acquainted.step step self authentic.bareUnforged fresh truthful.agreeing
  obtain ⟨guarded, tally⟩ := step.guarded enabled (fresh.nodup _) owned
    (by rw [self]; exact delivers.tally) (by rw [self]; exact delivers.guarded)
  rw [selfAfter] at guarded tally
  have admittedBefore :
      ∀ pending ∈ one.inbox, Admitted one.machine.log one.machine.self pending := by
    rw [self]
    exact delivers.admitted
  have told := step.told self delivers.acquainted delivers.converses admittedBefore truthful.told
  have admitted := step.admitted_inbox self delivers.acquainted admittedBefore
  rw [self] at admitted
  refine ⟨⟨agreeing, told, ?_⟩, acquainted, guarded, tally, delivers.converses.step step self,
    admitted⟩
  have log := went.log
  dsimp only at log
  rw [self] at log
  rw [log] at tally ⊢
  exact tallies_append truthful.tallies tally

end Udp2raw
