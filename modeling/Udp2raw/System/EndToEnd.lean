import Udp2raw.System.Delivery

/-!
# From one user to the other

A datagram that comes out of the tunnel went in at the other end, and it comes out once. The
conversation it belongs to stands for one local address of one client, and for one socket of the
server at a time.
-/
namespace Udp2raw

variable {v : IpVersion} {options : Options v} {s : Server options} {c : Client options}
  {log : Log v} {inbox : List Pending}

/-! ### Runs -/

/-- What a client does leaves the server what it has. -/
theorem Server.Delivers.later (delivers : s.Delivers log inbox) (constId : UInt32)
    (events : List (Event v)) : s.Delivers (log ++ entries (.client constId) events) inbox := by
  have same : eventsOf .server (log ++ entries (.client constId) events) = eventsOf .server log :=
    eventsOf_other (by nofun) log events
  constructor
  case introducing => exact delivers.introducing.later (settledIds_client _ events)
  case counts => exact same ▸ delivers.counts
  case guarded => exact same ▸ delivers.guarded
  case tally => exact same ▸ delivers.tally
  case sockets =>
    refine ⟨fun p conn conv fd64 socket found uses leads => ?_, fun other conv socket inside => ?_,
      fun other conv socket other' conv' inside again => ?_⟩
    · exact List.mem_append_left _
        (delivers.sockets.opened p conn conv fd64 socket found uses leads)
    · exact delivers.sockets.numbered other conv socket ((mem_server_append _ _).mp inside)
    · exact delivers.sockets.once other conv socket other' conv' ((mem_server_append _ _).mp inside)
        ((mem_server_append _ _).mp again)
  case welcomed =>
    exact fun p conn found ready => List.mem_append_left _ (delivers.welcomed p conn found ready)
  case understood => exact fun pending waits => (delivers.understood pending waits).later _

/-- What another party does leaves a client what it has. -/
theorem Client.Delivers.later (delivers : c.Delivers log inbox) {party : Party}
    (different : .client options.constId ≠ party) (events : List (Event v)) :
    c.Delivers (log ++ entries party events) inbox := by
  have same : eventsOf (.client options.constId) (log ++ entries party events) =
      eventsOf (.client options.constId) log := eventsOf_other different log events
  constructor
  case acquainted => exact delivers.acquainted.later _
  case guarded => exact same ▸ delivers.guarded
  case tally => exact same ▸ delivers.tally
  case converses => exact delivers.converses.later _
  case admitted => exact fun pending waits => (delivers.admitted pending waits).later _

/-- A server that starts. -/
theorem Server.delivers_start : (Server.start : Server options).Delivers [] [] where
  introducing := ⟨by simp [Server.start], by simp [Server.start], by simp [Server.start],
    by simp [settledIds, eventsOf]⟩
  counts := Server.counts_start
  guarded := Server.guarded_start
  tally := .nil
  sockets := Server.sockets_start
  welcomed := by simp [Server.Welcomed, Server.start]
  understood := by simp

/-- A client that starts. -/
theorem Client.delivers_start {blob : Blob LocalAddress} (truthful : Truthful log)
    (fresh : FreshIds (log ++ entries (.client options.constId) [.drewMyId c.conn.myId]))
    (agreeing : Agreeing (log ++ entries (.client options.constId) [.drewMyId c.conn.myId]))
    (acquainted : Acquainted c.conn
      (log ++ entries (.client options.constId) [.drewMyId c.conn.myId]))
    (allocated : c.conn.blob = some blob) (convToData : blob.convManager.convToData = ∅)
    (dataToConv : blob.convManager.dataToConv = ∅) (lru : blob.convManager.lru = .empty)
    (window : blob.antiReplay.maxPacketReceived = 0) :
    Truthful (log ++ entries (.client options.constId) [.drewMyId c.conn.myId]) ∧
      c.Delivers (log ++ entries (.client options.constId) [.drewMyId c.conn.myId]) [] := by
  have before := truthful.tallies (.client options.constId)
  have grown : eventsOf (.client options.constId)
      (log ++ entries (.client options.constId) [.drewMyId c.conn.myId]) =
        eventsOf (.client options.constId) log ++ [.drewMyId c.conn.myId] := by
    rw [eventsOf_append, eventsOf_entries]
  have once := fresh.nodup (.client options.constId)
  have tally : Tally (eventsOf (.client options.constId)
      (log ++ entries (.client options.constId) [.drewMyId c.conn.myId])) [] := by
    rw [grown]
    exact before.silent ⟨rfl, rfl⟩
  refine ⟨⟨agreeing, justified_append.mpr ⟨truthful.told, Adds.one trivial⟩, ?_⟩, acquainted, ?_,
    tally, .of_empty allocated convToData dataToConv lru, nofun⟩
  · exact tallies_append truthful.tallies tally
  · rw [grown] at once ⊢
    exact Client.guarded_start before once allocated window

variable {ι : Type} {d : Deployment v ι}

/-- What the parties need to deliver datagrams. -/
def deliveries (d : Deployment v ι) (distinct : ∀ i j, i ≠ j →
    (d.clientOptions i).constId ≠ (d.clientOptions j).constId)
    (serverEnabled : d.options.disableAntiReplay = false)
    (clientEnabled : ∀ i, (d.clientOptions i).disableAntiReplay = false) : Invariant d where
  good log := Authentic log ∧ FreshIds log
  record := Truthful
  server log s inbox := s.Delivers log inbox
  client _ log c inbox := c.Delivers log inbox
  part _ good := ⟨(justified_append.mp good.1).1, good.2.part⟩
  emptyRecord := ⟨⟨.nil, List.nodup_nil⟩, .nil, fun _ => .nil⟩
  serverStart := Server.delivers_start
  serverLater _ events delivers := delivers.later _ events
  clientServer events delivers := delivers.later (by nofun) events
  clientLater j events different delivers := delivers.later
    (fun same => distinct j _ different (Party.client.inj same).symm) events
  serverStep step self tables custody good truthful delivers :=
    delivers.step step self tables custody serverEnabled good.1 good.2 truthful
  clientStart := by
    intro i log c myId idle same nonzero contents good truthful
    subst same
    obtain ⟨agreeing, acquainted⟩ := (handshakes d).clientStart idle rfl nonzero contents
      ⟨good.1.bareUnforged, good.2⟩ truthful.agreeing
    obtain ⟨blob, allocated, convToData, dataToConv, lru, window⟩ := contents
    exact Client.delivers_start truthful good.2 agreeing acquainted allocated convToData dataToConv
      lru window
  clientStep step self good truthful delivers :=
    delivers.step step self (clientEnabled _) good.1 good.2 truthful

/-! ### What comes out -/

/-- The identifier of a conversation that a client created. -/
def Event.conversation : Event v → Option UInt32
  | .createdConv conv _ => some conv
  | _ => none

/-- No conversation identifier was drawn twice, by whatever clients. -/
def FreshConvs (log : Log v) : Prop := (log.filterMap fun entry => entry.2.conversation).Nodup

/-- At a place of the record a party called `send_data_safer`, and the call handed this message with
this number to `my_encrypt`, which gave this output. -/
structure CallsAt (log : Log v) (place : Nat) (party : Party) (myId oppsiteId conv : UInt32)
    (bytes : Bytes) (seq : UInt64) (message output : Bytes) : Prop where
  /-- The call. -/
  called : log[place]? = some (party, .sendDataSafer myId oppsiteId conv bytes)
  /-- The message names the session, and then the conversation before the datagram. -/
  named : ∃ roller, message = saferMessage myId oppsiteId seq typeData roller
    (BigEndian.encode 4 conv.toNat ++ bytes)
  /-- It was encrypted. -/
  encrypted : log[place + 1]? = some (party, .encrypted message output)

/-- A socket is that of a conversation of a client: before this place the server opened it for this
conversation, and it opened it for no other. -/
structure SocketOf (log : Log v) (place : Nat) (constId conv : UInt32) (socket : Nat) : Prop where
  /-- It was opened for the conversation. -/
  opened : (.server, .openedSocket constId conv socket) ∈ log.take place
  /-- It was opened for nothing else. -/
  only : ∀ other conv', (.server, .openedSocket other conv' socket) ∈ log →
    other = constId ∧ conv' = conv

/-- A local address is that of a conversation of a client: before this place the client created the
conversation for it, and nobody created this conversation for another one. -/
structure AddressOf (log : Log v) (place : Nat) (constId conv : UInt32) (addr : LocalAddress) :
    Prop where
  /-- The conversation was created for it. -/
  created : (.client constId, .createdConv conv addr) ∈ log.take place
  /-- It was created for nothing else. -/
  only : ∀ party other, (party, .createdConv conv other) ∈ log →
    party = .client constId ∧ other = addr

/-- What the server wrote to a socket at one place of the record was received by the client that the
socket was opened for, from the local address of its conversation, and handed to `send_data_safer`
at the other place. The server decrypted the output of that call, in a session that the client
answered. -/
def Uplinks (log : Log v) (call delivery : Nat) : Prop :=
  ∃ constId conv addr socket bytes myId oppsiteId seq message output,
    (.client constId, .received addr bytes) ∈ log.take call ∧ AddressOf log call constId conv addr ∧
    CallsAt log call (.client constId) oppsiteId myId conv bytes seq message output ∧
    call + 1 < delivery ∧ (.server, .decrypted output message) ∈ log.take delivery ∧
    (.client constId, .handshake2 oppsiteId myId) ∈ log.take delivery ∧
    SocketOf log delivery constId conv socket ∧
    log[delivery]? = some (.server, .wroteSocket socket bytes myId seq)

/-- What a client sent to a local address at one place of the record was read by the server at the
other place, from the socket that it opened for the conversation of this address of the client, and
handed to `send_data_safer` at once, in a session that the client answered. The client decrypted the
output of that call. -/
def Downlinks (log : Log v) (read delivery : Nat) : Prop :=
  ∃ constId conv addr socket bytes myId oppsiteId seq message output,
    log[read]? = some (.server, .readSocket socket bytes) ∧ SocketOf log read constId conv socket ∧
    (.client constId, .handshake2 myId oppsiteId) ∈ log.take read ∧
    CallsAt log (read + 1) .server oppsiteId myId conv bytes seq message output ∧
    read + 2 < delivery ∧ (.client constId, .decrypted output message) ∈ log.take delivery ∧
    AddressOf log delivery constId conv addr ∧
    log[delivery]? = some (.client constId, .sentTo addr bytes myId seq)

/-- The address of a conversation that was created once. -/
theorem FreshConvs.address (fresh : FreshConvs log) {before after : Log v} {constId conv : UInt32}
    {addr : LocalAddress} (parts : log = before ++ after)
    (created : (.client constId, .createdConv conv addr) ∈ before) :
    AddressOf log before.length constId conv addr := by
  refine ⟨by rwa [parts, List.take_left], fun party other again => ?_⟩
  have here : (.client constId, .createdConv conv addr) ∈ log := by
    rw [parts]
    exact List.mem_append_left _ created
  have same := eq_of_key fresh again here rfl rfl
  simpa using same

/-- The socket of a conversation. -/
theorem Server.Sockets.socket (sockets : s.Sockets log) {before after : Log v}
    {constId conv : UInt32} {socket : Nat} (parts : log = before ++ after)
    (opened : (.server, .openedSocket constId conv socket) ∈ before) :
    SocketOf log before.length constId conv socket := by
  refine ⟨by rwa [parts, List.take_left], fun other conv' again => ?_⟩
  have here : (.server, .openedSocket constId conv socket) ∈ log := by
    rw [parts]
    exact List.mem_append_left _ opened
  exact sockets.once constId conv socket other conv' here again

/-- The session and the number of a message. -/
theorem saferMessage_inj {myId oppsiteId myId' oppsiteId' : UInt32} {seq seq' : UInt64}
    {type roller type' roller' : UInt8} {data data' : Bytes}
    (same : saferMessage myId oppsiteId seq type roller data =
      saferMessage myId' oppsiteId' seq' type' roller' data') :
    myId = myId' ∧ oppsiteId = oppsiteId' ∧ seq = seq' := by
  obtain ⟨first, second⟩ := idAt_saferMessage myId oppsiteId seq type roller data
  obtain ⟨first', second'⟩ := idAt_saferMessage myId' oppsiteId' seq' type' roller' data'
  have number := seq_saferMessage myId oppsiteId seq type roller data
  have number' := seq_saferMessage myId' oppsiteId' seq' type' roller' data'
  rw [same] at first second number
  exact ⟨first.symm.trans first', second.symm.trans second', number.symm.trans number'⟩

/-- One place has one call. -/
theorem CallsAt.unique {place : Nat} {party party' : Party}
    {myId oppsiteId conv myId' oppsiteId' conv' : UInt32} {bytes bytes' message message' output
    output' : Bytes} {seq seq' : UInt64}
    (one : CallsAt log place party myId oppsiteId conv bytes seq message output)
    (two : CallsAt log place party' myId' oppsiteId' conv' bytes' seq' message' output') :
    oppsiteId' = oppsiteId ∧ seq' = seq := by
  obtain ⟨roller, rfl⟩ := one.named
  obtain ⟨roller', rfl⟩ := two.named
  have same := Option.some.inj (one.encrypted.symm.trans two.encrypted)
  obtain ⟨-, oppsite, number⟩ := saferMessage_inj (Event.encrypted.inj (Prod.mk.inj same).2).1
  exact ⟨oppsite.symm, number.symm⟩

/-- What a party gave out. -/
def emittedBy (party : Party) (entry : Party × Event v) : Option (UInt32 × UInt64) :=
  if entry.1 = party then entry.2.emitted else none

/-- A party gives a message out at one place only. -/
theorem Tally.place_unique {party : Party} {one two : Nat} {first second : Event v}
    {key : UInt32 × UInt64} (tally : Tally (eventsOf party log) inbox)
    (here : log[one]? = some (party, first)) (there : log[two]? = some (party, second))
    (keyFirst : first.emitted = some key) (keySecond : second.emitted = some key) : one = two := by
  have same : emittedKeys (eventsOf party log) = log.filterMap (emittedBy party) := by
    rw [emittedKeys, eventsOf, List.filterMap_map, List.filterMap_filter]
    refine List.filterMap_congr fun entry _ => ?_
    simp [emittedBy, Function.comp_apply]
  have once := (List.nodup_append.mp tally.once).1
  rw [same] at once
  exact Udp2raw.place_unique once here there (by rw [emittedBy, if_pos rfl, keyFirst])
    (by rw [emittedBy, if_pos rfl, keySecond])

/-- What the server wrote to a socket came from its user. -/
theorem Truthful.uplink (truthful : Truthful log) (sockets : s.Sockets log)
    (authentic : Authentic log) (fresh : FreshIds log) (convs : FreshConvs log) {delivery : Nat}
    {socket : Nat} {bytes : Bytes} {myId : UInt32} {seq : UInt64}
    (wrote : log[delivery]? = some (.server, .wroteSocket socket bytes myId seq)) :
    ∃ call, Uplinks log call delivery := by
  obtain ⟨before, after, parts, rfl⟩ := split_at wrote
  obtain ⟨pending, constId, conv, key, understood, carries, opened, answered⟩ :=
    truthful.told before _ after parts
  obtain ⟨rfl, rfl⟩ := Prod.mk.inj key
  have honest := truthful.agreeing.honest
  have told := truthful.told
  have drew := (honest.handshake2 (parts ▸ List.mem_append_left _ answered)).1
  have owner := sockets.socket parts opened
  rw [parts] at authentic told
  obtain ⟨early, party, roller, output, late, place, spoken, decrypted⟩ :=
    understood.spoken carries (justified_append.mp told).1 (justified_append.mp authentic).1
  have whole : log = early ++ (party, .encrypted (saferMessage pending.oppsiteId pending.myId
      pending.frame.seq typeData roller (BigEndian.encode 4 conv.toNat ++ bytes)) output) ::
      (late ++ (.server, .wroteSocket socket bytes pending.myId pending.frame.seq) :: after) := by
    rw [parts, place, List.append_assoc, List.cons_append]
  have earlier {other : Party} {id : UInt32} (drewEarly : Drew early other id) :
      Drew log other id := by
    rw [whole]
    exact drewEarly.later _
  cases spoken with
  | @uplink other _ _ _ addr _ sooner call drewOther received created =>
    subst call
    obtain rfl : other = constId :=
      Party.client.inj (fresh.party (earlier (drewOther.later _)) drew)
    have called := whole.trans (List.append_assoc _ _ _)
    refine ⟨sooner.length, other, conv, addr, socket, bytes, pending.myId, pending.oppsiteId,
      pending.frame.seq, _, output, ?_, convs.address called created, ⟨?_, ⟨roller, rfl⟩, ?_⟩, ?_,
      ?_, ?_, owner, wrote⟩
    · rw [called, List.take_left]
      exact received
    · simp [whole]
    · simp [whole]
    · simp only [place, List.length_append, List.length_cons]
      omega
    · rwa [parts, List.take_left]
    · rwa [parts, List.take_left]
  | @downlink _ _ _ _ _ _ sooner call drewServer =>
    subst call
    have wrong := fresh.party (earlier (drewServer.later _)) drew
    contradiction

/-- What a client sent to a local address came from the other end. -/
theorem Truthful.downlink (truthful : Truthful log) (sockets : s.Sockets log)
    (authentic : Authentic log) (fresh : FreshIds log) (convs : FreshConvs log) {delivery : Nat}
    {constId : UInt32} {addr : LocalAddress} {bytes : Bytes} {myId : UInt32} {seq : UInt64}
    (sent : log[delivery]? = some (.client constId, .sentTo addr bytes myId seq)) :
    ∃ read, Downlinks log read delivery := by
  obtain ⟨before, after, parts, rfl⟩ := split_at sent
  obtain ⟨pending, conv, key, understood, carries, created, drew, drewServer⟩ :=
    truthful.told before _ after parts
  obtain ⟨rfl, rfl⟩ := Prod.mk.inj key
  have honest := truthful.agreeing.honest
  have told := truthful.told
  have address := convs.address parts created
  rw [parts] at authentic told
  obtain ⟨early, party, roller, output, late, place, spoken, decrypted⟩ :=
    understood.spoken carries (justified_append.mp told).1 (justified_append.mp authentic).1
  have whole : log = early ++ (party, .encrypted (saferMessage pending.oppsiteId pending.myId
      pending.frame.seq typeData roller (BigEndian.encode 4 conv.toNat ++ bytes)) output) ::
      (late ++ (.client constId, .sentTo addr bytes pending.myId pending.frame.seq) :: after) := by
    rw [parts, place, List.append_assoc, List.cons_append]
  have earlier {event : Party × Event v} (inside : event ∈ early) : event ∈ log := by
    rw [whole]
    exact List.mem_append_left _ inside
  have own : Drew log (.client constId) pending.myId := by
    rw [parts]
    exact drew.later _
  have other : Drew log .server pending.oppsiteId := by
    rw [parts]
    exact drewServer.later _
  cases spoken with
  | @uplink _ _ _ _ _ _ sooner call drewClient =>
    subst call
    have wrong := fresh.party other (earlier (drewClient.later _))
    contradiction
  | @downlink client _ _ _ socket _ sooner read _ opened answered =>
    subst read
    have answeredLater := earlier (List.mem_append_left _ answered)
    obtain rfl : client = constId :=
      Party.client.inj (fresh.party (honest.handshake2 answeredLater).1 own)
    have called := whole.trans (List.append_assoc _ _ _)
    refine ⟨sooner.length, client, conv, addr, socket, bytes, pending.myId, pending.oppsiteId,
      pending.frame.seq, _, output, ?_, sockets.socket called opened, ?_, ⟨?_, ⟨roller, rfl⟩, ?_⟩,
      ?_, ?_, address, sent⟩
    · simp [whole]
    · rw [called, List.take_left]
      exact answered
    · rw [called, List.getElem?_append_right (by omega), Nat.add_sub_cancel_left]
      rfl
    · rw [called, List.getElem?_append_right (by omega), Nat.add_assoc, Nat.add_sub_cancel_left]
      rfl
    · simp only [place, List.length_append, List.length_cons]
      omega
    · rwa [parts, List.take_left]

/-- The server gives the datagram of a call out once. -/
theorem Truthful.uplink_once (truthful : Truthful log) {call one two : Nat}
    (first : Uplinks log call one) (second : Uplinks log call two) : one = two := by
  obtain ⟨_, _, _, _, _, _, _, _, _, _, -, -, call, -, -, -, -, here⟩ := first
  obtain ⟨_, _, _, _, _, _, _, _, _, _, -, -, again, -, -, -, -, there⟩ := second
  obtain ⟨rfl, rfl⟩ := call.unique again
  exact (truthful.tallies .server).place_unique here there rfl rfl

/-- A client gives the datagram of a call out once. -/
theorem Truthful.downlink_once (truthful : Truthful log) {read one two : Nat}
    (first : Downlinks log read one) (second : Downlinks log read two) : one = two := by
  obtain ⟨_, _, _, _, _, _, _, _, _, _, socket, owner, -, call, -, -, -, here⟩ := first
  obtain ⟨_, _, _, _, _, _, _, _, _, _, socket', owner', -, again, -, -, -, there⟩ := second
  obtain ⟨rfl, rfl⟩ := call.unique again
  obtain ⟨rfl, -⟩ :=
    Event.readSocket.inj (Prod.mk.inj (Option.some.inj (socket.symm.trans socket'))).2
  obtain ⟨rfl, -⟩ := owner.only _ _ (List.mem_of_mem_take owner'.opened)
  exact (truthful.tallies (.client _)).place_unique here there rfl rfl

/-- In every run of a server and any number of clients, with anti-replay windows, in which nothing
is decrypted but what one of them encrypted and no session or conversation identifier is drawn
twice: what the server writes to the socket of a conversation its client received from the one
local address of the conversation and handed to `send_data_safer`, and what a client sends to a
local address the server read from the socket that it opened for the conversation of this address,
in a session of this client. Each call leads to at most one delivery. -/
theorem WorldRun.delivers_once [DecidableEq ι] {w : World d} (run : WorldRun d w)
    (distinct : ∀ i j, i ≠ j → (d.clientOptions i).constId ≠ (d.clientOptions j).constId)
    (serverEnabled : d.options.disableAntiReplay = false)
    (clientEnabled : ∀ i, (d.clientOptions i).disableAntiReplay = false)
    (authentic : Authentic w.log) (freshIds : FreshIds w.log) (freshConvs : FreshConvs w.log) :
    (∀ delivery socket bytes myId seq,
      w.log[delivery]? = some (.server, .wroteSocket socket bytes myId seq) →
        ∃ call, Uplinks w.log call delivery) ∧
    (∀ call one two, Uplinks w.log call one → Uplinks w.log call two → one = two) ∧
    (∀ delivery constId addr bytes myId seq,
      w.log[delivery]? = some (.client constId, .sentTo addr bytes myId seq) →
        ∃ read, Downlinks w.log read delivery) ∧
    ∀ read one two, Downlinks w.log read one → Downlinks w.log read two → one = two := by
  obtain ⟨truthful, delivers, -⟩ := run.holds (deliveries d distinct serverEnabled clientEnabled)
    ⟨authentic, freshIds⟩
  have sockets := delivers.sockets
  refine ⟨?_, fun _ _ _ => truthful.uplink_once, ?_, fun _ _ _ => truthful.downlink_once⟩
  · exact fun _ _ _ _ _ => truthful.uplink sockets authentic freshIds freshConvs
  · exact fun _ _ _ _ _ _ => truthful.downlink sockets authentic freshIds freshConvs

/-! ### A datagram each way -/

/-- A server and one client, whose numbers start at five. -/
def talkDeployment : Deployment .ipv4 Unit :=
  { metDeployment with
    answers := fun _ => { Answer.plain with rawTime := 5000000, word64 := 50 }
    clientAnswers := fun _ asked => { metAnswers asked with word64 := 50 } }

/-- The client captures the last packet of the server. -/
def heardByClient (w : World talkDeployment) : ClientEvent :=
  .raw (some (lastCapture plainServer w.server.1))

/-- The server captures the last packet of the client. -/
def heardByServer (w : World talkDeployment) : EpollEvent :=
  ⟨4, (w.client ()).map fun state => lastCapture plainClient state.1, none⟩

/-- The client starts and connects, and sends its second handshake. -/
def greetedWorld : Option (World talkDeployment) := do
  let w ← (World.start talkDeployment).connects ()
  let w ← w.clientGoes () .timer
  let w ← w.serverGoes (heardByServer w)
  let w ← w.clientGoes () (heardByClient w)
  let w ← w.serverGoes (heardByServer w)
  w.clientGoes () (heardByClient w)

/-- The same, with the tables of the server written out. -/
def World.greeted (w : World talkDeployment) : World talkDeployment :=
  { w with server := (w.server.1, { w.server.2 with mp := metEntry, constIdMp := ∅ }) }

/-- They get there. -/
theorem greetedWorld_run {w : World talkDeployment} (greeted : greetedWorld = some w) :
    WorldRun talkDeployment w.greeted := by
  have written : greetedWorld.all fun w => decide (w.server.2.mp.entries = metEntry.entries ∧
      w.server.2.constIdMp.entries = []) := by
    decide +kernel
  rw [greeted, Option.all_some, decide_eq_true_eq] at written
  simp only [greetedWorld, bind, Option.bind_eq_some_iff] at greeted
  obtain ⟨_, one, _, two, _, three, _, four, _, five, six⟩ := greeted
  have started := (WorldRun.start.connects one).clientGoes two
  have run := (((started.serverGoes three).clientGoes four).serverGoes five).clientGoes six
  obtain ⟨log, arrivals, ⟨m, s⟩, client⟩ := w
  have mp : s.mp = metEntry := AList.ext written.1
  have constIdMp : s.constIdMp = ∅ := AList.ext written.2
  rwa [World.greeted, ← mp, ← constIdMp]

/-- The connection becomes ready at both ends, the client receives a datagram, the server answers
it from the new socket, and the client hears the answer. -/
def talkWorld : Option (World talkDeployment) := do
  let w ← greetedWorld.map World.greeted
  let w ← w.serverGoes (heardByServer w)
  let w ← w.clientGoes () (heardByClient w)
  let w ← w.clientGoes () (.udp (some ([1, 2], [42, 43])))
  let w ← w.serverGoes (heardByServer w)
  let w ← w.serverGoes ⟨4294967396, none, some [44]⟩
  w.clientGoes () (heardByClient w)

/-- They get there. -/
theorem talkWorld_run {w : World talkDeployment} (talk : talkWorld = some w) :
    WorldRun talkDeployment w := by
  simp only [talkWorld, bind, Option.bind_eq_some_iff, Option.map_eq_some_iff] at talk
  obtain ⟨_, ⟨_, greeted, rfl⟩, _, one, _, two, _, three, _, four, _, five, six⟩ := talk
  have ready := ((greetedWorld_run greeted).serverGoes one).clientGoes two
  exact (((ready.clientGoes three).serverGoes four).serverGoes five).clientGoes six

/-- The messages of the handshake. -/
def talkMessage (id1 id2 id3 : UInt32) : Bytes := bareMessage 50 50 (numbersToChar id1 id2 id3)

/-- The first heartbeats of the two. -/
def talkHeartbeat (myId oppsiteId : UInt32) (roller : UInt8) : Bytes :=
  saferMessage myId oppsiteId 5 typeHeartbeat roller []

/-- Their first datagrams. -/
def talkData (myId oppsiteId : UInt32) (roller : UInt8) (bytes : Bytes) : Bytes :=
  saferMessage myId oppsiteId 6 typeData roller (BigEndian.encode 4 3 ++ bytes)

/-- What the two did. -/
def talkLog : Log .ipv4 :=
  entries (.client 7) [.drewMyId 8, .drewMyId 6, .entered .tcpHandshake, .rawPayload []] ++
  entries .server [.rawPayload []] ++
  entries (.client 7) [.entered .handshake1, .rawPayload [],
    .encrypted (talkMessage 6 0 7) (talkMessage 6 0 7), .rawPayload (talkMessage 6 0 7)] ++
  entries .server [.decrypted (talkMessage 6 0 7) (talkMessage 6 0 7), .drewMyId 5,
    .created metPeer 5, .encrypted (talkMessage 5 6 9) (talkMessage 5 6 9),
    .rawPayload (talkMessage 5 6 9)] ++
  entries (.client 7) [.decrypted (talkMessage 5 6 9) (talkMessage 5 6 9), .answered 6 5,
    .entered .handshake2, .handshake2 6 5, .encrypted (talkMessage 6 5 7) (talkMessage 6 5 7),
    .rawPayload (talkMessage 6 5 7)] ++
  entries .server [.decrypted (talkMessage 6 5 7) (talkMessage 6 5 7),
    .becameReady 7 metPeer 5 6, .encrypted (talkHeartbeat 5 6 0) (talkHeartbeat 5 6 0),
    .rawPayload (BigEndian.encode 2 18 ++ talkHeartbeat 5 6 0)] ++
  entries (.client 7) [.decrypted (talkHeartbeat 5 6 0) (talkHeartbeat 5 6 0), .accepted 6 5 5,
    .entered .ready, .encrypted (talkHeartbeat 6 5 1) (talkHeartbeat 6 5 1),
    .rawPayload (BigEndian.encode 2 18 ++ talkHeartbeat 6 5 1), .received [1, 2] [42, 43],
    .createdConv 3 [1, 2], .sendDataSafer 6 5 3 [42, 43],
    .encrypted (talkData 6 5 1 [42, 43]) (talkData 6 5 1 [42, 43]),
    .rawPayload (BigEndian.encode 2 24 ++ talkData 6 5 1 [42, 43])] ++
  entries .server [.decrypted (talkData 6 5 1 [42, 43]) (talkData 6 5 1 [42, 43]),
    .accepted 5 6 6, .openedSocket 7 3 1, .wroteSocket 1 [42, 43] 5 6, .readSocket 1 [44],
    .sendDataSafer 5 6 3 [44], .encrypted (talkData 5 6 0 [44]) (talkData 5 6 0 [44]),
    .rawPayload (BigEndian.encode 2 23 ++ talkData 5 6 0 [44])] ++
  entries (.client 7) [.decrypted (talkData 5 6 0 [44]) (talkData 5 6 0 [44]), .accepted 6 5 6,
    .sentTo [1, 2] [44] 6 6]

/-- They did it. -/
theorem talkWorld_log : talkWorld.map World.log = some talkLog := by decide +kernel

/-- Both datagrams came out where they should. -/
theorem delivers_once_talk : ∃ w, talkWorld = some w ∧
    w.log[37]? = some (.server, .wroteSocket 1 [42, 43] 5 6) ∧
    w.log[44]? = some (.client 7, .sentTo [1, 2] [44] 6 6) ∧
    (∀ delivery socket bytes myId seq,
      w.log[delivery]? = some (.server, .wroteSocket socket bytes myId seq) →
        ∃ call, Uplinks w.log call delivery) ∧
    (∀ call one two, Uplinks w.log call one → Uplinks w.log call two → one = two) ∧
    (∀ delivery constId addr bytes myId seq,
      w.log[delivery]? = some (.client constId, .sentTo addr bytes myId seq) →
        ∃ read, Downlinks w.log read delivery) ∧
    ∀ read one two, Downlinks w.log read one → Downlinks w.log read two → one = two := by
  obtain ⟨w, talk, log⟩ := Option.map_eq_some_iff.mp talkWorld_log
  have wrote : talkLog[37]? = some (.server, .wroteSocket 1 [42, 43] 5 6) := by decide +kernel
  have sent : talkLog[44]? = some (.client 7, .sentTo [1, 2] [44] 6 6) := by decide +kernel
  have authentic : Authentic talkLog := by decide +kernel
  have drawn : (talkLog.filterMap fun entry => entry.2.drawn) = [8, 6, 5] := by decide +kernel
  have created : (talkLog.filterMap fun entry => entry.2.conversation) = [3] := by decide +kernel
  have freshIds : FreshIds talkLog := by
    rw [FreshIds, drawn]
    decide
  have freshConvs : FreshConvs talkLog := by
    rw [FreshConvs, created]
    decide
  rw [← log] at wrote sent authentic freshIds freshConvs
  exact ⟨w, talk, wrote, sent, (talkWorld_run talk).delivers_once
    (fun _ _ different => absurd rfl different) rfl (fun _ => rfl) authentic freshIds freshConvs⟩

end Udp2raw
