import Udp2raw.Connection.Session
import Udp2raw.Client.Handlers

/-!
# Steps of the client

Every callback of the client is a sequence of the steps below. The client may also send a
heartbeat after it gave its session up, because one branch of its timer does not return; a
sequence of steps is lenient or not about that.
-/
namespace Udp2raw

variable {v : IpVersion} {options : Options v}

/-- A connection in the same state and session, with the same window and conversations. -/
structure ConnInfo.Steady {σ τ : Type} [DecidableEq τ] (before after : ConnInfo options σ τ) :
    Prop where
  /-- It is in the same state. -/
  state : after.state = before.state
  /-- It has the same identifier. -/
  myId : after.myId = before.myId
  /-- The other end has the same identifier. -/
  oppsiteId : after.oppsiteId = before.oppsiteId
  /-- It has the same window and the same conversations. -/
  blob : Option.Rel (fun old new => new.antiReplay = old.antiReplay ∧
    old.convManager.SameConvs new.convManager) before.blob after.blob

/-- The client in the middle of a callback. -/
structure ClientStage (options : Options v) where
  /-- The shared state of the process. -/
  machine : Machine v
  /-- The client. -/
  client : Client options
  /-- The accepted messages that are not handled yet. -/
  inbox : List Pending

/-- The client with a changed connection. -/
def Client.withConn (client : Client options) (conn : ClientConn options) : Client options :=
  { client with conn }

/-- One step of the client. -/
inductive ClientStep (lenient : Prop) : ClientStage options → ClientStage options → Prop
  /-- A packet was looked at or sent, or a time was noted. -/
  | quiet {m m' : Machine v} {c c' : Client options} {inbox : List Pending}
      {events : List (Event v)} :
      Minor events → c.conn.Steady c'.conn → Went events m m' →
      ClientStep lenient ⟨m, c, inbox⟩ ⟨m', c', inbox⟩
  /-- The packet filter got another port. -/
  | refiltered {m : Machine v} {c : Client options} {inbox : List Pending} {filterPort : UInt16} :
      ClientStep lenient ⟨m, c, inbox⟩ ⟨{ m with filterPort }, c, inbox⟩
  /-- A datagram was received. -/
  | received {m m' : Machine v} {c : Client options} {inbox : List Pending} {addr : LocalAddress}
      {bytes : Bytes} :
      Went [.received addr bytes] m m' → ClientStep lenient ⟨m, c, inbox⟩ ⟨m', c, inbox⟩
  /-- The connection was given up. -/
  | gaveUp {m m' : Machine v} {c : Client options} {inbox : List Pending} :
      Went [.entered .idle] m m' →
      ClientStep lenient ⟨m, c, inbox⟩ ⟨m', c.withConn { c.conn with state := .idle }, inbox⟩
  /-- The connection got a new identifier. -/
  | redrew {m m' : Machine v} {c : Client options} {inbox : List Pending} {myId : UInt32} :
      c.conn.state = .idle → myId ≠ 0 → Went [.drewMyId myId] m m' →
      ClientStep lenient ⟨m, c, inbox⟩ ⟨m', c.withConn { c.conn with myId }, inbox⟩
  /-- The last session was forgotten: the window was emptied and the connection got a new
  identifier. -/
  | forgot {m m' : Machine v} {c : Client options} {inbox : List Pending}
      {blob : Blob LocalAddress} {myId : UInt32} :
      c.conn.state = .idle → c.conn.blob = some blob → myId ≠ 0 → Went [.drewMyId myId] m m' →
      ClientStep lenient ⟨m, c, inbox⟩
        ⟨m', c.withConn { c.conn.withAntiReplay blob blob.antiReplay.reInit with myId }, inbox⟩
  /-- The client began to connect. -/
  | began {m m' : Machine v} {c : Client options} {inbox : List Pending} {state : ClientState} :
      c.conn.state ∈ [ClientState.idle, .tcpHandshake, .tcpHandshakeDummy] →
      state ∈ [ClientState.tcpHandshake, .tcpHandshakeDummy, .handshake1] →
      Went [.entered state] m m' →
      ClientStep lenient ⟨m, c, inbox⟩ ⟨m', c.withConn { c.conn with state }, inbox⟩
  /-- The first handshake was sent. -/
  | sentHandshake1 {m m' : Machine v} {c : Client options} {inbox : List Pending}
      {next : ClientConn options} {events : List (Event v)} :
      c.conn.state = .handshake1 → c.conn.Steady next →
      BareEvents c.conn.myId 0 options.constId events → Went events m m' →
      ClientStep lenient ⟨m, c, inbox⟩ ⟨m', c.withConn next, inbox⟩
  /-- The first handshake was answered. -/
  | answered {m m' : Machine v} {c : Client options} {inbox : List Pending} {id1 id3 : UInt32} :
      c.conn.state = .handshake1 → HeardHandshake m.log m.self id1 c.conn.myId id3 →
      Went [.answered c.conn.myId id1, .entered .handshake2] m m' →
      ClientStep lenient ⟨m, c, inbox⟩
        ⟨m', c.withConn { c.conn with oppsiteId := id1, state := .handshake2 }, inbox⟩
  /-- The second handshake was sent. -/
  | sentHandshake2 {m m' : Machine v} {c : Client options} {inbox : List Pending}
      {next : ClientConn options} {events : List (Event v)} :
      c.conn.state = .handshake2 → c.conn.Steady next →
      BareEvents c.conn.myId c.conn.oppsiteId options.constId events →
      Went (.handshake2 c.conn.myId c.conn.oppsiteId :: events) m m' →
      ClientStep lenient ⟨m, c, inbox⟩ ⟨m', c.withConn next, inbox⟩
  /-- The window accepted a message. -/
  | accepted {m m' : Machine v} {c : Client options} {inbox : List Pending}
      {next : ClientConn options} {blob : Blob LocalAddress} {antiReplay : AntiReplay}
      {input message : Bytes} {seq : UInt64} {frame : Option Frame} :
      c.conn.state ∈ [ClientState.handshake2, .ready] → c.conn.blob = some blob →
      blob.antiReplay.isVaild options.disableAntiReplay seq = (true, antiReplay) →
      (c.conn.withAntiReplay blob antiReplay).Steady next →
      (∀ found ∈ frame, SaferContent message c.conn.myId c.conn.oppsiteId found ∧
        found.seq = seq) →
      Went [.decrypted input message, .accepted c.conn.myId c.conn.oppsiteId seq] m m' →
      ClientStep lenient ⟨m, c, inbox⟩ ⟨m', c.withConn next,
        inbox ++ frame.toList.map fun found => ⟨c.conn.myId, c.conn.oppsiteId, found⟩⟩
  /-- A message completed the handshake. -/
  | becameReady {m m' : Machine v} {c : Client options} {inbox : List Pending}
      {pending : Pending} :
      c.conn.state = .handshake2 → Went [.entered .ready] m m' →
      ClientStep lenient ⟨m, c, pending :: inbox⟩
        ⟨m', c.withConn { c.conn with state := .ready }, pending :: inbox⟩
  /-- A heartbeat was sent. -/
  | heartbeat {m m' : Machine v} {c : Client options} {inbox : List Pending}
      {next : ClientConn options} {blob : Blob LocalAddress} {data : Bytes}
      {events : List (Event v)} :
      c.conn.state = .ready ∨ lenient → c.conn.blob = some blob →
      (c.conn.numbered blob).Steady next →
      SaferEvents c.conn.myId c.conn.oppsiteId blob.antiReplay.antiReplaySeq typeHeartbeat data
        events →
      Went events m m' → ClientStep lenient ⟨m, c, inbox⟩ ⟨m', c.withConn next, inbox⟩
  /-- A local address got a conversation. -/
  | createdConv {m m' : Machine v} {c : Client options} {inbox : List Pending}
      {blob : Blob LocalAddress} {convs : ConvManager LocalAddress} {conv : UInt32}
      {addr : LocalAddress} :
      c.conn.blob = some blob → conv ∉ blob.convManager.convToData →
      addr ∉ blob.convManager.dataToConv →
      convs.dataToConv = blob.convManager.dataToConv.insert addr conv →
      convs.convToData = blob.convManager.convToData.insert conv addr →
      convs.lru.keys = conv :: blob.convManager.lru.keys →
      Went [.createdConv conv addr] m m' →
      ClientStep lenient ⟨m, c, inbox⟩ ⟨m', c.withConn (c.conn.withConvs blob convs), inbox⟩
  /-- A datagram of a local address was sent to the server. -/
  | forwarded {m m' : Machine v} {c : Client options} {inbox : List Pending}
      {next : ClientConn options} {blob : Blob LocalAddress} {conv : UInt32}
      {addr : LocalAddress} {bytes : Bytes} {events : List (Event v)} :
      c.conn.state = .ready → c.conn.blob = some blob →
      blob.convManager.dataToConv.lookup addr = some conv →
      (m.self, Event.received addr bytes) ∈ m.log → (c.conn.numbered blob).Steady next →
      SaferEvents c.conn.myId c.conn.oppsiteId blob.antiReplay.antiReplaySeq typeData
        (BigEndian.encode 4 conv.toNat ++ bytes) events →
      Went (.sendDataSafer c.conn.myId c.conn.oppsiteId conv bytes :: events) m m' →
      ClientStep lenient ⟨m, c, inbox⟩ ⟨m', c.withConn next, inbox⟩
  /-- An accepted message was handled without a delivery. -/
  | skipped {m : Machine v} {c : Client options} {inbox : List Pending} {pending : Pending} :
      ClientStep lenient ⟨m, c, pending :: inbox⟩ ⟨m, c, inbox⟩
  /-- An accepted message was delivered. -/
  | delivered {m m' : Machine v} {c : Client options} {inbox : List Pending} {pending : Pending}
      {blob : Blob LocalAddress} {addr : LocalAddress} :
      c.conn.blob = some blob →
      blob.convManager.convToData.lookup (idAt pending.frame.data 0) = some addr →
      pending.frame.type = typeData → 4 ≤ pending.frame.data.length →
      Went [.sentTo addr (pending.frame.data.drop 4) pending.myId pending.frame.seq] m m' →
      ClientStep lenient ⟨m, c, pending :: inbox⟩ ⟨m', c, inbox⟩
  /-- An idle conversation was forgotten. -/
  | evicted {m : Machine v} {c : Client options} {inbox : List Pending}
      {blob : Blob LocalAddress} {convs : ConvManager LocalAddress} :
      c.conn.blob = some blob →
      ConvManager.Erased clientClearFunction (blob.convManager, ()) (convs, ()) →
      ClientStep lenient ⟨m, c, inbox⟩ ⟨m, c.withConn (c.conn.withConvs blob convs), inbox⟩

/-- The process went on, and the packet filter may have got another port. -/
def Advanced (events : List (Event v)) (before after : Machine v) : Prop :=
  ∃ filterPort, Went events { before with filterPort } after

/-- A part of a run with the same packet filter. -/
theorem Went.advanced {events : List (Event v)} {m m' : Machine v} (went : Went events m m') :
    Advanced events m m' := ⟨m.filterPort, went⟩

/-- Two parts of a run. -/
theorem Advanced.trans {first second : List (Event v)} {a b c : Machine v}
    (one : Advanced first a b) (two : Advanced second b c) : Advanced (first ++ second) a c := by
  obtain ⟨_, one⟩ := one
  obtain ⟨filterPort, two⟩ := two
  have early : Went first { a with filterPort } { b with filterPort } :=
    ⟨⟨one.self, one.answers, rfl, one.clock, one.log⟩, one.packetBufCnt⟩
  exact ⟨filterPort, early.trans two⟩

/-- Every step moves the process forward. -/
theorem ClientStep.advanced {lenient : Prop} {one two : ClientStage options}
    (step : ClientStep lenient one two) : ∃ events, Advanced events one.machine two.machine := by
  cases step with
  | skipped | evicted => exact ⟨[], (Went.refl _).advanced⟩
  | refiltered => exact ⟨[], _, .refl _⟩
  | quiet _ _ went => exact ⟨_, went.advanced⟩
  | received went => exact ⟨_, went.advanced⟩
  | gaveUp went => exact ⟨_, went.advanced⟩
  | redrew _ _ went => exact ⟨_, went.advanced⟩
  | forgot _ _ _ went => exact ⟨_, went.advanced⟩
  | began _ _ went => exact ⟨_, went.advanced⟩
  | sentHandshake1 _ _ _ went => exact ⟨_, went.advanced⟩
  | answered _ _ went => exact ⟨_, went.advanced⟩
  | sentHandshake2 _ _ _ went => exact ⟨_, went.advanced⟩
  | accepted _ _ _ _ _ went => exact ⟨_, went.advanced⟩
  | becameReady _ went => exact ⟨_, went.advanced⟩
  | heartbeat _ _ _ _ went => exact ⟨_, went.advanced⟩
  | createdConv _ _ _ _ _ _ went => exact ⟨_, went.advanced⟩
  | forwarded _ _ _ _ _ _ went => exact ⟨_, went.advanced⟩
  | delivered _ _ _ _ went => exact ⟨_, went.advanced⟩

/-- A sequence of steps of the client. -/
abbrev ClientSteps (lenient : Prop) (before after : ClientStage options) : Prop :=
  Relation.ReflTransGen (ClientStep lenient) before after

/-- Every sequence of steps moves the process forward. -/
theorem ClientSteps.advanced {lenient : Prop} {one two : ClientStage options}
    (steps : ClientSteps lenient one two) :
    ∃ events, Advanced events one.machine two.machine := by
  induction steps with
  | refl => exact ⟨[], (Went.refl _).advanced⟩
  | tail _ last ih =>
    obtain ⟨first, before⟩ := ih
    obtain ⟨second, after⟩ := last.advanced
    exact ⟨first ++ second, before.trans after⟩

/-- What a step keeps is kept by a sequence of steps. -/
theorem ClientSteps.keeps {lenient : Prop} (good : Machine v → Client options → Prop)
    (step : ∀ {one two : ClientStage options}, ClientStep lenient one two →
      good one.machine one.client → good two.machine two.client)
    {one two : ClientStage options} (steps : ClientSteps lenient one two)
    (start : good one.machine one.client) : good two.machine two.client := by
  induction steps with
  | refl => exact start
  | tail _ last ih => exact step last ih

namespace ConnInfo.Steady

variable {σ τ : Type} [DecidableEq τ] {a b c : ConnInfo options σ τ}

/-- Standing still. -/
theorem refl (conn : ConnInfo options σ τ) : Steady conn conn :=
  ⟨rfl, rfl, rfl, ConnInfo.rel_of_eq (fun _ => ⟨rfl, .refl _⟩) rfl⟩

/-- A connection that only sent or received is steady. -/
theorem of_kept (kept : a.Kept b) : Steady a b :=
  ⟨kept.state, kept.myId, kept.oppsiteId,
    ConnInfo.rel_of_eq (fun _ => ⟨rfl, .refl _⟩) kept.blob⟩

/-- A connection whose conversations were used is steady. -/
theorem of_withConvs {blob : Blob τ} {convs : ConvManager τ} (allocated : a.blob = some blob)
    (same : blob.convManager.SameConvs convs) : Steady a (a.withConvs blob convs) := by
  refine ⟨rfl, rfl, rfl, ?_⟩
  rw [allocated]
  exact .some ⟨rfl, same⟩

end ConnInfo.Steady

end Udp2raw
