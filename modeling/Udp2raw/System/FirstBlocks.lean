import Udp2raw.Client.FirstBlocks
import Udp2raw.Server.FirstBlocks
import Udp2raw.Server.Safety

/-!
# First blocks of one key

A server and its clients encrypt under one key, with an initialization vector of zeros. The first
block of a message that `send_safer` encrypts holds the identifier of its sender and a number, and
neither a recovery nor a reconnection lets the two come together again.
-/
namespace Udp2raw

variable {v : IpVersion} {ι α : Type}

/-- No list has a repetition, and no two lists have a common member. -/
structure NoRepeats (lists : ι → List α) : Prop where
  /-- No list has a repetition. -/
  nodup : ∀ i, (lists i).Nodup
  /-- No two lists have a common member. -/
  disjoint : ∀ i j, i ≠ j → (lists i).Disjoint (lists j)

/-- Two lists without a repetition and without a common member. -/
theorem NoRepeats.of_pair {lists : Option Unit → List α} (first : (lists none).Nodup)
    (second : (lists (some ())).Nodup) (apart : (lists none).Disjoint (lists (some ()))) :
    NoRepeats lists := by
  refine ⟨fun i => ?_, fun i j different => ?_⟩
  · rcases i with _ | ⟨⟩
    · exact first
    · exact second
  · rcases i with _ | ⟨⟩ <;> rcases j with _ | ⟨⟩
    · contradiction
    · exact apart
    · exact fun _ here there => apart there here
    · contradiction

/-- What a server does in some run. -/
def ServerRecord (events : List (Event v)) : Prop :=
  ∃ (options : Options v) (standing : Standing) (answers : Nat → Answer v) (filterPort : UInt16)
    (state : Machine v × Server options), ServerRun options standing answers filterPort state ∧
    events = eventsOf state.1.self state.1.log

/-- What a client does in some run. -/
def ClientRecord (events : List (Event v)) : Prop :=
  ∃ (options : Options v) (route : ClientOptions v) (answers : Nat → Answer v)
    (filterPort : UInt16) (history : List (ClientEvent × (Machine v × Client options)))
    (state : Machine v × Client options),
    ClientRun options route answers filterPort history state ∧
    events = eventsOf state.1.self state.1.log

/-- What an endpoint with distinct identifiers calls `send_safer` with. -/
structure Counted (events : List (Event v)) : Prop where
  /-- It draws the identifiers of its calls. -/
  drawn : ∀ call ∈ callsOf events, call.1 ∈ drawnIds events
  /-- It uses no number of an identifier twice. -/
  nodup : (callsOf events).Nodup

/-- A server counts. -/
theorem ServerRecord.counted {events : List (Event v)} (record : ServerRecord events)
    (once : (drawnIds events).Nodup) (few : (saferCalls events).length < 2 ^ 64) :
    Counted events := by
  obtain ⟨options, standing, answers, filterPort, state, run, rfl⟩ := record
  have counts := run.counts once
  exact ⟨counts.drawn, counts.nodup few⟩

/-- A client counts. -/
theorem ClientRecord.counted {events : List (Event v)} (record : ClientRecord events)
    (few : (saferCalls events).length < 2 ^ 64) : Counted events := by
  obtain ⟨options, route, answers, filterPort, history, state, run, rfl⟩ := record
  have counts := run.counts
  exact ⟨counts.drawn, counts.nodup few⟩

/-- A first block tells the identifier and the number. -/
theorem mem_callsOf_of_block {events : List (Event v)} {block : Bytes}
    (inside : block ∈ (saferCalls events).map fun message => message.take 16) :
    ∃ message, block = message.take 16 ∧ saferNumber message ∈ callsOf events := by
  obtain ⟨message, called, rfl⟩ := List.mem_map.mp inside
  exact ⟨message, rfl, List.mem_map_of_mem called⟩

/-- In every run of a server and any number of clients that draw no identifier twice and call
`send_safer` fewer than 2^64 times each, no two calls encrypt messages with the same first block. -/
theorem firstBlocks_noRepeats {events : Option ι → List (Event v)}
    (server : ServerRecord (events none)) (clients : ∀ i, ClientRecord (events (some i)))
    (fresh : NoRepeats fun i => drawnIds (events i))
    (few : ∀ i, (saferCalls (events i)).length < 2 ^ 64) :
    NoRepeats fun i => (saferCalls (events i)).map fun message => message.take 16 := by
  have counted (i : Option ι) : Counted (events i) := by
    cases i with
    | none => exact server.counted (fresh.nodup none) (few none)
    | some i => exact (clients i).counted (few (some i))
  refine ⟨fun i => ?_, fun i j different block here there => ?_⟩
  · have numbers := (counted i).nodup
    refine List.Nodup.map_on ?_ numbers.of_map
    intro one first two second same
    exact List.inj_on_of_nodup_map numbers first second (saferNumber_take same)
  · obtain ⟨one, rfl, first⟩ := mem_callsOf_of_block here
    obtain ⟨two, same, second⟩ := mem_callsOf_of_block there
    rw [saferNumber_take same] at first
    exact fresh.disjoint i j different ((counted i).drawn _ first) ((counted j).drawn _ second)

/-- The answers of a system whose client draws two identifiers. -/
def pairAnswers (asked : Nat) : Answer .ipv4 :=
  { Answer.plain with
    rawTime := 5000000
    nonzero := if asked < 16 then ⟨8, by decide⟩ else ⟨6, by decide⟩
    draws := [⟨4, by decide⟩] }

/-- A client starts. -/
theorem pairStart_goes : (resultOf (clientStart silentOptions silentRoute)
    (.start (.client 7) pairAnswers 0)).isSome = true := by
  decide +kernel

/-- The client that started. -/
def pairStart : Machine .ipv4 × Client silentOptions :=
  (leaves (clientStart silentOptions silentRoute) (.start (.client 7) pairAnswers 0),
    (resultOf (clientStart silentOptions silentRoute) (.start (.client 7) pairAnswers 0)).get
      pairStart_goes)

/-- It connects and becomes ready, and a local peer sends a datagram. -/
def pairEvents : List ClientEvent :=
  [.timer, silentReply 57 [38, 194] [94, 233] 1 (bareMessage 0 0 (numbersToChar 9 6 9)),
    silentReply 46 [38, 205] [112, 216] 2 (saferMessage 9 6 1 typeHeartbeat 0 []),
    .udp (some ([1, 2], [42, 43]))]

/-- It handles these events. -/
theorem pairEvents_goes : (clientGoes silentRoute pairEvents pairStart).isSome = true := by
  decide +kernel

/-- The client, when it sent a heartbeat and the datagram. -/
def pairClient : Machine .ipv4 × Client silentOptions :=
  (clientGoes silentRoute pairEvents pairStart).get pairEvents_goes

/-- The client got there. -/
theorem pairClient_run :
    ∃ history, ClientRun silentOptions silentRoute pairAnswers 0 history pairClient :=
  (ClientRun.start (returns_of_resultOf (Option.some_get pairStart_goes).symm)).goes
    (Option.some_get pairEvents_goes).symm

/-- A server that got ready for a client. -/
theorem pairServer_run :
    ServerRun droppingOptions plainStanding clockAnswers 4096 (readyFor 7) := by
  have first : ServerRun droppingOptions plainStanding clockAnswers 4096 waiting := by
    rw [waiting_eq]
    exact ServerRun.start.event (returns_of_resultOf heardFirst_goes)
  rw [readyForSeven_eq]
  exact first.event (returns_of_resultOf heardSeven_goes)

/-- What the two did. -/
def pairRecord : Option Unit → List (Event .ipv4)
  | none => eventsOf (readyFor 7).1.self (readyFor 7).1.log
  | some _ => eventsOf pairClient.1.self pairClient.1.log

/-- The server sent a heartbeat, the client a heartbeat and a datagram, and no first block comes
twice. -/
theorem firstBlocks_pair : (saferCalls (pairRecord none)).length = 1 ∧
    (saferCalls (pairRecord (some ()))).length = 2 ∧
    NoRepeats fun i => (saferCalls (pairRecord i)).map fun message => message.take 16 := by
  have server : (saferCalls (pairRecord none)).length = 1 := by decide +kernel
  have client : (saferCalls (pairRecord (some ()))).length = 2 := by decide +kernel
  have drewServer : drawnIds (pairRecord none) = [5] := by decide +kernel
  have drewClient : drawnIds (pairRecord (some ())) = [8, 6] := by decide +kernel
  have few (i : Option Unit) : (saferCalls (pairRecord i)).length < 2 ^ 64 := by
    rcases i with _ | ⟨⟩
    · exact Nat.lt_of_le_of_lt (Nat.le_of_eq server) (by decide)
    · exact Nat.lt_of_le_of_lt (Nat.le_of_eq client) (by decide)
  have fresh : NoRepeats fun i => drawnIds (pairRecord i) := by
    refine .of_pair ?_ ?_ ?_
    · rw [drewServer]
      decide
    · rw [drewClient]
      decide
    · rw [drewServer, drewClient]
      simp
  obtain ⟨history, run⟩ := pairClient_run
  exact ⟨server, client, firstBlocks_noRepeats ⟨_, _, _, _, _, pairServer_run, rfl⟩
    (fun _ => ⟨_, _, _, _, _, _, run, rfl⟩) fresh few⟩

end Udp2raw
