import Udp2raw.Connection.Messages
import Udp2raw.Connection.Session
import Udp2raw.Data.Numbering

/-!
# Calls of `send_safer`

What one party did can be read off the record: the messages that its calls of `send_safer`
handed to `my_encrypt`, and the session identifiers it drew. The first block of such a message
tells its identifier and its number.
-/
namespace Udp2raw

variable {v : IpVersion} {m m' : Machine v}

/-! ### The record of one party -/

/-- What one party did. -/
def eventsOf (self : Party) (log : Log v) : List (Event v) :=
  (log.filter fun entry => decide (entry.1 = self)).map Prod.snd

/-- What the party did in two parts of the record. -/
theorem eventsOf_append (self : Party) (first second : Log v) :
    eventsOf self (first ++ second) = eventsOf self first ++ eventsOf self second := by
  simp [eventsOf]

/-- What the party added to the record. -/
theorem eventsOf_entries (self : Party) (events : List (Event v)) :
    eventsOf self (entries self events) = events := by
  simp [eventsOf, entries, List.filter_map, Function.comp_def]

/-- A part of a run is at the end of what the party did. -/
theorem Logged.eventsOf {events : List (Event v)} (logged : Logged events m m') :
    eventsOf m'.self m'.log = Udp2raw.eventsOf m.self m.log ++ events := by
  rw [logged.self, logged.log, eventsOf_append, eventsOf_entries]

/-! ### Messages in the record -/

/-- The message of a call of `my_encrypt`. -/
def Event.plaintext : Event v → Option Bytes
  | .encrypted message _ => some message
  | .refused message => some message
  | _ => none

/-- The byte behind the first block tells the messages of `send_safer` from bare ones. -/
def isSafer (message : Bytes) : Bool :=
  message[16]? = some typeHeartbeat ∨ message[16]? = some typeData

/-- The messages that calls of `send_safer` handed to `my_encrypt`. -/
def saferCalls (events : List (Event v)) : List Bytes :=
  (events.filterMap Event.plaintext).filter isSafer

/-- The identifier and the number in the first block of a message. -/
def saferNumber (message : Bytes) : UInt32 × UInt64 :=
  (idAt message 0, UInt64.ofNat (BigEndian.decode ((message.take 16).drop 8)))

/-- The identifiers and numbers of the calls of `send_safer`. -/
def callsOf (events : List (Event v)) : List (UInt32 × UInt64) :=
  (saferCalls events).map saferNumber

/-- The session identifier that an event drew. -/
def Event.drawn : Event v → Option UInt32
  | .drewMyId myId => some myId
  | _ => none

/-- The session identifiers that were drawn. -/
def drawnIds (events : List (Event v)) : List UInt32 := events.filterMap Event.drawn

/-- The calls of two parts of a record. -/
theorem callsOf_append (first second : List (Event v)) :
    callsOf (first ++ second) = callsOf first ++ callsOf second := by
  simp [callsOf, saferCalls]

/-- The identifiers that were drawn in two parts of a record. -/
theorem drawnIds_append (first second : List (Event v)) :
    drawnIds (first ++ second) = drawnIds first ++ drawnIds second :=
  List.filterMap_append

/-- The identifier and the number are in the first block. -/
theorem saferNumber_take {one two : Bytes} (same : one.take 16 = two.take 16) :
    saferNumber one = saferNumber two := by
  have first (message : Bytes) : idAt message 0 = idAt (message.take 16) 0 :=
    (idAt_take message (by decide)).symm
  rw [saferNumber, saferNumber, first one, first two, same]

/-- Events without a call of `send_safer` and without a drawn identifier. -/
structure Uninvolved (events : List (Event v)) : Prop where
  /-- There is no call. -/
  calls : callsOf events = []
  /-- No identifier was drawn. -/
  drawn : drawnIds events = []

/-- Two uninvolved parts of a record. -/
theorem Uninvolved.append {first second : List (Event v)} (one : Uninvolved first)
    (two : Uninvolved second) : Uninvolved (first ++ second) := by
  refine ⟨?_, ?_⟩
  · rw [callsOf_append, one.calls, two.calls, List.nil_append]
  · rw [drawnIds_append, one.drawn, two.drawn, List.nil_append]

/-- Minor events are uninvolved. -/
theorem Minor.uninvolved {events : List (Event v)} (minor : Minor events) : Uninvolved events := by
  induction events with
  | nil => exact ⟨rfl, rfl⟩
  | cons event events ih =>
    have rest := ih fun other inside => minor other (List.mem_cons_of_mem _ inside)
    obtain ⟨_, rfl⟩ | ⟨_, _, rfl⟩ := minor event List.mem_cons_self
    · exact ⟨rest.calls, rest.drawn⟩
    · exact ⟨rest.calls, rest.drawn⟩

/-- A bare message is no message of `send_safer`. -/
theorem isSafer_bareMessage (iv padding : UInt64) (data : Bytes) :
    isSafer (bareMessage iv padding data) = false := by
  have mark := ((bareContent_iff iv padding data data).mpr rfl).mark
  rw [isSafer, mark]
  decide

/-- A handshake is uninvolved. -/
theorem BareEvents.uninvolved {id1 id2 id3 : UInt32} {events : List (Event v)}
    (bare : BareEvents id1 id2 id3 events) : Uninvolved events := by
  obtain ⟨iv, padding, rfl | ⟨output, rfl⟩⟩ := bare
  · refine ⟨?_, rfl⟩
    simp [callsOf, saferCalls, Event.plaintext, isSafer_bareMessage]
  · refine ⟨?_, rfl⟩
    simp [callsOf, saferCalls, Event.plaintext, isSafer_bareMessage]

/-- A message of `send_safer` has its type behind the first block. -/
theorem isSafer_saferMessage {myId oppsiteId : UInt32} {seq : UInt64} {type roller : UInt8}
    {data : Bytes} (known : type = typeHeartbeat ∨ type = typeData) :
    isSafer (saferMessage myId oppsiteId seq type roller data) = true := by
  rw [isSafer, type_saferMessage]
  simpa using known

/-- The first block of a message of `send_safer`. -/
theorem saferNumber_saferMessage (myId oppsiteId : UInt32) (seq : UInt64) (type roller : UInt8)
    (data : Bytes) :
    saferNumber (saferMessage myId oppsiteId seq type roller data) = (myId, seq) := by
  rw [saferNumber, seq_saferMessage, (idAt_saferMessage _ _ _ _ _ _).1]

/-- A safer message is one call. -/
theorem SaferEvents.calls {myId oppsiteId : UInt32} {seq : UInt64} {type : UInt8} {data : Bytes}
    {events : List (Event v)} (safer : SaferEvents myId oppsiteId seq type data events)
    (known : type = typeHeartbeat ∨ type = typeData) :
    callsOf events = [(myId, seq)] ∧ drawnIds events = [] := by
  obtain ⟨roller, rfl | ⟨output, frame, rfl⟩⟩ := safer
  · refine ⟨?_, rfl⟩
    simp [callsOf, saferCalls, Event.plaintext, isSafer_saferMessage known,
      saferNumber_saferMessage]
  · refine ⟨?_, rfl⟩
    simp [callsOf, saferCalls, Event.plaintext, isSafer_saferMessage known,
      saferNumber_saferMessage]

end Udp2raw
