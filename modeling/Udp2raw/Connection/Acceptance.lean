import Udp2raw.Connection.SaferCalls

/-!
# Accepted messages

A window accepts every number of a session once. The message waits until it is handled, and at
most one datagram comes out of it. So the datagrams that a party gives out come from different
messages.
-/
namespace Udp2raw

variable {v : IpVersion} {events added : List (Event v)} {inbox : List Pending}

/-- The identifier and the number that a window accepted. -/
def Event.admitted : Event v → Option (UInt32 × UInt64)
  | .accepted myId _ seq => some (myId, seq)
  | _ => none

/-- The identifier and the number of the message that a datagram came out of. -/
def Event.emitted : Event v → Option (UInt32 × UInt64)
  | .wroteSocket _ _ myId seq => some (myId, seq)
  | .sentTo _ _ myId seq => some (myId, seq)
  | _ => none

/-- The numbers that a party accepted. -/
def admittedKeys (events : List (Event v)) : List (UInt32 × UInt64) :=
  events.filterMap Event.admitted

/-- The numbers of the messages that it gave datagrams out of. -/
def emittedKeys (events : List (Event v)) : List (UInt32 × UInt64) :=
  events.filterMap Event.emitted

/-- The identifier and the number of a message that waits. -/
def Pending.key (pending : Pending) : UInt32 × UInt64 := (pending.myId, pending.frame.seq)

/-- What was accepted in two parts of a record. -/
theorem admittedKeys_append (first second : List (Event v)) :
    admittedKeys (first ++ second) = admittedKeys first ++ admittedKeys second :=
  List.filterMap_append

/-- What was given out in two parts of a record. -/
theorem emittedKeys_append (first second : List (Event v)) :
    emittedKeys (first ++ second) = emittedKeys first ++ emittedKeys second :=
  List.filterMap_append

/-- Events that accept nothing and give nothing out. -/
structure Silent (events : List (Event v)) : Prop where
  /-- Nothing is accepted. -/
  admitted : admittedKeys events = []
  /-- Nothing is given out. -/
  emitted : emittedKeys events = []

/-- Minor events are silent. -/
theorem Minor.silent (minor : Minor events) : Silent events := by
  refine ⟨List.filterMap_eq_nil_iff.mpr ?_, List.filterMap_eq_nil_iff.mpr ?_⟩
  · intro event inside
    obtain ⟨_, rfl⟩ | ⟨_, _, rfl⟩ := minor event inside <;> rfl
  · intro event inside
    obtain ⟨_, rfl⟩ | ⟨_, _, rfl⟩ := minor event inside <;> rfl

/-- A handshake is silent. -/
theorem BareEvents.silent {id1 id2 id3 : UInt32} (bare : BareEvents id1 id2 id3 events) :
    Silent events := by
  obtain ⟨_, _, rfl | ⟨_, rfl⟩⟩ := bare <;> exact ⟨rfl, rfl⟩

/-- A safer message that is sent is silent. -/
theorem SaferEvents.silent {myId oppsiteId : UInt32} {seq : UInt64} {type : UInt8} {data : Bytes}
    (safer : SaferEvents myId oppsiteId seq type data events) : Silent events := by
  obtain ⟨_, rfl | ⟨_, _, rfl⟩⟩ := safer <;> exact ⟨rfl, rfl⟩

/-- The messages that a party accepted, gave out and has waiting. -/
structure Tally (events : List (Event v)) (inbox : List Pending) : Prop where
  /-- It drew the identifiers that it accepted messages for. -/
  drawn : ∀ key ∈ admittedKeys events, key.1 ∈ drawnIds events
  /-- No message was given out twice or waits after it was given out. -/
  once : (emittedKeys events ++ inbox.map Pending.key).Nodup
  /-- All of them were accepted. -/
  accepted : ∀ key ∈ emittedKeys events ++ inbox.map Pending.key, key ∈ admittedKeys events

namespace Tally

/-- A party that did nothing. -/
theorem nil : Tally ([] : List (Event v)) [] :=
  ⟨List.forall_mem_nil _, List.nodup_nil, List.forall_mem_nil _⟩

/-- More of the run, with fewer messages that wait. -/
theorem goes {left : List Pending} (tally : Tally events inbox)
    (admitted : admittedKeys added = [])
    (fewer : (emittedKeys added ++ left.map Pending.key).Sublist (inbox.map Pending.key)) :
    Tally (events ++ added) left := by
  have same : admittedKeys (events ++ added) = admittedKeys events := by
    rw [admittedKeys_append, admitted, List.append_nil]
  have part : (emittedKeys (events ++ added) ++ left.map Pending.key).Sublist
      (emittedKeys events ++ inbox.map Pending.key) := by
    rw [emittedKeys_append, List.append_assoc]
    exact (List.append_sublist_append_left _).mpr fewer
  refine ⟨fun key inside => ?_, tally.once.sublist part, fun key inside => ?_⟩
  · rw [same] at inside
    rw [drawnIds_append]
    exact List.mem_append_left _ (tally.drawn key inside)
  · rw [same]
    exact tally.accepted key (part.subset inside)

/-- More of the run that accepts nothing and gives nothing out. -/
theorem silent (tally : Tally events inbox) (silent : Silent added) :
    Tally (events ++ added) inbox := by
  refine tally.goes silent.admitted ?_
  rw [silent.emitted, List.nil_append]

/-- A message that waited gave a datagram out. -/
theorem emit {pending : Pending} (tally : Tally events (pending :: inbox))
    (admitted : admittedKeys added = []) (emitted : emittedKeys added = [pending.key]) :
    Tally (events ++ added) inbox := by
  refine tally.goes admitted ?_
  rw [emitted]
  exact List.Sublist.refl _

/-- The messages that wait are forgotten. -/
theorem dropped (tally : Tally events inbox) {left : List Pending} (fewer : left.Sublist inbox) :
    Tally events left := by
  have kept : Tally (events ++ []) left := tally.goes rfl (fewer.map Pending.key)
  rwa [List.append_nil] at kept

/-- A message with a new number was accepted. -/
theorem accept {input message : Bytes} {myId oppsiteId : UInt32} {seq : UInt64}
    {frame : Option Frame} (tally : Tally events inbox) (owned : myId ∈ drawnIds events)
    (new : (myId, seq) ∉ admittedKeys events) (numbered : ∀ found ∈ frame, found.seq = seq) :
    Tally (events ++ [.decrypted input message, .accepted myId oppsiteId seq])
      (inbox ++ frame.toList.map fun found => ⟨myId, oppsiteId, found⟩) := by
  have admitted :
      admittedKeys (events ++ [.decrypted input message, .accepted myId oppsiteId seq]) =
        admittedKeys events ++ [(myId, seq)] := by
    rw [admittedKeys_append]
    rfl
  have emitted : emittedKeys (events ++ [.decrypted input message, .accepted myId oppsiteId seq]) =
      emittedKeys events := by
    rw [emittedKeys_append]
    exact List.append_nil _
  have arrived : ((inbox ++ frame.toList.map (Pending.mk myId oppsiteId)).map Pending.key).Sublist
      (inbox.map Pending.key ++ [(myId, seq)]) := by
    rw [List.map_append]
    refine (List.append_sublist_append_left _).mpr ?_
    cases frame with
    | none => exact List.nil_sublist _
    | some found =>
      rw [← numbered found rfl]
      exact List.Sublist.refl _
  have part := (List.append_sublist_append_left (emittedKeys events)).mpr arrived
  rw [← List.append_assoc] at part
  refine ⟨fun key inside => ?_, ?_, fun key inside => ?_⟩
  · rw [drawnIds_append]
    rw [admitted] at inside
    obtain inside | inside := List.mem_append.mp inside
    · exact List.mem_append_left _ (tally.drawn key inside)
    · rw [List.mem_singleton.mp inside]
      exact List.mem_append_left _ owned
  · rw [emitted]
    refine List.Nodup.sublist part (List.nodup_append.mpr
      ⟨tally.once, List.nodup_singleton _, fun one here other there => ?_⟩)
    rintro rfl
    exact new (List.mem_singleton.mp there ▸ tally.accepted one here)
  · rw [emitted] at inside
    rw [admitted]
    obtain inside | inside := List.mem_append.mp (part.subset inside)
    · exact List.mem_append_left _ (tally.accepted key inside)
    · exact List.mem_append_right _ inside

end Tally

/-! ### The windows of a session -/

/-- No number was accepted for an identifier that was not drawn. -/
theorem Tally.unused (tally : Tally events inbox) {myId : UInt32} (new : myId ∉ drawnIds events) :
    issued myId (admittedKeys events) = [] :=
  List.eq_nil_iff_forall_not_mem.mpr fun _ inside => new (tally.drawn _ (mem_issued.mp inside))

/-- The numbers of an identifier after others were accepted. -/
theorem issued_admitted {myId : UInt32} (other : UInt32) (input message : Bytes)
    (oppsiteId : UInt32) (seq : UInt64) :
    issued other
        (admittedKeys (events ++ [.decrypted input message, .accepted myId oppsiteId seq])) =
      if myId = other then seq :: issued other (admittedKeys events)
      else issued other (admittedKeys events) := by
  rw [admittedKeys_append, show admittedKeys [(.decrypted input message : Event v),
    .accepted myId oppsiteId seq] = [(myId, seq)] from rfl, issued_concat]

end Udp2raw
