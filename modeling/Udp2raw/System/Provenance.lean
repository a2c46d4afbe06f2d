import Udp2raw.Connection.SaferCalls
import Udp2raw.Data.Correspondence

/-!
# Where handshakes come from

When bare messages cannot be forged, a handshake that was heard was sent by a party. What its
numbers mean tells who that was: the first handshake of a client, its second one, or the answer
of the server.
-/
namespace Udp2raw

variable {v : IpVersion} {log before more : Log v} {self : Party} {events : List (Event v)}

/-- A party drew a session identifier. -/
def Drew (log : Log v) (self : Party) (myId : UInt32) : Prop := (self, .drewMyId myId) ∈ log

/-- No session identifier was drawn twice, by whatever parties. -/
def FreshIds (log : Log v) : Prop := (log.filterMap fun entry => entry.2.drawn).Nodup

/-- What a party decrypts and reads as a bare message was encrypted before, by some party. -/
def BareUnforged (log : Log v) : Prop :=
  Justified (fun before entry => ∀ input message data, entry.2 = .decrypted input message →
    BareContent message data → ∃ party, (party, .encrypted message input) ∈ before) log

/-- The input and the message of a call of `my_decrypt` that accepted. -/
def Event.opened : Event v → Option (Bytes × Bytes)
  | .decrypted input message => some (input, message)
  | _ => none

/-- What a call of `my_decrypt` accepts, a call of `my_encrypt` made of the same message. -/
def SentBefore (before : Log v) (entry : Party × Event v) : Prop :=
  ∀ pair ∈ entry.2.opened, ∃ sender ∈ before, sender.2 = .encrypted pair.2 pair.1

instance (before : Log v) (entry : Party × Event v) : Decidable (SentBefore before entry) :=
  inferInstanceAs (Decidable (∀ pair ∈ entry.2.opened, ∃ sender ∈ before,
    sender.2 = .encrypted pair.2 pair.1))

/-- Whatever a party decrypts was encrypted before, by some party. -/
abbrev Authentic (log : Log v) : Prop := Justified SentBefore log

/-- In an authentic record no bare message is forged. -/
theorem Authentic.bareUnforged (authentic : Authentic log) : BareUnforged log := by
  refine Justified.mono authentic fun before entry sent input message data same _ => ?_
  obtain ⟨⟨party, _⟩, inside, rfl⟩ := sent (input, message) (by rw [same]; rfl)
  exact ⟨party, inside⟩

/-- What was drawn stays drawn. -/
theorem Drew.later {myId : UInt32} (drew : Drew log self myId) (more : Log v) :
    Drew (log ++ more) self myId := List.mem_append_left more drew

/-- The identifiers in a part of the record are fresh. -/
theorem FreshIds.part (fresh : FreshIds (log ++ more)) : FreshIds log := by
  rw [FreshIds, List.filterMap_append] at fresh
  exact fresh.of_append_left

/-- One party drew an identifier. -/
theorem FreshIds.party (fresh : FreshIds log) {other : Party} {myId : UInt32}
    (first : Drew log self myId) (second : Drew log other myId) : self = other :=
  (Prod.mk.inj (eq_of_key fresh first second rfl rfl)).1

/-- A new identifier was not drawn before. -/
theorem FreshIds.absent {other : Party} {myId : UInt32}
    (fresh : FreshIds (log ++ (self, .drewMyId myId) :: more)) : ¬Drew log other myId := by
  intro drew
  rw [FreshIds, List.filterMap_append] at fresh
  have here : myId ∈ log.filterMap fun entry => entry.2.drawn :=
    List.mem_filterMap.mpr ⟨_, drew, rfl⟩
  exact (List.disjoint_of_nodup_append fresh) here (by simp [Event.drawn])

/-- Bare messages in a part of the record are not forged. -/
theorem BareUnforged.part (unforged : BareUnforged (log ++ more)) : BareUnforged log :=
  (justified_append.mp unforged).1

/-- A party that comes to send a handshake with these numbers, after this record. -/
inductive Authored (before : Log v) : Party → UInt32 → UInt32 → UInt32 → Prop
  /-- A client sends its first handshake. -/
  | first {constId myId : UInt32} :
      Drew before (.client constId) myId → Authored before (.client constId) myId 0 constId
  /-- A client sends its second handshake. -/
  | second {constId myId oppsiteId : UInt32} {early : Log v} :
      before = early ++ [(.client constId, .handshake2 myId oppsiteId)] →
      Authored before (.client constId) myId oppsiteId constId
  /-- The server answers a first handshake. -/
  | reply {constId other myId oppsiteId : UInt32} :
      Drew before .server myId → Drew before (.client other) oppsiteId →
      Authored before .server myId oppsiteId constId

/-- A client's second handshake with these numbers comes after the server drew its identifier for an
entry at this address. -/
def Introduced (log : Log v) (constId : UInt32) (addr : Address v) (myId oppsiteId : UInt32) :
    Prop :=
  ∃ early between sent output late,
    log = early ++ (.server, .drewMyId myId) :: (.server, .created addr myId) :: (between ++
      (.client constId, .handshake2 oppsiteId myId) ::
      (.client constId, .encrypted sent output) :: late) ∧
    BareContent sent (numbersToChar oppsiteId myId constId)

/-- What an entry of the record says about the entries before it. -/
def Honest (before : Log v) (entry : Party × Event v) : Prop :=
  match entry.2 with
  | .drewMyId myId => myId ≠ 0
  | .encrypted message _ => ∀ data, BareContent message data → ∃ id1 id2 id3,
      data = numbersToChar id1 id2 id3 ∧ Authored before entry.1 id1 id2 id3
  | .handshake2 myId oppsiteId => Drew before entry.1 myId ∧ Drew before .server oppsiteId
  | .becameReady constId addr myId oppsiteId => Introduced before constId addr myId oppsiteId
  | .moved constId addr myId oppsiteId => Introduced before constId addr myId oppsiteId
  | _ => True

/-- Every entry of the record says the truth. -/
abbrev HonestRecord (log : Log v) : Prop := Justified Honest log

/-- The events that a party adds to a record are justified by what is before them. -/
abbrev Adds (justifies : Log v → Party × Event v → Prop) (log : Log v) (self : Party)
    (events : List (Event v)) : Prop :=
  Justified (fun before => justifies (log ++ before)) (entries self events)

section Adds

variable {justifies : Log v → Party × Event v → Prop}

/-- One event comes first. -/
theorem Adds.cons {event : Event v} (head : justifies log (self, event))
    (tail : Adds justifies (log ++ [(self, event)]) self events) :
    Adds justifies log self (event :: events) := by
  refine justified_cons.mpr ⟨by rwa [List.append_nil], tail.mono fun before entry holds => ?_⟩
  rwa [List.append_assoc] at holds

/-- No events. -/
theorem Adds.nil : Adds justifies log self ([] : List (Event v)) := Justified.nil

/-- One event. -/
theorem Adds.one {event : Event v} (head : justifies log (self, event)) :
    Adds justifies log self [event] := .cons head .nil

/-- A process that adds justified events keeps the record justified. -/
theorem Justified.logged {m m' : Machine v} (justified : Justified justifies m.log)
    (logged : Logged events m m') (added : Adds justifies m.log m.self events) :
    Justified justifies m'.log := by
  rw [logged.log]
  exact justified_append.mpr ⟨justified, added⟩

/-- Minor events are justified when they need no justification. -/
theorem Minor.adds (minor : Minor events)
    (free : ∀ before payload, justifies before (self, .rawPayload payload))
    (free' : ∀ before input message, justifies before (self, .decrypted input message)) :
    Adds justifies log self events := by
  induction events generalizing log with
  | nil => exact .nil
  | cons event events ih =>
    have rest : Adds justifies (log ++ [(self, event)]) self events :=
      ih fun other inside => minor other (List.mem_cons_of_mem _ inside)
    obtain ⟨_, rfl⟩ | ⟨_, _, rfl⟩ := minor event List.mem_cons_self
    · exact .cons (free log _) rest
    · exact .cons (free' log _ _) rest

end Adds

/-- The events that a party adds say the truth. -/
abbrev HonestEvents (log : Log v) (self : Party) (events : List (Event v)) : Prop :=
  Adds Honest log self events

/-- The start of an honest record is honest. -/
theorem HonestRecord.part (honest : HonestRecord (log ++ more)) : HonestRecord log :=
  (justified_append.mp honest).1

/-- Minor events promise nothing. -/
theorem Minor.honest (minor : Minor events) : HonestEvents log self events :=
  minor.adds (fun _ _ => trivial) fun _ _ _ => trivial

/-- A handshake is honest when its numbers are the sender's to send. -/
theorem BareEvents.honest {id1 id2 id3 : UInt32} (bare : BareEvents id1 id2 id3 events)
    (authored : Authored log self id1 id2 id3) : HonestEvents log self events := by
  obtain ⟨iv, padding, rfl | ⟨output, rfl⟩⟩ := bare
  · exact .one trivial
  · refine .cons (fun data content => ?_) (.one trivial)
    exact ⟨id1, id2, id3, (bareContent_iff iv padding _ data).mp content, authored⟩

/-- A safer message is no handshake. -/
theorem SaferEvents.honest {myId oppsiteId : UInt32} {seq : UInt64} {type : UInt8} {data : Bytes}
    (safer : SaferEvents myId oppsiteId seq type data events)
    (known : type = typeHeartbeat ∨ type = typeData) : HonestEvents log self events := by
  obtain ⟨roller, rfl | ⟨output, frame, rfl⟩⟩ := safer
  · exact .one trivial
  · exact .cons (fun _ content => absurd content (bareContent_saferMessage known)) (.one trivial)

/-- A handshake that was heard was sent. -/
theorem HeardHandshake.authored {id1 id2 id3 : UInt32}
    (heard : HeardHandshake log self id1 id2 id3) (honest : HonestRecord log)
    (unforged : BareUnforged log) :
    ∃ before party sent output after, log = before ++ (party, .encrypted sent output) :: after ∧
      BareContent sent (numbersToChar id1 id2 id3) ∧ Authored before party id1 id2 id3 := by
  obtain ⟨data, ⟨input, message, decrypted, content⟩, -, rfl, rfl, rfl⟩ := heard
  obtain ⟨sooner, later, rfl, sent⟩ := unforged.of_mem decrypted
  obtain ⟨party, encrypted⟩ := sent input message data rfl content
  obtain ⟨before, after, rfl⟩ := List.append_of_mem encrypted
  have parts : before ++ (party, .encrypted message input) :: after ++
      (self, .decrypted input message) :: later = before ++ (party, .encrypted message input) ::
        (after ++ (self, .decrypted input message) :: later) := by
    rw [List.append_assoc, List.cons_append]
  obtain ⟨id1, id2, id3, rfl, authored⟩ := honest _ _ _ parts data content
  obtain ⟨first, second, third⟩ := idAt_numbersToChar id1 id2 id3
  rw [first, second, third]
  exact ⟨before, party, message, input, _, parts, content, authored⟩

/-- An identifier that was drawn is not zero. -/
theorem HonestRecord.nonzero (honest : HonestRecord log) {myId : UInt32}
    (drew : Drew log self myId) : myId ≠ 0 := by
  obtain ⟨_, _, -, nonzero⟩ := honest.of_mem drew
  exact nonzero

/-- A first handshake that was heard came from a client that drew its number. -/
theorem HeardHandshake.initial {id1 id3 : UInt32} (heard : HeardHandshake log self id1 0 id3)
    (honest : HonestRecord log) (unforged : BareUnforged log) :
    ∃ constId, Drew log (.client constId) id1 := by
  obtain ⟨before, party, sent, output, after, rfl, -, authored⟩ := heard.authored honest unforged
  generalize zero : (0 : UInt32) = none at authored
  cases authored with
  | first drew => exact ⟨_, drew.later _⟩
  | @second _ _ _ early last =>
    subst last zero
    rw [List.append_assoc] at honest
    have drew := (honest early _ _ rfl).2
    exact absurd rfl (honest.part.nonzero drew)
  | reply _ drew =>
    subst zero
    exact absurd rfl (honest.part.nonzero drew)

/-- A handshake for an identifier that a client drew came from the server. -/
theorem HeardHandshake.answer {constId id1 myId id3 : UInt32}
    (heard : HeardHandshake log self id1 myId id3) (honest : HonestRecord log)
    (unforged : BareUnforged log) (fresh : FreshIds log) (drew : Drew log (.client constId) myId) :
    Drew log .server id1 := by
  obtain ⟨before, party, sent, output, after, rfl, -, authored⟩ := heard.authored honest unforged
  cases authored with
  | first => exact absurd rfl (honest.nonzero drew)
  | @second _ _ _ early last =>
    subst last
    rw [List.append_assoc] at honest
    have other := (honest early _ _ rfl).2
    rw [List.append_assoc] at drew fresh
    have wrong := fresh.party drew (other.later _)
    contradiction
  | reply drewServer => exact drewServer.later _

/-- The server drew an identifier for an entry at an address. -/
def Entered (log : Log v) (addr : Address v) (myId : UInt32) : Prop :=
  ∃ early late, log = early ++ (.server, .drewMyId myId) :: (.server, .created addr myId) :: late

/-- An entry stays in the record. -/
theorem Entered.later {addr : Address v} {myId : UInt32} (entered : Entered log addr myId)
    (more : Log v) : Entered (log ++ more) addr myId := by
  obtain ⟨early, late, rfl⟩ := entered
  exact ⟨early, late ++ more, by simp⟩

/-- The server drew the identifier of an entry. -/
theorem Entered.drew {addr : Address v} {myId : UInt32} (entered : Entered log addr myId) :
    Drew log .server myId := by
  obtain ⟨early, late, rfl⟩ := entered
  exact List.mem_append_right _ List.mem_cons_self

/-- A handshake for an identifier of an entry is the second one of a client, sent since then. -/
theorem HeardHandshake.introduced {addr : Address v} {myId oppsiteId constId : UInt32}
    (heard : HeardHandshake log self oppsiteId myId constId) (honest : HonestRecord log)
    (unforged : BareUnforged log) (fresh : FreshIds log) (entered : Entered log addr myId) :
    Introduced log constId addr myId oppsiteId := by
  obtain ⟨before, party, sent, output, after, parts, content, authored⟩ :=
    heard.authored honest unforged
  cases authored with
  | first => exact absurd rfl (honest.nonzero entered.drew)
  | second last =>
    rename_i sooner
    subst last
    have place : log = sooner ++ (.client constId, .handshake2 oppsiteId myId) ::
        (.client constId, .encrypted sent output) :: after := by
      rw [parts, List.append_assoc]
      rfl
    have drew := (honest _ _ _ place).2
    obtain ⟨early, late, filed⟩ := entered
    obtain ⟨between, rfl, rest⟩ := place_before fresh filed place drew rfl rfl
    cases between with
    | nil =>
      have wrong := (List.cons.inj rest).1
      simp at wrong
    | cons created between =>
      obtain ⟨rfl, -⟩ := List.cons.inj rest
      refine ⟨early, between, sent, output, after, ?_, content⟩
      rw [place]
      simp
  | @reply _ other _ _ _ drew =>
    have elsewhere : Drew log (.client other) myId := by
      rw [parts]
      exact drew.later _
    have wrong := fresh.party elsewhere entered.drew
    contradiction

end Udp2raw
