import Udp2raw.Connection.Acceptance
import Udp2raw.System.Provenance

/-!
# Where datagrams come from

A data message that was encrypted carries a datagram that its sender was about to send, and a
datagram that a party gives out came with a data message that the party decrypted. When messages
cannot be forged and no identifier is drawn twice, the two sides of a session fit together.
-/
namespace Udp2raw

variable {v : IpVersion} {log before more : Log v} {self : Party} {events : List (Event v)}

/-- A party that comes to send a datagram of a conversation, after this record. -/
inductive Spoken (before : Log v) : Party → UInt32 → UInt32 → UInt32 → Bytes → Prop
  /-- A client sends what it received from the local address of the conversation. -/
  | uplink {constId myId oppsiteId conv : UInt32} {addr : LocalAddress} {bytes : Bytes}
      {early : Log v} :
      before = early ++ [(.client constId, .sendDataSafer myId oppsiteId conv bytes)] →
      Drew early (.client constId) myId → (.client constId, .received addr bytes) ∈ early →
      (.client constId, .createdConv conv addr) ∈ early →
      Spoken before (.client constId) myId oppsiteId conv bytes
  /-- The server sends what it read just now from the socket of the conversation, to the client that
  the socket was opened for. -/
  | downlink {constId myId oppsiteId conv : UInt32} {socket : Nat} {bytes : Bytes} {early : Log v} :
      before = early ++ [(.server, .readSocket socket bytes),
        (.server, .sendDataSafer myId oppsiteId conv bytes)] →
      Drew early .server myId → (.server, .openedSocket constId conv socket) ∈ early →
      (.client constId, .handshake2 oppsiteId myId) ∈ early →
      Spoken before .server myId oppsiteId conv bytes

/-- A party decrypted this message of a session. -/
def Understood (log : Log v) (self : Party) (pending : Pending) : Prop :=
  ∃ input message, (self, .decrypted input message) ∈ log ∧
    SaferContent message pending.myId pending.oppsiteId pending.frame

/-- A message is about a conversation, and has this datagram. -/
structure Pending.Carries (pending : Pending) (conv : UInt32) (bytes : Bytes) : Prop where
  /-- It is a data message. -/
  type : pending.frame.type = typeData
  /-- It names the conversation first. -/
  conv : idAt pending.frame.data 0 = conv
  /-- Then there is the datagram. -/
  bytes : pending.frame.data.drop 4 = bytes

/-- The socket of a conversation of a client whose session has these identifiers. -/
def Attached (log : Log v) (constId conv : UInt32) (socket : Nat)
    (myId oppsiteId : UInt32) : Prop :=
  (.server, .openedSocket constId conv socket) ∈ log ∧
    (.client constId, .handshake2 oppsiteId myId) ∈ log

/-- What an entry of the record says about datagrams, from the entries before it. -/
def Told (before : Log v) (entry : Party × Event v) : Prop :=
  match entry.2 with
  | .encrypted message _ => ∀ here there frame, SaferContent message here there frame →
      frame.type = typeData → ∃ conv bytes roller,
        message = saferMessage there here frame.seq typeData roller
          (BigEndian.encode 4 conv.toNat ++ bytes) ∧
        Spoken before entry.1 there here conv bytes
  | .wroteSocket socket bytes myId seq => ∃ pending constId conv, pending.key = (myId, seq) ∧
      Understood before .server pending ∧ pending.Carries conv bytes ∧
      Attached before constId conv socket myId pending.oppsiteId
  | .sentTo addr bytes myId seq => ∃ pending conv, pending.key = (myId, seq) ∧
      Understood before entry.1 pending ∧ pending.Carries conv bytes ∧
      (entry.1, .createdConv conv addr) ∈ before ∧ Drew before entry.1 myId ∧
      Drew before .server pending.oppsiteId
  | _ => True

/-- Minor events tell nothing. -/
theorem Minor.told (minor : Minor events) : Adds Told log self events :=
  minor.adds (fun _ _ => trivial) fun _ _ _ => trivial

/-- A handshake tells nothing. -/
theorem BareEvents.told {id1 id2 id3 : UInt32} (bare : BareEvents id1 id2 id3 events) :
    Adds Told log self events := by
  obtain ⟨iv, padding, rfl | ⟨output, rfl⟩⟩ := bare
  · exact .one trivial
  · refine .cons (fun here there frame content => ?_) (.one trivial)
    exact absurd content (saferContent_bareMessage _ _ _ _ _ _)

/-- A heartbeat tells nothing. -/
theorem SaferEvents.told_heartbeat {myId oppsiteId : UInt32} {seq : UInt64} {data : Bytes}
    (safer : SaferEvents myId oppsiteId seq typeHeartbeat data events) :
    Adds Told log self events := by
  obtain ⟨roller, rfl | ⟨output, frame, rfl⟩⟩ := safer
  · exact .one trivial
  · refine .cons (fun here there frame content data => ?_) (.one trivial)
    obtain ⟨-, -, rfl⟩ := content.of_message
    have wrong : typeHeartbeat = typeData := data
    exact absurd wrong (by decide)

/-- A data message tells which datagram it carries. -/
theorem SaferEvents.told {myId oppsiteId conv : UInt32} {seq : UInt64} {bytes : Bytes}
    (safer : SaferEvents myId oppsiteId seq typeData (BigEndian.encode 4 conv.toNat ++ bytes)
      events)
    (spoken : Spoken log self myId oppsiteId conv bytes) : Adds Told log self events := by
  obtain ⟨roller, rfl | ⟨output, frame, rfl⟩⟩ := safer
  · exact .one trivial
  · refine .cons (fun here there frame content _ => ?_) (.one trivial)
    obtain ⟨rfl, rfl, rfl⟩ := content.of_message
    exact ⟨conv, bytes, roller, rfl, spoken⟩

/-- A message has one conversation and one datagram. -/
theorem Pending.Carries.unique {pending : Pending} {conv conv' : UInt32} {bytes bytes' : Bytes}
    (carries : pending.Carries conv bytes)
    (data : pending.frame.data = BigEndian.encode 4 conv'.toNat ++ bytes') :
    conv' = conv ∧ bytes' = bytes := by
  have first := carries.conv
  have rest := carries.bytes
  rw [data] at first rest
  rw [idAt_encode] at first
  rw [List.drop_left' (BigEndian.encode_length _ _)] at rest
  exact ⟨first, rest⟩

/-- Who sent the second handshake of a session drew its identifier, and the server drew the other
one. -/
theorem HonestRecord.handshake2 {party : Party} {myId oppsiteId : UInt32}
    (honest : HonestRecord log) (sent : (party, .handshake2 myId oppsiteId) ∈ log) :
    Drew log party myId ∧ Drew log .server oppsiteId := by
  obtain ⟨before, after, rfl, drew, drewServer⟩ := honest.of_mem sent
  exact ⟨drew.later _, drewServer.later _⟩

/-- What was understood stays understood. -/
theorem Understood.later {pending : Pending} (understood : Understood log self pending)
    (more : Log v) : Understood (log ++ more) self pending := by
  obtain ⟨input, message, decrypted, content⟩ := understood
  exact ⟨input, message, List.mem_append_left _ decrypted, content⟩

/-- A data message that was understood was encrypted by a party that came to send its datagram. -/
theorem Understood.spoken {pending : Pending} {conv : UInt32} {bytes : Bytes}
    (understood : Understood log self pending) (carries : pending.Carries conv bytes)
    (told : Justified Told log) (authentic : Authentic log) :
    ∃ early party roller output late,
      log = early ++ (party, .encrypted (saferMessage pending.oppsiteId pending.myId
        pending.frame.seq typeData roller (BigEndian.encode 4 conv.toNat ++ bytes))
          output) :: late ∧
      Spoken early party pending.oppsiteId pending.myId conv bytes ∧
      (self, .decrypted output (saferMessage pending.oppsiteId pending.myId pending.frame.seq
        typeData roller (BigEndian.encode 4 conv.toNat ++ bytes))) ∈ log := by
  obtain ⟨input, message, decrypted, content⟩ := understood
  obtain ⟨sooner, later, rfl, sent⟩ := authentic.of_mem decrypted
  obtain ⟨⟨party, _⟩, inside, rfl⟩ := sent (input, message) rfl
  obtain ⟨early, between, rfl⟩ := List.append_of_mem inside
  have parts : early ++ (party, .encrypted message input) :: between ++
      (self, .decrypted input message) :: later = early ++ (party, .encrypted message input) ::
        (between ++ (self, .decrypted input message) :: later) := by
    rw [List.append_assoc, List.cons_append]
  obtain ⟨conv', bytes', roller, rfl, spoken⟩ := told _ _ _ parts _ _ _ content carries.type
  obtain ⟨-, -, frame⟩ := content.of_message
  obtain ⟨rfl, rfl⟩ := carries.unique (congrArg Frame.data frame)
  exact ⟨early, party, roller, input, _, parts, spoken, decrypted⟩

end Udp2raw
