import Udp2raw.Connection.Effects
import Udp2raw.Connection.Linked

/-!
# Steps of a session

What both roles do with a ready connection, in single steps: a heartbeat is sent, or a
message is accepted and waits to be handled. A step says what it records and what it keeps,
so that a property of a whole run needs one case for each kind of step.
-/
namespace Udp2raw

variable {v : IpVersion} {σ τ : Type} [DecidableEq τ] {options : Options v} {m m' : Machine v}

/-- A message of the current packet that the window of a session accepted. -/
structure Pending where
  /-- The identifier of this end of the session. -/
  myId : UInt32
  /-- The identifier of the other end. -/
  oppsiteId : UInt32
  /-- The message. -/
  frame : Frame

/-- A party decrypted a bare message with this data. -/
def HeardBare (log : Log v) (self : Party) (data : Bytes) : Prop :=
  ∃ input message, (self, Event.decrypted input message) ∈ log ∧ BareContent message data

/-- What was heard stays heard. -/
theorem HeardBare.later {log : Log v} {self : Party} {data : Bytes}
    (heard : HeardBare log self data) (added : Log v) : HeardBare (log ++ added) self data := by
  obtain ⟨input, message, inside, content⟩ := heard
  exact ⟨input, message, List.mem_append_left _ inside, content⟩

/-- A party heard a handshake with these numbers. -/
def HeardHandshake (log : Log v) (self : Party) (id1 id2 id3 : UInt32) : Prop :=
  ∃ data, HeardBare log self data ∧ 12 ≤ data.length ∧ idAt data 0 = id1 ∧ idAt data 4 = id2 ∧
    idAt data 8 = id3

/-- What was heard before stays heard. -/
theorem Logged.heard {events : List (Event v)} {data : Bytes} (logged : Logged events m m')
    (heard : HeardBare m.log m.self data) : HeardBare m'.log m'.self data := by
  rw [logged.log, logged.self]
  exact heard.later _

/-- A message that was decrypted is heard. -/
theorem Logged.heard_decrypted {input message data : Bytes}
    (logged : Logged [.decrypted input message] m m') (content : BareContent message data) :
    HeardBare m'.log m'.self data := by
  refine ⟨input, message, ?_, content⟩
  rw [logged.log, logged.self]
  exact List.mem_append_right _ (by simp [entries])

/-- A received packet took the buffered one. -/
theorem Logged.went {events : List (Event v)} {peek : Bool} (logged : Logged events m m')
    (full : m.packetBufCnt = 1) (count : m'.packetBufCnt = if peek then 1 else 0) :
    Went events m m' := by
  refine ⟨logged, ?_⟩
  rw [count, full]
  split <;> simp

/-- A handshake stays heard. -/
theorem Logged.heardHandshake {events : List (Event v)} {id1 id2 id3 : UInt32}
    (logged : Logged events m m') (heard : HeardHandshake m.log m.self id1 id2 id3) :
    HeardHandshake m'.log m'.self id1 id2 id3 := by
  obtain ⟨data, bare, fields⟩ := heard
  exact ⟨data, logged.heard bare, fields⟩

/-- A constructed connection has nothing yet. -/
theorem newConnInfo_ran {idle : σ} {conn : ConnInfo options σ τ}
    (returned : Returns (newConnInfo options idle) m conn m') :
    Ran [] m m' ∧ conn.state = idle ∧ conn.blob = none ∧ conn.timerFd64 = 0 ∧
      conn.oppsiteConstId = 0 ∧ conn.rawInfo.peek = false := by
  simp only [newConnInfo, Returns.bind_iff, Returns.pure_iff] at returned
  obtain ⟨raw, _, one, _, _, two, _, _, three, _, _, four, _, _, five, rfl, rfl⟩ := returned
  have ran := ((((newRawInfo_ran one).trans (ask_ran two).1).trans (ask_ran three).1).trans
    (ask_ran four).1).trans (ask_ran five).1
  exact ⟨ran, rfl, rfl, rfl, rfl, newRawInfo_peek one⟩

/-- A prepared connection has contents without conversations and with an empty window. -/
theorem prepare_ran {conn next : ConnInfo options σ τ}
    (returned : Returns conn.prepare m next m') :
    Ran [] m m' ∧ conn.blob = none ∧ ∃ blob : Blob τ, next = { conn with blob := some blob } ∧
      blob.convManager.convToData = ∅ ∧ blob.convManager.dataToConv = ∅ ∧
      blob.convManager.lru = .empty ∧ blob.antiReplay.maxPacketReceived = 0 := by
  simp only [ConnInfo.prepare, newBlob, Returns.bind_iff, check_iff, Returns.pure_iff] at returned
  obtain ⟨_, _, ⟨empty, rfl⟩, blob, _, ⟨convs, _, one, answer, _, two, random, _, three, rfl, rfl⟩,
    rfl, rfl⟩ := returned
  obtain ⟨ran, convToData, dataToConv, lru⟩ := ConvManager.new_ran one
  exact ⟨(ran.trans (ask_ran two).1).trans (getTrueRandomNumber64_ran three),
    Option.isNone_iff_eq_none.mp empty, _, rfl, convToData, dataToConv, lru, rfl⟩

/-- A blob that is followed is there. -/
theorem theBlob_iff {conn : ConnInfo options σ τ} {blob : Blob τ} :
    conn.theBlob = .ok blob ↔ conn.blob = some blob := by
  unfold ConnInfo.theBlob
  cases conn.blob <;> simp

/-- The same conversations, at a later time. -/
structure Blob.Like (now later : Nat) (before after : Blob τ) : Prop where
  /-- The conversations are the same. -/
  convs : before.convManager.SameConvs after.convManager
  /-- No conversation was used after the present time. -/
  early : before.convManager.lru.NotAfter now → after.convManager.lru.NotAfter later

/-- A connection that goes on with the same identifier and the same conversations. -/
structure ConnInfo.Like (now later : Nat) (before after : ConnInfo options σ τ) : Prop where
  /-- It is in the same state. -/
  state : after.state = before.state
  /-- It has the same identifier. -/
  myId : after.myId = before.myId
  /-- It has the same timer. -/
  timerFd64 : after.timerFd64 = before.timerFd64
  /-- It belongs to the same client. -/
  oppsiteConstId : after.oppsiteConstId = before.oppsiteConstId
  /-- It has the same conversations. -/
  blob : Option.Rel (Blob.Like now later) before.blob after.blob
  /-- It got into its state at the same time. -/
  lastStateTime : after.lastStateTime = before.lastStateTime

/-- A connection that goes on in the same session with the same window. -/
structure ConnInfo.SameSession (before after : ConnInfo options σ τ) : Prop where
  /-- The other end has the same identifier. -/
  oppsiteId : after.oppsiteId = before.oppsiteId
  /-- It has the same window, and sends the same number next. -/
  window : Option.Rel (fun old new => new.antiReplay = old.antiReplay) before.blob after.blob

/-- A connection that took a number for a message of its session. -/
structure ConnInfo.Numbered (seq : UInt64) (before after : ConnInfo options σ τ) : Prop where
  /-- The other end has the same identifier. -/
  oppsiteId : after.oppsiteId = before.oppsiteId
  /-- It has the same window, and sends the number after this one next. -/
  window : ∃ old new, before.blob = some old ∧ after.blob = some new ∧
    old.antiReplay.antiReplaySeq = seq ∧ new.antiReplay = old.antiReplay.getNewSeqForSend.2

/-- Every blob is like itself. -/
theorem Blob.Like.refl (blob : Blob τ) {now later : Nat} (clock : now ≤ later) :
    Blob.Like now later blob blob := ⟨.refl _, fun early => early.mono clock⟩

/-- Two steps with the same conversations. -/
theorem Blob.Like.trans {first second third : Nat} {a b c : Blob τ}
    (one : Blob.Like first second a b) (two : Blob.Like second third b c) :
    Blob.Like first third a c :=
  ⟨one.convs.trans two.convs, fun early => two.early (one.early early)⟩

namespace ConnInfo

variable {now later : Nat} {α : Type} {related : α → α → Prop} {before after : Option α}

/-- What is related to nothing is nothing. -/
theorem rel_none (rel : Option.Rel related none after) : after = none := by
  cases rel
  rfl

/-- What is related to something is something. -/
theorem rel_some {value : α} (rel : Option.Rel related (some value) after) :
    ∃ other, after = some other ∧ related value other := by
  cases rel with
  | some holds => exact ⟨_, rfl, holds⟩

/-- What something is related to is something. -/
theorem rel_to_some {value : α} (rel : Option.Rel related before (some value)) :
    ∃ other, before = some other ∧ related other value := by
  cases rel with
  | some holds => exact ⟨_, rfl, holds⟩

/-- A weaker relation. -/
theorem rel_mono {weaker : α → α → Prop} (rel : Option.Rel related before after)
    (implies : ∀ a b, related a b → weaker a b) : Option.Rel weaker before after := by
  cases rel with
  | some holds => exact .some (implies _ _ holds)
  | none => exact .none

/-- A relation between the contents of two connections, when the contents are the same. -/
theorem rel_of_eq (reflexive : ∀ a, related a a) (same : after = before) :
    Option.Rel related before after := by
  subst same
  cases after with
  | none => exact .none
  | some value => exact .some (reflexive value)

/-- A connection that only sent or received goes on. -/
theorem Kept.like {before after : ConnInfo options σ τ} (kept : before.Kept after)
    (clock : now ≤ later) : ConnInfo.Like now later before after :=
  ⟨kept.state, kept.myId, kept.timerFd64, kept.oppsiteConstId,
    rel_of_eq (fun blob => .refl blob clock) kept.blob, kept.lastStateTime⟩

/-- A connection that only sent or received is in the same session. -/
theorem Kept.sameSession {before after : ConnInfo options σ τ} (kept : before.Kept after) :
    before.SameSession after := ⟨kept.oppsiteId, rel_of_eq (fun _ => rfl) kept.blob⟩

/-- A connection that took a number for a message goes on. -/
theorem Kept.like_numbered {before after : ConnInfo options σ τ} {blob : Blob τ}
    (allocated : before.blob = some blob) (kept : (before.numbered blob).Kept after)
    (clock : now ≤ later) : ConnInfo.Like now later before after where
  state := kept.state
  myId := kept.myId
  timerFd64 := kept.timerFd64
  oppsiteConstId := kept.oppsiteConstId
  blob := by
    rw [allocated, kept.blob]
    exact .some ⟨.refl _, fun early => early.mono clock⟩
  lastStateTime := kept.lastStateTime

/-- A connection that took a number for a message is in the same session. -/
theorem Kept.numbered {before after : ConnInfo options σ τ} {blob : Blob τ}
    (allocated : before.blob = some blob) (kept : (before.numbered blob).Kept after) :
    ConnInfo.Numbered blob.antiReplay.antiReplaySeq before after :=
  ⟨kept.oppsiteId, blob, _, allocated, kept.blob, rfl, rfl⟩

/-- A connection with an accepted number goes on. -/
theorem Kept.like_withAntiReplay {before after : ConnInfo options σ τ} {blob : Blob τ}
    {antiReplay : AntiReplay} (allocated : before.blob = some blob)
    (kept : (before.withAntiReplay blob antiReplay).Kept after) (clock : now ≤ later) :
    ConnInfo.Like now later before after where
  state := kept.state
  myId := kept.myId
  timerFd64 := kept.timerFd64
  oppsiteConstId := kept.oppsiteConstId
  blob := by
    rw [allocated, kept.blob]
    exact .some ⟨.refl _, fun early => early.mono clock⟩
  lastStateTime := kept.lastStateTime

end ConnInfo

/-- One step of a session, with its record and the messages that now wait. -/
inductive ConnInfo.Exchanged : ConnInfo options σ τ → List (Event v) → List Pending →
    ConnInfo options σ τ → Prop
  /-- Packets were received or sent without a message of the session. -/
  | minor {conn next : ConnInfo options σ τ} {events : List (Event v)} :
      conn.SameSession next → Minor events → Exchanged conn events [] next
  /-- A heartbeat was sent. -/
  | heartbeat {conn next : ConnInfo options σ τ} {seq : UInt64} {data : Bytes}
      {events : List (Event v)} :
      conn.Numbered seq next →
      SaferEvents conn.myId conn.oppsiteId seq typeHeartbeat data events →
      Exchanged conn events [] next
  /-- The window accepted a message. -/
  | accepted {conn next : ConnInfo options σ τ} {blob : Blob τ} {antiReplay : AntiReplay}
      {input message : Bytes} {seq : UInt64} {frame : Option Frame} :
      conn.blob = some blob →
      blob.antiReplay.isVaild options.disableAntiReplay seq = (true, antiReplay) →
      (conn.withAntiReplay blob antiReplay).SameSession next →
      (∀ found ∈ frame, SaferContent message conn.myId conn.oppsiteId found ∧ found.seq = seq) →
      Exchanged conn [.decrypted input message, .accepted conn.myId conn.oppsiteId seq]
        (frame.toList.map fun found => ⟨conn.myId, conn.oppsiteId, found⟩) next

end Udp2raw
