import Udp2raw.Network.TcpNumbers
import Udp2raw.Server.Safety

/-!
# Packets that nobody authenticated

A packet is parsed into a live connection before it is decrypted. What the parsers write there
is confined to the part that received: as long as `my_decrypt` accepts nothing of the packet,
the server's tables, its descriptors and everything else of its connections stay as they are.
-/
namespace Udp2raw

open Proc ServerProc Server

variable {v : IpVersion} {options : Options v} {m m' : Machine v} {s s' : Server options}

/-! ### Parsing -/

/-- Only what was received last, the count of resets and whether sending stopped may differ. -/
structure OnlyHeard {config : RawConfig v} (before after : RawInfo config) : Prop where
  /-- What the next packet carries is the same. -/
  sendInfo : after.sendInfo = before.sendInfo
  /-- It looks at packets as before. -/
  peek : after.peek = before.peek
  /-- Its next reserved number is the same. -/
  reservedSendSeq : after.reservedSendSeq = before.reservedSendSeq

/-- The parsers only write what was received. -/
theorem recvRaw0_onlyHeard (config : RawConfig v) (filterPort : UInt16) (capture : Capture)
    (raw : RawInfo config) : OnlyHeard raw (recvRaw0 config filterPort capture raw).1 := by
  have heard := (recvRaw0_source config filterPort capture raw).1
  refine ⟨heard.sendInfo, heard.peek, ?_⟩
  have ip := recvRawIp_reserved capture raw
  have tcp := recvRawTcp_reserved filterPort capture raw
  unfold recvRaw0
  cases config.rawMode <;> simp only [recvRawUdp, recvRawIcmp]
  case faketcp => exact tcp
  all_goals
    split
    · rename_i next parsed
      rwa [parsed] at ip
    · rename_i next segment parsed
      rw [parsed] at ip
      split_ifs <;> exact ip

/-- A buffered packet is parsed into what was received. -/
theorem recvRawPayload_onlyHeard {raw next : RawInfo options.raw} {payload : Option Bytes}
    (returned : Returns (recvRawPayload options raw) m (next, payload) m') :
    OnlyHeard raw next := by
  simp only [recvRawPayload, Returns.bind_iff, Returns.get_iff, check_iff, Returns.modify_iff]
    at returned
  obtain ⟨_, _, ⟨rfl, rfl⟩, _, _, ⟨-, rfl⟩, _, _, rfl, returned⟩ := returned
  have heard := recvRaw0_onlyHeard options.raw m.filterPort m.packetBuf raw
  cases result : recvRaw0 options.raw m.filterPort m.packetBuf raw with
  | mk parsed received =>
    rw [result] at heard
    cases received with
    | failed =>
      simp only [result, Returns.pure_iff, Prod.mk.injEq] at returned
      obtain ⟨⟨rfl, -⟩, -⟩ := returned
      exact heard
    | untouched =>
      simp only [result] at returned
      exact absurd returned Returns.throw_iff
    | payload segment =>
      simp only [result, Returns.pure_iff, Prod.mk.injEq] at returned
      obtain ⟨⟨rfl, -⟩, -⟩ := returned
      exact heard

/-! ### Nothing is decrypted -/

/-- In between, `my_decrypt` accepted nothing. -/
def Undecrypted (before after : Machine v) : Prop :=
  ∀ events, Logged events before after → ∀ input message, .decrypted input message ∉ events

namespace Undecrypted

variable {a b c : Machine v} {events : List (Event v)}

/-- Nothing was recorded. -/
theorem of_log (same : b.log = a.log) : Undecrypted a b := by
  intro events logged input message inside
  have whole := logged.log
  rw [same, List.self_eq_append_right, entries, List.map_eq_nil_iff] at whole
  rw [whole] at inside
  contradiction

/-- Nothing in the first part. -/
theorem first (whole : Undecrypted a c) (rest : Logged events b c) : Undecrypted a b :=
  fun _ one input message inside =>
    whole _ (one.trans rest) input message (List.mem_append_left _ inside)

/-- Nothing in the second part. -/
theorem second (whole : Undecrypted a c) (start : Logged events a b) : Undecrypted b c :=
  fun _ two input message inside =>
    whole _ (start.trans two) input message (List.mem_append_right _ inside)

end Undecrypted

/-- A bare message that nobody encrypted has no data. -/
theorem recvBare_silent {raw next : RawInfo options.raw} {data : Option Bytes}
    (silent : Undecrypted m m')
    (returned : Returns (recvBare options raw) m (next, data) m') :
    OnlyHeard raw next ∧ data = none := by
  have outcome := (recvBare_logged returned).2.2.2
  have empty : data = none := by
    obtain ⟨_, -, -, rfl⟩ | ⟨-, input, message, _, -, -, logged⟩ := outcome
    · rfl
    · exact absurd (List.mem_singleton.mpr rfl) (silent _ logged input message)
  refine ⟨?_, empty⟩
  simp only [recvBare, Returns.bind_iff] at returned
  obtain ⟨⟨parsed, payload⟩, _, one, returned⟩ := returned
  have heard := recvRawPayload_onlyHeard one
  cases payload with
  | none =>
    obtain ⟨same, -⟩ := Returns.pure_iff.mp returned
    obtain ⟨rfl, -⟩ := Prod.mk.inj same
    exact heard
  | some payload =>
    dsimp only at returned
    split_ifs at returned
    · obtain ⟨same, -⟩ := Returns.pure_iff.mp returned
      obtain ⟨rfl, -⟩ := Prod.mk.inj same
      exact heard
    · obtain ⟨same, -⟩ := Returns.pure_iff.mp returned
      obtain ⟨rfl, -⟩ := Prod.mk.inj same
      exact heard
    · simp only [Returns.bind_iff, Returns.pure_iff, Prod.mk.injEq] at returned
      obtain ⟨_, _, -, ⟨rfl, -⟩, -⟩ := returned
      exact heard

section Receives

variable {σ τ : Type} [DecidableEq τ]

/-- Messages that nobody encrypted are dropped. -/
theorem Receives.silent {state final : ConnInfo options σ τ × Machine v} {frames : List Frame}
    (receives : Receives state frames final) (silent : Undecrypted state.2 final.2) :
    final.1 = state.1 ∧ frames = [] := by
  induction receives with
  | done => exact ⟨rfl, rfl⟩
  | next receipt rest ih =>
    obtain ⟨_, later⟩ := rest.logged
    obtain ⟨_, sooner⟩ := receipt.logged
    obtain ⟨same, rfl⟩ := ih (silent.second sooner)
    cases receipt with
    | dropped => exact ⟨same, rfl⟩
    | accepted _ _ _ _ ran =>
      exact absurd (List.mem_cons_self) (silent.first later _ ran.toLogged _ _)

/-- A packet whose frames nobody encrypted leaves the connection to what was received. -/
theorem recvSaferMulti_silent {conn next : ConnInfo options σ τ} {frames : List Frame}
    (silent : Undecrypted m m')
    (returned : Returns (recvSaferMulti conn) m (next, frames) m') :
    ∃ rawInfo, OnlyHeard conn.rawInfo rawInfo ∧ next = { conn with rawInfo } ∧ frames = [] := by
  simp only [recvSaferMulti, Returns.bind_iff] at returned
  obtain ⟨⟨rawInfo, payload⟩, m1, one, returned⟩ := returned
  have heard := recvRawPayload_onlyHeard one
  have rest := silent.second (recvRawPayload_logged one).1
  refine ⟨rawInfo, heard, ?_⟩
  have receives : Receives ({ conn with rawInfo }, m1) frames (next, m') := by
    cases payload with
    | none =>
      obtain ⟨same, rfl⟩ := Returns.pure_iff.mp returned
      obtain ⟨rfl, rfl⟩ := Prod.mk.inj same
      exact .done
    | some payload =>
      dsimp only at returned
      split at returned
      · simp only [Returns.bind_iff, Returns.pure_iff, Prod.mk.injEq] at returned
        obtain ⟨⟨parsed, frame⟩, _, two, ⟨rfl, rfl⟩, rfl⟩ := returned
        have whole := Receives.next (reservedParseSafer_receipt two) .done
        rwa [List.append_nil] at whole
      · exact recvFrames_receives returned
  exact receives.silent rest

end Receives

/-! ### The handlers -/

namespace Server

/-- Only one connection changed, the one at this address, and only in what it received. -/
def HeardAt (addr : Address v) (before after : Server options) : Prop :=
  after = before ∨ ∃ p conn rawInfo, before.mp.lookup addr = some p ∧ before.heap p = some conn ∧
    OnlyHeard conn.rawInfo rawInfo ∧ after = before.put p { conn with rawInfo }

end Server

/-- The flag of a captured packet that opens a TCP connection. -/
def Capture.IsSyn (options : Options v) (capture : Capture) : Prop :=
  options.raw.rawMode = .faketcp ∧ tcpFlag capture (ipHeaderLen v capture) 1 = true

/-- A handshake is recorded. -/
theorem serverOnRawRecvHandshake1_logged {p : Ptr} {data : Bytes} {conn : ServerConn options}
    {value : Unit} (found : s.heap p = some conn) (waiting : conn.state = .handshake1)
    (heard : HeardBare m.log m.self data)
    (returned : Returns (serverOnRawRecvHandshake1 p data) (m, s) value (m', s')) :
    ∃ events, Logged events m m' := by
  have steps : Steps ⟨m, s, []⟩ ⟨m', s', []⟩ :=
    serverOnRawRecvHandshake1_steps found waiting heard returned
  obtain ⟨events, went⟩ := steps.went
  exact ⟨events, went.toLogged⟩

/-- The messages of a packet are recorded. -/
theorem serverOnFrames_logged {p : Ptr} {frames : List Frame} {myId oppsiteId : UInt32}
    {value : Unit} (holds : s.Holds p myId oppsiteId)
    (returned : Returns (serverOnFrames p frames) (m, s) value (m', s')) :
    ∃ events, Logged events m m' := by
  obtain ⟨events, went⟩ := (serverOnFrames_steps holds returned).went
  exact ⟨events, went.toLogged⟩

/-- A packet from a known address that nobody encrypted. -/
theorem serverOnKnownAddress_silent {p : Ptr} {addr : Address v} {value : Unit}
    (known : s.mp.lookup addr = some p) (source : m.packetBuf.source options.raw = addr)
    (silent : Undecrypted m m')
    (returned : Returns (serverOnKnownAddress p) (m, s) value (m', s')) :
    s.HeardAt addr s' := by
  simp only [serverOnKnownAddress, Returns.bind_iff, deref_iff] at returned
  obtain ⟨conn, _, ⟨found, rfl⟩, returned⟩ := returned
  split at returned
  · rename_i waiting
    simp only [Returns.bind_iff, call_iff, store_iff] at returned
    obtain ⟨⟨rawInfo, data⟩, ⟨m1, _⟩, ⟨one, rfl⟩, _, _, rfl, returned⟩ := returned
    cases data with
    | none =>
      obtain ⟨-, same⟩ := Returns.pure_iff.mp returned
      obtain ⟨rfl, rfl⟩ := Prod.mk.inj same
      exact .inr ⟨p, conn, rawInfo, known, found, (recvBare_silent silent one).1, rfl⟩
    | some data =>
      obtain ⟨-, heard, -⟩ : Steps ⟨m, s, []⟩ ⟨m1, _, []⟩ ∧ _ :=
        recvBare_steps found known source one
      obtain ⟨_, rest⟩ :=
        serverOnRawRecvHandshake1_logged (m := m1) (s := s.put p { conn with rawInfo }) heap_put
          waiting (heard data rfl) returned
      have none_ := (recvBare_silent (silent.first rest) one).2
      contradiction
  · rename_i ready
    simp only [Returns.bind_iff, call_iff, store_iff] at returned
    obtain ⟨⟨next, frames⟩, ⟨m1, _⟩, ⟨one, rfl⟩, _, _, rfl, returned⟩ := returned
    obtain ⟨-, holds, -⟩ := recvSaferMulti_steps found ready known source one
    obtain ⟨_, rest⟩ := serverOnFrames_logged holds returned
    obtain ⟨rawInfo, heard, rfl, rfl⟩ := recvSaferMulti_silent (silent.first rest) one
    obtain ⟨-, same⟩ := Returns.pure_iff.mp returned
    obtain ⟨rfl, rfl⟩ := Prod.mk.inj same
    exact .inr ⟨p, conn, rawInfo, known, found, heard, rfl⟩
  · exact .inl (call_iff.mp returned).2.symm

/-- A packet from a new address that nobody encrypted. -/
theorem serverOnNewAddress_silent {addr : Address v} {value : Unit} (absent : addr ∉ s.mp)
    (source : m.packetBuf.source options.raw = addr) (silent : Undecrypted m m')
    (returned : Returns (serverOnNewAddress addr) (m, s) value (m', s')) : s' = s := by
  simp only [serverOnNewAddress, Returns.bind_iff, theServer_iff] at returned
  obtain ⟨_, _, ⟨rfl, rfl⟩, returned⟩ := returned
  split at returned
  · exact (call_iff.mp returned).2.symm
  rename_i room
  simp only [Returns.bind_iff, call_iff] at returned
  obtain ⟨look, ⟨m1, _⟩, ⟨one, rfl⟩, ⟨raw, data⟩, ⟨m2, _⟩, ⟨two, rfl⟩, returned⟩ := returned
  cases data with
  | none =>
    obtain ⟨-, same⟩ := Returns.pure_iff.mp returned
    exact (Prod.mk.inj same).2.symm
  | some data =>
    have ran := newRawInfo_ran one
    obtain ⟨-, -, heardFrom, ⟨_, -, -, absurd_⟩ |
      ⟨from_, input, message, same, read, content, logged⟩⟩ := recvBare_logged two
    · contradiction
    obtain rfl := Option.some.inj read
    have later {events : List (Event v)} (rest : Logged events m2 m') : s' = s := by
      have decrypted := (silent.second ran.toLogged).first rest _ logged input message
      exact absurd (List.mem_singleton.mpr rfl) decrypted
    dsimp only at returned
    split at returned
    · obtain ⟨-, same⟩ := Returns.pure_iff.mp returned
      exact (Prod.mk.inj same).2.symm
    rename_i long
    split at returned
    · obtain ⟨-, same⟩ := Returns.pure_iff.mp returned
      exact (Prod.mk.inj same).2.symm
    rename_i initial
    rw [not_not] at initial
    simp only [Returns.bind_iff] at returned
    obtain ⟨p, ⟨m3, s3⟩, entered, returned⟩ := returned
    have peek : raw.peek = false := by
      rw [heardFrom.peek, RawInfo.expecting_peek, newRawInfo_peek one]
    have address : raw.source = addr := by rw [from_, ran.packetBuf, source]
    have heard := logged.heard_decrypted content
    obtain ⟨-, ⟨_, kept⟩, conn, found, waiting⟩ : Steps ⟨m2, s, []⟩ ⟨m3, s3, []⟩ ∧ _ ∧ _ :=
      newEntry_steps absent (Nat.not_le.mp room) address peek
        ⟨data, heard, Nat.not_lt.mp long, rfl, initial, rfl⟩ entered
    obtain ⟨_, rest⟩ :=
      serverOnRawRecvHandshake1_logged found waiting (kept.heard heard) returned
    exact later (kept.trans rest)

/-- A packet whose source is known and that nobody encrypted, or that opens a connection of TCP. -/
theorem serverOnPeeked_silent {peeked : RawInfo options.raw} {value : Unit}
    (source : m.packetBuf.source options.raw = peeked.source)
    (silent : Undecrypted m m' ∨ options.raw.rawMode = .faketcp ∧ peeked.recvInfo.syn = true)
    (returned : Returns (serverOnPeeked peeked) (m, s) value (m', s')) :
    s.HeardAt peeked.source s' := by
  simp only [serverOnPeeked, Returns.bind_iff, theServer_iff] at returned
  obtain ⟨_, _, ⟨rfl, rfl⟩, returned⟩ := returned
  split at returned
  · simp only [Returns.bind_iff, run_iff] at returned
    obtain ⟨ready, _, ⟨-, rfl⟩, returned⟩ := returned
    split at returned
    · exact .inl (call_iff.mp returned).2.symm
    · exact .inl (call_iff.mp returned).2.symm
  · rename_i unsynced
    have silent := silent.resolve_right unsynced
    split at returned
    · rename_i absent
      exact .inl (serverOnNewAddress_silent (AList.lookup_eq_none.mp absent) source silent returned)
    · rename_i p known
      exact serverOnKnownAddress_silent known source silent returned

/-- A packet of which `my_decrypt` accepts nothing, or that opens a connection of TCP, changes
nothing at the server but what the connection at its source address received last. -/
theorem serverOnRawRecvMulti_frame {received : Option Capture} {value : Unit}
    (returned : Returns (serverOnRawRecvMulti received) (m, s) value (m', s'))
    (silent : Undecrypted m m' ∨ ∃ capture ∈ received, capture.buffered.IsSyn options) :
    s' = s ∨ ∃ capture ∈ received, s.HeardAt (capture.buffered.source options.raw) s' := by
  simp only [serverOnRawRecvMulti, Returns.bind_iff, call_iff] at returned
  obtain ⟨look, ⟨m1, _⟩, ⟨one, rfl⟩, ret, ⟨m2, _⟩, ⟨two, rfl⟩, returned⟩ := returned
  split at returned
  · obtain ⟨-, same⟩ := Returns.pure_iff.mp returned
    exact .inl (Prod.mk.inj same).2.symm
  rename_i taken
  obtain ⟨capture, rfl, buffered⟩ := preRecvRawPacket_buffered two taken
  have captured := (newRawInfo_ran one).toLogged.trans (preRecvRawPacket_logged two).1
  simp only [Returns.bind_iff, call_iff, peekRawPacket_iff] at returned
  obtain ⟨⟨peeked, seen⟩, ⟨m3, _⟩, ⟨⟨-, looked, rfl⟩, rfl⟩, returned⟩ := returned
  cases seen with
  | false => exact .inl (call_iff.mp returned).2.symm
  | true =>
    have source := (peekRaw_source looked.symm).symm
    have quiet : Undecrypted m3 m' ∨
        options.raw.rawMode = .faketcp ∧ peeked.recvInfo.syn = true := by
      refine silent.imp (fun silent => silent.second captured) fun opening => ?_
      obtain ⟨other, inside, syn⟩ := opening
      obtain rfl := Option.some.inj inside
      rw [← buffered] at syn
      exact ⟨syn.1, (peekRaw_syn syn.1 looked.symm).trans syn.2⟩
    have heard := serverOnPeeked_silent source quiet returned
    rw [← source, buffered] at heard
    exact .inr ⟨capture, rfl, heard⟩

/-- A packet that opens a connection of TCP, from port 1 of 10.0.0.1 to port 4096. -/
def openingCapture : Capture where
  packet := [0x45, 0, 0, 40, 0, 0, 0x40, 0, 64, 6, 0x26, 0xce, 10, 0, 0, 1, 10, 0, 0, 2] ++
    [0, 1, 16, 0, 0, 0, 0, 7, 0, 0, 0, 0, 0x50, 2, 0, 0, 0, 0, 0, 0]
  stale := fun _ => 0

/-- Options of a server that drops every answer and wants a checksum. -/
def guardedOptions : Options .ipv4 := { droppingOptions with crypto := ⟨.crc32, .none, false⟩ }

/-- A packet of an open connection from port 1 of 10.0.0.1, with this length, checksum and
content. -/
def guardedCapture (length checksum : UInt8) (content : Bytes) : Capture where
  packet := [0x45, 0, 0, length, 0, 0, 0x40, 0, 64, 6, 0x26, checksum, 10, 0, 0, 1, 10, 0, 0, 2] ++
    [0, 1, 16, 0, 0, 0, 0, 0, 0, 0, 0, 0, 0x50, 16, 0, 0, 0, 0, 0, 0] ++ content
  stale := fun _ => 0

/-- A handshake with its tag. -/
def guardedHandshake (id1 id2 id3 : UInt32) : Capture :=
  let message := bareMessage 0 0 (numbersToChar id1 id2 id3)
  guardedCapture 73 0xad (message ++ BigEndian.encode 4 (crc32h message).toNat)

/-- A heartbeat with a tag. -/
def guardedHeartbeat (tag : Nat) : Capture :=
  guardedCapture 64 0xb6 (BigEndian.encode 2 22 ++ saferMessage 8 5 5 typeHeartbeat 0 [] ++
    BigEndian.encode 4 tag)

/-- The server after the first handshake, with its tables written out. -/
def guardedWaiting : Machine .ipv4 × Server guardedOptions :=
  let heard := leaves (serverOnEvent plainStanding (captured (guardedHandshake 8 0 0)))
    (.start .server clockAnswers 4096, .start)
  (heard.1, { heard.2 with mp := oneEntry, constIdMp := ∅ })

/-- The server after the second handshake, with its tables written out. -/
def guardedReady : Machine .ipv4 × Server guardedOptions :=
  let heard :=
    leaves (serverOnEvent plainStanding (captured (guardedHandshake 8 5 7))) guardedWaiting
  (heard.1, { heard.2 with mp := oneEntry, constIdMp := oneClient 7 })

/-- A server that starts answers a packet that opens a connection and keeps its tables, and a server
that is ready for a client keeps them when a heartbeat has the wrong tag. -/
theorem serverOnRawRecvMulti_frame_opening :
    (∃ after, Returns (serverOnRawRecvMulti (some openingCapture))
        (.start .server (fun _ => .plain) 4096, (Server.start : Server plainOptions)) () after ∧
      (after.2 = .start ∨ ∃ capture ∈ some openingCapture,
        Server.HeardAt (capture.buffered.source plainOptions.raw) .start after.2)) ∧
    (guardedReady.2.heap 0).map ConnInfo.state = some .ready ∧
    ∃ after, Returns (serverOnRawRecvMulti (some (guardedHeartbeat 0))) guardedReady () after ∧
      (after.2 = guardedReady.2 ∨ ∃ capture ∈ some (guardedHeartbeat 0),
        guardedReady.2.HeardAt (capture.buffered.source guardedOptions.raw) after.2) := by
  have goes : resultOf (serverOnRawRecvMulti (some openingCapture))
      (.start .server (fun _ => .plain) 4096, (Server.start : Server plainOptions)) = some () := by
    decide +kernel
  have opens : openingCapture.buffered.IsSyn plainOptions := by
    refine ⟨rfl, ?_⟩
    decide +kernel
  have opened := returns_of_resultOf goes
  have refuses : resultOf (serverOnRawRecvMulti (some (guardedHeartbeat 0))) guardedReady =
      some () := by
    decide +kernel
  have silent : (leaves (serverOnRawRecvMulti (some (guardedHeartbeat 0))) guardedReady).1.log =
      guardedReady.1.log := by
    decide +kernel
  have ready : (guardedReady.2.heap 0).map ConnInfo.state = some .ready := by decide +kernel
  obtain ⟨after, refused, quiet⟩ : ∃ after,
      Returns (serverOnRawRecvMulti (some (guardedHeartbeat 0))) guardedReady () after ∧
        after.1.log = guardedReady.1.log := ⟨_, returns_of_resultOf refuses, silent⟩
  refine ⟨⟨_, opened, serverOnRawRecvMulti_frame opened (.inr ⟨_, rfl, opens⟩)⟩, ready, after,
    refused, ?_⟩
  generalize guardedReady = state at refused quiet ⊢
  obtain ⟨m, s⟩ := state
  exact serverOnRawRecvMulti_frame refused (.inl (.of_log quiet))

end Udp2raw
