import Udp2raw.Client.Uplink
import Udp2raw.Connection.TcpNumbers

/-!
# The numbers of the first handshake

In faketcp mode the client goes back to its reserved sequence number before it sends the first
handshake again, and behind what it sent afterwards. What it sent in one attempt is the part of
its packets since it entered the state, and all of that begins and acknowledges at the same
place, however often it was sent and whatever was received meanwhile.
-/
namespace Udp2raw

open Proc ClientProc

variable {v : IpVersion} {options : Options v} {route : ClientOptions v} {m m' : Machine v}
  {c c' : Client options}

/-- A packet of the attempt whose numbers are reserved: an empty segment or a handshake. -/
def RawInfo.Attempted (raw : RawInfo options.raw) (packet : Bytes) : Prop :=
  ∃ (source : RawInfo options.raw) (payload : Bytes), source.SendsPayload payload packet ∧
    source.sendInfo.seq = raw.reservedSendSeq ∧
    source.sendInfo.ackSeq = raw.sendInfo.ackSeq ∧ source.sendInfo.syn = false ∧
    (payload = [] ∨ payload.length = handshakeLen options)

/-- The connection stands behind the handshake, and all packets of the attempt have its numbers. -/
structure RawInfo.Advanced (raw : RawInfo options.raw) (packets : List Bytes) : Prop where
  /-- The sequence number goes on behind the handshake. -/
  seq : raw.sendInfo.seq = raw.reservedSendSeq + UInt32.ofNat (handshakeLen options)
  /-- The packets have the numbers of the attempt. -/
  attempted : ∀ packet ∈ packets, raw.Attempted packet

/-- A client that waits for a response to the first handshake has sent nothing in its attempt, or
stands behind what it sent. The attempt began when the client had handed so many packets to the
system. -/
def Aligned (begun : Nat) (machine : Machine v) (client : Client options) : Prop :=
  client.conn.state = .handshake1 → begun ≤ machine.wire.length ∧
    (client.conn.lastHbSentTime = 0 ∧ machine.wire.drop begun = [] ∨
      client.conn.lastHbSentTime ≠ 0 ∧ 0 < machine.now ∧
        client.conn.rawInfo.Advanced (machine.wire.drop begun))

/-- A client in another state is in no attempt. -/
theorem Aligned.of_left {begun : Nat} (left : c.conn.state ≠ .handshake1) : Aligned begun m c :=
  fun waiting => absurd waiting left

/-- A client that goes on with the same numbers and sent nothing is as far as before. -/
theorem Aligned.still {begun : Nat} (aligned : Aligned begun m c) (unsent : Unsent m m')
    (clock : m.now ≤ m'.now)
    (state : c'.conn.state = c.conn.state)
    (time : c'.conn.lastHbSentTime = c.conn.lastHbSentTime)
    (sendInfo : c'.conn.rawInfo.sendInfo = c.conn.rawInfo.sendInfo)
    (reserved : c'.conn.rawInfo.reservedSendSeq = c.conn.rawInfo.reservedSendSeq) :
    Aligned begun m' c' := by
  intro waiting
  rw [state] at waiting
  obtain ⟨inside, outcome⟩ := aligned waiting
  rw [time, unsent.wire]
  refine ⟨inside, outcome.imp id fun ⟨sent, positive, advanced⟩ =>
    ⟨sent, Nat.lt_of_lt_of_le positive clock, ?_, fun packet inside => ?_⟩⟩
  · rw [sendInfo, reserved]
    exact advanced.seq
  · obtain ⟨source, payload, sends, seq, ackSeq, rest⟩ := advanced.attempted packet inside
    exact ⟨source, payload, sends, seq.trans reserved.symm, ackSeq.trans (by rw [sendInfo]), rest⟩

/-- A client that left an attempt or was in none is in none. -/
theorem Client.Remains.left (remains : c.Remains c') (left : c.conn.state ≠ .handshake1) :
    c'.conn.state ≠ .handshake1 := by
  obtain same | idle := remains
  · rw [same]
    exact left
  · rw [idle]
    nofun

/-! ### Sending -/

/-- More packets of the attempt. -/
theorem RawInfo.Advanced.again {raw next : RawInfo options.raw} {sent packets : List Bytes}
    (earlier : raw.Advanced sent) (later : next.Advanced packets)
    (reserved : next.reservedSendSeq = raw.reservedSendSeq)
    (ackSeq : next.sendInfo.ackSeq = raw.sendInfo.ackSeq) : next.Advanced (sent ++ packets) := by
  refine ⟨later.seq, fun packet inside => ?_⟩
  obtain inside | inside := List.mem_append.mp inside
  · obtain ⟨source, payload, sends, one, two, rest⟩ := earlier.attempted packet inside
    exact ⟨source, payload, sends, one.trans reserved.symm, two.trans ackSeq.symm, rest⟩
  · exact later.attempted packet inside

/-- The sweep of the conversations sends nothing. -/
theorem clientSweep_unsent {value : Unit} (returned : Returns clientSweep (m, c) value (m', c')) :
    Unsent m m' ∧ Logged [] m m' ∧ ∃ blob convs, c' = c.withConn (c.conn.withConvs blob convs) := by
  simp only [clientSweep, Returns.bind_iff, theConn_iff, run_iff, theBlob_iff, call_iff,
    store_iff] at returned
  obtain ⟨_, _, ⟨rfl, rfl⟩, blob, _, ⟨-, rfl⟩, ⟨convs, ⟨⟩⟩, ⟨m1, _⟩, ⟨cleared, rfl⟩, returned⟩ :=
    returned
  obtain ⟨rfl, rfl⟩ := Prod.mk.inj returned
  have ran := (ConvManager.clearInactive_erased cleared).1
  exact ⟨clearInactive_unsent _ _ _ _ _ _ cleared, ran.toLogged, blob, convs, rfl⟩

section Faketcp

variable (mode : options.raw.rawMode = .faketcp) (direct : options.useTcpDummySocket = false)
  (drop : options.raw.randomDrop = 0)

include mode drop

/-- An acknowledgement and a handshake are sent from the reserved number on, and the connection
stands behind them. -/
theorem sendHandshake_advanced {raw acked sent : RawInfo options.raw} {m1 : Machine v}
    {id1 id2 id3 : UInt32} {ret : Int} (works : SendsWork m)
    (one : Returns (sendRawPayload options raw.rewound.acking []) m (acked, ret) m1)
    (two : Returns (sendHandshake options acked id1 id2 id3) m1 sent m') :
    sent.advanced.reservedSendSeq = raw.reservedSendSeq ∧
      sent.advanced.sendInfo.ackSeq = raw.sendInfo.ackSeq ∧
      ∃ packets, m'.wire = m.wire ++ packets ∧ sent.advanced.Advanced packets := by
  obtain ⟨⟨acks, first, eachAck⟩, -⟩ := sendRawPayload_packets one
  obtain rfl := sendRawPayload_tcp mode drop works one
  have later := (sendRawPayload_ran one).1.toLogged.sendsWork works
  obtain ⟨rfl, packets, second, each⟩ := sendHandshake_tcp mode drop later two
  refine ⟨rfl, rfl, acks ++ packets, ?_, rfl, fun packet inside => ?_⟩
  · rw [second, first, List.append_assoc]
  · obtain inside | inside := List.mem_append.mp inside
    · exact ⟨_, _, eachAck packet inside, rfl, rfl, rfl, .inl rfl⟩
    · obtain ⟨payload, length, sends⟩ := each packet inside
      exact ⟨_, payload, sends, rfl, rfl, rfl, .inr length⟩

include direct

/-- The first handshake is sent with the numbers of the attempt, which are new the first time. -/
theorem sendHandshake1_advanced {conn : ClientConn options} {next : RawInfo options.raw}
    (works : SendsWork m) (returned : Returns (sendHandshake1 conn) m next m') :
    (conn.lastHbSentTime ≠ 0 → next.reservedSendSeq = conn.rawInfo.reservedSendSeq ∧
      next.sendInfo.ackSeq = conn.rawInfo.sendInfo.ackSeq) ∧
      ∃ packets, m'.wire = m.wire ++ packets ∧ next.Advanced packets := by
  simp only [sendHandshake1, mode, sendBareAck, direct, Bool.false_eq_true, if_false,
    Returns.bind_iff, Returns.pure_iff] at returned
  obtain ⟨_, m1, ⟨⟨acked, ret⟩, _, one, rfl, rfl⟩, sent, _, two, rfl, rfl⟩ := returned
  obtain ⟨reserved, ackSeq, advanced⟩ := sendHandshake_advanced mode drop works one two
  refine ⟨fun again => ?_, advanced⟩
  rw [reserved, ackSeq, if_neg again]
  exact ⟨rfl, rfl⟩

/-- The first handshake is sent again with the same numbers, or for the first time. -/
theorem clientSendHandshake1_aligned {begun : Nat} {value : Unit} (works : SendsWork m)
    (aligned : Aligned begun m c) (waiting : c.conn.state = .handshake1)
    (returned : Returns clientSendHandshake1 (m, c) value (m', c')) : Aligned begun m' c' := by
  simp only [clientSendHandshake1, Returns.bind_iff, call_iff, theConn_iff] at returned
  obtain ⟨_, _, ⟨rfl, rfl⟩, time, ⟨m1, _⟩, ⟨timed, rfl⟩, returned⟩ := returned
  split at returned
  · obtain ⟨-, rfl⟩ := enter_iff.mp returned
    exact .of_left (by simp [Client.withConn])
  simp only [Returns.bind_iff, call_iff] at returned
  obtain ⟨again, ⟨m2, _⟩, ⟨retimed, rfl⟩, returned⟩ := returned
  have early := (getCurrentTime_unsent _ _ _ timed).trans (getCurrentTime_unsent _ _ _ retimed)
  have clock := (getCurrentTime_ran timed).1.trans (getCurrentTime_ran retimed).1
  split at returned
  · rename_i due
    simp only [Returns.bind_iff, call_iff, store_iff] at returned
    obtain ⟨rawInfo, ⟨m3, _⟩, ⟨sent, rfl⟩, last, ⟨m4, _⟩, ⟨stamped, rfl⟩, returned⟩ := returned
    obtain ⟨rfl, rfl⟩ := Prod.mk.inj returned
    obtain ⟨same, packets, wire, advanced⟩ :=
      sendHandshake1_advanced mode direct drop (clock.toLogged.sendsWork works) sent
    have later : m'.wire = m.wire ++ packets := by
      rw [(getCurrentTime_unsent _ _ _ stamped).wire, wire, early.wire]
    obtain ⟨begins, outcome⟩ := aligned waiting
    obtain ⟨_, _, middle, -, acked, -, shook⟩ := sendHandshake1_ran sent
    have onward := ((acked.trans shook).trans (getCurrentTime_ran stamped).1).toLogged.now
    have positive : 0 < m'.now := by
      obtain ⟨first, -⟩ | ⟨-, positive, -⟩ := outcome
      · rw [first, (getCurrentTime_ran retimed).2] at due
        have passed : elapsed m2.now 0 ≤ m2.now := elapsed_le (Nat.zero_le m2.now)
        have late : clientRetryInterval < m2.now := Nat.lt_of_lt_of_le due passed
        exact Nat.lt_of_lt_of_le (Nat.zero_lt_of_lt late) onward
      · exact Nat.lt_of_lt_of_le positive (Nat.le_trans clock.toLogged.now onward)
    have noted : last ≠ 0 := by
      rw [(getCurrentTime_ran stamped).2]
      exact positive.ne'
    intro _
    rw [later, List.drop_append_of_le_length begins, List.length_append]
    refine ⟨Nat.le_add_right_of_le begins, .inr ⟨noted, positive, ?_⟩⟩
    obtain ⟨-, nothing⟩ | ⟨again, -, sofar⟩ := outcome
    · rw [nothing, List.nil_append]
      exact advanced
    · exact sofar.again advanced (same again).1 (same again).2
  · obtain ⟨-, same⟩ := Returns.pure_iff.mp returned
    obtain ⟨rfl, rfl⟩ := Prod.mk.inj same
    exact aligned.still early clock.toLogged.now rfl rfl rfl rfl

/-- What the timer does in a state keeps the client aligned. -/
theorem clientOnState_aligned {begun : Nat} {value : Unit} (works : SendsWork m)
    (aligned : Aligned begun m c) (returned : Returns clientOnState (m, c) value (m', c')) :
    Aligned begun m' c' := by
  by_cases waiting : c.conn.state = .handshake1
  · simp only [clientOnState, Returns.bind_iff, theConn_iff] at returned
    obtain ⟨_, _, ⟨rfl, rfl⟩, returned⟩ := returned
    rw [waiting] at returned
    exact clientSendHandshake1_aligned mode direct drop works aligned waiting returned
  · obtain ⟨-, remains⟩ : ClientSteps True ⟨m, c, []⟩ ⟨m', c', []⟩ ∧ _ :=
      clientOnState_steps (fun _ _ => trivial) returned
    exact .of_left (remains.left waiting)

omit drop in
/-- A connection that begins is in no attempt yet. -/
theorem clientConnect_left {going : Bool} {value : Unit} {m1 : Machine v} {c1 : Client options}
    (idle : c.conn.state = .idle) (connected : Returns (clientConnect route) (m, c) going (m1, c1))
    (returned : Returns (if going then clientOnState else return) (m1, c1) value (m', c')) :
    c'.conn.state ≠ .handshake1 := by
  cases going with
  | true =>
    have first : c1.conn.state ≠ .handshake1 := by
      rw [clientConnect_state connected rfl, Options.firstState, mode, direct]
      nofun
    obtain ⟨-, remains⟩ : ClientSteps True ⟨m1, c1, []⟩ ⟨m', c', []⟩ ∧ _ :=
      clientOnState_steps (fun _ _ => trivial) returned
    exact remains.left first
  | false =>
    obtain ⟨-, same⟩ := Returns.pure_iff.mp returned
    obtain ⟨rfl, rfl⟩ := Prod.mk.inj same
    rw [clientConnect_idle idle connected rfl]
    nofun

/-- The timer keeps the client aligned. -/
theorem clientOnTimer_aligned {begun : Nat} {value : Unit} (works : SendsWork m)
    (aligned : Aligned begun m c) (returned : Returns (clientOnTimer route) (m, c) value (m', c')) :
    Aligned begun m' c' := by
  simp only [clientOnTimer, Returns.bind_iff, theConn_iff] at returned
  obtain ⟨⟨⟩, ⟨m1, c1⟩, sweep, _, ⟨m2, c2⟩, checked, _, _, ⟨rfl, rfl⟩, returned⟩ := returned
  obtain ⟨swept, logged, blob, convs, rfl⟩ := clientSweep_unsent sweep
  have kept : Aligned begun m1 (c.withConn (c.conn.withConvs blob convs)) :=
    aligned.still swept logged.now rfl rfl rfl rfl
  obtain ⟨-, outcome⟩ : ClientSteps True ⟨m1, _, []⟩ ⟨m2, c2, []⟩ ∧ _ :=
    clientCheckResets_steps checked
  split at returned
  · rename_i idle
    simp only [Returns.bind_iff] at returned
    obtain ⟨going, ⟨m3, c3⟩, connected, returned⟩ := returned
    exact .of_left (clientConnect_left mode direct idle connected returned)
  · rename_i busy
    obtain idle | ⟨-, rfl, rfl⟩ := outcome
    · exact absurd idle busy
    · exact clientOnState_aligned mode direct drop (logged.sendsWork works) kept returned

/-! ### Captured packets -/

/-- The answer to a `SYN` begins an attempt, from what was sent so far on. -/
theorem clientOnSynAck_aligned {value : Unit} (works : SendsWork m)
    (left : c.conn.state ≠ .handshake1)
    (returned : Returns (clientOnSynAck route) (m, c) value (m', c')) :
    Aligned m.wire.length m' c' := by
  simp only [clientOnSynAck, Returns.bind_iff, call_iff, check_iff, theConn_iff,
    store_iff] at returned
  obtain ⟨_, ⟨_, _⟩, ⟨⟨-, rfl⟩, rfl⟩, _, _, ⟨rfl, rfl⟩, ⟨raw, data⟩, ⟨m1, _⟩, ⟨parsed, rfl⟩, _, _,
    rfl, returned⟩ := returned
  have logged := (recvRawPayload_logged parsed).1
  have unsent := recvRawPayload_unsent _ _ _ _ parsed
  have stays (same : Returns (pure () : ClientProc options Unit)
      (m1, { c with conn := { c.conn with rawInfo := raw } }) value (m', c')) :
      Aligned m.wire.length m' c' := by
    obtain ⟨-, same⟩ := Returns.pure_iff.mp same
    obtain ⟨rfl, rfl⟩ := Prod.mk.inj same
    exact .of_left left
  have begins {other : RawInfo options.raw}
      (begun : Returns (clientBeginHandshake1 route)
        (m1, { c with conn := { c.conn with rawInfo := other } }) value (m', c')) :
      Aligned m.wire.length m' c' := by
    simp only [clientBeginHandshake1, Returns.bind_iff, enter_iff, call_iff, theConn_iff,
      store_iff] at begun
    obtain ⟨_, ⟨m2, _⟩, ⟨recorded, rfl⟩, time, ⟨m3, _⟩, ⟨timed, rfl⟩, _, _, ⟨rfl, rfl⟩, _, _, rfl,
      timer⟩ := begun
    have silent := (unsent.trans (record_unsent _ _ _ _ recorded)).trans
      (getCurrentTime_unsent _ _ _ timed)
    have passed := (logged.trans (record_ran recorded).toLogged).trans
      (getCurrentTime_ran timed).1.toLogged
    refine clientOnTimer_aligned mode direct drop (passed.sendsWork works) (fun _ => ?_) timer
    rw [silent.wire, List.drop_length]
    exact ⟨Nat.le_refl _, .inl ⟨rfl, rfl⟩⟩
  split at returned
  · exact stays returned
  split at returned
  · exact stays returned
  split at returned
  · exact stays returned
  split at returned
  · split at returned
    · split at returned
      · exact stays returned
      · exact begins returned
    · simp only [Returns.bind_iff, store_iff] at returned
      obtain ⟨_, _, rfl, begun⟩ := returned
      exact begins begun
  · exact stays returned

/-- What the client hears while it waits for a response keeps it aligned. -/
theorem clientOnHandshake1_aligned {begun : Nat} {value : Unit} (works : SendsWork m)
    (aligned : Aligned begun m c)
    (returned : Returns (clientOnHandshake1 route) (m, c) value (m', c')) :
    Aligned begun m' c' := by
  simp only [clientOnHandshake1, Returns.bind_iff, call_iff, theConn_iff, store_iff] at returned
  obtain ⟨_, _, ⟨rfl, rfl⟩, ⟨raw, data⟩, ⟨m1, _⟩, ⟨parsed, rfl⟩, _, _, rfl, returned⟩ := returned
  obtain ⟨-, -, heard, outcome⟩ := recvBare_logged parsed
  obtain ⟨events, logged⟩ : ∃ events, Logged events m m1 := by
    obtain ⟨events, -, logged, -⟩ | ⟨-, _, _, _, -, -, logged⟩ := outcome
    · exact ⟨events, logged⟩
    · exact ⟨_, logged⟩
  have kept : Aligned begun m1 { c with conn := { c.conn with rawInfo := raw } } :=
    aligned.still (recvBare_unsent _ _ _ _ parsed) logged.now rfl rfl heard.sendInfo
      (recvBare_reserved mode parsed)
  have stays (same : Returns (pure () : ClientProc options Unit)
      (m1, { c with conn := { c.conn with rawInfo := raw } }) value (m', c')) :
      Aligned begun m' c' := by
    obtain ⟨-, same⟩ := Returns.pure_iff.mp same
    obtain ⟨rfl, rfl⟩ := Prod.mk.inj same
    exact kept
  split at returned
  · exact stays returned
  split at returned
  · exact stays returned
  split at returned
  · exact stays returned
  split at returned
  · exact stays returned
  split at returned
  · exact stays returned
  · simp only [clientBeginHandshake2, Returns.bind_iff, enter_iff, call_iff, theConn_iff,
      store_iff] at returned
    obtain ⟨_, _, ⟨rfl, rfl⟩, _, _, rfl, _, ⟨m2, _⟩, ⟨noted, rfl⟩, _, ⟨m3, _⟩, ⟨recorded, rfl⟩,
      time, ⟨m4, _⟩, ⟨timed, rfl⟩, _, _, ⟨rfl, rfl⟩, _, _, rfl, timer⟩ := returned
    have passed := ((logged.trans (record_ran noted).toLogged).trans
      (record_ran recorded).toLogged).trans (getCurrentTime_ran timed).1.toLogged
    exact clientOnTimer_aligned mode direct drop (passed.sendsWork works)
      (.of_left (by simp [Client.withConn])) timer

omit drop in
/-- The timer of a client that is in no attempt begins none. -/
theorem clientOnTimer_left {value : Unit} (left : c.conn.state ≠ .handshake1)
    (returned : Returns (clientOnTimer route) (m, c) value (m', c')) :
    c'.conn.state ≠ .handshake1 := by
  obtain ⟨-, remains | first⟩ : ClientSteps True ⟨m, c, []⟩ ⟨m', c', []⟩ ∧ _ :=
    clientOnTimer_steps (fun _ => trivial) returned
  · exact remains.left left
  · rw [first, Options.firstState, mode, direct]
    nofun

omit drop in
/-- The messages of a session begin no attempt. -/
theorem clientOnFrames_left {myId : UInt32} {frames : List Frame} {value : Unit}
    (left : c.conn.state ≠ .handshake1)
    (returned : Returns (clientOnFrames route myId frames) (m, c) value (m', c')) :
    c'.conn.state ≠ .handshake1 := by
  induction frames generalizing m c with
  | nil =>
    obtain ⟨-, same⟩ := Returns.pure_iff.mp returned
    obtain ⟨rfl, rfl⟩ := Prod.mk.inj same
    exact left
  | cons frame frames ih =>
    simp only [clientOnFrames, clientOnRawRecvHs2OrReady, Returns.bind_iff, theConn_iff] at returned
    obtain ⟨_, ⟨m1, c1⟩, ⟨_, _, ⟨rfl, rfl⟩, handled⟩, returned⟩ := returned
    refine ih ?_ returned
    split at handled
    · obtain ⟨-, same⟩ := Returns.pure_iff.mp handled
      obtain ⟨rfl, rfl⟩ := Prod.mk.inj same
      exact left
    simp only [Returns.bind_iff] at handled
    obtain ⟨_, ⟨m2, c2⟩, completed, noted⟩ := handled
    obtain ⟨-, remains⟩ : ClientSteps True ⟨m2, c2, [⟨myId, 0, frame⟩]⟩ ⟨m1, c1, []⟩ ∧
        c2.Remains c1 := clientOnFrame_steps noted
    refine remains.left ?_
    simp only [clientCompleteHandshake, Returns.bind_iff, theConn_iff] at completed
    obtain ⟨_, _, ⟨rfl, rfl⟩, completed⟩ := completed
    split at completed
    · simp only [Returns.bind_iff, clientBecomeReady, enter_iff, call_iff, theConn_iff,
        store_iff] at completed
      obtain ⟨_, _, ⟨_, ⟨_, _⟩, ⟨-, rfl⟩, _, ⟨_, _⟩, ⟨-, rfl⟩, _, _, ⟨rfl, rfl⟩, rfl⟩, timer⟩ :=
        completed
      exact clientOnTimer_left mode direct (by simp [Client.withConn]) timer
    · obtain ⟨-, same⟩ := Returns.pure_iff.mp completed
      obtain ⟨rfl, rfl⟩ := Prod.mk.inj same
      exact left

/-- A packet in the buffer keeps the client aligned, or begins an attempt. -/
theorem clientOnBuffered_aligned {begun : Nat} {value : Unit} (works : SendsWork m)
    (aligned : Aligned begun m c)
    (returned : Returns (clientOnBuffered route) (m, c) value (m', c')) :
    Aligned (if c.conn.state = .handshake1 then begun else m.wire.length) m' c' := by
  simp only [clientOnBuffered, Returns.bind_iff, theConn_iff] at returned
  obtain ⟨_, _, ⟨rfl, rfl⟩, returned⟩ := returned
  have safer (inUse : c.conn.state ∈ [ClientState.handshake2, .ready])
      (handled : Returns (clientOnSafer route) (m, c) value (m', c')) :
      Aligned m.wire.length m' c' := by
    simp only [clientOnSafer, Returns.bind_iff, theConn_iff, call_iff, store_iff] at handled
    obtain ⟨_, _, ⟨rfl, rfl⟩, ⟨next, frames⟩, ⟨m1, _⟩, ⟨ran, rfl⟩, _, _, rfl, handled⟩ := handled
    obtain ⟨rawInfo, parsed, -, -, -, -, receives⟩ := recvSaferMulti_receives ran
    obtain ⟨-, state, -⟩ :
        ClientSteps True ⟨parsed, c.withConn { c.conn with rawInfo }, []⟩ _ ∧ _ :=
      receives_clientSteps inUse receives
    refine .of_left (clientOnFrames_left mode direct ?_ handled)
    intro waiting
    have before : c.conn.state = .handshake1 := state.symm.trans waiting
    rw [before] at inUse
    exact absurd inUse (by decide)
  cases state : c.conn.state with
  | idle =>
    rw [state] at returned
    obtain ⟨-, same⟩ := call_iff.mp returned
    obtain rfl : c = c' := same
    exact .of_left (by simp [state])
  | tcpHandshake =>
    rw [state] at returned
    exact clientOnSynAck_aligned mode direct drop works (by simp [state]) returned
  | tcpHandshakeDummy =>
    rw [state] at returned
    exact clientOnSynAck_aligned mode direct drop works (by simp [state]) returned
  | handshake1 =>
    rw [state] at returned
    exact clientOnHandshake1_aligned mode direct drop works aligned returned
  | handshake2 =>
    rw [state] at returned
    exact safer (by simp [state]) returned
  | ready =>
    rw [state] at returned
    exact safer (by simp [state]) returned

end Faketcp

end Udp2raw
