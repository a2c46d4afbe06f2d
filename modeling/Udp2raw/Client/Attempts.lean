import Udp2raw.Client.HandshakeNumbers

/-!
# Attempts of the first handshake

Every event of the client keeps it aligned: it goes on with its attempt, gives it up, or begins
another one. In every run the packets of the attempt it is in therefore have one place in the
stream, and the connection stands behind them.
-/
namespace Udp2raw

open Proc ClientProc

variable {v : IpVersion} {options : Options v} {route : ClientOptions v} {m m' : Machine v}
  {c c' : Client options} {begun : Nat}

/-! ### Datagrams and commands -/

/-- The conversation of a peer is found without sending anything. -/
theorem convOf_unsent (manager : ConvManager LocalAddress) (addr : LocalAddress) :
    Keeps Unsent (manager.convOf addr : Proc v _) :=
  unsent_ite (unsent_pure _) (unsent_ite (unsent_pure _)
    (unsent_bind (getNewConv_unsent manager) fun _ =>
      unsent_bind (insertConv_unsent manager _ _) fun _ => unsent_pure _))

/-- A datagram is sent in an established session only. -/
theorem clientSendData_aligned {bytes : Bytes} {conv : UInt32} {value : Unit}
    (aligned : Aligned begun m c)
    (returned : Returns (clientSendData bytes conv) (m, c) value (m', c')) :
    Aligned begun m' c' := by
  simp only [clientSendData, Returns.bind_iff, theConn_iff] at returned
  obtain ⟨_, _, ⟨rfl, rfl⟩, returned⟩ := returned
  split at returned
  · rename_i ready
    simp only [Returns.bind_iff, call_iff, store_iff] at returned
    obtain ⟨next, ⟨m1, _⟩, ⟨sent, rfl⟩, returned⟩ := returned
    obtain ⟨rfl, rfl⟩ := Prod.mk.inj returned
    obtain ⟨_, _, _, kept, -, -⟩ := sendDataSafer_ran sent
    have still : next.state = .ready := kept.state.trans ready
    apply Aligned.of_left
    rw [show (c.withConn next).conn.state = next.state from rfl, still]
    simp
  · obtain ⟨-, same⟩ := Returns.pure_iff.mp returned
    obtain ⟨rfl, rfl⟩ := Prod.mk.inj same
    exact aligned

/-- A datagram of a local peer keeps the client aligned. -/
theorem clientForward_aligned {addr : LocalAddress} {bytes : Bytes} {value : Unit}
    (aligned : Aligned begun m c)
    (returned : Returns (clientForward addr bytes) (m, c) value (m', c')) :
    Aligned begun m' c' := by
  simp only [clientForward, Returns.bind_iff, theConn_iff, run_iff, theBlob_iff,
    call_iff] at returned
  obtain ⟨_, _, ⟨rfl, rfl⟩, blob, _, ⟨allocated, rfl⟩, result, ⟨m1, _⟩, ⟨looked, rfl⟩, returned⟩ :=
    returned
  split at returned
  · obtain ⟨-, same⟩ := Returns.pure_iff.mp returned
    obtain ⟨rfl, rfl⟩ := Prod.mk.inj same
    have stands : m1 = m := convOf_none looked
    rw [stands]
    exact aligned
  rename_i conv convs
  simp only [Returns.bind_iff, call_iff, store_iff] at returned
  obtain ⟨_, ⟨m2, _⟩, ⟨noted, rfl⟩, used, ⟨m3, _⟩, ⟨updated, rfl⟩, _, _, rfl, returned⟩ := returned
  obtain ⟨-, -, events, sofar⟩ : ClientSteps True ⟨m, c, []⟩
      ⟨m2, c.withConn (c.conn.withConvs blob convs), []⟩ ∧ _ := convOf_steps allocated looked noted
  have ran := (ConvManager.updateActiveTime_ran updated).1
  have noting : Unsent m1 m2 := unsent_ite (unsent_pure _) (record_unsent _) _ _ _ noted
  have silent := ((convOf_unsent _ _ _ _ _ looked).trans noting).trans
    (updateActiveTime_unsent _ _ _ _ _ updated)
  have clock := (sofar.trans ran).toLogged.now
  have kept : Aligned begun m3 (c.withConn (c.conn.withConvs blob used)) :=
    aligned.still silent clock rfl rfl rfl rfl
  exact clientSendData_aligned kept returned

/-- A datagram that was received keeps the client aligned. -/
theorem clientOnUdpRecv_aligned {received : Option (LocalAddress × Bytes)} {value : Unit}
    (aligned : Aligned begun m c)
    (returned : Returns (clientOnUdpRecv received) (m, c) value (m', c')) :
    Aligned begun m' c' := by
  have stays (same : Returns (pure () : ClientProc options Unit) (m, c) value (m', c')) :
      Aligned begun m' c' := by
    obtain ⟨-, same⟩ := Returns.pure_iff.mp same
    obtain ⟨rfl, rfl⟩ := Prod.mk.inj same
    exact aligned
  unfold clientOnUdpRecv at returned
  split at returned
  · exact stays returned
  split at returned
  · exact stays returned
  simp only [Returns.bind_iff, call_iff] at returned
  obtain ⟨_, ⟨m1, _⟩, ⟨recorded, rfl⟩, returned⟩ := returned
  have kept : Aligned begun m1 c := aligned.still (record_unsent _ _ _ _ recorded)
    (record_ran recorded).toLogged.now rfl rfl rfl rfl
  exact clientForward_aligned kept returned

/-- A command may give the attempt up. -/
theorem fifoCb_aligned {bytes : Option Bytes} {value : Unit} (aligned : Aligned begun m c)
    (returned : Returns (fifoCb bytes) (m, c) value (m', c')) : Aligned begun m' c' := by
  have stays (same : Returns (pure () : ClientProc options Unit) (m, c) value (m', c')) :
      Aligned begun m' c' := by
    obtain ⟨-, same⟩ := Returns.pure_iff.mp same
    obtain ⟨rfl, rfl⟩ := Prod.mk.inj same
    exact aligned
  unfold fifoCb at returned
  split at returned
  · exact stays returned
  split at returned
  · exact absurd returned Returns.throw_iff
  split at returned
  · obtain ⟨-, idle⟩ : ClientSteps True ⟨m, c, []⟩ ⟨m', c', []⟩ ∧ _ := backToIdle_steps returned
    apply Aligned.of_left
    rw [idle]
    nofun
  · exact stays returned

/-! ### Events -/

section Faketcp

variable (mode : options.raw.rawMode = .faketcp) (direct : options.useTcpDummySocket = false)
  (drop : options.raw.randomDrop = 0)

include mode direct drop

/-- A captured packet keeps the client aligned, or begins an attempt. -/
theorem clientOnRawRecv_aligned {received : Option Capture} {value : Unit} (works : SendsWork m)
    (aligned : Aligned begun m c)
    (returned : Returns (clientOnRawRecv route received) (m, c) value (m', c')) :
    Aligned (if c.conn.state = .handshake1 then begun else m.wire.length) m' c' := by
  rw [clientOnRawRecv, Returns.bind_iff] at returned
  obtain ⟨ret, ⟨m1, _⟩, captured, returned⟩ := returned
  obtain ⟨buffered, rfl⟩ := call_iff.mp captured
  have wire := preRecvRawPacket_wire buffered
  obtain ⟨logged, -, -⟩ := preRecvRawPacket_logged buffered
  have kept : Aligned begun m1 c := by
    intro waiting
    obtain ⟨inside, outcome⟩ := aligned waiting
    rw [wire]
    refine ⟨inside, outcome.imp id fun counted => ?_⟩
    obtain ⟨sent, positive, advanced⟩ := counted
    exact ⟨sent, Nat.lt_of_lt_of_le positive logged.now, advanced⟩
  split at returned
  · obtain ⟨-, same⟩ := Returns.pure_iff.mp returned
    obtain ⟨rfl, rfl⟩ := Prod.mk.inj same
    by_cases waiting : c.conn.state = .handshake1
    · rw [if_pos waiting]
      exact kept
    · exact .of_left waiting
  · rw [← wire]
    exact clientOnBuffered_aligned mode direct drop (logged.sendsWork works) kept returned

/-- Every event keeps the client aligned, or begins an attempt. -/
theorem clientOnEvent_aligned {event : ClientEvent} {value : Unit} (works : SendsWork m)
    (aligned : Aligned begun m c)
    (returned : Returns (clientOnEvent route event) (m, c) value (m', c')) :
    Aligned (if c.conn.state = .handshake1 then begun else m.wire.length) m' c' := by
  have other : Aligned (if c.conn.state = .handshake1 then begun else m.wire.length) m c := by
    by_cases waiting : c.conn.state = .handshake1
    · rw [if_pos waiting]
      exact aligned
    · exact .of_left waiting
  cases event with
  | timer => exact clientOnTimer_aligned mode direct drop works other returned
  | raw received => exact clientOnRawRecv_aligned mode direct drop works aligned returned
  | udp received => exact clientOnUdpRecv_aligned other returned
  | fifo bytes => exact fifoCb_aligned other returned

end Faketcp

/-! ### Runs -/

section Runs

variable {answers : Nat → Answer v} {filterPort : UInt16}
  {history : List (ClientEvent × (Machine v × Client options))}
  {state : Machine v × Client options}

/-- How many packets the client had sent when the attempt began that it is in. -/
def attemptStart (history : List (ClientEvent × (Machine v × Client options))) : Nat :=
  history.foldl (fun begun (_, before) =>
    if before.2.conn.state = .handshake1 then begun else before.1.wire.length) 0

/-- The packets of the attempt that the client is in. -/
def attemptPackets (history : List (ClientEvent × (Machine v × Client options)))
    (state : Machine v × Client options) : List Bytes :=
  state.1.wire.drop (attemptStart history)

/-- The last event decides whether the attempt goes on. -/
theorem attemptStart_append (event : ClientEvent) (before : Machine v × Client options) :
    attemptStart (history ++ [(event, before)]) =
      if before.2.conn.state = .handshake1 then attemptStart history
      else before.1.wire.length := by
  rw [attemptStart, List.foldl_append]
  rfl

/-- The system goes on taking packets in every run. -/
theorem ClientRun.sendsWork (run : ClientRun options route answers filterPort history state)
    (works : ∀ asked, (answers asked).send.sendtoOk = true) : SendsWork state.1 := by
  induction run with
  | start returned =>
    simp only [clientStart, Returns.bind_iff, Returns.pure_iff] at returned
    obtain ⟨conn, m1, one, myId, m2, two, prepared, m3, three, -, rfl⟩ := returned
    have ran := ((newConnInfo_ran one).1.trans (drawMyId_ran two).1).trans (prepare_ran three).1
    exact ran.toLogged.sendsWork works
  | @event history before after event _ returned ih =>
    obtain ⟨m1, logged, steps⟩ := @clientOnEvent_steps v options route True before.1 after.1
      before.2 after.2 event () (fun _ => trivial) returned
    obtain ⟨events, filterPort, went⟩ := steps.advanced
    exact went.toLogged.sendsWork (logged.sendsWork ih)

/-- In every run the client is aligned with the packets of its attempt. -/
theorem ClientRun.aligned (mode : options.raw.rawMode = .faketcp)
    (direct : options.useTcpDummySocket = false) (drop : options.raw.randomDrop = 0)
    (works : ∀ asked, (answers asked).send.sendtoOk = true)
    (run : ClientRun options route answers filterPort history state) :
    Aligned (attemptStart history) state.1 state.2 := by
  induction run with
  | start returned =>
    simp only [clientStart, Returns.bind_iff, Returns.pure_iff] at returned
    obtain ⟨conn, m1, one, myId, m2, two, prepared, m3, three, rfl, -⟩ := returned
    obtain ⟨-, -, blob, rfl, -⟩ := prepare_ran three
    have idle : conn.state = .idle := (newConnInfo_ran one).2.1
    apply Aligned.of_left
    show conn.state ≠ .handshake1
    rw [idle]
    simp
  | @event history before after event earlier returned ih =>
    rw [attemptStart_append]
    exact clientOnEvent_aligned mode direct drop (earlier.sendsWork works) ih returned

end Runs

end Udp2raw
