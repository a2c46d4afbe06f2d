import Udp2raw.Client.Effects

/-!
# The event loop of the client

The messages, packets, datagrams and commands of the client as sequences of steps, and with
them every event. A reachable state of the client is one that a run of its event loop passes
through.
-/
namespace Udp2raw

open Proc ClientProc

variable {v : IpVersion} {options : Options v} {route : ClientOptions v} {lenient : Prop}
  {m m' : Machine v} {c c' : Client options} {inbox : List Pending}

/-! ### Messages of the session -/

/-- A sign of life is a time that is noted. -/
theorem clientNoteHeartbeat_steps {value : Unit}
    (returned : Returns clientNoteHeartbeat (m, c) value (m', c')) :
    ClientSteps lenient ⟨m, c, inbox⟩ ⟨m', c', inbox⟩ ∧ c.Remains c' := by
  simp only [clientNoteHeartbeat, Returns.bind_iff, call_iff, theConn_iff, store_iff] at returned
  obtain ⟨time, ⟨m1, _⟩, ⟨timed, rfl⟩, _, _, ⟨rfl, rfl⟩, returned⟩ := returned
  obtain ⟨rfl, rfl⟩ := Prod.mk.inj returned
  have steady : c.conn.Steady { c.conn with lastHbRecvTime := time } :=
    ⟨rfl, rfl, rfl, (ConnInfo.Steady.refl c.conn).blob⟩
  exact ⟨quiet_ran (getCurrentTime_ran timed).1 steady, .inl rfl⟩

/-- Data may be a sign of life. -/
theorem clientNoteData_steps {value : Unit}
    (returned : Returns clientNoteData (m, c) value (m', c')) :
    ClientSteps lenient ⟨m, c, inbox⟩ ⟨m', c', inbox⟩ ∧ c.Remains c' := by
  unfold clientNoteData at returned
  split at returned
  · exact clientNoteHeartbeat_steps returned
  · obtain ⟨-, same⟩ := Returns.pure_iff.mp returned
    obtain ⟨rfl, rfl⟩ := Prod.mk.inj same
    exact ⟨.refl, .inl rfl⟩

/-- A message of a known conversation is delivered, one of another is skipped. -/
theorem clientDeliver_steps {pending : Pending} {value : Unit}
    (type : pending.frame.type = typeData) (long : 4 ≤ pending.frame.data.length)
    (returned : Returns (clientDeliver pending.myId pending.frame) (m, c) value (m', c')) :
    ClientSteps lenient ⟨m, c, pending :: inbox⟩ ⟨m', c', inbox⟩ ∧ c.Remains c' := by
  simp only [clientDeliver, Returns.bind_iff, theConn_iff, run_iff, theBlob_iff] at returned
  obtain ⟨_, _, ⟨rfl, rfl⟩, blob, _, ⟨allocated, rfl⟩, returned⟩ := returned
  split at returned
  · obtain ⟨-, same⟩ := Returns.pure_iff.mp returned
    obtain ⟨rfl, rfl⟩ := Prod.mk.inj same
    exact ⟨.single .skipped, .inl rfl⟩
  rename_i used
  rw [Bool.not_eq_false] at used
  simp only [Returns.bind_iff, call_iff, store_iff] at returned
  obtain ⟨convs, ⟨m1, _⟩, ⟨updated, rfl⟩, _, _, rfl, recorded, same⟩ := returned
  obtain rfl : c.withConn (c.conn.withConvs blob convs) = c' := same
  obtain ⟨ran, sameConvs, -⟩ := ConvManager.updateActiveTime_ran updated
  have known : idAt pending.frame.data 0 ∈ blob.convManager.convToData := of_decide_eq_true used
  obtain ⟨addr, stored⟩ := Table.mem_iff_lookup.mp known
  have kept : convs.convToData.lookup (idAt pending.frame.data 0) = some addr := by
    rw [sameConvs.convToData, stored]
  have found : convs.findDataByConv (idAt pending.frame.data 0) = addr := by
    rw [ConvManager.findDataByConv, kept, Option.getD_some]
  rw [found] at recorded
  have touched : ClientSteps lenient ⟨m, c, pending :: inbox⟩
      ⟨m1, c.withConn (c.conn.withConvs blob convs), pending :: inbox⟩ :=
    quiet_ran ran (.of_withConvs allocated sameConvs)
  exact ⟨touched.tail (.delivered rfl kept type long (record_ran recorded).went), .inl rfl⟩

/-- A message is handled in steps. -/
theorem clientOnFrame_steps {pending : Pending} {value : Unit}
    (returned : Returns (clientOnFrame pending.myId pending.frame) (m, c) value (m', c')) :
    ClientSteps lenient ⟨m, c, pending :: inbox⟩ ⟨m', c', inbox⟩ ∧ c.Remains c' := by
  unfold clientOnFrame at returned
  split at returned
  · obtain ⟨steps, remains⟩ := clientNoteHeartbeat_steps returned
    exact ⟨steps.tail .skipped, remains⟩
  split at returned
  · rename_i data
    simp only [Returns.bind_iff] at returned
    obtain ⟨_, ⟨m1, c1⟩, noted, delivered⟩ := returned
    obtain ⟨first, stays⟩ := clientNoteData_steps noted
    obtain ⟨second, remains⟩ := clientDeliver_steps data.1 data.2 delivered
    exact ⟨first.trans second, stays.trans remains⟩
  · obtain ⟨-, same⟩ := Returns.pure_iff.mp returned
    obtain ⟨rfl, rfl⟩ := Prod.mk.inj same
    exact ⟨.single .skipped, .inl rfl⟩

/-- The handshake is complete. -/
theorem clientBecomeReady_steps {pending : Pending} {value : Unit}
    (waiting : c.conn.state = .handshake2)
    (returned : Returns clientBecomeReady (m, c) value (m', c')) :
    ClientSteps lenient ⟨m, c, pending :: inbox⟩ ⟨m', c', pending :: inbox⟩ ∧
      c'.conn.state = .ready := by
  simp only [clientBecomeReady, Returns.bind_iff, enter_iff, call_iff, theConn_iff,
    store_iff] at returned
  obtain ⟨_, ⟨m1, _⟩, ⟨recorded, rfl⟩, time, ⟨m2, _⟩, ⟨timed, rfl⟩, _, _, ⟨rfl, rfl⟩, returned⟩ :=
    returned
  obtain ⟨rfl, rfl⟩ := Prod.mk.inj returned
  have ready : ClientStep lenient ⟨m, c, pending :: inbox⟩
      ⟨m1, c.withConn { c.conn with state := .ready }, pending :: inbox⟩ :=
    .becameReady waiting (record_ran recorded).went
  exact ⟨.head ready (quiet_ran (getCurrentTime_ran timed).1
    ⟨rfl, rfl, rfl, (ConnInfo.Steady.refl _).blob⟩), rfl⟩

/-- No state that a connection starts in is the second handshake. -/
theorem firstState_ne (options : Options v) : options.firstState ≠ .handshake2 := by
  intro same
  have early := firstState_early options
  rw [same] at early
  exact absurd early (by decide)

/-- The first good message completes the handshake; then the client does not wait for one any
more. -/
theorem clientCompleteHandshake_steps {pending : Pending} {value : Unit}
    (allowed : ∀ entered, c.conn.state = .handshake2 →
      Returns clientBecomeReady (m, c) () entered → TimerLapses entered → lenient)
    (returned : Returns (clientCompleteHandshake route) (m, c) value (m', c')) :
    ClientSteps lenient ⟨m, c, pending :: inbox⟩ ⟨m', c', pending :: inbox⟩ ∧
      c'.conn.state ≠ .handshake2 := by
  simp only [clientCompleteHandshake, Returns.bind_iff, theConn_iff] at returned
  obtain ⟨_, _, ⟨rfl, rfl⟩, returned⟩ := returned
  split at returned
  · rename_i waiting
    simp only [Returns.bind_iff] at returned
    obtain ⟨⟨⟩, ⟨m1, c1⟩, became, timer⟩ := returned
    obtain ⟨first, ready⟩ := clientBecomeReady_steps waiting became
    obtain ⟨second, outcome⟩ := clientOnTimer_steps (allowed _ waiting became) timer
    refine ⟨first.trans second, fun again => ?_⟩
    obtain (same | idle) | began := outcome
    · rw [same, ready] at again
      contradiction
    · rw [idle] at again
      contradiction
    · exact firstState_ne options (began.symm.trans again)
  · rename_i other
    obtain ⟨-, same⟩ := Returns.pure_iff.mp returned
    obtain ⟨rfl, rfl⟩ := Prod.mk.inj same
    exact ⟨.refl, other⟩

/-- One message of a packet is handled in steps. Afterwards the client does not wait for a message
any more, unless the packet came from elsewhere. -/
theorem clientOnRawRecvHs2OrReady_steps {pending : Pending} {value : Unit}
    (allowed : ∀ entered, c.conn.state = .handshake2 →
      c.conn.rawInfo.source = c.conn.rawInfo.destination →
      Returns clientBecomeReady (m, c) () entered → TimerLapses entered → lenient)
    (returned : Returns (clientOnRawRecvHs2OrReady route pending.myId pending.frame) (m, c) value
      (m', c')) :
    ClientSteps lenient ⟨m, c, pending :: inbox⟩ ⟨m', c', inbox⟩ ∧
      (c'.conn.state ≠ .handshake2 ∨
        c.conn.rawInfo.source ≠ c.conn.rawInfo.destination ∧ c' = c) := by
  simp only [clientOnRawRecvHs2OrReady, Returns.bind_iff, theConn_iff] at returned
  obtain ⟨_, _, ⟨rfl, rfl⟩, returned⟩ := returned
  split at returned
  · rename_i elsewhere
    obtain ⟨-, same⟩ := Returns.pure_iff.mp returned
    obtain ⟨rfl, rfl⟩ := Prod.mk.inj same
    exact ⟨.single .skipped, .inr ⟨elsewhere, rfl⟩⟩
  rename_i here
  rw [ne_eq, not_not] at here
  simp only [Returns.bind_iff] at returned
  obtain ⟨_, ⟨m1, c1⟩, completed, handled⟩ := returned
  obtain ⟨first, past⟩ := clientCompleteHandshake_steps
    (fun entered waiting became => allowed entered waiting here became) completed
  obtain ⟨second, remains⟩ := clientOnFrame_steps handled
  refine ⟨first.trans second, .inl fun again => ?_⟩
  obtain same | idle := remains
  · exact past (same.symm.trans again)
  · rw [idle] at again
    contradiction

/-- The messages of one packet are handled one after the other. Only the first one may complete the
handshake. -/
theorem clientOnFrames_steps {myId oppsiteId : UInt32} {frames : List Frame} {value : Unit}
    (allowed : ∀ entered, frames ≠ [] → c.conn.state = .handshake2 →
      c.conn.rawInfo.source = c.conn.rawInfo.destination →
      Returns clientBecomeReady (m, c) () entered → TimerLapses entered → lenient)
    (returned : Returns (clientOnFrames route myId frames) (m, c) value (m', c')) :
    ClientSteps lenient ⟨m, c, frames.map fun frame => ⟨myId, oppsiteId, frame⟩⟩
      ⟨m', c', []⟩ := by
  induction frames generalizing m c with
  | nil =>
    obtain ⟨-, same⟩ := Returns.pure_iff.mp returned
    obtain ⟨rfl, rfl⟩ := Prod.mk.inj same
    exact .refl
  | cons frame frames ih =>
    simp only [clientOnFrames, Returns.bind_iff] at returned
    obtain ⟨_, ⟨m1, c1⟩, handled, returned⟩ := returned
    let waiting := frames.map fun frame => Pending.mk myId oppsiteId frame
    obtain ⟨first, outcome⟩ : ClientSteps lenient ⟨m, c, ⟨myId, oppsiteId, frame⟩ :: waiting⟩
        ⟨m1, c1, waiting⟩ ∧ _ :=
      clientOnRawRecvHs2OrReady_steps (fun entered => allowed entered (List.cons_ne_nil _ _))
        handled
    refine first.trans (ih (fun entered _ waiting here => ?_) returned)
    obtain past | ⟨elsewhere, rfl⟩ := outcome
    · exact absurd waiting past
    · exact absurd here elsewhere

/-! ### Captured packets -/

/-- A receipt is one step. -/
theorem receipt_clientSteps {next : ClientConn options} {frame : Option Frame}
    (waiting : c.conn.state ∈ [ClientState.handshake2, .ready])
    (receipt : Receipt (c.conn, m) frame (next, m')) :
    ClientSteps lenient ⟨m, c, inbox⟩ ⟨m', c.withConn next,
      inbox ++ frame.toList.map fun found => ⟨c.conn.myId, c.conn.oppsiteId, found⟩⟩ ∧
      next.state = c.conn.state ∧ next.myId = c.conn.myId ∧ next.oppsiteId = c.conn.oppsiteId := by
  generalize start : (c.conn, m) = before at receipt
  generalize finish : (next, m') = after at receipt
  cases receipt with
  | dropped minor ran =>
    obtain ⟨rfl, rfl⟩ := Prod.mk.inj start
    obtain ⟨rfl, rfl⟩ := Prod.mk.inj finish
    refine ⟨?_, rfl, rfl, rfl⟩
    rw [Option.toList_none, List.map_nil, List.append_nil]
    exact .single (.quiet minor (.refl _) ran.went)
  | accepted allocated valid kept content ran =>
    obtain ⟨rfl, rfl⟩ := Prod.mk.inj start
    obtain ⟨rfl, rfl⟩ := Prod.mk.inj finish
    exact ⟨.single (.accepted waiting allocated valid (.of_kept kept) content ran.went),
      kept.state, kept.myId, kept.oppsiteId⟩

/-- The receipts of one packet are steps, and its messages wait to be handled. -/
theorem receives_clientSteps {next : ClientConn options} {frames : List Frame}
    (waiting : c.conn.state ∈ [ClientState.handshake2, .ready])
    (receives : Receives (c.conn, m) frames (next, m')) :
    ClientSteps lenient ⟨m, c, inbox⟩ ⟨m', c.withConn next,
      inbox ++ frames.map fun frame => ⟨c.conn.myId, c.conn.oppsiteId, frame⟩⟩ ∧
      next.state = c.conn.state ∧ next.myId = c.conn.myId ∧ next.oppsiteId = c.conn.oppsiteId := by
  generalize start : (c.conn, m) = before at receives
  generalize finish : (next, m') = after at receives
  induction receives generalizing c m inbox with
  | done =>
    obtain ⟨rfl, rfl⟩ := Prod.mk.inj (finish.trans start.symm)
    refine ⟨?_, rfl, rfl, rfl⟩
    rw [List.map_nil, List.append_nil]
    exact .refl
  | @next _ middle _ frame frames receipt rest ih =>
    subst start
    obtain ⟨between, m1⟩ := middle
    obtain ⟨first, state, myId, oppsiteId⟩ := receipt_clientSteps waiting receipt
    have still : between.state ∈ [ClientState.handshake2, .ready] := by rwa [state]
    obtain ⟨others, finalState, finalMyId, finalOppsiteId⟩ :=
      @ih m1 (c.withConn between) _ still rfl finish
    refine ⟨?_, finalState.trans state, finalMyId.trans myId, finalOppsiteId.trans oppsiteId⟩
    have later := first.trans others
    rw [List.append_assoc] at later
    simpa [Client.withConn, myId, oppsiteId] using later

/-- The buffered packet completes the handshake, and the timer that is called then lapses. -/
def MessageLapses (before : Machine v × Client options) : Prop :=
  before.2.conn.state = .handshake2 ∧ ∃ conn frames middle entered,
    Returns (recvSaferMulti before.2.conn) before.1 (conn, frames) middle ∧ frames ≠ [] ∧
    conn.rawInfo.source = conn.rawInfo.destination ∧
    Returns clientBecomeReady (middle, before.2.withConn conn) () entered ∧ TimerLapses entered

/-- A packet of the session is received and its messages are handled in steps. -/
theorem clientOnSafer_steps {value : Unit}
    (waiting : c.conn.state ∈ [ClientState.handshake2, .ready])
    (allowed : MessageLapses (m, c) → lenient)
    (returned : Returns (clientOnSafer route) (m, c) value (m', c')) :
    ClientSteps lenient ⟨m, c, []⟩ ⟨m', c', []⟩ := by
  simp only [clientOnSafer, Returns.bind_iff, theConn_iff, call_iff, store_iff] at returned
  obtain ⟨_, _, ⟨rfl, rfl⟩, ⟨next, frames⟩, ⟨m1, _⟩, ⟨ran, rfl⟩, _, _, rfl, returned⟩ := returned
  obtain ⟨rawInfo, middle, logged, full, count, heard, receives⟩ := recvSaferMulti_receives ran
  have parsed : ClientStep lenient ⟨m, c, []⟩
      ⟨middle, c.withConn { c.conn with rawInfo }, []⟩ :=
    .quiet minor_nil ⟨rfl, rfl, rfl, (ConnInfo.Steady.refl c.conn).blob⟩ (logged.went full count)
  obtain ⟨received, state, myId, oppsiteId⟩ :=
    @receives_clientSteps v options lenient middle m1 (c.withConn { c.conn with rawInfo }) []
      next frames waiting receives
  have handled := @clientOnFrames_steps v options route lenient m1 m' (c.withConn next) c'
    next.myId next.oppsiteId frames value
    (fun entered some waiting here became lapses => allowed
      ⟨state.symm.trans waiting, next, frames, m1, entered, ran, some, here, became, lapses⟩)
    returned
  rw [List.nil_append] at received
  rw [myId, oppsiteId] at handled
  exact .head parsed (received.trans handled)

/-- The time of a state is noted with it. -/
theorem noted_steps {time : Nat} (timed : Returns getCurrentTime m time m') :
    ClientSteps lenient ⟨m, c, inbox⟩
      ⟨m', c.withConn { c.conn with lastStateTime := time, lastHbSentTime := 0 }, inbox⟩ :=
  quiet_ran (getCurrentTime_ran timed).1 ⟨rfl, rfl, rfl, (ConnInfo.Steady.refl c.conn).blob⟩

/-- The client begins the first handshake in steps. -/
theorem clientBeginHandshake1_steps {value : Unit}
    (before : c.conn.state ∈ [ClientState.tcpHandshake, .tcpHandshakeDummy])
    (returned : Returns (clientBeginHandshake1 route) (m, c) value (m', c')) :
    ClientSteps lenient ⟨m, c, inbox⟩ ⟨m', c', inbox⟩ := by
  simp only [clientBeginHandshake1, Returns.bind_iff, enter_iff, call_iff, theConn_iff,
    store_iff] at returned
  obtain ⟨_, ⟨m1, _⟩, ⟨recorded, rfl⟩, time, ⟨m2, _⟩, ⟨timed, rfl⟩, _, _, ⟨rfl, rfl⟩, _, _, rfl,
    timer⟩ := returned
  have began : ClientSteps lenient ⟨m, c, inbox⟩
      ⟨m1, c.withConn { c.conn with state := .handshake1 }, inbox⟩ :=
    .single (.began (List.mem_cons_of_mem _ before) (by decide) (record_ran recorded).went)
  have noted := began.trans (noted_steps timed)
  obtain ⟨rest, -⟩ := clientOnTimer_steps
    (fun lapses => nomatch show ClientState.handshake1 = .ready from lapses.1) timer
  exact noted.trans rest

/-- The answer to a `SYN` leads to the first handshake, in steps. -/
theorem clientOnSynAck_steps {value : Unit}
    (before : c.conn.state ∈ [ClientState.tcpHandshake, .tcpHandshakeDummy])
    (returned : Returns (clientOnSynAck route) (m, c) value (m', c')) :
    ClientSteps lenient ⟨m, c, inbox⟩ ⟨m', c', inbox⟩ := by
  simp only [clientOnSynAck, Returns.bind_iff, call_iff, check_iff, theConn_iff,
    store_iff] at returned
  obtain ⟨_, ⟨_, _⟩, ⟨⟨-, rfl⟩, rfl⟩, _, _, ⟨rfl, rfl⟩, ⟨raw, data⟩, ⟨m1, _⟩, ⟨parsed, rfl⟩, _, _,
    rfl, returned⟩ := returned
  obtain ⟨logged, full, count, -⟩ := recvRawPayload_logged parsed
  have looked : ClientSteps lenient ⟨m, c, inbox⟩
      ⟨m1, c.withConn { c.conn with rawInfo := raw }, inbox⟩ :=
    .single (.quiet minor_nil ⟨rfl, rfl, rfl, (ConnInfo.Steady.refl c.conn).blob⟩
      (logged.went full count))
  refine looked.trans ?_
  have stays (same : Returns (pure () : ClientProc options Unit)
      (m1, c.withConn { c.conn with rawInfo := raw }) value (m', c')) :
      ClientSteps lenient ⟨m1, c.withConn { c.conn with rawInfo := raw }, inbox⟩
        ⟨m', c', inbox⟩ := by
    obtain ⟨-, same⟩ := Returns.pure_iff.mp same
    obtain ⟨rfl, rfl⟩ := Prod.mk.inj same
    exact .refl
  split at returned
  · exact stays returned
  split at returned
  · exact stays returned
  split at returned
  · exact stays returned
  split at returned
  · split at returned
    · split at returned
      · exact stays returned
      · exact clientBeginHandshake1_steps before returned
    · simp only [Returns.bind_iff, store_iff] at returned
      obtain ⟨_, ⟨m2, c2⟩, numbered, begun⟩ := returned
      obtain ⟨rfl, rfl⟩ := Prod.mk.inj numbered
      have rest : ClientSteps lenient ⟨m2, _, inbox⟩ ⟨m', c', inbox⟩ :=
        clientBeginHandshake1_steps (by exact before) begun
      refine .head ?_ rest
      exact .quiet minor_nil ⟨rfl, rfl, rfl, (ConnInfo.Steady.refl c.conn).blob⟩ (.refl _)
  · exact stays returned

/-- The client begins the second handshake in steps. -/
theorem clientBeginHandshake2_steps {id1 id3 : UInt32} {value : Unit}
    (before : c.conn.state = .handshake1)
    (heard : HeardHandshake m.log m.self id1 c.conn.myId id3)
    (returned : Returns (clientBeginHandshake2 route id1) (m, c) value (m', c')) :
    ClientSteps lenient ⟨m, c, inbox⟩ ⟨m', c', inbox⟩ := by
  simp only [clientBeginHandshake2, Returns.bind_iff, enter_iff, call_iff, theConn_iff,
    store_iff] at returned
  obtain ⟨_, _, ⟨rfl, rfl⟩, _, _, rfl, _, ⟨m1, _⟩, ⟨noted, rfl⟩, _, ⟨m2, _⟩, ⟨recorded, rfl⟩, time,
    ⟨m3, _⟩, ⟨timed, rfl⟩, _, _, ⟨rfl, rfl⟩, _, _, rfl, timer⟩ := returned
  have answered : ClientSteps lenient ⟨m, c, inbox⟩
      ⟨m2, c.withConn { c.conn with oppsiteId := id1, state := .handshake2 }, inbox⟩ :=
    .single (.answered before heard ((record_ran noted).trans (record_ran recorded)).went)
  have waits := answered.trans (noted_steps timed)
  obtain ⟨rest, -⟩ := clientOnTimer_steps
    (fun lapses => nomatch show ClientState.handshake2 = .ready from lapses.1) timer
  exact waits.trans rest

/-- The response to the first handshake leads to the second one, in steps. -/
theorem clientOnHandshake1_steps {value : Unit} (before : c.conn.state = .handshake1)
    (returned : Returns (clientOnHandshake1 route) (m, c) value (m', c')) :
    ClientSteps lenient ⟨m, c, inbox⟩ ⟨m', c', inbox⟩ := by
  simp only [clientOnHandshake1, Returns.bind_iff, call_iff, theConn_iff, store_iff] at returned
  obtain ⟨_, _, ⟨rfl, rfl⟩, ⟨raw, data⟩, ⟨m1, _⟩, ⟨parsed, rfl⟩, _, _, rfl, returned⟩ := returned
  obtain ⟨full, count, -, outcome⟩ := recvBare_logged parsed
  have steady : c.conn.Steady { c.conn with rawInfo := raw } :=
    ⟨rfl, rfl, rfl, (ConnInfo.Steady.refl c.conn).blob⟩
  have looked : ClientStep lenient ⟨m, c, inbox⟩
      ⟨m1, c.withConn { c.conn with rawInfo := raw }, inbox⟩ := by
    obtain ⟨events, minor, logged, -⟩ | ⟨-, input, message, data, -, content, logged⟩ := outcome
    · exact .quiet minor steady (logged.went full count)
    · have minor : Minor [Event.decrypted (v := v) input message] :=
        fun event inside => .inr ⟨_, _, List.mem_singleton.mp inside⟩
      exact .quiet minor steady (logged.went full count)
  refine .head looked ?_
  have stays (same : Returns (pure () : ClientProc options Unit)
      (m1, c.withConn { c.conn with rawInfo := raw }) value (m', c')) :
      ClientSteps lenient ⟨m1, c.withConn { c.conn with rawInfo := raw }, inbox⟩
        ⟨m', c', inbox⟩ := by
    obtain ⟨-, same⟩ := Returns.pure_iff.mp same
    obtain ⟨rfl, rfl⟩ := Prod.mk.inj same
    exact .refl
  obtain ⟨-, -, -, none⟩ | ⟨-, input, message, found, some, content, logged⟩ := outcome
  · rw [none] at returned
    exact stays returned
  rw [some] at returned
  simp only at returned
  split at returned
  · exact stays returned
  split at returned
  · exact stays returned
  rename_i long
  split at returned
  · exact stays returned
  rename_i mine
  rw [ne_eq, not_not] at mine
  split at returned
  · exact stays returned
  · exact clientBeginHandshake2_steps before
      ⟨found, logged.heard_decrypted content, Nat.not_lt.mp long, rfl, mine, rfl⟩ returned

/-! ### Datagrams and commands -/

/-- A drawn identifier took one answer. -/
theorem getNewConv_ran {manager : ConvManager LocalAddress} {conv : UInt32}
    (returned : Returns manager.getNewConv m conv m') :
    conv ∉ manager.convToData ∧ Ran [] m m' := by
  obtain ⟨unused, rfl⟩ := ConvManager.getNewConv_unused returned
  exact ⟨unused, ⟨rfl, rfl, rfl, Nat.le_refl _, by simp [entries]⟩, rfl, rfl⟩

/-- The conversation of a local address is known, or it is made and recorded. -/
theorem convOf_steps {blob : Blob LocalAddress} {addr : LocalAddress} {conv : UInt32}
    {convs : ConvManager LocalAddress} {m1 : Machine v} {value : Unit}
    (allocated : c.conn.blob = some blob)
    (looked : Returns (blob.convManager.convOf addr) m (some (conv, convs)) m1)
    (noted : Returns (noteConv blob.convManager conv addr) m1 value m') :
    ClientSteps lenient ⟨m, c, inbox⟩ ⟨m', c.withConn (c.conn.withConvs blob convs), inbox⟩ ∧
      convs.dataToConv.lookup addr = some conv ∧ ∃ events, Ran events m m' := by
  unfold ConvManager.convOf at looked
  unfold noteConv at noted
  split at looked
  · rename_i used
    rw [if_pos used] at noted
    obtain ⟨-, rfl⟩ := Returns.pure_iff.mp noted
    obtain ⟨found, rfl⟩ := Returns.pure_iff.mp looked
    obtain ⟨rfl, rfl⟩ := Prod.mk.inj (Option.some.inj found)
    obtain ⟨conv, known⟩ := Table.mem_iff_lookup.mp (of_decide_eq_true used)
    refine ⟨quiet_ran (.refl _) (.of_withConvs allocated (.refl _)), ?_, [], .refl _⟩
    rw [ConvManager.findConvByData, known, Option.getD_some]
  rename_i unknown
  rw [if_neg unknown] at noted
  have fresh : addr ∉ blob.convManager.dataToConv := by simpa [ConvManager.isDataUsed] using unknown
  split at looked
  · exact absurd (Returns.pure_iff.mp looked).1 (by simp)
  · simp only [Returns.bind_iff, Returns.pure_iff] at looked
    obtain ⟨drawn, m2, drew, next, _, inserted, found, rfl⟩ := looked
    obtain ⟨rfl, rfl⟩ := Prod.mk.inj (Option.some.inj found)
    obtain ⟨unused, drawing⟩ := getNewConv_ran drew
    obtain ⟨timed, dataToConv, convToData, keys, -⟩ := ConvManager.insertConv_ran inserted
    have whole := (drawing.trans timed).trans (record_ran noted)
    refine ⟨.single (.createdConv allocated unused fresh dataToConv convToData keys whole.went), ?_,
      _, whole⟩
    rw [dataToConv, Table.insert, AList.lookup_insert]

/-- A table that is full makes no conversation. -/
theorem convOf_none {manager : ConvManager LocalAddress} {addr : LocalAddress}
    (looked : Returns (manager.convOf addr) m none m') : m' = m := by
  unfold ConvManager.convOf at looked
  split at looked
  · exact absurd (Returns.pure_iff.mp looked).1 (by simp)
  split at looked
  · exact (Returns.pure_iff.mp looked).2.symm
  · simp only [Returns.bind_iff, Returns.pure_iff] at looked
    obtain ⟨_, _, _, _, _, _, found, -⟩ := looked
    exact absurd found (by simp)

/-- A datagram of a conversation is sent in a session only. -/
theorem clientSendData_steps {blob : Blob LocalAddress} {addr : LocalAddress} {bytes : Bytes}
    {conv : UInt32} {value : Unit} (allocated : c.conn.blob = some blob)
    (known : blob.convManager.dataToConv.lookup addr = some conv)
    (heard : (m.self, Event.received addr bytes) ∈ m.log)
    (returned : Returns (clientSendData bytes conv) (m, c) value (m', c')) :
    ClientSteps lenient ⟨m, c, inbox⟩ ⟨m', c', inbox⟩ := by
  simp only [clientSendData, Returns.bind_iff, theConn_iff] at returned
  obtain ⟨_, _, ⟨rfl, rfl⟩, returned⟩ := returned
  split at returned
  · rename_i ready
    simp only [Returns.bind_iff, call_iff, store_iff] at returned
    obtain ⟨next, ⟨m1, _⟩, ⟨sent, rfl⟩, same⟩ := returned
    obtain ⟨rfl, rfl⟩ := Prod.mk.inj same
    obtain ⟨found, events, foundBlob, kept, shape, ran⟩ := sendDataSafer_ran sent
    obtain rfl := Option.some.inj (allocated.symm.trans foundBlob)
    exact .single (.forwarded ready allocated known heard (.of_kept kept) shape ran.went)
  · obtain ⟨-, same⟩ := Returns.pure_iff.mp returned
    obtain ⟨rfl, rfl⟩ := Prod.mk.inj same
    exact .refl

/-- A datagram is forwarded in steps. -/
theorem clientForward_steps {addr : LocalAddress} {bytes : Bytes} {value : Unit}
    (heard : (m.self, Event.received addr bytes) ∈ m.log)
    (returned : Returns (clientForward addr bytes) (m, c) value (m', c')) :
    ClientSteps lenient ⟨m, c, inbox⟩ ⟨m', c', inbox⟩ := by
  simp only [clientForward, Returns.bind_iff, theConn_iff, run_iff, theBlob_iff,
    call_iff] at returned
  obtain ⟨_, _, ⟨rfl, rfl⟩, blob, _, ⟨allocated, rfl⟩, result, ⟨m1, _⟩, ⟨looked, rfl⟩, returned⟩ :=
    returned
  split at returned
  · obtain ⟨-, same⟩ := Returns.pure_iff.mp returned
    obtain ⟨rfl, rfl⟩ := Prod.mk.inj same
    have stands : m1 = m := convOf_none looked
    rw [stands]
  rename_i conv convs
  simp only [Returns.bind_iff, call_iff, store_iff] at returned
  obtain ⟨_, ⟨m2, _⟩, ⟨noted, rfl⟩, used, ⟨m3, _⟩, ⟨updated, rfl⟩, _, _, rfl, returned⟩ := returned
  obtain ⟨first, known, events, sofar⟩ := convOf_steps allocated looked noted
  obtain ⟨ran, sameConvs, -⟩ := ConvManager.updateActiveTime_ran updated
  have kept : used.dataToConv.lookup addr = some conv := by rw [sameConvs.dataToConv, known]
  have touched : ClientSteps lenient ⟨m2, c.withConn (c.conn.withConvs blob convs), inbox⟩
      ⟨m3, c.withConn (c.conn.withConvs blob used), inbox⟩ :=
    quiet_ran ran ⟨rfl, rfl, rfl, .some ⟨rfl, sameConvs⟩⟩
  have still : (m3.self, Event.received addr bytes) ∈ m3.log := by
    have whole := sofar.trans ran
    rw [whole.self, whole.log]
    exact List.mem_append_left _ heard
  have last : ClientSteps lenient ⟨m3, c.withConn (c.conn.withConvs blob used), inbox⟩
      ⟨m', c', inbox⟩ := clientSendData_steps rfl kept still returned
  exact (first.trans touched).trans last

/-- A datagram of a local peer is handled in steps. -/
theorem clientOnUdpRecv_steps {received : Option (LocalAddress × Bytes)} {value : Unit}
    (returned : Returns (clientOnUdpRecv received) (m, c) value (m', c')) :
    ClientSteps lenient ⟨m, c, inbox⟩ ⟨m', c', inbox⟩ := by
  unfold clientOnUdpRecv at returned
  split at returned
  · obtain ⟨-, same⟩ := Returns.pure_iff.mp returned
    obtain ⟨rfl, rfl⟩ := Prod.mk.inj same
    exact .refl
  rename_i addr bytes
  split at returned
  · obtain ⟨-, same⟩ := Returns.pure_iff.mp returned
    obtain ⟨rfl, rfl⟩ := Prod.mk.inj same
    exact .refl
  simp only [Returns.bind_iff, call_iff] at returned
  obtain ⟨_, ⟨m1, _⟩, ⟨recorded, rfl⟩, returned⟩ := returned
  have ran := record_ran recorded
  have heard : (m1.self, Event.received addr bytes) ∈ m1.log := by
    rw [ran.self, ran.log]
    exact List.mem_append_right _ (List.mem_singleton.mpr rfl)
  exact .head (.received ran.went) (clientForward_steps heard returned)

/-- A command may give the connection up. -/
theorem fifoCb_steps {bytes : Option Bytes} {value : Unit}
    (returned : Returns (fifoCb bytes) (m, c) value (m', c')) :
    ClientSteps lenient ⟨m, c, inbox⟩ ⟨m', c', inbox⟩ := by
  unfold fifoCb at returned
  split at returned
  · obtain ⟨-, same⟩ := Returns.pure_iff.mp returned
    obtain ⟨rfl, rfl⟩ := Prod.mk.inj same
    exact .refl
  split at returned
  · exact absurd returned Returns.throw_iff
  split at returned
  · exact (backToIdle_steps returned).1
  · obtain ⟨-, same⟩ := Returns.pure_iff.mp returned
    obtain ⟨rfl, rfl⟩ := Prod.mk.inj same
    exact .refl

/-! ### Events -/

/-- This event, from this state, gives a session up and goes on to a heartbeat: it calls the timer
where that lapses, directly or because a message completes the handshake. -/
def ClientEvent.Lapses {v : IpVersion} {options : Options v} (event : ClientEvent)
    (before : Machine v × Client options) : Prop :=
  match event with
  | .timer => TimerLapses before
  | .raw received => ∃ buffered,
      Returns (preRecvRawPacket options received) before.1 0 buffered ∧
        MessageLapses (buffered, before.2)
  | .udp _ | .fifo _ => False

/-- A packet in the buffer is handled in steps. -/
theorem clientOnBuffered_steps {value : Unit} (allowed : MessageLapses (m, c) → lenient)
    (returned : Returns (clientOnBuffered route) (m, c) value (m', c')) :
    ClientSteps lenient ⟨m, c, []⟩ ⟨m', c', []⟩ := by
  simp only [clientOnBuffered, Returns.bind_iff, theConn_iff] at returned
  obtain ⟨_, _, ⟨rfl, rfl⟩, returned⟩ := returned
  cases state : c.conn.state with
  | idle =>
    rw [state] at returned
    obtain ⟨discarded, same⟩ := call_iff.mp returned
    obtain rfl : c = c' := same
    obtain ⟨logged, -, count⟩ := discardRawPacket_logged discarded
    exact .single (.quiet minor_nil (.refl _) ⟨logged, by rw [count]; exact Nat.zero_le _⟩)
  | tcpHandshake =>
    rw [state] at returned
    exact clientOnSynAck_steps (by simp [state]) returned
  | tcpHandshakeDummy =>
    rw [state] at returned
    exact clientOnSynAck_steps (by simp [state]) returned
  | handshake1 =>
    rw [state] at returned
    exact clientOnHandshake1_steps state returned
  | handshake2 =>
    rw [state] at returned
    exact clientOnSafer_steps (by simp [state]) allowed returned
  | ready =>
    rw [state] at returned
    exact clientOnSafer_steps (by simp [state]) allowed returned

/-- A captured packet is put into the buffer and then handled in steps. -/
theorem clientOnRawRecv_steps {received : Option Capture} {value : Unit}
    (allowed : (ClientEvent.raw received).Lapses (m, c) → lenient)
    (returned : Returns (clientOnRawRecv route received) (m, c) value (m', c')) :
    ∃ m1, Logged [] m m1 ∧ ClientSteps lenient ⟨m1, c, []⟩ ⟨m', c', []⟩ := by
  rw [clientOnRawRecv, Returns.bind_iff] at returned
  obtain ⟨ret, ⟨m1, c1⟩, captured, returned⟩ := returned
  obtain ⟨buffered, rfl⟩ := call_iff.mp captured
  obtain ⟨logged, -, outcome⟩ := preRecvRawPacket_logged buffered
  refine ⟨m1, logged, ?_⟩
  split at returned
  · obtain ⟨-, same⟩ := Returns.pure_iff.mp returned
    obtain ⟨rfl, rfl⟩ := Prod.mk.inj same
    exact .refl
  · rename_i taken
    obtain ⟨rfl, -⟩ | ⟨rfl, -⟩ := outcome
    · exact clientOnBuffered_steps (fun lapses => allowed ⟨m1, buffered, lapses⟩) returned
    · exact absurd (by decide) taken

/-- Every event is a sequence of steps, after a packet may have been put into the buffer. -/
theorem clientOnEvent_steps {event : ClientEvent} {value : Unit}
    (allowed : event.Lapses (m, c) → lenient)
    (returned : Returns (clientOnEvent route event) (m, c) value (m', c')) :
    ∃ m1, Logged [] m m1 ∧ ClientSteps lenient ⟨m1, c, []⟩ ⟨m', c', []⟩ := by
  cases event with
  | timer => exact ⟨m, .refl m, (clientOnTimer_steps allowed returned).1⟩
  | raw received => exact clientOnRawRecv_steps allowed returned
  | udp received => exact ⟨m, .refl m, clientOnUdpRecv_steps returned⟩
  | fifo bytes => exact ⟨m, .refl m, fifoCb_steps returned⟩

/-- What a run of the client passes through: it prepares its connection and handles events. Other
parties may add to the record meanwhile. -/
inductive ClientReachable (options : Options v) (route : ClientOptions v)
    (answers : Nat → Answer v) (filterPort : UInt16) : Machine v × Client options → Prop
  /-- The client starts. -/
  | start {machine : Machine v} {client : Client options} :
      Returns (clientStart options route)
        (.start (.client options.constId) answers filterPort) client machine →
      ClientReachable options route answers filterPort (machine, client)
  /-- The record grew. -/
  | logged {machine : Machine v} {client : Client options} (log : Log v) :
      ClientReachable options route answers filterPort (machine, client) →
      ClientReachable options route answers filterPort ({ machine with log }, client)
  /-- An event was handled. -/
  | event {before after : Machine v × Client options} {event : ClientEvent} :
      ClientReachable options route answers filterPort before →
      Returns (clientOnEvent route event) before () after →
      ClientReachable options route answers filterPort after

end Udp2raw
