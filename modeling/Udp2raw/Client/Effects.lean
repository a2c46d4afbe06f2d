import Udp2raw.Client.Steps

/-!
# The callbacks as steps

Each callback of the client, from any state of the client and whatever the system answers, is a
sequence of steps. The lemmas follow the handlers from the bottom up. A sequence has to be
lenient only where the timer finds the uplink silent and goes on to a heartbeat.
-/
namespace Udp2raw

open Proc ClientProc

variable {v : IpVersion} {α : Type} {options : Options v} {route : ClientOptions v}
  {lenient : Prop} {m m' : Machine v} {c c' : Client options} {inbox : List Pending}

/-! ### The state of the client -/

namespace ClientProc

variable {before after : Machine v × Client options}

/-- A function of the shared layers leaves the client alone. -/
theorem call_iff {proc : Proc v α} {value : α} :
    Returns (call proc : ClientProc options α) before value after ↔
      Returns proc before.1 value after.1 ∧ before.2 = after.2 := by
  rw [call, Returns.onFirst_iff, eq_comm (a := after.2)]

/-- A pure function. -/
theorem run_iff {computation : Exec α} {value : α} :
    Returns (run computation : ClientProc options α) before value after ↔
      computation = .ok value ∧ after = before := by
  rw [run, Returns.lift_iff, eq_comm (a := before)]

/-- Reading the client. -/
theorem theClient_iff {client : Client options} :
    Returns theClient before client after ↔ before.2 = client ∧ after = before := by
  simp only [theClient, Returns.onSecond_iff, Returns.get_iff, Prod.ext_iff]
  constructor
  · rintro ⟨⟨rfl, same⟩, machine⟩
    exact ⟨rfl, machine, same.symm⟩
  · rintro ⟨rfl, machine, same⟩
    exact ⟨⟨rfl, same.symm⟩, machine⟩

/-- Changing the client. -/
theorem update_iff {change : Client options → Client options} {value : Unit} :
    Returns (update change) before value after ↔ after = (before.1, change before.2) := by
  simp only [update, Returns.onSecond_iff, Returns.modify_iff, Prod.ext_iff]
  constructor
  · rintro ⟨same, machine⟩
    exact ⟨machine, same.symm⟩
  · rintro ⟨machine, same⟩
    exact ⟨same.symm, machine⟩

/-- Reading the connection. -/
theorem theConn_iff {conn : ClientConn options} :
    Returns theConn before conn after ↔ before.2.conn = conn ∧ after = before := by
  simp only [theConn, Returns.bind_iff, theClient_iff, Returns.pure_iff]
  constructor
  · rintro ⟨_, _, ⟨rfl, rfl⟩, rfl, rfl⟩
    exact ⟨rfl, rfl⟩
  · rintro ⟨rfl, rfl⟩
    exact ⟨_, _, ⟨rfl, rfl⟩, rfl, rfl⟩

/-- Storing the connection. -/
theorem store_iff {conn : ClientConn options} {value : Unit} :
    Returns (store conn) before value after ↔ after = (before.1, before.2.withConn conn) :=
  update_iff

/-- Getting into a state is recorded. -/
theorem enter_iff {state : ClientState} {value : Unit} :
    Returns (enter state : ClientProc options Unit) before value after ↔
      Returns (record (.entered state)) before.1 () after.1 ∧
        after.2 = before.2.withConn { before.2.conn with state } := by
  simp only [enter, Returns.bind_iff, theConn_iff, store_iff, call_iff]
  constructor
  · rintro ⟨_, _, ⟨rfl, rfl⟩, _, _, rfl, recorded, same⟩
    exact ⟨recorded, same.symm⟩
  · rintro ⟨recorded, same⟩
    exact ⟨_, _, ⟨rfl, rfl⟩, ⟨⟩, _, rfl, recorded, same.symm⟩

end ClientProc

/-- The connection stayed in its state or was given up. -/
def Client.Remains (before after : Client options) : Prop :=
  after.conn.state = before.conn.state ∨ after.conn.state = .idle

/-- Two parts of a callback. -/
theorem Client.Remains.trans {first second third : Client options} (one : first.Remains second)
    (two : second.Remains third) : first.Remains third := by
  obtain same | idle := two
  · exact one.imp same.trans same.trans
  · exact .inr idle

/-! ### Single steps -/

/-- Time passes without a record. -/
theorem quiet_ran (ran : Ran [] m m') (steady : c.conn.Steady c'.conn) :
    ClientSteps lenient ⟨m, c, inbox⟩ ⟨m', c', inbox⟩ :=
  .single (.quiet minor_nil steady ran.went)

/-- Giving the connection up is one step. -/
theorem enter_idle_steps {value : Unit}
    (returned : Returns (enter .idle) (m, c) value (m', c')) :
    ClientSteps lenient ⟨m, c, inbox⟩ ⟨m', c', inbox⟩ ∧ c'.conn.state = .idle := by
  obtain ⟨recorded, rfl⟩ := enter_iff.mp returned
  exact ⟨.single (.gaveUp (record_ran recorded).went), rfl⟩

/-- A new identifier is drawn, and nothing else changes. -/
theorem redrawMyId_ran {value : Unit} (returned : Returns redrawMyId (m, c) value (m', c')) :
    ∃ myId, myId ≠ 0 ∧ Ran [.drewMyId myId] m m' ∧ c' = c.withConn { c.conn with myId } := by
  simp only [redrawMyId, Returns.bind_iff, call_iff, theConn_iff, store_iff] at returned
  obtain ⟨myId, ⟨m1, _⟩, ⟨drawn, rfl⟩, _, _, ⟨rfl, rfl⟩, returned⟩ := returned
  obtain ⟨rfl, rfl⟩ := Prod.mk.inj returned
  obtain ⟨ran, nonzero⟩ := drawMyId_ran drawn
  exact ⟨myId, nonzero, ran, rfl⟩

/-- A new identifier is one step of an idle client. -/
theorem redrawMyId_steps {value : Unit} (idle : c.conn.state = .idle)
    (returned : Returns redrawMyId (m, c) value (m', c')) :
    ClientSteps lenient ⟨m, c, inbox⟩ ⟨m', c', inbox⟩ ∧ c'.conn.state = .idle := by
  obtain ⟨myId, nonzero, ran, rfl⟩ := redrawMyId_ran returned
  exact ⟨.single (.redrew idle nonzero ran.went), idle⟩

/-- The connection is given up and gets a new identifier. -/
theorem backToIdle_steps {value : Unit} (returned : Returns backToIdle (m, c) value (m', c')) :
    ClientSteps lenient ⟨m, c, inbox⟩ ⟨m', c', inbox⟩ ∧ c'.conn.state = .idle := by
  simp only [backToIdle, Returns.bind_iff] at returned
  obtain ⟨_, ⟨m1, c1⟩, entered, redrawn⟩ := returned
  obtain ⟨first, idle⟩ := enter_idle_steps entered
  obtain ⟨second, still⟩ := redrawMyId_steps idle redrawn
  exact ⟨first.trans second, still⟩

/-! ### The sweep -/

/-- The sweep of the conversations forgets them one by one. -/
theorem forgotten_steps {blob : Blob LocalAddress}
    {state final : ConvManager LocalAddress × Unit}
    (swept : Relation.ReflTransGen (ConvManager.Erased clientClearFunction) state final) :
    ClientSteps lenient ⟨m, c.withConn (c.conn.withConvs blob state.1), inbox⟩
      ⟨m, c.withConn (c.conn.withConvs blob final.1), inbox⟩ := by
  induction swept with
  | refl => exact .refl
  | @tail middle final _ erased ih =>
    have allocated : (c.withConn (c.conn.withConvs blob middle.1)).conn.blob =
        some { blob with convManager := middle.1 } := rfl
    have step : ClientStep lenient ⟨m, _, inbox⟩ ⟨m, _, inbox⟩ := .evicted allocated erased
    exact ih.tail step

/-- The sweep is a sequence of steps. -/
theorem clientSweep_steps {value : Unit} (returned : Returns clientSweep (m, c) value (m', c')) :
    ClientSteps lenient ⟨m, c, inbox⟩ ⟨m', c', inbox⟩ ∧ ∃ blob convs,
      c.conn.blob = some blob ∧ c' = c.withConn (c.conn.withConvs blob convs) := by
  simp only [clientSweep, Returns.bind_iff, theConn_iff, run_iff, theBlob_iff, call_iff,
    store_iff] at returned
  obtain ⟨_, _, ⟨rfl, rfl⟩, blob, _, ⟨allocated, rfl⟩, ⟨convs, ⟨⟩⟩, ⟨m1, _⟩, ⟨cleared, rfl⟩,
    returned⟩ := returned
  obtain ⟨rfl, rfl⟩ := Prod.mk.inj returned
  obtain ⟨ran, lastClearTime, erased⟩ := ConvManager.clearInactive_erased cleared
  have timed : ClientSteps lenient ⟨m, c, inbox⟩ ⟨m', c.withConn
      (c.conn.withConvs blob { blob.convManager with lastClearTime }), inbox⟩ :=
    quiet_ran ran (.of_withConvs allocated ⟨rfl, rfl, fun _ => Iff.rfl⟩)
  exact ⟨timed.trans (forgotten_steps erased), blob, convs, allocated, rfl⟩

/-! ### The timer -/

/-- A handshake state is left for its age: every branch begins like this. -/
theorem expired_steps {value : Unit} {time : Nat} {m1 : Machine v}
    (timed : Returns getCurrentTime m time m1)
    (returned : Returns (enter .idle) (m1, c) value (m', c')) :
    ClientSteps lenient ⟨m, c, inbox⟩ ⟨m', c', inbox⟩ ∧ c.Remains c' := by
  obtain ⟨steps, idle⟩ := enter_idle_steps returned
  exact ⟨(quiet_ran (getCurrentTime_ran timed).1 (.refl c.conn)).trans steps, .inr idle⟩

/-- Looking for a local address takes answers. -/
theorem getSrcAdress2_ran {ip : Option (Ip v)} (returned : Returns getSrcAdress2 m ip m') :
    Ran [] m m' := by
  simp only [getSrcAdress2, Returns.bind_iff] at returned
  obtain ⟨_, m1, asked, returned⟩ := returned
  have first := (ask_ran asked).1
  split at returned
  · obtain ⟨-, rfl⟩ := Returns.pure_iff.mp returned
    exact first
  · simp only [Returns.bind_iff, Returns.pure_iff] at returned
    obtain ⟨_, _, again, -, rfl⟩ := returned
    exact first.trans (ask_ran again).1

/-- Binding a port takes answers. -/
theorem clientBindToANewPort2_ran {tries : Nat} {port : UInt16}
    (returned : Returns (clientBindToANewPort2 tries) m port m') : Ran [] m m' := by
  induction tries generalizing m with
  | zero => exact absurd returned Returns.throw_iff
  | succ tries ih =>
    simp only [clientBindToANewPort2, Returns.bind_iff] at returned
    obtain ⟨_, m1, drawn, _, m2, asked, returned⟩ := returned
    have first := (getTrueRandomNumber_ran drawn).trans (ask_ran asked).1
    split at returned
    · obtain ⟨-, rfl⟩ := Returns.pure_iff.mp returned
      exact first
    · exact first.trans (ih returned)

/-- The packet filter gets the port, and nothing else changes. -/
theorem initFilter_steps {port : UInt16} {value : Unit}
    (returned : Returns (initFilter options route port) m value m') :
    ClientSteps lenient ⟨m, c, inbox⟩ ⟨m', c, inbox⟩ := by
  simp only [initFilter, Returns.bind_iff] at returned
  obtain ⟨_, start, one, returned⟩ := returned
  have pointed : ClientSteps lenient ⟨m, c, inbox⟩ ⟨start, c, inbox⟩ := by
    unfold setFilterPort at one
    split at one
    · obtain rfl := Returns.modify_iff.mp one
      exact .single .refiltered
    · obtain rfl := Returns.modify_iff.mp one
      exact .single .refiltered
    · obtain ⟨-, rfl⟩ := Returns.pure_iff.mp one
      exact .refl
  refine pointed.trans ?_
  split at returned
  · obtain ⟨-, rfl⟩ := Returns.pure_iff.mp returned
    exact .refl
  · simp only [Returns.bind_iff] at returned
    obtain ⟨_, _, asked, returned⟩ := returned
    split at returned
    · obtain ⟨-, rfl⟩ := Returns.pure_iff.mp returned
      exact quiet_ran (ask_ran asked).1 (.refl _)
    · exact absurd returned Returns.throw_iff

/-- Choosing an address takes answers. -/
theorem chooseSourceIp_ran {ip : Option (Ip v)}
    (returned : Returns (chooseSourceIp route) m ip m') : Ran [] m m' := by
  unfold chooseSourceIp at returned
  split at returned
  · obtain ⟨-, rfl⟩ := Returns.pure_iff.mp returned
    exact .refl _
  · exact getSrcAdress2_ran returned

/-- Choosing a port takes answers. -/
theorem chooseSourcePort_ran {port : UInt16}
    (returned : Returns (chooseSourcePort route) m port m') : Ran [] m m' := by
  unfold chooseSourcePort at returned
  split at returned
  · obtain ⟨-, rfl⟩ := Returns.pure_iff.mp returned
    exact .refl _
  · exact clientBindToANewPort2_ran returned

/-- The first state of a connection is one of those before the second handshake. -/
theorem firstState_early (options : Options v) :
    options.firstState ∈ [ClientState.tcpHandshake, .tcpHandshakeDummy, .handshake1] := by
  unfold Options.firstState
  split
  · split <;> simp
  · simp
  · simp

/-- An idle client forgets its last attempt in steps. -/
theorem clientForget_steps {value : Unit} (idle : c.conn.state = .idle)
    (returned : Returns (clientForget route) (m, c) value (m', c')) :
    ClientSteps lenient ⟨m, c, inbox⟩ ⟨m', c', inbox⟩ ∧ c'.conn.state = .idle := by
  simp only [clientForget, Returns.bind_iff, update_iff, theClient_iff] at returned
  obtain ⟨_, _, rfl, _, _, ⟨rfl, rfl⟩, returned⟩ := returned
  split at returned
  · exact absurd returned Returns.throw_iff
  simp only [Returns.bind_iff, theConn_iff, run_iff, theBlob_iff, store_iff] at returned
  obtain ⟨_, _, ⟨rfl, rfl⟩, blob, _, ⟨allocated, rfl⟩, _, _, rfl, redrawn⟩ := returned
  obtain ⟨myId, nonzero, ran, rfl⟩ := redrawMyId_ran redrawn
  refine ⟨?_, idle⟩
  have forgotten : c.conn.Steady { c.conn with
      rawInfo := { c.conn.rawInfo with
        rstReceived := 0, disabled := false, disabledAllowed := options.enabledAllowed } } :=
    ⟨rfl, rfl, rfl, (ConnInfo.Steady.refl c.conn).blob⟩
  have counted : ClientStep lenient ⟨m, c, inbox⟩ ⟨m, ⟨_, c.failTimeCounter + 1⟩, inbox⟩ :=
    .quiet minor_nil forgotten (.refl _)
  exact .head counted (.single (.forgot idle allocated nonzero ran.went))

/-- The client begins to connect in steps. -/
theorem clientBegin_steps {ip : Ip v} {value : Unit} (idle : c.conn.state = .idle)
    (returned : Returns (clientBegin route ip) (m, c) value (m', c')) :
    ClientSteps lenient ⟨m, c, inbox⟩ ⟨m', c', inbox⟩ := by
  simp only [clientBegin, Returns.bind_iff, call_iff, theConn_iff, store_iff, enter_iff] at returned
  obtain ⟨port, ⟨m1, _⟩, ⟨chosen, rfl⟩, _, _, ⟨rfl, rfl⟩, _, _, rfl, _, ⟨m2, _⟩, ⟨filtered, rfl⟩,
    _, ⟨m3, _⟩, ⟨entered, rfl⟩, time, ⟨m4, _⟩, ⟨timed, rfl⟩, _, _, ⟨rfl, rfl⟩, returned⟩ := returned
  obtain ⟨rfl, rfl⟩ := Prod.mk.inj returned
  have sending : c.conn.Steady { c.conn with rawInfo := c.conn.rawInfo.sendingFrom ip port } :=
    ⟨rfl, rfl, rfl, (ConnInfo.Steady.refl c.conn).blob⟩
  have chose : ClientSteps lenient ⟨m, c, inbox⟩
      ⟨m1, c.withConn { c.conn with rawInfo := c.conn.rawInfo.sendingFrom ip port }, inbox⟩ :=
    quiet_ran (chooseSourcePort_ran chosen) sending
  have begun : ClientSteps lenient _ ⟨m3, _, inbox⟩ :=
    (chose.trans (initFilter_steps filtered)).tail (.began (by simp [Client.withConn, idle])
      (firstState_early options) (record_ran entered).went)
  exact begun.trans (quiet_ran (getCurrentTime_ran timed).1
    ⟨rfl, rfl, rfl, (ConnInfo.Steady.refl _).blob⟩)

/-- Connecting is a sequence of steps of an idle client. -/
theorem clientConnect_steps {going : Bool} (idle : c.conn.state = .idle)
    (returned : Returns (clientConnect route) (m, c) going (m', c')) :
    ClientSteps lenient ⟨m, c, inbox⟩ ⟨m', c', inbox⟩ := by
  simp only [clientConnect, Returns.bind_iff, call_iff] at returned
  obtain ⟨_, ⟨m1, c1⟩, forgot, ip, ⟨m2, _⟩, ⟨chosen, rfl⟩, returned⟩ := returned
  obtain ⟨first, still⟩ : ClientSteps lenient ⟨m, c, inbox⟩ ⟨m1, c1, inbox⟩ ∧ _ :=
    clientForget_steps idle forgot
  have second := first.trans (quiet_ran (chooseSourceIp_ran chosen) (.refl c1.conn))
  split at returned
  · obtain ⟨-, same⟩ := Returns.pure_iff.mp returned
    obtain ⟨rfl, rfl⟩ := Prod.mk.inj same
    exact second
  · simp only [Returns.bind_iff, Returns.pure_iff] at returned
    obtain ⟨_, _, begun, -, rfl⟩ := returned
    exact second.trans (clientBegin_steps still begun)

/-- What is sent outside of a session leaves the connection steady. -/
theorem steady_raw (conn : ClientConn options) (rawInfo : RawInfo options.raw) (time : Nat) :
    conn.Steady { conn with rawInfo, lastHbSentTime := time } :=
  ⟨rfl, rfl, rfl, (ConnInfo.Steady.refl conn).blob⟩

/-- The numbers of a `SYN` take answers. -/
theorem synNumbers_ran {conn : ClientConn options} {raw : RawInfo options.raw}
    (returned : Returns (synNumbers conn) m raw m') : Ran [] m m' := by
  unfold synNumbers at returned
  split at returned
  · simp only [Returns.bind_iff, Returns.pure_iff] at returned
    obtain ⟨_, _, one, _, _, two, -, rfl⟩ := returned
    exact (getTrueRandomNumber_ran one).trans (getTrueRandomNumber_ran two)
  · obtain ⟨-, rfl⟩ := Returns.pure_iff.mp returned
    exact .refl _

/-- A `SYN` is sent, or the attempt is given up. -/
theorem clientSendSyn_steps {value : Unit}
    (returned : Returns clientSendSyn (m, c) value (m', c')) :
    ClientSteps lenient ⟨m, c, inbox⟩ ⟨m', c', inbox⟩ ∧ c.Remains c' := by
  simp only [clientSendSyn, Returns.bind_iff, call_iff, check_iff, theConn_iff] at returned
  obtain ⟨_, ⟨_, _⟩, ⟨⟨-, rfl⟩, rfl⟩, _, _, ⟨rfl, rfl⟩, time, ⟨m1, _⟩, ⟨timed, rfl⟩, returned⟩ :=
    returned
  split at returned
  · exact expired_steps timed returned
  simp only [Returns.bind_iff, call_iff] at returned
  obtain ⟨again, ⟨m2, _⟩, ⟨retimed, rfl⟩, returned⟩ := returned
  have clock := (getCurrentTime_ran timed).1.trans (getCurrentTime_ran retimed).1
  split at returned
  · simp only [Returns.bind_iff, call_iff, store_iff] at returned
    obtain ⟨raw, ⟨m3, _⟩, ⟨numbered, rfl⟩, ⟨rawInfo, _⟩, ⟨m4, _⟩, ⟨sent, rfl⟩, last, ⟨m5, _⟩,
      ⟨stamped, rfl⟩, returned⟩ := returned
    obtain ⟨rfl, rfl⟩ := Prod.mk.inj returned
    have whole := ((clock.trans (synNumbers_ran numbered)).trans
      (sendRawPayload_ran sent).1).trans (getCurrentTime_ran stamped).1
    have minor : Minor [Event.rawPayload (v := v) []] :=
      fun event inside => .inl ⟨[], List.mem_singleton.mp inside⟩
    exact ⟨.single (.quiet minor (steady_raw c.conn rawInfo last) whole.went), .inl rfl⟩
  · obtain ⟨-, same⟩ := Returns.pure_iff.mp returned
    obtain ⟨rfl, rfl⟩ := Prod.mk.inj same
    exact ⟨quiet_ran clock (.refl _), .inl rfl⟩

/-- The dummy socket is waited for, or the attempt is given up. -/
theorem clientAwaitDummy_steps {value : Unit}
    (returned : Returns clientAwaitDummy (m, c) value (m', c')) :
    ClientSteps lenient ⟨m, c, inbox⟩ ⟨m', c', inbox⟩ ∧ c.Remains c' := by
  simp only [clientAwaitDummy, Returns.bind_iff, call_iff, check_iff, theConn_iff] at returned
  obtain ⟨_, ⟨_, _⟩, ⟨⟨-, rfl⟩, rfl⟩, _, _, ⟨rfl, rfl⟩, time, ⟨m1, _⟩, ⟨timed, rfl⟩, returned⟩ :=
    returned
  split at returned
  · exact expired_steps timed returned
  · obtain ⟨-, same⟩ := Returns.pure_iff.mp returned
    obtain ⟨rfl, rfl⟩ := Prod.mk.inj same
    exact ⟨quiet_ran (getCurrentTime_ran timed).1 (.refl _), .inl rfl⟩

/-- The bare acknowledgement is an empty segment, or nothing. -/
theorem sendBareAck_ran {raw next : RawInfo options.raw}
    (returned : Returns (sendBareAck options raw) m next m') :
    ∃ events, Minor events ∧ Ran events m m' := by
  unfold sendBareAck at returned
  split at returned
  · obtain ⟨-, rfl⟩ := Returns.pure_iff.mp returned
    exact ⟨[], minor_nil, .refl _⟩
  · simp only [Returns.bind_iff, Returns.pure_iff] at returned
    obtain ⟨⟨_, _⟩, _, sent, -, rfl⟩ := returned
    exact ⟨_, fun event inside => .inl ⟨[], List.mem_singleton.mp inside⟩,
      (sendRawPayload_ran sent).1⟩

/-- The first handshake is one bare message, behind minor packets. -/
theorem sendHandshake1_ran {conn : ClientConn options} {next : RawInfo options.raw}
    (returned : Returns (sendHandshake1 conn) m next m') :
    ∃ before events middle, Minor before ∧ Ran before m middle ∧
      BareEvents conn.myId 0 options.constId events ∧ Ran events middle m' := by
  unfold sendHandshake1 at returned
  split at returned
  · simp only [Returns.bind_iff, Returns.pure_iff] at returned
    obtain ⟨raw, middle, acked, _, _, sent, -, rfl⟩ := returned
    obtain ⟨before, minor, ran⟩ := sendBareAck_ran acked
    obtain ⟨-, events, bare, later⟩ := sendHandshake_events sent
    exact ⟨before, events, middle, minor, ran, bare, later⟩
  · obtain ⟨-, events, bare, ran⟩ := sendHandshake_events returned
    exact ⟨[], events, m, minor_nil, .refl _, bare, ran⟩
  · simp only [Returns.bind_iff, Returns.pure_iff] at returned
    obtain ⟨_, _, sent, -, rfl⟩ := returned
    obtain ⟨-, events, bare, ran⟩ := sendHandshake_events sent
    exact ⟨[], events, m, minor_nil, .refl _, bare, ran⟩

/-- The second handshake is one bare message. -/
theorem sendHandshake2_ran {conn : ClientConn options} {next : RawInfo options.raw}
    (returned : Returns (sendHandshake2 conn) m next m') :
    ∃ events, BareEvents conn.myId conn.oppsiteId options.constId events ∧ Ran events m m' := by
  unfold sendHandshake2 at returned
  split at returned
  · simp only [Returns.bind_iff, Returns.pure_iff] at returned
    obtain ⟨_, _, sent, -, rfl⟩ := returned
    exact (sendHandshake_events sent).2
  · exact (sendHandshake_events returned).2
  · simp only [Returns.bind_iff, Returns.pure_iff] at returned
    obtain ⟨_, _, sent, -, rfl⟩ := returned
    exact (sendHandshake_events sent).2

/-- The first handshake is sent, or the attempt is given up. -/
theorem clientSendHandshake1_steps {value : Unit} (state : c.conn.state = .handshake1)
    (returned : Returns clientSendHandshake1 (m, c) value (m', c')) :
    ClientSteps lenient ⟨m, c, inbox⟩ ⟨m', c', inbox⟩ ∧ c.Remains c' := by
  simp only [clientSendHandshake1, Returns.bind_iff, call_iff, theConn_iff] at returned
  obtain ⟨_, _, ⟨rfl, rfl⟩, time, ⟨m1, _⟩, ⟨timed, rfl⟩, returned⟩ := returned
  split at returned
  · exact expired_steps timed returned
  simp only [Returns.bind_iff, call_iff] at returned
  obtain ⟨again, ⟨m2, _⟩, ⟨retimed, rfl⟩, returned⟩ := returned
  have clock := (getCurrentTime_ran timed).1.trans (getCurrentTime_ran retimed).1
  split at returned
  · simp only [Returns.bind_iff, call_iff, store_iff] at returned
    obtain ⟨rawInfo, ⟨m3, _⟩, ⟨sent, rfl⟩, last, ⟨m4, _⟩, ⟨stamped, rfl⟩, returned⟩ := returned
    obtain ⟨rfl, rfl⟩ := Prod.mk.inj returned
    obtain ⟨before, events, middle, minor, acked, bare, ran⟩ := sendHandshake1_ran sent
    have early : Ran before m middle := clock.trans acked
    have late : Ran events middle m' := by
      simpa using ran.trans (getCurrentTime_ran stamped).1
    have quiet : ClientStep lenient ⟨m, c, inbox⟩ ⟨middle, c, inbox⟩ :=
      .quiet minor (.refl _) early.went
    exact ⟨.tail (.single quiet)
      (.sentHandshake1 state (steady_raw c.conn rawInfo last) bare late.went), .inl rfl⟩
  · obtain ⟨-, same⟩ := Returns.pure_iff.mp returned
    obtain ⟨rfl, rfl⟩ := Prod.mk.inj same
    exact ⟨quiet_ran clock (.refl _), .inl rfl⟩

/-- The second handshake is sent, or the attempt is given up. -/
theorem clientSendHandshake2_steps {value : Unit} (state : c.conn.state = .handshake2)
    (returned : Returns clientSendHandshake2 (m, c) value (m', c')) :
    ClientSteps lenient ⟨m, c, inbox⟩ ⟨m', c', inbox⟩ ∧ c.Remains c' := by
  simp only [clientSendHandshake2, Returns.bind_iff, call_iff, theConn_iff] at returned
  obtain ⟨_, _, ⟨rfl, rfl⟩, time, ⟨m1, _⟩, ⟨timed, rfl⟩, returned⟩ := returned
  split at returned
  · exact expired_steps timed returned
  simp only [Returns.bind_iff, call_iff] at returned
  obtain ⟨again, ⟨m2, _⟩, ⟨retimed, rfl⟩, returned⟩ := returned
  have clock := (getCurrentTime_ran timed).1.trans (getCurrentTime_ran retimed).1
  split at returned
  · simp only [Returns.bind_iff, call_iff, store_iff] at returned
    obtain ⟨_, ⟨m3, _⟩, ⟨recorded, rfl⟩, rawInfo, ⟨m4, _⟩, ⟨sent, rfl⟩, last, ⟨m5, _⟩,
      ⟨stamped, rfl⟩, returned⟩ := returned
    obtain ⟨rfl, rfl⟩ := Prod.mk.inj returned
    obtain ⟨events, bare, ran⟩ := sendHandshake2_ran sent
    have whole : Ran (.handshake2 c.conn.myId c.conn.oppsiteId :: events) m m' := by
      simpa using ((clock.trans (record_ran recorded)).trans ran).trans
        (getCurrentTime_ran stamped).1
    exact ⟨.single (.sentHandshake2 state (steady_raw c.conn rawInfo last) bare whole.went),
      .inl rfl⟩
  · obtain ⟨-, same⟩ := Returns.pure_iff.mp returned
    obtain ⟨rfl, rfl⟩ := Prod.mk.inj same
    exact ⟨quiet_ran clock (.refl _), .inl rfl⟩

/-! ### The session -/

/-- A heartbeat is sent in a session, or leniently. -/
theorem clientHeartbeat_steps {value : Unit}
    (allowed : heartbeatInterval ≤ elapsed m.read.now c.conn.lastHbSentTime →
      c.conn.state = .ready ∨ lenient)
    (returned : Returns clientHeartbeat (m, c) value (m', c')) :
    ClientSteps lenient ⟨m, c, inbox⟩ ⟨m', c', inbox⟩ ∧ c.Remains c' := by
  simp only [clientHeartbeat, Returns.bind_iff, call_iff, theConn_iff] at returned
  obtain ⟨_, _, ⟨rfl, rfl⟩, time, ⟨m1, _⟩, ⟨timed, rfl⟩, returned⟩ := returned
  have clock := (getCurrentTime_ran timed).1
  split at returned
  · obtain ⟨-, same⟩ := Returns.pure_iff.mp returned
    obtain ⟨rfl, rfl⟩ := Prod.mk.inj same
    exact ⟨quiet_ran clock (.refl _), .inl rfl⟩
  rename_i due
  rw [(getCurrentTime_read timed).2, Nat.not_lt] at due
  simp only [Returns.bind_iff, call_iff, store_iff] at returned
  obtain ⟨sent, ⟨m2, _⟩, ⟨beat, rfl⟩, last, ⟨m3, _⟩, ⟨stamped, rfl⟩, returned⟩ := returned
  obtain ⟨rfl, rfl⟩ := Prod.mk.inj returned
  obtain ⟨blob, data, events, allocated, kept, shape, ran⟩ := sendHeartbeat_ran beat
  have whole : Ran events m m' := by
    simpa using (clock.trans ran).trans (getCurrentTime_ran stamped).1
  have steady := ConnInfo.Steady.of_kept kept
  exact ⟨.single (.heartbeat (allowed due) allocated
    ⟨steady.state, steady.myId, steady.oppsiteId, steady.blob⟩ shape whole.went),
    .inl steady.state⟩

/-- The timer finds a session whose downlink is alive but whose uplink shows no progress, and a
heartbeat is due. The times are read one after the other; the first one is for a trace line, and
an identifier is drawn before the last one. -/
structure Lapses (machine : Machine v) (conn : ClientConn options) : Prop where
  /-- The downlink is alive. -/
  downlink : elapsed machine.read.read.now conn.lastHbRecvTime ≤ clientConnTimeout
  /-- The uplink shows no progress. -/
  uplink : clientConnUplinkTimeout < elapsed machine.read.read.read.now conn.lastOppsiteRollerTime
  /-- A heartbeat is due. -/
  due : heartbeatInterval ≤ elapsed
    { machine.read.read.read with asked := machine.read.read.read.asked + 1 }.read.now
    conn.lastHbSentTime

/-- What the clock says does not depend on the record. -/
theorem read_now_log (machine : Machine v) (log : Log v) :
    { machine with log }.read.now = machine.read.now := by
  simp only [Machine.read]
  split_ifs <;> rfl

/-- Giving the connection up takes one answer. -/
theorem backToIdle_machine {value : Unit} (returned : Returns backToIdle (m, c) value (m', c')) :
    (∃ log, m' = { m with asked := m.asked + 1, log }) ∧
      ∃ myId, c' = c.withConn { c.conn with state := .idle, myId } := by
  simp only [backToIdle, redrawMyId, drawMyId, ask, record, Returns.bind_iff, enter_iff, call_iff,
    theConn_iff, store_iff, Returns.get_iff, Returns.set_iff, Returns.modify_iff,
    Returns.pure_iff] at returned
  obtain ⟨_, ⟨_, _⟩, ⟨rfl, rfl⟩, myId, ⟨_, _⟩, ⟨⟨_, _, ⟨_, _, ⟨rfl, rfl⟩, _, _, rfl, rfl, rfl⟩, _,
    _, rfl, rfl, rfl⟩, rfl⟩, _, _, ⟨rfl, rfl⟩, returned⟩ := returned
  obtain ⟨rfl, rfl⟩ := Prod.mk.inj returned
  exact ⟨⟨_, rfl⟩, _, rfl⟩

/-- The uplink shows progress, or the connection is given up with one answer. -/
theorem clientCheckUplink_steps {value : Unit}
    (returned : Returns clientCheckUplink (m, c) value (m', c')) :
    ClientSteps lenient ⟨m, c, inbox⟩ ⟨m', c', inbox⟩ ∧
      (c' = c ∨ clientConnUplinkTimeout < elapsed m.read.now c.conn.lastOppsiteRollerTime ∧
        c'.conn.state = .idle ∧ c'.conn.lastHbSentTime = c.conn.lastHbSentTime ∧
        m'.read.now = { m.read with asked := m.read.asked + 1 }.read.now) := by
  simp only [clientCheckUplink, Returns.bind_iff, theConn_iff, call_iff] at returned
  obtain ⟨_, _, ⟨rfl, rfl⟩, time, ⟨m1, _⟩, ⟨timed, rfl⟩, returned⟩ := returned
  have clock := (getCurrentTime_ran timed).1
  obtain ⟨rfl, rfl⟩ := getCurrentTime_read timed
  split at returned
  · rename_i silent
    obtain ⟨⟨log, machine⟩, myId, client⟩ := backToIdle_machine returned
    obtain ⟨steps, idle⟩ := backToIdle_steps returned
    refine ⟨(quiet_ran clock (.refl _)).trans steps, .inr ⟨silent, idle, ?_, ?_⟩⟩
    · rw [client]
      rfl
    · rw [machine]
      exact read_now_log { m.read with asked := m.read.asked + 1 } log
  · obtain ⟨-, same⟩ := Returns.pure_iff.mp returned
    obtain ⟨rfl, rfl⟩ := Prod.mk.inj same
    exact ⟨quiet_ran clock (.refl _), .inl rfl⟩

/-- The timer of a session is a sequence of steps. -/
theorem clientKeepAlive_steps {value : Unit} (ready : c.conn.state = .ready)
    (allowed : Lapses m c.conn → lenient)
    (returned : Returns clientKeepAlive (m, c) value (m', c')) :
    ClientSteps lenient ⟨m, c, inbox⟩ ⟨m', c', inbox⟩ ∧ c.Remains c' := by
  simp only [clientKeepAlive, Returns.bind_iff, update_iff, theConn_iff, call_iff] at returned
  obtain ⟨_, _, rfl, _, _, ⟨rfl, rfl⟩, _, ⟨m1, _⟩, ⟨traced, rfl⟩, time, ⟨m2, _⟩, ⟨timed, rfl⟩,
    returned⟩ := returned
  have clock := (getCurrentTime_ran traced).1.trans (getCurrentTime_ran timed).1
  have counted : ClientStep lenient ⟨m, c, inbox⟩
      ⟨m2, { c with failTimeCounter := 0 }, inbox⟩ := .quiet minor_nil (.refl c.conn) clock.went
  obtain ⟨rfl, -⟩ := getCurrentTime_read traced
  obtain ⟨rfl, rfl⟩ := getCurrentTime_read timed
  split at returned
  · obtain ⟨steps, idle⟩ := backToIdle_steps returned
    exact ⟨.head counted steps, .inr idle⟩
  rename_i alive
  rw [Nat.not_lt] at alive
  simp only [Returns.bind_iff] at returned
  obtain ⟨_, ⟨m3, c3⟩, checked, beat⟩ := returned
  obtain ⟨looked, outcome⟩ := clientCheckUplink_steps checked
  have begun := Relation.ReflTransGen.head counted looked
  obtain rfl | ⟨silent, idle, sentTime, answered⟩ := outcome
  · obtain ⟨sent, remains⟩ := clientHeartbeat_steps (fun _ => .inl (by exact ready)) beat
    exact ⟨begun.trans sent, remains⟩
  · have lent (due : heartbeatInterval ≤ elapsed m3.read.now c3.conn.lastHbSentTime) : lenient := by
      rw [answered, sentTime] at due
      exact allowed ⟨alive, silent, due⟩
    obtain ⟨sent, remains⟩ := clientHeartbeat_steps (fun due => .inr (lent due)) beat
    exact ⟨begun.trans sent, .inr (remains.elim (fun same => same.trans idle) id)⟩

/-- The state of a connection says what the timer does. -/
theorem clientOnState_steps {value : Unit}
    (allowed : c.conn.state = .ready → Lapses m c.conn → lenient)
    (returned : Returns clientOnState (m, c) value (m', c')) :
    ClientSteps lenient ⟨m, c, inbox⟩ ⟨m', c', inbox⟩ ∧ c.Remains c' := by
  simp only [clientOnState, Returns.bind_iff, theConn_iff] at returned
  obtain ⟨_, _, ⟨rfl, rfl⟩, returned⟩ := returned
  split at returned
  · exact clientSendSyn_steps returned
  · exact clientAwaitDummy_steps returned
  · exact clientSendHandshake1_steps ‹_› returned
  · exact clientSendHandshake2_steps ‹_› returned
  · exact clientKeepAlive_steps ‹_› (allowed ‹_›) returned
  · exact absurd returned Returns.throw_iff

/-- The connection is given up after too many resets, or goes on. -/
theorem clientCheckResets_steps {value : Unit}
    (returned : Returns clientCheckResets (m, c) value (m', c')) :
    ClientSteps lenient ⟨m, c, inbox⟩ ⟨m', c', inbox⟩ ∧
      (c'.conn.state = .idle ∨ c.conn.rawInfo.disabled = false ∧ m' = m ∧ c' = c) := by
  simp only [clientCheckResets, Returns.bind_iff, theConn_iff] at returned
  obtain ⟨_, _, ⟨rfl, rfl⟩, returned⟩ := returned
  split at returned
  · obtain ⟨steps, idle⟩ := backToIdle_steps returned
    exact ⟨steps, .inl idle⟩
  · rename_i enabled
    obtain ⟨-, same⟩ := Returns.pure_iff.mp returned
    obtain ⟨rfl, rfl⟩ := Prod.mk.inj same
    exact ⟨.refl, .inr ⟨Bool.eq_false_iff.mpr enabled, rfl, rfl⟩⟩

/-- A call of `client_on_timer` in this state gives the session up and goes on to a heartbeat. -/
def TimerLapses (before : Machine v × Client options) : Prop :=
  before.2.conn.state = .ready ∧ before.2.conn.rawInfo.disabled = false ∧
    ∃ swept, Returns clientSweep before () swept ∧ Lapses swept.1 swept.2.conn

/-- What happens to a connection that just began is no matter of a session. -/
theorem clientConnect_state {going : Bool}
    (returned : Returns (clientConnect route) (m, c) going (m', c')) (went : going = true) :
    c'.conn.state = options.firstState := by
  simp only [clientConnect, Returns.bind_iff, call_iff] at returned
  obtain ⟨_, _, -, ip, ⟨m2, _⟩, ⟨-, rfl⟩, returned⟩ := returned
  split at returned
  · obtain ⟨same, -⟩ := Returns.pure_iff.mp returned
    rw [← same] at went
    contradiction
  · simp only [Returns.bind_iff, Returns.pure_iff, clientBegin, call_iff, theConn_iff, store_iff,
      enter_iff] at returned
    obtain ⟨_, _, ⟨port, ⟨_, _⟩, ⟨-, rfl⟩, _, _, ⟨rfl, rfl⟩, _, _, rfl, _, ⟨_, _⟩, ⟨-, rfl⟩,
      _, ⟨_, _⟩, ⟨-, rfl⟩, time, ⟨_, _⟩, ⟨-, rfl⟩, _, _, ⟨rfl, rfl⟩, final⟩, -, same⟩ := returned
    rw [same] at final
    rw [(Prod.mk.inj final).2]
    rfl

/-- A client that could not begin to connect is idle. -/
theorem clientConnect_idle {going : Bool} (idle : c.conn.state = .idle)
    (returned : Returns (clientConnect route) (m, c) going (m', c')) (stays : going = false) :
    c'.conn.state = .idle := by
  simp only [clientConnect, Returns.bind_iff, call_iff] at returned
  obtain ⟨_, ⟨m1, c1⟩, forgot, ip, ⟨m2, _⟩, ⟨-, rfl⟩, returned⟩ := returned
  obtain ⟨-, still⟩ : ClientSteps False ⟨m, c, []⟩ ⟨m1, c1, []⟩ ∧ _ :=
    clientForget_steps idle forgot
  split at returned
  · obtain ⟨-, same⟩ := Returns.pure_iff.mp returned
    obtain ⟨rfl, rfl⟩ := Prod.mk.inj same
    exact still
  · simp only [Returns.bind_iff, Returns.pure_iff] at returned
    obtain ⟨_, _, -, same, -⟩ := returned
    rw [← same] at stays
    contradiction

/-- The timer is a sequence of steps. It does not lead into the second handshake. -/
theorem clientOnTimer_steps {value : Unit} (allowed : TimerLapses (m, c) → lenient)
    (returned : Returns (clientOnTimer route) (m, c) value (m', c')) :
    ClientSteps lenient ⟨m, c, inbox⟩ ⟨m', c', inbox⟩ ∧
      (c.Remains c' ∨ c'.conn.state = options.firstState) := by
  simp only [clientOnTimer, Returns.bind_iff, theConn_iff] at returned
  obtain ⟨⟨⟩, ⟨m1, c1⟩, sweep, _, ⟨m2, c2⟩, checked, _, _, ⟨rfl, rfl⟩, returned⟩ := returned
  obtain ⟨swept, blob, convs, allocated, rfl⟩ := clientSweep_steps sweep
  obtain ⟨reset, outcome⟩ := clientCheckResets_steps checked
  have begun := swept.trans reset
  split at returned
  · rename_i idle
    simp only [Returns.bind_iff] at returned
    obtain ⟨going, ⟨m3, c3⟩, connected, returned⟩ := returned
    have connecting := begun.trans (clientConnect_steps idle connected)
    split at returned
    · rename_i went
      have first := clientConnect_state connected went
      have early : c3.conn.state ≠ .ready := by
        intro ready
        have listed := firstState_early options
        rw [← first, ready] at listed
        exact absurd listed (by decide)
      obtain ⟨steps, remains⟩ := clientOnState_steps (fun ready _ => absurd ready early) returned
      exact ⟨connecting.trans steps, remains.elim (fun same => .inr (same.trans first))
        fun idle => .inl (.inr idle)⟩
    · rename_i stays
      obtain ⟨-, same⟩ := Returns.pure_iff.mp returned
      obtain ⟨rfl, rfl⟩ := Prod.mk.inj same
      have idle := clientConnect_idle idle connected (Bool.eq_false_iff.mpr stays)
      exact ⟨connecting, .inl (.inr idle)⟩
  · rename_i busy
    obtain idle | ⟨enabled, rfl, rfl⟩ := outcome
    · exact absurd idle busy
    · have lent (ready : c.conn.state = .ready)
          (lapses : Lapses m2 (c.conn.withConvs blob convs)) : lenient :=
        allowed ⟨ready, enabled, _, sweep, lapses⟩
      obtain ⟨steps, remains⟩ := clientOnState_steps (by exact lent) returned
      exact ⟨begun.trans steps, .inl remains⟩

end Udp2raw
