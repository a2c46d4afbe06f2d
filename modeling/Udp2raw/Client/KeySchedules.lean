import Udp2raw.Client.Loop
import Udp2raw.Connection.KeySchedules

/-!
# The key schedules of a client

Whatever an event makes a client do, its static schedules stay with its keys, and what it
encrypts and decrypts is stateless.
-/
namespace Udp2raw

open Proc ClientProc

variable {v : IpVersion} {options : Options v} {route : ClientOptions v} {α : Type}

/-- A part of a run of a client leaves the schedules with their keys. -/
abbrev ClientKeyed (options : Options v) : ClientProc options α → Prop :=
  Keeps (FirstHalf (Keyed options))

/-- A function of the shared layers. -/
theorem client_call {proc : Proc v α} (kept : Keeps (Keyed options) proc) :
    ClientKeyed options (call proc) := keeps_onFirst kept

/-- A look at the connection. -/
theorem client_theConn : ClientKeyed options theConn :=
  role_bind (role_onSecond _) fun _ => role_pure _

/-- A change of the client. -/
theorem client_update (change : Client options → Client options) :
    ClientKeyed options (update change) := role_onSecond _

/-- A stored connection. -/
theorem client_store (conn : ClientConn options) : ClientKeyed options (store conn) :=
  client_update _

/-- A pure function. -/
theorem client_run (computation : Exec α) : ClientKeyed options (run computation) :=
  role_lift computation

/-- A new state. -/
theorem client_enter (state : ClientState) : ClientKeyed options (enter state) :=
  role_bind client_theConn fun _ => role_bind (client_store _) fun _ =>
    client_call (record_keyed trivial)

/-- A new identifier. -/
theorem redrawMyId_keyed : ClientKeyed options redrawMyId :=
  role_bind (client_call drawMyId_keyed) fun _ => role_bind client_theConn fun _ => client_store _

/-- A connection that is given up. -/
theorem backToIdle_keyed : ClientKeyed options backToIdle :=
  role_bind (client_enter _) fun _ => redrawMyId_keyed

/-! ### The timer -/

/-- An attempt to bind a port. -/
theorem clientBindToANewPort2_keyed (tries : Nat) :
    Keeps (Keyed options) (clientBindToANewPort2 tries : Proc v UInt16) := by
  induction tries with
  | zero => exact keyed_throw _
  | succ tries ih =>
    exact keyed_bind getTrueRandomNumber_keyed fun _ => keyed_bind ask_keyed fun _ =>
      keyed_ite (keyed_pure _) ih

/-- A new filter. -/
theorem initFilter_keyed (route : ClientOptions v) (port : UInt16) :
    Keeps (Keyed options) (initFilter options route port) := by
  have filter : Keeps (Keyed options) (setFilterPort options port) := by
    unfold setFilterPort
    split
    · exact keeps_modify fun _ => .of_same rfl rfl rfl
    · exact keeps_modify fun _ => .of_same rfl rfl rfl
    · exact keyed_pure _
  exact keyed_bind filter fun _ => keyed_ite (keyed_pure _)
    (keyed_bind ask_keyed fun _ => keyed_ite (keyed_pure _) (keyed_throw _))

/-- A connection that begins. -/
theorem clientConnect_keyed : ClientKeyed options (clientConnect route) := by
  have forget : ClientKeyed options (clientForget route) :=
    role_bind (role_onSecond _) fun _ => role_bind (role_onSecond _) fun _ =>
      keeps_ite (keeps_throw _) (role_bind client_theConn fun _ => role_bind (client_run _) fun _ =>
        role_bind (client_store _) fun _ => redrawMyId_keyed)
  have ip : Keeps (Keyed options) (chooseSourceIp route) := by
    unfold chooseSourceIp
    split
    · exact keyed_pure _
    · exact keyed_bind ask_keyed fun _ => keyed_ite (keyed_pure _)
        (keyed_bind ask_keyed fun _ => keyed_pure _)
  have port : Keeps (Keyed options) (chooseSourcePort route) := by
    unfold chooseSourcePort
    split
    · exact keyed_pure _
    · exact clientBindToANewPort2_keyed 1000
  have begins (addr : Ip v) : ClientKeyed options (clientBegin route addr) :=
    role_bind (client_call port) fun _ => role_bind client_theConn fun _ =>
      role_bind (client_store _) fun _ =>
        role_bind (client_call (initFilter_keyed route _)) fun _ =>
          role_bind (client_enter _) fun _ => role_bind (client_call getCurrentTime_keyed) fun _ =>
            role_bind client_theConn fun _ => client_store _
  refine role_bind forget fun _ => role_bind (client_call ip) fun chosen => ?_
  cases chosen with
  | none => exact role_pure _
  | some addr => exact role_bind (begins addr) fun _ => role_pure _

/-- A part that is over when the state is too old, and otherwise repeated now and then. -/
theorem client_paced {conn : ClientConn options} {late early : ClientProc options Unit}
    (before : ClientKeyed options late) (again : ClientKeyed options early) :
    ClientKeyed options (do
      if clientHandshakeTimeout < elapsed (← call getCurrentTime) conn.lastStateTime then late
      else if clientRetryInterval < elapsed (← call getCurrentTime) conn.lastHbSentTime then early
      else return) :=
  role_bind (client_call getCurrentTime_keyed) fun _ => keeps_ite before
    (role_bind (client_call getCurrentTime_keyed) fun _ => keeps_ite again (role_pure _))

/-- A sent `SYN`. -/
theorem clientSendSyn_keyed : ClientKeyed options clientSendSyn := by
  have numbers (conn : ClientConn options) : Keeps (Keyed options) (synNumbers conn) :=
    keyed_ite (keyed_bind getTrueRandomNumber_keyed fun _ =>
      keyed_bind getTrueRandomNumber_keyed fun _ => keyed_pure _) (keyed_pure _)
  exact role_bind (client_call (check_keyed _ _)) fun _ => role_bind client_theConn fun conn =>
    client_paced (client_enter _) (role_bind (client_call (numbers conn)) fun _ =>
      role_bind (client_call (sendRawPayload_keyed _ _)) fun _ =>
        role_bind (client_call getCurrentTime_keyed) fun _ => client_store _)

/-- A wait for the socket that sets the connection up. -/
theorem clientAwaitDummy_keyed : ClientKeyed options clientAwaitDummy :=
  role_bind (client_call (check_keyed _ _)) fun _ => role_bind client_theConn fun _ =>
    role_bind (client_call getCurrentTime_keyed) fun _ => keeps_ite (client_enter _) (role_pure _)

/-- The first handshake. -/
theorem clientSendHandshake1_keyed : ClientKeyed options clientSendHandshake1 := by
  have ack (raw : RawInfo options.raw) : Keeps (Keyed options) (sendBareAck options raw) :=
    keyed_ite (keyed_pure _) (keyed_bind (sendRawPayload_keyed _ _) fun _ => keyed_pure _)
  have handshake (conn : ClientConn options) : Keeps (Keyed options) (sendHandshake1 conn) := by
    unfold sendHandshake1
    split
    · exact keyed_bind (ack _) fun _ =>
        keyed_bind (sendHandshake_keyed _ _ _ _) fun _ => keyed_pure _
    · exact sendHandshake_keyed _ _ _ _
    · exact keyed_bind (sendHandshake_keyed _ _ _ _) fun _ => keyed_pure _
  exact role_bind client_theConn fun conn => client_paced (client_enter _)
    (role_bind (client_call (handshake conn)) fun _ =>
      role_bind (client_call getCurrentTime_keyed) fun _ => client_store _)

/-- The second handshake. -/
theorem clientSendHandshake2_keyed : ClientKeyed options clientSendHandshake2 := by
  have handshake (conn : ClientConn options) : Keeps (Keyed options) (sendHandshake2 conn) := by
    unfold sendHandshake2
    split
    · exact keyed_bind (sendHandshake_keyed _ _ _ _) fun _ => keyed_pure _
    · exact sendHandshake_keyed _ _ _ _
    · exact keyed_bind (sendHandshake_keyed _ _ _ _) fun _ => keyed_pure _
  exact role_bind client_theConn fun conn => client_paced (client_enter _)
    (role_bind (client_call (record_keyed trivial)) fun _ =>
      role_bind (client_call (handshake conn)) fun _ =>
        role_bind (client_call getCurrentTime_keyed) fun _ => client_store _)

/-- What a ready connection does when it is quiet. -/
theorem clientKeepAlive_keyed : ClientKeyed options clientKeepAlive := by
  have uplink : ClientKeyed options clientCheckUplink :=
    role_bind client_theConn fun _ => role_bind (client_call getCurrentTime_keyed) fun _ =>
      keeps_ite backToIdle_keyed (role_pure _)
  have heartbeat : ClientKeyed options clientHeartbeat :=
    role_bind client_theConn fun _ => role_bind (client_call getCurrentTime_keyed) fun _ =>
      keeps_ite (role_pure _) (role_bind (client_call (sendHeartbeat_keyed _)) fun _ =>
        role_bind (client_call getCurrentTime_keyed) fun _ => client_store _)
  exact role_bind (role_onSecond _) fun _ => role_bind client_theConn fun _ =>
    role_bind (client_call getCurrentTime_keyed) fun _ =>
      role_bind (client_call getCurrentTime_keyed) fun _ =>
        keeps_ite backToIdle_keyed (role_bind uplink fun _ => heartbeat)

/-- The timer. -/
theorem clientOnTimer_keyed (route : ClientOptions v) :
    ClientKeyed options (clientOnTimer route) := by
  have sweep : ClientKeyed options clientSweep :=
    role_bind client_theConn fun _ => role_bind (client_run _) fun _ =>
      role_bind (client_call (clearInactive_keyed options _ _ _)) fun _ => client_store _
  have resets : ClientKeyed options clientCheckResets :=
    role_bind client_theConn fun _ => keeps_ite backToIdle_keyed (role_pure _)
  have onState : ClientKeyed options clientOnState := by
    refine role_bind client_theConn fun conn => ?_
    cases conn.state with
    | idle => exact keeps_throw _
    | tcpHandshake => exact clientSendSyn_keyed
    | tcpHandshakeDummy => exact clientAwaitDummy_keyed
    | handshake1 => exact clientSendHandshake1_keyed
    | handshake2 => exact clientSendHandshake2_keyed
    | ready => exact clientKeepAlive_keyed
  exact role_bind sweep fun _ => role_bind resets fun _ => role_bind client_theConn fun _ =>
    keeps_ite (role_bind clientConnect_keyed fun _ => keeps_ite onState (role_pure _)) onState

/-! ### Messages of the session -/

/-- A sign of life. -/
theorem clientNoteHeartbeat_keyed : ClientKeyed options clientNoteHeartbeat :=
  role_bind (client_call getCurrentTime_keyed) fun _ => role_bind client_theConn fun _ =>
    client_store _

/-- A delivery. -/
theorem clientDeliver_keyed (myId : UInt32) (frame : Frame) :
    ClientKeyed options (clientDeliver myId frame) :=
  role_bind client_theConn fun _ => role_bind (client_run _) fun _ => keeps_ite (role_pure _)
    (role_bind (client_call (updateActiveTime_keyed options _ _)) fun _ =>
      role_bind (client_store _) fun _ => client_call (record_keyed trivial))

/-- A message. -/
theorem clientOnRawRecvHs2OrReady_keyed (route : ClientOptions v) (myId : UInt32) (frame : Frame) :
    ClientKeyed options (clientOnRawRecvHs2OrReady route myId frame) := by
  have becomes : ClientKeyed options clientBecomeReady :=
    role_bind (client_enter _) fun _ => role_bind (client_call getCurrentTime_keyed) fun _ =>
      role_bind client_theConn fun _ => client_store _
  have completes : ClientKeyed options (clientCompleteHandshake route) :=
    role_bind client_theConn fun _ =>
      keeps_ite (role_bind becomes fun _ => clientOnTimer_keyed route) (role_pure _)
  have note : ClientKeyed options clientNoteData := by
    unfold clientNoteData
    split
    · exact clientNoteHeartbeat_keyed
    · exact role_pure _
  exact role_bind client_theConn fun _ => keeps_ite (role_pure _) (role_bind completes fun _ =>
    keeps_ite clientNoteHeartbeat_keyed
      (keeps_ite (role_bind note fun _ => clientDeliver_keyed myId frame) (role_pure _)))

/-- The messages of one packet. -/
theorem clientOnFrames_keyed (route : ClientOptions v) (myId : UInt32) (frames : List Frame) :
    ClientKeyed options (clientOnFrames route myId frames) := by
  induction frames with
  | nil => exact role_pure _
  | cons frame frames ih =>
    exact role_bind (clientOnRawRecvHs2OrReady_keyed route myId frame) fun _ => ih

/-! ### Captured packets -/

/-- A `SYN-ACK`. -/
theorem clientOnSynAck_keyed (route : ClientOptions v) :
    ClientKeyed options (clientOnSynAck route) := by
  have begins : ClientKeyed options (clientBeginHandshake1 route) :=
    role_bind (client_enter _) fun _ => role_bind (client_call getCurrentTime_keyed) fun _ =>
      role_bind client_theConn fun _ =>
        role_bind (client_store _) fun _ => clientOnTimer_keyed route
  refine role_bind (client_call (check_keyed _ _)) fun _ => role_bind client_theConn fun conn =>
    role_bind (client_call (recvRawPayload_keyed _)) fun received => ?_
  obtain ⟨raw, data⟩ := received
  refine role_bind (client_store _) fun _ => ?_
  cases data with
  | none => exact role_pure _
  | some data =>
    exact keeps_ite (role_pure _) (keeps_ite (role_pure _) (keeps_ite
      (keeps_ite (keeps_ite (role_pure _) begins) (role_bind (client_store _) fun _ => begins))
      (role_pure _)))

/-- A response to the first handshake. -/
theorem clientOnHandshake1_keyed (route : ClientOptions v) :
    ClientKeyed options (clientOnHandshake1 route) := by
  have begins (id : UInt32) : ClientKeyed options (clientBeginHandshake2 route id) :=
    role_bind client_theConn fun _ => role_bind (client_store _) fun _ =>
      role_bind (client_call (record_keyed trivial)) fun _ => role_bind (client_enter _) fun _ =>
        role_bind (client_call getCurrentTime_keyed) fun _ => role_bind client_theConn fun _ =>
          role_bind (client_store _) fun _ => clientOnTimer_keyed route
  refine role_bind client_theConn fun conn =>
    role_bind (client_call (recvBare_keyed _)) fun received => ?_
  obtain ⟨raw, data⟩ := received
  refine role_bind (client_store _) fun _ => ?_
  cases data with
  | none => exact role_pure _
  | some data =>
    exact keeps_ite (role_pure _) (keeps_ite (role_pure _) (keeps_ite (role_pure _)
      (keeps_ite (role_pure _) (begins _))))

/-- A captured packet. -/
theorem clientOnRawRecv_keyed (route : ClientOptions v) (received : Option Capture) :
    ClientKeyed options (clientOnRawRecv route received) := by
  have safer : ClientKeyed options (clientOnSafer route) :=
    role_bind client_theConn fun _ => role_bind (client_call (recvSaferMulti_keyed _)) fun _ =>
      role_bind (client_store _) fun _ => clientOnFrames_keyed route _ _
  have buffered : ClientKeyed options (clientOnBuffered route) := by
    refine role_bind client_theConn fun conn => ?_
    cases conn.state with
    | idle => exact client_call discardRawPacket_keyed
    | tcpHandshake => exact clientOnSynAck_keyed route
    | tcpHandshakeDummy => exact clientOnSynAck_keyed route
    | handshake1 => exact clientOnHandshake1_keyed route
    | handshake2 => exact safer
    | ready => exact safer
  exact role_bind (client_call (preRecvRawPacket_keyed received)) fun _ =>
    keeps_ite (role_pure _) buffered

/-! ### Datagrams and commands -/

/-- A datagram. -/
theorem clientOnUdpRecv_keyed (received : Option (LocalAddress × Bytes)) :
    ClientKeyed options (clientOnUdpRecv received) := by
  have note (manager : ConvManager LocalAddress) (conv : UInt32) (addr : LocalAddress) :
      Keeps (Keyed options) (noteConv manager conv addr : Proc v Unit) :=
    keyed_ite (keyed_pure _) (record_keyed trivial)
  have send (bytes : Bytes) (conv : UInt32) : ClientKeyed options (clientSendData bytes conv) :=
    role_bind client_theConn fun _ => keeps_ite
      (role_bind (client_call (sendDataSafer_keyed _ _ _)) fun _ => client_store _) (role_pure _)
  have forward (addr : LocalAddress) (bytes : Bytes) :
      ClientKeyed options (clientForward addr bytes) := by
    refine role_bind client_theConn fun conn => role_bind (client_run _) fun blob =>
      role_bind (client_call (convOf_keyed options _ _)) fun found => ?_
    cases found with
    | none => exact role_pure _
    | some pair =>
      exact role_bind (client_call (note _ _ _)) fun _ =>
        role_bind (client_call (updateActiveTime_keyed options _ _)) fun _ =>
          role_bind (client_store _) fun _ => send bytes _
  cases received with
  | none => exact role_pure _
  | some pair =>
    exact keeps_ite (role_pure _) (role_bind (client_call (record_keyed trivial)) fun _ =>
      forward _ _)

/-- A callback. -/
theorem clientOnEvent_keyed (route : ClientOptions v) (event : ClientEvent) :
    ClientKeyed options (clientOnEvent route event) := by
  cases event with
  | timer => exact clientOnTimer_keyed route
  | raw received => exact clientOnRawRecv_keyed route received
  | udp received => exact clientOnUdpRecv_keyed received
  | fifo bytes =>
    cases bytes with
    | none => exact role_pure _
    | some bytes =>
      exact keeps_ite (keeps_throw _) (keeps_ite backToIdle_keyed (role_pure _))

/-- What a client does before it waits for events. -/
theorem clientStart_keyed (route : ClientOptions v) :
    Keeps (Keyed options) (clientStart options route) :=
  keyed_bind (newConnInfo_keyed _) fun _ => keyed_bind drawMyId_keyed fun _ =>
    keyed_bind (prepare_keyed _) fun _ => keyed_pure _

/-- The schedules of a reachable client belong to its keys. -/
theorem ClientReachable.scheduled {answers : Nat → Answer v} {filterPort : UInt16}
    {state : Machine v × Client options}
    (reachable : ClientReachable options route answers filterPort state) :
    Scheduled options state.1 := by
  induction reachable with
  | start returned =>
    have initial := AesState.initial_holds options.crypto options.keys
    exact ((clientStart_keyed route _ _ _ returned).run initial).1
  | logged log _ ih => exact ih
  | event _ returned ih => exact ((clientOnEvent_keyed route _ _ _ _ returned).run ih).1

end Udp2raw
