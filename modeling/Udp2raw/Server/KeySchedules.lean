import Udp2raw.Connection.KeySchedules
import Udp2raw.Server.Loop

/-!
# The key schedules of the server

Whatever an event makes the server do, its static schedules stay with its keys, and what it
encrypts and decrypts is stateless.
-/
namespace Udp2raw

open Proc ServerProc

variable {v : IpVersion} {options : Options v} {α : Type}

/-- A part of a run of the server leaves the schedules with their keys. -/
abbrev ServerKeyed (options : Options v) : ServerProc options α → Prop :=
  Keeps (FirstHalf (Keyed options))

/-- A function of the shared layers. -/
theorem server_call {proc : Proc v α} (kept : Keeps (Keyed options) proc) :
    ServerKeyed options (call proc) := keeps_onFirst kept

/-- A look at the server. -/
theorem server_theServer : ServerKeyed options theServer := role_onSecond _

/-- A change of the server. -/
theorem server_update (change : Server options → Server options) :
    ServerKeyed options (update change) := role_onSecond _

/-- A pure function. -/
theorem server_run (computation : Exec α) : ServerKeyed options (run computation) :=
  role_lift computation

/-- A look at a connection. -/
theorem server_deref (p : Ptr) : ServerKeyed options (deref p) :=
  role_bind server_theServer fun _ => server_run _

/-- A stored connection. -/
theorem server_store (p : Ptr) (conn : ServerConn options) : ServerKeyed options (store p conn) :=
  server_update _

/-- A change of the descriptors. -/
theorem server_onDescriptors (change : Descriptors → Exec (α × Descriptors)) :
    ServerKeyed options (onDescriptors change) :=
  role_bind server_theServer fun _ => role_bind (server_run _) fun _ =>
    role_bind (server_update _) fun _ => role_pure _

/-! ### Sockets and timers -/

/-- A new socket. -/
theorem newConnectedUdpFd_keyed : ServerKeyed options newConnectedUdpFd := by
  refine role_bind (server_call ask_keyed) fun answer => role_bind server_theServer fun server => ?_
  dsimp only
  split
  · exact role_bind (server_update _) fun _ => role_pure _
  · exact role_pure _

/-- A registered descriptor. -/
theorem registerFd_keyed (fd : Nat) (p : Ptr) : ServerKeyed options (registerFd fd p) :=
  role_bind (server_onDescriptors _) fun _ =>
    role_bind (server_onDescriptors _) fun _ => role_pure _

/-- A new timer. -/
theorem setTimerServer_keyed (p : Ptr) : ServerKeyed options (setTimerServer p) := by
  refine role_bind (server_call ask_keyed) fun answer => role_bind server_theServer fun server => ?_
  dsimp only
  split
  · exact keeps_throw _
  · exact role_bind (server_update _) fun _ => role_bind (registerFd_keyed _ _) fun _ =>
      role_bind (server_call ask_keyed) fun _ => keeps_ite (role_pure _) (keeps_throw _)

/-! ### The handshake -/

/-- A connection becomes ready. -/
theorem promote_keyed (p : Ptr) (constId : UInt32) : ServerKeyed options (promote p constId) :=
  role_bind (server_deref p) fun _ => role_bind (server_call (prepare_keyed _)) fun _ =>
    role_bind (server_update _) fun _ => role_bind (server_call (record_keyed trivial)) fun _ =>
      role_bind (server_call getCurrentTime_keyed) fun _ =>
        role_bind (server_call (sendHeartbeat_keyed _)) fun _ => role_bind (server_run _) fun _ =>
          role_bind (setTimerServer_keyed p) fun _ => server_store _ _

/-- A ready connection moves. -/
theorem grab_keyed (p q : Ptr) (constId : UInt32) : ServerKeyed options (grab p q constId) := by
  refine role_bind (server_deref p) fun conn => role_bind (server_deref q) fun ori =>
    keeps_ite (keeps_throw _) (keeps_ite (server_store _ _)
      (role_bind server_theServer fun server =>
        keeps_ite (keeps_throw _) (keeps_ite (keeps_throw _) ?_)))
  exact role_bind (server_run _) fun _ => role_bind (server_run _) fun _ =>
    role_bind (server_update _) fun _ => role_bind (server_run _) fun _ =>
      role_bind (server_call (record_keyed trivial)) fun _ =>
        role_bind (server_call (sendHeartbeat_keyed _)) fun _ =>
          role_bind (server_call getCurrentTime_keyed) fun _ =>
            role_bind (server_store _ _) fun _ => server_store _ _

/-- The second handshake. -/
theorem serverOnRawRecvPreReady_keyed (p : Ptr) (constId : UInt32) :
    ServerKeyed options (serverOnRawRecvPreReady p constId) := by
  refine role_bind server_theServer fun server => ?_
  split
  · exact keeps_ite (role_bind (server_deref p) fun _ => server_store _ _) (promote_keyed p constId)
  · exact grab_keyed p _ constId

/-- A handshake. -/
theorem serverOnRawRecvHandshake1_keyed (p : Ptr) (data : Bytes) :
    ServerKeyed options (serverOnRawRecvHandshake1 p data) :=
  keeps_ite (role_pure _) (role_bind (server_deref p) fun _ =>
    keeps_ite (role_bind (server_call (sendHandshake_keyed _ _ _ _)) fun _ => server_store _ _)
      (keeps_ite (role_bind (server_store _ _) fun _ => serverOnRawRecvPreReady_keyed p _)
        (role_pure _)))

/-! ### Messages of a ready connection -/

/-- A delivery. -/
theorem deliver_keyed (p : Ptr) (frame : Frame) (conv : UInt32) :
    ServerKeyed options (deliver p frame conv) := by
  refine role_bind (server_deref p) fun conn => role_bind (server_run _) fun blob =>
    role_bind (server_call (updateActiveTime_keyed options _ _)) fun _ =>
      role_bind (server_store _ _) fun _ => role_bind server_theServer fun _ =>
        role_bind (server_run _) fun fd => role_bind server_theServer fun server => ?_
  split
  · exact role_pure _
  · exact server_call (record_keyed trivial)

/-- A conversation gets a socket. -/
theorem openConv_keyed (p : Ptr) (conv : UInt32) : ServerKeyed options (openConv p conv) := by
  refine role_bind newConnectedUdpFd_keyed fun opened => ?_
  cases opened with
  | none => exact role_pure _
  | some fd =>
    exact role_bind server_theServer fun _ => role_bind (registerFd_keyed fd p) fun _ =>
      role_bind (server_call ask_keyed) fun _ =>
        keeps_ite (role_bind (server_update _) fun _ => role_pure _)
          (role_bind (server_deref p) fun _ => role_bind (server_run _) fun _ =>
            role_bind (server_call (insertConv_keyed options _ _ _)) fun _ =>
              role_bind (server_store _ _) fun _ =>
                role_bind (server_call (record_keyed trivial)) fun _ => role_pure _)

/-- A note of the time. -/
theorem noteHeartbeat_keyed (p : Ptr) : ServerKeyed options (noteHeartbeat p) :=
  role_bind (server_deref p) fun _ => role_bind (server_call getCurrentTime_keyed) fun _ =>
    server_store _ _

/-- A message. -/
theorem serverOnRawRecvReady_keyed (p : Ptr) (frame : Frame) :
    ServerKeyed options (serverOnRawRecvReady p frame) := by
  have note : ServerKeyed options (noteData p) := by
    unfold noteData
    split
    · exact noteHeartbeat_keyed p
    · exact role_pure _
  have ensure (conv : UInt32) : ServerKeyed options (ensureConv p conv) :=
    role_bind (server_deref p) fun _ => role_bind (server_run _) fun _ =>
      keeps_ite (role_pure _) (keeps_ite (role_pure _) (openConv_keyed p conv))
  refine keeps_ite (role_bind (noteHeartbeat_keyed p) fun _ => role_pure _)
    (keeps_ite (role_bind note fun _ => role_bind (ensure _) fun outcome => ?_) (role_pure _))
  cases outcome with
  | some ret => exact role_pure _
  | none => exact role_bind (deliver_keyed p frame _) fun _ => role_pure _

/-- The messages of one packet. -/
theorem serverOnFrames_keyed (p : Ptr) (frames : List Frame) :
    ServerKeyed options (serverOnFrames p frames) := by
  induction frames with
  | nil => exact role_pure _
  | cons frame frames ih => exact role_bind (serverOnRawRecvReady_keyed p frame) fun _ => ih

/-! ### Captured packets -/

/-- A packet from a new address. -/
theorem serverOnNewAddress_keyed (addr : Address v) :
    ServerKeyed options (serverOnNewAddress addr) := by
  have entry (raw : RawInfo options.raw) : ServerKeyed options (newEntry addr raw) :=
    role_bind (server_call (newConnInfo_keyed _)) fun _ =>
      role_bind (server_call ask_keyed) fun _ =>
        role_bind server_theServer fun _ => role_bind (server_update _) fun _ =>
          role_bind (server_call drawMyId_keyed) fun _ =>
            role_bind (server_call getCurrentTime_keyed) fun _ =>
              role_bind (server_call (record_keyed trivial)) fun _ =>
                role_bind (server_store _ _) fun _ => role_pure _
  refine role_bind server_theServer fun _ => keeps_ite (server_call discardRawPacket_keyed)
    (role_bind (server_call newRawInfo_keyed) fun _ =>
      role_bind (server_call (recvBare_keyed _)) fun received => ?_)
  obtain ⟨raw, data⟩ := received
  cases data with
  | none => exact role_pure _
  | some data =>
    exact keeps_ite (role_pure _) (keeps_ite (role_pure _)
      (role_bind (entry raw) fun p => serverOnRawRecvHandshake1_keyed p data))

/-- A packet from an address with an entry. -/
theorem serverOnKnownAddress_keyed (p : Ptr) : ServerKeyed options (serverOnKnownAddress p) := by
  refine role_bind (server_deref p) fun conn => ?_
  cases conn.state with
  | handshake1 =>
    refine role_bind (server_call (recvBare_keyed _)) fun received => ?_
    obtain ⟨raw, data⟩ := received
    refine role_bind (server_store _ _) fun _ => ?_
    cases data with
    | none => exact role_pure _
    | some data => exact serverOnRawRecvHandshake1_keyed p data
  | ready =>
    exact role_bind (server_call (recvSaferMulti_keyed _)) fun _ =>
      role_bind (server_store _ _) fun _ => serverOnFrames_keyed p _
  | idle => exact server_call discardRawPacket_keyed

/-- A packet whose source is known. -/
theorem serverOnPeeked_keyed (peeked : RawInfo options.raw) :
    ServerKeyed options (serverOnPeeked peeked) := by
  have syn : Keeps (Keyed options) (replySyn options) := by
    refine keyed_bind newRawInfo_keyed fun _ =>
      keyed_bind (recvRawPayload_keyed _) fun received => ?_
    obtain ⟨raw, data⟩ := received
    cases data with
    | none => exact keyed_pure _
    | some data =>
      exact keyed_ite (keyed_pure _) (keyed_ite (keyed_pure _) (keyed_ite
        (keyed_bind (sendRawPayload_keyed _ _) fun _ => keyed_pure _) (keyed_pure _)))
  refine role_bind server_theServer fun server => keeps_ite (role_bind (server_run _) fun _ =>
    keeps_ite (server_call discardRawPacket_keyed) (server_call syn)) ?_
  split
  · exact serverOnNewAddress_keyed _
  · exact serverOnKnownAddress_keyed _

/-- A captured packet. -/
theorem serverOnRawRecvMulti_keyed (received : Option Capture) :
    ServerKeyed options (serverOnRawRecvMulti received) :=
  role_bind (server_call newRawInfo_keyed) fun _ =>
    role_bind (server_call (preRecvRawPacket_keyed received)) fun _ =>
      keeps_ite (role_pure _) (role_bind (server_call (peekRawPacket_keyed _)) fun _ =>
        keeps_ite (serverOnPeeked_keyed _) (server_call discardRawPacket_keyed))

/-! ### Events -/

/-- A timer. -/
theorem serverOnTimerMulti_keyed (p : Ptr) : ServerKeyed options (serverOnTimerMulti p) :=
  role_bind (server_deref p) fun _ => role_bind (server_call (check_keyed _ _)) fun _ =>
    role_bind (server_run _) fun _ => role_bind server_theServer fun _ =>
      role_bind (server_call (clearInactive_keyed options _ _ _)) fun _ =>
        role_bind (server_update _) fun _ => role_bind (server_store _ _) fun _ =>
          role_bind (server_call getCurrentTime_keyed) fun _ =>
            keeps_ite (role_pure _) (role_bind (server_call (sendHeartbeat_keyed _)) fun _ =>
              role_bind (server_call getCurrentTime_keyed) fun _ => server_store _ _)

/-- A datagram of a socket. -/
theorem serverOnUdpRecv_keyed (p : Ptr) (fd64 : Nat) (received : Option Bytes) :
    ServerKeyed options (serverOnUdpRecv p fd64 received) := by
  refine role_bind (server_deref p) fun conn => keeps_ite (keeps_throw _)
    (role_bind (server_run _) fun blob => role_bind (server_call (check_keyed _ _)) fun _ =>
      role_bind server_theServer fun server => role_bind (server_run _) fun fd => ?_)
  split
  · exact keeps_ite (role_pure _) (role_bind (server_call (record_keyed trivial)) fun _ =>
      role_bind (server_call (sendDataSafer_keyed _ _ _)) fun _ => server_store _ _)
  · exact role_pure _

/-- An event. -/
theorem serverOnEvent_keyed (standing : Standing) (event : EpollEvent) :
    ServerKeyed options (serverOnEvent standing event) := by
  have sweep : ServerKeyed options clearInactive :=
    role_bind (server_call getCurrentTime_keyed) fun _ => role_bind server_theServer fun _ =>
      keeps_ite (role_pure _) (role_bind (server_call getCurrentTime_keyed) fun _ =>
        role_bind (server_call getCurrentTime_keyed) fun _ => role_bind server_theServer fun _ =>
          role_bind (server_run _) fun _ => server_update _)
  have fifo : ServerKeyed options (onFifo event.bytes) := by
    unfold onFifo
    split
    · exact role_pure _
    · exact keeps_ite (keeps_throw _) (role_pure _)
  have number : ServerKeyed options (serverOnFd64 event.data event.bytes) :=
    role_bind server_theServer fun _ => role_bind (server_call (check_keyed _ _)) fun _ =>
      role_bind (server_run _) fun p => role_bind (server_deref p) fun _ =>
        keeps_ite (role_bind (server_run _) fun _ =>
          role_bind (server_call (check_keyed _ _)) fun _ => serverOnTimerMulti_keyed p)
          (serverOnUdpRecv_keyed p _ _)
  exact keeps_ite (role_bind sweep fun _ => role_pure _)
    (keeps_ite (role_bind (serverOnRawRecvMulti_keyed _) fun _ => role_pure _)
      (keeps_ite (role_bind fifo fun _ => role_pure _)
        (keeps_ite (role_bind server_theServer fun _ => keeps_ite (role_pure _)
          (role_bind number fun _ => role_pure _)) (keeps_throw _))))

/-- The schedules of a reachable server belong to its keys. -/
theorem Reachable.scheduled {standing : Standing} {answers : Nat → Answer v} {filterPort : UInt16}
    {state : Machine v × Server options}
    (reachable : Reachable options standing answers filterPort state) :
    Scheduled options state.1 := by
  induction reachable with
  | start => exact AesState.initial_holds options.crypto options.keys
  | logged log _ ih => exact ih
  | event _ returned ih => exact ((serverOnEvent_keyed _ _ _ _ _ returned).run ih).1

end Udp2raw
