import Udp2raw.AntiReplay
import Udp2raw.Connection.Conversation

/-!
# Connections

`conn_info_t`: the state of one raw connection. The client has a single one and the server
one for each address it heard from. What is large in it, the conversations and the
anti-replay window, is allocated when the connection becomes ready.
-/
namespace Udp2raw

open Proc

variable {v : IpVersion} {σ τ : Type} [DecidableEq τ]

/-- `blob_t`. -/
structure Blob (τ : Type) [DecidableEq τ] where
  /-- `conv_manager`. -/
  convManager : ConvManager τ
  /-- `anti_replay`. -/
  antiReplay : AntiReplay

/-- `conn_info_t`, with the states of a role and what its conversations belong to. -/
structure ConnInfo (options : Options v) (σ τ : Type) [DecidableEq τ] where
  /-- `state`. -/
  state : σ
  /-- `raw_info`. -/
  rawInfo : RawInfo options.raw
  /-- `last_state_time`. -/
  lastStateTime : Nat
  /-- `last_hb_sent_time`. -/
  lastHbSentTime : Nat
  /-- `last_hb_recv_time`. -/
  lastHbRecvTime : Nat
  /-- `my_id`. -/
  myId : UInt32
  /-- `oppsite_id`. -/
  oppsiteId : UInt32
  /-- `timer_fd64`. -/
  timerFd64 : Nat
  /-- `oppsite_const_id`. -/
  oppsiteConstId : UInt32
  /-- `blob`. -/
  blob : Option (Blob τ)
  /-- `my_roller`. -/
  myRoller : UInt8
  /-- `oppsite_roller`. -/
  oppsiteRoller : UInt8
  /-- `last_oppsite_roller_time`. -/
  lastOppsiteRollerTime : Nat

/-- The constructor of `conn_info_t`, with the `re_init` it ends with. What it does not set is
what the memory held. -/
def newConnInfo (options : Options v) (idle : σ) : Proc v (ConnInfo options σ τ) := do
  let rawInfo ← newRawInfo options
  let sentTime := (← ask).number
  let recvTime := (← ask).number
  let myId := (← ask).word
  let oppsiteId := (← ask).word
  return {
    state := idle
    rawInfo
    lastStateTime := 0
    lastHbSentTime := sentTime
    lastHbRecvTime := recvTime
    myId
    oppsiteId
    timerFd64 := 0
    oppsiteConstId := 0
    blob := none
    myRoller := 0
    oppsiteRoller := 0
    lastOppsiteRollerTime := 0 }

/-- The constructor of `blob_t`. -/
def newBlob : Proc v (Blob τ) := do
  let convManager ← ConvManager.new
  let window := (← ask).window
  let random ← getTrueRandomNumber64
  return ⟨convManager, .new window random⟩

namespace ConnInfo

variable {options : Options v}

/-- The pointer `blob`, followed. -/
def theBlob (conn : ConnInfo options σ τ) : Exec (Blob τ) :=
  match conn.blob with
  | none => .error (.undefined "blob")
  | some blob => .ok blob

/-- `prepare`. -/
def prepare (conn : ConnInfo options σ τ) : Proc v (ConnInfo options σ τ) := do
  check conn.blob.isNone "blob == 0"
  return { conn with blob := some (← newBlob) }

/-- `recover`: the connection goes on with the session of another one. -/
def recover (conn other : ConnInfo options σ τ) : Exec (ConnInfo options σ τ) := do
  let blob ← conn.theBlob
  return { conn with
    rawInfo := { other.rawInfo with
      rstReceived := 0, disabled := false, disabledAllowed := options.enabledAllowed }
    lastStateTime := other.lastStateTime
    lastHbRecvTime := other.lastHbRecvTime
    lastHbSentTime := other.lastHbSentTime
    myId := other.myId
    oppsiteId := other.oppsiteId
    blob := some { blob with antiReplay := blob.antiReplay.reInit }
    myRoller := 0
    oppsiteRoller := 0
    lastOppsiteRollerTime := 0 }

/-- The connection with a changed anti-replay window. -/
def withAntiReplay (conn : ConnInfo options σ τ) (blob : Blob τ) (antiReplay : AntiReplay) :
    ConnInfo options σ τ :=
  { conn with blob := some { blob with antiReplay } }

/-- The connection with changed conversations. -/
def withConvs (conn : ConnInfo options σ τ) (blob : Blob τ) (convManager : ConvManager τ) :
    ConnInfo options σ τ :=
  { conn with blob := some { blob with convManager } }

end ConnInfo

end Udp2raw
