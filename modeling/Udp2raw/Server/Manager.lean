import Udp2raw.Server.State

/-!
# The connection manager

`conn_manager_t::erase` with the destructor of a connection, and the sweep that looks at a
part of the table each time and goes on where it stopped.
-/
namespace Udp2raw

open Proc ServerProc

variable {v : IpVersion} {options : Options v}

namespace Server

variable (server : Server options)

/-- The assertions of `~conn_info_t`. -/
def checkDestroyed (conn : ServerConn options) : Exec Unit :=
  if conn.state = .ready then do
    assert conn.blob.isSome "blob != 0"
    assert (conn.oppsiteConstId ≠ 0) "oppsite_const_id != 0"
    assert (conn.timerFd64 = 0) "timer_fd64 == 0"
  else do
    assert conn.blob.isNone "blob == 0"
    assert (conn.oppsiteConstId = 0) "oppsite_const_id == 0"
    assert (conn.timerFd64 = 0) "timer_fd64 == 0"

/-- `~conn_info_t` and the release of its memory. -/
def destroy (p : Ptr) (conn : ServerConn options) : Exec (Server options) := do
  checkDestroyed conn
  match conn.blob with
  | none => return server.free p
  | some blob => do
    let descriptors ← blob.convManager.clearAll serverClearFunction server.descriptors
    return (server.withDescriptors descriptors).free p

/-- The part of `erase` that takes a ready connection out of its tables. -/
def retire (conn : ServerConn options) : Exec (Server options) := do
  let readyNum := server.readyNum - 1
  assert (readyNum ≠ 0xffffffff) "i32_t(ready_num) != -1"
  assert (conn.timerFd64 ≠ 0) "timer_fd64 != 0"
  assert (server.descriptors.exist conn.timerFd64) "fd_manager.exist(timer_fd64)"
  assert (conn.oppsiteConstId ≠ 0) "oppsite_const_id != 0"
  assert (conn.oppsiteConstId ∈ server.constIdMp) "const_id_mp.find(...) != const_id_mp.end()"
  let descriptors ← server.descriptors.fd64Close conn.timerFd64
  return { server with
    readyNum
    constIdMp := server.constIdMp.erase conn.oppsiteConstId
    descriptors }

/-- `erase`. -/
def erase (addr : Address v) : Exec (Server options) := do
  let p ← server.find addr
  let conn ← server.deref p
  if conn.state = .ready then do
    let server ← server.retire conn
    let server ← server.destroy p { conn with timerFd64 := 0 }
    return { server with mp := server.mp.erase addr }
  else do
    assert conn.blob.isNone "blob == 0"
    assert (conn.timerFd64 = 0) "timer_fd64 == 0"
    assert (conn.oppsiteConstId = 0) "oppsite_const_id == 0"
    let server ← server.destroy p conn
    return { server with mp := server.mp.erase addr }

/-- Whether `clear_inactive0` keeps a connection for its age. -/
def isFresh (conn : ServerConn options) (currentTime : Nat) : Bool :=
  if conn.state = .ready then elapsed currentTime conn.lastHbRecvTime ≤ serverConnTimeout
  else elapsed currentTime conn.lastStateTime ≤ serverHandshakeTimeout

/-- Whether `clear_inactive0` keeps a connection for its conversations. -/
def isBusy (conn : ServerConn options) : Bool :=
  conn.blob.any fun blob => 0 < blob.convManager.getSize

/-- The loop of `clear_inactive0`, from an entry of the table. -/
def sweep (currentTime : Nat) : Nat → Option (Address v) → Server options →
    Exec (Option (Address v) × Server options)
  | 0, it, server => .ok (it, server)
  | count + 1, it, server =>
    match server.mp.first with
    | none => .ok (it, server)
    | some begin_ => do
      let addr := it.getD begin_
      let next := server.mp.next addr
      let p ← server.find addr
      let conn ← server.deref p
      if isFresh conn currentTime then sweep currentTime count next server
      else if isBusy conn then do
        assert (conn.state = .ready) "state == server_ready"
        sweep currentTime count next server
      else do
        let server ← server.erase addr
        sweep currentTime count next server

/-- `clear_inactive0`. -/
def clearInactive0 (currentTime : Nat) : Exec (Server options) := do
  let size := server.mp.size
  let numToClean := min (size / connClearRatio + connClearMin) size
  let swept ← sweep currentTime numToClean server.clearIt server
  return { swept.2 with clearIt := swept.1 }

end Server

/-- `conn_manager.clear_inactive`. -/
def clearInactive : ServerProc options Unit := do
  let now ← call getCurrentTime
  if elapsed now (← theServer).lastClearTime ≤ connClearInterval then return
  else do
    let lastClearTime ← call getCurrentTime
    let currentTime ← call getCurrentTime
    let server ← run ({ (← theServer) with lastClearTime }.clearInactive0 currentTime)
    update fun _ => server

end Udp2raw
