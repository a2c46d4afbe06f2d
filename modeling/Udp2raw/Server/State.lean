import Udp2raw.Connection.Transfer

/-!
# The state of the server

The descriptors of `fd_manager_t` with the ones the kernel has open, the connections of
`conn_manager_t`, and the heap that both point into. Every table of the server leads to
the same connection objects, so these are kept behind pointers here as they are there.
-/
namespace Udp2raw

open Proc

variable {v : IpVersion} {α : Type}

/-- A pointer to a `conn_info_t`. -/
abbrev Ptr := Nat

/-- `fd_manager_t`, and what the kernel has open for it. -/
structure Descriptors where
  /-- `counter`, which would need 2^64 descriptors to overflow. -/
  counter : Nat
  /-- `fd_to_fd64_mp`. -/
  fdToFd64 : Table Nat Nat
  /-- `fd64_to_fd_mp`. -/
  fd64ToFd : Table Nat Nat
  /-- `fd_info_mp`: the connection of a descriptor. -/
  fdInfo : Table Nat Ptr
  /-- The open descriptors, each with the serial number of what it stands for. -/
  opened : Table Nat Nat
  /-- How many things the kernel opened. -/
  serials : Nat

namespace Descriptors

/-- The constructor of `fd_manager_t`. -/
def new : Descriptors := ⟨2 ^ 32 - 1 + 100, ∅, ∅, ∅, ∅, 0⟩

variable (descriptors : Descriptors)

/-- `fd_exist`. -/
def fdExist (fd : Nat) : Bool := fd ∈ descriptors.fdToFd64

/-- `exist`. -/
def exist (fd64 : Nat) : Bool := fd64 ∈ descriptors.fd64ToFd

/-- `exist_info`. -/
def existInfo (fd64 : Nat) : Bool := fd64 ∈ descriptors.fdInfo

/-- `to_fd`. -/
def toFd (fd64 : Nat) : Exec Nat := do
  assert (descriptors.exist fd64) "exist(fd64)"
  return (descriptors.fd64ToFd.lookup fd64).getD 0

/-- The kernel opens a descriptor. -/
def sockOpen (fd : Nat) : Descriptors :=
  { descriptors with
    opened := descriptors.opened.insert fd descriptors.serials
    serials := descriptors.serials + 1 }

/-- `sock_close`. -/
def sockClose (fd : Nat) : Descriptors :=
  { descriptors with opened := descriptors.opened.erase fd }

/-- `fd64_close`. -/
def fd64Close (fd64 : Nat) : Exec Descriptors := do
  let fd ← descriptors.toFd fd64
  return { descriptors with
    fd64ToFd := descriptors.fd64ToFd.erase fd64
    fdToFd64 := descriptors.fdToFd64.erase fd
    fdInfo := descriptors.fdInfo.erase fd64 }.sockClose fd

/-- `create`. -/
def create (fd : Nat) : Exec (Nat × Descriptors) := do
  assert (!descriptors.fdExist fd) "!fd_exist(fd)"
  let fd64 := descriptors.counter
  return (fd64, { descriptors with
    counter := descriptors.counter + 1
    fdToFd64 := descriptors.fdToFd64.insert fd fd64
    fd64ToFd := descriptors.fd64ToFd.insert fd64 fd })

/-- `get_info(fd64).p_conn_info`, read. -/
def getInfo (fd64 : Nat) : Exec Ptr := do
  assert (descriptors.exist fd64) "exist(fd64)"
  match descriptors.fdInfo.lookup fd64 with
  | none => .error (.undefined "p_conn_info")
  | some p => return p

/-- `get_info(fd64).p_conn_info`, written. -/
def setInfo (fd64 : Nat) (p : Ptr) : Exec Descriptors := do
  assert (descriptors.exist fd64) "exist(fd64)"
  return { descriptors with fdInfo := descriptors.fdInfo.insert fd64 p }

end Descriptors

/-- `server_clear_function`: the socket of a conversation is closed. -/
def serverClearFunction (fd64 : Nat) (descriptors : Descriptors) : Exec Descriptors := do
  assert (descriptors.exist fd64) "fd_manager.exist(fd64)"
  descriptors.fd64Close fd64

/-- `conn_info_t` at the server: a conversation belongs to a socket. -/
abbrev ServerConn (options : Options v) := ConnInfo options ServerState Nat

/-- The state of a server: `conn_manager`, `fd_manager` and the connections. -/
structure Server (options : Options v) where
  /-- The connections that are allocated. -/
  heap : Ptr → Option (ServerConn options)
  /-- The next pointer that is allocated. -/
  allocated : Ptr
  /-- `ready_num`. -/
  readyNum : UInt32
  /-- `const_id_mp`. -/
  constIdMp : Table UInt32 Ptr
  /-- `mp`. -/
  mp : Table (Address v) Ptr
  /-- `clear_it`, by the key it stands on. -/
  clearIt : Option (Address v)
  /-- `last_clear_time`. -/
  lastClearTime : Nat
  /-- `fd_manager`. -/
  descriptors : Descriptors

variable {options : Options v}

namespace Server

/-- A server that starts. -/
def start : Server options where
  heap := fun _ => none
  allocated := 0
  readyNum := 0
  constIdMp := ∅
  mp := ∅
  clearIt := none
  lastClearTime := 0
  descriptors := .new

variable (server : Server options)

/-- The server with a connection in memory. -/
def put (p : Ptr) (conn : ServerConn options) : Server options :=
  { server with heap := Function.update server.heap p (some conn) }

/-- The server with a connection freed. -/
def free (p : Ptr) : Server options :=
  { server with heap := Function.update server.heap p none }

/-- The server with changed descriptors. -/
def withDescriptors (descriptors : Descriptors) : Server options := { server with descriptors }

/-- `conn_manager.exist`. -/
def exist (addr : Address v) : Bool := addr ∈ server.mp

/-- The pointer `p`, followed. -/
def deref (p : Ptr) : Exec (ServerConn options) :=
  match server.heap p with
  | none => .error (.undefined "conn_info")
  | some conn => .ok conn

/-- `conn_manager.find_insert` for an address that exists. -/
def find (addr : Address v) : Exec Ptr :=
  match server.mp.lookup addr with
  | none => .error (.undefined "mp")
  | some p => .ok p

end Server

/-- A function of the server. -/
abbrev ServerProc (options : Options v) := Program Fault (Machine v × Server options)

namespace ServerProc

/-- Call a pure function. -/
def run (computation : Exec α) : ServerProc options α := liftM computation

/-- Call a function of the shared layers. -/
def call (proc : Proc v α) : ServerProc options α := onFirst proc

/-- The state of the server. -/
def theServer : ServerProc options (Server options) := onSecond get

/-- Change the state of the server. -/
def update (change : Server options → Server options) : ServerProc options Unit :=
  onSecond (modify change)

/-- The connection behind a pointer. -/
def deref (p : Ptr) : ServerProc options (ServerConn options) := do
  run ((← theServer).deref p)

/-- Store the connection behind a pointer. -/
def store (p : Ptr) (conn : ServerConn options) : ServerProc options Unit :=
  update fun server => server.put p conn

/-- Change the descriptors. -/
def onDescriptors (change : Descriptors → Exec (α × Descriptors)) : ServerProc options α := do
  let changed ← run (change (← theServer).descriptors)
  update fun server => server.withDescriptors changed.2
  return changed.1

end ServerProc

end Udp2raw
