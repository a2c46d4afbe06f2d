import Udp2raw.Connection.Lru

/-!
# Conversations

`conv_manager_t`: one connection carries many conversations, each known by its number in
the tunnel and by what it belongs to at this end (`data`): a socket at the server, a local
address at the client. What is released with a conversation is the caller's; it is
threaded through the calls that erase one.
-/
namespace Udp2raw

open Proc

variable {v : IpVersion} {τ ρ : Type} [DecidableEq τ]

/-- `conv_manager_t`. -/
structure ConvManager (τ : Type) [DecidableEq τ] where
  /-- `data_to_conv`. -/
  dataToConv : Table τ UInt32
  /-- `conv_to_data`. -/
  convToData : Table UInt32 τ
  /-- The conversations by their last use. -/
  lru : LruCollector UInt32
  /-- The time of the last sweep. -/
  lastClearTime : Nat

namespace ConvManager

/-- The constructor, which leaves the time of the last sweep as the memory was. -/
def new : Proc v (ConvManager τ) := do
  return ⟨∅, ∅, .empty, (← ask).number⟩

/-- `get_size`. -/
def getSize (manager : ConvManager τ) : Nat := manager.convToData.size

/-- `is_conv_used`. -/
def isConvUsed (manager : ConvManager τ) (conv : UInt32) : Bool := conv ∈ manager.convToData

/-- `is_data_used`. -/
def isDataUsed (manager : ConvManager τ) (data : τ) : Bool := data ∈ manager.dataToConv

/-- `find_conv_by_data`, called for data in use. -/
def findConvByData (manager : ConvManager τ) (data : τ) : UInt32 :=
  (manager.dataToConv.lookup data).getD 0

/-- `find_data_by_conv`, called for a conversation in use. -/
def findDataByConv [Inhabited τ] (manager : ConvManager τ) (conv : UInt32) : τ :=
  (manager.convToData.lookup conv).getD default

/-- `get_new_conv`: draw until a number is unused. -/
def getNewConv (manager : ConvManager τ) : Proc v UInt32 := do
  match (← ask).draws.find? fun conv => !manager.isConvUsed conv.val with
  | some conv => return conv.val
  | none => throw (.endless "get_new_conv")

/-- `update_active_time`. -/
def updateActiveTime (manager : ConvManager τ) (conv : UInt32) : Proc v (ConvManager τ) := do
  return { manager with lru := ← manager.lru.update conv }

/-- `insert_conv`. -/
def insertConv (manager : ConvManager τ) (conv : UInt32) (data : τ) : Proc v (ConvManager τ) := do
  return { manager with
    dataToConv := manager.dataToConv.insert data conv
    convToData := manager.convToData.insert conv data
    lru := ← manager.lru.newKey conv }

/-- The manager without a conversation. -/
def without (manager : ConvManager τ) (conv : UInt32) (data : τ) : ConvManager τ :=
  { manager with
    dataToConv := manager.dataToConv.erase data
    convToData := manager.convToData.erase conv
    lru := manager.lru.erase conv }

variable [Inhabited τ] (clear : τ → ρ → Exec ρ)

/-- `erase_conv`: the caller's data is released, then the conversation is forgotten. -/
def eraseConv (conv : UInt32) (state : ConvManager τ × ρ) : Exec (ConvManager τ × ρ) := do
  let data := state.1.findDataByConv conv
  let released ← clear data state.2
  assert (conv ∈ state.1.lru.mp) "mp.find(key) != mp.end()"
  return (state.1.without conv data, released)

/-- The loop of `clear_inactive0`: the oldest conversations go while they are idle. -/
def clearOldest (currentTime : Nat) : Nat → ConvManager τ × ρ → Exec (ConvManager τ × ρ)
  | 0, state => .ok state
  | count + 1, state =>
    match state.1.lru.q.getLast? with
    | none => .ok state
    | some node =>
      if elapsed currentTime node.ts < convTimeout then .ok state
      else do clearOldest currentTime count (← eraseConv clear node.key state)

/-- `clear_inactive0`. -/
def clearInactive0 (currentTime : Nat) (state : ConvManager τ × ρ) : Exec (ConvManager τ × ρ) :=
  let size := state.1.lru.q.length
  clearOldest clear currentTime (min (size / convClearRatio + convClearMin) size) state

/-- `clear_inactive`. -/
def clearInactive (manager : ConvManager τ) (resources : ρ) : Proc v (ConvManager τ × ρ) := do
  let now ← getCurrentTime
  if elapsed now manager.lastClearTime ≤ convClearInterval then return (manager, resources)
  else do
    let lastClearTime ← getCurrentTime
    let currentTime ← getCurrentTime
    liftM (clearInactive0 clear currentTime ({ manager with lastClearTime }, resources))

/-- `clear`, run by the destructor: everything is released. -/
def clearAll (manager : ConvManager τ) (resources : ρ) : Exec ρ :=
  manager.convToData.entries.foldlM (fun resources entry => clear entry.2 resources) resources

end ConvManager

end Udp2raw
