import Udp2raw.Connection.GroFraming
import Udp2raw.Connection.Linked

/-!
# The conversation table over a whole run

The operations that the client and the server perform on a `conv_manager_t`, and what holds
after any sequence of them: the two tables are inverse to each other, the collector has one
node for each conversation and keeps them in the order of their last use, and a sweep takes
the conversations that were idle the longest, releasing each of them once. When a conversation
was used is said by the history of the operations and not by the collector.
-/
namespace Udp2raw

open Proc Recency

variable {v : IpVersion} {τ ρ : Type} [DecidableEq τ] {m m' : Machine v}

/-- The unsigned difference to an earlier time is the difference, up to whole turns. -/
theorem elapsed_of_le {now earlier : Nat} (past : earlier ≤ now) :
    elapsed now earlier = (now - earlier) % 2 ^ 64 := by
  have split : now + (2 ^ 64 - earlier % 2 ^ 64) =
      (now - earlier) + 2 ^ 64 * (earlier / 2 ^ 64 + 1) := by
    have whole := Nat.div_add_mod earlier (2 ^ 64)
    have small := Nat.mod_lt earlier (show 0 < 2 ^ 64 by decide)
    omega
  rw [elapsed, split, Nat.add_mul_mod_self_left]

/-- A time is at least as far back as the unsigned difference says. -/
theorem elapsed_le {now earlier : Nat} (past : earlier ≤ now) :
    elapsed now earlier ≤ now - earlier := by
  rw [elapsed_of_le past]
  exact Nat.mod_le _ _

/-- The unsigned difference is the difference, if the times are numbers of sixty-four bits. -/
theorem elapsed_eq {now earlier : Nat} (past : earlier ≤ now) (small : now < 2 ^ 64) :
    elapsed now earlier = now - earlier := by
  rw [elapsed_of_le past]
  exact Nat.mod_eq_of_lt (Nat.lt_of_le_of_lt (Nat.sub_le _ _) small)

/-- An operation on the conversations. -/
inductive ConvOp (τ : Type) where
  /-- The client looks up the conversation of a local peer, or makes one, and uses it. -/
  | peer (data : τ)
  /-- The server gives a conversation that it does not know a socket, and uses it. -/
  | socket (conv : UInt32) (data : τ)
  /-- A message of a conversation is received. -/
  | receive (conv : UInt32)
  /-- `clear_inactive`. -/
  | clearInactive
  /-- `clear`. -/
  | clear

namespace ConvManager

/-- The conversation of a local peer at the client, which is made if there is none and room for
one. -/
def convOf (manager : ConvManager τ) (data : τ) : Proc v (Option (UInt32 × ConvManager τ)) := do
  if manager.isDataUsed data then return some (manager.findConvByData data, manager)
  else if maxConvNum ≤ manager.getSize then return none
  else do
    let conv ← manager.getNewConv
    return some (conv, ← manager.insertConv conv data)

/-- `clear`: the destructor releases everything, and nothing is left. -/
def clearTables (clear : τ → ρ → Exec ρ) (state : ConvManager τ × ρ) :
    Exec (ConvManager τ × ρ) := do
  let released ← clearAll clear state.1 state.2
  return ({ state.1 with dataToConv := ∅, convToData := ∅, lru := .empty }, released)

/-- An operation, as the handlers of the two roles perform it. -/
def perform [Inhabited τ] (clear : τ → ρ → Exec ρ) (state : ConvManager τ × ρ) :
    ConvOp τ → Proc v (ConvManager τ × ρ)
  | .peer data => do
    match ← state.1.convOf data with
    | none => return state
    | some (conv, manager) => return (← manager.updateActiveTime conv, state.2)
  | .socket conv data =>
    if state.1.isConvUsed conv then return state
    else if maxConvNum ≤ state.1.getSize then return state
    else do
      let manager ← state.1.insertConv conv data
      return (← manager.updateActiveTime conv, state.2)
  | .receive conv =>
    if state.1.isConvUsed conv then return (← state.1.updateActiveTime conv, state.2)
    else return state
  | .clearInactive => clearInactive clear state.1 state.2
  | .clear => liftM (clearTables clear state)

/-- The server only gives a conversation a number of `fd_manager` that is new. -/
def Allowed (manager : ConvManager τ) : ConvOp τ → Prop
  | .socket _ data => data ∉ manager.dataToConv
  | _ => True

/-- The conversation that an operation used, if it used one. -/
def usedBy (before after : ConvManager τ) : ConvOp τ → Option UInt32
  | .peer data => after.dataToConv.lookup data
  | .socket conv _ =>
    if conv ∉ before.convToData ∧ conv ∈ after.convToData then some conv else none
  | .receive conv => if conv ∈ before.convToData then some conv else none
  | .clearInactive => none
  | .clear => none

/-- A history after an operation that ended at a time. -/
def noted (op : ConvOp τ) (before after : ConvManager τ) (now : Nat)
    (history : List (Use UInt32)) : List (Use UInt32) :=
  ((usedBy before after op).map fun conv => ⟨conv, now⟩).toList ++ history

/-- The conversations of a table with their last uses, from the latest to the oldest. -/
def lastUses (manager : ConvManager τ) (history : List (Use UInt32)) : List (Use UInt32) :=
  recent manager.isConvUsed history

/-- The conversation table is in order at a time. -/
structure InOrder (machine : Machine v) (manager : ConvManager τ) : Prop where
  /-- The two tables are inverse to each other. -/
  inverse : ∀ conv data, manager.convToData.lookup conv = some data ↔
    manager.dataToConv.lookup data = some conv
  /-- The collector's table has the conversations as its keys, -/
  table : ∀ conv, conv ∈ manager.lru.mp ↔ conv ∈ manager.convToData
  /-- and so has its list, -/
  queue : ∀ conv, conv ∈ manager.lru.keys ↔ conv ∈ manager.convToData
  /-- without repetition. -/
  once : manager.lru.keys.Nodup
  /-- The iterator of a conversation leads to its own node. -/
  points : ∀ conv place, manager.lru.mp.lookup conv = some place ↔
    ∃ ts, ⟨place, conv, ts⟩ ∈ manager.lru.q
  /-- The list goes from the latest use to the oldest, -/
  sorted : manager.lru.Sorted
  /-- and no use is later than now. -/
  early : manager.lru.NotAfter machine.now
  /-- There are not too many conversations. -/
  room : manager.getSize ≤ maxConvNum

variable {manager next : ConvManager τ} {conv : UInt32} {data : τ}

/-- A linked table that is sorted is in order. -/
theorem inOrder_of_linked (linked : manager.Linked) (sorted : manager.lru.Sorted)
    (early : manager.lru.NotAfter m.now) (room : manager.getSize ≤ maxConvNum) :
    InOrder m manager where
  inverse := linked.inverse
  table conv := by rw [LruCollector.mem_mp_iff, linked.nodes]
  queue := linked.nodes
  once := manager.lru.keys_nodup
  points := manager.lru.points
  sorted := sorted
  early := early
  room := room

/-- A table in order is linked. -/
theorem InOrder.linked (inOrder : InOrder m manager) : manager.Linked :=
  ⟨inOrder.inverse, inOrder.queue⟩

/-- Time passes. -/
theorem InOrder.mono (inOrder : InOrder m manager) (clock : m.now ≤ m'.now) :
    InOrder m' manager :=
  inOrder_of_linked inOrder.linked inOrder.sorted (inOrder.early.mono clock) inOrder.room

/-- A table without conversations is in order. -/
theorem inOrder_of_empty (convToData : manager.convToData = ∅) (dataToConv : manager.dataToConv = ∅)
    (lru : manager.lru = .empty) : InOrder m manager := by
  refine inOrder_of_linked (linked_of_empty convToData dataToConv lru) ?_ ?_ ?_
  · rw [lru]
    exact List.Pairwise.nil
  · rw [lru]
    exact nofun
  · rw [getSize, convToData]
    exact Nat.zero_le _

/-! ### Single operations -/

/-- A used conversation keeps the table in order. -/
theorem InOrder.updateActiveTime (inOrder : InOrder m manager)
    (returned : Returns (manager.updateActiveTime conv) m next m') :
    InOrder m' next ∧ m.now ≤ m'.now := by
  obtain ⟨ran, same, early⟩ := updateActiveTime_ran returned
  have sorted : next.lru.Sorted := by
    simp only [ConvManager.updateActiveTime, LruCollector.update, Returns.bind_iff,
      Returns.pure_iff, check_iff] at returned
    obtain ⟨lru, _, ⟨_, _, -, time, _, -, _, _, ⟨front, -⟩, rfl, -⟩, rfl, -⟩ := returned
    exact (inOrder.sorted.erase conv).pushFront
      (fun inside => (manager.lru.mem_keys_erase.mp inside).1 rfl) front
  refine ⟨inOrder_of_linked (inOrder.linked.same same) sorted (early inOrder.early) ?_, ran.now⟩
  rw [getSize, same.convToData]
  exact inOrder.room

/-- A conversation in use can be used again. -/
theorem InOrder.updateActiveTime_succeeds (inOrder : InOrder m manager)
    (used : conv ∈ manager.convToData) :
    Succeeds (manager.updateActiveTime conv) m fun _ _ => True :=
  ConvManager.updateActiveTime_succeeds ((inOrder.queue conv).mpr used) inOrder.early

/-- A new conversation keeps the table in order, if there is room for it. -/
theorem InOrder.insertConv (inOrder : InOrder m manager) (unused : conv ∉ manager.convToData)
    (fresh : data ∉ manager.dataToConv) (room : manager.getSize < maxConvNum)
    (returned : Returns (manager.insertConv conv data) m next m') :
    InOrder m' next ∧ conv ∈ next.convToData := by
  obtain ⟨ran, dataToConv, convToData, keys, -, early⟩ := insertConv_ran returned
  have sorted : next.lru.Sorted := by
    simp only [ConvManager.insertConv, LruCollector.newKey, Returns.bind_iff,
      Returns.pure_iff] at returned
    obtain ⟨lru, _, keyed, rfl, -⟩ := returned
    split at keyed
    · exact absurd keyed Returns.throw_iff
    · rename_i absent
      simp only [Returns.bind_iff, Returns.pure_iff, check_iff] at keyed
      obtain ⟨time, _, -, _, _, ⟨front, -⟩, rfl, -⟩ := keyed
      exact inOrder.sorted.pushFront
        (fun inside => absent (manager.lru.mem_mp_iff.mpr inside)) front
  refine ⟨inOrder_of_linked (inOrder.linked.insert unused fresh dataToConv convToData keys) sorted
    (early inOrder.early) ?_, ?_⟩
  · rw [getSize, convToData, Table.size_insert unused]
    exact room
  · rw [convToData, Table.insert, AList.mem_insert]
    exact .inl rfl

/-- A drawn number is unused. -/
theorem getNewConv_unused (returned : Returns (manager.getNewConv) m conv m') :
    conv ∉ manager.convToData ∧ m' = { m with asked := m.asked + 1 } := by
  simp only [getNewConv, ask, Returns.bind_iff, Returns.get_iff, Returns.set_iff,
    Returns.pure_iff] at returned
  obtain ⟨answer, _, ⟨_, _, ⟨rfl, rfl⟩, _, _, rfl, rfl, rfl⟩, returned⟩ := returned
  split at returned
  · rename_i drawn found
    obtain ⟨rfl, rfl⟩ := Returns.pure_iff.mp returned
    have unused := List.find?_some found
    exact ⟨by simpa [isConvUsed] using unused, rfl⟩
  · exact absurd returned Returns.throw_iff

/-- Drawing a number only ends in a number. -/
theorem getNewConv_stops : Stops (manager.getNewConv) m
    fun fault => fault = .endless "get_new_conv" := by
  refine .bind (.of_total ask_total) fun answer state _ => ?_
  split
  · exact .pure _
  · exact .throw rfl

/-- The conversation of a peer is in a table that is in order. -/
theorem InOrder.convOf (inOrder : InOrder m manager) {result : Option (UInt32 × ConvManager τ)}
    (returned : Returns (manager.convOf data) m result m') :
    m.now ≤ m'.now ∧ ∀ conv next, result = some (conv, next) →
      InOrder m' next ∧ conv ∈ next.convToData := by
  unfold ConvManager.convOf at returned
  split at returned
  · rename_i used
    obtain ⟨rfl, rfl⟩ := Returns.pure_iff.mp returned
    refine ⟨Nat.le_refl _, fun conv next same => ?_⟩
    obtain ⟨rfl, rfl⟩ := Prod.mk.inj (Option.some.inj same)
    obtain ⟨conv, known⟩ := Table.mem_iff_lookup.mp (of_decide_eq_true used)
    refine ⟨inOrder, Table.mem_iff_lookup.mpr ⟨data, ?_⟩⟩
    rw [findConvByData, known]
    exact (inOrder.inverse conv data).mpr known
  rename_i unknown
  split at returned
  · obtain ⟨rfl, rfl⟩ := Returns.pure_iff.mp returned
    exact ⟨Nat.le_refl _, nofun⟩
  · rename_i room
    simp only [Returns.bind_iff, Returns.pure_iff] at returned
    obtain ⟨conv, _, drawn, next, _, inserted, rfl, rfl⟩ := returned
    obtain ⟨unused, rfl⟩ := getNewConv_unused drawn
    have fresh : data ∉ manager.dataToConv := by simpa [isDataUsed] using unknown
    have later : InOrder { m with asked := m.asked + 1 } manager := inOrder.mono (Nat.le_refl _)
    refine ⟨(insertConv_ran inserted).1.now, fun conv next same => ?_⟩
    obtain ⟨rfl, rfl⟩ := Prod.mk.inj (Option.some.inj same)
    exact later.insertConv unused fresh (Nat.not_le.mp room) inserted

/-! ### Sweeps -/

section Clearing

variable [Inhabited τ] {clear : τ → ρ → Exec ρ} {state final : ConvManager τ × ρ}

/-- The last node of a collector goes with its key. -/
theorem erase_last {lru : LruCollector UInt32} {front : List (LruNode UInt32)}
    {node : LruNode UInt32} (nodes : lru.q = front ++ [node]) : (lru.erase node.key).q = front := by
  have distinct := lru.keys_nodup
  rw [LruCollector.keys, nodes, List.map_append, List.map_singleton] at distinct
  have apart := (List.nodup_append.mp distinct).2.2
  have kept (other : LruNode UInt32) (inside : other ∈ front) : other.key ≠ node.key :=
    apart other.key (List.mem_map_of_mem inside) node.key (List.mem_singleton.mpr rfl)
  rw [LruCollector.erase_q, nodes, List.filter_append]
  simpa using kept

/-- What a sweep did: the oldest conversations, all of them idle, were released one by one. -/
structure Swept (clear : τ → ρ → Exec ρ) (currentTime : Nat) (before after : ConvManager τ × ρ)
    (removed : List (LruNode UInt32)) : Prop where
  /-- The nodes that are gone were the last ones. -/
  oldest : before.1.lru.q = after.1.lru.q ++ removed
  /-- They were idle. -/
  idle : ∀ node ∈ removed, convTimeout ≤ elapsed currentTime node.ts
  /-- Their conversations are gone and the others are left. -/
  convToData : ∀ conv, after.1.convToData.lookup conv =
    if conv ∈ removed.map LruNode.key then none else before.1.convToData.lookup conv
  /-- The data of each of them was released once, the oldest first. -/
  released : (removed.reverse.map fun node => before.1.findDataByConv node.key).foldlM
    (fun resources data => clear data resources) before.2 = .ok after.2

/-- The loop of a sweep releases the oldest conversations while they are idle. -/
theorem clearOldest_swept {currentTime count : Nat} (linked : state.1.Linked)
    (ran : clearOldest clear currentTime count state = .ok final) :
    ∃ removed, Swept clear currentTime state final removed ∧ final.1.Linked := by
  have still (state : ConvManager τ × ρ) : Swept clear currentTime state state [] :=
    ⟨by simp, nofun, by simp, rfl⟩
  induction count generalizing state with
  | zero =>
    obtain rfl := Except.ok.inj ran
    exact ⟨[], still _, linked⟩
  | succ count ih =>
    rw [clearOldest] at ran
    cases oldest : state.1.lru.q.getLast? with
    | none =>
      simp only [oldest] at ran
      obtain rfl := Except.ok.inj ran
      exact ⟨[], still _, linked⟩
    | some node =>
      simp only [oldest] at ran
      split at ran
      · obtain rfl := Except.ok.inj ran
        exact ⟨[], still _, linked⟩
      rename_i idle
      obtain ⟨data, used⟩ := linked.oldest_used oldest
      obtain ⟨front, nodes⟩ := List.getLast?_eq_some_iff.mp oldest
      rw [eraseConv_eq linked used] at ran
      cases released : clear data state.2 with
      | error fault => simp [released, Except.map, bind, Except.bind] at ran
      | ok resources =>
        simp only [released, Except.map, bind, Except.bind] at ran
        obtain ⟨removed, swept, still⟩ := ih (linked.without used) ran
        have rest : (state.1.without node.key data).lru.q = front := erase_last nodes
        have behind := swept.oldest
        dsimp only at behind
        rw [rest] at behind
        refine ⟨removed ++ [node], ⟨?_, ?_, ?_, ?_⟩, still⟩
        · rw [nodes, behind, List.append_assoc]
        · intro other inside
          rw [List.mem_append, List.mem_singleton] at inside
          obtain inside | rfl := inside
          · exact swept.idle other inside
          · exact Nat.not_lt.mp idle
        · intro conv
          rw [swept.convToData]
          show (if conv ∈ removed.map LruNode.key then none else
            (state.1.convToData.erase node.key).lookup conv) = _
          simp only [Table.lookup_erase, List.map_append, List.map_singleton, List.mem_append,
            List.mem_singleton]
          by_cases here : conv = node.key
          · simp [here]
          · simp [here]
        · have first : state.1.findDataByConv node.key = data := by
            rw [findDataByConv, used, Option.getD_some]
          have same : (removed.reverse.map fun other => state.1.findDataByConv other.key) =
              removed.reverse.map fun other =>
                (state.1.without node.key data).findDataByConv other.key := by
            refine List.map_congr_left fun other inside => ?_
            have present : other ∈ front := by
              rw [behind]
              exact List.mem_append_right _ (List.mem_reverse.mp inside)
            have distinct := state.1.lru.keys_nodup
            rw [LruCollector.keys, nodes, List.map_append, List.map_singleton] at distinct
            have apart := (List.nodup_append.mp distinct).2.2 other.key
              (List.mem_map_of_mem present) node.key (List.mem_singleton.mpr rfl)
            simp only [findDataByConv, ConvManager.without]
            rw [Table.lookup_erase, if_neg apart]
          rw [List.reverse_append, List.reverse_singleton, List.singleton_append, List.map_cons,
            List.foldlM_cons, first, same, released]
          exact swept.released

omit [Inhabited τ] in
/-- A linked table has as many nodes as conversations. -/
theorem Linked.size (linked : manager.Linked) : manager.getSize = manager.lru.q.length := by
  have same : manager.convToData.keys.Perm manager.lru.keys := by
    refine (List.perm_ext_iff_of_nodup manager.convToData.keys_nodup
      manager.lru.keys_nodup).mpr fun conv => ?_
    rw [← AList.mem_keys, linked.nodes]
  have length := same.length_eq
  rwa [LruCollector.keys, List.length_map, AList.keys, List.keys, List.length_map] at length

/-- A sweep keeps the table in order. -/
theorem InOrder.swept {currentTime : Nat} {removed : List (LruNode UInt32)}
    (inOrder : InOrder m state.1) (linked : final.1.Linked)
    (swept : Swept clear currentTime state final removed) : InOrder m final.1 := by
  have nodes := swept.oldest
  refine inOrder_of_linked linked ?_ (fun node inside => ?_) ?_
  · have sorted := inOrder.sorted
    rw [LruCollector.Sorted, nodes] at sorted
    exact (List.pairwise_append.mp sorted).1
  · exact inOrder.early node (nodes ▸ List.mem_append_left _ inside)
  · have room := inOrder.room
    rw [inOrder.linked.size, nodes, List.length_append] at room
    rw [linked.size]
    omega

/-- What a sweep with its questions for the time did. -/
theorem InOrder.clearInactive (inOrder : InOrder m state.1)
    (returned : Returns (clearInactive clear state.1 state.2) m final m') :
    InOrder m' final.1 ∧ m.now ≤ m'.now ∧
      ∃ removed currentTime, currentTime ≤ m'.now ∧ m.now ≤ currentTime ∧
        Swept clear currentTime state final removed := by
  obtain ⟨manager, resources⟩ := state
  obtain ⟨whole, -⟩ : Ran [] m m' ∧ ∃ lastClearTime, Relation.ReflTransGen (Erased clear)
      ({ manager with lastClearTime }, resources) (final.1, final.2) :=
    clearInactive_erased returned
  have clock := whole.now
  simp only [ConvManager.clearInactive, Returns.bind_iff] at returned
  obtain ⟨now, m1, one, returned⟩ := returned
  have first := (getCurrentTime_ran one).1
  split at returned
  · obtain ⟨rfl, rfl⟩ := Returns.pure_iff.mp returned
    exact ⟨inOrder.mono clock, clock, [], _, Nat.le_refl _, clock, ⟨by simp, by simp, by simp, rfl⟩⟩
  · simp only [Returns.bind_iff, Returns.lift_iff] at returned
    obtain ⟨lastClearTime, m2, two, currentTime, _, three, ran, rfl⟩ := returned
    obtain ⟨third, rfl⟩ := getCurrentTime_ran three
    have begun : InOrder m { manager with lastClearTime } :=
      inOrder_of_linked ⟨inOrder.inverse, inOrder.queue⟩ inOrder.sorted inOrder.early inOrder.room
    have linked : ConvManager.Linked { manager with lastClearTime } := begun.linked
    obtain ⟨removed, swept, still⟩ := clearOldest_swept linked ran
    exact ⟨(begun.mono clock).swept still swept, clock, removed, _, Nat.le_refl _, clock,
      ⟨swept.oldest, swept.idle, swept.convToData, swept.released⟩⟩

omit [Inhabited τ] in
/-- `clear` releases everything and leaves nothing. -/
theorem clearTables_cleared (ran : clearTables clear state = .ok final) :
    (state.1.convToData.entries.map Sigma.snd).foldlM
        (fun resources data => clear data resources) state.2 = .ok final.2 ∧
      final.1.convToData = ∅ ∧ final.1.dataToConv = ∅ ∧ final.1.lru = .empty := by
  simp only [clearTables, bind, Except.bind] at ran
  split at ran
  · contradiction
  · rename_i released cleared
    obtain rfl := Except.ok.inj ran
    refine ⟨?_, rfl, rfl, rfl⟩
    rw [List.foldlM_map]
    exact cleared

/-- Every operation keeps the table in order, and the clock goes on. -/
theorem InOrder.perform {op : ConvOp τ} (inOrder : InOrder m state.1) (allowed : state.1.Allowed op)
    (returned : Returns (perform clear state op) m final m') :
    InOrder m' final.1 ∧ m.now ≤ m'.now := by
  cases op with
  | peer data =>
    simp only [ConvManager.perform, Returns.bind_iff] at returned
    obtain ⟨result, m1, looked, returned⟩ := returned
    obtain ⟨clock, outcome⟩ := inOrder.convOf looked
    cases result with
    | none =>
      obtain ⟨rfl, rfl⟩ := Returns.pure_iff.mp returned
      exact ⟨inOrder.mono clock, clock⟩
    | some found =>
      simp only [Returns.bind_iff, Returns.pure_iff] at returned
      obtain ⟨next, _, used, rfl, rfl⟩ := returned
      obtain ⟨later, rest⟩ := (outcome _ _ rfl).1.updateActiveTime used
      exact ⟨later, clock.trans rest⟩
  | socket conv data =>
    simp only [ConvManager.perform] at returned
    split at returned
    · obtain ⟨rfl, rfl⟩ := Returns.pure_iff.mp returned
      exact ⟨inOrder, Nat.le_refl _⟩
    rename_i unknown
    split at returned
    · obtain ⟨rfl, rfl⟩ := Returns.pure_iff.mp returned
      exact ⟨inOrder, Nat.le_refl _⟩
    rename_i room
    simp only [Returns.bind_iff, Returns.pure_iff] at returned
    obtain ⟨manager, m1, inserted, next, _, used, rfl, rfl⟩ := returned
    have unused : conv ∉ state.1.convToData := by simpa [isConvUsed] using unknown
    have clock := (insertConv_ran inserted).1.now
    obtain ⟨later, -⟩ := inOrder.insertConv unused allowed (Nat.not_le.mp room) inserted
    obtain ⟨latest, rest⟩ := later.updateActiveTime used
    exact ⟨latest, clock.trans rest⟩
  | receive conv =>
    simp only [ConvManager.perform] at returned
    split at returned
    · simp only [Returns.bind_iff, Returns.pure_iff] at returned
      obtain ⟨next, _, used, rfl, rfl⟩ := returned
      exact inOrder.updateActiveTime used
    · obtain ⟨rfl, rfl⟩ := Returns.pure_iff.mp returned
      exact ⟨inOrder, Nat.le_refl _⟩
  | clearInactive =>
    obtain ⟨later, clock, -⟩ := inOrder.clearInactive returned
    exact ⟨later, clock⟩
  | clear =>
    obtain ⟨ran, rfl⟩ := Returns.lift_iff.mp returned
    obtain ⟨-, convToData, dataToConv, lru⟩ := clearTables_cleared ran
    exact ⟨inOrder_of_empty convToData dataToConv lru, Nat.le_refl _⟩

/-! ### What an operation uses -/

variable {op : ConvOp τ} {history : List (Use UInt32)}

omit [Inhabited τ] in
/-- The touch of a conversation puts it in front with the present time. -/
theorem updateActiveTime_times (returned : Returns (manager.updateActiveTime conv) m next m') :
    next.lru.times = ⟨conv, m'.now⟩ :: manager.lru.times.filter fun use => use.1 ≠ conv := by
  simp only [ConvManager.updateActiveTime, Returns.bind_iff, Returns.pure_iff] at returned
  obtain ⟨lru, _, updated, rfl, rfl⟩ := returned
  exact LruCollector.update_times updated

omit [Inhabited τ] in
/-- A new conversation that is touched is in front with the present time. -/
theorem insertConv_times {m1 : Machine v} {middle : ConvManager τ}
    (inserted : Returns (manager.insertConv conv data) m middle m1)
    (used : Returns (middle.updateActiveTime conv) m1 next m') :
    next.lru.times = ⟨conv, m'.now⟩ :: manager.lru.times.filter fun use => use.1 ≠ conv := by
  simp only [ConvManager.insertConv, Returns.bind_iff, Returns.pure_iff] at inserted
  obtain ⟨lru, _, keyed, rfl, rfl⟩ := inserted
  rw [updateActiveTime_times used, LruCollector.newKey_times keyed,
    List.filter_cons_of_neg (by simp)]

/-- An operation used a conversation at a time: it is in the table and the latest one, and what is
known of the others is as it was. -/
structure Used (conv : UInt32) (now : Nat) (before after : ConvManager τ) : Prop where
  /-- It is in the table, and the others are those that were there. -/
  convs : ∀ other, other ∈ after.convToData ↔ other = conv ∨ other ∈ before.convToData
  /-- It is in front. -/
  times : after.lru.times = ⟨conv, now⟩ :: before.lru.times.filter fun use => use.1 ≠ conv

/-- What an operation that is no sweep did: nothing, or it used a conversation. -/
inductive Touched (op : ConvOp τ) (now : Nat) (before after : ConvManager τ × ρ) : Prop
  /-- There was no conversation to use. -/
  | nothing : after = before → usedBy before.1 after.1 op = none → Touched op now before after
  /-- It used a conversation. -/
  | used {conv : UInt32} : after.2 = before.2 → usedBy before.1 after.1 op = some conv →
      Used conv now before.1 after.1 → Touched op now before after

omit [Inhabited τ] in
/-- A touched conversation was used. -/
theorem used_of_touch (present : conv ∈ manager.convToData)
    (returned : Returns (manager.updateActiveTime conv) m next m') :
    Used conv m'.now manager next where
  convs other := by
    rw [(updateActiveTime_ran returned).2.1.convToData]
    exact ⟨.inr, fun either => either.elim (fun same => same ▸ present) id⟩
  times := updateActiveTime_times returned

omit [Inhabited τ] in
/-- A new conversation that is touched was used. -/
theorem used_of_insert {m1 : Machine v} {middle : ConvManager τ}
    (inserted : Returns (manager.insertConv conv data) m middle m1)
    (touched : Returns (middle.updateActiveTime conv) m1 next m') :
    Used conv m'.now manager next where
  convs other := by
    rw [(updateActiveTime_ran touched).2.1.convToData, (insertConv_ran inserted).2.2.1,
      Table.insert, AList.mem_insert]
  times := insertConv_times inserted touched

/-- The client uses the conversation of a peer, if there is one or room for one. -/
theorem InOrder.peer_touched {data : τ} (inOrder : InOrder m state.1)
    (returned : Returns (ConvManager.perform clear state (.peer data)) m final m') :
    Touched (.peer data) m'.now state final := by
  simp only [ConvManager.perform, Returns.bind_iff] at returned
  obtain ⟨result, m1, looked, returned⟩ := returned
  unfold ConvManager.convOf at looked
  split at looked
  · rename_i known
    obtain ⟨rfl, rfl⟩ := Returns.pure_iff.mp looked
    simp only [Returns.bind_iff, Returns.pure_iff] at returned
    obtain ⟨next, _, touched, rfl, rfl⟩ := returned
    obtain ⟨conv, there⟩ := Table.mem_iff_lookup.mp (of_decide_eq_true known)
    have found : state.1.findConvByData data = conv := by
      rw [findConvByData, there]
      rfl
    rw [found] at touched
    have present : conv ∈ state.1.convToData :=
      Table.mem_iff_lookup.mpr ⟨data, (inOrder.inverse conv data).mpr there⟩
    refine .used rfl ?_ (used_of_touch present touched)
    rw [usedBy, (updateActiveTime_ran touched).2.1.dataToConv, there]
  rename_i unknown
  split at looked
  · obtain ⟨rfl, rfl⟩ := Returns.pure_iff.mp looked
    obtain ⟨rfl, rfl⟩ := Returns.pure_iff.mp returned
    refine .nothing rfl (AList.lookup_eq_none.mpr ?_)
    simpa [isDataUsed] using unknown
  · simp only [Returns.bind_iff, Returns.pure_iff] at looked
    obtain ⟨conv, _, -, middle, _, inserted, rfl, rfl⟩ := looked
    simp only [Returns.bind_iff, Returns.pure_iff] at returned
    obtain ⟨next, _, touched, rfl, rfl⟩ := returned
    refine .used rfl ?_ (used_of_insert inserted touched)
    rw [usedBy, (updateActiveTime_ran touched).2.1.dataToConv, (insertConv_ran inserted).2.1,
      Table.lookup_insert, if_pos rfl]

/-- The server uses a conversation that it did not know, if there is room for it. -/
theorem socket_touched {data : τ}
    (returned : Returns (ConvManager.perform clear state (.socket conv data)) m final m') :
    Touched (.socket conv data) m'.now state final := by
  simp only [ConvManager.perform] at returned
  split at returned
  · rename_i known
    obtain ⟨rfl, rfl⟩ := Returns.pure_iff.mp returned
    exact .nothing rfl (if_neg fun both => both.1 (of_decide_eq_true known))
  rename_i unknown
  have fresh : conv ∉ state.1.convToData := by simpa [isConvUsed] using unknown
  split at returned
  · obtain ⟨rfl, rfl⟩ := Returns.pure_iff.mp returned
    exact .nothing rfl (if_neg fun both => fresh both.2)
  · simp only [Returns.bind_iff, Returns.pure_iff] at returned
    obtain ⟨middle, _, inserted, next, _, touched, rfl, rfl⟩ := returned
    have used := used_of_insert inserted touched
    exact .used rfl (if_pos ⟨fresh, (used.convs conv).mpr (.inl rfl)⟩) used

/-- A message of a conversation uses it, if there is one. -/
theorem receive_touched
    (returned : Returns (ConvManager.perform clear state (.receive conv)) m final m') :
    Touched (.receive conv) m'.now state final := by
  simp only [ConvManager.perform] at returned
  split at returned
  · rename_i known
    have present : conv ∈ state.1.convToData := of_decide_eq_true known
    simp only [Returns.bind_iff, Returns.pure_iff] at returned
    obtain ⟨next, _, touched, rfl, rfl⟩ := returned
    exact .used rfl (if_pos present) (used_of_touch present touched)
  · rename_i unknown
    obtain ⟨rfl, rfl⟩ := Returns.pure_iff.mp returned
    exact .nothing rfl (if_neg fun present => unknown (decide_eq_true present))

/-- The collector knows the conversations of a table by their last uses. -/
def Tracks (history : List (Use UInt32)) (manager : ConvManager τ) : Prop :=
  manager.lru.times = manager.lastUses history

omit [Inhabited τ] in
/-- A used conversation is in a table that is in front of the history. -/
theorem Tracks.used {before after : ConvManager τ} {now : Nat} (tracks : Tracks history before)
    (used : Used conv now before after) : Tracks (⟨conv, now⟩ :: history) after := by
  have stays (other : UInt32) (different : other ≠ conv) :
      after.isConvUsed other = before.isConvUsed other := by
    rw [isConvUsed, isConvUsed, decide_eq_decide, used.convs]
    exact or_iff_right different
  have present : after.isConvUsed conv = true := decide_eq_true ((used.convs conv).mpr (.inl rfl))
  rw [Tracks, used.times, lastUses, recent_use stays present, tracks, lastUses]

omit [Inhabited τ] in
/-- What an operation uses is noted. -/
theorem Tracks.touched {now : Nat} (tracks : Tracks history state.1)
    (touched : Touched op now state final) :
    Tracks (noted op state.1 final.1 now history) final.1 := by
  cases touched with
  | nothing same unused =>
    rw [noted, unused, same]
    exact tracks
  | used _ which used =>
    rw [noted, which]
    exact tracks.used used

/-- A node of a list with its key and its time. -/
abbrev useOf (node : LruNode UInt32) : Use UInt32 := ⟨node.key, node.ts⟩

/-- What a sweep left was there before, and it is not among what the sweep removed. -/
theorem Swept.left {currentTime : Nat} {removed : List (LruNode UInt32)}
    (swept : Swept clear currentTime state final removed) (still : conv ∈ final.1.convToData) :
    conv ∈ state.1.convToData ∧ conv ∉ removed.map LruNode.key := by
  obtain ⟨data, found⟩ := Table.mem_iff_lookup.mp still
  rw [swept.convToData] at found
  split at found
  · contradiction
  · rename_i outside
    exact ⟨Table.mem_iff_lookup.mpr ⟨data, found⟩, outside⟩

/-- A sweep takes the conversations that were not used for the longest time. -/
theorem Tracks.swept {currentTime : Nat} {removed : List (LruNode UInt32)}
    (tracks : Tracks history state.1) (linked : final.1.Linked)
    (swept : Swept clear currentTime state final removed) :
    Tracks history final.1 ∧
      state.1.lastUses history = final.1.lastUses history ++ removed.map useOf := by
  have times : state.1.lru.times = final.1.lru.times ++ removed.map useOf := by
    rw [LruCollector.times, swept.oldest, List.map_append, LruCollector.times]
  have fewer (other : UInt32) (still : final.1.isConvUsed other = true) :
      state.1.isConvUsed other = true :=
    decide_eq_true (swept.left (of_decide_eq_true still)).1
  have kept : ∀ use ∈ final.1.lru.times, final.1.isConvUsed use.1 = true := by
    intro use inside
    obtain ⟨node, there, rfl⟩ := List.mem_map.mp inside
    exact decide_eq_true ((linked.nodes node.key).mp (List.mem_map_of_mem there))
  have gone : ∀ use ∈ removed.map useOf, ¬final.1.isConvUsed use.1 = true := by
    intro use inside used
    obtain ⟨node, there, rfl⟩ := List.mem_map.mp inside
    exact (swept.left (of_decide_eq_true used)).2 (List.mem_map_of_mem there)
  have left : Tracks history final.1 := by
    unfold Tracks at tracks ⊢
    rw [lastUses, recent_fewer fewer, ← lastUses, ← tracks, times, List.filter_append,
      List.filter_eq_self.mpr kept, List.filter_eq_nil_iff.mpr gone, List.append_nil]
  exact ⟨left, by rw [← left, ← tracks, times]⟩

/-- Every operation keeps the collector in step with the history. -/
theorem Tracks.perform (tracks : Tracks history state.1) (inOrder : InOrder m state.1)
    (returned : Returns (ConvManager.perform clear state op) m final m') :
    Tracks (noted op state.1 final.1 m'.now history) final.1 := by
  cases op with
  | peer data => exact tracks.touched (inOrder.peer_touched returned)
  | socket conv data => exact tracks.touched (socket_touched returned)
  | receive conv => exact tracks.touched (receive_touched returned)
  | clearInactive =>
    obtain ⟨later, -, removed, _, -, -, swept⟩ := inOrder.clearInactive returned
    exact (tracks.swept later.linked swept).1
  | clear =>
    obtain ⟨ran, -⟩ := Returns.lift_iff.mp returned
    obtain ⟨-, convToData, -, lru⟩ := clearTables_cleared ran
    have unused : final.1.isConvUsed = fun _ => false := by
      funext conv
      rw [isConvUsed, convToData]
      exact decide_eq_false (AList.notMem_empty conv)
    rw [Tracks, lru, lastUses, recent, unused, List.filter_false]
    rfl

/-! ### What an operation releases -/

/-- The data of each conversation that an operation removed was released once, and nothing else
was. -/
def ReleasedOnce (clear : τ → ρ → Exec ρ) (before after : ConvManager τ × ρ) : Prop :=
  ∃ removed : List UInt32, removed.Nodup ∧
    (∀ conv, conv ∈ removed ↔ conv ∈ before.1.convToData ∧ conv ∉ after.1.convToData) ∧
    (removed.map before.1.findDataByConv).foldlM (fun resources data => clear data resources)
      before.2 = .ok after.2

/-- Nothing was removed. -/
theorem releasedOnce_nothing (kept : ∀ conv ∈ state.1.convToData, conv ∈ final.1.convToData)
    (same : final.2 = state.2) : ReleasedOnce clear state final := by
  refine ⟨[], List.nodup_nil, fun conv => ⟨nofun, fun ⟨there, gone⟩ => ?_⟩, by rw [same]; rfl⟩
  exact absurd (kept conv there) gone

/-- An operation that is no sweep releases nothing. -/
theorem Touched.releasedOnce {now : Nat} (touched : Touched op now state final) :
    ReleasedOnce clear state final := by
  cases touched with
  | nothing same => exact releasedOnce_nothing (fun _ => same ▸ id) (same ▸ rfl)
  | used same _ used =>
    exact releasedOnce_nothing (fun other there => (used.convs other).mpr (.inr there)) same

/-- A sweep releases the conversations that it removes. -/
theorem Swept.releasedOnce {currentTime : Nat} {removed : List (LruNode UInt32)}
    (inOrder : InOrder m state.1) (swept : Swept clear currentTime state final removed) :
    ReleasedOnce clear state final := by
  have keys : state.1.lru.keys = final.1.lru.keys ++ removed.map LruNode.key := by
    rw [LruCollector.keys, swept.oldest, List.map_append, LruCollector.keys]
  have distinct := state.1.lru.keys_nodup
  rw [keys] at distinct
  refine ⟨(removed.reverse.map LruNode.key), ?_, fun conv => ?_, ?_⟩
  · rw [List.map_reverse]
    exact List.nodup_reverse.mpr (List.nodup_append.mp distinct).2.1
  · have lookup := swept.convToData conv
    rw [List.map_reverse, List.mem_reverse, Table.mem_iff_lookup, Table.mem_iff_lookup, lookup]
    constructor
    · intro inside
      have present : conv ∈ state.1.lru.keys := keys ▸ List.mem_append_right _ inside
      rw [if_pos inside]
      exact ⟨Table.mem_iff_lookup.mp ((inOrder.queue conv).mp present), by simp⟩
    · rintro ⟨there, gone⟩
      by_contra outside
      rw [if_neg outside] at gone
      exact gone there
  · rw [List.map_map]
    exact swept.released

/-- An operation releases what it removes, once. -/
theorem InOrder.releasedOnce {op : ConvOp τ} (inOrder : InOrder m state.1)
    (returned : Returns (ConvManager.perform clear state op) m final m') :
    ReleasedOnce clear state final := by
  cases op with
  | peer data => exact (inOrder.peer_touched returned).releasedOnce
  | socket conv data => exact (socket_touched returned).releasedOnce
  | receive conv => exact (receive_touched returned).releasedOnce
  | clearInactive =>
    obtain ⟨-, -, _, _, -, -, swept⟩ := inOrder.clearInactive returned
    exact swept.releasedOnce inOrder
  | clear =>
    obtain ⟨ran, -⟩ := Returns.lift_iff.mp returned
    obtain ⟨released, convToData, -⟩ := clearTables_cleared ran
    refine ⟨state.1.convToData.keys, state.1.convToData.keys_nodup, fun conv => ?_, ?_⟩
    · rw [← AList.mem_keys, convToData]
      simp
    · have data : state.1.convToData.keys.map state.1.findDataByConv =
          state.1.convToData.entries.map Sigma.snd := by
        rw [AList.keys, List.keys, List.map_map]
        refine List.map_congr_left fun entry inside => ?_
        have known : state.1.convToData.lookup entry.1 = some entry.2 :=
          AList.mem_lookup_iff.mpr inside
        simp [findDataByConv, known]
      rw [data]
      exact released

/-! ### Why an operation may stop -/

/-- No number is left for a conversation, or something is not released. -/
def ConvFault (clear : τ → ρ → Exec ρ) (fault : Fault) : Prop :=
  fault = .endless "get_new_conv" ∨ ∃ data resources, clear data resources = .error fault

/-- The loop of a sweep only stops where something is not released. -/
theorem clearOldest_fault {currentTime count : Nat} {fault : Fault} (linked : state.1.Linked)
    (stopped : clearOldest clear currentTime count state = .error fault) :
    ∃ data resources, clear data resources = .error fault := by
  induction count generalizing state with
  | zero => exact absurd stopped (by simp [clearOldest])
  | succ count ih =>
    rw [clearOldest] at stopped
    cases oldest : state.1.lru.q.getLast? with
    | none => simp [oldest] at stopped
    | some node =>
      simp only [oldest] at stopped
      split at stopped
      · exact absurd stopped (by simp)
      obtain ⟨data, used⟩ := linked.oldest_used oldest
      rw [eraseConv_eq linked used] at stopped
      cases released : clear data state.2 with
      | error other =>
        simp only [released, Except.map, bind, Except.bind] at stopped
        exact ⟨data, state.2, Except.error.inj stopped ▸ released⟩
      | ok resources =>
        simp only [released, Except.map, bind, Except.bind] at stopped
        exact ih (linked.without used) stopped

omit [Inhabited τ] in
/-- `clear` only stops where something is not released. -/
theorem clearAll_fault {fault : Fault} {resources : ρ}
    (stopped : clearAll clear manager resources = .error fault) :
    ∃ data resources, clear data resources = .error fault := by
  unfold clearAll at stopped
  generalize manager.convToData.entries = list at stopped
  induction list generalizing resources with
  | nil => exact absurd stopped nofun
  | cons entry rest ih =>
    rw [List.foldlM_cons] at stopped
    cases released : clear entry.2 resources with
    | error other =>
      simp only [released, bind, Except.bind] at stopped
      exact ⟨entry.2, resources, Except.error.inj stopped ▸ released⟩
    | ok next =>
      simp only [released, bind, Except.bind] at stopped
      exact ih stopped

/-- No assertion of the collector fails. -/
theorem InOrder.perform_stops (inOrder : InOrder m state.1) (op : ConvOp τ)
    (allowed : state.1.Allowed op) :
    Stops (ConvManager.perform clear state op) m (ConvFault clear) := by
  cases op with
  | peer data =>
    refine .bind ?_ fun result m1 looked => ?_
    · unfold ConvManager.convOf
      refine .ite (fun _ => .pure _) fun _ => .ite (fun _ => .pure _) fun _ => ?_
      refine .bind (getNewConv_stops.weaken fun _ => .inl) fun conv m1 drawn => ?_
      obtain ⟨unused, rfl⟩ := getNewConv_unused drawn
      have fresh : conv ∉ state.1.lru.keys := fun inside =>
        unused ((inOrder.queue conv).mp inside)
      exact .bind (.of_succeeds (insertConv_succeeds fresh inOrder.early)) fun _ _ _ => .pure _
    · obtain ⟨-, outcome⟩ := inOrder.convOf looked
      cases result with
      | none => exact .pure _
      | some found =>
        obtain ⟨later, used⟩ := outcome found.1 found.2 rfl
        exact .bind (.of_succeeds (later.updateActiveTime_succeeds used)) fun _ _ _ => .pure _
  | socket conv data =>
    refine .ite (fun _ => .pure _) fun unknown => .ite (fun _ => .pure _) fun room => ?_
    have unused : conv ∉ state.1.convToData := by simpa [isConvUsed] using unknown
    have fresh : conv ∉ state.1.lru.keys := fun inside => unused ((inOrder.queue conv).mp inside)
    refine .bind (.of_succeeds (insertConv_succeeds fresh inOrder.early)) fun next m1 inserted => ?_
    obtain ⟨later, used⟩ := inOrder.insertConv unused allowed (Nat.not_le.mp room) inserted
    exact .bind (.of_succeeds (later.updateActiveTime_succeeds used)) fun _ _ _ => .pure _
  | receive conv =>
    refine .ite (fun used => ?_) fun _ => .pure _
    exact .bind (.of_succeeds (inOrder.updateActiveTime_succeeds (of_decide_eq_true used)))
      fun _ _ _ => .pure _
  | clearInactive =>
    refine .bind (.of_total getCurrentTime_total) fun _ _ _ => .ite (fun _ => .pure _) fun _ => ?_
    refine .bind (.of_total getCurrentTime_total) fun lastClearTime _ _ =>
      .bind (.of_total getCurrentTime_total) fun _ _ _ => .lift fun fault stopped => .inr ?_
    have linked : ConvManager.Linked { state.1 with lastClearTime } :=
      ⟨inOrder.inverse, inOrder.queue⟩
    exact clearOldest_fault linked stopped
  | clear =>
    refine .lift fun fault stopped => .inr ?_
    simp only [clearTables, bind, Except.bind] at stopped
    split at stopped
    · rename_i other failed
      obtain rfl := Except.error.inj stopped
      exact clearAll_fault failed
    · contradiction

/-! ### Runs -/

/-- A run of operations on a table, with what they release and the history of what they use.
Between two of them time passes. -/
inductive Run (clear : τ → ρ → Exec ρ) :
    Machine v → ConvManager τ × ρ → List (Use UInt32) → Prop
  /-- The table is constructed. -/
  | made {before after : Machine v} {manager : ConvManager τ} (resources : ρ) :
      Returns ConvManager.new before manager after → Run clear after (manager, resources) []
  /-- The process does something else. -/
  | passed {before after : Machine v} {state : ConvManager τ × ρ} {history : List (Use UInt32)}
      {events : List (Event v)} :
      Run clear before state history → Logged events before after → Run clear after state history
  /-- An operation is performed. -/
  | performed {before after : Machine v} {state final : ConvManager τ × ρ}
      {history : List (Use UInt32)} {op : ConvOp τ} :
      Run clear before state history → state.1.Allowed op →
      Returns (ConvManager.perform clear state op) before final after →
      Run clear after final (noted op state.1 final.1 after.now history)

/-- Every run keeps the table in order and its collector in step with the history. -/
theorem Run.inOrder (run : Run clear m state history) :
    InOrder m state.1 ∧ Tracks history state.1 := by
  induction run with
  | made resources made =>
    obtain ⟨-, convToData, dataToConv, lru⟩ := new_ran made
    refine ⟨inOrder_of_empty convToData dataToConv lru, ?_⟩
    rw [Tracks, lru]
    rfl
  | passed _ logged ih => exact ⟨ih.1.mono logged.now, ih.2⟩
  | performed _ allowed returned ih =>
    exact ⟨(ih.1.perform allowed returned).1, ih.2.perform ih.1 returned⟩

/-- What a sweep that ended at a time removed, by the history: the conversations that were not used
for the longest time, each of them idle. -/
structure SweptIdle (clear : τ → ρ → Exec ρ) (now : Nat) (history : List (Use UInt32))
    (before after : ConvManager τ × ρ) (removed : List (Use UInt32)) : Prop where
  /-- They were used before all the others. -/
  oldest : before.1.lastUses history = after.1.lastUses history ++ removed
  /-- No use of them is in the time-out. -/
  idle : ∀ use ∈ removed, history.dlookup use.1 = some use.2 ∧ use.2 + convTimeout ≤ now
  /-- The data of each of them was released once, the oldest first. -/
  released : (removed.reverse.map fun use => before.1.findDataByConv use.1).foldlM
    (fun resources data => clear data resources) before.2 = .ok after.2

/-- What a sweep removed is idle by the history. -/
theorem Tracks.sweptIdle (tracks : Tracks history state.1) (inOrder : InOrder m state.1)
    (returned : Returns (ConvManager.perform clear state .clearInactive) m final m') :
    ∃ removed, SweptIdle clear m'.now history state final removed := by
  obtain ⟨later, -, removed, currentTime, past, clock, swept⟩ := inOrder.clearInactive returned
  have oldest := (tracks.swept later.linked swept).2
  refine ⟨removed.map useOf, oldest, ?_, ?_⟩
  · intro use inside
    obtain ⟨node, there, rfl⟩ := List.mem_map.mp inside
    have used : node.ts ≤ m.now :=
      inOrder.early node (swept.oldest ▸ List.mem_append_right _ there)
    have idle := (swept.idle node there).trans (elapsed_le (used.trans clock))
    have positive : 0 < convTimeout := by decide
    have known : useOf node ∈ state.1.lastUses history :=
      oldest ▸ List.mem_append_right _ inside
    exact ⟨lookup_of_mem_recent known, by dsimp only; omega⟩
  · rw [← List.map_reverse, List.map_map]
    exact swept.released

/-- After every run the table is in order, and its collector has the last uses of the conversations.
The next operation fails no assertion of the collector and releases once what it removes, and a
sweep removes only idle conversations, and those that were not used for the longest time. -/
theorem Run.conversations (run : Run clear m state history) :
    InOrder m state.1 ∧ state.1.lru.times = state.1.lastUses history ∧
      ∀ op, state.1.Allowed op →
        Stops (ConvManager.perform clear state op) m (ConvFault clear) ∧
        ∀ final m', Returns (ConvManager.perform clear state op) m final m' →
          ReleasedOnce clear state final ∧
          (op = .clearInactive →
            ∃ removed, SweptIdle clear m'.now history state final removed) := by
  obtain ⟨inOrder, tracks⟩ := run.inOrder
  refine ⟨inOrder, tracks, fun op allowed => ⟨inOrder.perform_stops op allowed,
    fun final m' returned => ⟨inOrder.releasedOnce returned, ?_⟩⟩⟩
  rintro rfl
  exact tracks.sweptIdle inOrder returned

end Clearing

/-- What a sample run releases is noted. -/
def noteReleased (data : Nat) (released : List Nat) : Exec (List Nat) := .ok (data :: released)

/-- A system where a hundred seconds pass between two questions, and that draws seven or nine. -/
def slowAnswers (asked : Nat) : Answer .ipv4 :=
  { Answer.plain with
    rawTime := asked * 10 ^ 8
    draws := [⟨7, by decide⟩, ⟨9, by decide⟩] }

/-- Two local peers send, the first one again, and a sweep follows: the tables before and after
it. -/
def sampleSweep : Proc .ipv4 ((ConvManager Nat × List Nat) × ConvManager Nat × List Nat) := do
  let manager ← ConvManager.new
  let first ← perform noteReleased (manager, []) (.peer 5)
  let second ← perform noteReleased first (.peer 6)
  let again ← perform noteReleased second (.peer 5)
  return (again, ← perform noteReleased again .clearInactive)

/-- The conversation seven is older than nine but was used after it, so that a sweep takes
nine. -/
theorem Run.conversations_two :
    ∃ (machine m' : Machine .ipv4) (state final : ConvManager Nat × List Nat)
      (history : List (Use UInt32)),
      state.1.lru.times = [⟨7, 700000⟩, ⟨9, 600000⟩] ∧ final.2 = [6] ∧
      Returns (perform noteReleased state .clearInactive) machine final m' ∧
      InOrder machine state.1 ∧ state.1.lru.times = state.1.lastUses history ∧
      Stops (perform noteReleased state .clearInactive) machine (ConvFault noteReleased) ∧
      ReleasedOnce noteReleased state final ∧
      ∃ removed, SweptIdle noteReleased m'.now history state final removed := by
  have sample : (resultOf sampleSweep (.start (.client 7) slowAnswers 0)).map
      (fun out => (out.1.1.lru.times, out.2.2)) = some ([⟨7, 700000⟩, ⟨9, 600000⟩], [6]) := by
    decide +kernel
  obtain ⟨⟨state, final⟩, result, shape⟩ := Option.map_eq_some_iff.mp sample
  have ran := returns_of_resultOf result
  obtain ⟨times, released⟩ := Prod.mk.inj shape
  simp only [sampleSweep, Returns.bind_iff, Returns.pure_iff] at ran
  obtain ⟨manager, _, made, one, _, first, two, _, second, three, _, third, four, _, swept, same,
    rfl⟩ := ran
  obtain ⟨rfl, rfl⟩ := Prod.mk.inj same
  have run := (((Run.made [] made).performed (by trivial) first).performed (by trivial)
    second).performed (by trivial) third
  obtain ⟨inOrder, tracks, next⟩ := run.conversations
  obtain ⟨stops, sweeps⟩ := next .clearInactive trivial
  obtain ⟨once, idle⟩ := sweeps _ _ swept
  exact ⟨_, _, _, _, _, times, released, swept, inOrder, tracks, stops, once, idle rfl⟩

end ConvManager

end Udp2raw
