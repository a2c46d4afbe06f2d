import Udp2raw.Connection.Conversation
import Mathlib.Logic.Relation

/-!
# Linked conversation tables

The two tables of a conversation manager are inverse to each other and its collector has a
node for every conversation. Each operation keeps this, and a sweep is a sequence of single
erasures.
-/
namespace Udp2raw

open Proc

variable {v : IpVersion} {τ ρ : Type} [DecidableEq τ]

/-- The tables of a manager agree. -/
structure ConvManager.Linked (manager : ConvManager τ) : Prop where
  /-- The two tables are inverse to each other. -/
  inverse : ∀ conv data, manager.convToData.lookup conv = some data ↔
    manager.dataToConv.lookup data = some conv
  /-- The collector has a node for every conversation. -/
  nodes : ∀ conv, conv ∈ manager.lru.keys ↔ conv ∈ manager.convToData

/-- Two managers with the same conversations. -/
structure ConvManager.SameConvs (before after : ConvManager τ) : Prop where
  /-- The data of each conversation is the same. -/
  convToData : after.convToData = before.convToData
  /-- The conversation of each data is the same. -/
  dataToConv : after.dataToConv = before.dataToConv
  /-- The collector has the same keys. -/
  nodes : ∀ conv, conv ∈ after.lru.keys ↔ conv ∈ before.lru.keys

namespace ConvManager

variable {manager next : ConvManager τ} {before after : Machine v} {conv : UInt32} {data : τ}

/-- Every manager has its own conversations. -/
theorem SameConvs.refl (manager : ConvManager τ) : SameConvs manager manager :=
  ⟨rfl, rfl, fun _ => Iff.rfl⟩

/-- Two steps with the same conversations. -/
theorem SameConvs.trans {a b c : ConvManager τ} (one : SameConvs a b) (two : SameConvs b c) :
    SameConvs a c :=
  ⟨two.convToData.trans one.convToData, two.dataToConv.trans one.dataToConv,
    fun conv => (two.nodes conv).trans (one.nodes conv)⟩

/-- The same conversations are linked the same. -/
theorem Linked.same (linked : manager.Linked) (same : manager.SameConvs next) : next.Linked where
  inverse := by
    rw [same.convToData, same.dataToConv]
    exact linked.inverse
  nodes := fun conv => by
    rw [same.nodes, same.convToData]
    exact linked.nodes conv

/-- A new manager is linked. -/
theorem new_ran (returned : Returns (new : Proc v (ConvManager τ)) before manager after) :
    Ran [] before after ∧ manager.convToData = ∅ ∧ manager.dataToConv = ∅ ∧
      manager.lru = .empty := by
  simp only [new, Returns.bind_iff, Returns.pure_iff] at returned
  obtain ⟨_, _, asked, rfl, rfl⟩ := returned
  exact ⟨(ask_ran asked).1, rfl, rfl, rfl⟩

/-- A manager without conversations is linked. -/
theorem linked_of_empty (convToData : manager.convToData = ∅) (dataToConv : manager.dataToConv = ∅)
    (lru : manager.lru = .empty) : manager.Linked where
  inverse := by simp [convToData, dataToConv]
  nodes := by simp [convToData, lru, LruCollector.keys, LruCollector.empty]

/-- A used conversation is now the latest one. -/
theorem updateActiveTime_ran
    (returned : Returns (manager.updateActiveTime conv) before next after) :
    Ran [] before after ∧ manager.SameConvs next ∧
      (manager.lru.NotAfter before.now → next.lru.NotAfter after.now) := by
  simp only [updateActiveTime, Returns.bind_iff, Returns.pure_iff] at returned
  obtain ⟨lru, _, updated, rfl, rfl⟩ := returned
  obtain ⟨ran, keys, early⟩ := LruCollector.update_ran updated
  exact ⟨ran, ⟨rfl, rfl, keys⟩, early⟩

/-- A conversation in use can be updated. -/
theorem updateActiveTime_succeeds (present : conv ∈ manager.lru.keys)
    (early : manager.lru.NotAfter before.now) :
    Succeeds (manager.updateActiveTime conv) before fun _ _ => True := by
  exact (LruCollector.update_succeeds present early).bind fun _ state _ _ => total_pure _ state

/-- A new conversation is in both tables and the latest one. -/
theorem insertConv_ran (returned : Returns (manager.insertConv conv data) before next after) :
    Ran [] before after ∧ next.dataToConv = manager.dataToConv.insert data conv ∧
      next.convToData = manager.convToData.insert conv data ∧
      next.lru.keys = conv :: manager.lru.keys ∧ conv ∉ manager.lru.keys ∧
      (manager.lru.NotAfter before.now → next.lru.NotAfter after.now) := by
  simp only [insertConv, Returns.bind_iff, Returns.pure_iff] at returned
  obtain ⟨lru, _, keyed, rfl, rfl⟩ := returned
  obtain ⟨ran, keys, fresh, early⟩ := LruCollector.newKey_ran keyed
  exact ⟨ran, rfl, rfl, keys, fresh, early⟩

/-- An unused conversation can be inserted. -/
theorem insertConv_succeeds (fresh : conv ∉ manager.lru.keys)
    (early : manager.lru.NotAfter before.now) :
    Succeeds (manager.insertConv conv data) before fun _ _ => True := by
  exact (LruCollector.newKey_succeeds fresh early).bind fun _ state _ _ => total_pure _ state

/-- An unused conversation and unused data keep the tables linked. -/
theorem Linked.insert (linked : manager.Linked) (unused : conv ∉ manager.convToData)
    (fresh : data ∉ manager.dataToConv)
    (dataToConv : next.dataToConv = manager.dataToConv.insert data conv)
    (convToData : next.convToData = manager.convToData.insert conv data)
    (nodes : next.lru.keys = conv :: manager.lru.keys) : next.Linked where
  inverse := by
    intro other otherData
    have noConv := AList.lookup_eq_none.mpr unused
    have noData := AList.lookup_eq_none.mpr fresh
    have old := linked.inverse other otherData
    rw [convToData, dataToConv, Table.lookup_insert, Table.lookup_insert]
    by_cases sameConv : other = conv <;> by_cases sameData : otherData = data
    · simp [sameConv, sameData]
    · subst sameConv
      simp only [if_pos, if_neg sameData, Option.some.injEq]
      constructor
      · exact fun same => absurd same.symm sameData
      · intro used
        rw [noConv] at old
        exact absurd (old.mpr used) nofun
    · subst sameData
      simp only [if_pos, if_neg sameConv, Option.some.injEq]
      constructor
      · intro used
        rw [noData] at old
        exact absurd (old.mp used) nofun
      · exact fun same => absurd same.symm sameConv
    · rwa [if_neg sameConv, if_neg sameData]
  nodes := by
    intro other
    rw [nodes, convToData, List.mem_cons, linked.nodes, Table.insert, AList.mem_insert]

/-- An erased conversation leaves the tables linked. -/
theorem Linked.without (linked : manager.Linked)
    (used : manager.convToData.lookup conv = some data) : (manager.without conv data).Linked where
  inverse := by
    intro other otherData
    have link := linked.inverse conv data
    have old := linked.inverse other otherData
    simp only [ConvManager.without, Table.lookup_erase]
    by_cases sameConv : other = conv <;> by_cases sameData : otherData = data
    · simp [sameConv, sameData]
    · subst sameConv
      simp only [if_pos, if_neg sameData]
      constructor
      · nofun
      · intro linkedOther
        rw [used] at old
        exact absurd (Option.some.inj (old.mpr linkedOther)).symm sameData
    · subst sameData
      simp only [if_pos, if_neg sameConv]
      constructor
      · intro usedOther
        rw [link.mp used] at old
        exact absurd (Option.some.inj (old.mp usedOther)).symm sameConv
      · nofun
    · rwa [if_neg sameConv, if_neg sameData]
  nodes := by
    intro other
    simp only [ConvManager.without, LruCollector.mem_keys_erase, linked.nodes, Table.erase,
      AList.mem_erase]

section Erasing

variable {clear : τ → ρ → Exec ρ}

/-- The oldest node of a linked manager is a conversation in use. -/
theorem Linked.oldest_used (linked : manager.Linked) {node : LruNode UInt32}
    (oldest : manager.lru.q.getLast? = some node) :
    ∃ data, manager.convToData.lookup node.key = some data := by
  have inside : node.key ∈ manager.lru.keys :=
    List.mem_map.mpr ⟨node, List.mem_of_getLast? oldest, rfl⟩
  exact Table.mem_iff_lookup.mp ((linked.nodes node.key).mp inside)

variable [Inhabited τ]

/-- `erase_conv` on a conversation in use. -/
theorem eraseConv_eq {state : ConvManager τ × ρ} (linked : state.1.Linked)
    (used : state.1.convToData.lookup conv = some data) :
    eraseConv clear conv state =
      (clear data state.2).map fun released => (state.1.without conv data, released) := by
  have node : conv ∈ state.1.lru.mp := state.1.lru.mem_mp_iff.mpr
    ((linked.nodes conv).mpr (Table.mem_iff_lookup.mpr ⟨data, used⟩))
  simp only [eraseConv, findDataByConv, used, Option.getD_some, assert, node, decide_true,
    if_true, bind, Except.bind]
  cases clear data state.2 <;> rfl

/-- One conversation was released and forgotten. -/
def Erased (clear : τ → ρ → Exec ρ) (before after : ConvManager τ × ρ) : Prop :=
  ∃ conv ∈ before.1.lru.keys, eraseConv clear conv before = .ok after

/-- An erasure releases the data of a conversation and forgets it. -/
theorem Erased.released {one two : ConvManager τ × ρ} (linked : one.1.Linked)
    (erased : Erased clear one two) :
    ∃ conv data, one.1.convToData.lookup conv = some data ∧
      clear data one.2 = .ok two.2 ∧ two.1 = one.1.without conv data := by
  obtain ⟨conv, node, ran⟩ := erased
  obtain ⟨data, used⟩ := Table.mem_iff_lookup.mp ((linked.nodes conv).mp node)
  refine ⟨conv, data, used, ?_⟩
  rw [eraseConv_eq linked used] at ran
  cases released : clear data one.2 with
  | error fault => simp [released, Except.map] at ran
  | ok resources =>
    simp only [released, Except.map, Except.ok.injEq] at ran
    subst ran
    exact ⟨rfl, rfl⟩

/-- An erasure uses no conversation. -/
theorem Erased.notAfter {one two : ConvManager τ × ρ} (erased : Erased clear one two) {time : Nat}
    (early : one.1.lru.NotAfter time) : two.1.lru.NotAfter time := by
  obtain ⟨conv, -, ran⟩ := erased
  simp only [eraseConv, bind, Except.bind] at ran
  split at ran
  · contradiction
  split at ran
  · contradiction
  obtain rfl := Except.ok.inj ran
  exact early.erase conv

/-- The sweep is a sequence of erasures. -/
theorem clearOldest_erased {currentTime count : Nat} {state final : ConvManager τ × ρ}
    (ran : clearOldest clear currentTime count state = .ok final) :
    Relation.ReflTransGen (Erased clear) state final := by
  induction count generalizing state with
  | zero =>
    obtain rfl := Except.ok.inj ran
    exact .refl
  | succ count ih =>
    rw [clearOldest] at ran
    cases oldest : state.1.lru.q.getLast? with
    | none =>
      simp only [oldest] at ran
      obtain rfl := Except.ok.inj ran
      exact .refl
    | some node =>
      have inside : node.key ∈ state.1.lru.keys :=
        List.mem_map.mpr ⟨node, List.mem_of_getLast? oldest, rfl⟩
      simp only [oldest] at ran
      split at ran
      · obtain rfl := Except.ok.inj ran
        exact .refl
      · cases erased : eraseConv clear node.key state with
        | error fault => simp [erased, bind, Except.bind] at ran
        | ok next =>
          simp only [erased, bind, Except.bind] at ran
          exact .head ⟨node.key, inside, erased⟩ (ih ran)

/-- `clear_inactive` is a sequence of erasures. -/
theorem clearInactive_erased {resources released : ρ}
    (returned : Returns (clearInactive clear manager resources) before (next, released) after) :
    Ran [] before after ∧ ∃ lastClearTime, Relation.ReflTransGen (Erased clear)
      ({ manager with lastClearTime }, resources) (next, released) := by
  simp only [clearInactive, Returns.bind_iff] at returned
  obtain ⟨now, _, one, returned⟩ := returned
  have first := (getCurrentTime_ran one).1
  split at returned
  · obtain ⟨same, rfl⟩ := Returns.pure_iff.mp returned
    obtain ⟨rfl, rfl⟩ := Prod.mk.inj same
    exact ⟨first, manager.lastClearTime, .refl⟩
  · simp only [Returns.bind_iff, Returns.lift_iff] at returned
    obtain ⟨lastClearTime, _, two, currentTime, _, three, ran, rfl⟩ := returned
    have whole := (first.trans (getCurrentTime_ran two).1).trans (getCurrentTime_ran three).1
    exact ⟨whole, lastClearTime, clearOldest_erased ran⟩

/-- The sweep goes on while everything in use can be released. -/
theorem clearOldest_succeeds {good : ConvManager τ × ρ → Prop}
    (linked : ∀ state, good state → state.1.Linked)
    (released : ∀ state conv data, good state → state.1.convToData.lookup conv = some data →
      ∃ resources, clear data state.2 = .ok resources ∧
        good (state.1.without conv data, resources))
    (currentTime count : Nat) {state : ConvManager τ × ρ} (start : good state) :
    ∃ final, clearOldest clear currentTime count state = .ok final := by
  induction count generalizing state with
  | zero => exact ⟨state, rfl⟩
  | succ count ih =>
    rw [clearOldest]
    cases oldest : state.1.lru.q.getLast? with
    | none => exact ⟨state, rfl⟩
    | some node =>
      obtain ⟨data, used⟩ := (linked state start).oldest_used oldest
      dsimp only
      split
      · exact ⟨state, rfl⟩
      · obtain ⟨resources, ran, next⟩ := released state node.key data start used
        obtain ⟨final, done⟩ := ih next
        refine ⟨final, ?_⟩
        rw [eraseConv_eq (linked state start) used, ran]
        simpa [Except.map, bind, Except.bind] using done

end Erasing

end ConvManager

end Udp2raw
