import Udp2raw.Data.Recency
import Udp2raw.Data.Table
import Udp2raw.Effects

/-!
# The collector of idle keys

`lru_collector_t`: a list of nodes from the latest used key to the oldest, and a table that
stores for each key the iterator of its node. An iterator is the place of a node in
memory; a node keeps its place as long as it is in the list.
-/
namespace Udp2raw

open Proc

variable {v : IpVersion} {κ : Type} [DecidableEq κ]

/-- `lru_pair_t`, with the place of its node. -/
structure LruNode (κ : Type) where
  /-- Where the node is. -/
  place : Nat
  /-- `key`. -/
  key : κ
  /-- `ts`: when the key was last used. -/
  ts : Nat
  deriving DecidableEq

/-- `lru_collector_t`. -/
structure LruCollector (κ : Type) [DecidableEq κ] where
  /-- `mp`: the iterator of each key. -/
  mp : Table κ Nat
  /-- `q`: the nodes from the latest to the oldest. -/
  q : List (LruNode κ)
  /-- The first place that was never used. -/
  unused : Nat
  /-- A node is in a used place. -/
  placed : ∀ node ∈ q, node.place < unused
  /-- Two nodes are in different places. -/
  apart : (q.map LruNode.place).Nodup
  /-- The iterator of a key leads to its node. -/
  points : ∀ key place, mp.lookup key = some place ↔ ∃ ts, ⟨place, key, ts⟩ ∈ q

namespace LruCollector

/-- No node. -/
def empty : LruCollector κ where
  mp := ∅
  q := []
  unused := 0
  placed := nofun
  apart := List.nodup_nil
  points := by simp

/-- The keys, from the latest to the oldest. -/
def keys (lru : LruCollector κ) : List κ := lru.q.map LruNode.key

/-- The keys with the times of their nodes, from the latest to the oldest. -/
def times (lru : LruCollector κ) : List (Recency.Use κ) :=
  lru.q.map fun node => ⟨node.key, node.ts⟩

variable (lru : LruCollector κ)

/-- The table leads from a node's key to the node. -/
theorem lookup_key {node : LruNode κ} (inside : node ∈ lru.q) :
    lru.mp.lookup node.key = some node.place := (lru.points _ _).mpr ⟨node.ts, inside⟩

/-- The node that an iterator leads to has the iterator's key. -/
theorem place_eq_iff {node : LruNode κ} (inside : node ∈ lru.q) {key : κ} {it : Nat}
    (known : lru.mp.lookup key = some it) : node.place = it ↔ node.key = key := by
  constructor
  · rintro rfl
    obtain ⟨ts, there⟩ := (lru.points _ _).mp known
    have same := List.inj_on_of_nodup_map lru.apart inside there rfl
    rw [same]
  · rintro rfl
    exact Option.some.inj ((lru.lookup_key inside).symm.trans known)

/-- The keys of the table are the keys of the list. -/
theorem mem_mp_iff {key : κ} : key ∈ lru.mp ↔ key ∈ lru.keys := by
  rw [Table.mem_iff_lookup]
  constructor
  · rintro ⟨place, known⟩
    obtain ⟨ts, inside⟩ := (lru.points key place).mp known
    exact List.mem_map.mpr ⟨_, inside, rfl⟩
  · intro inside
    obtain ⟨node, there, rfl⟩ := List.mem_map.mp inside
    exact ⟨node.place, lru.lookup_key there⟩

/-- A key has one node. -/
theorem keys_nodup : lru.keys.Nodup := by
  refine List.Nodup.map_on (fun left inLeft right inRight same => ?_) (.of_map _ lru.apart)
  have place := lru.lookup_key inLeft
  rw [same, lru.lookup_key inRight] at place
  exact List.inj_on_of_nodup_map lru.apart inLeft inRight (Option.some.inj place).symm

/-- `erase`, for a key that is there: its node and its iterator are gone. -/
def erase (key : κ) : LruCollector κ :=
  match known : lru.mp.lookup key with
  | none => lru
  | some it =>
    { mp := lru.mp.erase key
      q := lru.q.filter fun node => node.place ≠ it
      unused := lru.unused
      placed := fun node inside => lru.placed node (List.mem_filter.mp inside).1
      apart := lru.apart.sublist (List.filter_sublist.map _)
      points := by
        intro other place
        rw [Table.lookup_erase]
        constructor
        · intro there
          split at there
          · contradiction
          · rename_i different
            obtain ⟨ts, inside⟩ := (lru.points other place).mp there
            have away : place ≠ it :=
              fun same => different ((lru.place_eq_iff inside known).mp same)
            exact ⟨ts, List.mem_filter.mpr ⟨inside, decide_eq_true away⟩⟩
        · rintro ⟨ts, inside⟩
          obtain ⟨inside, away⟩ := List.mem_filter.mp inside
          have different : other ≠ key := fun same =>
            of_decide_eq_true away ((lru.place_eq_iff inside known).mpr same)
          rw [if_neg different]
          exact (lru.points other place).mpr ⟨ts, inside⟩ }

/-- An erased key loses its node and no other node. -/
theorem erase_q (key : κ) : (lru.erase key).q = lru.q.filter fun node => node.key ≠ key := by
  unfold erase
  split
  · rename_i unknown
    refine (List.filter_eq_self.mpr fun node inside => ?_).symm
    have known := lru.lookup_key inside
    simp only [ne_eq, decide_not, Bool.not_eq_eq_eq_not, Bool.not_true, decide_eq_false_iff_not]
    intro same
    rw [same, unknown] at known
    contradiction
  · rename_i it known
    refine List.filter_congr fun node inside => ?_
    have same := lru.place_eq_iff inside known
    simp only [ne_eq, same]

/-- The other keys are left. -/
theorem mem_keys_erase {key other : κ} :
    other ∈ (lru.erase key).keys ↔ other ≠ key ∧ other ∈ lru.keys := by
  simp only [keys, erase_q, List.mem_map, List.mem_filter, decide_eq_true_eq]
  constructor
  · rintro ⟨node, ⟨inside, different⟩, rfl⟩
    exact ⟨different, node, inside, rfl⟩
  · rintro ⟨different, node, inside, rfl⟩
    exact ⟨node, ⟨inside, different⟩, rfl⟩

/-- `q.push_front` and `mp[key] = q.begin()` for a key without a node. -/
def pushFront (key : κ) (ts : Nat) (fresh : key ∉ lru.keys) : LruCollector κ where
  mp := lru.mp.insert key lru.unused
  q := ⟨lru.unused, key, ts⟩ :: lru.q
  unused := lru.unused + 1
  placed := by
    intro node inside
    cases inside with
    | head => exact Nat.lt_succ_self _
    | tail _ inside => exact Nat.lt_succ_of_lt (lru.placed node inside)
  apart := by
    refine List.nodup_cons.mpr ⟨fun inside => ?_, lru.apart⟩
    obtain ⟨node, inside, same⟩ := List.mem_map.mp inside
    exact Nat.lt_irrefl _ (same ▸ lru.placed node inside)
  points := by
    intro other place
    rw [Table.lookup_insert]
    by_cases same : other = key
    · subst same
      rw [if_pos rfl]
      constructor
      · intro here
        obtain rfl := Option.some.inj here
        exact ⟨ts, List.mem_cons_self⟩
      · rintro ⟨ts', inside⟩
        cases inside with
        | head => rfl
        | tail _ inside => exact absurd (List.mem_map.mpr ⟨_, inside, rfl⟩) fresh
    · rw [if_neg same, lru.points]
      constructor
      · rintro ⟨ts', inside⟩
        exact ⟨ts', List.mem_cons_of_mem _ inside⟩
      · rintro ⟨ts', inside⟩
        cases inside with
        | head => exact absurd rfl same
        | tail _ inside => exact ⟨ts', inside⟩

/-- `update`: a used key moves to the front. -/
def update (key : κ) : Proc v (LruCollector κ) := do
  check (key ∈ lru.mp) "mp.find(key) != mp.end()"
  let rest := lru.erase key
  let value ← getCurrentTime
  check (rest.q.head?.all fun front => front.ts ≤ value) "value >= q.front().ts"
  return rest.pushFront key value fun inside => (lru.mem_keys_erase.mp inside).1 rfl

/-- `new_key`. -/
def newKey (key : κ) : Proc v (LruCollector κ) :=
  if present : key ∈ lru.mp then throw (.assertion "mp.find(key) == mp.end()")
  else do
    let value ← getCurrentTime
    check (lru.q.head?.all fun front => front.ts ≤ value) "value >= q.front().ts"
    return lru.pushFront key value fun inside => present (lru.mem_mp_iff.mpr inside)

/-- No node is later than a time. -/
def NotAfter (time : Nat) : Prop := ∀ node ∈ lru.q, node.ts ≤ time

/-- The list goes from the latest to the oldest. -/
def Sorted : Prop := lru.q.Pairwise fun later earlier => earlier.ts ≤ later.ts

variable {lru}

/-- The collector is early at any later time. -/
theorem NotAfter.mono {now later : Nat} (early : lru.NotAfter now) (clock : now ≤ later) :
    lru.NotAfter later := fun node inside => Nat.le_trans (early node inside) clock

/-- A part of an early collector is early. -/
theorem NotAfter.erase {time : Nat} (early : lru.NotAfter time) (key : κ) :
    (lru.erase key).NotAfter time := by
  intro node inside
  rw [erase_q] at inside
  exact early node (List.mem_filter.mp inside).1

/-- A collector that gets a node of the present is early. -/
theorem NotAfter.pushFront {now later : Nat} {key : κ} (early : lru.NotAfter now)
    (clock : now ≤ later) (fresh : key ∉ lru.keys) :
    (lru.pushFront key later fresh).NotAfter later := by
  intro node inside
  cases inside with
  | head => exact Nat.le_refl _
  | tail _ inside => exact Nat.le_trans (early node inside) clock

/-- The front of an early collector is not later than the time. -/
theorem NotAfter.front {time : Nat} (early : lru.NotAfter time) :
    (lru.q.head?.all fun front => front.ts ≤ time) = true := by
  cases nodes : lru.q with
  | nil => rfl
  | cons front rest => simpa [nodes] using early front (by simp [nodes])

/-- A part of a sorted collector is sorted. -/
theorem Sorted.erase (sorted : lru.Sorted) (key : κ) : (lru.erase key).Sorted := by
  unfold Sorted
  rw [erase_q]
  exact sorted.filter _

/-- A sorted collector is sorted after a key is used that is not older than its front. -/
theorem Sorted.pushFront (sorted : lru.Sorted) {key : κ} {ts : Nat} (fresh : key ∉ lru.keys)
    (front : (lru.q.head?.all fun front => front.ts ≤ ts) = true) :
    (lru.pushFront key ts fresh).Sorted := by
  refine List.pairwise_cons.mpr ⟨fun node inside => ?_, sorted⟩
  unfold Sorted at sorted
  cases nodes : lru.q with
  | nil => simp [nodes] at inside
  | cons first rest =>
    rw [nodes] at front inside sorted
    have newest : first.ts ≤ ts := by simpa using front
    cases inside with
    | head => exact newest
    | tail _ inside => exact Nat.le_trans (List.rel_of_pairwise_cons sorted inside) newest

/-! ### Operations -/

section Operations

variable {next : LruCollector κ} {before after : Machine v} {key : κ}

/-- A used key is now the latest one. -/
theorem update_ran (returned : Returns (lru.update key) before next after) :
    Ran [] before after ∧ (∀ other, other ∈ next.keys ↔ other ∈ lru.keys) ∧
      (lru.NotAfter before.now → next.NotAfter after.now) := by
  simp only [update, Returns.bind_iff, Returns.pure_iff, check_iff, decide_eq_true_eq] at returned
  obtain ⟨_, _, ⟨present, rfl⟩, time, _, timed, _, _, ⟨-, rfl⟩, rfl, rfl⟩ := returned
  obtain ⟨ran, rfl⟩ := getCurrentTime_ran timed
  rw [mem_mp_iff] at present
  have gone : key ∉ (lru.erase key).keys := fun inside => (lru.mem_keys_erase.mp inside).1 rfl
  refine ⟨ran, fun other => ?_, fun early => (early.erase key).pushFront ran.now gone⟩
  have split : other ∈ key :: (lru.erase key).keys ↔ other ∈ lru.keys := by
    rw [List.mem_cons, mem_keys_erase]
    by_cases same : other = key
    · simp [same, present]
    · simp [same]
  exact split

/-- A used key is in front with the present time, and the others are as they were. -/
theorem update_times (returned : Returns (lru.update key) before next after) :
    next.times = ⟨key, after.now⟩ :: lru.times.filter fun use => use.1 ≠ key := by
  simp only [update, Returns.bind_iff, Returns.pure_iff, check_iff] at returned
  obtain ⟨_, _, -, time, _, timed, _, _, ⟨-, rfl⟩, rfl, rfl⟩ := returned
  obtain ⟨-, rfl⟩ := getCurrentTime_ran timed
  rw [times, pushFront, List.map_cons, erase_q, times, List.filter_map]
  rfl

/-- A key with a node can be used, as no node is later than the clock. -/
theorem update_succeeds (present : key ∈ lru.keys) (early : lru.NotAfter before.now) :
    Succeeds (lru.update key) before fun _ _ => True := by
  have known : key ∈ lru.mp := lru.mem_mp_iff.mpr present
  refine (check_succeeds _ (decide_eq_true known)).bind fun _ _ _ same => ?_
  rw [same]
  refine (getCurrentTime_total before).bind fun time middle timed _ => ?_
  obtain ⟨ran, rfl⟩ := getCurrentTime_ran timed
  have rest := (early.erase key).mono ran.now
  exact (check_succeeds _ rest.front).bind fun _ state _ _ => total_pure _ state

/-- A new key is the latest one. -/
theorem newKey_ran (returned : Returns (lru.newKey key) before next after) :
    Ran [] before after ∧ next.keys = key :: lru.keys ∧ key ∉ lru.keys ∧
      (lru.NotAfter before.now → next.NotAfter after.now) := by
  unfold newKey at returned
  split at returned
  · exact absurd returned Returns.throw_iff
  · rename_i fresh
    simp only [Returns.bind_iff, Returns.pure_iff, check_iff] at returned
    obtain ⟨time, _, timed, _, _, ⟨-, rfl⟩, rfl, rfl⟩ := returned
    obtain ⟨ran, rfl⟩ := getCurrentTime_ran timed
    rw [mem_mp_iff] at fresh
    exact ⟨ran, rfl, fresh, fun early => early.pushFront ran.now fresh⟩

/-- A new key is in front with the present time. -/
theorem newKey_times (returned : Returns (lru.newKey key) before next after) :
    next.times = ⟨key, after.now⟩ :: lru.times := by
  unfold newKey at returned
  split at returned
  · exact absurd returned Returns.throw_iff
  · simp only [Returns.bind_iff, Returns.pure_iff, check_iff] at returned
    obtain ⟨time, _, timed, _, _, ⟨-, rfl⟩, rfl, rfl⟩ := returned
    obtain ⟨-, rfl⟩ := getCurrentTime_ran timed
    rfl

/-- A key without a node can be added, as no node is later than the clock. -/
theorem newKey_succeeds (fresh : key ∉ lru.keys) (early : lru.NotAfter before.now) :
    Succeeds (lru.newKey key) before fun _ _ => True := by
  rw [newKey, dif_neg fun known => fresh (lru.mem_mp_iff.mp known)]
  refine (getCurrentTime_total before).bind fun time middle timed _ => ?_
  obtain ⟨ran, rfl⟩ := getCurrentTime_ran timed
  exact (check_succeeds _ (early.mono ran.now).front).bind fun _ state _ _ => total_pure _ state

end Operations

end LruCollector

end Udp2raw
