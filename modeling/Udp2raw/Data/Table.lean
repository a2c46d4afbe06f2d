import Mathlib.Data.List.AList

/-!
# Hash tables

`unordered_map` as an association list with one entry for each key. The order of the
entries is the order of iteration. An iterator is the key it stands on, or nothing at the
end, and a new entry may be put anywhere.
-/
namespace Udp2raw

/-- A table from keys to values. -/
abbrev Table (κ α : Type) := AList fun _ : κ => α

namespace Table

variable {κ α : Type} [DecidableEq κ]

/-- A new entry at a position of the iteration order. A key that is there is replaced. -/
def insertAt (table : Table κ α) (position : Nat) (key : κ) (value : α) : Table κ α :=
  if fresh : key ∈ table then table.replace key value
  else
    ⟨table.entries.take position ++ ⟨key, value⟩ :: table.entries.drop position, by
      have moved : (table.entries.take position ++ ⟨key, value⟩ ::
          table.entries.drop position).Perm (⟨key, value⟩ :: table.entries) := by
        simpa using @List.perm_middle (Sigma fun _ : κ => α) ⟨key, value⟩
          (table.entries.take position) (table.entries.drop position)
      exact (List.perm_nodupKeys moved).mpr
        (List.nodupKeys_cons.mpr ⟨fresh, table.nodupKeys⟩)⟩

/-- The table with a key mapped to a value. -/
def insert (table : Table κ α) (key : κ) (value : α) : Table κ α := AList.insert key value table

/-- The table without a key. -/
def erase (table : Table κ α) (key : κ) : Table κ α := AList.erase key table

/-- The first key of the iteration order: `begin`. -/
def first (table : Table κ α) : Option κ := table.keys.head?

/-- The key after another one in the iteration order: `it++`. -/
def next (table : Table κ α) (key : κ) : Option κ :=
  (table.keys.dropWhile fun other => other ≠ key).tail.head?

/-- What is behind a key in a list of different keys is another one of them. -/
theorem mem_behind {key after : κ} {keys : List κ} (distinct : keys.Nodup)
    (behind : after ∈ (keys.dropWhile fun other => other ≠ key).tail) :
    after ∈ keys ∧ after ≠ key := by
  induction keys with
  | nil => simp at behind
  | cons first rest ih =>
    obtain ⟨fresh, distinct⟩ := List.nodup_cons.mp distinct
    rw [List.dropWhile_cons] at behind
    split at behind
    · obtain ⟨present, different⟩ := ih distinct behind
      exact ⟨List.mem_cons_of_mem _ present, different⟩
    · rename_i stops
      have here : first = key := by simpa using stops
      rw [List.tail_cons] at behind
      exact ⟨List.mem_cons_of_mem _ behind, fun same => fresh (here ▸ same ▸ behind)⟩

/-- The key after another one is a different key of the table. -/
theorem next_mem {table : Table κ α} {key after : κ} (next : table.next key = some after) :
    after ∈ table ∧ after ≠ key :=
  mem_behind table.nodupKeys (List.mem_of_head? next)

/-- The number of entries. -/
def size (table : Table κ α) : Nat := table.entries.length

/-- A new entry makes the table a permutation of the table with the entry in front. -/
theorem entries_insertAt {table : Table κ α} {key : κ} (fresh : key ∉ table) (position : Nat)
    (value : α) :
    (table.insertAt position key value).entries.Perm (AList.insert key value table).entries := by
  rw [AList.entries_insert_of_notMem fresh, insertAt, dif_neg fresh]
  simpa using @List.perm_middle (Sigma fun _ : κ => α) ⟨key, value⟩
    (table.entries.take position) (table.entries.drop position)

/-- A new entry is looked up wherever it was put. -/
theorem lookup_insertAt {table : Table κ α} {key : κ} (fresh : key ∉ table) (position : Nat)
    (value : α) (other : κ) :
    (table.insertAt position key value).lookup other =
      if other = key then some value else table.lookup other := by
  rw [AList.perm_lookup (entries_insertAt fresh position value)]
  split
  · rename_i same
    rw [same, AList.lookup_insert]
  · rename_i different
    rw [AList.lookup_insert_ne different]

/-- A new entry makes the table larger by one. -/
theorem size_insertAt {table : Table κ α} {key : κ} (fresh : key ∉ table) (position : Nat)
    (value : α) : (table.insertAt position key value).size = table.size + 1 := by
  rw [size, (entries_insertAt fresh position value).length_eq,
    AList.entries_insert_of_notMem fresh, List.length_cons, size]

/-- A new key makes the table larger by one. -/
theorem size_insert {table : Table κ α} {key : κ} (fresh : key ∉ table) (value : α) :
    (table.insert key value).size = table.size + 1 := by
  rw [size, insert, AList.entries_insert_of_notMem fresh, List.length_cons, size]

/-- An erased key makes the table smaller by one. -/
theorem size_erase {table : Table κ α} {key : κ} (present : key ∈ table) :
    (table.erase key).size + 1 = table.size := by
  have length (other : Table κ α) : other.size = other.keys.length := by
    simp [size, AList.keys, List.keys]
  rw [length, length, erase, AList.keys_erase, List.length_erase_of_mem (AList.mem_keys.mp present)]
  have some := List.length_pos_of_mem (AList.mem_keys.mp present)
  omega

/-- A lookup in a list of entries with a key replaced. -/
theorem dlookup_kreplace (key other : κ) (value : α) (list : List (Sigma fun _ : κ => α))
    (present : key ∈ list.keys) :
    (list.kreplace key value).dlookup other =
      if other = key then some value else list.dlookup other := by
  induction list with
  | nil => simp [List.keys] at present
  | cons entry rest ih =>
    obtain ⟨head, old⟩ := entry
    by_cases here : key = head
    · subst here
      have replaced : List.kreplace key value (⟨key, old⟩ :: rest) = ⟨key, value⟩ :: rest :=
        List.lookmap_cons_some _ _ (by simp)
      rw [replaced]
      by_cases same : other = key
      · subst same
        simp
      · rw [List.dlookup_cons_ne _ _ same, List.dlookup_cons_ne _ _ same, if_neg same]
    · have replaced : List.kreplace key value (⟨head, old⟩ :: rest) =
          ⟨head, old⟩ :: List.kreplace key value rest :=
        List.lookmap_cons_none _ _ (by simp [here])
      have later : key ∈ rest.keys := by
        simpa [List.keys_cons, here] using present
      rw [replaced]
      by_cases first : other = head
      · subst first
        rw [List.dlookup_cons_eq, List.dlookup_cons_eq, if_neg (Ne.symm here)]
      · rw [List.dlookup_cons_ne _ _ first, List.dlookup_cons_ne _ _ first, ih later]

/-- A lookup in a table with a key replaced. -/
theorem lookup_replace {table : Table κ α} {key : κ} (present : key ∈ table) (value : α)
    (other : κ) :
    (table.replace key value).lookup other =
      if other = key then some value else table.lookup other :=
  dlookup_kreplace key other value table.entries present

/-- A replaced key leaves the table as large as it was. -/
theorem size_replace (table : Table κ α) (key : κ) (value : α) :
    Table.size (table.replace key value) = table.size := by
  have length (other : Table κ α) : other.size = other.keys.length := by
    simp [size, AList.keys, List.keys]
  rw [length, length, AList.keys_replace]

/-- A lookup in a table with a key inserted. -/
theorem lookup_insert (table : Table κ α) (key : κ) (value : α) (other : κ) :
    (table.insert key value).lookup other =
      if other = key then some value else table.lookup other := by
  unfold insert
  split
  · rename_i same
    rw [same, AList.lookup_insert]
  · rename_i different
    rw [AList.lookup_insert_ne different]

/-- A lookup in a table with a key erased. -/
theorem lookup_erase (table : Table κ α) (key other : κ) :
    (table.erase key).lookup other =
      if other = key then none else table.lookup other := by
  unfold erase
  split
  · rename_i same
    rw [same, AList.lookup_erase]
  · rename_i different
    rw [AList.lookup_erase_ne different]

/-- A key is there exactly when it is looked up. -/
theorem mem_iff_lookup {table : Table κ α} {key : κ} :
    key ∈ table ↔ ∃ value, table.lookup key = some value := by
  rw [← AList.lookup_isSome, Option.isSome_iff_exists]

/-! ### Tables that are inverse to each other -/

/-- Each table leads back to the key of the other one. -/
def Inverse {κ α : Type} [DecidableEq κ] [DecidableEq α] (left : Table κ α) (right : Table α κ) :
    Prop :=
  ∀ key value, left.lookup key = some value ↔ right.lookup value = some key

variable [DecidableEq α] {left : Table κ α} {right : Table α κ} {key : κ} {value : α}

/-- Empty tables are inverse to each other. -/
theorem Inverse.empty : Inverse (∅ : Table κ α) ∅ := by
  intro key value
  rw [AList.lookup_empty, AList.lookup_empty]
  exact ⟨nofun, nofun⟩

/-- A value has one key. -/
theorem Inverse.key_unique (inverse : Inverse left right) {other : κ}
    (one : left.lookup key = some value) (two : left.lookup other = some value) : other = key := by
  have here := (inverse key value).mp one
  have there := (inverse other value).mp two
  rw [here] at there
  exact (Option.some.inj there).symm

/-- A new pair goes into both tables. -/
theorem Inverse.insert (inverse : Inverse left right) (freshKey : key ∉ left)
    (freshValue : value ∉ right) : Inverse (left.insert key value) (right.insert value key) := by
  intro otherKey otherValue
  rw [lookup_insert, lookup_insert]
  have old := inverse otherKey otherValue
  have noKey : left.lookup key = none := AList.lookup_eq_none.mpr freshKey
  have noValue : right.lookup value = none := AList.lookup_eq_none.mpr freshValue
  by_cases sameKey : otherKey = key <;> by_cases sameValue : otherValue = value
  · simp [sameKey, sameValue]
  · rw [if_pos sameKey, if_neg sameValue, ← old, sameKey, noKey]
    exact ⟨fun here => absurd (Option.some.inj here).symm sameValue, nofun⟩
  · rw [if_neg sameKey, if_pos sameValue, old, sameValue, noValue]
    exact ⟨nofun, fun here => absurd (Option.some.inj here).symm sameKey⟩
  · rw [if_neg sameKey, if_neg sameValue, old]

/-- A pair leaves both tables. -/
theorem Inverse.erase (inverse : Inverse left right) (known : left.lookup key = some value) :
    Inverse (left.erase key) (right.erase value) := by
  intro otherKey otherValue
  have old := inverse otherKey otherValue
  rw [lookup_erase, lookup_erase]
  by_cases sameKey : otherKey = key <;> by_cases sameValue : otherValue = value
  · rw [if_pos sameKey, if_pos sameValue]
    exact ⟨nofun, nofun⟩
  · rw [if_pos sameKey, if_neg sameValue, ← old, sameKey, known]
    exact ⟨nofun, fun here => absurd (Option.some.inj here).symm sameValue⟩
  · rw [if_neg sameKey, if_pos sameValue, old, sameValue, (inverse key value).mp known]
    exact ⟨fun here => absurd (Option.some.inj here).symm sameKey, nofun⟩
  · rw [if_neg sameKey, if_neg sameValue, old]

end Table

end Udp2raw
