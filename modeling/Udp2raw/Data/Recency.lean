import Mathlib.Data.List.Sigma

/-!
# The order of last use

Keys are used one after another, and a history lists the uses with their times, the latest in
front. Of the keys that are kept, it says when each was used for the last time and which of them
was not used for the longest time.
-/
namespace Udp2raw.Recency

variable {κ : Type} [DecidableEq κ]

/-- A use of a key and its time. -/
abbrev Use (κ : Type) := Σ _ : κ, Nat

/-- The last use of every key that is kept, from the latest to the oldest. -/
def recent (kept : κ → Bool) (history : List (Use κ)) : List (Use κ) :=
  history.dedupKeys.filter fun use => kept use.1

variable {kept still : κ → Bool} {history : List (Use κ)} {key : κ} {time : Nat}

/-- Erasing a key from a list of different keys leaves the other keys. -/
theorem kerase_eq_filter {uses : List (Use κ)} (distinct : uses.NodupKeys) :
    uses.kerase key = uses.filter fun use => use.1 ≠ key := by
  induction uses with
  | nil => rfl
  | cons first rest ih =>
    obtain ⟨fresh, distinct⟩ := List.nodupKeys_cons.mp distinct
    by_cases here : key = first.1
    · have others : ∀ use ∈ rest, decide (use.1 ≠ key) = true := fun use inside =>
        decide_eq_true fun same => fresh (here ▸ same ▸ List.mem_keys_of_mem inside)
      rw [List.kerase_cons_eq here, List.filter_cons_of_neg (by simp [here]),
        List.filter_eq_self.mpr others]
    · rw [List.kerase_cons_ne here, List.filter_cons_of_pos (by simpa using Ne.symm here),
        ih distinct]

/-- A key that is used is the latest one, and the order of the others is as it was. -/
theorem recent_use (stays : ∀ other, other ≠ key → still other = kept other)
    (present : still key = true) :
    recent still (⟨key, time⟩ :: history) =
      ⟨key, time⟩ :: (recent kept history).filter fun use => use.1 ≠ key := by
  rw [recent, List.dedupKeys_cons, List.kinsert_def,
    List.filter_cons_of_pos (by simpa using present),
    kerase_eq_filter (List.nodupKeys_dedupKeys history), recent, List.filter_filter,
    List.filter_filter]
  refine congrArg (List.cons _) (List.filter_congr fun use _ => ?_)
  by_cases same : use.1 = key
  · simp [same]
  · simp [same, stays use.1 same]

/-- If fewer keys are kept, their order is as it was. -/
theorem recent_fewer (fewer : ∀ other, still other = true → kept other = true) :
    recent still history = (recent kept history).filter fun use => still use.1 := by
  rw [recent, recent, List.filter_filter]
  refine List.filter_congr fun use _ => ?_
  cases left : still use.1
  · simp
  · simp [fewer use.1 left]

/-- The times are those of the latest uses. -/
theorem lookup_of_mem_recent (inside : ⟨key, time⟩ ∈ recent kept history) :
    history.dlookup key = some time := by
  rw [← List.dlookup_dedupKeys]
  exact List.mem_dlookup (List.nodupKeys_dedupKeys history) (List.mem_filter.mp inside).1

end Udp2raw.Recency
