import Mathlib.Data.List.Basic
import Mathlib.Data.List.Nodup

/-!
# Correspondences over a record

A record lists what happened, in order. In a justified record whatever precedes an entry
accounts for it. A key that no two entries share gives an entry its place in the record.
-/
namespace Udp2raw

variable {α κ : Type}

/-- Every entry of a record is justified by the entries before it. -/
def Justified (justifies : List α → α → Prop) (record : List α) : Prop :=
  ∀ before entry after, record = before ++ entry :: after → justifies before entry

section Justified

variable {justifies weaker : List α → α → Prop} {record first second : List α} {entry : α}

/-- An empty record is justified. -/
theorem Justified.nil : Justified justifies [] := by
  intro before entry after parts
  simp at parts

/-- The first entry is justified by itself, and the others with it before them. -/
theorem justified_cons : Justified justifies (entry :: record) ↔
    justifies [] entry ∧ Justified (fun before => justifies (entry :: before)) record := by
  constructor
  · intro justified
    refine ⟨justified [] entry record rfl, fun before other after parts => ?_⟩
    exact justified (entry :: before) other after (by rw [parts, List.cons_append])
  · rintro ⟨head, tail⟩ before other after parts
    cases before with
    | nil =>
      obtain ⟨rfl, -⟩ := List.cons.inj parts
      exact head
    | cons same before =>
      obtain ⟨rfl, rest⟩ := List.cons.inj parts
      exact tail before other after rest

/-- A part of the record is justified, and the rest with this part before it. -/
theorem justified_append : Justified justifies (first ++ second) ↔
    Justified justifies first ∧ Justified (fun before => justifies (first ++ before)) second := by
  induction first generalizing justifies with
  | nil =>
    refine ⟨fun justified => ⟨.nil, justified⟩, fun justified => justified.2⟩
  | cons entry first ih =>
    rw [List.cons_append, justified_cons, justified_cons, ih, and_assoc]
    rfl

/-- A weaker justification. -/
theorem Justified.mono (justified : Justified justifies record)
    (implies : ∀ before entry, justifies before entry → weaker before entry) :
    Justified weaker record :=
  fun before entry after parts => implies before entry (justified before entry after parts)

/-- An entry of a justified record is justified by a part of the record. -/
theorem Justified.of_mem (justified : Justified justifies record) (inside : entry ∈ record) :
    ∃ before after, record = before ++ entry :: after ∧ justifies before entry := by
  obtain ⟨before, after, parts⟩ := List.append_of_mem inside
  exact ⟨before, after, parts, justified before entry after parts⟩

/-- Whether a record is justified can be decided entry by entry. -/
def decideJustified : (justifies : List α → α → Prop) →
    [∀ before entry, Decidable (justifies before entry)] → (record : List α) →
    Decidable (Justified justifies record)
  | _, _, [] => isTrue .nil
  | justifies, _, entry :: record =>
    have := decideJustified (fun before => justifies (entry :: before)) record
    decidable_of_iff _ justified_cons.symm

instance [∀ before entry, Decidable (justifies before entry)] :
    Decidable (Justified justifies record) := decideJustified justifies record

end Justified

section Keys

variable {key : α → Option κ} {record before before' after after' : List α} {one two : α} {k : κ}

/-- Two entries with one key are the same entry, when no two entries share a key. -/
theorem same_place (once : (record.filterMap key).Nodup) (first : record = before ++ one :: after)
    (second : record = before' ++ two :: after') (keyOne : key one = some k)
    (keyTwo : key two = some k) : before = before' ∧ one = two ∧ after = after' := by
  -- In between there is the first entry, and its key comes again behind.
  have apart {early late left : List α} {x y : α} (keyX : key x = some k) (keyY : key y = some k)
      (parts : record = early ++ x :: (left ++ y :: late)) : False := by
    rw [parts] at once
    simp only [List.filterMap_append, List.filterMap_cons, keyX, keyY] at once
    have tail := (List.nodup_append.mp once).2.1
    exact (List.nodup_cons.mp tail).1 (List.mem_append_right _ List.mem_cons_self)
  obtain ⟨left, rfl, rest⟩ | ⟨left, rfl, rest⟩ :=
    List.append_eq_append_iff.mp (first.symm.trans second)
  · cases left with
    | nil =>
      obtain ⟨rfl, rfl⟩ := List.cons.inj rest
      exact ⟨(List.append_nil _).symm, rfl, rfl⟩
    | cons other left =>
      obtain ⟨rfl, behind⟩ := List.cons.inj rest
      exact (apart keyOne keyTwo (first.trans (congrArg (before ++ one :: ·) behind))).elim
  · cases left with
    | nil =>
      obtain ⟨rfl, rfl⟩ := List.cons.inj rest
      exact ⟨List.append_nil _, rfl, rfl⟩
    | cons other left =>
      obtain ⟨rfl, behind⟩ := List.cons.inj rest
      exact (apart keyTwo keyOne (second.trans (congrArg (before' ++ two :: ·) behind))).elim

/-- Members with one key are equal, when no two entries share a key. -/
theorem eq_of_key (once : (record.filterMap key).Nodup) (insideOne : one ∈ record)
    (insideTwo : two ∈ record) (keyOne : key one = some k) (keyTwo : key two = some k) :
    one = two := by
  obtain ⟨_, _, first⟩ := List.append_of_mem insideOne
  obtain ⟨_, _, second⟩ := List.append_of_mem insideTwo
  exact (same_place once first second keyOne keyTwo).2.1

/-- An entry whose key is found before another entry has its place before that entry. -/
theorem place_before {other : α} (once : (record.filterMap key).Nodup)
    (first : record = before ++ one :: after) (second : record = before' ++ other :: after')
    (inside : two ∈ before') (keyOne : key one = some k) (keyTwo : key two = some k) :
    ∃ between, before' = before ++ one :: between ∧ after = between ++ other :: after' := by
  obtain ⟨early, between, rfl⟩ := List.append_of_mem inside
  have third : record = early ++ two :: (between ++ other :: after') := by
    rw [second, List.append_assoc, List.cons_append]
  obtain ⟨rfl, rfl, rfl⟩ := same_place once first third keyOne keyTwo
  exact ⟨between, rfl, rfl⟩

/-- A record is split at the place of an entry. -/
theorem split_at {place : Nat} (there : record[place]? = some one) :
    ∃ before after, record = before ++ one :: after ∧ before.length = place := by
  obtain ⟨inside, rfl⟩ := List.getElem?_eq_some_iff.mp there
  refine ⟨record.take place, record.drop (place + 1), ?_,
    List.length_take_of_le (Nat.le_of_lt inside)⟩
  rw [← List.drop_eq_getElem_cons inside, List.take_append_drop]

/-- Entries with one key are at the same place, when no two entries share a key. -/
theorem place_unique {i j : Nat} (once : (record.filterMap key).Nodup)
    (first : record[i]? = some one) (second : record[j]? = some two) (keyOne : key one = some k)
    (keyTwo : key two = some k) : i = j := by
  obtain ⟨before, after, parts, rfl⟩ := split_at first
  obtain ⟨before', after', parts', rfl⟩ := split_at second
  rw [(same_place once parts parts' keyOne keyTwo).1]

end Keys

end Udp2raw
