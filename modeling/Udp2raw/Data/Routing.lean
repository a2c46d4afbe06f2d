import Mathlib.Data.List.Basic
import Mathlib.Data.Nat.Bitwise

/-!
# Prefixes and next hops

A prefix of an address is what a mask with its ones in front leaves of it. A walk asks at
each place for the next hop and gives up after a number of rounds; it arrives exactly where
the path of the hops leads within these rounds, and never when the path comes back to a
place.
-/
namespace Udp2raw

/-- A mask whose ones stand in front keeps all but the last bits. -/
theorem land_highBits (width host address : Nat) (short : host ≤ width)
    (fits : address < 2 ^ width) :
    address &&& (2 ^ width - 2 ^ host) = 2 ^ host * (address / 2 ^ host) := by
  have split : 2 ^ width = 2 ^ host * 2 ^ (width - host) := by
    rw [← Nat.pow_add, Nat.add_sub_cancel' short]
  have mask : 2 ^ width - 2 ^ host = 2 ^ host * (2 ^ (width - host) - 1) := by
    rw [split, Nat.mul_sub, Nat.mul_one]
  apply Nat.eq_of_testBit_eq
  intro bit
  rw [mask, Nat.testBit_and, Nat.testBit_two_pow_mul, Nat.testBit_two_pow_mul,
    Nat.testBit_two_pow_sub_one, Nat.testBit_div_two_pow]
  by_cases low : bit < host
  · simp [Nat.not_le.mpr low]
  have place : bit - host + host = bit := Nat.sub_add_cancel (Nat.le_of_not_lt low)
  rw [place]
  by_cases high : bit < width
  · have inside : bit - host < width - host := by omega
    simp [inside, Nat.le_of_not_lt low]
  · have beyond : address.testBit bit = false :=
      Nat.testBit_lt_two_pow (Nat.lt_of_lt_of_le fits
        (Nat.pow_le_pow_right Nat.two_pos (Nat.le_of_not_lt high)))
    simp [beyond]

/-- Under such a mask two addresses agree exactly when their prefixes do. -/
theorem land_highBits_eq_iff (width host one other : Nat) (short : host ≤ width)
    (fitsOne : one < 2 ^ width) (fitsOther : other < 2 ^ width) :
    one &&& (2 ^ width - 2 ^ host) = other &&& (2 ^ width - 2 ^ host) ↔
      one / 2 ^ host = other / 2 ^ host := by
  rw [land_highBits width host one short fitsOne, land_highBits width host other short fitsOther]
  exact Nat.mul_right_inj (Nat.two_pow_pos host).ne'

/-- What a walk finds at a place. -/
inductive Hop (α β : Type) where
  /-- Nothing leads on from here. -/
  | stuck
  /-- The walk ends here. -/
  | arrived (goal : β)
  /-- The walk goes on. -/
  | next (place : α)

variable {α β : Type} {hop : α → Hop α β}

/-- A walk of at most a number of rounds. -/
def walk (hop : α → Hop α β) : Nat → α → Option β
  | 0, _ => none
  | rounds + 1, place =>
    match hop place with
    | .stuck => none
    | .arrived goal => some goal
    | .next place => walk hop rounds place

/-- So many hops lead from one place to another. -/
inductive Path (hop : α → Hop α β) : α → Nat → α → Prop where
  /-- No hop. -/
  | here (place : α) : Path hop place 0 place
  /-- One hop, then the others. -/
  | cons {place after last : α} {hops : Nat} (first : hop place = .next after)
      (rest : Path hop after hops last) : Path hop place (hops + 1) last

/-- The path from a place is the only one of its length. -/
theorem Path.unique {place one other : α} {hops : Nat} (left : Path hop place hops one)
    (right : Path hop place hops other) : one = other := by
  induction left with
  | here => cases right; rfl
  | cons first _ ih =>
    cases right with
    | cons second rest =>
      rw [first] at second
      cases second
      exact ih rest

/-- A path after a path. -/
theorem Path.append {place middle last : α} {hops more : Nat} (left : Path hop place hops middle)
    (right : Path hop middle more last) : Path hop place (hops + more) last := by
  induction left with
  | here => rwa [Nat.zero_add]
  | cons first _ ih =>
    rw [Nat.add_right_comm]
    exact .cons first (ih right)

/-- A walk that follows a path has that many rounds less to go. -/
theorem Path.walk_eq {place last : α} {hops : Nat} (path : Path hop place hops last)
    (rounds : Nat) : walk hop (hops + rounds) place = walk hop rounds last := by
  induction path with
  | here => rw [Nat.zero_add]
  | cons first _ ih =>
    rw [Nat.add_right_comm, walk, first]
    exact ih

/-- A walk arrives exactly where a path that is short enough ends. -/
theorem walk_eq_some_iff (rounds : Nat) (place : α) (goal : β) :
    walk hop rounds place = some goal ↔
      ∃ hops last, hops < rounds ∧ Path hop place hops last ∧ hop last = .arrived goal := by
  constructor
  · intro arrives
    induction rounds generalizing place with
    | zero => simp [walk] at arrives
    | succ rounds ih =>
      rw [walk] at arrives
      cases found : hop place with
      | stuck => simp [found] at arrives
      | arrived here =>
        rw [found] at arrives
        cases arrives
        exact ⟨0, place, Nat.succ_pos rounds, .here place, found⟩
      | next after =>
        rw [found] at arrives
        obtain ⟨hops, last, few, path, ends⟩ := ih after arrives
        exact ⟨hops + 1, last, Nat.succ_lt_succ few, .cons found path, ends⟩
  · rintro ⟨hops, last, few, path, ends⟩
    have left : rounds = hops + (rounds - hops - 1 + 1) := by omega
    rw [left, path.walk_eq, walk, ends]

/-- A walk comes to nothing exactly when its path gets stuck in time or is too long. -/
theorem walk_eq_none_iff (rounds : Nat) (place : α) :
    walk hop rounds place = none ↔
      (∃ hops last, hops < rounds ∧ Path hop place hops last ∧ hop last = .stuck) ∨
        ∃ last, Path hop place rounds last := by
  constructor
  · intro lost
    induction rounds generalizing place with
    | zero => exact .inr ⟨place, .here place⟩
    | succ rounds ih =>
      rw [walk] at lost
      cases found : hop place with
      | stuck => exact .inl ⟨0, place, Nat.succ_pos rounds, .here place, found⟩
      | arrived here => simp [found] at lost
      | next after =>
        rw [found] at lost
        obtain ⟨hops, last, few, path, ends⟩ | ⟨last, path⟩ := ih after lost
        · exact .inl ⟨hops + 1, last, Nat.succ_lt_succ few, .cons found path, ends⟩
        · exact .inr ⟨last, .cons found path⟩
  · rintro (⟨hops, last, few, path, ends⟩ | ⟨last, path⟩)
    · have left : rounds = hops + (rounds - hops - 1 + 1) := by omega
      rw [left, path.walk_eq, walk, ends]
    · rw [← Nat.add_zero rounds, path.walk_eq, walk]

/-- A walk that arrives still arrives with more rounds. -/
theorem walk_mono {rounds more : Nat} {place : α} {goal : β} (few : rounds ≤ more)
    (arrives : walk hop rounds place = some goal) : walk hop more place = some goal := by
  obtain ⟨hops, last, early, path, ends⟩ := (walk_eq_some_iff rounds place goal).mp arrives
  exact (walk_eq_some_iff more place goal).mpr
    ⟨hops, last, Nat.lt_of_lt_of_le early few, path, ends⟩

/-- A path that comes back to a place goes round as often as one likes. -/
theorem Path.goesRound {place : α} {hops : Nat} (round : Path hop place hops place)
    (times : Nat) : Path hop place (times * hops) place := by
  induction times with
  | zero => rw [Nat.zero_mul]; exact .here place
  | succ times ih => rw [Nat.succ_mul]; exact ih.append round

/-- A walk into a cycle comes to nothing, whatever its number of rounds. -/
theorem walk_cycle {place back : α} {hops length : Nat} (into : Path hop place hops back)
    (around : Path hop back (length + 1) back) (rounds : Nat) : walk hop rounds place = none := by
  cases arrives : walk hop rounds place with
  | none => rfl
  | some goal =>
    -- With more rounds the walk would arrive too, but they bring it back into the cycle.
    have far := into.append (around.goesRound rounds)
    have enough : rounds ≤ hops + rounds * (length + 1) + 1 := by
      have : rounds ≤ rounds * (length + 1) := Nat.le_mul_of_pos_right rounds (Nat.succ_pos length)
      omega
    have still := walk_mono enough arrives
    rw [far.walk_eq] at still
    cases around with
    | cons first _ => simp [walk, first] at still

end Udp2raw
