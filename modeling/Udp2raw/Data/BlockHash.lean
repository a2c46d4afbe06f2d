import Mathlib.Algebra.Group.Nat.Defs

/-!
# Hashing by blocks

A compression function absorbs a message block by block. What is left over at the end does
not count until more bytes come; a message is therefore absorbed in the same way however it
is cut. The padding of a message makes its length a whole number of blocks and ends with a
length field.
-/
namespace Udp2raw.BlockHash

variable {State Other : Type}

/-- The state after a number of blocks. -/
def absorbBlocks (compress : State → List UInt8 → State) (width : Nat) :
    Nat → State → List UInt8 → State
  | 0, state, _ => state
  | count + 1, state, data =>
    absorbBlocks compress width count (compress state (data.take width)) (data.drop width)

/-- The state after the whole blocks of a message. -/
def absorb (compress : State → List UInt8 → State) (width : Nat) (state : State)
    (data : List UInt8) : State :=
  absorbBlocks compress width (data.length / width) state data

/-- The bytes behind the whole blocks of a message. -/
def residue (width : Nat) (data : List UInt8) : List UInt8 :=
  data.drop (data.length / width * width)

section

variable {compress : State → List UInt8 → State} {width : Nat}

/-- The residue is shorter than a block. -/
theorem residue_length (data : List UInt8) :
    (residue width data).length = data.length % width := by
  have split := Nat.div_add_mod data.length width
  rw [Nat.mul_comm] at split
  rw [residue, List.length_drop]
  omega

/-- Less than a block changes nothing. -/
theorem absorb_short (state : State) (data : List UInt8) (short : data.length < width) :
    absorb compress width state data = state := by
  rw [absorb, Nat.div_eq_of_lt short]
  rfl

/-- Less than a block is its own residue. -/
theorem residue_short (data : List UInt8) (short : data.length < width) :
    residue width data = data := by
  rw [residue, Nat.div_eq_of_lt short]
  simp

/-- A leading block is absorbed first. -/
theorem absorb_block (positive : 0 < width) (state : State) (block rest : List UInt8)
    (full : block.length = width) : absorb compress width state (block ++ rest) =
      absorb compress width (compress state block) rest := by
  have count : (block ++ rest).length / width = rest.length / width + 1 := by
    rw [List.length_append, full, Nat.add_comm, Nat.add_div_right _ positive]
  have first : (block ++ rest).take width = block := by rw [← full, List.take_left]
  have after : (block ++ rest).drop width = rest := by rw [← full, List.drop_left]
  rw [absorb, count, absorbBlocks, first, after]
  rfl

/-- A leading block leaves the residue behind it. -/
theorem residue_block (positive : 0 < width) (block rest : List UInt8)
    (full : block.length = width) : residue width (block ++ rest) = residue width rest := by
  have count : (block ++ rest).length / width = rest.length / width + 1 := by
    rw [List.length_append, full, Nat.add_comm, Nat.add_div_right _ positive]
  have after : (block ++ rest).drop width = rest := by rw [← full, List.drop_left]
  rw [residue, count, Nat.succ_mul, Nat.add_comm, ← List.drop_drop, after, residue]

/-- A message is absorbed up to any cut between blocks first. -/
theorem absorb_append (positive : 0 < width) (state : State) (front back : List UInt8)
    (whole : front.length % width = 0) : absorb compress width state (front ++ back) =
      absorb compress width (absorb compress width state front) back ∧
      residue width (front ++ back) = residue width back := by
  obtain ⟨count, length⟩ := Nat.dvd_of_mod_eq_zero whole
  induction count generalizing state front with
  | zero =>
    have empty : front = [] := List.eq_nil_of_length_eq_zero (by simpa using length)
    rw [empty, absorb_short state [] positive]
    exact ⟨rfl, rfl⟩
  | succ count ih =>
    rw [Nat.mul_succ] at length
    have full : (front.take width).length = width := by
      rw [List.length_take]
      omega
    have rest : (front.drop width).length = width * count := by
      rw [List.length_drop]
      omega
    have whole : (front.drop width).length % width = 0 := by
      rw [rest, Nat.mul_mod_right]
    have later := ih (compress state (front.take width)) (front.drop width) whole rest
    have split : front = front.take width ++ front.drop width := (List.take_append_drop _ _).symm
    constructor
    · calc absorb compress width state (front ++ back)
          = absorb compress width state (front.take width ++ (front.drop width ++ back)) := by
            rw [← List.append_assoc, ← split]
        _ = absorb compress width (compress state (front.take width)) (front.drop width ++ back) :=
            absorb_block positive state _ _ full
        _ = absorb compress width
              (absorb compress width (compress state (front.take width)) (front.drop width)) back :=
            later.1
        _ = absorb compress width (absorb compress width state front) back := by
            rw [← absorb_block positive state _ _ full, ← split]
    · calc residue width (front ++ back)
          = residue width (front.take width ++ (front.drop width ++ back)) := by
            rw [← List.append_assoc, ← split]
        _ = residue width (front.drop width ++ back) := residue_block positive _ _ full
        _ = residue width back := later.2

/-- The residue of what came before is absorbed with what comes. -/
theorem absorb_more (positive : 0 < width) (state : State) (front back : List UInt8) :
    absorb compress width state (front ++ back) =
      absorb compress width (absorb compress width state front) (residue width front ++ back) ∧
      residue width (front ++ back) = residue width (residue width front ++ back) := by
  have length : (front.take (front.length / width * width)).length =
      front.length / width * width := by
    rw [List.length_take]
    have le := Nat.div_mul_le_self front.length width
    omega
  have whole : (front.take (front.length / width * width)).length % width = 0 := by
    rw [length, Nat.mul_mod_left]
  have short : (residue width front).length < width := by
    rw [residue_length]
    exact Nat.mod_lt _ positive
  have split : front = front.take (front.length / width * width) ++ residue width front :=
    (List.take_append_drop _ _).symm
  have alone := (@absorb_append _ compress _ positive state _ (residue width front) whole).1
  have both := @absorb_append _ compress _ positive state
    (front.take (front.length / width * width)) (residue width front ++ back) whole
  rw [absorb_short _ _ short, ← split] at alone
  rw [← List.append_assoc, ← split, ← alone] at both
  exact both

/-- Absorption commutes with a map of states that the compression respects. -/
theorem absorb_map (view : State → Other) (other : Other → List UInt8 → Other)
    (respects : ∀ state block, block.length = width →
      view (compress state block) = other (view state) block)
    (state : State) (data : List UInt8) :
    view (absorb compress width state data) = absorb other width (view state) data := by
  have blocks (count : Nat) : ∀ (state : State) (data : List UInt8), count * width ≤ data.length →
      view (absorbBlocks compress width count state data) =
        absorbBlocks other width count (view state) data := by
    induction count with
    | zero =>
      intro state data long
      rfl
    | succ count ih =>
      intro state data long
      rw [Nat.succ_mul] at long
      have full : (data.take width).length = width := by
        rw [List.length_take]
        omega
      have rest : count * width ≤ (data.drop width).length := by
        rw [List.length_drop]
        omega
      rw [absorbBlocks, absorbBlocks, ih _ _ rest, respects _ _ full]
  exact blocks (data.length / width) state data (Nat.div_mul_le_self _ _)

end

/-- The bytes behind a message of some length: a set bit, zeros up to eight bytes before the
end of a block, and the field of the length in bits. -/
def paddingOf (field : Nat → List UInt8) (length : Nat) : List UInt8 :=
  0x80 :: List.replicate ((119 - length % 64) % 64) 0 ++ field (8 * length)

/-- The digest of a message: its padded blocks absorbed from a start, and read out. -/
def digest (compress : State → List UInt8 → State) (field : Nat → List UInt8) (start : State)
    (output : State → List UInt8) (message : List UInt8) : List UInt8 :=
  output (absorb compress 64 start (message ++ paddingOf field message.length))

end Udp2raw.BlockHash
