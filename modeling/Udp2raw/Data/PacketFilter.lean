import Mathlib.Data.Nat.Bitwise

/-!
# Classic packet filters

The instructions of the classic Berkeley packet filter that simple programs use, by their opcodes.
A program gets a packet and returns how many bytes of it are accepted; none for a load behind the
end of the packet. Jumps go forward only, so that every program ends.
-/
namespace Udp2raw.PacketFilter

/-- An instruction: an opcode, two jump distances and an operand. -/
structure Instruction where
  /-- The opcode. -/
  code : Nat
  /-- The distance of the jump if the condition holds. -/
  jt : Nat
  /-- The distance of the jump if it does not. -/
  jf : Nat
  /-- The operand. -/
  k : Nat
  deriving DecidableEq, Repr

/-- A program. -/
abbrev Filter := List Instruction

/-- Two bytes of a packet, in network order. -/
def half (packet : List UInt8) (offset : Nat) : Option Nat :=
  match packet[offset]?, packet[offset + 1]? with
  | some high, some low => some (256 * high.toNat + low.toNat)
  | _, _ => none

/-- Run a program with an accumulator and an index register; no result for a program that is not
valid. -/
def exec (packet : List UInt8) (program : Filter) (a x : Nat) : Option Nat :=
  match program with
  | [] => none
  | instruction :: rest =>
    match instruction.code with
    -- load a byte, or two, from the packet
    | 0x30 =>
      match packet[instruction.k]? with
      | none => some 0
      | some byte => exec packet rest byte.toNat x
    | 0x28 =>
      match half packet instruction.k with
      | none => some 0
      | some word => exec packet rest word x
    | 0x48 =>
      match half packet (x + instruction.k) with
      | none => some 0
      | some word => exec packet rest word x
    -- four times the low half of a byte goes into the index register
    | 0xb1 =>
      match packet[instruction.k]? with
      | none => some 0
      | some byte => exec packet rest a (4 * (byte.toNat % 16))
    -- jump on equality, or on a common bit
    | 0x15 =>
      exec packet (rest.drop (if a = instruction.k then instruction.jt else instruction.jf)) a x
    | 0x45 =>
      exec packet
        (rest.drop (if a &&& instruction.k ≠ 0 then instruction.jt else instruction.jf)) a x
    -- return
    | 0x06 => some instruction.k
    | _ => none
  termination_by program.length

/-- What a program accepts of a packet. -/
def accepts (program : Filter) (packet : List UInt8) : Option Nat := exec packet program 0 0

section Steps

variable {packet : List UInt8} {rest : Filter} {a x jt jf k : Nat}

/-- Loading a byte. -/
theorem exec_byte : exec packet (⟨0x30, jt, jf, k⟩ :: rest) a x =
    (packet[k]?.elim (some 0) fun byte => exec packet rest byte.toNat x) := by
  rw [exec]
  cases packet[k]? <;> rfl

/-- Loading two bytes. -/
theorem exec_half : exec packet (⟨0x28, jt, jf, k⟩ :: rest) a x =
    ((half packet k).elim (some 0) fun word => exec packet rest word x) := by
  rw [exec]
  cases half packet k <;> rfl

/-- Loading two bytes behind the index. -/
theorem exec_indexed : exec packet (⟨0x48, jt, jf, k⟩ :: rest) a x =
    ((half packet (x + k)).elim (some 0) fun word => exec packet rest word x) := by
  rw [exec]
  cases half packet (x + k) <;> rfl

/-- Setting the index. -/
theorem exec_index : exec packet (⟨0xb1, jt, jf, k⟩ :: rest) a x =
    (packet[k]?.elim (some 0) fun byte => exec packet rest a (4 * (byte.toNat % 16))) := by
  rw [exec]
  cases packet[k]? <;> rfl

/-- Jumping on equality. -/
theorem exec_equal : exec packet (⟨0x15, jt, jf, k⟩ :: rest) a x =
    if a = k then exec packet (rest.drop jt) a x else exec packet (rest.drop jf) a x := by
  rw [exec]
  by_cases same : a = k
  · simp only [if_pos same]
  · simp only [if_neg same]

/-- Jumping on a common bit. -/
theorem exec_common : exec packet (⟨0x45, jt, jf, k⟩ :: rest) a x =
    if a &&& k ≠ 0 then exec packet (rest.drop jt) a x else exec packet (rest.drop jf) a x := by
  rw [exec]
  by_cases common : a &&& k ≠ 0
  · simp only [if_pos common]
  · simp only [if_neg common]

/-- Returning. -/
theorem exec_return : exec packet (⟨0x06, jt, jf, k⟩ :: rest) a x = some k := by
  rw [exec]
  rfl

end Steps

end Udp2raw.PacketFilter
