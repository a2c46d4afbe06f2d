import Mathlib.Data.List.Basic

/-!
# Buffers of a fixed size

Memory that is written piece by piece. A piece replaces the bytes of its range and no other, so
what a range holds after a write is read off from the places of the two ranges.
-/
namespace Udp2raw

/-- Memory for a number of bytes. -/
structure Buffer (size : Nat) where
  /-- The byte at each place. -/
  content : Nat → UInt8

namespace Buffer

variable {size : Nat} (buffer : Buffer size)

/-- The bytes of a range. -/
def bytes (place length : Nat) : List UInt8 :=
  (List.range length).map fun distance => buffer.content (place + distance)

/-- A piece is written. -/
def put (place : Nat) (piece : List UInt8) : Buffer size where
  content at_ :=
    if place ≤ at_ then piece.getD (at_ - place) (buffer.content at_) else buffer.content at_

/-- A piece ends inside the buffer. -/
def Fits (size place : Nat) (piece : List UInt8) : Prop := place + piece.length ≤ size

instance (size place : Nat) (piece : List UInt8) : Decidable (Fits size place piece) :=
  inferInstanceAs (Decidable (_ ≤ _))

/-- A range has its length. -/
@[simp] theorem length_bytes (place length : Nat) :
    (buffer.bytes place length).length = length := by
  simp [bytes]

/-- The byte at a distance in a range. -/
@[simp] theorem getElem_bytes (place length : Nat) {distance : Nat}
    (inside : distance < (buffer.bytes place length).length) :
    (buffer.bytes place length)[distance] = buffer.content (place + distance) := by
  simp [bytes]

/-- A range in two parts. -/
theorem bytes_add (place first second : Nat) :
    buffer.bytes place (first + second) =
      buffer.bytes place first ++ buffer.bytes (place + first) second := by
  simp [bytes, List.range_add, Nat.add_assoc]

/-- A byte of a piece that was written. -/
theorem content_put_of_lt {place : Nat} {piece : List UInt8} {distance : Nat}
    (inside : distance < piece.length) :
    (buffer.put place piece).content (place + distance) = piece[distance] := by
  simp [put, List.getD_eq_getElem?_getD, List.getElem?_eq_getElem inside]

/-- The bytes before a piece stay. -/
theorem content_put_before {place : Nat} {piece : List UInt8} {other : Nat}
    (before : other < place) : (buffer.put place piece).content other = buffer.content other :=
  if_neg (Nat.not_le.mpr before)

/-- The bytes behind a piece stay. -/
theorem content_put_behind {place : Nat} {piece : List UInt8} {other : Nat}
    (behind : place + piece.length ≤ other) :
    (buffer.put place piece).content other = buffer.content other := by
  have outside : piece.length ≤ other - place := by omega
  simp [put, List.getD_eq_getElem?_getD, List.getElem?_eq_none outside]

/-- The range of a piece holds the piece. -/
theorem bytes_put (place : Nat) (piece : List UInt8) :
    (buffer.put place piece).bytes place piece.length = piece := by
  apply List.ext_getElem
  · simp
  · intro distance _ inside
    rw [getElem_bytes, content_put_of_lt _ inside]

/-- A range before a piece stays. -/
theorem bytes_put_before {place from_ length : Nat} {piece : List UInt8}
    (before : from_ + length ≤ place) :
    (buffer.put place piece).bytes from_ length = buffer.bytes from_ length := by
  apply List.ext_getElem
  · simp
  · intro distance inside _
    rw [length_bytes] at inside
    rw [getElem_bytes, getElem_bytes, content_put_before _ (by omega)]

/-- A range behind a piece stays. -/
theorem bytes_put_behind {place from_ length : Nat} {piece : List UInt8}
    (behind : place + piece.length ≤ from_) :
    (buffer.put place piece).bytes from_ length = buffer.bytes from_ length := by
  apply List.ext_getElem
  · simp
  · intro distance inside _
    rw [getElem_bytes, getElem_bytes, content_put_behind _ (by omega)]

/-- A piece behind a range makes the range longer. -/
theorem bytes_put_append (place length : Nat) (piece : List UInt8) :
    (buffer.put (place + length) piece).bytes place (length + piece.length) =
      buffer.bytes place length ++ piece := by
  rw [bytes_add, bytes_put_before _ (Nat.le_refl _), bytes_put]

/-- A piece behind what the start of the buffer holds. -/
theorem bytes_put_end {length : Nat} {front : List UInt8} {buffer : Buffer size}
    (held : buffer.bytes 0 length = front) (piece : List UInt8) :
    (buffer.put length piece).bytes 0 (length + piece.length) = front ++ piece := by
  have appended := buffer.bytes_put_append 0 length piece
  rwa [Nat.zero_add, held] at appended

/-- A piece inside a range replaces a part of it. -/
theorem bytes_put_inside (place before after : Nat) (piece : List UInt8) :
    (buffer.put (place + before) piece).bytes place (before + piece.length + after) =
      buffer.bytes place before ++ piece ++
        buffer.bytes (place + before + piece.length) after := by
  rw [bytes_add, bytes_put_append, bytes_put_behind _ (by omega), Nat.add_assoc]

/-- The start of a range. -/
theorem take_bytes (place : Nat) {length count : Nat} (short : count ≤ length) :
    (buffer.bytes place length).take count = buffer.bytes place count := by
  rw [← Nat.add_sub_cancel' short, bytes_add, List.take_left' (length_bytes _ _ _)]

/-- The rest of a range. -/
theorem drop_bytes (place : Nat) {length count : Nat} (short : count ≤ length) :
    (buffer.bytes place length).drop count = buffer.bytes (place + count) (length - count) := by
  nth_rewrite 1 [← Nat.add_sub_cancel' short]
  rw [bytes_add, List.drop_left' (length_bytes _ _ _)]

/-- A piece inside the range from the start replaces a part of what the range holds. -/
theorem bytes_put_splice {before length : Nat} {piece front back : List UInt8} (middle : List UInt8)
    (held : buffer.bytes 0 length = front ++ middle ++ back) (place : front.length = before)
    (size : piece.length = middle.length) :
    (buffer.put before piece).bytes 0 length = front ++ piece ++ back := by
  have total : before + piece.length + back.length = length := by
    have whole := congrArg List.length held
    simp only [length_bytes, List.length_append] at whole
    omega
  have parts := buffer.bytes_put_inside 0 before back.length piece
  have start := buffer.take_bytes 0 (show before ≤ length by omega)
  have rest := buffer.drop_bytes 0 (show before + piece.length ≤ length by omega)
  rw [held, List.append_assoc, List.take_left' place] at start
  rw [held, List.drop_left' (by rw [List.length_append]; omega),
    show length - (before + piece.length) = back.length by omega, ← Nat.add_assoc] at rest
  rw [Nat.zero_add, total] at parts
  rw [Nat.zero_add] at rest
  rw [parts, ← start, ← rest]

end Buffer

end Udp2raw
