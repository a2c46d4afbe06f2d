import Udp2raw.Data.BoundedBuffer
import Udp2raw.Fault
import Udp2raw.Misc
import Mathlib.Algebra.Group.Nat.Defs

/-!
# The buffers of the send path

Every function of the send path works in buffers of `buf_len` bytes on its stack. Here a write says
where it ends: one behind the end of its buffer, or a length outside its type, stops the send.
-/
namespace Udp2raw

/-- Why a send stopped. -/
inductive SendFault where
  /-- A write that ends behind its buffer, or a length that its type does not hold. -/
  | overflow (place : String)
  /-- Another reason. -/
  | fault (reason : Fault)
  deriving DecidableEq, Repr

/-- A computation of the send path. -/
abbrev SendExec (α : Type) := Except SendFault α

/-- A buffer of the send path. -/
abbrev SendBuffer := Buffer bufLen

/-- A buffer that is not initialised. -/
def SendBuffer.fresh (memory : Nat → UInt8) : SendBuffer := ⟨memory⟩

/-- `memcpy`, or the store of a field. -/
def SendBuffer.copy (buffer : SendBuffer) (place : Nat) (bytes : Bytes) (name : String) :
    SendExec SendBuffer :=
  if Buffer.Fits bufLen place bytes then .ok (buffer.put place bytes) else .error (.overflow name)

/-- A length in an `int`. -/
def intLen (length : Nat) : SendExec Nat :=
  if length < 2 ^ 31 then .ok length else .error (.overflow "int")

/-- A length in a field of sixteen bits. -/
def shortLen (length : Nat) : SendExec Nat :=
  if length < 2 ^ 16 then .ok length else .error (.overflow "uint16_t")

/-- A check of the program. -/
def checkSend (condition : Bool) (text : String) : SendExec Unit :=
  if condition then .ok () else .error (.fault (.assertion text))

variable {buffer : SendBuffer} {place length : Nat} {bytes : Bytes}

/-- A write that ends inside its buffer. -/
theorem SendBuffer.copy_ok (name : String) (fits : place + bytes.length ≤ bufLen) :
    buffer.copy place bytes name = .ok (buffer.put place bytes) := if_pos fits

/-- A length of a packet is an `int`. -/
theorem intLen_ok (small : length < 2 ^ 31) : intLen length = .ok length := if_pos small

/-- A length of a packet fits sixteen bits. -/
theorem shortLen_ok (small : length < 2 ^ 16) : shortLen length = .ok length := if_pos small

/-- A check that holds goes on, and one that does not stops the program as it does without the
buffers. -/
theorem checkSend_eq (condition : Bool) (text : String) :
    checkSend condition text = match assert condition text with
      | .ok value => .ok value
      | .error reason => .error (.fault reason) := by
  cases condition <;> rfl

/-- A step that computes a value, and what follows. -/
theorem SendExec.step {α β : Type} {first : SendExec α} {value : α} {next : α → SendExec β}
    {result : SendExec β} (computed : first = .ok value) (rest : next value = result) :
    first >>= next = result := by
  subst computed
  exact rest

end Udp2raw
