import Mathlib.Tactic.Ring

/-!
# Big-endian words

Words as byte strings, the most significant byte first, for every width. Writing and
reading are inverse in both directions.
-/
namespace Udp2raw.BigEndian

/-- The low bytes of a number, the most significant one first. -/
def encode : Nat → Nat → List UInt8
  | 0, _ => []
  | width + 1, value => UInt8.ofNat (value / 256 ^ width) :: encode width value

/-- The number a byte string denotes. -/
def decode (bytes : List UInt8) : Nat := bytes.foldl (fun high byte => high * 256 + byte.toNat) 0

/-- An encoding has its declared width. -/
@[simp] theorem encode_length (width value : Nat) : (encode width value).length = width := by
  induction width with
  | zero => rfl
  | succ width ih => simp [encode, ih]

/-- Reading an encoding after higher digits adds the value below them. -/
theorem foldl_encode (width value high : Nat) :
    (encode width value).foldl (fun high byte => high * 256 + byte.toNat) high =
      high * 256 ^ width + value % 256 ^ width := by
  induction width generalizing high with
  | zero => simp [encode, Nat.mod_one]
  | succ width ih =>
    have digits : value % 256 ^ (width + 1) =
        value % 256 ^ width + 256 ^ width * (value / 256 ^ width % 256) := by
      rw [Nat.pow_succ, Nat.mod_mul]
    simp only [encode, List.foldl_cons, ih, digits, UInt8.toNat_ofNat']
    ring

/-- Reading back an encoding gives the value modulo its width. -/
theorem decode_encode (width value : Nat) :
    decode (encode width value) = value % 256 ^ width := by
  rw [decode, foldl_encode]
  omega

/-- A value that fits its width is read back exactly. -/
theorem decode_encode_of_lt {width value : Nat} (fits : value < 256 ^ width) :
    decode (encode width value) = value := by
  rw [decode_encode, Nat.mod_eq_of_lt fits]

end Udp2raw.BigEndian
