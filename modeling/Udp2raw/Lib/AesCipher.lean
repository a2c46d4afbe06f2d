import Udp2raw.Lib.AesColumns

/-!
# The AES library computes Rijndael

A round of the library is a round of the cipher on the columns of its words. So the block
function is the cipher of alternating layers one way and the inverse cipher the other way,
under the round keys that the context holds.
-/
namespace Udp2raw.Aes

open BlockModes WordBytes RoundCipher Rijndael

attribute [local instance] four_neZero sixteen_neZero

/-! ### Rounds -/

/-- The word at a place. -/
def Words.at (x : Words) (place : Fin 4) : UInt32 :=
  if place = 0 then x.w0 else if place = 1 then x.w1 else if place = 2 then x.w2 else x.w3

/-- The state of the cipher in four words. -/
def Words.square (x : Words) : Square := fun place => bytesOf (x.at place)

/-- The state of the cipher in a block. -/
def squareOf (block : AesBuffer) : Square := fun place row =>
  block.toList.getD (4 * place.val + row.val) 0

/-- The words of a context as columns. -/
def AesContext.columns (ctx : AesContext) : Nat → Column := fun place =>
  bytesOf (ctx.rk.getD place 0)

/-- Adding a round key to words adds it to the state. -/
theorem square_addKey (ctx : AesContext) (round : Nat) (x : Words) :
    (Words.addKey ctx.rk (4 * round) x).square =
      (layers sbox).add x.square (roundKey ctx.columns round) := by
  have swap (left right : UInt32) : bytesOf (left ^^^ right) =
      Column.add (bytesOf right) (bytesOf left) := by
    rw [bytesOf_add]
    funext row
    exact UInt8.xor_comm _ _
  funext place
  rcases row_cases place with rfl | rfl | rfl | rfl <;> exact swap _ _

/-- `AES_FROUND` is a round of the cipher. -/
theorem square_aesFround (ctx : AesContext) (round : Nat) (y : Words) :
    (aesFround ctx.rk (4 * round) y).square = (layers sbox).add
      ((layers sbox).mix ((layers sbox).substitute y.square)) (roundKey ctx.columns round) := by
  rw [aesFround, square_addKey]
  congr 1
  funext place
  have column (y0 y1 y2 y3 : UInt32) (rows : Column)
      (same : ∀ row, rows row = pick (fsb.at (bytesOf y0 0)) (fsb.at (bytesOf y1 1))
        (fsb.at (bytesOf y2 2)) (fsb.at (bytesOf y3 3)) row) :
      bytesOf (fcolumn y0 y1 y2 y3) = mixColumn rows := by
    rw [bytesOf_fcolumn, ← funext same]
  rcases row_cases place with rfl | rfl | rfl | rfl <;> apply column <;> intro row <;>
    rcases row_cases row with rfl | rfl | rfl | rfl <;> rfl

/-- `AES_RROUND` is a round of the inverse cipher. -/
theorem square_aesRround (ctx : AesContext) (round : Nat) (y : Words) :
    (aesRround ctx.rk (4 * round) y).square = (layers sbox).inverse.add
      ((layers sbox).inverse.mix ((layers sbox).inverse.substitute y.square))
      (roundKey ctx.columns round) := by
  rw [aesRround, square_addKey]
  show (layers sbox).add _ _ = (layers sbox).add _ _
  congr 1
  funext place
  have column (y0 y1 y2 y3 : UInt32) (rows : Column)
      (same : ∀ row, rows row = pick (rsb.at (bytesOf y0 0)) (rsb.at (bytesOf y1 1))
        (rsb.at (bytesOf y2 2)) (rsb.at (bytesOf y3 3)) row) :
      bytesOf (rcolumn y0 y1 y2 y3) = unmixColumn rows := by
    rw [bytesOf_rcolumn, ← funext same]
  rcases row_cases place with rfl | rfl | rfl | rfl <;> apply column <;> intro row <;>
    rcases row_cases row with rfl | rfl | rfl | rfl <;> rfl

/-- The last round of the encryption only substitutes. -/
theorem square_lastFround (ctx : AesContext) (round : Nat) (y : Words) :
    (lastFround ctx.rk (4 * round) y).square =
      (layers sbox).add ((layers sbox).substitute y.square) (roundKey ctx.columns round) := by
  rw [lastFround, square_addKey]
  congr 1
  funext place row
  rcases row_cases place with rfl | rfl | rfl | rfl <;>
    rcases row_cases row with rfl | rfl | rfl | rfl <;>
    exact congrFun (bytesOf_lastColumn fsb _ _ _ _) _

/-- The last round of the decryption only substitutes. -/
theorem square_lastRround (ctx : AesContext) (round : Nat) (y : Words) :
    (lastRround ctx.rk (4 * round) y).square = (layers sbox).inverse.add
      ((layers sbox).inverse.substitute y.square) (roundKey ctx.columns round) := by
  rw [lastRround, square_addKey]
  show (layers sbox).add _ _ = (layers sbox).add _ _
  congr 1
  funext place row
  rcases row_cases place with rfl | rfl | rfl | rfl <;>
    rcases row_cases row with rfl | rfl | rfl | rfl <;>
    exact congrFun (bytesOf_lastColumn rsb _ _ _ _) _

/-- Pairs of rounds from a reached round on are rounds of the cipher. -/
theorem square_roundPairs (cipher : Layers Square) (keys : Nat → Square) (start : Square)
    (round : Nat → Words → Words)
    (step : ∀ number y, (round (4 * number) y).square =
      cipher.add (cipher.mix (cipher.substitute y.square)) (keys number))
    (i done : Nat) (x : Words) (reached : x.square = cipher.rounds keys done start) :
    (roundPairs round i (4 * (done + 1)) x).square =
      cipher.rounds keys (done + 2 * i) start := by
  induction i generalizing done x with
  | zero => exact reached
  | succ i ih =>
    have one : (round (4 * (done + 1)) x).square = cipher.rounds keys (done + 1) start := by
      rw [step, reached]
      rfl
    have two : (round (4 * (done + 1) + 4) (round (4 * (done + 1)) x)).square =
        cipher.rounds keys (done + 2) start := by
      have place : 4 * (done + 1) + 4 = 4 * (done + 2) := by omega
      rw [place, step, one]
      rfl
    have later := ih (done + 2) _ two
    have place : 4 * (done + 1) + 8 = 4 * (done + 2 + 1) := by omega
    have count : done + 2 * (i + 1) = done + 2 + 2 * i := by omega
    rw [roundPairs, place, count]
    exact later

/-! ### Blocks -/

/-- The words of a block have its bytes. -/
theorem square_loadWords (input : AesBuffer) : (loadWords input).square = squareOf input := by
  have word (place : Nat) (row : Fin 4) : bytesOf (getUint32LE input.toList place) row =
      input.toList.getD (place + row.val) 0 := by
    rw [getUint32LE, ← ofBytes, bytesOf_ofBytes]
    rcases row_cases row with rfl | rfl | rfl | rfl <;> rfl
  funext place row
  rcases row_cases place with rfl | rfl | rfl | rfl <;> exact word _ row

/-- A block is determined by its state. -/
theorem squareOf_injective {left right : AesBuffer} (same : squareOf left = squareOf right) :
    left = right := by
  apply Vector.ext
  intro place inside
  have column : place / 4 < 4 := by omega
  have row : place % 4 < 4 := by omega
  have split : 4 * (place / 4) + place % 4 = place := by omega
  have read := congrFun (congrFun same ⟨place / 4, column⟩) ⟨place % 4, row⟩
  simp only [squareOf, split] at read
  simpa [List.getD_eq_getElem?_getD, inside] using read

/-- The four stored bytes of a word. -/
theorem putUint32LE_eq (word : UInt32) :
    putUint32LE word = [bytesOf word 0, bytesOf word 1, bytesOf word 2, bytesOf word 3] := by
  have stored (row : Fin 4) := toUInt8_shiftRight word row
  have first : word.toUInt8 = bytesOf word 0 := by
    rw [← stored 0]
    have still : word >>> shiftOf 0 = word := UInt32.shiftRight_zero
    rw [still]
  rw [putUint32LE, first, ← stored 1, ← stored 2, ← stored 3]
  rfl

/-- The block of four words has their state. -/
theorem squareOf_storeWords (x : Words) : squareOf (storeWords x) = x.square := by
  have stored : (storeWords x).toList =
      putUint32LE x.w0 ++ putUint32LE x.w1 ++ putUint32LE x.w2 ++ putUint32LE x.w3 := by
    have length : (putUint32LE x.w0 ++ putUint32LE x.w1 ++ putUint32LE x.w2 ++
        putUint32LE x.w3).length = 16 := rfl
    rw [storeWords, blockOf_toList _ (by omega), ← length, List.take_length]
  funext place row
  rw [squareOf, stored, putUint32LE_eq, putUint32LE_eq, putUint32LE_eq, putUint32LE_eq]
  rcases row_cases place with rfl | rfl | rfl | rfl <;>
    rcases row_cases row with rfl | rfl | rfl | rfl <;> rfl

/-- Encrypting a block is the cipher with the context's keys. -/
theorem aesCryptEcb_encrypt (ctx : AesContext) (pairs : Nat) (even : ctx.nr = 2 * pairs + 2)
    (input : AesBuffer) : squareOf (aesCryptEcb ctx .encrypt input) =
      (layers sbox).encrypt (ctx.nr - 1) (roundKey ctx.columns) (squareOf input) := by
  have half : (ctx.nr >>> 1) - 1 = pairs := by
    rw [Nat.shiftRight_eq_div_pow]
    omega
  have start : (Words.addKey ctx.rk 0 (loadWords input)).square =
      (layers sbox).rounds (roundKey ctx.columns) 0
        ((layers sbox).add (squareOf input) (roundKey ctx.columns 0)) := by
    have added := square_addKey ctx 0 (loadWords input)
    rw [square_loadWords] at added
    exact added
  have paired := square_roundPairs (layers sbox) (roundKey ctx.columns) _ (aesFround ctx.rk)
    (square_aesFround ctx) pairs 0 _ start
  have place : 4 + 8 * pairs = 4 * (2 * pairs + 1) := by omega
  have last : 4 * (2 * pairs + 1) + 4 = 4 * (2 * pairs + 2) := by omega
  have rounds : ctx.nr - 1 = 2 * pairs + 1 := by omega
  simp only [aesCryptEcb, half, squareOf_storeWords, rounds, Layers.encrypt]
  rw [place, last, square_lastFround, square_aesFround]
  simp only [Nat.zero_add, Nat.mul_one] at paired
  rw [paired]
  rfl

/-- Decrypting a block is the inverse cipher with the context's keys. -/
theorem aesCryptEcb_decrypt (ctx : AesContext) (pairs : Nat) (even : ctx.nr = 2 * pairs + 2)
    (input : AesBuffer) : squareOf (aesCryptEcb ctx .decrypt input) =
      (layers sbox).inverse.encrypt (ctx.nr - 1) (roundKey ctx.columns) (squareOf input) := by
  have half : (ctx.nr >>> 1) - 1 = pairs := by
    rw [Nat.shiftRight_eq_div_pow]
    omega
  have start : (Words.addKey ctx.rk 0 (loadWords input)).square =
      (layers sbox).inverse.rounds (roundKey ctx.columns) 0
        ((layers sbox).inverse.add (squareOf input) (roundKey ctx.columns 0)) := by
    have added := square_addKey ctx 0 (loadWords input)
    rw [square_loadWords] at added
    exact added
  have paired := square_roundPairs (layers sbox).inverse (roundKey ctx.columns) _
    (aesRround ctx.rk) (square_aesRround ctx) pairs 0 _ start
  have place : 4 + 8 * pairs = 4 * (2 * pairs + 1) := by omega
  have last : 4 * (2 * pairs + 1) + 4 = 4 * (2 * pairs + 2) := by omega
  have rounds : ctx.nr - 1 = 2 * pairs + 1 := by omega
  simp only [aesCryptEcb, half, squareOf_storeWords, rounds, Layers.encrypt]
  rw [place, last, square_lastRround, square_aesRround]
  simp only [Nat.zero_add, Nat.mul_one] at paired
  rw [paired]
  rfl

end Udp2raw.Aes
