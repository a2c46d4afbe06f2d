import Udp2raw.Lib.AesTables
import Udp2raw.Data.BlockModes

/-!
# The AES library

The functions of `aes.cpp` and of its `wrapper.cpp`: the key schedules for the three key
sizes, the block function with its table lookups, the two modes of operation, and the entry
points with their static contexts. A context's words are a list in the order they are
written; a pointer into them is a position.
-/
namespace Udp2raw.Aes

open BlockModes WordBytes

attribute [local instance] four_neZero sixteen_neZero

/-- A block of AES. -/
abbrev AesBuffer := Block 16

/-- `AES_ENCRYPT` and `AES_DECRYPT`. -/
inductive AesMode where
  /-- `AES_ENCRYPT`. -/
  | encrypt
  /-- `AES_DECRYPT`. -/
  | decrypt

/-- `aes_context`: the number of rounds and the words of the round keys. -/
structure AesContext where
  /-- `nr`. -/
  nr : Nat
  /-- The words at `rk`. -/
  rk : List UInt32

/-- `aes_init`: a context of zeros. -/
def aesInit : AesContext := ⟨0, []⟩

/-- `GET_UINT32_LE`. -/
def getUint32LE (buffer : List UInt8) (place : Nat) : UInt32 :=
  (buffer.getD place 0).toUInt32 |||
    ((buffer.getD (place + 1) 0).toUInt32 <<< 8) |||
    ((buffer.getD (place + 2) 0).toUInt32 <<< 16) |||
    ((buffer.getD (place + 3) 0).toUInt32 <<< 24)

/-- `PUT_UINT32_LE`. -/
def putUint32LE (word : UInt32) : List UInt8 :=
  [word.toUInt8, (word >>> 8).toUInt8, (word >>> 16).toUInt8, (word >>> 24).toUInt8]

/-! ### Key schedules -/

/-- The four substituted bytes of a word, moved to lower places by one. -/
def substitutedRotated (word : UInt32) : UInt32 :=
  (fsb.at (byteAt word 8)).toUInt32 ^^^
    ((fsb.at (byteAt word 16)).toUInt32 <<< 8) ^^^
    ((fsb.at (byteAt word 24)).toUInt32 <<< 16) ^^^
    ((fsb.at (byteAt word 0)).toUInt32 <<< 24)

/-- The four substituted bytes of a word. -/
def substituted (word : UInt32) : UInt32 :=
  (fsb.at (byteAt word 0)).toUInt32 ^^^
    ((fsb.at (byteAt word 8)).toUInt32 <<< 8) ^^^
    ((fsb.at (byteAt word 16)).toUInt32 <<< 16) ^^^
    ((fsb.at (byteAt word 24)).toUInt32 <<< 24)

/-- The body of the loop of `case 10`; `RK` points four words before the end. -/
def expand10 (words : List UInt32) (rcon : UInt32) : List UInt32 :=
  let RK (place : Nat) := words.getD (words.length - 4 + place) 0
  let rk4 := RK 0 ^^^ (rcon ^^^ substitutedRotated (RK 3))
  let rk5 := RK 1 ^^^ rk4
  let rk6 := RK 2 ^^^ rk5
  let rk7 := RK 3 ^^^ rk6
  words ++ [rk4, rk5, rk6, rk7]

/-- The body of the loop of `case 12`; `RK` points six words before the end. -/
def expand12 (words : List UInt32) (rcon : UInt32) : List UInt32 :=
  let RK (place : Nat) := words.getD (words.length - 6 + place) 0
  let rk6 := RK 0 ^^^ (rcon ^^^ substitutedRotated (RK 5))
  let rk7 := RK 1 ^^^ rk6
  let rk8 := RK 2 ^^^ rk7
  let rk9 := RK 3 ^^^ rk8
  let rk10 := RK 4 ^^^ rk9
  let rk11 := RK 5 ^^^ rk10
  words ++ [rk6, rk7, rk8, rk9, rk10, rk11]

/-- The body of the loop of `case 14`; `RK` points eight words before the end. -/
def expand14 (words : List UInt32) (rcon : UInt32) : List UInt32 :=
  let RK (place : Nat) := words.getD (words.length - 8 + place) 0
  let rk8 := RK 0 ^^^ (rcon ^^^ substitutedRotated (RK 7))
  let rk9 := RK 1 ^^^ rk8
  let rk10 := RK 2 ^^^ rk9
  let rk11 := RK 3 ^^^ rk10
  let rk12 := RK 4 ^^^ substituted rk11
  let rk13 := RK 5 ^^^ rk12
  let rk14 := RK 6 ^^^ rk13
  let rk15 := RK 7 ^^^ rk14
  words ++ [rk8, rk9, rk10, rk11, rk12, rk13, rk14, rk15]

/-- `aes_setkey_enc`; `none` is `POLARSSL_ERR_AES_INVALID_KEY_LENGTH`. -/
def aesSetkeyEnc (key : List UInt8) (keysize : Nat) : Option AesContext :=
  let start := (List.range (keysize >>> 5)).map fun i => getUint32LE key (i <<< 2)
  match keysize with
  | 128 => some ⟨10, rcons.foldl expand10 start⟩
  | 192 => some ⟨12, (rcons.take 8).foldl expand12 start⟩
  | 256 => some ⟨14, (rcons.take 7).foldl expand14 start⟩
  | _ => none

/-- A word of the decryption's key schedule. -/
def invertedWord (word : UInt32) : UInt32 :=
  rt0.at (fsb.at (byteAt word 0)) ^^^ rt1.at (fsb.at (byteAt word 8)) ^^^
    rt2.at (fsb.at (byteAt word 16)) ^^^ rt3.at (fsb.at (byteAt word 24))

/-- Four consecutive words from a position on. -/
def fourWords (words : List UInt32) (SK : Nat) : List UInt32 :=
  [words.getD SK 0, words.getD (SK + 1) 0, words.getD (SK + 2) 0, words.getD (SK + 3) 0]

/-- The loop of `aes_setkey_dec` over the inner round keys, with its counter and `SK`. -/
def invertLoop (words : List UInt32) : (i SK : Nat) → List UInt32
  | 0, _ => []
  | i + 1, SK => (fourWords words SK).map invertedWord ++ invertLoop words i (SK + 4 - 8)

/-- The decryption's context from the encryption's, which `aes_setkey_dec` fills first. -/
def invertedContext (cty : AesContext) : AesContext :=
  let SK := cty.nr * 4
  ⟨cty.nr, fourWords cty.rk SK ++ invertLoop cty.rk (cty.nr - 1) (SK + 4 - 8) ++
    fourWords cty.rk 0⟩

/-- `aes_setkey_dec`. -/
def aesSetkeyDec (key : List UInt8) (keysize : Nat) : Option AesContext :=
  (aesSetkeyEnc key keysize).map invertedContext

/-! ### The block function -/

/-- The four words `X0` to `X3`, or `Y0` to `Y3`. -/
structure Words where
  /-- The first word. -/
  w0 : UInt32
  /-- The second word. -/
  w1 : UInt32
  /-- The third word. -/
  w2 : UInt32
  /-- The fourth word. -/
  w3 : UInt32

/-- The sum of four words with the round key at a position. -/
def Words.addKey (rk : List UInt32) (RK : Nat) (x : Words) : Words where
  w0 := rk.getD RK 0 ^^^ x.w0
  w1 := rk.getD (RK + 1) 0 ^^^ x.w1
  w2 := rk.getD (RK + 2) 0 ^^^ x.w2
  w3 := rk.getD (RK + 3) 0 ^^^ x.w3

/-- One column of `AES_FROUND`, before its key is added. -/
def fcolumn (y0 y1 y2 y3 : UInt32) : UInt32 :=
  ft0.at (byteAt y0 0) ^^^ ft1.at (byteAt y1 8) ^^^
    ft2.at (byteAt y2 16) ^^^ ft3.at (byteAt y3 24)

/-- `AES_FROUND` with the round key at a position. -/
def aesFround (rk : List UInt32) (RK : Nat) (y : Words) : Words :=
  Words.addKey rk RK
    { w0 := fcolumn y.w0 y.w1 y.w2 y.w3
      w1 := fcolumn y.w1 y.w2 y.w3 y.w0
      w2 := fcolumn y.w2 y.w3 y.w0 y.w1
      w3 := fcolumn y.w3 y.w0 y.w1 y.w2 }

/-- One column of `AES_RROUND`, before its key is added. -/
def rcolumn (y0 y1 y2 y3 : UInt32) : UInt32 :=
  rt0.at (byteAt y0 0) ^^^ rt1.at (byteAt y1 8) ^^^
    rt2.at (byteAt y2 16) ^^^ rt3.at (byteAt y3 24)

/-- `AES_RROUND` with the round key at a position. -/
def aesRround (rk : List UInt32) (RK : Nat) (y : Words) : Words :=
  Words.addKey rk RK
    { w0 := rcolumn y.w0 y.w3 y.w2 y.w1
      w1 := rcolumn y.w1 y.w0 y.w3 y.w2
      w2 := rcolumn y.w2 y.w1 y.w0 y.w3
      w3 := rcolumn y.w3 y.w2 y.w1 y.w0 }

/-- One column of a last round under a byte substitution, before its key is added. -/
def lastColumn (sb : ByteTable UInt8) (y0 y1 y2 y3 : UInt32) : UInt32 :=
  (sb.at (byteAt y0 0)).toUInt32 ^^^
    ((sb.at (byteAt y1 8)).toUInt32 <<< 8) ^^^
    ((sb.at (byteAt y2 16)).toUInt32 <<< 16) ^^^
    ((sb.at (byteAt y3 24)).toUInt32 <<< 24)

/-- The last round of the encryption. -/
def lastFround (rk : List UInt32) (RK : Nat) (y : Words) : Words :=
  Words.addKey rk RK
    { w0 := lastColumn fsb y.w0 y.w1 y.w2 y.w3
      w1 := lastColumn fsb y.w1 y.w2 y.w3 y.w0
      w2 := lastColumn fsb y.w2 y.w3 y.w0 y.w1
      w3 := lastColumn fsb y.w3 y.w0 y.w1 y.w2 }

/-- The last round of the decryption. -/
def lastRround (rk : List UInt32) (RK : Nat) (y : Words) : Words :=
  Words.addKey rk RK
    { w0 := lastColumn rsb y.w0 y.w3 y.w2 y.w1
      w1 := lastColumn rsb y.w1 y.w0 y.w3 y.w2
      w2 := lastColumn rsb y.w2 y.w1 y.w0 y.w3
      w3 := lastColumn rsb y.w3 y.w2 y.w1 y.w0 }

/-- The loop over pairs of rounds, with its counter and `RK`. -/
def roundPairs (round : Nat → Words → Words) : (i RK : Nat) → Words → Words
  | 0, _, x => x
  | i + 1, RK, x =>
    let y := round RK x
    let x := round (RK + 4) y
    roundPairs round i (RK + 8) x

/-- The words of an input block. -/
def loadWords (input : AesBuffer) : Words where
  w0 := getUint32LE input.toList 0
  w1 := getUint32LE input.toList 4
  w2 := getUint32LE input.toList 8
  w3 := getUint32LE input.toList 12

/-- The block of four words. -/
def storeWords (x : Words) : AesBuffer :=
  blockOf 16 (putUint32LE x.w0 ++ putUint32LE x.w1 ++ putUint32LE x.w2 ++ putUint32LE x.w3)

/-- `aes_crypt_ecb`. -/
def aesCryptEcb (ctx : AesContext) (mode : AesMode) (input : AesBuffer) : AesBuffer :=
  let x := Words.addKey ctx.rk 0 (loadWords input)
  let pairs := (ctx.nr >>> 1) - 1
  let RK := 4 + 8 * pairs
  match mode with
  | .decrypt =>
    let x := roundPairs (aesRround ctx.rk) pairs 4 x
    let y := aesRround ctx.rk RK x
    storeWords (lastRround ctx.rk (RK + 4) y)
  | .encrypt =>
    let x := roundPairs (aesFround ctx.rk) pairs 4 x
    let y := aesFround ctx.rk RK x
    storeWords (lastFround ctx.rk (RK + 4) y)

/-! ### Modes of operation -/

/-- The encrypting loop of `aes_crypt_cbc`: the output and the last `iv`. -/
def cbcEncryptLoop (ctx : AesContext) (length : Nat) (iv : AesBuffer) (input : List UInt8) :
    List UInt8 × AesBuffer :=
  if 0 < length then
    let output := aesCryptEcb ctx .encrypt (xorBlock (blockOf 16 input) iv)
    let rest := cbcEncryptLoop ctx (length - 16) output (input.drop 16)
    (output.toList ++ rest.1, rest.2)
  else ([], iv)
termination_by length

/-- The decrypting loop of `aes_crypt_cbc`. -/
def cbcDecryptLoop (ctx : AesContext) (length : Nat) (iv : AesBuffer) (input : List UInt8) :
    List UInt8 × AesBuffer :=
  if 0 < length then
    let temp := blockOf 16 input
    let output := xorBlock (aesCryptEcb ctx .decrypt temp) iv
    let rest := cbcDecryptLoop ctx (length - 16) temp (input.drop 16)
    (output.toList ++ rest.1, rest.2)
  else ([], iv)
termination_by length

/-- `aes_crypt_cbc`; `none` is `POLARSSL_ERR_AES_INVALID_INPUT_LENGTH`. -/
def aesCryptCbc (ctx : AesContext) (mode : AesMode) (length : Nat) (iv : AesBuffer)
    (input : List UInt8) : Option (List UInt8 × AesBuffer) :=
  if length % 16 ≠ 0 then none
  else match mode with
    | .decrypt => some (cbcDecryptLoop ctx length iv input)
    | .encrypt => some (cbcEncryptLoop ctx length iv input)

/-- The feedback register with the place of its next byte: `iv` and `*iv_off`. -/
structure Feedback where
  /-- `iv`. -/
  iv : AesBuffer
  /-- `n`. -/
  n : Fin 16

/-- The register with its first place reached: it is encrypted there. -/
def Feedback.refresh (ctx : AesContext) (state : Feedback) : AesBuffer :=
  if state.n = 0 then aesCryptEcb ctx .encrypt state.iv else state.iv

/-- `n = ( n + 1 ) & 0x0F`. -/
def nextN (n : Fin 16) : Fin 16 :=
  Fin.ofNat 16 ((n.val + 1) &&& 0x0F)

/-- A byte written at a place of a block. -/
def storeByte {width : Nat} (block : Block width) (place : Fin width) (byte : UInt8) :
    Block width := block.set place byte place.isLt

/-- `aes_crypt_cfb128`: the output and the register it leaves. -/
def aesCryptCfb128 (ctx : AesContext) (mode : AesMode) (state : Feedback) :
    List UInt8 → List UInt8 × Feedback
  | [] => ([], state)
  | byte :: input =>
    let iv := state.refresh ctx
    match mode with
    | .decrypt =>
      let rest := aesCryptCfb128 ctx mode ⟨storeByte iv state.n byte, nextN state.n⟩ input
      ((byte ^^^ iv.get state.n) :: rest.1, rest.2)
    | .encrypt =>
      let output := iv.get state.n ^^^ byte
      let rest := aesCryptCfb128 ctx mode ⟨storeByte iv state.n output, nextN state.n⟩ input
      (output :: rest.1, rest.2)

/-! ### Entry points -/

/-- The static context of an entry point before a call with or without a key. -/
def keyed (setkey : List UInt8 → Nat → Option AesContext) (ctx : AesContext)
    (key : Option AesBuffer) : AesContext :=
  match key with
  | none => ctx
  | some key => (setkey key.toList 128).getD aesInit

/-- `AES_ECB_encrypt_buffer`: the output and the static context afterwards. -/
def aesEcbEncryptBuffer (ctx : AesContext) (input : AesBuffer) (key : Option AesBuffer) :
    AesBuffer × AesContext :=
  let ctx := keyed aesSetkeyEnc ctx key
  (aesCryptEcb ctx .encrypt input, ctx)

/-- `AES_ECB_decrypt_buffer`. -/
def aesEcbDecryptBuffer (ctx : AesContext) (input : AesBuffer) (key : Option AesBuffer) :
    AesBuffer × AesContext :=
  let ctx := keyed aesSetkeyDec ctx key
  (aesCryptEcb ctx .decrypt input, ctx)

/-- `AES_CBC_encrypt_buffer`; `none` is a failed assertion. -/
def aesCbcEncryptBuffer (ctx : AesContext) (input : List UInt8) (length : Nat)
    (key : Option AesBuffer) (iv : AesBuffer) : Option (List UInt8 × AesContext) :=
  let ctx := keyed aesSetkeyEnc ctx key
  (aesCryptCbc ctx .encrypt length iv input).map fun result => (result.1, ctx)

/-- `AES_CBC_decrypt_buffer`. -/
def aesCbcDecryptBuffer (ctx : AesContext) (input : List UInt8) (length : Nat)
    (key : Option AesBuffer) (iv : AesBuffer) : Option (List UInt8 × AesContext) :=
  let ctx := keyed aesSetkeyDec ctx key
  (aesCryptCbc ctx .decrypt length iv input).map fun result => (result.1, ctx)

/-- `AES_CFB_encrypt_buffer` on the bytes of a buffer. -/
def aesCfbEncryptBuffer (ctx : AesContext) (input : List UInt8) (key : Option AesBuffer)
    (iv : AesBuffer) : List UInt8 × AesContext :=
  let ctx := keyed aesSetkeyEnc ctx key
  ((aesCryptCfb128 ctx .encrypt ⟨iv, 0⟩ input).1, ctx)

/-- `AES_CFB_decrypt_buffer`: feedback uses the encryption's key schedule both ways. -/
def aesCfbDecryptBuffer (ctx : AesContext) (input : List UInt8) (key : Option AesBuffer)
    (iv : AesBuffer) : List UInt8 × AesContext :=
  let ctx := keyed aesSetkeyEnc ctx key
  ((aesCryptCfb128 ctx .decrypt ⟨iv, 0⟩ input).1, ctx)

end Udp2raw.Aes
